import Mathlib.Tactic.IntervalCases
import Mathlib.Tactic.SplitIfs
import LintMend.Text.Utf8

/-!
# Encoded texts

An encoded text is read as the text. Reading starts anew behind every whole
character, so what is appended to an encoded text is read on its own.
-/

namespace LintMend.Utf8

variable {byte : UInt8} {rest : Bytes}

theorem readFrom_single (single : byte.toNat < 0x80) :
    readFrom none (byte :: rest) = some (Char.ofNat byte.toNat) ::
      readFrom none rest := by
  have small : byte < 0x80 := UInt8.lt_iff_toNat_lt.mpr single
  simp [readFrom, small]

theorem readFrom_leading {missing value : Nat} {low high : UInt8}
    (several : 0x80 ≤ byte.toNat)
    (leading : leading? byte = some (missing, value, low, high)) :
    readFrom none (byte :: rest) =
      readFrom (some ⟨missing, value, low, high⟩) rest := by
  have large : ¬ byte < 0x80 := by
    rw [UInt8.lt_iff_toNat_lt]
    exact Nat.not_lt.mpr several
  simp [readFrom, large, leading]

theorem readFrom_continued {missing value : Nat} {low high : UInt8}
    (inside : low.toNat ≤ byte.toNat ∧ byte.toNat ≤ high.toNat) :
    readFrom (some ⟨missing, value, low, high⟩) (byte :: rest) =
      if missing ≤ 1 then
      some (Char.ofNat (value * 64 + (byte.toNat - 0x80))) :: readFrom none rest
      else readFrom (some ⟨missing - 1, value * 64 + (byte.toNat - 0x80), 0x80,
        0xBF⟩) rest := by
  have lower : low ≤ byte := UInt8.le_iff_toNat_le.mpr inside.1
  have upper : byte ≤ high := UInt8.le_iff_toNat_le.mpr inside.2
  simp [readFrom, lower, upper]

theorem leading?_two (low : 0xC2 ≤ byte.toNat) (high : byte.toNat < 0xE0) :
    leading? byte = some (1, byte.toNat - 0xC0, 0x80, 0xBF) := by
  simp [leading?, UInt8.le_iff_toNat_le, UInt8.lt_iff_toNat_lt, low, high]

theorem leading?_three (low : 0xE0 ≤ byte.toNat) (high : byte.toNat < 0xF0) :
    leading? byte = some (2, byte.toNat - 0xE0,
        if byte.toNat = 0xE0 then 0xA0 else 0x80,
      if byte.toNat = 0xED then 0x9F else 0xBF) := by
  obtain ⟨n, named⟩ : ∃ n, n = byte.toNat := ⟨_, rfl⟩
  obtain rfl : byte = UInt8.ofNat n := by rw [named, UInt8.ofNat_toNat]
  rw [← named] at low high ⊢
  interval_cases n <;> rfl

theorem leading?_four (low : 0xF0 ≤ byte.toNat) (high : byte.toNat ≤ 0xF4) :
    leading? byte = some (3, byte.toNat - 0xF0,
        if byte.toNat = 0xF0 then 0x90 else 0x80,
      if byte.toNat = 0xF4 then 0x8F else 0xBF) := by
  obtain ⟨n, named⟩ : ∃ n, n = byte.toNat := ⟨_, rfl⟩
  obtain rfl : byte = UInt8.ofNat n := by rw [named, UInt8.ofNat_toNat]
  rw [← named] at low high ⊢
  interval_cases n <;> rfl

/-- An encoded character is read as the character, whatever comes behind it. -/
@[simp]
theorem readFrom_encodeChar (c : Char) (rest : Bytes) :
    readFrom none (String.utf8EncodeChar c ++ rest) =
      some c :: readFrom none rest := by
  obtain ⟨v, named⟩ : ∃ v, v = c.val.toNat := ⟨_, rfl⟩
  have same : Char.ofNat v = c := by rw [named]; exact c.ofNat_toNat
  have valid : v < 0xD800 ∨ 0xDFFF < v ∧ v < 0x110000 := named ▸ c.valid
  have toNat {n : Nat} (small : n < 256) : (UInt8.ofNat n).toNat = n :=
    Nat.mod_eq_of_lt small
  have low : (0x80 : UInt8).toNat = 0x80 := rfl
  have high : (0xBF : UInt8).toNat = 0xBF := rfl
  have last := toNat (show v % 64 + 128 < 256 by omega)
  simp only [String.utf8EncodeChar, ← named]
  split_ifs with one two three <;> simp only [List.cons_append, List.nil_append]
  · have single := toNat (show v < 256 by omega)
    rw [readFrom_single (by omega), single, same]
  · have first := toNat (show v / 64 % 32 + 192 < 256 by omega)
    have value : (v / 64 % 32 + 192 - 0xC0) * 64 + (v % 64 + 128 - 0x80) =
        v := by omega
    rw [readFrom_leading (by omega) (leading?_two (by omega) (by omega)),
      readFrom_continued (by omega), if_pos le_rfl, first, last, value, same]
  · have first := toNat (show v / 4096 % 16 + 224 < 256 by omega)
    have second := toNat (show v / 64 % 64 + 128 < 256 by omega)
    have value :
        ((v / 4096 % 16 + 224 - 0xE0) * 64 + (v / 64 % 64 + 128 - 0x80)) * 64
        + (v % 64 + 128 - 0x80) = v := by
      omega
    rw [readFrom_leading (by omega) (leading?_three (by omega) (by omega)),
      readFrom_continued (by rw [first, second]; split_ifs <;> simp <;> omega),
      if_neg (by decide), readFrom_continued (by omega), if_pos le_rfl, first,
      second, last, value, same]
  · have first := toNat (show v / 262144 % 8 + 240 < 256 by omega)
    have second := toNat (show v / 4096 % 64 + 128 < 256 by omega)
    have third := toNat (show v / 64 % 64 + 128 < 256 by omega)
    have value :
        (((v / 262144 % 8 + 240 - 0xF0) * 64
          + (v / 4096 % 64 + 128 - 0x80)) * 64
          + (v / 64 % 64 + 128 - 0x80)) * 64 + (v % 64 + 128 - 0x80) = v := by
      omega
    rw [readFrom_leading (by omega) (leading?_four (by omega) (by omega)),
      readFrom_continued (by rw [first, second]; split_ifs <;> simp <;> omega),
      if_neg (by decide), readFrom_continued (by omega), if_neg (by decide),
      readFrom_continued (by omega), if_pos le_rfl, first, second, third, last,
      value, same]

theorem read_encode_append (text : Text) (rest : Bytes) :
    read (encode text ++ rest) = text.map some ++ read rest := by
  induction text with
  | nil => rfl
  | cons c text induction =>
      rw [encode, List.flatMap_cons, List.append_assoc, read,
        readFrom_encodeChar]
      exact congrArg (some c :: ·) induction

/-- A byte that does not go on with the character ends it, and is read on its
own. -/
theorem readFrom_broken {found : Pending}
    (broken : ¬ (found.low ≤ byte ∧ byte ≤ found.high)) :
    readFrom (some found) (byte :: rest) =
      none :: readFrom none (byte :: rest) := by
  have ended : (decide (found.low ≤ byte) && decide (byte ≤ found.high)) =
      false := by
    simpa using broken
  by_cases single : byte < 0x80
  · simp [readFrom, ended, single]
  · cases leading : leading? byte <;> simp [readFrom, ended, single, leading]

/-- What a byte completes, and what is begun behind it, does not depend on the
bytes to come. -/
theorem exists_readFrom_cons (pending : Option Pending) (byte : UInt8) :
    ∃ done next, ∀ rest,
      readFrom pending (byte :: rest) = done ++ readFrom next rest := by
  have starts : ∃ done next, ∀ rest,
      readFrom none (byte :: rest) = done ++ readFrom next rest := by
    by_cases single : byte < 0x80
    · exact ⟨[some (Char.ofNat byte.toNat)], none, fun rest =>
        by simp [readFrom, single]⟩
    · cases leading : leading? byte with
      | none =>
          exact ⟨[none], none, fun rest => by simp [readFrom, single, leading]⟩
      | some found =>
          obtain ⟨missing, value, low, high⟩ := found
          exact ⟨[], some ⟨missing, value, low, high⟩,
            fun rest => by simp [readFrom, single, leading]⟩
  cases pending with
  | none => exact starts
  | some found =>
      by_cases continued : found.low ≤ byte ∧ byte ≤ found.high
      · by_cases last : found.missing ≤ 1
        · exact ⟨[_], none, fun rest => by
            simp only [readFrom, continued, last, decide_true,
              Bool.and_self, if_true]
            rfl⟩
        · exact ⟨[], _, fun rest => by
            simp only [readFrom, continued, last, decide_true,
              Bool.and_self, if_false]
            rfl⟩
      · obtain ⟨done, next, starts⟩ := starts
        refine ⟨none :: done, next, fun rest => ?_⟩
        rw [readFrom_broken continued, starts, List.cons_append]

/-- Behind bytes that make whole characters, reading starts anew. -/
theorem readFrom_append (pending : Option Pending) (front rest : Bytes)
    (whole : none ∉ readFrom pending front) :
    readFrom pending (front ++ rest) =
      readFrom pending front ++ readFrom none rest := by
  induction front generalizing pending with
  | nil =>
      cases pending with
      | none => rfl
      | some found => simp [readFrom] at whole
  | cons byte front induction =>
      obtain ⟨done, next, step⟩ := exists_readFrom_cons pending byte
      rw [step, List.mem_append, not_or] at whole
      rw [List.cons_append, step, step, induction next whole.2,
        List.append_assoc]

theorem decode?_eq_some {bytes : Bytes} {text : Text} :
    decode? bytes = some text ↔ read bytes = text.map some := by
  rw [decode?]
  generalize read bytes = found
  induction found generalizing text with
  | nil => cases text <;> simp
  | cons first found induction =>
      simp only [List.mapM_cons, id_eq, Option.bind_eq_bind,
        Option.bind_eq_some_iff, Option.pure_def, Option.some.injEq, induction]
      constructor
      · rintro ⟨c, rfl, text, rfl, rfl⟩
        rfl
      · intro same
        obtain ⟨c, text, rfl⟩ := List.exists_cons_of_ne_nil
          (show text ≠ [] by rintro rfl; cases same)
        obtain ⟨rfl, rfl⟩ := List.cons.inj same
        exact ⟨c, rfl, text, rfl, rfl⟩

theorem decode?_append {front : Bytes} {text : Text}
    (decoded : decode? front = some text) (more : Text) :
    decode? (front ++ encode more) = some (text ++ more) := by
  rw [decode?_eq_some] at decoded ⊢
  have encoded := read_encode_append more []
  rw [List.append_nil] at encoded
  rw [read, readFrom_append none front _ (by rw [← read, decoded]; simp),
    ← read, ← read, decoded, encoded]
  simp [read, readFrom]

@[simp]
theorem decode?_encode (text : Text) : decode? (encode text) = some text :=
  @decode?_append [] [] rfl text

end LintMend.Utf8
