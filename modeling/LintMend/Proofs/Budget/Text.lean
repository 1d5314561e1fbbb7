import LintMend.Budget.Tracker
import LintMend.Proofs.Except
import LintMend.Proofs.Json.Reading
import LintMend.Proofs.Time.Reading

/-!
# Usage read back

A usage with its providers in order is read back from its text as it was,
whatever characters the names hold and however long the fractions of the
instants are. What is read is in order already, and a tracker keeps it so.
-/

namespace LintMend

namespace Usage

/-- Providers in the order of their names, each once, with calls at instants of
the calendar. -/
structure Proper (usage : Usage) : Prop where
  ordered : usage.Pairwise fun earlier later => earlier.1 < later.1
  valid : ∀ entry ∈ usage, ∀ call ∈ entry.2, call.Valid

variable {usage : Usage} {provider : String} {calls : List Instant}

theorem proper_empty : empty.Proper :=
  ⟨.nil, by simp [empty]⟩

theorem mem_set {entry : String × List Instant}
    (member : entry ∈ set provider calls usage) :
    entry = (provider, calls) ∨ entry ∈ usage := by
  induction usage with
  | nil => exact .inl (List.mem_singleton.mp member)
  | cons first usage induction =>
      obtain ⟨other, found⟩ := first
      rw [set] at member
      split_ifs at member
      · rcases List.mem_cons.mp member with here | later
        · exact .inl here
        · exact .inr (List.mem_cons_of_mem _ later)
      · rcases List.mem_cons.mp member with here | later
        · exact .inl here
        · exact .inr later
      · rcases List.mem_cons.mp member with here | later
        · exact .inr (here ▸ List.mem_cons_self)
        · exact (induction later).imp id (List.mem_cons_of_mem _)

/-- A provider finds its place. -/
theorem ordered_set
    (ordered : usage.Pairwise fun earlier later => earlier.1 < later.1) :
    (set provider calls usage).Pairwise fun earlier later =>
      earlier.1 < later.1 := by
  induction usage with
  | nil => exact List.pairwise_singleton _ _
  | cons first usage induction =>
      obtain ⟨other, found⟩ := first
      obtain ⟨least, rest⟩ := List.pairwise_cons.mp ordered
      rw [set]
      split_ifs with same before
      · subst same
        exact List.pairwise_cons.mpr ⟨least, rest⟩
      · refine List.pairwise_cons.mpr ⟨fun entry member => ?_, ordered⟩
        rcases List.mem_cons.mp member with rfl | later
        · exact before
        · exact String.lt_trans before (least entry later)
      · refine List.pairwise_cons.mpr ⟨fun entry member => ?_, induction rest⟩
        rcases mem_set member with rfl | later
        · exact Std.lt_of_le_of_ne before (Ne.symm same)
        · exact least entry later

theorem Proper.set (proper : usage.Proper)
    (valid : ∀ call ∈ calls, call.Valid) :
    (set provider calls usage).Proper where
  ordered := ordered_set proper.ordered
  valid entry member call called := by
    rcases mem_set member with rfl | member
    · exact valid call called
    · exact proper.valid entry member call called

theorem Proper.valid_calls (proper : usage.Proper) (provider : String) :
    ∀ call ∈ usage.calls provider, call.Valid := by
  intro call called
  cases found : usage.lookup provider with
  | none => simp [Usage.calls, found] at called
  | some calls =>
      rw [Usage.calls, found] at called
      obtain ⟨front, rest, rfl, -⟩ := List.lookup_eq_some_iff.mp found
      exact proper.valid (provider, calls) (by simp) call called

/-- A tracker keeps a usage in order. -/
theorem Proper.record (proper : usage.Proper) (tracker : Tracker)
    (provider : String) {now : Instant} (valid : now.Valid) :
    (tracker.recordInto provider now usage).2.Proper := by
  have kept : ∀ call ∈ (usage.calls provider).filter (tracker.inWindow now),
      call.Valid :=
    fun call member =>
      proper.valid_calls provider call (List.mem_filter.mp member).1
  unfold Tracker.recordInto
  simp only
  split_ifs
  · exact proper.set kept
  · refine proper.set fun call member => ?_
    rcases List.mem_append.mp (List.mem_mergeSort.mp member) with old | new
    · exact kept call old
    · rwa [List.mem_singleton.mp new]

/-! ## What is written -/

theorem exact_json (usage : Usage) : usage.json.Exact := by
  have exactCalls (calls : List Instant) :
      Json.ExactItems (calls.map fun instant => .string instant.text) := by
    induction calls with
    | nil => trivial
    | cons call calls induction => exact ⟨trivial, induction⟩
  unfold json
  induction usage with
  | nil => trivial
  | cons entry usage induction => exact ⟨exactCalls entry.2, induction⟩

theorem decodeInstant_text {instant : Instant} (valid : instant.Valid) :
    decodeInstant (.string (some instant.text)) = .ok instant := by
  simp only [decodeInstant, Instant.ofText_text valid]

theorem decode_calls (valid : ∀ call ∈ calls, call.Valid) :
    Decoder.list decodeInstant
      (Json.array (calls.map fun instant => .string instant.text)).written =
        .ok calls := by
  have each :
      (Json.writtenItems (calls.map fun instant => .string instant.text)).mapM
      decodeInstant = .ok calls := by
    induction calls with
    | nil => rfl
    | cons call calls induction =>
        rw [List.map_cons, Json.writtenItems, Json.written, List.mapM_cons,
          decodeInstant_text (valid call List.mem_cons_self),
          induction fun other member =>
            valid other (List.mem_cons_of_mem _ member)]
        rfl
  simp only [Json.written, Decoder.list, each]
  rfl

theorem set_of_last (last : ∀ entry ∈ usage, entry.1 < provider) :
    set provider calls usage = usage ++ [(provider, calls)] := by
  induction usage with
  | nil => rfl
  | cons entry usage induction =>
      have before : entry.1 < provider := last entry List.mem_cons_self
      have apart : provider ≠ entry.1 := by
        intro same
        rw [same] at before
        exact String.lt_irrefl _ before
      rw [set, if_neg apart, if_neg (String.lt_asymm before),
        induction fun other member =>
          last other (List.mem_cons_of_mem _ member)]
      rfl

/-- The providers are read one after another, each behind those that were
read. -/
theorem decodeFields_written {front rest : Usage}
    (proper : (front ++ rest).Proper) :
    decodeFields (Json.writtenFields (rest.map fun (provider, calls) =>
        (provider, .array (calls.map fun instant => .string instant.text))))
        front =
      .ok (front ++ rest) := by
  induction rest generalizing front with
  | nil => rw [List.append_nil]; rfl
  | cons entry rest induction =>
      obtain ⟨provider, calls⟩ := entry
      have last : ∀ entry ∈ front, entry.1 < provider := fun entry member =>
        (List.pairwise_append.mp proper.ordered).2.2 entry member _
          List.mem_cons_self
      have valid := proper.valid (provider, calls) (by simp)
      rw [List.map_cons, Json.writtenFields, decodeFields, decode_calls valid]
      simp only [ok_bind]
      rw [set_of_last last, induction (by simpa using proper),
        List.append_assoc]
      rfl

/-- A proper usage is read back from what is written of it. -/
theorem decode_written (proper : usage.Proper) :
    decode usage.json.written = .ok usage := by
  have read := @decodeFields_written [] usage proper
  rw [List.nil_append] at read
  simp only [json, Json.written, decode, empty, read]
  rfl

/-! ## What is read -/

theorem valid_of_decodeInstant {data : Data} {instant : Instant}
    (decoded : decodeInstant data = .ok instant) : instant.Valid := by
  unfold decodeInstant at decoded
  split at decoded
  next value =>
    split at decoded
    next read =>
      obtain rfl := Except.ok.inj decoded
      exact Instant.valid_of_ofText read
    next => cases decoded
  next => cases decoded

theorem valid_of_mapM {items : List Data}
    (decoded : items.mapM decodeInstant = .ok calls) :
    ∀ call ∈ calls, call.Valid := by
  induction items generalizing calls with
  | nil =>
      obtain rfl : [] = calls := Except.ok.inj decoded
      simp
  | cons item items induction =>
      rw [List.mapM_cons] at decoded
      obtain ⟨first, read, decoded⟩ := bind_eq_ok_iff.mp decoded
      obtain ⟨others, later, decoded⟩ := bind_eq_ok_iff.mp decoded
      obtain rfl : first :: others = calls := Except.ok.inj decoded
      intro call member
      rcases List.mem_cons.mp member with rfl | member
      · exact valid_of_decodeInstant read
      · exact induction later call member

theorem valid_of_list {data : Data}
    (decoded : Decoder.list decodeInstant data = .ok calls) :
    ∀ call ∈ calls, call.Valid := by
  unfold Decoder.list at decoded
  split at decoded
  next items ended =>
    obtain ⟨values, read, decoded⟩ := bind_eq_ok_iff.mp decoded
    split at decoded
    next =>
      obtain rfl := Except.ok.inj decoded
      exact valid_of_mapM read
    next => cases decoded
  next => cases decoded

theorem proper_of_decodeFields {fields : List (Option String × Data)}
    {start : Usage} (proper : start.Proper)
    (decoded : decodeFields fields start = .ok usage) :
    usage.Proper := by
  induction fields generalizing start with
  | nil =>
      obtain rfl := Except.ok.inj decoded
      exact proper
  | cons field fields induction =>
      obtain ⟨_ | provider, value⟩ := field
      · cases decoded
      · obtain ⟨calls, read, decoded⟩ := bind_eq_ok_iff.mp decoded
        exact induction (proper.set (valid_of_list read)) decoded

theorem proper_of_decode {data : Data} (decoded : decode data = .ok usage) :
    usage.Proper := by
  unfold decode at decoded
  split at decoded
  next fields ended =>
    obtain ⟨found, read, decoded⟩ := bind_eq_ok_iff.mp decoded
    split at decoded
    next =>
      obtain rfl := Except.ok.inj decoded
      exact proper_of_decodeFields proper_empty read
    next => cases decoded
  next => cases decoded

end Usage

end LintMend
