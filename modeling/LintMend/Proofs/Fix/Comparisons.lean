import LintMend.Proofs.Fix.Locality
import LintMend.Proofs.Scan.Segments
import LintMend.Proofs.Text.Letters

/-!
# Comparisons to singletons

A run of code is gone through twice, first for comparisons with the singleton on
the right, then for those with it on the left. What is written in their place
holds no comparison by value, and it makes none with the code around it, so no
comparison of either kind is left in the run.
-/

namespace LintMend

namespace Fix

open Scan (isCode KeepsCode)

/-! ## Going through a text -/

/-- How a text is gone through. Behind what the reader takes, it sees the last
character of that. -/
inductive Replaced (read? : Option Char → Text → Option (Text × Text)) :
    Option Char → Text → Text → Prop
  | nil {before : Option Char} : Replaced read? before [] []
  | copied {before : Option Char} {c : Char} {rest out : Text} :
      read? before (c :: rest) = none → Replaced read? (some c) rest out →
      Replaced read? before (c :: rest) (c :: out)
  | written {before : Option Char} {taken behind written out : Text} :
      taken ≠ [] → read? before (taken ++ behind) = some (written, behind) →
      Replaced read? taken.getLast? behind out →
      Replaced read? before (taken ++ behind) (written ++ out)

/-- A reader that takes something away and always writes something. It writes
spaces, operators and words that it has read. -/
structure ReadsWords (words : List Text)
    (read? : Option Char → Text → Option (Text × Text)) :
    Prop where
  taken : ∀ {before text written behind},
    read? before text = .some (written, behind) →
    ∃ taken, text = taken ++ behind ∧ taken ≠ []
  some : ∀ {before text written behind},
    read? before text = .some (written, behind) →
    written ≠ []
  written : ∀ {before text written behind},
    read? before text = .some (written, behind) →
    ∀ c ∈ written, c = ' ' ∨ (∃ operator, c ∈ Equality.identity operator) ∨
      ∃ word ∈ words, c ∈ word ∧ word ⊆ text

section

variable {words : List Text} {read? : Option Char → Text → Option (Text × Text)}
  {before : Option Char} {text out : Text}

theorem ReadsWords.replaced (reads : ReadsWords words read?)
    (before : Option Char) (text : Text) :
    Replaced read? before text (replaceAll read? before text) := by
  induction before, text using replaceAll.induct read? with
  | case1 before =>
      rw [Fix.replaceAll]
      exact .nil
  | case2 before c rest unread induction =>
      rw [Fix.replaceAll, unread]
      exact .copied unread induction
  | case3 before c rest written behind read shorter last induction =>
      obtain ⟨taken, whole, some⟩ := reads.taken read
      have length := congrArg List.length whole
      rw [List.length_cons, List.length_append] at length
      have positive := List.length_pos_iff.mpr some
      have place : rest.length - behind.length = taken.length - 1 := by omega
      have seen : (c :: rest)[rest.length - behind.length]? =
          taken.getLast? := by
        rw [whole, place, List.getElem?_append_left (by omega),
          List.getLast?_eq_getElem?]
      rw [Fix.replaceAll, read]
      simp only [last, if_pos shorter, seen] at induction ⊢
      rw [whole] at read ⊢
      exact .written some read induction
  | case4 before c rest written behind read longer =>
      obtain ⟨taken, whole, some⟩ := reads.taken read
      have length := congrArg List.length whole
      rw [List.length_cons, List.length_append] at length
      have positive := List.length_pos_iff.mpr some
      omega

/-- What holds of the characters of a text, of spaces and of operators holds of
all that comes out. -/
theorem ReadsWords.forall_mem (reads : ReadsWords words read?)
    {holds : Char → Prop} (space : holds ' ')
    (identity : ∀ operator, ∀ c ∈ Equality.identity operator, holds c)
    (replaced : Replaced read? before text out) (all : ∀ c ∈ text, holds c) :
    ∀ c ∈ out, holds c := by
  induction replaced with
  | nil => exact all
  | copied _ _ induction =>
      rw [List.forall_mem_cons] at all ⊢
      exact ⟨all.1, induction all.2⟩
  | written _ read _ induction =>
      rw [List.forall_mem_append]
      refine ⟨fun c member => ?_, induction (List.forall_mem_append.mp all).2⟩
      rcases reads.written read c member with
        rfl | ⟨operator, sign⟩ | ⟨word, -, inside, front⟩
      · exact space
      · exact identity operator c sign
      · exact all c (front inside)

theorem ReadsWords.eq_nil_iff (reads : ReadsWords words read?)
    (replaced : Replaced read? before text out) : out = [] ↔ text = [] := by
  cases replaced with
  | nil => exact Iff.rfl
  | copied => simp
  | written some read => simp [some, reads.some read]

/-- What comes out of a text begins as the text does, up to the place where
something is written. -/
theorem Replaced.front {front : Text} {begins : Char → Prop}
    (heads : ∀ {before text written behind},
      read? before text = some (written, behind) →
      ∃ c rest, written = c :: rest ∧ begins c)
    (apart : ∀ c ∈ front, ¬ begins c)
    (replaced : Replaced read? before text (front ++ out)) :
    ∃ last rest, text = front ++ rest ∧ Replaced read? last rest out := by
  induction front generalizing before text with
  | nil => exact ⟨before, text, rfl, replaced⟩
  | cons c front induction =>
      obtain ⟨here, others⟩ := List.forall_mem_cons.mp apart
      generalize whole : c :: front ++ out = result at replaced
      cases replaced with
      | nil => cases whole
      | copied _ further =>
          cases whole
          obtain ⟨last, rest, rfl, replaced⟩ := induction others further
          exact ⟨last, rest, rfl, replaced⟩
      | written _ read =>
          obtain ⟨d, more, rfl, first⟩ := heads read
          obtain rfl : c = d := (List.cons.inj whole).1
          exact absurd first here

end

/-! ## The two readers -/

/-- Words that begin with a capital letter, with small ones behind it, none of
them the beginning of another. -/
structure Singletons (words : List Text) : Prop where
  capital : ∀ word ∈ words, ∃ c rest, word = c :: rest ∧ c.isUpper = true ∧
    ∀ d ∈ rest, d.isLower = true
  apart : ∀ word ∈ words, ∀ other ∈ words, word <+: other → word = other

theorem singletons_none : Singletons ["None".toList] where
  capital := by simp
  apart := by decide

theorem singletons_bool : Singletons ["True".toList, "False".toList] where
  capital := by simp
  apart := by decide

namespace Equality

variable {operator : Equality} {text rest : Text}

theorem read?_eq_some_iff :
    read? text = some (operator, rest) ↔ text = operator.sign ++ rest := by
  constructor
  · intro read
    unfold read? at read
    split at read
    · cases read
      rfl
    · cases read
      rfl
    · cases read
  · rintro rfl
    cases operator <;> rfl

theorem isCode_identity (operator : Equality) :
    ∀ c ∈ operator.identity, isCode c = true := by
  cases operator <;> exact List.all_eq_true.mp rfl

theorem isWord_sign (operator : Equality) :
    ∀ c ∈ operator.sign, Text.isWord c = false := by
  cases operator <;>
    exact fun c inside =>
      Bool.eq_false_iff.mpr (List.any_eq_false.mp rfl c inside)

theorem sign_ne_nil (operator : Equality) : operator.sign ≠ [] := by
  cases operator <;> exact List.cons_ne_nil _ _

@[simp]
theorem trimStart_sign (operator : Equality) (rest : Text) :
    Text.trimStart (operator.sign ++ rest) = operator.sign ++ rest := by
  cases operator <;> exact Text.trimStart_cons rfl _

end Equality

/-- The text begins with a comparison by value whose right side is one of the
words. -/
inductive RightComparison (words : List Text) : Text → Prop
  | intro {operator : Equality} {blanks word behind : Text} :
      (∀ c ∈ blanks, Text.isBlank c = true) → word ∈ words →
          wordEnds behind = true →
      RightComparison words (operator.sign ++ (blanks ++ (word ++ behind)))

/-- The text begins with one of the words, which is compared by value. -/
inductive LeftComparison (words : List Text) : Text → Prop
  | intro {operator : Equality} {blanks word behind : Text} :
      word ∈ words → (∀ c ∈ blanks, Text.isBlank c = true) →
      LeftComparison words (word ++ (blanks ++ (operator.sign ++ behind)))

section

variable {words : List Text} {before : Option Char}
  {text word rest written behind : Text}

theorem readWord?_eq_some (read : readWord? words text = some (word, rest)) :
    word ∈ words ∧ text = word ++ rest := by
  obtain ⟨found, member, here⟩ := List.exists_of_findSome?_eq_some read
  obtain ⟨behind, after, same⟩ := Option.map_eq_some_iff.mp here
  cases same
  exact ⟨member, Text.after?_eq_some.mp after⟩

/-- At most one of the words begins a text. -/
theorem Singletons.unique (singletons : Singletons words)
    {word other rest more : Text} (member : word ∈ words)
    (alsoMember : other ∈ words) (same : word ++ rest = other ++ more) :
    word = other ∧ rest = more := by
  have here : word = other := by
    have front : word <+: other ++ more := ⟨rest, same⟩
    rcases List.prefix_or_prefix_of_prefix front
      (List.prefix_append other more) with
        shorter | longer
    · exact singletons.apart word member other alsoMember shorter
    · exact (singletons.apart other alsoMember word member longer).symm
  subst here
  exact ⟨rfl, List.append_cancel_left same⟩

theorem Singletons.readWord?_append (singletons : Singletons words)
    (member : word ∈ words) (rest : Text) :
    readWord? words (word ++ rest) = some (word, rest) := by
  cases read : readWord? words (word ++ rest) with
  | none =>
      have unread := List.findSome?_eq_none_iff.mp read word member
      rw [Text.after?_eq_some.mpr rfl] at unread
      cases unread
  | some both =>
      obtain ⟨other, more⟩ := both
      obtain ⟨alsoMember, same⟩ := readWord?_eq_some read
      obtain ⟨rfl, rfl⟩ := singletons.unique member alsoMember same
      rfl

theorem Singletons.trimStart_append (singletons : Singletons words)
    (member : word ∈ words) (rest : Text) :
    Text.trimStart (word ++ rest) = word ++ rest := by
  obtain ⟨c, tail, rfl, upper, -⟩ := singletons.capital word member
  have letter : c.isAlpha = true := by simp [Char.isAlpha, upper]
  exact Text.trimStart_cons (Text.isBlank_of_isAlpha letter) _

theorem rightSide?_eq_some
    (read : rightSide? words before text = some (written, behind)) :
    ∃ front operator blanks word,
      text = front ++ (Equality.sign operator ++ (blanks ++ (word ++ behind))) ∧
      (∀ c ∈ front, Text.isBlank c = true) ∧
      (∀ c ∈ blanks, Text.isBlank c = true) ∧
      word ∈ words ∧ wordEnds behind = true ∧
      written = [' '] ++ operator.identity ++ [' '] ++ word := by
  simp only [rightSide?, Option.bind_eq_bind, Option.bind_eq_some_iff,
    Prod.exists] at read
  obtain ⟨operator, rest, sign, word, rest', found, result⟩ := read
  split at result
  · next ends =>
      cases result
      obtain ⟨member, whole⟩ := readWord?_eq_some found
      refine ⟨Text.indent text, operator, Text.indent rest, word, ?_,
        Text.blank_indent text, Text.blank_indent rest, member, ends, rfl⟩
      rw [← whole, Text.indent_append_trimStart,
        ← Equality.read?_eq_some_iff.mp sign, Text.indent_append_trimStart]
  · cases result

theorem leftSide?_eq_some
    (read : leftSide? words before text = some (written, behind)) :
    ∃ word blanks operator later,
      text = word ++ (blanks ++ (Equality.sign operator ++ (later ++ behind))) ∧
      word ∈ words ∧ (∀ c ∈ blanks, Text.isBlank c = true) ∧
      (∀ c ∈ later, Text.isBlank c = true) ∧
      (∀ c ∈ before, Text.isWord c = false) ∧
      written = word ++ [' '] ++ operator.identity ++ [' '] := by
  unfold leftSide? at read
  split at read
  · cases read
  · next begins =>
      simp only [Option.bind_eq_bind, Option.bind_eq_some_iff,
        Prod.exists] at read
      obtain ⟨word, rest, found, operator, rest', sign, result⟩ := read
      cases result
      obtain ⟨member, rfl⟩ := readWord?_eq_some found
      refine ⟨word, Text.indent rest, operator, Text.indent rest', ?_, member,
        Text.blank_indent rest, Text.blank_indent rest', ?_, rfl⟩
      · rw [Text.indent_append_trimStart, ← Equality.read?_eq_some_iff.mp sign,
          Text.indent_append_trimStart]
      · rintro c rfl
        simpa using begins

theorem readsWords_rightSide (words : List Text) :
    ReadsWords words (rightSide? words) := by
  constructor
  · intro before text written behind read
    obtain ⟨front, operator, blanks, word, rfl, -⟩ := rightSide?_eq_some read
    refine ⟨front ++ (operator.sign ++ (blanks ++ word)), by simp, ?_⟩
    simp [operator.sign_ne_nil]
  · intro before text written behind read
    obtain ⟨front, operator, blanks, word, -, -, -, -, -, rfl⟩ :=
      rightSide?_eq_some read
    simp
  · intro before text written behind read
    obtain ⟨front, operator, blanks, word, rfl, -, -, member, -, rfl⟩ :=
      rightSide?_eq_some read
    simp only [List.mem_append, List.mem_singleton]
    rintro c (((rfl | sign) | rfl) | inside)
    · exact .inl rfl
    · exact .inr (.inl ⟨operator, sign⟩)
    · exact .inl rfl
    · exact .inr (.inr ⟨word, member, inside, fun d here => by simp [here]⟩)

theorem readsWords_leftSide (words : List Text) :
    ReadsWords words (leftSide? words) := by
  constructor
  · intro before text written behind read
    obtain ⟨word, blanks, operator, later, rfl, -⟩ := leftSide?_eq_some read
    refine ⟨word ++ (blanks ++ (operator.sign ++ later)), by simp, ?_⟩
    simp [operator.sign_ne_nil]
  · intro before text written behind read
    obtain ⟨word, blanks, operator, later, -, -, -, -, -, rfl⟩ :=
      leftSide?_eq_some read
    simp
  · intro before text written behind read
    obtain ⟨word, blanks, operator, later, rfl, member, -, -, -, rfl⟩ :=
      leftSide?_eq_some read
    simp only [List.mem_append, List.mem_singleton]
    rintro c (((inside | rfl) | sign) | rfl)
    · exact .inr (.inr ⟨word, member, inside, List.subset_append_left _ _⟩)
    · exact .inl rfl
    · exact .inr (.inl ⟨operator, sign⟩)
    · exact .inl rfl

/-- The rewriting brings in no characters but those of the operators. -/
theorem forall_mem_identityComparisons (words : List Text) {holds : Char → Prop}
    (space : holds ' ')
    (identity : ∀ operator, ∀ c ∈ Equality.identity operator, holds c)
    (all : ∀ c ∈ text, holds c) :
    ∀ c ∈ identityComparisons words text, holds c := by
  have right := readsWords_rightSide words
  have left := readsWords_leftSide words
  exact left.forall_mem space identity (left.replaced none _)
    (right.forall_mem space identity (right.replaced none text) all)

theorem keepsCode_identityComparisons (words : List Text) :
    KeepsCode (identityComparisons words) where
  code := forall_mem_identityComparisons words rfl Equality.isCode_identity
  empty := by
    intro text
    have right := readsWords_rightSide words
    have left := readsWords_leftSide words
    exact (left.eq_nil_iff (left.replaced none _)).trans
      (right.eq_nil_iff (right.replaced none _))

theorem Singletons.reads_right (singletons : Singletons words)
    (compares : RightComparison words text) :
    rightSide? words before text ≠ none := by
  cases compares with
  | @intro operator blanks word behind blank member ends =>
      have sign : Equality.read?
          (operator.sign ++ (blanks ++ (word ++ behind))) = some _ :=
        Equality.read?_eq_some_iff.mpr rfl
      simp only [rightSide?, operator.trimStart_sign, sign, Option.bind_eq_bind,
        Option.bind_some, Text.trimStart_of_blank blank,
        singletons.trimStart_append member,
        singletons.readWord?_append member, ends]
      nofun

theorem Singletons.reads_left (singletons : Singletons words)
    (compares : LeftComparison words text)
    (begins : ∀ c ∈ before, Text.isWord c = false) :
    leftSide? words before text ≠ none := by
  cases compares with
  | @intro operator blanks word behind member blank =>
      have noWord : ¬ (before.map Text.isWord).getD false = true := by
        cases before with
        | none => simp
        | some c => simp [begins c rfl]
      have sign : Equality.read? (operator.sign ++ behind) = some _ :=
        Equality.read?_eq_some_iff.mpr rfl
      simp only [leftSide?, if_neg noWord, singletons.readWord?_append member,
        Option.bind_eq_bind, Option.bind_some, Text.trimStart_of_blank blank,
        operator.trimStart_sign, sign]
      nofun

end

/-! ## What comes out -/

section

variable {words : List Text} {before : Option Char}
  {text out written behind : Text}

theorem not_isUpper_of_isLower {c : Char} (lower : c.isLower = true) :
    c.isUpper ≠ true := by
  intro upper
  simp only [Char.isUpper, Char.isLower, Bool.and_eq_true, decide_eq_true_iff,
    UInt32.le_iff_toNat_le] at upper lower
  simp at upper lower
  omega

theorem not_isUpper_of_isBlank {c : Char} (blank : Text.isBlank c = true) :
    c.isUpper ≠ true := by
  intro upper
  have letter : c.isAlpha = true := by simp [Char.isAlpha, upper]
  rw [Text.isBlank_of_isAlpha letter] at blank
  cases blank

theorem Equality.not_isUpper_sign (operator : Equality) :
    ∀ c ∈ operator.sign, c.isUpper ≠ true := by
  cases operator <;> exact List.any_eq_false.mp rfl

theorem Equality.not_isUpper_identity (operator : Equality) :
    ∀ c ∈ operator.identity, c.isUpper ≠ true := by
  cases operator <;> exact List.any_eq_false.mp rfl

theorem Equality.identity_eq (operator : Equality) :
    ∃ rest, operator.identity = 'i' :: rest := by
  cases operator <;> exact ⟨_, rfl⟩

theorem head_rightSide
    (read : rightSide? words before text = some (written, behind)) :
    ∃ rest, written = ' ' :: 'i' :: rest := by
  obtain ⟨-, operator, -, word, -, -, -, -, -, rfl⟩ := rightSide?_eq_some read
  obtain ⟨rest, identity⟩ := operator.identity_eq
  rw [identity]
  exact ⟨_, rfl⟩

theorem Singletons.head_leftSide (singletons : Singletons words)
    (read : leftSide? words before text = some (written, behind)) :
    ∃ c rest, written = c :: rest ∧ c.isUpper = true := by
  obtain ⟨word, -, operator, -, -, member, -, -, -, rfl⟩ :=
    leftSide?_eq_some read
  obtain ⟨c, tail, rfl, upper, -⟩ := singletons.capital word member
  exact ⟨c, _, rfl, upper⟩

/-- A word that ends in what comes out ended in the text. -/
theorem wordEnds_of_replaced {read? : Option Char → Text → Option (Text × Text)}
    (ends : ∀ {before text written behind},
      read? before text = some (written, behind) →
      written ≠ [] ∧ (wordEnds written = true → wordEnds text = true))
    (replaced : Replaced read? before text out) (ended : wordEnds out = true) :
    wordEnds text = true := by
  cases replaced with
  | nil => rfl
  | copied => exact ended
  | @written _ taken behind written out some read =>
      obtain ⟨nonempty, kept⟩ := ends read
      refine kept ?_
      cases written with
      | nil => exact absurd rfl nonempty
      | cons c written => exact ended

/-- Blanks with something behind them that is no `i` come from blanks. -/
theorem blanks_of_replaced {blanks : Text}
    (blank : ∀ c ∈ blanks, Text.isBlank c = true) (next : out.head? ≠ some 'i')
    (replaced : Replaced (rightSide? words) before text (blanks ++ out)) :
    ∃ last rest, text = blanks ++ rest ∧
      Replaced (rightSide? words) last rest out := by
  induction blanks generalizing before text with
  | nil => exact ⟨before, text, rfl, replaced⟩
  | cons c blanks induction =>
      obtain ⟨here, others⟩ := List.forall_mem_cons.mp blank
      generalize whole : c :: blanks ++ out = result at replaced
      cases replaced with
      | nil => cases whole
      | copied _ further =>
          cases whole
          obtain ⟨last, rest, rfl, replaced⟩ := induction others further
          exact ⟨last, rest, rfl, replaced⟩
      | written _ read =>
          obtain ⟨more, rfl⟩ := head_rightSide read
          simp only [List.cons_append, List.cons.injEq] at whole
          cases blanks with
          | nil => exact absurd (congrArg List.head? whole.2) next
          | cons d blanks =>
              obtain rfl : d = 'i' := (List.cons.inj whole.2).1
              cases others 'i' List.mem_cons_self

theorem wordEnds_comparison {operator : Equality} {blanks : Text}
    (blank : ∀ c ∈ blanks, Text.isBlank c = true) (rest : Text) :
    wordEnds (blanks ++ (operator.sign ++ rest)) = true := by
  cases blanks with
  | nil => cases operator <;> rfl
  | cons c blanks =>
      change (!Text.isWord c) = true
      rw [Text.isWord_of_isBlank (blank c List.mem_cons_self)]
      rfl

section

variable (singletons : Singletons words)

include singletons

theorem Singletons.letters {word : Text} (member : word ∈ words) :
    ∀ c ∈ word, c.isAlpha = true := by
  obtain ⟨c, tail, rfl, upper, lower⟩ := singletons.capital word member
  intro d inside
  rcases List.mem_cons.mp inside with rfl | later
  · simp [Char.isAlpha, upper]
  · simp [Char.isAlpha, lower d later]

/-- A comparison with the word on the right that comes out of the first pass was
there. -/
theorem Singletons.right_of_right
    (replaced : Replaced (rightSide? words) before text out)
    (compares : RightComparison words out) : RightComparison words text := by
  have heads {before : Option Char} {text written behind : Text}
      (read : rightSide? words before text = some (written, behind)) :
      ∃ c rest, written = c :: rest ∧ c = ' ' := by
    obtain ⟨rest, rfl⟩ := head_rightSide read
    exact ⟨_, _, rfl, rfl⟩
  cases compares with
  | @intro operator blanks word behind blank member ends =>
      have noSpace : ∀ c ∈ operator.sign, ¬ c = ' ' := by
        cases operator <;> simp [Equality.sign]
      have noLetter : (word ++ behind).head? ≠ some 'i' := by
        obtain ⟨c, tail, rfl, upper, -⟩ := singletons.capital word member
        intro same
        obtain rfl : c = 'i' := Option.some.inj same
        cases upper
      have noBlank : ∀ c ∈ word, ¬ c = ' ' := by
        rintro c inside rfl
        cases singletons.letters member ' ' inside
      obtain ⟨_, _, rfl, signed⟩ := replaced.front heads noSpace
      obtain ⟨_, _, rfl, spaced⟩ := blanks_of_replaced blank noLetter signed
      obtain ⟨_, _, rfl, later⟩ := spaced.front heads noBlank
      refine .intro blank member (wordEnds_of_replaced ?_ later ends)
      intro before text written behind read
      obtain ⟨front, operator, later, word, rfl, blank, -⟩ :=
        rightSide?_eq_some read
      obtain ⟨rest, rfl⟩ := head_rightSide read
      exact ⟨List.cons_ne_nil _ _, fun _ => wordEnds_comparison blank _⟩

/-- A word that comes out of the second pass was there. -/
theorem Singletons.word_of_left {word : Text} (member : word ∈ words)
    (ended : wordEnds behind = true)
    (replaced : Replaced (leftSide? words) before text (word ++ behind)) :
    ∃ rest, text = word ++ rest ∧ wordEnds rest = true := by
  obtain ⟨c, tail, capital, upper, lower⟩ := singletons.capital word member
  generalize whole : word ++ behind = result at replaced
  cases replaced with
  | nil => simp [capital] at whole
  | @copied _ d rest out _ further =>
      rw [capital, List.cons_append, List.cons.injEq] at whole
      obtain ⟨rfl, rfl⟩ := whole
      obtain ⟨_, later, rfl, replaced⟩ := further.front singletons.head_leftSide
        fun d inside => not_isUpper_of_isLower (lower d inside)
      refine ⟨later, by rw [capital, List.cons_append],
        wordEnds_of_replaced ?_ replaced ended⟩
      intro before text written behind read
      obtain ⟨other, _, _, _, rfl, alsoMember, -, -, -, rfl⟩ :=
        leftSide?_eq_some read
      obtain ⟨d, more, rfl, -⟩ := singletons.capital other alsoMember
      exact ⟨by simp, id⟩
  | written _ read =>
      obtain ⟨other, blanks, operator, later, same, alsoMember, blank, -,
          -, rfl⟩ :=
        leftSide?_eq_some read
      rw [List.append_assoc, List.append_assoc, List.append_assoc] at whole
      obtain ⟨rfl, -⟩ := singletons.unique member alsoMember whole
      exact ⟨_, same, wordEnds_comparison blank _⟩

/-- The second pass makes no comparison with the word on the right. -/
theorem Singletons.right_of_left
    (replaced : Replaced (leftSide? words) before text out)
    (compares : RightComparison words out) : RightComparison words text := by
  cases compares with
  | @intro operator blanks word behind blank member ends =>
      obtain ⟨_, _, rfl, signed⟩ :=
        replaced.front singletons.head_leftSide operator.not_isUpper_sign
      obtain ⟨_, _, rfl, spaced⟩ := signed.front singletons.head_leftSide
        fun c inside => not_isUpper_of_isBlank (blank c inside)
      obtain ⟨later, rfl, ended⟩ := singletons.word_of_left member ends spaced
      exact .intro blank member ended

/-- Behind the first letter, a comparison with the word on the left that comes
out of the second pass was there. -/
theorem Singletons.left_of_left {c : Char}
    (replaced : Replaced (leftSide? words) before text out)
    (compares : LeftComparison words (c :: out)) :
    LeftComparison words (c :: text) := by
  generalize whole : c :: out = result at compares
  cases compares with
  | @intro operator blanks word behind member blank =>
      obtain ⟨d, tail, rfl, -, lower⟩ := singletons.capital word member
      rw [List.cons_append, List.cons.injEq] at whole
      obtain ⟨rfl, rfl⟩ := whole
      obtain ⟨_, _, rfl, inside⟩ := replaced.front singletons.head_leftSide
        fun d member => not_isUpper_of_isLower (lower d member)
      obtain ⟨_, _, rfl, spaced⟩ := inside.front singletons.head_leftSide
        fun c member => not_isUpper_of_isBlank (blank c member)
      obtain ⟨_, _, rfl, -⟩ :=
        spaced.front singletons.head_leftSide operator.not_isUpper_sign
      rw [← List.cons_append]
      exact .intro member blank

end

/-! ## Nothing is left -/

/-- Nowhere in the text is a word compared by value that stands on the right
side. -/
def NoRight (words : List Text) (text : Text) : Prop :=
  ∀ rest, rest <:+ text → ¬ RightComparison words rest

/-- Nowhere in the text does a word begin that is compared by value. The text
stands behind the given character. -/
def NoLeft (words : List Text) (before : Option Char) (text : Text) : Prop :=
  ∀ front rest, text = front ++ rest →
    (∀ c ∈ front.getLast?.or before, Text.isWord c = false) →
    ¬ LeftComparison words rest

theorem RightComparison.head (compares : RightComparison words text) :
    ∃ c rest, text = c :: rest ∧ Text.isBlank c = false ∧
      c.isAlpha = false := by
  cases compares with
  | @intro operator => cases operator <;> exact ⟨_, _, rfl, rfl, rfl⟩

theorem Equality.words_identity (operator : Equality) :
    ∀ c ∈ operator.identity, Text.isBlank c = true ∨ c.isAlpha = true := by
  cases operator <;> simp [Equality.identity, Text.isBlank]

/-- What is written is letters and blanks. -/
theorem Singletons.words_written (singletons : Singletons words)
    {read? : Option Char → Text → Option (Text × Text)}
    (reads : ReadsWords words read?)
    (read : read? before text = some (written, behind)) :
    ∀ c ∈ written, Text.isBlank c = true ∨ c.isAlpha = true := by
  intro c member
  rcases reads.written read c member with
    rfl | ⟨operator, sign⟩ | ⟨word, known, inside, -⟩
  · exact .inl rfl
  · exact operator.words_identity c sign
  · exact .inr (singletons.letters known c inside)

/-- What begins with neither letter nor blank was not written. -/
theorem Singletons.copied_of_suffix (singletons : Singletons words)
    {read? : Option Char → Text → Option (Text × Text)}
    (reads : ReadsWords words read?) (replaced : Replaced read? before text out)
    {c : Char} {rest : Text} (noBlank : Text.isBlank c = false)
    (noLetter : c.isAlpha = false) (inside : c :: rest <:+ out) :
    ∃ last later, c :: later <:+ text ∧ read? last (c :: later) = none ∧
      Replaced read? (some c) later rest := by
  induction replaced with
  | nil => cases List.suffix_nil.mp inside
  | copied unread further induction =>
      rcases List.suffix_cons_iff.mp inside with same | behind
      · cases same
        exact ⟨_, _, List.suffix_rfl, unread, further⟩
      · obtain ⟨last, later, place, found⟩ := induction behind
        exact ⟨last, later, place.trans (List.suffix_cons _ _), found⟩
  | @written _ taken _ written out _ read _ induction =>
      obtain ⟨front, whole⟩ := inside
      rcases List.append_eq_append_iff.mp whole with
        ⟨more, rfl, same⟩ | ⟨more, rfl, same⟩
      · cases more with
        | nil =>
            obtain ⟨last, later, place, found⟩ := induction ⟨[], same⟩
            exact ⟨last, later, place.trans (List.suffix_append taken _), found⟩
        | cons d more =>
            cases same
            have visible := singletons.words_written reads read c (by simp)
            simp [noBlank, noLetter] at visible
      · obtain ⟨last, later, place, found⟩ := induction ⟨more, same.symm⟩
        exact ⟨last, later, place.trans (List.suffix_append taken _), found⟩

section

variable (singletons : Singletons words)

include singletons

theorem Singletons.noRight_of_right
    (replaced : Replaced (rightSide? words) before text out) :
    NoRight words out := by
  intro rest inside compares
  obtain ⟨c, rest, rfl, noBlank, noLetter⟩ := compares.head
  obtain ⟨last, later, -, unread, further⟩ :=
    singletons.copied_of_suffix (readsWords_rightSide words) replaced noBlank
      noLetter inside
  exact singletons.reads_right
    (singletons.right_of_right (.copied unread further) compares) unread

theorem Singletons.noRight_of_left
    (replaced : Replaced (leftSide? words) before text out)
    (none : NoRight words text) : NoRight words out := by
  intro rest inside compares
  obtain ⟨c, rest, rfl, noBlank, noLetter⟩ := compares.head
  obtain ⟨last, later, place, unread, further⟩ :=
    singletons.copied_of_suffix (readsWords_leftSide words) replaced noBlank
      noLetter inside
  exact none _ place
    (singletons.right_of_left (.copied unread further) compares)

/-- Where something is written, no comparison with the word on the left
begins. -/
theorem Singletons.noLeft_written
    (read : leftSide? words before text = some (written, behind))
    {front more : Text} (whole : written = front ++ more) (some : more ≠ [])
    (rest : Text) :
    ¬ LeftComparison words (more ++ rest) := by
  intro compares
  generalize result : more ++ rest = begun at compares
  cases compares with
  | @intro operator blanks other behind member blank =>
      obtain ⟨word, _, sign, _, -, alsoMember, -, -, -, rfl⟩ :=
        leftSide?_eq_some read
      obtain ⟨d, letters, rfl, upper, -⟩ := singletons.capital other member
      obtain ⟨c, tail, rfl, -, lower⟩ := singletons.capital word alsoMember
      obtain ⟨e, more, rfl⟩ := List.exists_cons_of_ne_nil some
      cases front with
      | nil =>
          rw [List.nil_append] at whole
          rw [← whole, List.append_assoc, List.append_assoc,
            List.append_assoc] at result
          obtain ⟨-, same⟩ := singletons.unique alsoMember member result
          -- behind the word stand a space and the `i` of the operator, which
          -- begins no sign
          obtain ⟨further, identity⟩ := sign.identity_eq
          rw [identity] at same
          cases blanks with
          | nil => cases operator <;> cases same
          | cons space blanks =>
              cases blanks with
              | nil => cases operator <;> cases (List.cons.inj same).2
              | cons letter blanks =>
                  obtain rfl : 'i' = letter :=
                    (List.cons.inj (List.cons.inj same).2).1
                  cases blank 'i' (by simp)
      | cons f front =>
          -- only the first letter that is written is a capital one
          obtain rfl : e = d := (List.cons.inj result).1
          simp only [List.cons_append, List.cons.injEq] at whole
          have inside : e ∈ tail ++ [' '] ++ sign.identity ++ [' '] := by
            rw [whole.2]
            simp
          simp only [List.mem_append, List.mem_singleton] at inside
          rcases inside with ((inside | rfl) | inside) | rfl
          · exact not_isUpper_of_isLower (lower e inside) upper
          · cases upper
          · exact sign.not_isUpper_identity e inside upper
          · cases upper

end

/-- What is taken away ends in a blank or in the sign of a comparison. -/
theorem isWord_last
    (read : leftSide? words before text = some (written, behind)) {taken : Text}
    (whole : text = taken ++ behind) :
    ∀ c ∈ taken.getLast?, Text.isWord c = false := by
  obtain ⟨word, blanks, operator, later, same, -, -, blank, -, -⟩ :=
    leftSide?_eq_some read
  have ending : taken = word ++ (blanks ++ (operator.sign ++ later)) := by
    rw [whole] at same
    simpa only [← List.append_assoc, List.append_cancel_right_eq] using same
  have some : operator.sign ++ later ≠ [] := by simp [operator.sign_ne_nil]
  rw [ending, List.getLast?_append_of_ne_nil _ (by simp [some]),
    List.getLast?_append_of_ne_nil _ some]
  intro c last
  rcases List.mem_append.mp (List.mem_of_getLast? last) with sign | inside
  · exact operator.isWord_sign c sign
  · exact Text.isWord_of_isBlank (blank c inside)

theorem LeftComparison.ne_nil (singletons : Singletons words)
    (compares : LeftComparison words text) : text ≠ [] := by
  cases compares with
  | intro member =>
      obtain ⟨c, tail, rfl, -⟩ := singletons.capital _ member
      exact List.cons_ne_nil _ _

theorem Singletons.noLeft_of_left (singletons : Singletons words)
    (replaced : Replaced (leftSide? words) before text out) :
    NoLeft words before out := by
  induction replaced with
  | nil =>
      rintro front rest whole - compares
      exact compares.ne_nil singletons (List.append_eq_nil_iff.mp whole.symm).2
  | copied unread further induction =>
      rintro front later whole begins compares
      cases front with
      | nil =>
          cases whole
          exact singletons.reads_left (singletons.left_of_left further compares)
            begins unread
      | cons d front =>
          cases whole
          refine induction front later rfl ?_ compares
          cases front <;> exact begins
  | @written before taken behind written out _ read _ induction =>
      have begun := isWord_last read rfl
      rintro front later whole begins compares
      rcases List.append_eq_append_iff.mp whole with
        ⟨more, rfl, same⟩ | ⟨more, same, rfl⟩
      · refine induction more later same ?_ compares
        cases more with
        | nil => exact begun
        | cons d more =>
            rwa [List.getLast?_append_of_ne_nil _ (List.cons_ne_nil d more)]
              at begins
      · cases more with
        | nil => exact induction [] out rfl begun compares
        | cons d more =>
            exact singletons.noLeft_written read same
              (List.cons_ne_nil d more) out compares

/-! ## Nothing is changed -/

theorem NoRight.unchanged (none : NoRight words text)
    (replaced : Replaced (rightSide? words) before text out) : out = text := by
  induction replaced with
  | nil => rfl
  | @copied _ c _ _ _ _ induction =>
      rw [induction fun rest inside =>
        none rest (inside.trans (List.suffix_cons c _))]
  | written _ read =>
      obtain ⟨front, operator, blanks, word, same, -, blank, member, ends, -⟩ :=
        rightSide?_eq_some read
      exact absurd (.intro blank member ends) (none _ ⟨front, same.symm⟩)

theorem NoLeft.unchanged (none : NoLeft words before text)
    (replaced : Replaced (leftSide? words) before text out) : out = text := by
  induction replaced with
  | nil => rfl
  | @copied _ c _ _ _ _ induction =>
      refine congrArg (c :: ·) (induction fun front rest whole begins => ?_)
      refine none (c :: front) rest (congrArg (c :: ·) whole) ?_
      cases front <;> exact begins
  | written _ read =>
      obtain ⟨word, blanks, operator, later, same, member, blank, -,
          begins, -⟩ :=
        leftSide?_eq_some read
      exact absurd (.intro member blank) (none [] _ same begins)

/-- No word is compared by value in the text, on either side. -/
structure ComparesNone (words : List Text) (text : Text) : Prop where
  right : NoRight words text
  left : NoLeft words none text

/-- After both passes no comparison is left. -/
theorem Singletons.comparesNone (singletons : Singletons words) (code : Text) :
    ComparesNone words (identityComparisons words code) := by
  have right := (readsWords_rightSide words).replaced none code
  have left := (readsWords_leftSide words).replaced none
    (replaceAll (rightSide? words) none code)
  exact
    { right :=
        singletons.noRight_of_left left (singletons.noRight_of_right right)
      left := singletons.noLeft_of_left left }

/-- Without comparisons both passes leave the code as it is. -/
theorem ComparesNone.unchanged {code : Text} (none : ComparesNone words code) :
    identityComparisons words code = code := by
  have right :=
    none.right.unchanged ((readsWords_rightSide words).replaced .none code)
  have left :=
    none.left.unchanged ((readsWords_leftSide words).replaced .none code)
  rw [identityComparisons, right, left]

end

variable {words : List Text} {nothing : Refusal} {buffer fixed : Buffer}
  {number : Nat}

/-- After the rewriting, no code of the line outside literals compares one of
the words by value, and there is nothing left to rewrite. -/
theorem Singletons.changeCode_again (singletons : Singletons words)
    (applied : changeCode (Scan.mapUnquoted (identityComparisons words)) nothing
      buffer number = .ok fixed) :
    changeCode (Scan.mapUnquoted (identityComparisons words)) nothing
      fixed number =
        .error nothing ∧
      ∃ line, fixed.line? number = some line ∧
        ∀ run, .code run ∈ Scan.segments (Scan.splitComment ['#'] line).1 →
          ComparesNone words run := by
  obtain ⟨text, code, comment, found, split, -, rfl⟩ := changeCode_eq_ok applied
  have keeps : KeepsCode (identityComparisons words) :=
    keepsCode_identityComparisons words
  obtain ⟨splitAgain, segments⟩ := Scan.splitComment_mapUnquoted keeps split
  have there := Buffer.line?_setLine found
    (Scan.mapUnquoted (identityComparisons words) code ++ comment)
  have compares : ∀ run,
      .code run ∈ Scan.segments (Scan.mapUnquoted (identityComparisons words)
      code) → ComparesNone words run := by
    intro run member
    rw [segments] at member
    obtain ⟨segment, -, same⟩ := List.mem_map.mp member
    cases segment with
    | code text =>
        cases same
        exact singletons.comparesNone text
    | literal => cases same
  constructor
  · have unchanged := Scan.mapUnquoted_eq_self fun run member =>
      (compares run member).unchanged
    simp only [changeCode, lineOf_bind_eq there, splitAgain, if_pos unchanged]
  · refine ⟨_, there, ?_⟩
    rwa [splitAgain]

end Fix

end LintMend
