import LintMend.Proofs.Scan.Pieces

/-!
# Inside and outside of literals and brackets

A reader that goes through a line from the left is at each place in code or in a
literal, and inside some number of brackets. The scanners cut a line by that: a
comment begins at the first sign in code, and separators part a line where the
reader is in no literal and in no bracket. Behind such a separator the reader
stands as at the beginning of a line, so each piece is read for itself as it was
in the line.
-/

namespace LintMend

namespace Quoting

/-- Where the reader stands behind a text. -/
def after (place : Quoting) (text : Text) : Quoting :=
  text.foldl step place

@[simp]
theorem after_append (place : Quoting) (front rest : Text) :
    place.after (front ++ rest) = (place.after front).after rest :=
  List.foldl_append

@[simp]
theorem after_nil (place : Quoting) : place.after [] = place :=
  rfl

/-- What the literals of a line are quoted with. -/
def WellQuoted : Quoting → Prop
  | code => True
  | literal quote _ => isQuote quote = true

theorem WellQuoted.code : WellQuoted code :=
  trivial

theorem WellQuoted.step {place : Quoting} (quoted : place.WellQuoted)
    (c : Char) :
    (place.step c).WellQuoted := by
  cases place with
  | code =>
      rw [Quoting.step]
      split
      · next opens => exact opens
      · exact trivial
  | literal quote escaped =>
      cases escaped with
      | true => exact quoted
      | false =>
          rw [Quoting.step]
          split
          · exact quoted
          · split
            · exact trivial
            · exact quoted

theorem WellQuoted.after {place : Quoting} (quoted : place.WellQuoted)
    (text : Text) :
    (place.after text).WellQuoted := by
  induction text generalizing place with
  | nil => exact quoted
  | cons c rest induction => exact induction (quoted.step c)

/-- Only a quote leads out of a literal. -/
theorem WellQuoted.step_eq_code_iff {place : Quoting}
    (quoted : place.WellQuoted) {c : Char} (unquoted : isQuote c = false) :
    place.step c = .code ↔ place = .code := by
  cases place with
  | code => simp [Quoting.step, unquoted]
  | literal quote escaped =>
      have other : c ≠ quote := by
        rintro rfl
        rw [WellQuoted, unquoted] at quoted
        cases quoted
      cases escaped with
      | true => simp [Quoting.step]
      | false => by_cases backslash : c = '\\' <;>
          simp [Quoting.step, backslash, other]

theorem WellQuoted.after_eq_code_iff {place : Quoting}
    (quoted : place.WellQuoted) {text : Text}
    (unquoted : ∀ c ∈ text, isQuote c = false) :
    place.after text = .code ↔ place = .code := by
  induction text generalizing place with
  | nil => exact Iff.rfl
  | cons c rest induction =>
      obtain ⟨here, behind⟩ := List.forall_mem_cons.mp unquoted
      exact (induction (quoted.step c) behind).trans
        (quoted.step_eq_code_iff here)

end Quoting

namespace Scan

/-! ## Comments -/

/-- No comment begins in the text, which is read from the place on. -/
def Unsigned (marker : Text) (place : Quoting) (text behind : Text) : Prop :=
  ∀ front c rest, text = front ++ c :: rest → place.after front = .code →
    ¬ marker <+: c :: rest ++ behind

variable {marker code comment line : Text} {place : Quoting}

theorem unsigned_cons {c : Char} {rest behind : Text} :
    Unsigned marker place (c :: rest) behind ↔
      (place = .code → ¬ marker <+: c :: rest ++ behind) ∧
        Unsigned marker (place.step c) rest behind := by
  constructor
  · intro unsigned
    exact ⟨fun inCode => unsigned [] c rest rfl inCode,
      fun front d rest' whole inCode =>
        unsigned (c :: front) d rest' (congrArg (c :: ·) whole) inCode⟩
  · rintro ⟨here, later⟩ front d rest' whole inCode
    cases front with
    | nil =>
        cases whole
        exact here inCode
    | cons e front =>
        cases whole
        exact later front d rest' rfl inCode

theorem splitCommentFrom_eq_iff :
    splitCommentFrom marker place line = (code, comment) ↔
      line = code ++ comment ∧ Unsigned marker place code comment ∧
        (comment ≠ [] → place.after code = .code ∧ marker <+: comment) := by
  induction line generalizing place code with
  | nil =>
      rw [splitCommentFrom, Prod.mk.injEq, eq_comm (a := ([] : Text)),
        eq_comm (a := ([] : Text)), eq_comm (a := ([] : Text)),
        List.append_eq_nil_iff]
      constructor
      · rintro ⟨rfl, rfl⟩
        exact ⟨⟨rfl, rfl⟩, fun front c rest whole =>
          by simp at whole, fun none => absurd rfl none⟩
      · exact fun split => split.1
  | cons c rest induction =>
      rw [splitCommentFrom]
      split
      · next signed =>
          obtain ⟨inCode, marked⟩ := signed
          rw [List.isPrefixOf_iff_prefix] at marked
          constructor
          · intro same
            cases same
            exact ⟨rfl, fun front d rest whole => by simp at whole, fun _ =>
              ⟨inCode, marked⟩⟩
          · rintro ⟨whole, unsigned, -⟩
            cases code with
            | nil => rw [whole, List.nil_append]
            | cons d code =>
                rw [whole] at marked
                exact absurd marked (unsigned [] d code rfl inCode)
      · next unsigned =>
          change (c :: (splitCommentFrom marker (place.step c) rest).1,
            (splitCommentFrom marker (place.step c) rest).2) =
              (code, comment) ↔ _
          rw [Prod.mk.injEq]
          cases code with
          | nil =>
              refine iff_of_false (fun same => List.cons_ne_nil _ _ same.1) ?_
              rintro ⟨whole, -, signed⟩
              obtain rfl : c :: rest = comment := whole
              obtain ⟨inCode, marked⟩ := signed (List.cons_ne_nil c rest)
              exact unsigned ⟨inCode, List.isPrefixOf_iff_prefix.mpr marked⟩
          | cons d code =>
              have later : splitCommentFrom marker (place.step c) rest =
                  (code, comment) ↔ _ :=
                induction
              rw [Prod.ext_iff] at later
              rw [List.cons.injEq, and_assoc, later, unsigned_cons,
                List.cons_append, List.cons.injEq]
              constructor
              · rintro ⟨rfl, rfl, further, signed⟩
                refine ⟨⟨rfl, rfl⟩, ⟨fun inCode marked =>
                  unsigned ⟨inCode, ?_⟩, further⟩, signed⟩
                exact List.isPrefixOf_iff_prefix.mpr marked
              · rintro ⟨⟨rfl, rfl⟩, ⟨-, further⟩, signed⟩
                exact ⟨rfl, rfl, further, signed⟩

/-- A line is cut in front of the first marker that stands in code. -/
theorem splitComment_eq_iff :
    splitComment marker line = (code, comment) ↔
      line = code ++ comment ∧ Unsigned marker .code code comment ∧
        (comment ≠ [] → Quoting.after .code code = .code ∧
          marker <+: comment) :=
  splitCommentFrom_eq_iff

theorem unsigned_splitComment (marker line : Text) :
    Unsigned marker .code (splitComment marker line).1 [] := by
  have same : splitComment marker line =
      ((splitComment marker line).1, (splitComment marker line).2) := rfl
  obtain ⟨-, unsigned, -⟩ := splitComment_eq_iff.mp same
  intro front c rest whole inCode marked
  rw [List.append_nil] at marked
  exact unsigned front c rest whole inCode
    (marked.trans (List.prefix_append _ _))

/-! ## Levels -/

/-- Where a reader of a line stands: in code or in a literal, and in how many
brackets. -/
structure Level where
  place : Quoting
  depth : Nat
  deriving DecidableEq, Repr

namespace Level

/-- Outside literals and brackets, as at the beginning of a line. -/
def top : Level :=
  { place := .code
    depth := 0 }

/-- Brackets count in code only. -/
def step (level : Level) (c : Char) : Level :=
  { place := level.place.step c
    depth :=
      if level.place = .code then depthBehind level.depth c else level.depth }

def after (level : Level) (text : Text) : Level :=
  text.foldl step level

@[simp]
theorem after_nil (level : Level) : level.after [] = level :=
  rfl

@[simp]
theorem after_cons (level : Level) (c : Char) (rest : Text) :
    level.after (c :: rest) = (level.step c).after rest :=
  rfl

@[simp]
theorem after_append (level : Level) (front rest : Text) :
    level.after (front ++ rest) = (level.after front).after rest :=
  List.foldl_append

@[simp]
theorem place_after (level : Level) (text : Text) :
    (level.after text).place = level.place.after text := by
  induction text generalizing level with
  | nil => rfl
  | cons c rest induction => exact induction (level.step c)

end Level

/-- Neither a quote nor a bracket. -/
def isPlain (c : Char) : Bool :=
  !(Quoting.isQuote c || opensBracket c || closesBracket c)

theorem step_top {c : Char} (plain : isPlain c = true) :
    Level.top.step c = .top := by
  rw [isPlain, Bool.not_eq_true', Bool.or_eq_false_iff,
    Bool.or_eq_false_iff] at plain
  obtain ⟨⟨quote, opens⟩, closes⟩ := plain
  simp [Level.step, Level.top, Quoting.step, depthBehind, quote, opens, closes]

theorem after_top {text : Text} (plain : ∀ c ∈ text, isPlain c = true) :
    Level.top.after text = .top := by
  induction text with
  | nil => rfl
  | cons c rest induction =>
      obtain ⟨here, behind⟩ := List.forall_mem_cons.mp plain
      rw [Level.after_cons, step_top here, induction behind]

/-- Behind this front of a line a reader is outside literals and brackets. -/
def Outside (front : Text) : Prop :=
  Level.top.after front = .top

/-- Nowhere in the line does the character stand where the reader is as said. -/
def Nowhere (c : Char) (there : Level → Prop) (line : Text) : Prop :=
  ∀ front rest, line = front ++ c :: rest → ¬ there (Level.top.after front)

section

variable {c : Char} {there : Level → Prop} {front rest : Text}

theorem Nowhere.of_prefix (nowhere : Nowhere c there line)
    (isFront : front <+: line) :
    Nowhere c there front := by
  obtain ⟨behind, rfl⟩ := isFront
  rintro inside later rfl
  exact nowhere inside (later ++ behind) (by simp)

/-- What stands in front may be taken away and put there if it leads nowhere. -/
theorem nowhere_append_iff (outside : Outside front) (apart : c ∉ front) :
    Nowhere c there (front ++ rest) ↔ Nowhere c there rest := by
  constructor
  · rintro nowhere inside later rfl held
    refine nowhere (front ++ inside) later (List.append_assoc ..).symm ?_
    rwa [Level.after_append, outside]
  · intro nowhere inside later whole held
    rcases List.append_eq_append_iff.mp whole with
      ⟨more, rfl, same⟩ | ⟨more, rfl, same⟩
    · refine nowhere more later same ?_
      rwa [Level.after_append, outside] at held
    · cases more with
      | nil =>
          refine nowhere [] later same.symm ?_
          rw [List.append_nil] at outside
          rwa [outside] at held
      | cons d more =>
          cases same
          exact apart (by simp)

theorem Nowhere.append (nowhere : Nowhere c there line) (apart : c ∉ rest) :
    Nowhere c there (line ++ rest) := by
  intro inside later whole
  rcases List.append_eq_append_iff.mp whole with
    ⟨more, rfl, rfl⟩ | ⟨more, rfl, same⟩
  · exact absurd (by simp) apart
  · cases more with
    | nil =>
        rw [List.nil_append] at same
        exact absurd (by simp [← same]) apart
    | cons d more =>
        cases same
        exact nowhere inside more rfl

end

theorem isPlain_of_isBlank {c : Char} (blank : Text.isBlank c = true) :
    isPlain c = true := by
  simp only [isPlain, Quoting.isQuote, opensBracket, closesBracket,
    Bool.not_eq_true', Bool.or_eq_false_iff, beq_eq_false_iff_ne]
  refine ⟨⟨⟨⟨?_, ?_⟩, ?_⟩, ⟨?_, ?_⟩, ?_⟩, ⟨?_, ?_⟩, ?_⟩ <;>
    · rintro rfl
      exact absurd blank (by decide)

theorem isQuote_of_isBlank {c : Char} (blank : Text.isBlank c = true) :
    Quoting.isQuote c = false := by
  have plain := isPlain_of_isBlank blank
  rw [isPlain, Bool.not_eq_true', Bool.or_eq_false_iff,
    Bool.or_eq_false_iff] at plain
  exact plain.1.1

theorem outside_of_blank {front : Text}
    (blank : ∀ c ∈ front, Text.isBlank c = true) :
    Outside front :=
  after_top fun c member => isPlain_of_isBlank (blank c member)

/-! ## Separators -/

variable {separator target : Char} {level : Level} {text : Text}

theorem topLevelMarksFrom_cons (plain : isPlain target = true) {c : Char}
    {rest : Text} (unsigned : level.place = .code → ¬ marker <+: c :: rest) :
    topLevelMarksFrom target marker level.place level.depth (c :: rest) =
      decide (level = .top ∧ c = target) ::
        topLevelMarksFrom target marker (level.step c).place
          (level.step c).depth rest := by
  obtain ⟨place, depth⟩ := level
  cases place with
  | literal quote escaped => simp [topLevelMarksFrom, Level.step, Level.top]
  | code =>
      have noMarker : ¬ marker.isPrefixOf (c :: rest) = true := fun marked =>
        unsigned rfl (List.isPrefixOf_iff_prefix.mp marked)
      rw [topLevelMarksFrom, if_neg noMarker]
      by_cases here : c = target
      · rw [isPlain, Bool.not_eq_true', ← here] at plain
        simp [Level.step, Level.top, ← here, plain, beq_eq_decide]
      · simp [Level.step, Level.top, here]

theorem any_topLevelMarksFrom (plain : isPlain target = true) (level : Level)
    (unsigned : Unsigned marker level.place text []) :
    (topLevelMarksFrom target marker level.place level.depth text).any id =
      true ↔
      ∃ front rest, text = front ++ target :: rest ∧
      level.after front = .top := by
  induction text generalizing level with
  | nil => simp [topLevelMarksFrom]
  | cons c rest induction =>
      obtain ⟨here, behind⟩ := unsigned_cons.mp unsigned
      rw [List.append_nil] at here
      rw [topLevelMarksFrom_cons plain here, List.any_cons, Bool.or_eq_true,
        induction (level.step c) behind, id, decide_eq_true_iff]
      constructor
      · rintro (⟨atTop, rfl⟩ | ⟨front, later, rfl, atTop⟩)
        · exact ⟨[], rest, rfl, atTop⟩
        · exact ⟨c :: front, later, rfl, atTop⟩
      · rintro ⟨front, later, whole, atTop⟩
        cases front with
        | nil =>
            cases whole
            exact .inl ⟨atTop, rfl⟩
        | cons d front =>
            cases whole
            exact .inr ⟨front, later, rfl, atTop⟩

/-- Whether a line has a character outside literals and brackets. -/
theorem hasTopLevel_iff (plain : isPlain target = true)
    (unsigned : Unsigned marker .code text []) :
    hasTopLevel target marker text = true ↔
      ∃ front rest, text = front ++ target :: rest ∧ Outside front :=
  any_topLevelMarksFrom plain .top unsigned

/-- The pieces of a text that is read from the level on. A separator parts two
of them exactly if the reader comes to it outside literals and brackets. -/
structure Divides (separator : Char) (level : Level) (text : Text)
    (pieces : List Text) :
    Prop where
  some : pieces ≠ []
  whole : [separator].intercalate pieces = text
  parted : ∀ front piece behind, pieces = front ++ piece :: behind →
    behind ≠ [] →
    level.after ([separator].intercalate (front ++ [piece])) = .top
  unparted : ∀ front inside rest behind,
    pieces = front ++ (inside ++ separator :: rest) :: behind →
      level.after ([separator].intercalate (front ++ [inside])) ≠ .top

theorem divides_nil : Divides separator level [] [[]] where
  some := List.cons_ne_nil _ _
  whole := rfl
  parted := by
    intro front piece behind whole more
    cases front with
    | nil => exact absurd (List.cons.inj whole).2.symm more
    | cons next front => simp at whole
  unparted := by
    intro front inside rest behind whole
    cases front with
    | nil => simp at whole
    | cons next front => simp at whole

theorem Divides.cut (plain : isPlain separator = true) {pieces : List Text}
    (divides : Divides separator .top text pieces) :
    Divides separator .top (separator :: text) ([] :: pieces) where
  some := List.cons_ne_nil _ _
  whole := by
    rw [List.intercalate_cons_of_ne_nil divides.some, divides.whole]; rfl
  parted := by
    intro front piece behind whole more
    cases front with
    | nil =>
        cases whole
        rfl
    | cons next front =>
        cases whole
        rw [List.cons_append, List.intercalate_cons_of_ne_nil (by simp)]
        change (Level.top.step separator).after _ = _
        rw [step_top plain]
        exact divides.parted front piece behind rfl more
  unparted := by
    intro front inside rest behind whole
    cases front with
    | nil => simp at whole
    | cons next front =>
        cases whole
        rw [List.cons_append, List.intercalate_cons_of_ne_nil (by simp)]
        change (Level.top.step separator).after _ ≠ _
        rw [step_top plain]
        exact divides.unparted front inside rest behind rfl

theorem Divides.keep {c : Char} (other : ¬ (level = .top ∧ c = separator))
    {piece : Text} {pieces : List Text}
    (divides : Divides separator (level.step c) text (piece :: pieces)) :
    Divides separator level (c :: text) ((c :: piece) :: pieces) where
  some := List.cons_ne_nil _ _
  whole := by rw [List.intercalate_cons_cons_left, divides.whole]
  parted := by
    intro front next behind whole more
    cases front with
    | nil =>
        cases whole
        exact divides.parted [] piece _ rfl more
    | cons first front =>
        cases whole
        rw [List.cons_append, List.intercalate_cons_cons_left]
        exact divides.parted (piece :: front) next behind rfl more
  unparted := by
    intro front inside rest behind whole
    cases front with
    | nil =>
        cases inside with
        | nil =>
            cases whole
            exact fun atTop => other ⟨atTop, rfl⟩
        | cons d inside =>
            cases whole
            exact divides.unparted [] inside rest _ rfl
    | cons first front =>
        cases whole
        rw [List.cons_append, List.intercalate_cons_cons_left]
        exact divides.unparted (piece :: front) inside rest behind rfl

theorem divides_cutAtMarks (plain : isPlain separator = true) (level : Level)
    (unsigned : Unsigned marker level.place text []) :
    ∃ piece pieces, cutAtMarks text
        (topLevelMarksFrom separator marker level.place level.depth text) =
          piece :: pieces ∧
      Divides separator level text (piece :: pieces) := by
  induction text generalizing level with
  | nil => exact ⟨[], [], rfl, divides_nil⟩
  | cons c rest induction =>
      obtain ⟨here, behind⟩ := unsigned_cons.mp unsigned
      rw [List.append_nil] at here
      obtain ⟨piece, pieces, cut, divides⟩ := induction (level.step c) behind
      rw [topLevelMarksFrom_cons plain here, cutAtMarks, cut]
      split
      · next marked =>
          obtain ⟨rfl, rfl⟩ := decide_eq_true_iff.mp marked
          rw [step_top plain] at divides
          exact ⟨[], piece :: pieces, rfl, divides.cut plain⟩
      · next unmarked =>
          rw [decide_eq_true_iff] at unmarked
          exact ⟨c :: piece, pieces, rfl, divides.keep unmarked⟩

/-- A line is cut at the separators outside literals and brackets, and nowhere
else. -/
theorem divides_splitTopLevel (plain : isPlain separator = true)
    (unsigned : Unsigned marker .code text []) :
    Divides separator .top text (splitTopLevel separator marker text) := by
  obtain ⟨piece, pieces, cut, divides⟩ := divides_cutAtMarks plain .top unsigned
  have same : splitTopLevel separator marker text = piece :: pieces := cut
  rwa [same]

/-! ### Pieces on their own -/

section

variable {pieces front behind : List Text} {piece : Text}
  (divides : Divides separator .top text pieces)

include divides

/-- In a piece the reader stands as if the line began with it. -/
theorem Divides.after_intercalate (plain : isPlain separator = true)
    (place : pieces = front ++ piece :: behind) (inside : Text) :
    Level.top.after ([separator].intercalate (front ++ [inside])) =
      Level.top.after inside := by
  rcases List.eq_nil_or_concat front with rfl | ⟨others, last, rfl⟩
  · rw [List.nil_append, List.intercalate_singleton]
  · rw [List.concat_eq_append] at place ⊢
    have before :=
      divides.parted others last (piece :: behind) (by simp [place]) (by simp)
    rw [Text.intercalate_append (by simp) (by simp), List.intercalate_singleton,
      Level.after_append, Level.after_append, before]
    change (Level.top.step separator).after inside = _
    rw [step_top plain]

theorem Divides.outside (plain : isPlain separator = true)
    (place : pieces = front ++ piece :: behind) (more : behind ≠ []) :
    Outside piece := by
  have parted := divides.parted front piece behind place more
  rwa [divides.after_intercalate plain place] at parted

/-- Behind the last piece the reader stands as behind the line. -/
theorem Divides.after_last (plain : isPlain separator = true)
    (last : pieces = front ++ [piece]) :
    Level.top.after piece = Level.top.after text := by
  rw [← divides.whole, last, divides.after_intercalate plain last]

theorem Divides.nowhere (plain : isPlain separator = true)
    (member : piece ∈ pieces) :
    Nowhere separator (· = .top) piece := by
  obtain ⟨front, behind, place⟩ := List.append_of_mem member
  rintro inside rest rfl atTop
  refine divides.unparted front inside rest behind place ?_
  rwa [divides.after_intercalate plain place]

/-- What is nowhere in the line is nowhere in a piece. -/
theorem Divides.nowhere_of_line (plain : isPlain separator = true)
    (member : piece ∈ pieces) {c : Char} {there : Level → Prop}
    (nowhere : Nowhere c there text) :
    Nowhere c there piece := by
  obtain ⟨front, behind, place⟩ := List.append_of_mem member
  rintro inside rest rfl held
  have isFront : [separator].intercalate (front ++ [inside ++ c :: rest]) <+:
      text := by
    rw [← divides.whole, place.trans (List.append_cons front _ behind)]
    exact Text.intercalate_prefix _ _ _
  refine nowhere.of_prefix isFront _ rest
    (Text.intercalate_concat _ front inside _) ?_
  rwa [divides.after_intercalate plain place]

end

/-- A line that has no such separator is one piece. -/
theorem Divides.eq_singleton {pieces : List Text}
    (divides : Divides separator .top text pieces)
    (nowhere : Nowhere separator (· = .top) text) : pieces = [text] := by
  cases pieces with
  | nil => exact absurd rfl divides.some
  | cons piece pieces =>
      cases pieces with
      | nil => rw [← divides.whole, List.intercalate_singleton]
      | cons next pieces =>
          have atTop :=
            divides.parted [] piece (next :: pieces) rfl (List.cons_ne_nil _ _)
          rw [List.nil_append, List.intercalate_singleton] at atTop
          have whole := divides.whole
          rw [List.intercalate_cons_of_ne_nil (List.cons_ne_nil _ _),
            List.append_assoc] at whole
          exact absurd atTop (nowhere piece _ whole.symm)

/-! ### There is one way to cut a line -/

section

variable {piece next : Text} {pieces others : List Text}

theorem Divides.eq_append
    (divides : Divides separator level text (piece :: pieces)) :
    text = piece ++ if pieces = [] then [] else separator ::
      [separator].intercalate pieces := by
  rw [← divides.whole]
  split
  · next last =>
      rw [last, List.append_nil, List.intercalate_singleton]
  · next more =>
      rw [List.intercalate_cons_of_ne_nil more, List.append_assoc]
      rfl

/-- Behind the first piece and its separator a line begins anew. -/
theorem Divides.tail (plain : isPlain separator = true)
    (divides : Divides separator .top text (piece :: pieces))
    (more : pieces ≠ []) :
    Divides separator .top ([separator].intercalate pieces) pieces := by
  have first : Outside piece :=
    divides.outside plain (List.nil_append _).symm more
  have anew {items : List Text} (some : items ≠ []) :
      Level.top.after ([separator].intercalate (piece :: items)) =
        Level.top.after ([separator].intercalate items) := by
    rw [List.intercalate_cons_of_ne_nil some, Level.after_append,
      Level.after_append, first]
    change (Level.top.step separator).after _ = _
    rw [step_top plain]
  exact
    { some := more
      whole := rfl
      parted := fun front last behind place later => by
        rw [← anew (by simp)]
        exact divides.parted (piece :: front) last behind
          (congrArg (piece :: ·) place) later
      unparted := fun front inside rest behind place => by
        rw [← anew (by simp)]
        exact divides.unparted (piece :: front) inside rest behind
          (congrArg (piece :: ·) place) }

theorem Divides.first_prefix (plain : isPlain separator = true)
    (one : Divides separator .top text (piece :: pieces))
    (two : Divides separator .top text (next :: others)) : piece <+: next := by
  have front : piece <+: text := ⟨_, one.eq_append.symm⟩
  have other : next <+: text := ⟨_, two.eq_append.symm⟩
  rcases List.prefix_or_prefix_of_prefix front other with
    shorter | ⟨more, longer⟩
  · exact shorter
  · cases more with
    | nil => exact ⟨[], by rw [← longer, List.append_nil, List.append_nil]⟩
    | cons c more =>
        -- the longer piece would go on with the separator behind the shorter
        -- one
        have whole := one.eq_append.symm.trans two.eq_append
        rw [← longer, List.append_assoc, List.append_cancel_left_eq,
          List.cons_append] at whole
        by_cases last : others = []
        · rw [if_pos last] at whole
          cases whole
        · rw [if_neg last] at whole
          obtain rfl : c = separator := (List.cons.inj whole).1
          exact absurd (two.outside plain (List.nil_append _).symm last)
            (one.nowhere plain List.mem_cons_self next more longer.symm)

theorem Divides.unique (plain : isPlain separator = true)
    (one : Divides separator .top text pieces)
    (two : Divides separator .top text others) :
    pieces = others := by
  induction pieces generalizing text others with
  | nil => exact absurd rfl one.some
  | cons piece pieces induction =>
      cases others with
      | nil => exact absurd rfl two.some
      | cons next others =>
          obtain rfl : piece = next := by
            have shorter := Divides.first_prefix plain one two
            have longer := Divides.first_prefix plain two one
            exact shorter.eq_of_length_le longer.length_le
          have rest := one.eq_append.symm.trans two.eq_append
          rw [List.append_cancel_left_eq] at rest
          by_cases last : pieces = []
          · rw [if_pos last] at rest
            split at rest
            · next alsoLast => rw [last, alsoLast]
            · cases rest
          · rw [if_neg last] at rest
            split at rest
            · cases rest
            · next more =>
                have behind := two.tail plain more
                rw [← (List.cons.inj rest).2] at behind
                rw [induction (one.tail plain last) behind]

end

end Scan

end LintMend
