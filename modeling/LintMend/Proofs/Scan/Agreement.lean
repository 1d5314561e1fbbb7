import LintMend.Proofs.Scan.Segments

/-!
# The scanners agree on literals

Three scanners go through a line: one cuts off the comment, one changes what is
outside literals, and one looks for a character outside literals and brackets.
They take the same characters for those of literals. `bare` is the text with its
literals blotted out; what each scanner does is said by it.
-/

namespace LintMend

namespace Scan

/-- The characters outside literals, and nothing in the place of each other
one. -/
def Segment.bare : Segment → List (Option Char)
  | code text => text.map some
  | literal text => text.map fun _ => none

def bare (found : List Segment) : List (Option Char) :=
  found.flatMap Segment.bare

/-- The position is one of a literal, whose quotes are included. -/
def InLiteral (found : List Segment) (position : Nat) : Prop :=
  ∃ before literal behind, found = before ++ .literal literal :: behind ∧
    (before.flatMap Segment.text).length ≤ position ∧
    position < (before.flatMap Segment.text ++ literal).length

/-- How deep in brackets the position is. Brackets in literals do not count, and
one that closes nothing is passed over. -/
def depthBefore (found : List Segment) (position : Nat) : Nat :=
  (((bare found).take position).filterMap id).foldl depthBehind 0

variable {found : List Segment} {segment : Segment} {position : Nat}

/-! ## Positions -/

@[simp]
theorem Segment.bare_code (text : Text) : (code text).bare = text.map some :=
  rfl

@[simp]
theorem Segment.bare_literal (text : Text) :
    (literal text).bare = text.map fun _ => none :=
  rfl

@[simp]
theorem bare_nil : bare [] = [] :=
  rfl

@[simp]
theorem bare_cons : bare (segment :: found) = segment.bare ++ bare found :=
  List.flatMap_cons

@[simp]
theorem Segment.length_bare (segment : Segment) :
    segment.bare.length = segment.text.length := by
  cases segment <;> exact List.length_map _

theorem inLiteral_cons :
    InLiteral (segment :: found) position ↔
      segment = .literal segment.text ∧ position < segment.text.length ∨
        segment.text.length ≤ position ∧
        InLiteral found (position - segment.text.length) := by
  constructor
  · rintro ⟨before, literal, behind, divided, starts, ends⟩
    cases before with
    | nil =>
        cases divided
        exact .inl ⟨rfl, ends⟩
    | cons first before =>
        cases divided
        simp only [List.flatMap_cons, List.length_append] at starts ends
        refine .inr ⟨by omega, before, literal, behind, rfl, by omega, ?_⟩
        rw [List.length_append]
        omega
  · rintro (⟨isLiteral, inside⟩ |
        ⟨later, before, literal, behind, rfl, starts, ends⟩)
    · exact ⟨[], segment.text, found, by
        rw [← isLiteral]; rfl, Nat.zero_le _, inside⟩
    · refine ⟨segment :: before, literal, behind, rfl, ?_⟩
      simp only [List.flatMap_cons, List.length_append] at starts ends ⊢
      omega

theorem Segment.bare_eq_some_none_iff
    (inside : position < segment.text.length) :
    segment.bare[position]? = some none ↔ segment = .literal segment.text := by
  cases segment with
  | code run => simp [text]
  | literal literal => simpa [text, List.getElem?_replicate] using inside

theorem Segment.text_of_bare {c : Char}
    (here : segment.bare[position]? = some (some c)) :
    segment.text[position]? = some c := by
  cases segment with
  | code run => simpa [text] using here
  | literal literal => simp [List.getElem?_replicate] at here

theorem inLiteral_iff :
    InLiteral found position ↔ (bare found)[position]? = some none := by
  induction found generalizing position with
  | nil => simp [InLiteral]
  | cons segment found induction =>
      rw [inLiteral_cons, induction, bare_cons, List.getElem?_append,
        segment.length_bare]
      split
      · next inside =>
          rw [Segment.bare_eq_some_none_iff inside]
          simp [inside, Nat.not_le.mpr inside]
      · next later => simp [later, Nat.not_lt.mp later]

theorem text_of_bare {c : Char}
    (here : (bare found)[position]? = some (some c)) :
    (found.flatMap Segment.text)[position]? = some c := by
  induction found generalizing position with
  | nil => simp at here
  | cons segment found induction =>
      rw [bare_cons, List.getElem?_append, segment.length_bare] at here
      rw [List.flatMap_cons, List.getElem?_append]
      split at here
      · next inside => rw [if_pos inside, Segment.text_of_bare here]
      · next later => rw [if_neg later, induction here]

@[simp]
theorem length_bare (found : List Segment) :
    (bare found).length = (found.flatMap Segment.text).length := by
  simp [bare]

/-- The bare text has the characters that are in no literal. -/
theorem bare_eq_some_some_iff {c : Char} :
    (bare found)[position]? = some (some c) ↔
      (found.flatMap Segment.text)[position]? = some c ∧
      ¬ InLiteral found position := by
  rw [inLiteral_iff]
  constructor
  · intro here
    exact ⟨text_of_bare here, by simp [here]⟩
  · rintro ⟨here, outside⟩
    have inside : position < (bare found).length := by
      rw [length_bare]
      exact (List.getElem?_eq_some_iff.mp here).1
    cases shown : (bare found)[position]? with
    | none =>
        exact absurd inside
          (Nat.not_lt.mpr (List.getElem?_eq_none_iff.mp shown))
    | some shown' =>
        cases shown' with
        | none => exact absurd shown outside
        | some d =>
            rw [text_of_bare shown] at here
            rw [Option.some.inj here]

/-! ## The stretches -/

variable {marker line code comment text rest : Text} {place : Quoting}
  {target separator : Char}

theorem segmentsFrom_head (place : Quoting) (text : Text) :
    ∃ run behind, segmentsFrom place text =
      (if place = .code then Segment.code run else .literal run) :: behind := by
  induction text generalizing place with
  | nil => cases place <;> exact ⟨[], [], rfl⟩
  | cons c rest induction =>
      obtain ⟨run, behind, further⟩ := induction (place.step c)
      cases place with
      | code =>
          rw [segmentsFrom]
          split
          · exact ⟨_, _, rfl⟩
          · next unquoted =>
              rw [Quoting.step, if_neg unquoted, if_pos rfl] at further
              rw [Quoting.step, if_neg unquoted, further]
              exact ⟨_, _, rfl⟩
      | literal quote escaped =>
          rw [segmentsFrom]
          split
          · exact ⟨_, _, rfl⟩
          · next stays =>
              rw [further, if_neg stays]
              exact ⟨_, _, rfl⟩

/-- The bare text shows a character exactly if the reader comes to it in code
and it is no quote. -/
theorem bare_segmentsFrom_cons (place : Quoting) (c : Char) (rest : Text) :
    bare (segmentsFrom place (c :: rest)) =
      (if place = .code ∧ Quoting.isQuote c = false then some c else none) ::
        bare (segmentsFrom (place.step c) rest) := by
  obtain ⟨run, behind, further⟩ := segmentsFrom_head (place.step c) rest
  cases place with
  | code =>
      rw [segmentsFrom]
      by_cases quoted : Quoting.isQuote c = true
      · rw [Quoting.step, if_pos quoted] at further ⊢
        simp [further, quoted, consSegment, Segment.cons]
      · rw [Quoting.step, if_neg quoted] at further ⊢
        simp [further, quoted, consSegment, Segment.cons]
  | literal quote escaped =>
      rw [segmentsFrom]
      by_cases ends : Quoting.step (.literal quote escaped) c = .code
      · simp [ends]
      · rw [if_neg ends] at further
        simp [further, ends, consSegment, Segment.cons]

theorem getElem?_bare_segmentsFrom (place : Quoting) (front : Text) (c : Char)
    (rest : Text) :
    (bare (segmentsFrom place (front ++ c :: rest)))[front.length]? =
      some (if place.after front = .code ∧
          Quoting.isQuote c = false then some c else none) := by
  induction front generalizing place with
  | nil =>
      rw [List.nil_append, bare_segmentsFrom_cons]
      rfl
  | cons d front induction =>
      rw [List.cons_append, bare_segmentsFrom_cons, List.length_cons,
        List.getElem?_cons_succ, induction]
      rfl

/-! ## Comments -/

/-- Where a marker stands in the code, it begins in a literal. -/
theorem Unsigned.inLiteral (some : marker ≠ []) {front : Text}
    (unsigned : Unsigned marker .code (front ++ marker ++ rest) []) :
    InLiteral (segments (front ++ marker ++ rest)) front.length := by
  obtain ⟨sign, more, rfl⟩ := List.exists_cons_of_ne_nil some
  have whole : front ++ sign :: more ++ rest =
      front ++ sign :: (more ++ rest) := by simp
  rw [whole] at unsigned ⊢
  rw [inLiteral_iff, segments, getElem?_bare_segmentsFrom, if_neg]
  rintro ⟨inCode, -⟩
  exact unsigned front sign (more ++ rest) rfl inCode (by simp)

/-! ## Characters outside literals and brackets -/

theorem getElem?_topLevelMarksFrom {depth : Nat}
    (unsigned : Unsigned marker place text []) :
    (topLevelMarksFrom target marker place depth text)[position]? = some true ↔
      isPlain target = true ∧ (bare (segmentsFrom place text))[position]? =
        some (some target) ∧
        (((bare (segmentsFrom place text)).take position).filterMap id).foldl
            depthBehind depth =
          0 := by
  induction text generalizing place depth position with
  | nil => cases place <;> simp [topLevelMarksFrom, segmentsFrom]
  | cons c rest induction =>
      obtain ⟨here, behind⟩ := unsigned_cons.mp unsigned
      rw [List.append_nil, ← List.isPrefixOf_iff_prefix] at here
      rw [bare_segmentsFrom_cons]
      cases place with
      | literal quote escaped =>
          rw [topLevelMarksFrom]
          cases position with
          | zero => simp
          | succ position => simpa using induction behind
      | code =>
          rw [topLevelMarksFrom, if_neg (here rfl)]
          cases position with
          | zero =>
              by_cases same : c = target
              · subst same
                by_cases quoted : Quoting.isQuote c = true <;>
                  simp [isPlain, quoted]
              · simp [same]
          | succ position =>
              by_cases quoted : Quoting.isQuote c = true
              · simp [induction behind, quoted, depthBehind_of_isQuote quoted]
              · simp [induction behind, quoted]

theorem getElem?_topLevelMarks (unsigned : Unsigned marker .code text []) :
    (topLevelMarks target marker text)[position]? = some true ↔
      isPlain target = true ∧ text[position]? = some target ∧
        ¬ InLiteral (segments text) position ∧
        depthBefore (segments text) position = 0 := by
  have shown := @bare_eq_some_some_iff (segments text) position target
  rw [segments_text] at shown
  rw [← and_assoc (b := ¬ _), ← shown]
  exact getElem?_topLevelMarksFrom unsigned

/-- Nothing of a comment is reported, and what is reported of the code does not
depend on it. -/
theorem topLevelMarksFrom_append {depth : Nat}
    (unsigned : Unsigned marker place code comment)
    (signed : comment ≠ [] → place.after code = .code ∧ marker <+: comment) :
    topLevelMarksFrom target marker place depth (code ++ comment) =
      topLevelMarksFrom target marker place depth code ++
      List.replicate comment.length false := by
  induction code generalizing place depth with
  | nil =>
      cases comment with
      | nil => rfl
      | cons c rest =>
          obtain ⟨inCode, marked⟩ := signed (List.cons_ne_nil c rest)
          obtain rfl : place = .code := inCode
          simp only [List.nil_append, topLevelMarksFrom,
            if_pos (List.isPrefixOf_iff_prefix.mpr marked), List.length_cons]
  | cons c rest induction =>
      obtain ⟨here, behind⟩ := unsigned_cons.mp unsigned
      cases place with
      | literal quote escaped =>
          rw [List.cons_append, topLevelMarksFrom, topLevelMarksFrom,
            induction behind signed]
          rfl
      | code =>
          have unmarked : ¬ marker.isPrefixOf (c :: rest ++ comment) = true :=
            fun marked => here rfl (List.isPrefixOf_iff_prefix.mp marked)
          have inside : ¬ marker.isPrefixOf (c :: rest) = true := fun marked =>
            here rfl ((List.isPrefixOf_iff_prefix.mp marked).trans
                (List.prefix_append _ _))
          rw [List.cons_append] at unmarked ⊢
          rw [topLevelMarksFrom, topLevelMarksFrom, if_neg unmarked,
            if_neg inside, induction behind signed]
          rfl

/-! ## Pieces -/

theorem text_of_topLevelMarksFrom {depth : Nat}
    (reported : (topLevelMarksFrom target marker place depth text)[position]? =
      some true) :
    text[position]? = some target := by
  induction text generalizing place depth position with
  | nil => simp [topLevelMarksFrom] at reported
  | cons c rest induction =>
      cases place with
      | literal quote escaped =>
          rw [topLevelMarksFrom] at reported
          cases position with
          | zero => cases reported
          | succ position => exact induction reported
      | code =>
          rw [topLevelMarksFrom] at reported
          split at reported
          · simp [List.getElem?_replicate] at reported
          · cases position with
            | zero =>
                rw [List.getElem?_cons_zero, Option.some.injEq,
                  Bool.and_eq_true, Bool.and_eq_true] at reported
                exact congrArg some (beq_iff_eq.mp reported.1.2)
            | succ position => exact induction reported

theorem cutAtMarks_ne_nil (text : Text) (marks : List Bool) :
    cutAtMarks text marks ≠ [] := by
  fun_induction cutAtMarks text marks <;> simp_all

theorem intercalate_cutAtMarks {marks : List Bool}
    (separators : ∀ position : Nat,
    marks[position]? = some true → text[position]? = some separator) :
    [separator].intercalate (cutAtMarks text marks) = text := by
  induction text generalizing marks with
  | nil => rfl
  | cons c rest induction =>
      cases marks with
      | nil =>
          have behind : [separator].intercalate (cutAtMarks rest []) = rest :=
            induction (by simp)
          rw [cutAtMarks, Text.intercalate_modifyHead c (cutAtMarks_ne_nil _ _),
            behind]
      | cons mark marks =>
          have behind :
              [separator].intercalate (cutAtMarks rest marks) = rest :=
            induction fun position => separators (position + 1)
          rw [cutAtMarks]
          split
          · next marked =>
              have same := separators 0 (congrArg some marked)
              rw [List.intercalate_cons_of_ne_nil (cutAtMarks_ne_nil _ _),
                behind]
              exact congrArg (· :: rest) (Option.some.inj same).symm
          · rw [Text.intercalate_modifyHead c (cutAtMarks_ne_nil _ _), behind]

/-! ## One reading -/

/-- What the scanners make of a line, by the stretches of its code. -/
structure ReadAlike (marker line code comment : Text)
    (found : List Segment) : Prop where
  /-- Nothing else is a division of the code into runs and literals. -/
  divided : ∀ other, Layout code other ↔ other = found
  whole : code ++ comment = line
  signed : comment = [] ∨ marker <+: comment
  /-- Where the marker stands in the code, it begins in a literal. -/
  unsigned : ∀ front rest, code = front ++ marker ++ rest →
    InLiteral found front.length
  unchanged : mapUnquoted id code = code
  /-- A change is made to each run in turn, and to nothing else. -/
  changed : ∀ change,
    mapUnquoted change code =
      (found.map (Segment.changed change)).flatMap Segment.text
  /-- Reported is the target wherever it stands outside literals and brackets,
  if it is neither a quote nor a bracket, and nothing else. -/
  reported : ∀ target (position : Nat),
    (topLevelMarks target marker code)[position]? = some true ↔
      isPlain target = true ∧ code[position]? = some target ∧
      ¬ InLiteral found position ∧
        depthBefore found position = 0
  /-- In the line nothing more is reported than in its code. -/
  stopped : ∀ target, topLevelMarks target marker line =
    topLevelMarks target marker code ++ List.replicate comment.length false
  joined : ∀ separator,
    [separator].intercalate (splitTopLevel separator marker code) = code
  parted : ∀ separator, isPlain separator = true →
    Divides separator .top code (splitTopLevel separator marker code)

/-- The scanners take the same characters of a line for those of literals. -/
theorem scanners_agree (some : marker ≠ []) (line : Text) :
    ∃ code comment found, splitComment marker line = (code, comment) ∧
      ReadAlike marker line code comment found := by
  have alone := unsigned_splitComment marker line
  rcases split : splitComment marker line with ⟨code, comment⟩
  rw [split] at alone
  obtain ⟨rfl, unsigned, signed⟩ := splitComment_eq_iff.mp split
  refine ⟨code, comment, segments code, rfl, ?_⟩
  exact
    { divided := fun other => layout_iff.trans eq_comm
      whole := rfl
      signed := or_iff_not_imp_left.mpr fun more => (signed more).2
      unsigned := fun front rest same => by
        subst same
        exact alone.inLiteral some
      unchanged := mapUnquoted_eq_self fun _ _ => rfl
      changed := fun change => mapUnquoted_eq change code
      reported := fun target position => getElem?_topLevelMarks alone
      stopped := fun target => topLevelMarksFrom_append unsigned signed
      joined := fun separator => intercalate_cutAtMarks fun position =>
        text_of_topLevelMarksFrom
      parted := fun separator plain => divides_splitTopLevel plain alone }

def markedCode : Text :=
  "f[a, '//\\'', 'b']), c, \"(\"\x60,\x60 ".toList

def markedStretches : List Segment :=
  [.code "f[a, ".toList, .literal "'//\\''".toList, .code ", ".toList,
    .literal "'b'".toList, .code "]), c, ".toList, .literal "\"(\"".toList,
    .code [], .literal "\x60,\x60".toList, .code [' ']]

/-- The marker and a bracket stand in literals, a backslash hides a quote, one
bracket closes nothing, two literals have no code between them, and the comment
opens a literal. -/
theorem markedCode_read_alike :
    ['/', '/'] ≠ [] ∧
      ReadAlike ['/', '/'] (markedCode ++ "// d, 'e".toList) markedCode
        "// d, 'e".toList
        markedStretches ∧
      splitTopLevel ',' ['/', '/'] markedCode =
        ["f[a, '//\\'', 'b'])".toList, " c".toList,
         " \"(\"\x60,\x60 ".toList] := by
  have marker : ['/', '/'] ≠ [] := by decide
  have cut : splitComment ['/', '/'] (markedCode ++ "// d, 'e".toList) =
      (markedCode, "// d, 'e".toList) := by decide +kernel
  have stretches : segments markedCode = markedStretches := by decide +kernel
  obtain ⟨code, comment, found, split, alike⟩ :=
    scanners_agree marker (markedCode ++ "// d, 'e".toList)
  rw [cut] at split
  cases split
  refine ⟨marker, ?_, by decide +kernel⟩
  rwa [(alike.divided markedStretches).mp (layout_iff.mpr stretches)]

end Scan

end LintMend
