import Mathlib.Data.List.Forall2
import LintMend.Proofs.Scan.Strokes

/-!
# Lines on which quotes are enough

The scanners know single quotes only. Three quotes are an empty literal and an
opening quote to them, so they agree with the language about a line if no
literal in three quotes has its quote in the body, except behind backslashes.
`Spelled` says of a text that it is such a line without the comment, and which
literals it has.
-/

namespace LintMend

/-- The empty text, or one that begins with the sign of a comment. -/
def Scan.IsComment (text : Text) : Prop :=
  text = [] ∨ text.head? = some '#'

/-- The literal may stand in front of the rest. Two quotes with the same one
behind them would be read as the beginning of three. -/
inductive Literal.Fits : Literal → Text → Prop
  | single {quote : Char} {body rest : Text} :
      Literal.isQuote quote = true → Literal.hides quote false body = true →
      (body = [] → rest.head? ≠ some quote) → Fits ⟨[quote], body⟩ rest
  | triple {quote : Char} {body rest : Text} :
      Literal.isQuote quote = true → Literal.hides quote false body = true →
      Fits ⟨[quote, quote, quote], body⟩ rest

/-- A text without comment whose literals quotes alone tell apart. -/
inductive Spelled : Text → List Literal → Prop
  | nil : Spelled [] []
  | code {c : Char} {rest : Text} {literals : List Literal} :
      Scan.isCode c = true → Spelled rest literals →
          Spelled (c :: rest) literals
  | literal {literal : Literal} {rest : Text} {literals : List Literal} :
      literal.Fits rest → Spelled rest literals →
      Spelled (literal.text ++ rest) (literal :: literals)

namespace Literal

theorem isStroke {quote : Char} (isQuote : isQuote quote = true) {body : Text}
    (hides : hides quote false body = true) :
    Scan.IsStroke (quote :: (body ++ [quote])) := by
  have opens : Quoting.isQuote quote = true := by
    rw [Quoting.isQuote_eq, isQuote, Bool.true_or]
  exact ⟨quote, _, rfl, opens, Quoting.closes_of_hides opens hides⟩

/-- Three quotes are two strokes and the beginning of a third one. -/
theorem Fits.strokes {literal : Literal} {rest : Text}
    (fits : literal.Fits rest) :
    ∃ strokes : List Text, literal.text = strokes.flatten ∧ strokes ≠ [] ∧
      ∀ stroke ∈ strokes, Scan.IsStroke stroke := by
  cases fits with
  | @single quote body _ isQuote hides =>
      refine ⟨[quote :: (body ++ [quote])], by
        simp [text], List.cons_ne_nil _ _, ?_⟩
      intro stroke member
      rw [List.mem_singleton.mp member]
      exact isStroke isQuote hides
  | @triple quote body _ isQuote hides =>
      have nothing : Literal.hides quote false [] = true := rfl
      have empty : Scan.IsStroke [quote, quote] := isStroke isQuote nothing
      refine ⟨[[quote, quote], quote :: (body ++ [quote]), [quote, quote]], by
        simp [text],
        List.cons_ne_nil _ _, ?_⟩
      simp only [List.mem_cons, List.not_mem_nil, or_false, forall_eq_or_imp,
        forall_eq]
      exact ⟨empty, isStroke isQuote hides, empty⟩

theorem Fits.text_ne_nil {literal : Literal} {rest : Text}
    (fits : literal.Fits rest) :
    literal.text ≠ [] := by
  cases fits <;> simp [text]

/-- What matters of the rest is whether it begins with a quote. -/
theorem Fits.congr {literal : Literal} {rest other : Text}
    (fits : literal.Fits rest)
    (heads : ∀ quote, isQuote quote = true → other.head? = some quote →
      rest.head? = some quote) :
    literal.Fits other := by
  cases fits with
  | single isQuote hides apart =>
      exact .single isQuote hides fun empty here =>
        apart empty (heads _ isQuote here)
  | triple isQuote hides => exact .triple isQuote hides

theorem Fits.of_prefix {literal : Literal} {rest front : Text}
    (fits : literal.Fits rest) (isFront : front <+: rest) :
    literal.Fits front := by
  refine fits.congr fun quote _ here => ?_
  obtain ⟨behind, rfl⟩ := isFront
  cases front with
  | nil => cases here
  | cons c front => exact here

theorem Fits.append {literal : Literal} {rest behind : Text}
    (fits : literal.Fits rest)
    (unquoted : ∀ quote, isQuote quote = true → behind.head? ≠ some quote) :
    literal.Fits (rest ++ behind) := by
  refine fits.congr fun quote isQuote here => ?_
  cases rest with
  | nil => exact absurd here (unquoted quote isQuote)
  | cons c rest => exact here

end Literal

namespace Spelled

variable {text : Text} {literals : List Literal}

theorem append_code {run : Text} (code : ∀ c ∈ run, Scan.isCode c = true)
    (spelled : Spelled text literals) : Spelled (run ++ text) literals := by
  induction run with
  | nil => exact spelled
  | cons c run induction =>
      exact .code (code c List.mem_cons_self)
        (induction fun d member => code d (List.mem_cons_of_mem c member))

theorem splitComment (spelled : Spelled text literals) {comment : Text}
    (signed : Scan.IsComment comment) :
    Scan.splitComment ['#'] (text ++ comment) = (text, comment) := by
  unfold Scan.splitComment
  induction spelled with
  | nil =>
      rcases signed with rfl | signed
      · rfl
      · cases comment with
        | nil => rfl
        | cons c comment =>
            cases signed
            rfl
  | code code _ induction =>
      have noSign := (Scan.isCode_iff.mp code).2
      rw [List.cons_append, Scan.splitCommentFrom,
        if_neg (Scan.not_marked noSign _ ·.2), Scan.step_of_isCode code,
        induction]
  | @literal literal rest _ fits _ induction =>
      obtain ⟨strokes, text, -, areStrokes⟩ := fits.strokes
      rw [text, List.append_assoc, Scan.splitCommentFrom_strokes areStrokes,
        induction]
      rfl

/-- A change of the code leaves the literals, and puts no quote in front. The
run is the code that has been passed over: it is changed as a whole, with what
follows up to the next literal. -/
private theorem mapUnquoted_run {change : Text → Text}
    (keeps : Scan.KeepsCode change) (spelled : Spelled text literals)
    {run : Text} (code : ∀ c ∈ run, Scan.isCode c = true) :
    Spelled (Scan.mapUnquoted change (run ++ text)) literals ∧
      ∀ quote, Literal.isQuote quote = true →
        (Scan.mapUnquoted change (run ++ text)).head? = some quote →
          (run ++ text).head? = some quote := by
  have unquoted {c : Char} (isCode : Scan.isCode c = true) :
      Literal.isQuote c ≠ true :=
    Bool.eq_false_iff.mp (Scan.isQuote_of_isCode isCode)
  induction spelled generalizing run with
  | nil =>
      rw [List.append_nil, Scan.mapUnquoted_of_isCode code]
      have changed := keeps.code code
      refine ⟨?_, fun quote isQuote here => ?_⟩
      · have whole := Spelled.nil.append_code changed
        rwa [List.append_nil] at whole
      · exact absurd isQuote (unquoted (changed quote (List.mem_of_head? here)))
  | @code c rest literals isCode _ induction =>
      have longer : ∀ d ∈ run ++ [c], Scan.isCode d = true := by
        intro d member
        rcases List.mem_append.mp member with front | last
        · exact code d front
        · rw [List.mem_singleton.mp last]
          exact isCode
      have further := induction longer
      rwa [List.append_assoc] at further
  | @literal literal rest literals fits _ induction =>
      -- a literal in front of changed text still fits there, as no quote has
      -- come to the front
      obtain ⟨strokes, text, some, areStrokes⟩ := fits.strokes
      have ⟨behind, heads⟩ := induction (List.forall_mem_nil _)
      rw [text, Scan.mapUnquoted_strokes keeps code some areStrokes, ← text]
      refine ⟨.append_code (keeps.code code)
        (.literal (fits.congr heads) behind), ?_⟩
      intro quote isQuote here
      cases run with
      | nil =>
          rw [keeps.empty.mpr rfl, List.nil_append,
            List.head?_append_of_ne_nil _ fits.text_ne_nil]
            at here
          rwa [List.nil_append, List.head?_append_of_ne_nil _ fits.text_ne_nil]
      | cons c run =>
          have some : change (c :: run) ≠ [] :=
            fun none => by cases keeps.empty.mp none
          rw [List.head?_append_of_ne_nil _ some] at here
          have changed := keeps.code code quote (List.mem_of_head? here)
          exact absurd isQuote (unquoted changed)

theorem mapUnquoted {change : Text → Text} (keeps : Scan.KeepsCode change)
    (spelled : Spelled text literals) :
    Spelled (Scan.mapUnquoted change text) literals :=
  (spelled.mapUnquoted_run keeps (List.forall_mem_nil _)).1

/-- The pieces of a line share its literals out, each keeps its own. The first
piece is a front of the line, so a literal that comes before it fits as
before. -/
private theorem cutAtMarks_from (spelled : Spelled text literals)
    (separator : Char) (depth : Nat) :
    ∃ piece pieces parts, Scan.cutAtMarks text
        (Scan.topLevelMarksFrom separator ['#'] .code depth text) =
          piece :: pieces ∧
      piece <+: text ∧ List.Forall₂ Spelled (piece :: pieces) parts ∧
        parts.flatten = literals := by
  induction spelled generalizing depth with
  | nil => exact ⟨[], [], [[]], rfl, List.nil_prefix, .cons .nil .nil, rfl⟩
  | @code c rest literals isCode _ induction =>
      rw [Scan.topLevelMarksFrom,
        if_neg (Scan.not_marked (Scan.isCode_iff.mp isCode).2 rest),
        Scan.step_of_isCode isCode]
      obtain ⟨piece, pieces, parts, cut, front, spelled, whole⟩ :=
        induction (Scan.depthBehind depth c)
      simp only [Scan.cutAtMarks, cut]
      split
      · exact ⟨[], piece :: pieces, [] :: parts, rfl, List.nil_prefix,
          .cons .nil spelled, whole⟩
      · cases spelled with
        | cons first others =>
            exact ⟨c :: piece, pieces, _, rfl,
              (List.prefix_cons_inj c).mpr front,
              .cons (.code isCode first) others, whole⟩
  | @literal literal rest literals fits _ induction =>
      obtain ⟨strokes, text, some, areStrokes⟩ := fits.strokes
      obtain ⟨piece, pieces, parts, cut, front, spelled, whole⟩ :=
        induction depth
      rw [text, Scan.topLevelMarksFrom_strokes areStrokes,
        Scan.cutAtMarks_append cut, ← text]
      cases spelled with
      | @cons _ part _ parts first others =>
          refine ⟨_, pieces, (literal :: part) :: parts, rfl,
            (List.prefix_append_right_inj _).mpr front,
            .cons (.literal (fits.of_prefix front) first) others, ?_⟩
          rw [List.flatten_cons, List.cons_append]
          exact congrArg (literal :: ·) whole

theorem splitTopLevel (spelled : Spelled text literals) (separator : Char) :
    ∃ parts,
      List.Forall₂ Spelled (Scan.splitTopLevel separator ['#'] text) parts ∧
      parts.flatten = literals := by
  obtain ⟨piece, pieces, parts, cut, -, spelled, whole⟩ :=
    spelled.cutAtMarks_from separator 0
  rw [Scan.splitTopLevel, Scan.topLevelMarks, cut]
  exact ⟨parts, spelled, whole⟩

end Spelled

/-! ## Lines without literals -/

namespace Scan

theorem isComment_splitComment (line : Text) :
    IsComment (splitComment ['#'] line).2 := by
  have every (place : Quoting) :
      IsComment (splitCommentFrom ['#'] place line).2 := by
    induction line generalizing place with
    | nil => exact .inl rfl
    | cons c rest induction =>
        rw [splitCommentFrom]
        split
        · next signed =>
            simp only [List.isPrefixOf, Bool.and_true, beq_iff_eq] at signed
            exact .inr (congrArg some signed.2.symm)
        · exact induction (place.step c)
  exact every .code

/-- Without quotes, the sign of a comment has no place in the code. -/
theorem isCode_of_unquoted {line : Text}
    (unquoted : ∀ c ∈ (splitComment ['#'] line).1, Quoting.isQuote c = false) :
    ∀ c ∈ (splitComment ['#'] line).1, isCode c = true := by
  rw [splitComment] at unquoted ⊢
  induction line with
  | nil => exact List.forall_mem_nil _
  | cons c rest induction =>
      rw [splitCommentFrom] at unquoted ⊢
      split
      · exact List.forall_mem_nil _
      · next unsigned =>
          rw [if_neg unsigned] at unquoted
          obtain ⟨here, behind⟩ := List.forall_mem_cons.mp unquoted
          have noSign : c ≠ '#' := by
            rintro rfl
            exact unsigned ⟨rfl, rfl⟩
          have isCode : isCode c = true := isCode_iff.mpr ⟨here, noSign⟩
          rw [step_of_isCode isCode] at behind ⊢
          exact List.forall_mem_cons.mpr ⟨isCode, induction behind⟩

theorem splitComment_of_isCode {run comment : Text}
    (code : ∀ c ∈ run, isCode c = true) (signed : IsComment comment) :
    splitComment ['#'] (run ++ comment) = (run, comment) := by
  have spelled := Spelled.nil.append_code code
  rw [List.append_nil] at spelled
  exact spelled.splitComment signed

end Scan

/-! ## The reading of such a line -/

namespace LineReading

open Literal

theorem ofText?_code {c : Char} (isCode : Scan.isCode c = true) (rest : Text) :
    ofText? (c :: rest) = (ofText? rest).map (addCode c) := by
  rw [ofText?, if_neg (Scan.isCode_iff.mp isCode).2,
    Scan.isQuote_of_isCode isCode, if_neg Bool.false_ne_true]

theorem markOf_of_apart {quote : Char} {body behind : Text}
    (hides : hides quote false body = true)
    (apart : body = [] → behind.head? ≠ some quote) :
    markOf quote (body ++ [quote] ++ behind) = [quote] := by
  rcases markOf_cases quote (body ++ [quote] ++ behind) with
    ⟨-, twice⟩ | ⟨mark, -⟩
  · obtain ⟨more, text⟩ := twice
    rw [List.append_assoc] at text
    cases body with
    | nil =>
        cases behind with
        | nil => cases text
        | cons c behind =>
            cases text
            exact absurd rfl (apart rfl)
    | cons c body =>
        cases congrArg List.head? text
        simp [Literal.hides] at hides
  · exact mark

theorem open?_of_fits {literal : Literal} {behind : Text}
    (fits : literal.Fits behind) :
    ∃ quote rest, literal.text ++ behind = quote :: rest ∧
      isQuote quote = true ∧
      open? quote rest = some (literal, behind) := by
  cases fits with
  | @single quote body _ isQuote hides apart =>
      refine ⟨quote, body ++ [quote] ++ behind, rfl, isQuote, ?_⟩
      have mark := markOf_of_apart hides apart
      have closed := close?_of_hides hides [] behind
      simp only [open?, mark]
      exact congrArg (Option.map _) closed
  | @triple quote body _ isQuote hides =>
      refine ⟨quote, quote :: quote ::
        (body ++ [quote, quote, quote] ++ behind), rfl, isQuote, ?_⟩
      have mark : markOf quote
            (quote :: quote :: (body ++ [quote, quote, quote] ++ behind)) =
          [quote, quote, quote] := by
        simp [markOf]
      have closed := close?_of_hides hides [quote, quote] behind
      simp only [open?, mark]
      exact congrArg (Option.map _) closed

theorem fits_of_open? {quote : Char} (isQuote : isQuote quote = true)
    {rest behind : Text} {literal : Literal}
    (opened : open? quote rest = some (literal, behind))
    (plain : literal.isTriple = true → literal.isPlain = true) :
    literal.Fits behind := by
  have whole := open?_eq_some opened
  obtain ⟨⟨body, _⟩, closed, same⟩ := Option.map_eq_some_iff.mp opened
  cases same
  rcases markOf_cases quote rest with ⟨mark, twice⟩ | ⟨mark, once⟩
  · rw [mark] at plain ⊢
    have hides : hides quote false body = true := by
      simpa [isPlain] using plain rfl
    exact .triple isQuote hides
  · rw [mark] at closed whole ⊢
    refine .single isQuote (hides_of_close? closed) ?_
    rintro rfl here
    apply once
    cases behind with
    | nil => cases here
    | cons c behind =>
        cases here
        cases whole
        exact ⟨behind, rfl⟩

theorem ofText?_quote {quote : Char} (isQuote : isQuote quote = true)
    (rest : Text) :
    ofText? (quote :: rest) = (open? quote rest).bind fun (literal, behind) =>
      (ofText? behind).map (addLiteral literal) := by
  have noSign : quote ≠ '#' := by
    rintro rfl
    cases isQuote
  rw [ofText?, if_neg noSign, if_pos isQuote]
  cases opened : open? quote rest with
  | none => rfl
  | some both =>
      obtain ⟨literal, behind⟩ := both
      simp only [if_pos (length_of_open? opened)]
      rfl

end LineReading

theorem Spelled.reading {text : Text} {literals : List Literal}
    (spelled : Spelled text literals) {comment : Text}
    (signed : Scan.IsComment comment) :
    ∃ code, LineReading.ofText? (text ++ comment) =
      some { code, literals, comment } := by
  induction spelled with
  | nil =>
      refine ⟨[], ?_⟩
      cases comment with
      | nil => rw [List.nil_append, LineReading.ofText?]
      | cons c comment =>
          rcases signed with none | signed
          · cases none
          · cases signed
            rw [List.nil_append, LineReading.ofText?, if_pos rfl]
  | @code c rest literals isCode _ induction =>
      obtain ⟨code, read⟩ := induction
      refine ⟨c :: code, ?_⟩
      rw [List.cons_append, LineReading.ofText?_code isCode, read]
      rfl
  | @literal literal rest literals fits _ induction =>
      obtain ⟨code, read⟩ := induction
      refine ⟨code, ?_⟩
      have stillFits : literal.Fits (rest ++ comment) := by
        refine fits.append fun quote isQuote here => ?_
        rcases signed with rfl | signed
        · cases here
        · rw [signed] at here
          cases here
          cases isQuote
      obtain ⟨quote, behind, line, isQuote, opened⟩ :=
        LineReading.open?_of_fits stillFits
      rw [List.append_assoc, line, LineReading.ofText?_quote isQuote, opened]
      exact congrArg (Option.map (LineReading.addLiteral literal)) read

/-- A line with a reading whose literals in three quotes are plain is spelled as
quotes alone tell. The grave accent, which quotes for the scanners only, has no
place in code. -/
theorem LineReading.spelled {line : Text} {reading : LineReading}
    (read : ofText? line = some reading)
    (noAccent : Quoting.graveAccent ∉ reading.code)
    (plain : ∀ literal ∈ reading.literals,
      literal.isTriple = true → literal.isPlain = true) :
    ∃ text, line = text ++ reading.comment ∧ Spelled text reading.literals ∧
      Scan.IsComment reading.comment := by
  induction line using ofText?.induct generalizing reading with
  | case1 =>
      rw [ofText?] at read
      cases read
      exact ⟨[], rfl, .nil, .inl rfl⟩
  | case2 rest =>
      rw [ofText?, if_pos rfl] at read
      cases read
      exact ⟨[], rfl, .nil, .inr rfl⟩
  | case3 quote rest noSign isQuote unclosed =>
      rw [ofText?_quote isQuote, unclosed] at read
      cases read
  | case4 quote rest noSign isQuote literal behind opened _ induction =>
      rw [ofText?_quote isQuote, opened] at read
      obtain ⟨further, readBehind, rfl⟩ := Option.map_eq_some_iff.mp read
      obtain ⟨text, whole, spelled, signed⟩ := induction readBehind noAccent
        fun literal member => plain literal (List.mem_cons_of_mem _ member)
      have fits :=
        fits_of_open? isQuote opened (plain literal List.mem_cons_self)
      refine ⟨literal.text ++ text, ?_,
        .literal (fits.of_prefix ⟨_, whole.symm⟩) spelled, signed⟩
      rw [Literal.open?_eq_some opened, whole, List.append_assoc]
      rfl
  | case5 quote rest noSign isQuote literal behind opened longer =>
      exact absurd (Literal.length_of_open? opened) longer
  | case6 c rest noSign noQuote induction =>
      rw [ofText?, if_neg noSign, if_neg noQuote] at read
      obtain ⟨further, readBehind, rfl⟩ := Option.map_eq_some_iff.mp read
      have ⟨accent, noFurther⟩ := not_or.mp (mt List.mem_cons.mpr noAccent)
      obtain ⟨text, whole, spelled, signed⟩ :=
        induction readBehind noFurther plain
      have isCode : Scan.isCode c = true := by
        rw [Scan.isCode_iff, Quoting.isQuote_eq, Bool.or_eq_false_iff,
          beq_eq_false_iff_ne]
        exact ⟨⟨Bool.eq_false_iff.mpr noQuote, Ne.symm accent⟩, noSign⟩
      exact ⟨c :: text, congrArg (c :: ·) whole, .code isCode spelled, signed⟩

end LintMend
