import Mathlib.Data.List.Chain
import Mathlib.Data.List.DropRight
import LintMend.Fix.Literal
import LintMend.Proofs.Scan.Pieces

/-!
# Literals that lose their lead

Dropping the lead of a literal brings its mark up to what stands in front, and
the line is read anew by the next fix. It is read with the same literals, but
for the leads that went, unless a literal without a body stands directly in
front and has the same single mark: then three quotes stand together, and what
was two literals is read as the beginning of one.
-/

namespace LintMend

/-- Where a word is found does not depend on what is behind it. -/
theorem Text.cut?_congr {word text front behind : Text} (some : word ≠ [])
    (cut : cut? word text = .some (front, behind)) (other : Text) :
    cut? word (front ++ word ++ other) = .some (front, other) := by
  induction text generalizing front with
  | nil =>
      rw [cut?, if_neg (by simpa using some)] at cut
      cases cut
  | cons c rest induction =>
      rw [cut?] at cut
      split at cut
      · cases cut
        obtain ⟨d, word, rfl⟩ := List.exists_cons_of_ne_nil some
        have here : after? (d :: word) (d :: (word ++ other)) = .some other :=
          after?_eq_some.mpr rfl
        rw [List.nil_append, List.cons_append, cut?, here]
      · next notHere =>
          obtain ⟨⟨inside, later⟩, found, same⟩ := Option.map_eq_some_iff.mp cut
          cases same
          have whole := cut?_eq_some found
          have further : after? word (c :: (inside ++ word ++ other)) =
              none := by
            rw [Option.eq_none_iff_forall_ne_some]
            intro after here
            -- the word would end in front of what is behind it, so it would be
            -- found in the text
            have front : word <+: c :: (inside ++ word) := by
              refine List.prefix_of_prefix_length_le
                ⟨after, (after?_eq_some.mp here).symm⟩
                ⟨other, by simp⟩ ?_
              simp only [List.length_cons, List.length_append]
              omega
            obtain ⟨gap, same⟩ := front
            have found : after? word (c :: rest) = .some (gap ++ behind) := by
              rw [after?_eq_some, whole, ← List.append_assoc, same]
              rfl
            rw [notHere] at found
            cases found
          rw [List.cons_append, List.cons_append, cut?, further,
            induction found]
          rfl

namespace Fix

@[simp]
theorem Token.text_code (text : Text) : (code text).text = text :=
  rfl

@[simp]
theorem Token.text_literal (lead mark body : Text) :
    (literal lead mark body).text = lead ++ mark ++ body ++ mark :=
  rfl

@[simp]
theorem Token.plain_code (text : Text) : (code text).plain = code text :=
  rfl

/-! ## Reading one literal -/

section

variable {quote : Char} {text rest mark body behind : Text}

theorem closeSingle?_eq_some
    (closed : closeSingle? quote text = some (body, behind)) :
    text = body ++ quote :: behind := by
  induction text using closeSingle?.induct quote generalizing body with
  | case1 | case2 => cases closed
  | case3 c rest induction =>
      rw [closeSingle?] at closed
      obtain ⟨⟨inside, later⟩, found, same⟩ := Option.map_eq_some_iff.mp closed
      cases same
      rw [induction found]
      rfl
  | case4 rest =>
      rw [closeSingle?, if_pos rfl] at closed
      · cases closed
        rfl
      all_goals assumption
  | case5 c rest other single differs induction =>
      rw [closeSingle?, if_neg differs] at closed
      · obtain ⟨⟨inside, later⟩, found, same⟩ :=
          Option.map_eq_some_iff.mp closed
        cases same
        rw [induction found]
        rfl
      all_goals assumption

theorem closeSingle?_here (noEscape : quote ≠ '\\') (rest : Text) :
    closeSingle? quote (quote :: rest) = some ([], rest) := by
  rw [closeSingle?, if_pos rfl]
  · exact fun escape => absurd escape noEscape
  · exact fun _ _ escape => absurd escape noEscape

/-- Where a literal is closed does not depend on what is behind it. -/
theorem closeSingle?_congr (noEscape : quote ≠ '\\')
    (closed : closeSingle? quote text = some (body, behind)) (other : Text) :
    closeSingle? quote (body ++ quote :: other) = some (body, other) := by
  induction text using closeSingle?.induct quote generalizing body with
  | case1 | case2 => cases closed
  | case3 c rest induction =>
      rw [closeSingle?] at closed
      obtain ⟨⟨inside, later⟩, found, same⟩ := Option.map_eq_some_iff.mp closed
      cases same
      rw [List.cons_append, List.cons_append, closeSingle?, induction found]
      rfl
  | case4 rest =>
      rw [closeSingle?_here noEscape] at closed
      cases closed
      exact closeSingle?_here noEscape other
  | case5 c rest last escape differs induction =>
      rw [closeSingle?, if_neg differs] at closed
      · obtain ⟨⟨inside, later⟩, found, same⟩ :=
          Option.map_eq_some_iff.mp closed
        cases same
        have plain : c ≠ '\\' := by
          rintro rfl
          cases rest with
          | nil => exact last rfl rfl
          | cons d rest => exact escape d rest rfl rfl
        rw [List.cons_append, closeSingle?, if_neg differs, induction found]
        · rfl
        · exact fun escape => absurd escape plain
        · exact fun _ _ escape => absurd escape plain
      all_goals assumption

theorem openLiteral?_twice (quote : Char) (inside : Text) :
    openLiteral? quote (quote :: quote :: inside) =
      (Text.cut? [quote, quote, quote] inside).map fun (body, behind) =>
        ([quote, quote, quote], body, behind) := by
  rw [openLiteral?, if_pos ⟨rfl, rfl⟩, closeTriple?]

theorem openLiteral?_once (once : ∀ inside, rest ≠ quote :: quote :: inside) :
    openLiteral? quote rest =
      (closeSingle? quote rest).map fun (body, behind) =>
      ([quote], body, behind) := by
  unfold openLiteral?
  split
  · next a b inside =>
      rw [if_neg]
      rintro ⟨rfl, rfl⟩
      exact once inside rfl
  · rfl

theorem openLiteral?_cases
    (opened : openLiteral? quote rest = some (mark, body, behind)) :
    (mark = [quote, quote, quote] ∧ ∃ inside, rest = quote :: quote :: inside ∧
        Text.cut? [quote, quote, quote] inside = some (body, behind)) ∨
      (mark = [quote] ∧ (∀ inside, rest ≠ quote :: quote :: inside) ∧
        closeSingle? quote rest = some (body, behind)) := by
  by_cases once : ∀ inside, rest ≠ quote :: quote :: inside
  · rw [openLiteral?_once once] at opened
    obtain ⟨⟨inside, later⟩, found, same⟩ := Option.map_eq_some_iff.mp opened
    cases same
    exact .inr ⟨rfl, once, found⟩
  · simp only [not_forall, not_not] at once
    obtain ⟨inside, rfl⟩ := once
    rw [openLiteral?_twice] at opened
    obtain ⟨⟨inner, later⟩, found, same⟩ := Option.map_eq_some_iff.mp opened
    cases same
    exact .inl ⟨rfl, inside, rfl, found⟩

theorem openLiteral?_eq_some
    (opened : openLiteral? quote rest = some (mark, body, behind)) :
    quote :: rest = mark ++ body ++ mark ++ behind := by
  rcases openLiteral?_cases opened with
    ⟨rfl, inside, rfl, found⟩ | ⟨rfl, -, closed⟩
  · rw [Text.cut?_eq_some found]
    simp
  · rw [closeSingle?_eq_some closed]
    simp

theorem length_of_openLiteral?
    (opened : openLiteral? quote rest = some (mark, body, behind)) :
    behind.length < rest.length + 1 := by
  have whole := congrArg List.length (openLiteral?_eq_some opened)
  have some : mark.length ≠ 0 := by
    rcases openLiteral?_cases opened with ⟨rfl, -⟩ | ⟨rfl, -⟩ <;> simp
  simp only [List.length_cons, List.length_append] at whole
  omega

/-- A quote behind two others would be part of the mark. -/
theorem head?_ne_of_empty
    (opened : openLiteral? quote rest = some ([quote], [], behind)) :
    behind.head? ≠ some quote := by
  rcases openLiteral?_cases opened with ⟨mark, -⟩ | ⟨-, once, closed⟩
  · cases mark
  · intro third
    obtain ⟨inside, rfl⟩ := List.head?_eq_some_iff.mp third
    exact once inside (closeSingle?_eq_some closed)

/-- A literal is read in front of any text that does not make three quotes of an
empty one. -/
theorem openLiteral?_congr (noEscape : quote ≠ '\\')
    (opened : openLiteral? quote rest = some (mark, body, behind))
    {other : Text}
    (apart : mark = [quote] → body = [] → other.head? ≠ some quote) :
    ∃ further, mark ++ body ++ mark ++ other = quote :: further ∧
      openLiteral? quote further = some (mark, body, other) := by
  rcases openLiteral?_cases opened with
    ⟨rfl, inside, rfl, found⟩ | ⟨rfl, once, closed⟩
  · refine ⟨quote :: quote :: (body ++ [quote, quote, quote] ++ other),
      by simp, ?_⟩
    rw [openLiteral?_twice, Text.cut?_congr (List.cons_ne_nil _ _) found]
    rfl
  · refine ⟨body ++ quote :: other, by simp, ?_⟩
    rw [openLiteral?_once, closeSingle?_congr noEscape closed]
    · rfl
    · intro inside same
      cases body with
      | nil =>
          cases other with
          | nil => cases same
          | cons c other =>
              cases same
              exact apart rfl rfl rfl
      | cons c body =>
          -- a body does not begin with the quote that closes it
          have whole := closeSingle?_eq_some closed
          obtain rfl : c = quote := (List.cons.inj same).1
          rw [whole, List.cons_append, closeSingle?_here noEscape] at closed
          cases closed

end

/-! ## Reading a line -/

theorem ne_escape_of_mark {c : Char}
    (isMark : c = '"' ∨ c = '\'') : c ≠ '\\' := by
  rintro rfl
  rcases isMark with same | same <;> cases same

/-- The code up to a literal, without the characters that lead the literal. -/
def codeBefore (reversed : Text) : List Token :=
  codeToken (reversed.dropWhile isLeadCharacter)

section

variable {reversed text rest mark body behind : Text} {c : Char}

@[simp]
theorem drop_lead (reversed : Text) :
    reversed.drop (leadOfReversed reversed).length =
      reversed.dropWhile isLeadCharacter := by
  have same : (reversed.takeWhile isLeadCharacter).length =
      (leadOfReversed reversed).length :=
    List.length_reverse.symm
  have rest : (reversed.takeWhile isLeadCharacter ++
        reversed.dropWhile isLeadCharacter).drop
      (leadOfReversed reversed).length = reversed.dropWhile isLeadCharacter :=
    List.drop_left' same
  rwa [List.takeWhile_append_dropWhile] at rest

theorem tokensFrom_of_none (isMark : c = '"' ∨ c = '\'')
    (unclosed : openLiteral? c rest = none) (reversed : Text) :
    tokensFrom reversed (c :: rest) =
      codeToken (rest.reverse ++ c :: reversed) := by
  rw [tokensFrom, if_pos isMark, unclosed]

theorem tokensFrom_of_some (isMark : c = '"' ∨ c = '\'')
    (opened : openLiteral? c rest = some (mark, body, behind))
    (reversed : Text) :
    tokensFrom reversed (c :: rest) =
      codeBefore reversed ++
        .literal (leadOfReversed reversed) mark body ::
        tokensFrom [] behind := by
  rw [tokensFrom, if_pos isMark, opened, codeBefore, ← drop_lead]
  exact if_pos (length_of_openLiteral? opened)

theorem tokensFrom_of_code (isCode : ¬ (c = '"' ∨ c = '\''))
    (reversed rest : Text) :
    tokensFrom reversed (c :: rest) = tokensFrom (c :: reversed) rest := by
  rw [tokensFrom, if_neg isCode]

/-- Code without marks is read as one with what follows. -/
theorem tokensFrom_append {run : Text}
    (code : ∀ c ∈ run, ¬ (c = '"' ∨ c = '\'')) (reversed rest : Text) :
    tokensFrom reversed (run ++ rest) =
      tokensFrom (run.reverse ++ reversed) rest := by
  induction run generalizing reversed with
  | nil => rfl
  | cons c run induction =>
      obtain ⟨here, behind⟩ := List.forall_mem_cons.mp code
      rw [List.cons_append, tokensFrom_of_code here, induction behind,
        List.reverse_cons, List.append_assoc, List.singleton_append]

@[simp]
theorem codeToken_text (reversed : Text) :
    (codeToken reversed).flatMap Token.text = reversed.reverse := by
  unfold codeToken
  split
  · next empty =>
      rw [empty]
      rfl
  · exact List.flatMap_singleton ..

theorem codeBefore_text (reversed : Text) :
    (codeBefore reversed).flatMap Token.text ++ leadOfReversed reversed =
      reversed.reverse := by
  rw [codeBefore, codeToken_text, leadOfReversed, ← List.reverse_append,
    List.takeWhile_append_dropWhile]

/-- Nothing of a line is lost as it is read. -/
@[simp]
theorem tokensFrom_text (reversed text : Text) :
    (tokensFrom reversed text).flatMap Token.text =
      reversed.reverse ++ text := by
  induction reversed, text using tokensFrom.induct with
  | case1 reversed =>
      rw [tokensFrom, codeToken_text, List.append_nil]
  | case2 reversed c rest isMark unclosed =>
      rw [tokensFrom_of_none isMark unclosed, codeToken_text]
      simp
  | case3 reversed c rest isMark mark body behind opened shorter induction =>
      rw [tokensFrom_of_some isMark opened, List.flatMap_append,
        List.flatMap_cons, induction, ← codeBefore_text reversed,
        openLiteral?_eq_some opened]
      simp
  | case4 reversed c rest isMark mark body behind opened longer =>
      exact absurd (length_of_openLiteral? opened) longer
  | case5 reversed c rest isCode induction =>
      rw [tokensFrom_of_code isCode, induction]
      simp

@[simp]
theorem tokens_text (code : Text) : (tokens code).flatMap Token.text = code :=
  tokensFrom_text [] code

/-- The lead of a literal is read again where it stayed, and no other where it
went. -/
theorem lead_of_kept {lead : Text}
    (kept : lead = leadOfReversed reversed ∨ lead = []) :
    leadOfReversed (lead.reverse ++ reversed.dropWhile isLeadCharacter) = lead ∧
      codeBefore (lead.reverse ++ reversed.dropWhile isLeadCharacter) =
        codeBefore reversed := by
  rcases kept with rfl | rfl
  · have whole : (leadOfReversed reversed).reverse ++
        reversed.dropWhile isLeadCharacter =
        reversed := by
      rw [leadOfReversed, List.reverse_reverse, List.takeWhile_append_dropWhile]
    rw [whole]
    exact ⟨rfl, rfl⟩
  · have stops := List.head?_dropWhile_not isLeadCharacter reversed
    rw [List.reverse_nil, List.nil_append, codeBefore, leadOfReversed,
      List.dropWhile_idempotent]
    refine ⟨?_, rfl⟩
    cases remaining : reversed.dropWhile isLeadCharacter with
    | nil => rfl
    | cons c rest =>
        rw [remaining] at stops
        rw [List.takeWhile_cons_of_neg (by simpa using stops), List.reverse_nil]

end

/-! ## Literals -/

def Token.isLiteral : Token → Bool
  | literal .. => true
  | code _ => false

/-- The string literals of a line, in order. -/
def literals (code : Text) : List Token :=
  (tokens code).filter Token.isLiteral

/-- A literal without a body, and directly behind it one in the same mark that
loses its lead. -/
def Token.swallows : Token → Token → Bool
  | literal _ mark [], literal lead next body =>
    mark == next && (literal lead next body).plain != literal lead next body
  | _, _ => false

/-- No empty literal takes in the one behind it. -/
def Apart (tokens : List Token) : Prop :=
  tokens.IsChain fun first second => first.swallows second = false

instance (tokens : List Token) : Decidable (Apart tokens) :=
  inferInstanceAs (Decidable (List.IsChain _ _))

/-- The text of the tokens without the leads that go. -/
def rewritten (tokens : List Token) : Text :=
  (tokens.map Token.plain).flatMap Token.text

theorem Token.plain_cases (lead mark body : Text) :
    (literal lead mark body).plain = literal lead mark body ∨
      (literal lead mark body).plain = literal [] mark body ∧ mark.length = 1 ∧
      lead ≠ [] := by
  rw [plain]
  split
  · next led =>
      obtain ⟨single, word, -⟩ := led
      refine .inr ⟨rfl, single, ?_⟩
      rcases word with rfl | rfl <;> exact List.cons_ne_nil _ _
  · exact .inl rfl

theorem Token.plain_kept (lead mark body : Text) :
    ∃ kept, (literal lead mark body).plain = literal kept mark body ∧
      (kept = lead ∨ kept = []) := by
  rcases plain_cases lead mark body with same | ⟨dropped, -⟩
  · exact ⟨lead, same, .inl rfl⟩
  · exact ⟨[], dropped, .inr rfl⟩

theorem Token.single_of_swallows {lead mark body : Text} {second : Token}
    (takes : (literal lead mark body).swallows second = true) :
    body = [] ∧ mark.length = 1 := by
  unfold swallows at takes
  split at takes
  · next led next rest same =>
      cases same
      obtain ⟨together, lost⟩ := Bool.and_eq_true_iff.mp takes
      refine ⟨rfl, ?_⟩
      rcases plain_cases led next rest with kept | ⟨-, single, -⟩
      · simp [kept] at lost
      · rwa [beq_iff_eq.mp together]
  · cases takes

@[simp]
theorem Token.plain_plain (token : Token) :
    token.plain.plain = token.plain := by
  cases token with
  | code text => rfl
  | literal lead mark body =>
      rcases plain_cases lead mark body with same | ⟨dropped, -⟩
      · rw [same, same]
      · rw [dropped]
        rcases plain_cases [] mark body with same | ⟨same, -⟩ <;> exact same

theorem apart_codeBefore (reversed : Text) (token : Token)
    (behind : List Token) :
    Apart (codeBefore reversed ++ token :: behind) ↔
      (∀ second ∈ behind.head?, token.swallows second = false) ∧
      Apart behind := by
  unfold codeBefore codeToken
  split
  · exact List.isChain_cons
  · simp only [Apart, List.singleton_append, List.isChain_cons_cons]
    exact and_iff_right_of_imp (fun _ => rfl) |>.trans List.isChain_cons

theorem apart_codeToken (reversed : Text) : Apart (codeToken reversed) := by
  unfold codeToken
  split
  · exact List.isChain_nil
  · exact List.isChain_singleton _

@[simp]
theorem filter_codeBefore (reversed : Text) (behind : List Token) :
    (codeBefore reversed ++ behind).filter Token.isLiteral =
      behind.filter Token.isLiteral := by
  unfold codeBefore codeToken
  split <;> rfl

/-! ## Reading a line whose leads went -/

section

variable {reversed text rest mark body behind lead : Text} {c quote : Char}

@[simp]
theorem rewritten_codeBefore (reversed : Text) (tokens : List Token) :
    rewritten (codeBefore reversed ++ tokens) =
      (codeBefore reversed).flatMap Token.text ++ rewritten tokens := by
  unfold codeBefore codeToken
  split <;> simp [rewritten, Token.plain]

theorem codeToken_ne_nil {token : Token} (member : token ∈ codeToken reversed) :
    token.plain.text ≠ [] := by
  unfold codeToken at member
  split at member
  · cases member
  · next some =>
      obtain rfl := List.mem_singleton.mp member
      simpa [Token.plain] using some

theorem tokensFrom_ne_nil {token : Token}
    (member : token ∈ tokensFrom reversed text) :
    token.plain.text ≠ [] := by
  induction reversed, text using tokensFrom.induct with
  | case1 reversed =>
      rw [tokensFrom] at member
      exact codeToken_ne_nil member
  | case2 reversed c rest isMark unclosed =>
      rw [tokensFrom_of_none isMark unclosed] at member
      exact codeToken_ne_nil member
  | case3 reversed c rest isMark mark body behind opened shorter induction =>
      rw [tokensFrom_of_some isMark opened, List.mem_append,
        List.mem_cons] at member
      rcases member with before | rfl | later
      · exact codeToken_ne_nil before
      · have some : mark ≠ [] := by
          rcases openLiteral?_cases opened with ⟨rfl, -⟩ | ⟨rfl, -⟩ <;> simp
        rcases Token.plain_cases (leadOfReversed reversed) mark body with
          same | ⟨same, -⟩ <;>
          simp [same, some]
      · exact induction later
  | case4 reversed c rest isMark mark body behind opened longer =>
      exact absurd (length_of_openLiteral? opened) longer
  | case5 reversed c rest isCode induction =>
      rw [tokensFrom_of_code isCode] at member
      exact induction member

/-- A quote comes to the front as the lead in front of it goes. -/
theorem head?_rewritten (lead : Text) {tokens : List Token}
    (some : ∀ token ∈ tokens, token.plain.text ≠ [])
    (unquoted : (tokens.flatMap Token.text).head? ≠ .some quote) :
    (rewritten tokens).head? = .some quote ↔
      ∃ second ∈ tokens.head?,
      (Token.literal lead [quote] []).swallows second = true := by
  cases tokens with
  | nil => simp [rewritten]
  | cons token tokens =>
      have front := some token List.mem_cons_self
      have first : (rewritten (token :: tokens)).head? =
          token.plain.text.head? := by
        rw [rewritten, List.map_cons, List.flatMap_cons,
          List.head?_append_of_ne_nil _ front]
      have same (kept : token.plain = token) :
          token.plain.text.head? ≠ .some quote := by
        rw [kept] at front ⊢
        rwa [List.flatMap_cons, List.head?_append_of_ne_nil _ front] at unquoted
      rw [first]
      simp only [List.head?_cons, Option.mem_def, Option.some.injEq,
        exists_eq_left']
      cases token with
      | code text => simpa [Token.swallows] using same rfl
      | literal led next body =>
          rw [Token.swallows]
          rcases Token.plain_cases led next body with
            kept | ⟨dropped, single, led'⟩
          · simpa [kept] using same kept
          · obtain ⟨other, rfl⟩ := List.length_eq_one_iff.mp single
            simpa [dropped, Ne.symm led'] using eq_comm

theorem rewritten_of_some (isMark : c = '"' ∨ c = '\'')
    (opened : openLiteral? c rest = some (mark, body, behind))
    (plain : (Token.literal (leadOfReversed reversed) mark body).plain =
      .literal lead mark body) :
    rewritten (tokensFrom reversed (c :: rest)) =
      ((codeBefore reversed).flatMap Token.text ++ lead) ++
        (mark ++ body ++ mark ++ rewritten (tokensFrom [] behind)) := by
  rw [tokensFrom_of_some isMark opened, rewritten_codeBefore]
  simp [rewritten, plain]

theorem code_of_kept (code : ∀ c ∈ reversed, ¬ (c = '"' ∨ c = '\''))
    (kept : lead = leadOfReversed reversed ∨ lead = []) :
    ∀ c ∈ (codeBefore reversed).flatMap Token.text ++ lead,
      ¬ (c = '"' ∨ c = '\'') := by
  intro c member
  apply code c
  rw [← List.mem_reverse, ← codeBefore_text]
  rcases kept with rfl | rfl
  · exact member
  · rw [List.append_nil] at member
    exact List.mem_append_left _ member

/-- A literal that takes in nothing is read as before, but for its lead, and
then what follows. -/
theorem tokensFrom_rewritten_of_some
    (code : ∀ c ∈ reversed, ¬ (c = '"' ∨ c = '\''))
    (isMark : c = '"' ∨ c = '\'')
    (opened : openLiteral? c rest = some (mark, body, behind))
    (apart : ∀ second ∈ (tokensFrom [] behind).head?,
      (Token.literal (leadOfReversed reversed) mark body).swallows second =
        false) :
    tokensFrom [] (rewritten (tokensFrom reversed (c :: rest))) =
      codeBefore reversed ++
        (Token.literal (leadOfReversed reversed) mark body).plain ::
        tokensFrom [] (rewritten (tokensFrom [] behind)) := by
  obtain ⟨lead, plain, kept⟩ :=
    Token.plain_kept (leadOfReversed reversed) mark body
  obtain ⟨sameLead, sameCode⟩ := lead_of_kept kept
  have open' : mark = [c] → body = [] →
      (rewritten (tokensFrom [] behind)).head? ≠ some c := by
    rintro rfl rfl front
    rw [head?_rewritten (leadOfReversed reversed) fun _ => tokensFrom_ne_nil]
      at front
    · obtain ⟨second, here, takes⟩ := front
      rw [apart second here] at takes
      cases takes
    · rw [tokensFrom_text]
      exact head?_ne_of_empty opened
  obtain ⟨further, whole, again⟩ :=
    openLiteral?_congr (ne_escape_of_mark isMark) opened open'
  rw [rewritten_of_some isMark opened plain, whole,
    tokensFrom_append (code_of_kept code kept),
    tokensFrom_of_some isMark again, plain]
  have seen : ((codeBefore reversed).flatMap Token.text ++ lead).reverse ++ [] =
      lead.reverse ++ reversed.dropWhile isLeadCharacter := by
    rw [codeBefore, codeToken_text]
    simp
  rw [seen, sameLead, sameCode]

/-- The first of the three quotes opens another literal, or one that does
not end. -/
theorem literals_of_swallowed (code : ∀ c ∈ reversed, ¬ (c = '"' ∨ c = '\''))
    (isMark : c = '"' ∨ c = '\'')
    (opened : openLiteral? c rest = some (mark, body, behind)) {second : Token}
    (here : second ∈ (tokensFrom [] behind).head?)
    (takes : (Token.literal (leadOfReversed reversed) mark body).swallows
      second = true) :
    ∀ token ∈
      ((tokensFrom [] (rewritten (tokensFrom reversed (c :: rest)))).filter
        Token.isLiteral).head?,
      token ≠ (Token.literal (leadOfReversed reversed) mark body).plain := by
  obtain ⟨rfl, rfl⟩ : mark = [c] ∧ body = [] := by
    obtain ⟨empty, single⟩ := Token.single_of_swallows takes
    refine ⟨?_, empty⟩
    rcases openLiteral?_cases opened with ⟨rfl, -⟩ | ⟨same, -⟩
    · cases single
    · exact same
  obtain ⟨lead, plain, kept⟩ :=
    Token.plain_kept (leadOfReversed reversed) [c] []
  have third : (rewritten (tokensFrom [] behind)).head? = some c := by
    rw [head?_rewritten _ fun _ => tokensFrom_ne_nil]
    · exact ⟨second, here, takes⟩
    · rw [tokensFrom_text]
      exact head?_ne_of_empty opened
  obtain ⟨inside, whole⟩ := List.head?_eq_some_iff.mp third
  rw [rewritten_of_some isMark opened plain, whole,
    tokensFrom_append (code_of_kept code kept), plain]
  change ∀ token ∈ ((tokensFrom _ (c :: c :: c :: inside)).filter
      Token.isLiteral).head?, _
  have triple := openLiteral?_twice c inside
  cases cut : Text.cut? [c, c, c] inside with
  | none =>
      rw [cut] at triple
      rw [tokensFrom_of_none isMark triple, codeToken]
      split <;> nofun
  | some parts =>
      rw [cut] at triple
      rw [tokensFrom_of_some isMark triple, filter_codeBefore]
      rintro token first rfl
      simp [Token.isLiteral] at first

/-- A reading may be taken up where code has been passed over. -/
theorem tokensFrom_resumed (code : ∀ c ∈ reversed, ¬ (c = '"' ∨ c = '\''))
    (text : Text) :
    tokensFrom [] (reversed.reverse ++ text) = tokensFrom reversed text := by
  rw [tokensFrom_append fun c member => code c (List.mem_reverse.mp member)]
  simp

@[simp]
theorem codeToken_plain (reversed : Text) :
    (codeToken reversed).map Token.plain = codeToken reversed := by
  unfold codeToken
  split <;> rfl

@[simp]
theorem rewritten_codeToken (reversed : Text) :
    rewritten (codeToken reversed) = reversed.reverse := by
  rw [rewritten, codeToken_plain, codeToken_text]

theorem tokensFrom_rewritten (code : ∀ c ∈ reversed, ¬ (c = '"' ∨ c = '\''))
    (apart : Apart (tokensFrom reversed text)) :
    tokensFrom [] (rewritten (tokensFrom reversed text)) =
      (tokensFrom reversed text).map Token.plain := by
  induction reversed, text using tokensFrom.induct with
  | case1 reversed =>
      rw [tokensFrom, rewritten_codeToken, codeToken_plain,
        ← List.append_nil reversed.reverse, tokensFrom_resumed code, tokensFrom]
  | case2 reversed c rest isMark unclosed =>
      have same := tokensFrom_of_none isMark unclosed reversed
      rw [same, rewritten_codeToken, codeToken_plain, ← same,
        ← tokensFrom_resumed code]
      simp
  | case3 reversed c rest isMark mark body behind opened shorter induction =>
      have parts := tokensFrom_of_some isMark opened reversed
      rw [parts, apart_codeBefore] at apart
      rw [tokensFrom_rewritten_of_some code isMark opened apart.1,
        induction (List.forall_mem_nil _) apart.2, parts, List.map_append,
        List.map_cons, codeBefore, codeToken_plain]
  | case4 reversed c rest isMark mark body behind opened longer =>
      exact absurd (length_of_openLiteral? opened) longer
  | case5 reversed c rest isCode induction =>
      rw [tokensFrom_of_code isCode] at apart ⊢
      exact induction (List.forall_mem_cons.mpr ⟨isCode, code⟩) apart

@[simp]
theorem isLiteral_plain (token : Token) :
    token.plain.isLiteral = token.isLiteral := by
  cases token with
  | code text => rfl
  | literal lead mark body =>
      obtain ⟨kept, same, -⟩ := Token.plain_kept lead mark body
      rw [same]
      rfl

theorem literals_rewritten (code : ∀ c ∈ reversed, ¬ (c = '"' ∨ c = '\''))
    (together : ¬ Apart (tokensFrom reversed text)) :
    (tokensFrom [] (rewritten (tokensFrom reversed text))).filter
        Token.isLiteral ≠
      ((tokensFrom reversed text).filter Token.isLiteral).map Token.plain := by
  induction reversed, text using tokensFrom.induct with
  | case1 reversed =>
      rw [tokensFrom] at together
      exact absurd (apart_codeToken reversed) together
  | case2 reversed c rest isMark unclosed =>
      rw [tokensFrom_of_none isMark unclosed] at together
      exact absurd (apart_codeToken _) together
  | case3 reversed c rest isMark mark body behind opened shorter induction =>
      have parts := tokensFrom_of_some isMark opened reversed
      rw [parts, apart_codeBefore] at together
      have expected : ((tokensFrom reversed (c :: rest)).filter
            Token.isLiteral).map Token.plain =
          (Token.literal (leadOfReversed reversed) mark body).plain ::
            ((tokensFrom [] behind).filter Token.isLiteral).map
            Token.plain := by
        rw [parts, filter_codeBefore]
        rfl
      rw [expected]
      by_cases apart : ∀ second ∈ (tokensFrom [] behind).head?,
          (Token.literal (leadOfReversed reversed) mark body).swallows second =
            false
      · have further := induction (List.forall_mem_nil _) fun later =>
          together ⟨apart, later⟩
        rw [tokensFrom_rewritten_of_some code isMark opened apart,
          filter_codeBefore, List.filter_cons_of_pos (isLiteral_plain _)]
        exact fun same => further (List.cons.inj same).2
      · simp only [not_forall, Bool.not_eq_false] at apart
        obtain ⟨second, here, takes⟩ := apart
        intro same
        have first := literals_of_swallowed code isMark opened here takes
        rw [same] at first
        exact first _ rfl rfl
  | case4 reversed c rest isMark mark body behind opened longer =>
      exact absurd (length_of_openLiteral? opened) longer
  | case5 reversed c rest isCode induction =>
      rw [tokensFrom_of_code isCode] at together ⊢
      exact induction (List.forall_mem_cons.mpr ⟨isCode, code⟩) together

end

/-- A line is made of its literals, with their leads, and of what is between
them. The fix leaves all of it but the leads of plain literals. What it writes
is read with the same literals, those without their leads, exactly if no literal
without a body stands directly in front of one that loses its lead and has the
same mark. Then the code between the literals is the same too, and there is
nothing left to fix. -/
theorem literals_kept_iff_apart (code : Text) :
    (tokens code).flatMap Token.text = code ∧
      plainLiterals code = ((tokens code).map Token.plain).flatMap Token.text ∧
      (literals (plainLiterals code) = (literals code).map Token.plain ↔
        Apart (tokens code)) ∧
      (Apart (tokens code) →
        tokens (plainLiterals code) = (tokens code).map Token.plain ∧
          plainLiterals (plainLiterals code) = plainLiterals code) := by
  have kept (apart : Apart (tokens code)) :
      tokens (plainLiterals code) = (tokens code).map Token.plain :=
    tokensFrom_rewritten (List.forall_mem_nil _) apart
  refine ⟨tokens_text code, rfl, ?_, ?_⟩
  · constructor
    · intro same
      by_contra together
      exact literals_rewritten (List.forall_mem_nil _) together same
    · intro apart
      rw [literals, kept apart, List.filter_map]
      congr 1
      apply List.filter_congr
      exact fun token _ => isLiteral_plain token
  · intro apart
    refine ⟨kept apart, ?_⟩
    have again : (tokens (plainLiterals code)).map Token.plain =
        (tokens code).map Token.plain := by
      rw [kept apart, List.map_map]
      exact List.map_congr_left fun token _ => token.plain_plain
    rw [plainLiterals, again, plainLiterals]

def swallowingLine : Text :=
  "\"\"f\"x\" f\"\"\" f\"z\"".toList

/-- The empty literal and the quote behind it become one mark, and two literals
are read as the beginning of one. It ends in the middle of the line, so that the
fix finds another literal there. -/
theorem swallowingLine_read_anew :
    literals swallowingLine =
        [.literal [] ['"'] [], .literal ['f'] ['"'] ['x']] ∧
      plainLiterals swallowingLine = "\"\"\"x\" f\"\"\" f\"z\"".toList ∧
      literals (plainLiterals swallowingLine) ≠
        (literals swallowingLine).map Token.plain ∧
      plainLiterals (plainLiterals swallowingLine) =
        "\"\"\"x\" f\"\"\" \"z\"".toList := by
  have together : ¬ Apart (tokens swallowingLine) := by decide +kernel
  refine ⟨by decide +kernel, by decide +kernel, ?_, by decide +kernel⟩
  exact fun same =>
    together ((literals_kept_iff_apart swallowingLine).2.2.1.mp same)

end Fix

end LintMend
