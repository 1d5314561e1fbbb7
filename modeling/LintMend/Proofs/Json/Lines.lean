import LintMend.Proofs.Json.Doubles

/-!
# Values on one line

The text of a value without blanks holds no line feed, whatever its strings
hold.
-/

namespace LintMend

namespace JsonText

theorem not_mem_of_run {text : Text}
    (digits : ∀ c ∈ text, c.isDigit = true) : '\n' ∉ text := by
  intro member
  exact absurd (digits _ member) (by decide)

theorem Figures.no_feed (negative : Bool) {figures : Figures}
    (proper : figures.Proper) :
    '\n' ∉ figures.text negative := by
  obtain ⟨whole, fraction, exponent⟩ := figures
  obtain ⟨isWhole, behindPoint, behindMark⟩ := proper
  simp only at isWhole behindPoint behindMark
  have sign : '\n' ∉ (if negative then ['-'] else []) := by
    cases negative <;> decide
  have point : '\n' ∉ fractionText fraction := by
    cases fraction with
    | none => exact List.not_mem_nil
    | some digits =>
        have run := not_mem_of_run (behindPoint digits rfl).2
        simpa [fractionText] using run
  have mark : '\n' ∉ exponentText exponent := by
    cases exponent with
    | none => exact List.not_mem_nil
    | some found =>
        obtain ⟨down, digits⟩ := found
        have run := not_mem_of_run (behindMark _ rfl).2
        cases down <;> simpa [exponentText] using run
  simp only [Figures.text, List.mem_append, not_or]
  exact ⟨sign, not_mem_of_run isWhole.1.2, point, mark⟩

end JsonText

namespace Json

open JsonText

theorem floatText_no_feed (x : Float) : '\n' ∉ (floatText x).toList := by
  cases parts : FloatParts.ofFloat x with
  | finite negative magnitude =>
      rw [toList_floatText parts]
      exact Figures.no_feed negative (Figures.proper_ofDecimal _)
  | infinite negative => simp [floatText, parts]
  | notANumber => simp [floatText, parts]

private theorem hexDigit_ne (n : Nat) : '\n' ≠ hexDigit n := by
  have all : ∀ m < 16, '\n' ≠ (Nat.toDigits 16 m).headD '0' := by decide
  exact all (n % 16) (Nat.mod_lt n (by decide))

theorem escape_no_feed (c : Char) : '\n' ∉ escape c := by
  unfold escape
  split_ifs with quote backslash feed back tab bell form control
  all_goals try decide
  · simp [hexDigit_ne]
  · simpa using Ne.symm feed

theorem quoted_no_feed (text : String) : '\n' ∉ (quoted text).toList := by
  rw [toList_quoted]
  simp [escape_no_feed]

/-- Texts without a line feed are joined without one. -/
theorem intercalate_no_feed {texts : List String}
    (plain : ∀ text ∈ texts, '\n' ∉ text.toList) :
    '\n' ∉ (",".intercalate texts).toList := by
  rw [String.toList_intercalate]
  induction texts with
  | nil => simp
  | cons text texts induction =>
      have first := plain text List.mem_cons_self
      have rest := induction fun other member =>
        plain other (List.mem_cons_of_mem _ member)
      cases texts with
      | nil => simpa using first
      | cons other texts =>
          simp only [List.map_cons, List.intercalate_cons_cons, List.mem_append,
            not_or] at rest ⊢
          exact ⟨⟨first, by decide⟩, rest⟩

mutual

theorem compact_no_feed (json : Json) : '\n' ∉ json.compact.toList := by
  cases json with
  | null => simp [compact]
  | bool value => cases value <;> simp [compact]
  | integer value =>
      rw [compact, toList_toString_int]
      exact Figures.no_feed _ (Figures.proper_ofNat _)
  | float value => exact floatText_no_feed value
  | string value => exact quoted_no_feed value
  | array items =>
      have inner := intercalate_no_feed (compactItems_no_feed items)
      simpa [compact] using inner
  | object fields =>
      have inner := intercalate_no_feed (compactFields_no_feed fields)
      simpa [compact] using inner

theorem compactItems_no_feed (items : List Json) :
    ∀ text ∈ compactItems items, '\n' ∉ text.toList := by
  cases items with
  | nil => simp [compactItems]
  | cons item items =>
      intro text member
      rcases List.mem_cons.mp member with rfl | later
      · exact compact_no_feed item
      · exact compactItems_no_feed items text later

theorem compactFields_no_feed (fields : List (String × Json)) :
    ∀ text ∈ compactFields fields, '\n' ∉ text.toList := by
  cases fields with
  | nil => simp [compactFields]
  | cons field fields =>
      intro text member
      rcases List.mem_cons.mp member with rfl | later
      · have key := quoted_no_feed field.1
        have value := compact_no_feed field.2
        simp only [String.toList_append, List.mem_append, not_or]
        exact ⟨⟨key, by decide⟩, value⟩
      · exact compactFields_no_feed fields text later

end

end Json

end LintMend
