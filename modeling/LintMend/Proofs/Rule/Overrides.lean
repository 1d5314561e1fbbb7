import Mathlib.Data.List.Induction
import LintMend.Rule.Report
import LintMend.Proofs.Lookup

/-!
# Overrides of rules

An override is on top of the table for the rule codes and languages that it
concerns, and of no others. So among several overrides the last one that
concerns a code decides about it; a code that none concerns is judged as the
standard table judges it.
-/

namespace LintMend

/-- An override concerns its code, in its language or, if it names none, in all
of them. -/
def RuleOverride.Concerns (rule : RuleOverride) (code : String)
    (language : Language) : Prop :=
  rule.code = code ∧ (rule.language = none ∨ rule.language = some language)

instance (rule : RuleOverride) (code : String) (language : Language) :
    Decidable (rule.Concerns code language) :=
  inferInstanceAs (Decidable (_ ∧ _))

/-- The confidence that an override gives, or the usual one of its category. -/
def RuleOverride.requested (rule : RuleOverride) : Float :=
  rule.confidence.getD (if rule.category = .risky then 0.5 else 0)

/-- The confidence that an override brings about. What is safe has full
confidence. All else has the one that is asked for if it lies between zero and
one, and otherwise the end of this range that is nearer. -/
structure RuleOverride.Settles (rule : RuleOverride) (confidence : Float) :
    Prop where
  safe : rule.category = .safe → confidence = 1
  kept : rule.category ≠ .safe → ¬ rule.requested < 0 → ¬ 1 < rule.requested →
    confidence = rule.requested
  raised : rule.category ≠ .safe → rule.requested < 0 → confidence = 0
  lowered : rule.category ≠ .safe → 1 < rule.requested → confidence = 1

/-! ## Clamping -/

theorem clampUnit_of_inside {x : Float} (low : ¬ x < 0) (high : ¬ 1 < x) :
    clampUnit x = x := by
  rw [clampUnit, if_neg low, if_neg high]

theorem clampUnit_of_neg {x : Float} (below : x < 0) : clampUnit x = 0 :=
  if_pos below

open Float.Model in
/-- No number is beyond both ends. -/
theorem not_neg_of_one_lt {x : Float} (above : 1 < x) : ¬ x < 0 := by
  intro below
  have above : (1 : Float).toModel.unpack.lt x.toModel.unpack = true :=
    of_decide_eq_true above
  have below : x.toModel.unpack.lt (0 : Float).toModel.unpack = true :=
    of_decide_eq_true below
  have zero : (0 : Float).toModel.unpack = .zero .positive := by rfl
  obtain ⟨mantissa, exponent, positive, one⟩ :
      ∃ mantissa exponent positive, (1 : Float).toModel.unpack =
        .finite .positive mantissa exponent positive :=
    ⟨_, _, _, rfl⟩
  rw [one] at above
  rw [zero] at below
  cases shape : x.toModel.unpack with
  | notANumber | zero sign =>
      rw [shape] at above
      exact Bool.false_ne_true above
  | infinity sign | finite sign =>
      rw [shape] at above below
      cases sign with
      | positive => exact Bool.false_ne_true below
      | negative => exact Bool.false_ne_true above

theorem clampUnit_of_one_lt {x : Float} (above : 1 < x) : clampUnit x = 1 := by
  rw [clampUnit, if_neg (not_neg_of_one_lt above), if_pos above]

/-- A clamped number is neither below zero nor above one. -/
theorem clampUnit_inside (x : Float) :
    ¬ clampUnit x < 0 ∧ ¬ 1 < clampUnit x := by
  by_cases below : x < 0
  · rw [clampUnit_of_neg below]
    decide
  · by_cases above : 1 < x
    · rw [clampUnit_of_one_lt above]
      decide
    · rw [clampUnit_of_inside below above]
      exact ⟨below, above⟩

namespace RuleTable

/-! ## Looking up -/

@[simp]
theorem lookup_put {κ α : Type} [DecidableEq κ] [BEq κ] [LawfulBEq κ]
    (key other : κ) (value : α) (entries : List (κ × α)) :
    (put key value entries).lookup other =
      if other = key then some value else entries.lookup other := by
  induction entries with
  | nil => rw [put, lookup_entry]
  | cons entry entries induction =>
      obtain ⟨here, found⟩ := entry
      by_cases replaced : key = here
      · subst replaced
        rw [put, if_pos rfl, lookup_entry, lookup_entry]
        split <;> rfl
      · rw [put, if_neg replaced, lookup_entry, lookup_entry, induction]
        by_cases same : other = key
        · rw [if_pos same, if_pos same, if_neg (same ▸ replaced)]
        · rw [if_neg same, if_neg same]

/-- One override is found where it concerns the code, and changes nothing
elsewhere. -/
theorem lookup_override (table : RuleTable) (rule : RuleOverride)
    (code : String) (language : Language) :
    (table.override rule).lookup code language =
      if rule.Concerns code language then some (table.overrideEntry rule)
      else table.lookup code language := by
  unfold override lookup
  cases own : rule.language with
  | some other =>
      have concerns : rule.Concerns code language ↔
          (language, code) = (other, rule.code) := by
        rw [RuleOverride.Concerns, own]
        grind
      simp only [lookup_put, concerns]
      split <;> rfl
  | none =>
      have concerns : rule.Concerns code language ↔ code = rule.code := by
        rw [RuleOverride.Concerns, own]
        grind
      have kept := lookup_filter (fun key : Language × String =>
        decide (key.2 ≠ rule.code))
        (language, code) table.exact
      simp only [lookup_put, concerns]
      rw [kept]
      by_cases here : code = rule.code <;> simp [here]

/-- The last override that concerns a code. -/
def decisive? (rules : List RuleOverride) (code : String)
    (language : Language) :
    Option RuleOverride :=
  rules.reverse.find? fun rule => rule.Concerns code language

theorem decisive?_concat (rules : List RuleOverride) (rule : RuleOverride)
    (code : String) (language : Language) :
    decisive? (rules ++ [rule]) code language =
      if rule.Concerns code language then some rule
      else decisive? rules code language := by
  rw [decisive?, List.reverse_append, List.reverse_singleton,
    List.singleton_append, List.find?_cons, ← decisive?]
  by_cases concerns : rule.Concerns code language <;> simp [concerns]

/-- What is found is the entry of the last override that concerns the code, or
the entry of the standard table. -/
theorem lookup_withOverrides (rules : List RuleOverride) (code : String)
    (language : Language) :
    match decisive? rules code language with
    | none => (withOverrides rules).lookup code language =
        standard.lookup code language
    | some rule => ∃ before : RuleTable,
        (withOverrides rules).lookup code language =
          some (before.overrideEntry rule) := by
  -- the overrides are made from the first to the last, so the last one goes on
  -- top of a table
  induction rules using List.reverseRecOn with
  | nil => rfl
  | append_singleton rules rule induction =>
      have step : withOverrides (rules ++ [rule]) =
          (withOverrides rules).override rule := by
        rw [withOverrides, List.foldl_append]
        rfl
      rw [step, lookup_override, decisive?_concat]
      by_cases concerns : rule.Concerns code language
      · rw [if_pos concerns, if_pos concerns]
        exact ⟨withOverrides rules, rfl⟩
      · rw [if_neg concerns, if_neg concerns]
        exact induction

theorem decisive?_eq_some {rules : List RuleOverride} {code : String}
    {language : Language} {rule : RuleOverride}
    (decides : decisive? rules code language = some rule) :
    rule ∈ rules ∧ rule.Concerns code language := by
  refine ⟨List.mem_reverse.mp (List.mem_of_find?_eq_some decides), ?_⟩
  simpa using List.find?_some decides

/-! ## Verdicts -/

/-- A verdict looks at nothing of a table but the entry of the code. -/
theorem classify_congr {left right : RuleTable} {code : String}
    {language : Language} (same : left.lookup (Text.trimmed code) language =
      right.lookup (Text.trimmed code) language) :
    left.classify code language = right.classify code language := by
  simp only [classify, same]

theorem classify_of_lookup {table before : RuleTable} {rule : RuleOverride}
    {code : String} {language : Language}
    (found : table.lookup (Text.trimmed code) language =
      some (before.overrideEntry rule)) :
    (table.classify code language).category = rule.category ∧
      rule.Settles (table.classify code language).confidence := by
  simp only [classify, found, overrideEntry]
  cases kind : rule.category with
  | safe =>
      exact ⟨rfl, ⟨fun _ => rfl, by simp [kind], by simp [kind], by
        simp [kind]⟩⟩
  | risky | suggest =>
      refine ⟨rfl, ⟨by simp [kind], ?_, ?_, ?_⟩⟩
      all_goals rw [RuleOverride.requested, kind]
      · exact fun _ => clampUnit_of_inside
      · exact fun _ => clampUnit_of_neg
      · exact fun _ => clampUnit_of_one_lt

theorem category_of_unknown {table : RuleTable} {code : String}
    {language : Language}
    (unknown : table.lookup (Text.trimmed code) language = none) :
    (table.classify code language).category = .suggest := by
  simp only [classify, unknown]
  rfl

theorem confidence_inside (table : RuleTable) (code : String)
    (language : Language) :
    ¬ (table.classify code language).confidence < 0 ∧
      ¬ 1 < (table.classify code language).confidence := by
  have full : ¬ (1 : Float) < 0 ∧ ¬ (1 : Float) < 1 := by decide
  simp only [classify]
  split
  · exact full
  · exact clampUnit_inside _
  · exact clampUnit_inside _
  · exact clampUnit_inside _

/-- The last override that concerns a code, blanks at its ends not counted,
decides about it: the verdict has its category and the confidence that it asks
for, clamped. Without such an override the verdict is that of the standard table
in all its parts, and a code which that table does not know is only shown. So a
code is safe by the standard table, or because an override for its language or
for all of them says so. -/
theorem last_override_decides (rules : List RuleOverride) (code : String)
    (language : Language) :
    let verdict := (withOverrides rules).classify code language
    let usual := standard.classify code language
    let decisive := decisive? rules (Text.trimmed code) language
    (match decisive with
      | some rule =>
        verdict.category = rule.category ∧ rule.Settles verdict.confidence
      | none =>
        verdict = usual ∧
          (standard.lookup (Text.trimmed code) language = none →
            verdict.category = .suggest)) ∧
    (¬ verdict.confidence < 0 ∧ ¬ 1 < verdict.confidence) ∧
    (verdict.isSafe = true →
      decisive = none ∧ usual.isSafe = true ∨
        ∃ rule ∈ rules, rule.Concerns (Text.trimmed code) language ∧
        rule.category = .safe) := by
  intro verdict usual decisive
  have found := lookup_withOverrides rules (Text.trimmed code) language
  have inside := confidence_inside (withOverrides rules) code language
  change match decisive with | none => _ | some rule => _ at found
  cases decides : decisive with
  | none =>
      rw [decides] at found
      have same : verdict = usual := classify_congr found
      refine ⟨⟨same, fun unknown => ?_⟩, inside, fun safe =>
        .inl ⟨rfl, same ▸ safe⟩⟩
      rw [same]
      exact category_of_unknown unknown
  | some rule =>
      rw [decides] at found
      obtain ⟨before, found⟩ := found
      have ⟨category, confidence⟩ := classify_of_lookup found
      obtain ⟨member, concerns⟩ := decisive?_eq_some decides
      refine ⟨⟨category, confidence⟩, inside, fun safe =>
        .inr ⟨rule, member, concerns, ?_⟩⟩
      rw [← category]
      exact of_decide_eq_true safe

end RuleTable

end LintMend
