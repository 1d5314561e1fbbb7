import LintMend.Proofs.Rule.Overrides

/-!
# Names that overrides take over

An override without a name of its own takes over a name that the table holds for
its code. It asks for it in its own language. An override for every language
asks in the first one alone, so it finds no name where other languages only know
the code, and all of them get a name that is made up.
-/

namespace LintMend

namespace RuleOverride

/-- The language in which an override looks for the name of its code. -/
def asked (rule : RuleOverride) : Language :=
  rule.language.getD .python

/-- The name of a code that has none. -/
def madeUpName (rule : RuleOverride) : String :=
  "Rule " ++ rule.code

theorem concerns_asked (rule : RuleOverride) :
    rule.Concerns rule.code rule.asked := by
  refine ⟨rfl, ?_⟩
  unfold asked
  cases rule.language with
  | none => exact .inl rfl
  | some language => exact .inr rfl

/-- An override for a single language asks there. -/
theorem eq_asked_of_concerns {rule : RuleOverride} {code : String}
    {language own : Language} (single : rule.language = some own)
    (concerns : rule.Concerns code language) :
    language = rule.asked := by
  rcases concerns.2 with every | here
  · rw [single] at every
    cases every
  · rw [asked, here, Option.getD_some]

end RuleOverride

namespace RuleTable

/-- The code goes by the name in some language. -/
def Holds (table : RuleTable) (code name : String) : Prop :=
  ∃ language entry, table.lookup code language = some entry ∧ entry.name = name

/-- After the override its code goes, in every language that it concerns, by a
name that the table held for it before, and not by a made-up one. -/
def KeepsName (table : RuleTable) (rule : RuleOverride) : Prop :=
  ∀ language, rule.Concerns rule.code language →
    ∃ entry, (table.override rule).lookup rule.code language = some entry ∧
      table.Holds rule.code entry.name ∧ entry.name ≠ rule.madeUpName

variable {table : RuleTable} {rule : RuleOverride}

theorem name_overrideEntry (nameless : rule.name = none) :
    (table.overrideEntry rule).name =
      ((table.lookup rule.code rule.asked).map RuleEntry.name).getD
        rule.madeUpName := by
  rw [overrideEntry, nameless, Option.none_or]
  rfl

/-- All languages that an override concerns get one entry. -/
theorem lookup_override_of_concerns {language : Language}
    (concerns : rule.Concerns rule.code language) :
    (table.override rule).lookup rule.code language =
      some (table.overrideEntry rule) := by
  rw [lookup_override, if_pos concerns]

/-- The name is kept exactly if the asked language has one that is not made
up. -/
theorem keepsName_iff (nameless : rule.name = none) :
    table.KeepsName rule ↔
      ∃ entry, table.lookup rule.code rule.asked = some entry ∧
        entry.name ≠ rule.madeUpName := by
  have name := @name_overrideEntry table rule nameless
  cases found : table.lookup rule.code rule.asked with
  | some entry =>
      rw [found, Option.map_some, Option.getD_some] at name
      simp only [Option.some.injEq, exists_eq_left']
      constructor
      · intro keeps
        obtain ⟨made, there, -, apart⟩ := keeps rule.asked rule.concerns_asked
        rw [lookup_override_of_concerns rule.concerns_asked] at there
        cases there
        rwa [name] at apart
      · intro apart language concerns
        refine ⟨_, lookup_override_of_concerns concerns, ?_, name ▸ apart⟩
        exact ⟨rule.asked, entry, found, name.symm⟩
  | none =>
      rw [found, Option.map_none, Option.getD_none] at name
      refine iff_of_false ?_ (by simp)
      intro keeps
      obtain ⟨made, there, -, apart⟩ := keeps rule.asked rule.concerns_asked
      rw [lookup_override_of_concerns rule.concerns_asked] at there
      cases there
      exact apart name

/-- A table with overrides knows a code that the standard table knows or an
override concerns. -/
theorem isSome_lookup_withOverrides (rules : List RuleOverride) (code : String)
    (language : Language) :
    ((withOverrides rules).lookup code language).isSome ↔
      (∃ rule ∈ rules, rule.Concerns code language) ∨
        (standard.lookup code language).isSome := by
  have found := lookup_withOverrides rules code language
  cases decides : decisive? rules code language with
  | some rule =>
      rw [decides] at found
      obtain ⟨before, found⟩ := found
      rw [found]
      exact iff_of_true rfl (.inl ⟨rule, decisive?_eq_some decides⟩)
  | none =>
      rw [decides] at found
      have none : ¬ ∃ rule ∈ rules, rule.Concerns code language := by
        rintro ⟨rule, member, concerns⟩
        have apart :=
          List.find?_eq_none.mp decides rule (List.mem_reverse.mpr member)
        exact apart (decide_eq_true concerns)
      rw [or_iff_right none]
      exact Eq.to_iff (congrArg (fun entry => entry.isSome = true) found)

/-- What an override without a name makes of a code that some language it
concerns knows. All these languages get the name that the asked language has for
it, or a made-up one. So the code keeps a name that it had exactly if the asked
language has a name for it that was not made up earlier. That language has a
name if the override is for it alone, or an earlier one concerns the code in the
first language, or the first language knows it by the standard table. -/
theorem nameless_override_keeps_name_iff (rules : List RuleOverride)
    (rule : RuleOverride) (nameless : rule.name = none)
    (known : ∃ language, rule.Concerns rule.code language ∧
      ((withOverrides rules).lookup rule.code language).isSome) :
    let before := withOverrides rules
    (∀ language, rule.Concerns rule.code language →
      ((before.override rule).lookup rule.code language).map RuleEntry.name =
        some (((before.lookup rule.code rule.asked).map RuleEntry.name).getD
          rule.madeUpName)) ∧
    (before.KeepsName rule ↔
      (rule.language ≠ none ∨
        (∃ earlier ∈ rules, earlier.Concerns rule.code .python) ∨
        (standard.lookup rule.code .python).isSome) ∧
      (before.lookup rule.code rule.asked).map RuleEntry.name ≠
        some rule.madeUpName) := by
  intro before
  have asks : (before.lookup rule.code rule.asked).isSome ↔
      rule.language ≠ none ∨
        (∃ earlier ∈ rules, earlier.Concerns rule.code .python) ∨
        (standard.lookup rule.code .python).isSome := by
    cases own : rule.language with
    | some language =>
        obtain ⟨other, concerns, knows⟩ := known
        rw [RuleOverride.eq_asked_of_concerns own concerns] at knows
        exact iff_of_true knows (.inl nofun)
    | none =>
        have first : rule.asked = .python := by
          rw [RuleOverride.asked, own, Option.getD_none]
        rw [first, isSome_lookup_withOverrides]
        simp
  constructor
  · intro language concerns
    rw [lookup_override_of_concerns concerns, Option.map_some,
      name_overrideEntry nameless]
  · rw [keepsName_iff nameless, ← asks]
    cases before.lookup rule.code rule.asked with
    | none => simp
    | some entry => simp

/-- The compiler's own check of names, made safe for every language. -/
def undefinedName : RuleOverride :=
  { code := "no-undef", language := none, category := .safe, confidence := none,
    name := none }

/-- The name is lost, although the table holds one: it is known to a later
language only. -/
theorem undefinedName_loses_name :
    undefinedName.name = none ∧
      ((standard.lookup "no-undef" .typeScript).map RuleEntry.name =
        some "Undefined name (checked by the compiler)") ∧
      ((standard.override undefinedName).lookup "no-undef" .typeScript).map
          RuleEntry.name =
        some "Rule no-undef" ∧
      ¬ standard.KeepsName undefinedName := by
  have concerns : undefinedName.Concerns undefinedName.code .typeScript :=
    ⟨rfl, .inl rfl⟩
  have held : (standard.lookup "no-undef" .typeScript).map RuleEntry.name =
      some "Undefined name (checked by the compiler)" := by rfl
  have known : (standard.lookup "no-undef" .typeScript).isSome := by rfl
  obtain ⟨names, keeps⟩ := nameless_override_keeps_name_iff [] undefinedName rfl
    ⟨.typeScript, concerns, known⟩
  refine ⟨rfl, held, ?_, fun kept => ?_⟩
  · exact names .typeScript concerns
  · obtain ⟨single | ⟨earlier, member, -⟩ | first, -⟩ := keeps.mp kept
    · exact single rfl
    · cases member
    · cases first

end RuleTable

end LintMend
