import LintMend.Config.Basic
import LintMend.Data.Decode

/-!
# Reading a configuration

A configuration is a record of records. Every one of them refuses fields it does
not know, so that a misspelled name is not passed over in silence, and every
field that is left out keeps its default, but for the code and the category of
an override.
-/

namespace LintMend

namespace Config

/-- A field that may be left out. -/
def setting {σ α : Type} (name : String) (decoder : Decoder α)
    (set : α → σ → σ) :
    Decoder.Field σ :=
  { name
    absence := .defaulted
    read := fun data record => (decoder data).map fun value =>
      set value record }

/-- A field that has to be there. -/
def required {σ α : Type} (name : String) (decoder : Decoder α)
    (set : α → σ → σ) :
    Decoder.Field σ :=
  { setting name decoder set with absence := .refused }

variable (manner : Decoder.Manner)

def decodeOverride : Decoder RuleOverride :=
  Decoder.record manner
    [required "code" Decoder.text fun code rule => { rule with code },
     setting "language"
       (Decoder.optional
         (Decoder.choice manner (Language.all.map Language.key)
           Language.ofKey?))
       fun language rule => { rule with language },
     required "category"
       (Decoder.choice manner (Category.all.map Category.key) Category.ofKey?)
       fun category rule => { rule with category },
     setting "confidence" (Decoder.optional Decoder.real) fun confidence rule =>
       { rule with confidence },
     setting "name" (Decoder.optional Decoder.text) fun name rule =>
       { rule with name }]
    { code := "", language := none, category := .suggest, confidence := none,
      name := none }

def decodeRules : Decoder RulesConfig :=
  Decoder.record manner
    [setting "enabled" (Decoder.list Decoder.text) fun enabled rules =>
       { rules with filter := { rules.filter with enabled } },
     setting "disabled" (Decoder.list Decoder.text) fun disabled rules =>
       { rules with filter := { rules.filter with disabled } },
     setting "skip_init_files" Decoder.bool fun keepPackageFiles rules =>
       { rules with keepPackageFiles },
     setting "overrides" (Decoder.list (decodeOverride manner))
       fun overrides rules => { rules with overrides }]
    .standard

def decodeFix : Decoder FixConfig :=
  Decoder.record manner
    [setting "max_issues_per_run" Decoder.count fun maxIssues fix =>
       { fix with maxIssues },
     setting "max_shrink_ratio" Decoder.real fun maxShrink fix =>
       { fix with maxShrink }]
    .standard

def decodeAi : Decoder AiConfig :=
  Decoder.record manner
    [setting "enabled" Decoder.bool fun enabled ai => { ai with enabled },
     setting "provider"
       (Decoder.optional (Decoder.choice manner (Provider.all.map Provider.key)
         Provider.ofKey?))
       fun provider ai => { ai with provider },
     setting "model" (Decoder.optional Decoder.text) fun model ai =>
       { ai with model },
     setting "timeout_secs" Decoder.count fun timeoutSeconds ai =>
       { ai with timeoutSeconds },
     setting "context_lines" Decoder.count fun contextLines ai =>
       { ai with contextLines },
     setting "review_files" Decoder.count fun reviewFiles ai =>
       { ai with reviewFiles }]
    .standard

def decodeUsage : Decoder UsageConfig :=
  Decoder.record manner
    [setting "limit" Decoder.count fun limit usage => { usage with limit },
     setting "window_seconds" Decoder.count fun windowSeconds usage =>
       { usage with windowSeconds }]
    .standard

def decodePaths : Decoder PathsConfig :=
  Decoder.record manner
    [setting "skip" (Decoder.list Decoder.text) fun skip paths =>
       { paths with skip }]
    .standard

def decodeState : Decoder StateConfig :=
  Decoder.record manner
    [setting "dir" (Decoder.optional Decoder.text) fun directory state =>
       { state with directory := directory.map Path.mk }]
    .standard

def decode : Decoder Config :=
  Decoder.record manner
    [setting "rules" (decodeRules manner) fun rules config =>
       { config with rules },
     setting "fix" (decodeFix manner) fun fix config => { config with fix },
     setting "ai" (decodeAi manner) fun ai config => { config with ai },
     setting "usage" (decodeUsage manner) fun usage config =>
       { config with usage },
     setting "paths" (decodePaths manner) fun paths config =>
       { config with paths },
     setting "state" (decodeState manner) fun state config =>
       { config with state }]
    .standard

end Config

end LintMend
