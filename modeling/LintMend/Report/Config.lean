import LintMend.Config.Basic
import LintMend.Json.Value

/-!
# Configurations as JSON

All settings of a configuration, set or not.
-/

namespace LintMend

namespace Config

def strings (texts : List String) : Json :=
  .array (texts.map .string)

def overrideJson (rule : RuleOverride) : Json :=
  .object
    [("code", .string rule.code),
     ("language", .ofOption (fun language =>
       .string language.key) rule.language),
     ("category", .string rule.category.key),
     ("confidence", .ofOption .float rule.confidence),
     ("name", .ofOption .string rule.name)]

def rulesJson (rules : RulesConfig) : Json :=
  .object
    [("enabled", strings rules.filter.enabled),
     ("disabled", strings rules.filter.disabled),
     ("skip_init_files", .bool rules.keepPackageFiles),
     ("overrides", .array (rules.overrides.map overrideJson))]

def fixJson (fix : FixConfig) : Json :=
  .object
    [("max_issues_per_run", .ofNat fix.maxIssues),
     ("max_shrink_ratio", .float fix.maxShrink)]

def aiJson (ai : AiConfig) : Json :=
  .object
    [("enabled", .bool ai.enabled),
     ("provider", .ofOption (fun provider => .string provider.key) ai.provider),
     ("model", .ofOption .string ai.model),
     ("timeout_secs", .ofNat ai.timeoutSeconds),
     ("context_lines", .ofNat ai.contextLines),
     ("review_files", .ofNat ai.reviewFiles)]

def json (config : Config) : Json :=
  .object
    [("rules", rulesJson config.rules), ("fix", fixJson config.fix),
     ("ai", aiJson config.ai), ("usage",
       .object
         [("limit", .ofNat config.usage.limit),
          ("window_seconds", .ofNat config.usage.windowSeconds)]),
     ("paths", .object [("skip", strings config.paths.skip)]),
     ("state",
       .object
         [("dir", .ofOption (fun path =>
           .string path.text) config.state.directory)])]

end Config

end LintMend
