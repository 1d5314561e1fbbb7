import LintMend.Assist.Reply

/-!
# Providers

The services that can be asked for help. A provider is used if its key is in the
environment. Without a choice in the configuration the first provider with a key
is taken.
-/

namespace LintMend

inductive Provider
  | groq
  | together
  | openRouter
  | anthropic
  deriving DecidableEq, Repr

namespace Provider

/-- All providers, the preferred ones first. -/
def all : List Provider :=
  [groq, together, openRouter, anthropic]

def key : Provider → String
  | groq => "groq"
  | together => "together"
  | openRouter => "openrouter"
  | anthropic => "anthropic"

def ofKey? (key : String) : Option Provider :=
  all.find? (·.key = key)

/-- The environment variable that holds the provider's key. -/
def keyVariable : Provider → String
  | groq => "GROQ_API_KEY"
  | together => "TOGETHER_API_KEY"
  | openRouter => "OPENROUTER_API_KEY"
  | anthropic => "ANTHROPIC_API_KEY"

/-- Whether the provider is asked through chat completions; else it has messages
of its own. -/
def hasChatCompletions : Provider → Bool
  | anthropic => false
  | _ => true

/-- Sets up a provider that is asked through chat completions. -/
def chatCompletions (provider : Provider) : Except AssistFault Provider :=
  if provider.hasChatCompletions then .ok provider
  else
    .error (.setup (provider.key ++ " does not speak the OpenAI wire format"))

end Provider

structure AiConfig where
  enabled : Bool
  provider : Option Provider
  model : Option String
  timeoutSeconds : Nat
  /-- Lines of code around a finding that are sent. -/
  contextLines : Nat
  /-- Files sent for review in one run. -/
  reviewFiles : Nat
  deriving DecidableEq, Repr

namespace AiConfig

def standard : AiConfig :=
  { enabled := false, provider := none, model := none, timeoutSeconds := 30,
    contextLines := 5
    reviewFiles := 3 }

/-- A provider with its key; a blank key is none. -/
def keyed? (lookup : String → Option String) (provider : Provider) :
    Option (Provider × String) :=
  match lookup provider.keyVariable with
  | some key => if Text.blank key.toList then none else some (provider, key)
  | none => none

/-- The provider to ask and its key. A configured provider needs a key of its
own. -/
def resolve (config : AiConfig) (lookup : String → Option String) :
    Option (Provider × String) :=
  match config.provider with
  | some provider => keyed? lookup provider
  | none => Provider.all.findSome? (keyed? lookup)

/-- The provider that a run may ask, if assistance is enabled. -/
def usable (config : AiConfig) (lookup : String → Option String) :
    Option Provider :=
  if config.enabled then (config.resolve lookup).map Prod.fst else none

end AiConfig

end LintMend
