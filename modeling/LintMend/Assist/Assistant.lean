import LintMend.Assist.Reply
import LintMend.Assist.Prompt

/-!
# Assistants

An assistant as a run meets it: it answers one call after another, and remembers
what it was asked. The user may cancel the run during one of the calls. An
assistant that has nothing left to say declines.
-/

namespace LintMend

/-- What comes back from one call. -/
inductive Answer
  /-- The words of a model, still to be cleaned. -/
  | raw (text : Text)
  /-- A text that is taken as it is. -/
  | clean (text : Text)
  | failure (fault : AssistFault)
  deriving Repr

structure Assistant where
  provider : String
  /-- The answers to the calls to come. -/
  answers : List Answer
  /-- The call during which the user cancels, counted from one. -/
  cancelOn : Option Nat
  /-- The prompts of the calls so far, in order. -/
  prompts : List String
  deriving Repr

namespace Assistant

def read (clean : Text → Except AssistFault Text) :
    Option Answer → Except AssistFault Text
  | some (.raw text) => clean text
  | some (.clean text) => .ok text
  | some (.failure fault) => .error fault
  | none => .error .refused

/-- One call: the reply, whether the user cancels meanwhile, and the assistant
afterwards. -/
def ask (assistant : Assistant) (prompt : String)
    (clean : Text → Except AssistFault Text) :
    Except AssistFault Text × Bool × Assistant :=
  let prompts := assistant.prompts ++ [prompt]
  (read clean assistant.answers.head?, assistant.cancelOn = some prompts.length,
    { assistant with answers := assistant.answers.tail, prompts })

def suggest (assistant : Assistant) (request : LineRequest) :
    Except AssistFault Text × Bool × Assistant :=
  assistant.ask request.prompt Reply.cleanSuggestion

def review (assistant : Assistant) (request : ReviewRequest) :
    Except AssistFault Text × Bool × Assistant :=
  assistant.ask request.prompt Reply.cleanReview

end Assistant

end LintMend
