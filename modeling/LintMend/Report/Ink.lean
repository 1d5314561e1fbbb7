/-!
# Ink

Colour and weight of texts on a terminal. A coloured text begins with its style
and ends with a reset; a reset inside is followed by the style again, so that
the colour lasts to the end.
-/

namespace LintMend

inductive Colour
  | red
  | green
  | yellow
  | blue
  | magenta
  | cyan
  deriving DecidableEq, Repr

namespace Colour

def code : Colour → String
  | red => "31"
  | green => "32"
  | yellow => "33"
  | blue => "34"
  | magenta => "35"
  | cyan => "36"

end Colour

structure Style where
  bold : Bool
  colour : Option Colour
  deriving DecidableEq, Repr

namespace Style

def strong : Style :=
  { bold := true, colour := none }

def tinted (colour : Colour) : Style :=
  { bold := false, colour := some colour }

def strongTinted (colour : Colour) : Style :=
  { bold := true, colour := some colour }

/-- The sequence that switches a style on. -/
def start (style : Style) : String :=
  let codes :=
    (if style.bold then ["1"] else []) ++ (style.colour.map Colour.code).toList
  "\x1b[" ++ ";".intercalate codes ++ "m"

def reset : String := "\x1b[0m"

end Style

/-- Whether styles show. -/
structure Ink where
  shows : Bool
  deriving DecidableEq, Repr

namespace Ink

def plain : Ink := ⟨false⟩

def coloured : Ink := ⟨true⟩

def paint (ink : Ink) (style : Style) (text : String) : String :=
  if ink.shows then
    style.start ++ text.replace Style.reset (Style.reset ++ style.start) ++
      Style.reset
  else text

def isOn (value : Option String) : Option Bool :=
  value.map (· ≠ "0")

/-- What the environment asks for: colours can be forced, or else forbidden;
otherwise a terminal gets them unless they are switched off. -/
def ofEnvironment (lookup : String → Option String) (isTerminal : Bool) : Ink :=
  if isOn (lookup "CLICOLOR_FORCE") = some true then coloured
  else if (lookup "NO_COLOR").isSome then plain
  else ⟨(isOn (lookup "CLICOLOR")).getD true && isTerminal⟩

end Ink

end LintMend
