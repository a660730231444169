import PanelProbe.Text.Replace

/-!
Styled console text. A style is switched on in front of a text and off behind it; where the text
itself switches styles off, the style is switched on again.
-/

set_option autoImplicit false

namespace PanelProbe.Console

inductive Style
  | green | red | cyan | bold | dimmed | redBold
  deriving DecidableEq, Repr

def Style.start : Style → String
  | .green => "\x1b[32m"
  | .red => "\x1b[31m"
  | .cyan => "\x1b[36m"
  | .bold => "\x1b[1m"
  | .dimmed => "\x1b[2m"
  | .redBold => "\x1b[1;31m"

def reset : String := "\x1b[0m"

/-- Colours are on when they are forced, else off when they are refused, else as the terminal has
them. A variable that is zero neither forces nor allows. -/
def isColored (terminal : Bool) (allowed refused forced : Option String) : Bool :=
  if forced.any (· != "0") then true
  else if refused.isSome then false
  else terminal && allowed.all (· != "0")

def styled (colored : Bool) (style : Style) (text : String) : String :=
  if colored then
    style.start ++
      String.ofList (Text.replace reset.toList (reset ++ style.start).toList text.toList) ++ reset
  else text

def mark (colored passed : Bool) : String :=
  if passed then styled colored .green "✓" else styled colored .red "✗"

end PanelProbe.Console
