/-!
Cutting of a text in two at the first or the last occurrence of a character, which belongs to
neither part.
-/

set_option autoImplicit false

namespace PanelProbe.Text

/-- The text before the first mark, and the text after it when there is one. -/
def cut (mark : Char) (text : List Char) : List Char × Option (List Char) :=
  match text.dropWhile (· ≠ mark) with
  | [] => (text, none)
  | _ :: rest => (text.takeWhile (· ≠ mark), some rest)

/-- The text before the last mark, when there is one, and the text after it. -/
def cutLast (mark : Char) (text : List Char) : Option (List Char) × List Char :=
  let (back, front) := cut mark text.reverse
  (front.map List.reverse, back.reverse)

end PanelProbe.Text
