import PanelProbe.Percent
import PanelProbe.Url.Address
import PanelProbe.Url.Kept
import PanelProbe.Url.Label

/-!
Host names of the schemes that look names up. A name is percent-decoded, folded and composed, its
labels beyond ASCII are written in their ASCII coding, and a name whose last label is a number is an
address.
-/

set_option autoImplicit false

namespace PanelProbe.Url

def nameOfBytes (data : List UInt8) : Except Fault (List Char) :=
  let labels? := do
    let text ← String.fromUTF8? (ByteArray.mk data.toArray)
    let folded ← text.toList.mapM Text.fold?
    ((Text.composed folded.flatten).splitOn '.').mapM Label.ofFolded?
  match labels? with
  | some labels =>
    if agreeInDirection labels then .ok (['.'].intercalate (labels.map Label.ascii))
    else .error .name
  | none => .error .name

def bracketed? : List Char → Option (Except Fault Host)
  | '[' :: rest =>
    some (if rest.getLast? == some ']' then (ipv6Of rest.dropLast).map .ipv6 else .error .ipv6)
  | _ => none

def Host.ofName (text : List Char) : Except Fault Host :=
  match bracketed? text with
  | some found => found
  | none => do
    let name ← nameOfBytes (Percent.decode text)
    if name.isEmpty then .error .emptyHost
    else if endsInNumber name then (ipv4Of name).map .ipv4
    else .ok (.name name)

def endsHost (c : Char) : Bool :=
  "\x00\t\n\r #/:<>?@[\\]^|".toList.contains c

/-- Reads the host of any other scheme, which is only percent-encoded. -/
def Host.ofText (text : List Char) : Except Fault Host :=
  match bracketed? text with
  | some found => found
  | none =>
    if text.any endsHost then .error .character
    else .ok (.name (Percent.encode keptPlain text))

end PanelProbe.Url
