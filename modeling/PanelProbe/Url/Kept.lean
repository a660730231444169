/-!
Which characters stand for themselves in the parts of a URL; all others are percent-encoded there.
-/

set_option autoImplicit false

namespace PanelProbe.Url

def keptPlain (c : Char) : Bool :=
  0x20 ≤ c.toNat && c.toNat < 0x7F

def keptInFragment (c : Char) : Bool :=
  keptPlain c && !" \"<>\x60".toList.contains c

/-- A query does not keep the space, the quotation mark, the number sign and angle brackets, in the
special schemes nor the apostrophe. -/
def keptInQuery (special : Bool) (c : Char) : Bool :=
  keptPlain c && !" \"#<>".toList.contains c && !(special && c == '\'')

/-- A segment of a path keeps what a fragment does but the marks of query and fragment and
braces. -/
def keptInPath (c : Char) : Bool :=
  keptInFragment c && !"#?\x7b\x7d".toList.contains c

def keptInCredentials (c : Char) : Bool :=
  keptInPath c && !"/:;=@[\\]^|".toList.contains c

end PanelProbe.Url
