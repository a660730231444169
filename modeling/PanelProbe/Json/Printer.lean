import PanelProbe.Json.Token

/-!
The two written forms of a JSON value: compact, without any space, and indented by two spaces a
level. Both spell the same tokens.
-/

set_option autoImplicit false

namespace PanelProbe.Json

mutual

def tokens : Json → List Token
  | .null => [.null]
  | .bool b => [.bool b]
  | .number n => [.number n]
  | .string s => [.string s]
  | .array items => .openArray :: itemTokens items ++ [.closeArray]
  | .object members => .openObject :: memberTokens members ++ [.closeObject]

def itemTokens : List Json → List Token
  | [] => []
  | [v] => tokens v
  | v :: rest => tokens v ++ .comma :: itemTokens rest

def memberTokens : List (String × Json) → List Token
  | [] => []
  | [(key, v)] => .string key :: .colon :: tokens v
  | (key, v) :: rest => .string key :: .colon :: tokens v ++ .comma :: memberTokens rest

end

def compact (v : Json) : String :=
  String.ofList (v.tokens.flatMap Token.spelling)

def lineBreak (level : Nat) : List Char :=
  '\n' :: List.replicate (2 * level) ' '

mutual

def indented (level : Nat) : Json → List Char
  | .null => Token.spelling .null
  | .bool b => Token.spelling (.bool b)
  | .number n => Token.spelling (.number n)
  | .string s => Token.spelling (.string s)
  | .array [] => ['[', ']']
  | .array (v :: rest) =>
    '[' :: lineBreak (level + 1) ++ indented (level + 1) v ++ indentedItems (level + 1) rest ++
      lineBreak level ++ [']']
  | .object [] => ['\x7b', '\x7d']
  | .object ((key, v) :: rest) =>
    '\x7b' :: lineBreak (level + 1) ++ quoted key ++ [':', ' '] ++ indented (level + 1) v ++
      indentedMembers (level + 1) rest ++ lineBreak level ++ ['\x7d']

/-- The items after the first one, each behind a comma and a line break. -/
def indentedItems (level : Nat) : List Json → List Char
  | [] => []
  | v :: rest => ',' :: lineBreak level ++ indented level v ++ indentedItems level rest

def indentedMembers (level : Nat) : List (String × Json) → List Char
  | [] => []
  | (key, v) :: rest =>
    ',' :: lineBreak level ++ quoted key ++ [':', ' '] ++ indented level v ++
      indentedMembers level rest

end

def pretty (v : Json) : String :=
  String.ofList (indented 0 v)

end PanelProbe.Json
