import PanelProbe.Text.Numeral

/-!
Percent-encoding of UTF-8 bytes: a byte is kept as the character it stands for or written as a
percent sign and two hexadecimal digits in upper case. Decoding reads such triples back.
-/

set_option autoImplicit false

namespace PanelProbe.Percent

def bytes (text : List Char) : List UInt8 :=
  text.flatMap String.utf8EncodeChar

def digit (n : Nat) : Char :=
  if n < 10 then Char.ofNat ('0'.toNat + n) else Char.ofNat ('A'.toNat + n - 10)

def triple (b : UInt8) : List Char :=
  ['%', digit (b.toNat / 16), digit (b.toNat % 16)]

/-- A byte as it is written when the characters satisfying `keep` stand for themselves. -/
def encodeByte (keep : Char → Bool) (b : UInt8) : List Char :=
  let c := Char.ofNat b.toNat
  if b < 0x80 && keep c then [c] else triple b

def encodeBytes (keep : Char → Bool) (data : List UInt8) : List Char :=
  data.flatMap (encodeByte keep)

def encode (keep : Char → Bool) (text : List Char) : List Char :=
  encodeBytes keep (bytes text)

/-- The bytes an encoded text stands for: a well-formed triple is one byte, any other character
its own UTF-8 bytes. -/
def decode : List Char → List UInt8
  | [] => []
  | '%' :: a :: b :: rest =>
    match Text.hexValue? a, Text.hexValue? b with
    | some high, some low => UInt8.ofNat (16 * high + low) :: decode rest
    | _, _ => String.utf8EncodeChar '%' ++ decode (a :: b :: rest)
  | c :: rest => String.utf8EncodeChar c ++ decode rest

def isUnreserved (c : Char) : Bool :=
  c.isAlphanum || c == '-' || c == '.' || c == '_' || c == '~'

end PanelProbe.Percent
