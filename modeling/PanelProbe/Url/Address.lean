import PanelProbe.Url.Basic

/-!
Reading of numeric addresses. Of a 32-bit address one to four numbers may be written, each in
decimal, octal or hexadecimal, the last filling the bytes that remain; a 128-bit address has eight
pieces, one run of zero pieces may be left out, and its last two may be four decimal bytes.
-/

set_option autoImplicit false

namespace PanelProbe.Url

/-- One number of an address: `0x` announces hexadecimal and a leading zero octal; nothing after
the announcement is zero. -/
def addressNumber? : List Char → Option Nat
  | [] => none
  | '0' :: 'x' :: rest | '0' :: 'X' :: rest => Text.inBase? 16 rest
  | '0' :: rest => Text.inBase? 8 rest
  | text => Text.inBase? 10 text

/-- The parts of a host name, without the empty one after a final point. -/
def labels (text : List Char) : List (List Char) :=
  let parts := text.splitOn '.'
  if parts.length > 1 && parts.getLast? == some [] then parts.dropLast else parts

/-- A host is meant as an address when its last part is a number. -/
def endsInNumber (text : List Char) : Bool :=
  match (labels text).getLast? with
  | some last => (!last.isEmpty && last.all Char.isDigit) || (addressNumber? last).isSome
  | none => false

def ipv4Of (text : List Char) : Except Fault Nat :=
  let parts := labels text
  match parts.mapM addressNumber? with
  | none => .error .ipv4
  | some numbers =>
    match numbers.getLast? with
    | none => .error .ipv4
    | some last =>
      let front := numbers.dropLast
      if numbers.length ≤ 4 && front.all (· < 256) && last < Nat.pow 256 (4 - front.length) then
        .ok (front.foldr (fun n low => n * Nat.pow 256 3 + low / 256) 0 + last)
      else .error .ipv4

def decimalByte? (text : List Char) : Option Nat :=
  if text.length > 1 && text.head? == some '0' then none
  else (Text.ofDigits? text).filter (· < 256)

def dotted? (text : List Char) : Option (List Nat) := do
  match ← (text.splitOn '.').mapM decimalByte? with
  | [a, b, c, d] => some [a * 256 + b, c * 256 + d]
  | _ => none

def piece? (text : List Char) : Option Nat :=
  if text.isEmpty || text.length > 4 then none else Text.inBase? 16 text

def pieces? (final : Bool) (text : List Char) : Option (List Nat) :=
  if text.isEmpty then some [] else do
    let parts := text.splitOn ':'
    let front ← parts.dropLast.mapM piece?
    let last ← parts.getLast?
    if final && last.contains '.' then some (front ++ (← dotted? last))
    else some (front ++ [← piece? last])

def cutGap? : List Char → Option (List Char × List Char)
  | ':' :: ':' :: rest => some ([], rest)
  | c :: rest => (cutGap? rest).map fun (front, back) => (c :: front, back)
  | [] => none

/-- Reads the inside of a bracketed address; a gap stands for at least one zero piece. -/
def ipv6Of (text : List Char) : Except Fault (List Nat) :=
  let found := match cutGap? text with
    | none => (pieces? true text).filter (·.length == 8)
    | some (front, back) => do
      let front ← pieces? false front
      let back ← pieces? true back
      if front.length + back.length < 8 then
        some (front ++ List.replicate (8 - front.length - back.length) 0 ++ back)
      else none
  match found with
  | some pieces => .ok pieces
  | none => .error .ipv6

end PanelProbe.Url
