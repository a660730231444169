import PanelProbe.Text.Numeral

/-!
URLs after parsing: the parts in the form in which they are written, and their writing. Hosts that
are addresses are kept as numbers, so each address has one written form.
-/

set_option autoImplicit false

namespace PanelProbe

inductive Url.Host where
  | name (text : List Char)
  | ipv4 (address : Nat)
  | ipv6 (pieces : List Nat)
deriving DecidableEq

inductive Url.Path where
  | plain (text : List Char)
  | segments (names : List (List Char))
deriving DecidableEq

/-- A parsed URL: every text is percent-encoded as its place demands, and a port is present only if
it is not the scheme's own. The host is missing where there is no authority, and an empty name
where the authority names none. -/
structure Url where
  scheme : String
  username : List Char
  password : Option (List Char)
  host : Option Url.Host
  port : Option Nat
  path : Url.Path
  query : Option (List Char)
  fragment : Option (List Char)
deriving DecidableEq

namespace Url

inductive Fault where
  | noScheme
  | emptyHost
  | port
  | ipv4
  | ipv6
  | name
  | character
deriving DecidableEq

def Fault.message : Fault → String
  | .noScheme => "relative URL without a base"
  | .emptyHost => "empty host"
  | .port => "invalid port number"
  | .ipv4 => "invalid IPv4 address"
  | .ipv6 => "invalid IPv6 address"
  | .name => "invalid international domain name"
  | .character => "invalid domain character"

def defaultPort? (scheme : String) : Option Nat :=
  [("http", 80), ("https", 443), ("ws", 80), ("wss", 443), ("ftp", 21)].lookup scheme

/-- A special scheme always has an authority, and its paths also split at backslashes. -/
def isSpecial (scheme : String) : Bool :=
  scheme == "file" || (defaultPort? scheme).isSome

def ipv4Text (address : Nat) : List Char :=
  let byte (k : Nat) := Text.digits (address / Nat.pow 256 k % 256)
  byte 3 ++ '.' :: byte 2 ++ '.' :: byte 1 ++ '.' :: byte 0

def zeroRun (pieces : List Nat) : Nat :=
  (pieces.takeWhile (· == 0)).length

/-- Where the longest run of zero pieces begins and how long it is; of equal runs the first. -/
def longestZeroRun : List Nat → Nat × Nat
  | [] => (0, 0)
  | p :: rest =>
    let (start, length) := longestZeroRun rest
    let here := zeroRun (p :: rest)
    if here ≥ length then (0, here) else (start + 1, length)

def ipv6Pieces (pieces : List Nat) : List Char :=
  [':'].intercalate (pieces.map (Nat.toDigits 16))

/-- An address with its longest run of at least two zero pieces shortened to two colons. -/
def ipv6Text (pieces : List Nat) : List Char :=
  let (start, length) := longestZeroRun pieces
  if length < 2 then ipv6Pieces pieces
  else ipv6Pieces (pieces.take start) ++ [':', ':'] ++ ipv6Pieces (pieces.drop (start + length))

def Host.text : Host → List Char
  | .name text => text
  | .ipv4 address => ipv4Text address
  | .ipv6 pieces => '[' :: ipv6Text pieces ++ [']']

def Path.text : Path → List Char
  | .plain text => text
  | .segments names => names.flatMap ('/' :: ·)

def credentials (u : Url) : List Char :=
  match u.password with
  | some password => u.username ++ ':' :: password ++ ['@']
  | none => if u.username.isEmpty then [] else u.username ++ ['@']

def hostText (u : Url) : List Char :=
  ((u.host.map Host.text).getD []) ++ ((u.port.map fun p => ':' :: Text.digits p).getD [])

/-- The two slashes with what they introduce. Where there is no authority, a path that begins with
an empty segment gets a dot segment in front, so that its slashes introduce none. -/
def authority (u : Url) : List Char :=
  match u.host, u.path with
  | some _, _ => '/' :: '/' :: u.credentials ++ u.hostText
  | none, .segments ([] :: _ :: _) => ['/', '.']
  | none, _ => []

def queryText (u : Url) : List Char :=
  (u.query.map ('?' :: ·)).getD []

def fragmentText (u : Url) : List Char :=
  (u.fragment.map ('#' :: ·)).getD []

def target (u : Url) : List Char :=
  u.path.text ++ u.queryText

def text (u : Url) : List Char :=
  u.scheme.toList ++ ':' :: u.authority ++ u.target ++ u.fragmentText

end Url

end PanelProbe
