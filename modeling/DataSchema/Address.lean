import DataSchema.Text.Numeral
import DataSchema.Text.Split

/-!
# Network addresses

The grammars of IPv4 and IPv6 addresses, of address ranges with a length behind a slash, and of
hardware addresses. An IPv4 address is four decimal octets without leading zeros. An IPv6 address is
eight groups of up to four hexadecimal digits; one double colon may stand for one or more zero
groups, and the last two groups may be written as an IPv4 address.
-/

namespace DataSchema.Address

def isHexDigit (c : Char) : Bool := (Text.hexValue? c).isSome

/-- Up to three digits without a leading zero, at most 255. -/
def isOctet (text : List Char) : Bool :=
  Text.isDigits text && text.length ≤ 3 && (text.length == 1 || text.head? != some '0') &&
    Text.naturalValue text ≤ 255

def isIPv4 (text : List Char) : Bool :=
  let octets := Text.pieces '.' text
  octets.length == 4 && octets.all isOctet

def isGroup (text : List Char) : Bool := !text.isEmpty && text.length ≤ 4 && text.all isHexDigit

/-- How many of the eight groups are written, where the last piece may be an IPv4 address; nothing
when some piece is no group. -/
def groupCount? (mayEndInIPv4 : Bool) : List (List Char) → Option Nat
  | [] => some 0
  | [last] => if isGroup last then some 1 else if mayEndInIPv4 && isIPv4 last then some 2 else none
  | piece :: rest => if isGroup piece then (groupCount? mayEndInIPv4 rest).map (· + 1) else none

/-- The pieces between colons; an empty text has none. -/
def groupPieces (text : List Char) : List (List Char) :=
  if text.isEmpty then [] else Text.pieces ':' text

/-- The texts before and after the first double colon. -/
def splitAtGap? : List Char → Option (List Char × List Char)
  | ':' :: ':' :: rest => some ([], rest)
  | c :: rest => (splitAtGap? rest).map fun (before, after) => (c :: before, after)
  | [] => none

def isIPv6 (text : List Char) : Bool :=
  match splitAtGap? text with
  | none => groupCount? true (groupPieces text) == some 8
  | some (before, after) =>
    match groupCount? false (groupPieces before), groupCount? true (groupPieces after) with
    | some m, some n => m + n ≤ 7
    | _, _ => false

/-- An address, a slash and a length of at most `longest`. -/
def isRange (isAddress : List Char → Bool) (longest : Nat) (text : List Char) : Bool :=
  match Text.splitOnce? '/' text with
  | some (address, length) => isAddress address && (Text.unsigned? length).any (· ≤ longest)
  | none => false

def isIPv4Range (text : List Char) : Bool := isRange isIPv4 32 text

def isIPv6Range (text : List Char) : Bool := isRange isIPv6 128 text

/-- Pairs of hexadecimal digits, each but the first behind a colon or a hyphen. -/
def isPairList : List Char → Bool
  | [a, b] => isHexDigit a && isHexDigit b
  | a :: b :: separator :: rest =>
    isHexDigit a && isHexDigit b && (separator = ':' || separator = '-') && isPairList rest
  | _ => false

/-- Three groups of four hexadecimal digits between points. -/
def isGroupTriple (text : List Char) : Bool :=
  let groups := Text.pieces '.' text
  groups.length == 3 && groups.all fun group => group.length == 4 && group.all isHexDigit

/-- Six pairs of hexadecimal digits, or three groups of four. -/
def isHardware (text : List Char) : Bool :=
  (text.length == 17 && isPairList text) || isGroupTriple text

end DataSchema.Address
