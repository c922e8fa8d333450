import MockCluster.Bytes

/-!
# IP addresses

The textual forms of IPv4 and IPv6 addresses.

* An IPv4 address is four decimal numbers below 256 without leading zeros, separated by dots.
* An IPv6 address is eight groups of one to four hexadecimal digits, separated by colons. One run of zero groups may
  be left out as two colons, and the last two groups may be written as an IPv4 address.
* An IPv6 address is printed in lower case with its first longest run of two or more zero groups left out; an address
  that maps an IPv4 address is printed with the latter in its tail.
-/

namespace MockCluster

/-- An IP address. -/
inductive IpAddress where
  /-- The four bytes of an IPv4 address. -/
  | v4 (a b c d : UInt8)
  /-- The eight groups of an IPv6 address. -/
  | v6 (groups : List UInt16)
  deriving DecidableEq, Repr, Inhabited

namespace IpAddress

/-- The value of a digit in a base up to sixteen. -/
def digitValue? (base : Nat) (c : Char) : Option Nat :=
  (Bytes.hexValue? c).filter (· < base)

/-- A number of one to `width` digits at the front of the text. A further digit is refused. -/
def readNumber (base width : Nat) (leadingZero : Bool) (text : List Char) : Option (Nat × List Char) :=
  let digits := text.takeWhile fun c => (digitValue? base c).isSome
  if digits.isEmpty ∨ width < digits.length then none
  else if ¬leadingZero ∧ digits.head? = some '0' ∧ 1 < digits.length then none
  else
    some (digits.foldl (fun n c => n * base + (digitValue? base c).getD 0) 0, text.drop digits.length)

/-- One byte of an IPv4 address. -/
def readByte (text : List Char) : Option (UInt8 × List Char) := do
  let (n, rest) ← readNumber 10 3 false text
  if n < 256 then some (UInt8.ofNat n, rest) else none

/-- What follows a given character. -/
def readChar (c : Char) : List Char → Option (List Char)
  | [] => none
  | d :: rest => if c = d then some rest else none

/-- An IPv4 address at the front of the text. -/
def readV4 (text : List Char) : Option ((UInt8 × UInt8 × UInt8 × UInt8) × List Char) := do
  let (a, text) ← readByte text
  let (b, text) ← readByte (← readChar '.' text)
  let (c, text) ← readByte (← readChar '.' text)
  let (d, text) ← readByte (← readChar '.' text)
  return ((a, b, c, d), text)

/-- The two groups that four bytes fill. -/
def groupsOfV4 : UInt8 × UInt8 × UInt8 × UInt8 → List UInt16
  | (a, b, c, d) => [a.toUInt16 * 256 + b.toUInt16, c.toUInt16 * 256 + d.toUInt16]

/-- A run of groups of an IPv6 address. -/
structure Groups where
  /-- The groups that were read. -/
  groups : List UInt16
  /-- Whether the run ends in an IPv4 address. -/
  endsInV4 : Bool
  /-- The text after the run. -/
  rest : List Char

/-- Up to `room` groups with colons between them. An IPv4 address takes the place of two groups and ends the run. -/
def readGroups : (room : Nat) → (first : Bool) → List Char → Groups
  | 0, _, text => ⟨[], false, text⟩
  | room + 1, first, text =>
    let start := if first then some text else readChar ':' text
    match (if room = 0 then none else start.bind readV4) with
    | some (bytes, rest) => ⟨groupsOfV4 bytes, true, rest⟩
    | none =>
      match start.bind (readNumber 16 4 true) with
      | some (n, rest) =>
        let more := readGroups room false rest
        { more with groups := UInt16.ofNat n :: more.groups }
      | none => ⟨[], false, text⟩

/-- The groups of an IPv6 address at the front of the text. -/
def readV6 (text : List Char) : Option (List UInt16 × List Char) :=
  let front := readGroups 8 true text
  if front.groups.length = 8 then some (front.groups, front.rest)
  else if front.endsInV4 then none
  else do
    let rest ← readChar ':' (← readChar ':' front.rest)
    let back := readGroups (7 - front.groups.length) true rest
    let zeros := List.replicate (8 - front.groups.length - back.groups.length) 0
    return (front.groups ++ zeros ++ back.groups, back.rest)

/-- The address at the front of the text. -/
def read (text : List Char) : Option (IpAddress × List Char) :=
  match readV4 text with
  | some ((a, b, c, d), rest) => some (.v4 a b c d, rest)
  | none => (readV6 text).map fun (groups, rest) => (.v6 groups, rest)

/-- The address that a text names. -/
def ofString? (text : String) : Option IpAddress :=
  match read text.toList with
  | some (address, []) => some address
  | _ => none

/-- A group without leading zeros. -/
def showGroup (g : UInt16) : String :=
  String.ofList (Nat.toDigits 16 g.toNat)

/-- Groups with colons between them. -/
def showGroups (groups : List UInt16) : String :=
  ":".intercalate (groups.map showGroup)

/-- The length of the run of zeros at the front. -/
def zeroRun (groups : List UInt16) : Nat := (groups.takeWhile (· = 0)).length

/-- Where the first longest run of zeros begins, and its length. -/
def longestZeros (groups : List UInt16) : Nat × Nat :=
  (List.range groups.length).foldl
    (fun best i => if best.2 < zeroRun (groups.drop i) then (i, zeroRun (groups.drop i)) else best) (0, 0)

/-- The text of an IPv4 address. -/
def showV4 (a b c d : UInt8) : String :=
  s!"{a.toNat}.{b.toNat}.{c.toNat}.{d.toNat}"

/-- The printed form. -/
protected def toString : IpAddress → String
  | .v4 a b c d => showV4 a b c d
  | .v6 [0, 0, 0, 0, 0, 0xffff, x, y] =>
    "::ffff:" ++ showV4 (x / 256).toUInt8 x.toUInt8 (y / 256).toUInt8 y.toUInt8
  | .v6 groups =>
    match longestZeros groups with
    | (start, length) =>
      if 1 < length then
        showGroups (groups.take start) ++ "::" ++ showGroups (groups.drop (start + length))
      else showGroups groups

end IpAddress

/-- An IP address and a port. -/
structure Endpoint where
  /-- The address. -/
  address : IpAddress
  /-- The port. -/
  port : UInt16
  /-- The zone to which an IPv6 address belongs; zero if none is named. -/
  scope : UInt32 := 0
  deriving DecidableEq, Repr, Inhabited

namespace Endpoint

/-- A number below a bound, in decimal digits and with any number of leading zeros. -/
def readDecimal? (bound : Nat) (digits : List Char) : Option Nat :=
  if digits.isEmpty ∨ ¬digits.all Char.isDigit then none
  else
    let n := digits.foldl (fun n c => n * 10 + (c.toNat - 0x30)) 0
    if n < bound then some n else none

/-- The port of an endpoint in text form: a colon and a number of 16 bits, then nothing. -/
def readPort? (text : List Char) : Option UInt16 :=
  match text with
  | ':' :: digits => (readDecimal? 65536 digits).map UInt16.ofNat
  | _ => none

/-- The zone behind an IPv6 address: a percent sign and a number of 32 bits, or nothing. -/
def readScope? (text : List Char) : Option UInt32 :=
  match text with
  | [] => some 0
  | '%' :: digits => (readDecimal? 4294967296 digits).map UInt32.ofNat
  | _ => none

/-- The endpoint that a text names: `a.b.c.d:port`, or an IPv6 address in brackets before the port. In the brackets, a
zone may follow the address. -/
def ofString? (text : String) : Option Endpoint :=
  match text.toList with
  | '[' :: rest => do
    let (groups, rest) ← IpAddress.readV6 rest
    let scope ← readScope? (rest.takeWhile (· ≠ ']'))
    let port ← readPort? (← IpAddress.readChar ']' (rest.dropWhile (· ≠ ']')))
    return ⟨.v6 groups, port, scope⟩
  | rest => do
    let ((a, b, c, d), rest) ← IpAddress.readV4 rest
    return ⟨.v4 a b c d, ← readPort? rest, 0⟩

/-- The printed form, with an IPv6 address and its zone in brackets. -/
protected def toString (e : Endpoint) : String :=
  match e.address with
  | .v4 .. => s!"{e.address.toString}:{e.port.toNat}"
  | .v6 _ =>
    let zone := if e.scope = 0 then "" else s!"%{e.scope.toNat}"
    s!"[{e.address.toString}{zone}]:{e.port.toNat}"

end Endpoint

end MockCluster
