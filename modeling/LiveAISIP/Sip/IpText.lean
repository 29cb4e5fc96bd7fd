import LiveAISIP.Sip.UriText

/-!
# IP addresses as text

How the standard library reads an IPv4 or IPv6 address, and which bytes stand in
the text of one.
-/

namespace LiveAISIP
namespace Sip

open Ascii

/-- A reader of the front of a text. -/
abbrev Reader (α : Type) := Bytes → Option (α × Bytes)

/-- The value of a digit in a radix of at most sixteen. -/
def digitValue (radix : Nat) (byte : UInt8) : Option Nat :=
  let value :=
    if 48 ≤ byte && byte ≤ 57 then some (byte.toNat - 48)
    else if 97 ≤ byte && byte ≤ 102 then some (byte.toNat - 87)
    else if 65 ≤ byte && byte ≤ 70 then some (byte.toNat - 55)
    else none
  value.filter (· < radix)

/-- Read all digits that follow as a number below a limit, with a bound on their
count. -/
def readNumber
    (radix maxDigits limit : Nat) (allowZeroPrefix : Bool) : Reader Nat := fun input =>
  let isDigit (byte : UInt8) := (digitValue radix byte).isSome
  let digits := input.takeWhile isDigit
  let value := digits.foldl (fun value byte => value * radix + (digitValue radix byte).getD 0) 0
  if digits = [] ∨ maxDigits < digits.length ∨ limit ≤ value ∨
      (¬allowZeroPrefix ∧ digits.head? = some 48 ∧ 1 < digits.length) then
    none
  else
    some (value, input.dropWhile isDigit)

/-- Read one given byte. -/
def readGivenChar (char : UInt8) : Reader Unit
  | first :: rest => if first = char then some ((), rest) else none
  | [] => none

/-- Read an item, after a separator unless it is the first one. -/
def readSeparator
    (separator : UInt8) (index : Nat) (inner : Reader α) : Reader α := fun input => do
  if index = 0 then
    inner input
  else
    let ((), rest) ← readGivenChar separator input
    inner rest

/-- Read the four octets of an IPv4 address. -/
def readIpv4Addr : Reader (BitVec 32) := fun input => do
  let readOctet := readNumber 10 3 256 false
  let (first, input) ← readSeparator 46 0 readOctet input
  let (second, input) ← readSeparator 46 1 readOctet input
  let (third, input) ← readSeparator 46 2 readOctet input
  let (fourth, input) ← readSeparator 46 3 readOctet input
  return (BitVec.ofNat 32 (first * 2 ^ 24 + second * 2 ^ 16 + third * 2 ^ 8 + fourth), input)

/-- Read groups of an IPv6 address, the last two of them possibly as an IPv4
address; `slots` are left, and the second result tells of the IPv4 address. -/
def readGroups (index : Nat) : Nat → Bytes → List Nat × Bool × Bytes
  | 0, input => ([], false, input)
  | slots + 1, input =>
    let embedded :=
      if slots = 0 then none
      else readSeparator 58 index readIpv4Addr input
    match embedded with
    | some (address, rest) =>
      ([address.toNat / 65536, address.toNat % 65536], true, rest)
    | none =>
      match readSeparator 58 index (readNumber 16 4 65536 true) input with
      | none => ([], false, input)
      | some (group, rest) =>
        let (groups, hasIpv4, rest) := readGroups (index + 1) slots rest
        (group :: groups, hasIpv4, rest)

/-- The address of eight groups. -/
def ofGroups (groups : List Nat) : BitVec 128 :=
  BitVec.ofNat 128 (groups.foldl (fun value group => value * 65536 + group) 0)

/-- Read an IPv6 address: eight groups, or fewer around two colons. -/
def readIpv6Addr : Reader (BitVec 128) := fun input => do
  let (head, headIpv4, input) := readGroups 0 8 input
  if head.length = 8 then
    return (ofGroups head, input)
  else if headIpv4 then
    none
  else
    let ((), input) ← readGivenChar 58 input
    let ((), input) ← readGivenChar 58 input
    let (tail, _, input) := readGroups 0 (8 - (head.length + 1)) input
    let zeros := List.replicate (8 - head.length - tail.length) 0
    return (ofGroups (head ++ zeros ++ tail), input)

/-- What a reader reads of a whole text. -/
def parseWith (read : Reader α) (input : Bytes) : Option α :=
  match read input with
  | some (value, []) => some value
  | _ => none

/-- Read a text as an IPv4 address; no such text is longer than 15 bytes. -/
def parseIpv4Addr (input : Bytes) : Option (BitVec 32) :=
  if 15 < input.length then none else parseWith readIpv4Addr input

/-- Read a text as an IPv6 address. -/
def parseIpv6Addr (input : Bytes) : Option (BitVec 128) := parseWith readIpv6Addr input

end Sip
end LiveAISIP
