import Mathlib.Data.Nat.Notation

/-!
# Telephone events

The four-byte event payload of `rtp/dtmf/event.rs`.
-/

namespace LiveAISIP
namespace Rtp

/-- Size of a telephone event. -/
def telephoneEventBytes : Nat := 4

/-- Maximum attenuation of a telephone event. -/
def maxTelephoneEventVolume : UInt8 := 63

/-- A keypad digit. -/
inductive DtmfDigit
  | zero
  | one
  | two
  | three
  | four
  | five
  | six
  | seven
  | eight
  | nine
  | star
  | pound
  | a
  | b
  | c
  | d
  deriving DecidableEq

namespace DtmfDigit

/-- The event code of a digit. -/
def eventCode : DtmfDigit → UInt8
  | zero => 0
  | one => 1
  | two => 2
  | three => 3
  | four => 4
  | five => 5
  | six => 6
  | seven => 7
  | eight => 8
  | nine => 9
  | star => 10
  | pound => 11
  | a => 12
  | b => 13
  | c => 14
  | d => 15

/-- The digit of an event code. -/
def fromEventCode (code : UInt8) : Option DtmfDigit :=
  match code.toNat with
  | 0 => some zero
  | 1 => some one
  | 2 => some two
  | 3 => some three
  | 4 => some four
  | 5 => some five
  | 6 => some six
  | 7 => some seven
  | 8 => some eight
  | 9 => some nine
  | 10 => some star
  | 11 => some pound
  | 12 => some a
  | 13 => some b
  | 14 => some c
  | 15 => some d
  | _ => none

end DtmfDigit

/-- A telephone-event code. -/
inductive TelephoneEventCode
  | digit (digit : DtmfDigit)
  | flash
  | other (value : UInt8)
  deriving DecidableEq

namespace TelephoneEventCode

/-- Classify an event code. -/
def fromRaw (value : UInt8) : TelephoneEventCode :=
  match DtmfDigit.fromEventCode value with
  | some key => .digit key
  | none => if value = 16 then .flash else .other value

/-- The event code on the wire. -/
def asRaw : TelephoneEventCode → UInt8
  | .digit key => key.eventCode
  | .flash => 16
  | .other value => value

end TelephoneEventCode

/-- Failure to parse or construct a telephone event. -/
inductive TelephoneEventError
  | truncated (required available : Nat)
  | trailingBytes (actual expected : Nat)
  | reservedBitSet
  | volumeOutOfRange (volume maximum : UInt8)
  | invalidDigit (value : UInt8)
  deriving DecidableEq

/-- One telephone-event payload. -/
structure TelephoneEvent where
  code : TelephoneEventCode
  isEnd : Bool
  volume : UInt8
  duration : UInt16
  deriving DecidableEq

namespace TelephoneEvent

/-- Parse one event payload. -/
def parse (input : List UInt8) : Except TelephoneEventError TelephoneEvent :=
  match input with
  | [code, flags, high, low] =>
    if flags &&& 0x40 ≠ 0 then .error .reservedBitSet
    else .ok {
      code := .fromRaw code
      isEnd := flags &&& 0x80 != 0
      volume := flags &&& 0x3f
      duration := high.toUInt16 <<< 8 ||| low.toUInt16 }
  | _ =>
    if input.length < telephoneEventBytes then .error (.truncated telephoneEventBytes input.length)
    else .error (.trailingBytes input.length telephoneEventBytes)

/-- Construct one event payload. -/
def new (code : TelephoneEventCode) (isEnd : Bool) (volume : UInt8) (duration : UInt16) :
    Except TelephoneEventError TelephoneEvent :=
  if maxTelephoneEventVolume < volume then .error (.volumeOutOfRange volume maxTelephoneEventVolume)
  else .ok ⟨code, isEnd, volume, duration⟩

end TelephoneEvent
end Rtp
end LiveAISIP
