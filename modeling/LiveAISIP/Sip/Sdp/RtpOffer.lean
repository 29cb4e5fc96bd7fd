import LiveAISIP.Sip.Sdp.Document
import LiveAISIP.Sip.Sdp.Negotiation

/-!
# RTP media offers

The negotiation of RTP media of `sip/sdp/negotiation.rs` with the codec mappings of
`sip/sdp/codec.rs` and the directions of `sip/sdp/direction.rs`.  The payload types
of an `m=` line are resolved in its order, by an `rtpmap` attribute or else by the
static mapping of the payload type; a selection follows the order of the local
codecs.

Values of attributes are texts: a part of one is a list of characters.
-/

namespace LiveAISIP
namespace Sip
namespace Sdp

open Ascii Text

/-- Failure to parse or construct a codec mapping. -/
inductive CodecError
  | payloadTypeOutOfRange (value : UInt8)
  | invalidCodecName
  | invalidClockRate (value maximum : Nat)
  | invalidChannels (value maximum : Nat)
  | invalidSyntax
  | invalidNumber

/-- Highest valid payload type. -/
def maxPayloadType : UInt8 := 127

/-- Maximum accepted encoding-name size. -/
def maxCodecNameBytes : Nat := 64

/-- Create a payload type. -/
def PayloadType.new (value : UInt8) : Except CodecError PayloadType :=
  if small : value ≤ maxPayloadType then .ok ⟨value, small⟩
  else .error (.payloadTypeOutOfRange value)

/-- Create a codec name. -/
def CodecName.new (value : String) : Except CodecError String :=
  if wireBytes value = [] ∨ maxCodecNameBytes < (wireBytes value).length ∨
      ¬(wireBytes value).all isToken then
    .error .invalidCodecName
  else .ok value

/-- A decimal number of 32 bits. -/
def parseDecimalU32 (input : Bytes) : Except CodecError Nat :=
  if input = [] ∨ ¬input.all isDigit then .error .invalidNumber
  else
    match decimalBelow u32Size 0 input with
    | none => .error .invalidNumber
    | some value => .ok value

/-- A decimal number of sixteen bits. -/
def parseDecimalU16 (input : Bytes) : Except CodecError UInt16 := do
  let value ← parseDecimalU32 input
  if 65535 < value then .error .invalidNumber
  else .ok value.toUInt16

/-- A decimal number of eight bits. -/
def parseDecimalU8 (input : Bytes) : Except CodecError UInt8 := do
  let value ← parseDecimalU32 input
  if 255 < value then .error .invalidNumber
  else .ok value.toUInt8

namespace Codec

/-- Create a mapping; its clock rate and channels are bounded. -/
def new
    (payloadType : PayloadType) (name : String) (clockRate : Nat)
    (channels : UInt16) : Except CodecError Codec :=
  if ticks : 0 < clockRate then
    if slow : clockRate ≤ maxCodecClockRate then
      if some_ : 0 < channels.toNat then
        if few : channels.toNat ≤ maxCodecChannels then
          .ok ⟨payloadType, name, clockRate, channels.toNat, ticks, slow, some_, few⟩
        else .error (.invalidChannels channels.toNat maxCodecChannels)
      else .error (.invalidChannels channels.toNat maxCodecChannels)
    else .error (.invalidClockRate clockRate maxCodecClockRate)
  else .error (.invalidClockRate clockRate maxCodecClockRate)

/-- The mapping of a payload number with the parts of its encoding. -/
def ofParts
    (payload : UInt8) (name rate : Bytes) (channels : Option Bytes) : Except CodecError Codec :=
  match fromUtf8 name with
  | none => .error .invalidCodecName
  | some name => do
    let rate ← parseDecimalU32 rate
    let channels ←
      match channels with
      | none => .ok 1
      | some channels => parseDecimalU16 channels
    let payload ← PayloadType.new payload
    let name ← CodecName.new name
    new payload name rate channels

/-- Parse an `rtpmap` value: a payload type and, after one space, a name, a clock
rate and perhaps channels, with slashes between them. -/
def fromBytes (input : Bytes) : Except CodecError Codec :=
  if input = [] ∨ input.any (fun byte => byte == 13 || byte == 10) then
    .error .invalidSyntax
  else
    match cut 32 input with
    | none => .error .invalidSyntax
    | some (payload, encoding) =>
      if encoding.head? = some 32 then .error .invalidSyntax
      else do
        let payload ← parseDecimalU8 payload
        if encoding.contains 32 || encoding.contains 9 then .error .invalidSyntax
        else
          match encoding.splitOn 47 with
          | [name, rate] => ofParts payload name rate none
          | [name, rate, channels] => ofParts payload name rate (some channels)
          | _ => .error .invalidSyntax

/-- The name, the clock rate and the channels of a static payload type. -/
def staticMapping : UInt8 → Option (String × Nat × UInt16)
  | 0 => some ("PCMU", 8000, 1)
  | 3 => some ("GSM", 8000, 1)
  | 8 => some ("PCMA", 8000, 1)
  | 9 => some ("G722", 8000, 1)
  | 13 => some ("CN", 8000, 1)
  | 18 => some ("G729", 8000, 1)
  | _ => none

/-- The standard mapping of a static payload type. -/
def fromStaticPayload (payloadType : PayloadType) : Option Codec :=
  match staticMapping payloadType.get with
  | none => none
  | some (name, rate, channels) =>
    match CodecName.new name with
    | .error _ => none
    | .ok name => (new payloadType name rate channels).toOption

/-- The mapping has this name, in whatever case. -/
def is (codec : Codec) (name : String) : Bool :=
  eqIgnoreCase (wireBytes codec.name) (wireBytes name)

/-- The mapping stands for telephone events. -/
def isTelephoneEvent (codec : Codec) : Bool := codec.is "telephone-event"

/-- The same codec, whatever the payload types and the case of the names. -/
def isCompatibleWith (codec other : Codec) : Bool :=
  codec.is other.name && codec.clockRate == other.clockRate && codec.channels == other.channels

/-- A mapping has the payload type that it was made for. -/
theorem payloadType_of_new
    {payloadType : PayloadType} {name : String} {clockRate : Nat}
    {channels : UInt16} {codec : Codec}
    (made : new payloadType name clockRate channels = .ok codec) :
    codec.payloadType = payloadType := by
  rw [new] at made
  split_ifs at made
  cases made
  rfl

theorem payloadType_of_fromStaticPayload
    {payloadType : PayloadType} {codec : Codec}
    (standard : fromStaticPayload payloadType = some codec) :
    codec.payloadType = payloadType := by
  rw [fromStaticPayload] at standard
  split at standard
  · cases standard
  · split at standard
    · cases standard
    · rename_i rate channels _ _ name _
      cases made : new payloadType name rate channels with
      | error failure => simp [made, Except.toOption] at standard
      | ok mapping =>
        simp only [made, Except.toOption, Option.some.injEq] at standard
        subst standard
        exact payloadType_of_new made

end Codec

namespace Direction

/-- Failure to parse a direction attribute. -/
structure ParseError where

/-- Parse an exact direction token. -/
def fromBytes (input : Bytes) : Except ParseError Direction :=
  if input = wireBytes "sendrecv" then .ok sendRecv
  else if input = wireBytes "sendonly" then .ok sendOnly
  else if input = wireBytes "recvonly" then .ok recvOnly
  else if input = wireBytes "inactive" then .ok inactive
  else .error {}

/-- The direction seen by the peer. -/
def reversed : Direction → Direction
  | sendRecv => sendRecv
  | sendOnly => recvOnly
  | recvOnly => sendOnly
  | inactive => inactive

/-- The answer that an offer and the local capabilities allow. -/
def answer (direction : Direction) (localCanSend localCanReceive : Bool) : Direction :=
  let send := direction.reversed.sends && localCanSend
  let receive := direction.reversed.receives && localCanReceive
  match send, receive with
  | true, true => sendRecv
  | true, false => sendOnly
  | false, true => recvOnly
  | false, false => inactive

/-- An answer sends what the offer receives, where the local side can send. -/
theorem sends_answer (direction : Direction) (localCanSend localCanReceive : Bool) :
    (direction.answer localCanSend localCanReceive).sends =
      (direction.receives && localCanSend) := by
  cases direction <;> cases localCanSend <;> cases localCanReceive <;> rfl

/-- An answer receives what the offer sends, where the local side can receive. -/
theorem receives_answer (direction : Direction) (localCanSend localCanReceive : Bool) :
    (direction.answer localCanSend localCanReceive).receives =
      (direction.sends && localCanReceive) := by
  cases direction <;> cases localCanSend <;> cases localCanReceive <;> rfl

end Direction

/-- The profile carries RTP. -/
def TransportProtocol.isRtp : TransportProtocol → Bool
  | .rtpAvp | .rtpSavp | .rtpAvpf | .rtpSavpf | .udpTlsRtpSavpf => true
  | .extension _ => false

/-- A decimal number of eight bits. -/
def parseU8 (input : Bytes) : Except MediaError UInt8 := do
  let value ← parseU32 input
  if 255 < value then .error .invalidPayloadType
  else .ok value.toUInt8

/-- The payload type of a format of an RTP profile. -/
def MediaFormat.payloadType (format : MediaFormat) : Except MediaError PayloadType := do
  let value ← parseU8 (wireBytes format.value)
  match PayloadType.new value with
  | .error _ => .error .invalidPayloadType
  | .ok payload => .ok payload

/-- The bytes of a part of a text. -/
def textBytes (text : List Char) : Bytes := wireBytes (String.ofList text)

/-- What follows a text in a value that starts with it. -/
def stripPrefix (front value : String) : Option (List Char) := value.toList.dropPrefix? front.toList

/-- A white-space character. -/
def isWhitespace (character : Char) : Bool := (9 ≤ character.toNat && character.toNat ≤ 13) ||
    (8192 ≤ character.toNat && character.toNat ≤ 8202) ||
    [32, 133, 160, 5760, 8232, 8233, 8239, 8287, 12288].contains character.toNat

/-- A text without white space at its ends. -/
def trim (text : List Char) : List Char :=
  (((text.dropWhile isWhitespace).reverse).dropWhile isWhitespace).reverse

/-- What stands before and after the first space or tab. -/
def splitBlank : List Char → Option (List Char × List Char)
  | [] => none
  | character :: text =>
    if character = ' ' ∨ character = '\t' then some ([], text)
    else (splitBlank text).map fun parts => (character :: parts.1, parts.2)

/-- A byte in decimal, with or without a plus sign. -/
def readU8 (text : List Char) : Option UInt8 :=
  let input := textBytes text
  let digits := if input.head? = some 43 then input.tail else input
  if digits = [] ∨ ¬digits.all isDigit then none
  else (decimalBelow 256 0 digits).map Nat.toUInt8

/-- RTP media negotiation failure. -/
inductive NegotiationError
  | notRtp
  | media (error : MediaError)
  | codec (error : CodecError)
  | duplicatePayload (payload : PayloadType)
  | mappingForUnofferedPayload (payload : PayloadType)
  | duplicateMapping (payload : PayloadType)
  | missingPayloadMapping (payload : PayloadType)
  | duplicateDirection
  | duplicatePacketTime
  | duplicateMaximumPacketTime
  | invalidPacketTime
  | packetTimeExceedsMaximum
  | duplicateTelephoneEventFormat
  | invalidTelephoneEventFormat
  | rejectedMedia
  | secureTransportRequired
  | noLocalCodecs
  | noCompatibleCodec
  | allocationFailed

/-- The payload types of the formats, none of them twice. -/
def offeredPayloads (found : List PayloadType) :
    List MediaFormat → Except NegotiationError (List PayloadType)
  | [] => .ok found
  | format :: formats =>
    match format.payloadType with
    | .error error => .error (.media error)
    | .ok payload =>
      if payload ∈ found then .error (.duplicatePayload payload)
      else offeredPayloads (found ++ [payload]) formats

/-- A packet duration in milliseconds. -/
def parsePacketTime (value : List Char) : Except NegotiationError UInt16 :=
  let input := textBytes value
  if input = [] ∨ 4 < input.length ∨ ¬input.all isDigit then .error .invalidPacketTime
  else
    match decimalBelow 65536 0 input with
    | none => .error .invalidPacketTime
    | some parsed =>
      if parsed = 0 ∨ 1000 < parsed then .error .invalidPacketTime
      else .ok parsed.toUInt16

/-- What the attributes of a section tell. -/
structure RtpAttributes where
  direction : Option Direction
  packetTimeMs : Option UInt16
  maximumPacketTimeMs : Option UInt16
  mappings : List Codec

namespace RtpAttributes

/-- Nothing was told yet. -/
def empty : RtpAttributes := ⟨none, none, none, []⟩

/-- Take in the direction of a section. -/
def takeDirection
    (found : RtpAttributes) (direction : Direction) : Except NegotiationError RtpAttributes :=
  if found.direction.isSome then .error .duplicateDirection
  else .ok { found with direction := some direction }

/-- Take in a packet duration. -/
def takePacketTime
    (found : RtpAttributes) (value : List Char) : Except NegotiationError RtpAttributes := do
  let time ← parsePacketTime value
  if found.packetTimeMs.isSome then .error .duplicatePacketTime
  else .ok { found with packetTimeMs := some time }

/-- Take in a maximum packet duration. -/
def takeMaximumPacketTime
    (found : RtpAttributes) (value : List Char) : Except NegotiationError RtpAttributes := do
  let time ← parsePacketTime value
  if found.maximumPacketTimeMs.isSome then .error .duplicateMaximumPacketTime
  else .ok { found with maximumPacketTimeMs := some time }

/-- Take in the mapping of an offered payload type that has none yet. -/
def takeMapping
    (offered : List PayloadType) (found : RtpAttributes)
    (value : List Char) : Except NegotiationError RtpAttributes :=
  match Codec.fromBytes (textBytes value) with
  | .error error => .error (.codec error)
  | .ok mapping =>
    if mapping.payloadType ∉ offered then
      .error (.mappingForUnofferedPayload mapping.payloadType)
    else if found.mappings.any (fun known => known.payloadType == mapping.payloadType) then
      .error (.duplicateMapping mapping.payloadType)
    else .ok { found with mappings := found.mappings ++ [mapping] }

/-- Take in one line of a section. -/
def take
    (offered : List PayloadType) (found : RtpAttributes)
    (line : SdpLine) : Except NegotiationError RtpAttributes :=
  if line.field ≠ .attribute_ then .ok found
  else
    match Direction.fromBytes (wireBytes line.value) with
    | .ok direction => found.takeDirection direction
    | .error _ =>
      match stripPrefix "ptime:" line.value with
      | some value => found.takePacketTime value
      | none =>
        match stripPrefix "maxptime:" line.value with
        | some value => found.takeMaximumPacketTime value
        | none =>
          match stripPrefix "rtpmap:" line.value with
          | some value => found.takeMapping offered value
          | none => .ok found

/-- Take in the lines of a section, one after another. -/
def takeAll (offered : List PayloadType) :
    RtpAttributes → List SdpLine → Except NegotiationError RtpAttributes
  | found, [] => .ok found
  | found, line :: lines => do
    let found ← found.take offered line
    takeAll offered found lines

end RtpAttributes

/-- The mapping of a payload type: of an attribute, or else the static one. -/
def resolve (mappings : List Codec) (payload : PayloadType) : Option Codec :=
  match mappings.find? (fun mapping => mapping.payloadType == payload) with
  | some mapping => some mapping
  | none => Codec.fromStaticPayload payload

/-- The mappings of the payload types, in their order. -/
def resolveAll (mappings : List Codec) : List PayloadType → Except NegotiationError (List Codec)
  | [] => .ok []
  | payload :: payloads =>
    match resolve mappings payload with
    | none => .error (.missingPayloadMapping payload)
    | some codec => do
      let codecs ← resolveAll mappings payloads
      return codec :: codecs

/-- The events of the digits, the star, the hash and the letters A to D. -/
def standardTelephoneEvents : BitVec 256 := 0xffff

/-- The ends of an item, a single event or a range of events. -/
def rangeEnds (item : List Char) : Option (UInt8 × UInt8) :=
  match cut '-' item with
  | some (first, last) => do
    let first ← readU8 first
    let last ← readU8 last
    return (first, last)
  | none => do
    let value ← readU8 item
    return (value, value)

/-- The ends of an item, in ascending order. -/
def eventRange (item : List Char) : Option (UInt8 × UInt8) :=
  match rangeEnds item with
  | none => none
  | some (first, last) => if last < first then none else some (first, last)

/-- The events with those of a range. -/
def allowRange (allowed : BitVec 256) (first last : UInt8) : BitVec 256 :=
  (List.range' first.toNat (last.toNat + 1 - first.toNat)).foldl
    (fun allowed event => allowed ||| BitVec.twoPow 256 event) allowed

/-- The events with those of all items. -/
def allowItems (allowed : BitVec 256) : List (List Char) → Except NegotiationError (BitVec 256)
  | [] => .ok allowed
  | item :: items =>
    match eventRange item with
    | none => .error .invalidTelephoneEventFormat
    | some (first, last) => allowItems (allowRange allowed first last) items

/-- Parse a list of events and ranges, with commas between them. -/
def parseTelephoneEvents (input : List Char) : Except NegotiationError (BitVec 256) :=
  if input = [] then .error .invalidTelephoneEventFormat
  else allowItems 0 (input.splitOn ',')

/-- The parameters that a line declares for a payload type. -/
def formatParameters (payload : PayloadType) (line : SdpLine) : Option (List Char) :=
  if line.field ≠ .attribute_ then none
  else
    match stripPrefix "fmtp:" line.value with
    | none => none
    | some value =>
      match splitBlank value with
      | none => none
      | some (number, parameters) =>
        if readU8 number = some payload.get then some (trim parameters) else none

/-- The events that the lines declare for a payload type, once at most. -/
def declaredEvents (payload : PayloadType) (found : Option (BitVec 256)) :
    List SdpLine → Except NegotiationError (Option (BitVec 256))
  | [] => .ok found
  | line :: lines =>
    match formatParameters payload line with
    | none => declaredEvents payload found lines
    | some parameters =>
      if found.isSome then .error .duplicateTelephoneEventFormat
      else do
        let allowed ← parseTelephoneEvents parameters
        declaredEvents payload (some allowed) lines

/-- The first telephone-event mapping, with the events that it allows. -/
def findTelephoneEvent
    (section_ : MediaSection)
    (codecs : List Codec) : Except NegotiationError (Option NegotiatedTelephoneEvent) :=
  match codecs.find? Codec.isTelephoneEvent with
  | none => .ok none
  | some codec => do
    let declared ← declaredEvents codec.payloadType none section_.lines
    return some
      { payloadType := codec.payloadType
        clockRate := codec.clockRate
        allowedEvents := declared.getD standardTelephoneEvents }

namespace NegotiatedTelephoneEvent

/-- The event was offered. -/
def allows (event : NegotiatedTelephoneEvent) (code : UInt8) : Bool :=
  event.allowedEvents.getLsbD code.toNat

end NegotiatedTelephoneEvent

/-- A validated RTP media offer. -/
structure RtpMediaOffer where
  mediaType : MediaType
  protocol : TransportProtocol
  port : UInt16
  codecs : List Codec
  direction : Direction
  packetization : Packetization
  telephoneEvent : Option NegotiatedTelephoneEvent

namespace RtpMediaOffer

/-- Extract the offer of a media section. -/
def fromSection
    (grants : Nat → Bool) (section_ : MediaSection)
    (inheritedDirection : Direction) : Except NegotiationError RtpMediaOffer := do
  let media := section_.media
  Outcome.ensure (media.protocol.isRtp = true) .notRtp
  Outcome.ensure (grants media.formats.length = true) .allocationFailed
  let payloads ← offeredPayloads [] media.formats
  let found ← RtpAttributes.empty.takeAll payloads section_.lines
  Outcome.ensure (grants payloads.length = true) .allocationFailed
  let codecs ← resolveAll found.mappings payloads
  let packetTimeMs := found.packetTimeMs.getD 20
  Outcome.ensure (found.maximumPacketTimeMs.all (packetTimeMs ≤ ·) = true) .packetTimeExceedsMaximum
  let telephoneEvent ← findTelephoneEvent section_ codecs
  return {
    mediaType := media.media
    protocol := media.protocol
    port := media.port
    codecs
    direction := found.direction.getD inheritedDirection
    packetization := ⟨packetTimeMs, found.maximumPacketTimeMs⟩
    telephoneEvent }

/-- The offered mapping for the first local codec that has one. -/
def select (codecs localPreference : List Codec) : Option Codec :=
  localPreference.findSome? fun local_ =>
    if local_.isTelephoneEvent then none
    else codecs.find? fun offered =>
      !offered.isTelephoneEvent && offered.isCompatibleWith local_

/-- Select a codec in the order of the local ones. -/
def negotiate
    (offer : RtpMediaOffer) (localPreference : List Codec)
    (localCanSend localCanReceive requireSecure : Bool) :
    Except NegotiationError NegotiatedMedia :=
  if offer.port = 0 then .error .rejectedMedia
  else if requireSecure && !offer.protocol.isSecure then .error .secureTransportRequired
  else if localPreference = [] then .error .noLocalCodecs
  else
    match select offer.codecs localPreference with
    | none => .error .noCompatibleCodec
    | some offered =>
      .ok
        { codec := offered
          direction := offer.direction.answer localCanSend localCanReceive
          protocol := offer.protocol
          remotePort := offer.port
          packetization := offer.packetization
          telephoneEvent :=
            offer.telephoneEvent.filter fun event => event.clockRate == offered.clockRate }

end RtpMediaOffer

end Sdp
end Sip
end LiveAISIP
