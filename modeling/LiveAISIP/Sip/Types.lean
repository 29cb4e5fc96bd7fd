import Mathlib.Data.List.Basic

/-!
# SIP vocabulary

The values of `sip/types` and the validated message envelopes of
`sip/validation`, restricted to what the transaction and call layers read.
A value that the source only hands out after a check carries that check as a
field.
-/

namespace LiveAISIP
namespace Sip

/-- Wire bytes. -/
abbrev Bytes := List UInt8

/-- The UTF-8 bytes of a text. -/
def wireBytes (text : String) : Bytes := text.toUTF8.toList

/-- A SIP request method. -/
inductive Method
  | invite
  | ack
  | bye
  | cancel
  | register
  | options
  | prack
  | update
  | info
  | message
  | refer
  | subscribe
  | notify
  | publish
  | extension (token : String)
  deriving DecidableEq

/-- A response status code of one of the six SIP response classes. -/
structure StatusCode where
  asU16 : Nat
  lower : 100 ≤ asU16
  upper : asU16 ≤ 699
  deriving DecidableEq

namespace StatusCode

variable {status : StatusCode}

/-- `100 Trying`. -/
def trying : StatusCode := ⟨100, by decide, by decide⟩

/-- `180 Ringing`. -/
def ringing : StatusCode := ⟨180, by decide, by decide⟩

/-- `200 OK`. -/
def ok : StatusCode := ⟨200, by decide, by decide⟩

/-- `486 Busy Here`. -/
def busyHere : StatusCode := ⟨486, by decide, by decide⟩

/-- `500 Server Internal Error`. -/
def serverInternalError : StatusCode := ⟨500, by decide, by decide⟩

/-- A `1xx` response. -/
def Provisional (status : StatusCode) : Prop := status.asU16 < 200

/-- A `2xx` response. -/
def Success (status : StatusCode) : Prop := 200 ≤ status.asU16 ∧ status.asU16 < 300

/-- A `3xx` to `6xx` response. -/
def Failure (status : StatusCode) : Prop := 300 ≤ status.asU16

/-- A `2xx` to `6xx` response. -/
def Final (status : StatusCode) : Prop := 200 ≤ status.asU16

instance (status : StatusCode) : Decidable status.Provisional := inferInstanceAs (Decidable (_ < _))

instance (status : StatusCode) : Decidable status.Success := inferInstanceAs (Decidable (_ ∧ _))

instance (status : StatusCode) : Decidable status.Failure := inferInstanceAs (Decidable (_ ≤ _))

instance (status : StatusCode) : Decidable status.Final := inferInstanceAs (Decidable (_ ≤ _))

/-- Every status is provisional, a success, or a failure. -/
theorem classes (status : StatusCode) :
    status.Provisional ∨ status.Success ∨ status.Failure := by
  unfold Provisional Success Failure
  omega

theorem Provisional.not_failure (provisional : status.Provisional) :
    ¬status.Failure := by
  unfold Provisional Failure at *
  omega

theorem Provisional.not_final (provisional : status.Provisional) :
    ¬status.Final := by
  unfold Provisional Final at *
  omega

theorem Success.not_failure (success : status.Success) :
    ¬status.Failure := by
  unfold Success Failure at *
  omega

theorem Success.final (success : status.Success) : status.Final := success.1

theorem Failure.not_success (failure : status.Failure) :
    ¬status.Success := by
  unfold Success Failure at *
  omega

theorem Failure.final (failure : status.Failure) :
    status.Final := by
  unfold Failure Final at *
  omega

theorem final_of_not_provisional (other : ¬status.Provisional) :
    status.Final := by
  unfold Provisional Final at *
  omega

/-- A final status is a success or a failure. -/
theorem Final.success_or_failure (final : status.Final) :
    status.Success ∨ status.Failure := by
  unfold Final Success Failure at *
  omega

end StatusCode

/-- Host component of a SIP URI or a Via entry. -/
inductive Host
  | domain (name : String)
  | ipv4 (address : BitVec 32)
  | ipv6 (address : BitVec 128)
  deriving DecidableEq

/-- SIP URI scheme. -/
inductive SipScheme
  | sip
  | sips
  deriving DecidableEq

/-- One URI parameter. -/
structure UriParameter where
  name : String
  value : Option String
  deriving DecidableEq

/-- One URI header. -/
structure UriHeader where
  name : String
  value : String
  deriving DecidableEq

/-- A structured SIP or SIPS URI. -/
structure SipUri where
  scheme : SipScheme
  user : Option String
  password : Option String
  host : Host
  port : Option UInt16
  parameters : List UriParameter
  headers : List UriHeader
  deriving DecidableEq

/-- A non-SIP absolute URI. -/
structure AbsoluteUri where
  scheme : String
  value : String
  deriving DecidableEq

/-- A URI accepted by SIP message syntax. -/
inductive Uri
  | sip (uri : SipUri)
  | absolute (uri : AbsoluteUri)
  deriving DecidableEq

/-- A SIP address: a bracketed URI with an optional display name, or a bare
URI. -/
inductive Address
  | nameAddr (displayName : Option String) (uri : Uri)
  | addrSpec (uri : Uri)
  deriving DecidableEq

/-- A byte of the SIP token grammar. -/
def isTokenByte (byte : UInt8) : Bool := (48 ≤ byte && byte ≤ 57) || (65 ≤ byte && byte ≤ 90) ||
    (97 ≤ byte && byte ≤ 122) ||
    byte == 45 || byte == 46 || byte == 33 || byte == 37 || byte == 42 ||
    byte == 95 || byte == 43 || byte == 96 || byte == 39 || byte == 126

/-- Longest accepted `To` tag. -/
def maxToTagBytes : Nat := 256

/-- A character whose UTF-8 form is one token byte. -/
def isTokenChar (char : Char) : Bool := char.toNat < 128 && isTokenByte char.toNat.toUInt8

/-- A `To` tag as `validate_tag` accepts it: a nonempty token of bounded
size. -/
structure Tag where
  text : String
  nonempty : text ≠ ""
  bounded : text.utf8ByteSize ≤ maxToTagBytes
  token : text.toList.all isTokenChar = true
  deriving DecidableEq

/-- One generic `To` parameter. -/
structure ToParameter where
  name : String
  value : Option String
  quoted : Bool
  deriving DecidableEq

/-- A `To` field value. -/
structure ToHeader where
  address : Address
  tag : Option Tag
  parameters : List ToParameter
  deriving DecidableEq

/-- One generic `From` parameter. -/
structure FromParameter where
  name : String
  value : Option String
  quoted : Bool

/-- A `From` field value. -/
structure FromHeader where
  address : Address
  tag : Option Tag
  parameters : List FromParameter

/-- A `CSeq` field value. -/
structure CSeq where
  sequence : UInt32
  method : Method

/-- What transaction matching reads of one Via hop. -/
structure ViaEntry where
  sentByHost : Host
  sentByPort : Option UInt16
  branch : Option String

/-- RFC 3261 branch magic cookie. -/
def rfc3261BranchMagicCookie : String := "z9hG4bK"

/-- The branch begins with the RFC 3261 magic cookie. -/
def ViaEntry.hasRfc3261BranchCookie (via : ViaEntry) : Bool :=
  match via.branch with
  | some branch => rfc3261BranchMagicCookie.toList.isPrefixOf branch.toList
  | none => false

/-- A validated request: validation compares the request-line method with the
`CSeq` method. -/
structure ValidatedRequest where
  method : Method
  topmostVia : ViaEntry
  cseq : CSeq
  bytes : Bytes
  cseq_method : cseq.method = method

/-- A validated response. -/
structure ValidatedResponse where
  status : StatusCode
  topmostVia : ViaEntry
  toHeader : ToHeader
  cseq : CSeq
  body : Bytes

/-- The header fields of the sample requests. -/
def sampleFields (toParameters cseq : String) : String :=
  "Via: SIP/2.0/UDP host;branch=z9hG4bK-one\r\n" ++
  "From: <sip:a@example.com>;tag=a\r\n" ++
  "To: <sip:x@example.com>" ++ toParameters ++ "\r\n" ++
  "Call-ID: one@example.com\r\n" ++
  "CSeq: " ++ cseq ++ "\r\n" ++
  "Max-Forwards: 70\r\n" ++
  "Content-Length: 0\r\n\r\n"

/-- A BYE request of one dialog. -/
def byeRequest : ValidatedRequest where
  method := .bye
  topmostVia := ⟨.domain "host", none, some "z9hG4bK-one"⟩
  cseq := ⟨2, .bye⟩
  bytes := wireBytes ("BYE sip:x@example.com SIP/2.0\r\n" ++ sampleFields ";tag=b" "2 BYE")
  cseq_method := rfl

/-- An INVITE request. -/
def inviteRequest : ValidatedRequest where
  method := .invite
  topmostVia := ⟨.domain "host", none, some "z9hG4bK-one"⟩
  cseq := ⟨1, .invite⟩
  bytes := wireBytes ("INVITE sip:x@example.com SIP/2.0\r\n" ++ sampleFields "" "1 INVITE")
  cseq_method := rfl

/-- The ACK of that INVITE for a non-2xx response with the given `To` tag. -/
def inviteAck (tag : Option Tag) : Bytes :=
  let toParameters :=
    match tag with
    | some tag => ";tag=" ++ tag.text
    | none => ""
  wireBytes ("ACK sip:x@example.com SIP/2.0\r\n" ++ sampleFields toParameters "1 ACK")

/-- The `To` tag of one branch of a forked INVITE. -/
def tagA : Tag := ⟨"a", by decide, by decide, by decide⟩

/-- The `To` tag of another branch. -/
def tagB : Tag := ⟨"b", by decide, by decide, by decide⟩

/-- A response to `request` with the given status and `To` tag. -/
def responseTo
    (request : ValidatedRequest) (status : StatusCode) (tag : Option Tag) : ValidatedResponse where
  status := status
  topmostVia := request.topmostVia
  toHeader :=
    { address := .nameAddr none (.sip
        { scheme := .sip
          user := some "x"
          password := none
          host := .domain "example.com"
          port := none
          parameters := []
          headers := [] })
      tag := tag
      parameters := [] }
  cseq := request.cseq
  body := []

end Sip
end LiveAISIP
