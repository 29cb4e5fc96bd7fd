import LiveAISIP.Library.Ascii
import LiveAISIP.Sip.Types

/-!
# Header names

The registry of `sip/types/header.rs`: the standard headers, their canonical
long names and their compact names.
-/

namespace LiveAISIP
namespace Sip

open Ascii

/-- Longest accepted header name. -/
def maxHeaderNameBytes : Nat := 256

/-- A standard SIP header. -/
inductive HeaderKind
  | via
  | «from»
  | to
  | callId
  | cSeq
  | contact
  | maxForwards
  | contentLength
  | contentType
  | contentEncoding
  | subject
  | route
  | recordRoute
  | supported
  | require
  | unsupported
  | allow
  | reason
  | retryAfter
  | userAgent
  | server
  | pAssertedIdentity
  | sessionExpires
  | minSe
  | rSeq
  | authorization
  | wwwAuthenticate
  | proxyAuthorization
  | proxyAuthenticate
  | authenticationInfo
  deriving DecidableEq

namespace HeaderKind

/-- The header with a compact name, given in lower case. -/
def compact (name : UInt8) : Option HeaderKind :=
  if name = 118 then some .via
  else if name = 102 then some .from
  else if name = 116 then some .to
  else if name = 105 then some .callId
  else if name = 109 then some .contact
  else if name = 108 then some .contentLength
  else if name = 99 then some .contentType
  else if name = 101 then some .contentEncoding
  else if name = 115 then some .subject
  else if name = 107 then some .supported
  else none

/-- The long names, in the order in which they are compared. -/
def longNames : List (String × HeaderKind) :=
  [("To", .to), ("Via", .via), ("From", .from), ("CSeq", .cSeq), ("RSeq", .rSeq),
    ("Route", .route), ("Allow", .allow), ("Reason", .reason),
    ("Server", .server), ("Min-SE", .minSe), ("Call-ID", .callId),
    ("Contact", .contact), ("Subject", .subject), ("Require", .require),
    ("Supported", .supported), ("User-Agent", .userAgent),
    ("Unsupported", .unsupported), ("Retry-After", .retryAfter),
    ("Max-Forwards", .maxForwards), ("Content-Type", .contentType),
    ("Record-Route", .recordRoute), ("Authorization", .authorization),
    ("Content-Length", .contentLength), ("Session-Expires", .sessionExpires),
    ("Content-Encoding", .contentEncoding), ("WWW-Authenticate", .wwwAuthenticate),
    ("Proxy-Authenticate", .proxyAuthenticate), ("P-Asserted-Identity", .pAssertedIdentity),
    ("Proxy-Authorization", .proxyAuthorization), ("Authentication-Info", .authenticationInfo)]

/-- Classify the bytes of a header name: one letter is a compact name, and
longer names are compared without regard to case. -/
def fromNameBytes (input : Bytes) : Option HeaderKind :=
  match input with
  | [byte] => compact (toLower byte)
  | _ =>
    (longNames.find? fun entry => eqIgnoreCase input (wireBytes entry.1)).map Prod.snd

theorem compact_eq_contentLength (name : UInt8) :
    compact name = some .contentLength ↔ name = 108 := by
  revert name
  exact forall_byte (by decide +kernel)

/-- Only one long name is that of the body length. -/
theorem find_longNames_eq_contentLength (input : Bytes) :
    (longNames.find? fun entry => eqIgnoreCase input (wireBytes entry.1)).map
        Prod.snd = some .contentLength ↔
      eqIgnoreCase input (wireBytes "Content-Length") = true := by
  constructor
  · intro found
    obtain ⟨entry, first, kind⟩ := Option.map_eq_some_iff.mp found
    have named : ∀ entry ∈ longNames, entry.2 = .contentLength → entry.1 = "Content-Length" := by
      decide
    have matched := List.find?_some first
    rw [named entry (List.mem_of_find?_eq_some first) kind] at matched
    exact matched
  · intro equal
    have lowered : input.map toLower = (wireBytes "Content-Length").map toLower := eq_of_beq equal
    have closed : (longNames.find? fun entry =>
        eqIgnoreCase (wireBytes "Content-Length") (wireBytes entry.1)).map
          Prod.snd = some .contentLength := by
      decide +kernel
    simpa only [eqIgnoreCase, lowered] using closed

/-- A header announces the length of the body exactly under its long name or
its compact name. -/
theorem fromNameBytes_eq_contentLength (input : Bytes) : fromNameBytes input = some .contentLength ↔
      (eqIgnoreCase input (wireBytes "Content-Length") ||
        eqIgnoreCase input (wireBytes "l")) = true := by
  have letter : wireBytes "l" = [108] := by decide +kernel
  have long : (wireBytes "Content-Length").length = 14 := by decide +kernel
  have otherLength (input name : Bytes) (different : input.length ≠ name.length) :
      eqIgnoreCase input name = false := by
    by_contra equal
    exact different (length_eq_of_eqIgnoreCase (by simpa using equal))
  rcases input with _ | ⟨byte, _ | ⟨second, input⟩⟩
  · rw [otherLength _ (wireBytes "l") (by simp [letter]), Bool.or_false]
    exact find_longNames_eq_contentLength []
  · rw [otherLength _ _ (by simp [long]), Bool.false_or, letter, fromNameBytes,
      compact_eq_contentLength]
    have lowered : toLower 108 = 108 := by decide
    simp [eqIgnoreCase, lowered]
  · rw [otherLength _ (wireBytes "l") (by simp [letter]), Bool.or_false]
    exact find_longNames_eq_contentLength (byte :: second :: input)

end HeaderKind

end Sip
end LiveAISIP
