import LiveAISIP.Sip.Types

/-!
# Transaction keys

The matching keys of `sip/transaction/key.rs`: the topmost Via branch, its
sent-by host and port, and the `CSeq` method.
-/

namespace LiveAISIP
namespace Transaction

open Sip

/-- Transaction lookup key. -/
structure TransactionKey where
  branch : String
  sentByHost : Host
  sentByPort : Option UInt16
  method : Method
  deriving DecidableEq

/-- Failure to construct a modern transaction key. -/
inductive KeyError
  | missingBranch
  | legacyBranch
  deriving DecidableEq

namespace TransactionKey

/-- The key of a Via hop and a method. -/
def fromParts (via : ViaEntry) (method : Method) : Except KeyError TransactionKey :=
  match via.branch with
  | none => .error .missingBranch
  | some branch =>
    if via.hasRfc3261BranchCookie then .ok ⟨branch, via.sentByHost, via.sentByPort, method⟩
    else .error .legacyBranch

/-- The key that registers an outbound client transaction. -/
def forClientRequest (request : ValidatedRequest) : Except KeyError TransactionKey :=
  fromParts request.topmostVia request.cseq.method

/-- The key that matches a response to a client transaction. -/
def forClientResponse (response : ValidatedResponse) : Except KeyError TransactionKey :=
  fromParts response.topmostVia response.cseq.method

/-- An ACK is matched as an INVITE. -/
def normalizeAck : Method → Method
  | .ack => .invite
  | method => method

/-- The key that matches an inbound request to server state. -/
def forServerRequest (request : ValidatedRequest) : Except KeyError TransactionKey :=
  fromParts request.topmostVia (normalizeAck request.cseq.method)

/-- The key represents an INVITE transaction. -/
def isInvite (key : TransactionKey) : Bool :=
  match key.method with
  | .invite => true
  | _ => false

/-- A key keeps the method it was built for. -/
theorem method_of_fromParts
    {via : ViaEntry} {method : Method} {key : TransactionKey}
    (built : fromParts via method = .ok key) :
    key.method = method := by
  unfold fromParts at built
  cases branch : via.branch with
  | none => simp [branch] at built
  | some text =>
    by_cases cookie : via.hasRfc3261BranchCookie = true
    · simp only [branch, cookie, ↓reduceIte, Except.ok.injEq] at built
      rw [← built]
    · simp [branch, cookie] at built

end TransactionKey

end Transaction
end LiveAISIP
