import LiveAISIP.Library.Outcome
import LiveAISIP.Sip.UriText

/-!
# Digest authentication

The challenges, the Digest calculation and the scope-isolated authentication
state of `sip/auth`.  The hash functions are an argument of the calculation.
-/

namespace LiveAISIP
namespace Sip

open Ascii Outcome

/-- Equality of texts without regard to the case of ASCII letters. -/
def eqIgnoreAsciiCase (first second : String) : Bool :=
  eqIgnoreCase (wireBytes first) (wireBytes second)

/-- One ordered authentication parameter. -/
structure AuthParameter where
  name : String
  value : String
  quoted : Bool
  deriving DecidableEq

/-- One authentication challenge. -/
structure AuthChallenge where
  scheme : String
  parameters : List AuthParameter
  deriving DecidableEq

namespace AuthChallenge

/-- The value of the first parameter with a name. -/
def parameter (challenge : AuthChallenge) (name : String) : Option String :=
  (challenge.parameters.find? fun parameter =>
    eqIgnoreAsciiCase parameter.name name).map AuthParameter.value

/-- The value of a parameter reads `true`. -/
def isTrue (challenge : AuthChallenge) (name : String) : Bool :=
  (challenge.parameter name).any fun value => eqIgnoreAsciiCase value "true"

/-- The challenge says that only its nonce was too old. -/
def isStale (challenge : AuthChallenge) : Bool := challenge.isTrue "stale"

/-- How strong the algorithm of a challenge is; zero where it is unknown. -/
def score (challenge : AuthChallenge) : Nat :=
  match challenge.parameter "algorithm" with
  | none => 1
  | some value =>
    if eqIgnoreAsciiCase value "SHA-256-sess" then 4
    else if eqIgnoreAsciiCase value "SHA-256" then 3
    else if eqIgnoreAsciiCase value "MD5-sess" then 2
    else if eqIgnoreAsciiCase value "MD5" then 1
    else 0

end AuthChallenge

/-- Maximum request-target or client-nonce size. -/
def maxDigestComponentBytes : Nat := 8192

/-- Digest hashing algorithm. -/
inductive DigestAlgorithm
  | sha256
  | sha256Sess
  | md5
  | md5Sess
  deriving DecidableEq

/-- The algorithm binds its first hash to the session. -/
def DigestAlgorithm.isSession : DigestAlgorithm → Bool
  | .sha256Sess | .md5Sess => true
  | .sha256 | .md5 => false

/-- Digest quality of protection. -/
inductive QualityOfProtection
  | auth
  | authInt
  deriving DecidableEq

/-- The wire token of a quality of protection. -/
def QualityOfProtection.asStr : QualityOfProtection → String
  | .auth => "auth"
  | .authInt => "auth-int"

/-- Client credentials. -/
structure DigestCredentials where
  username : String
  password : String
  deriving DecidableEq

/-- The inputs that belong to the authenticated request. -/
structure DigestRequest where
  method : Method
  uri : Bytes
  entityBody : Bytes
  nonceCount : Nat
  clientNonce : String

/-- A computed Digest authorization. -/
structure DigestAuthorization where
  username : String
  realm : String
  nonce : String
  uri : Bytes
  response : Bytes
  algorithm : DigestAlgorithm
  opaqueValue : Option String
  qop : Option QualityOfProtection
  nonceCount : Option Nat
  clientNonce : Option String
  deriving DecidableEq

/-- Digest calculation failure. -/
inductive DigestError
  | unsupportedScheme
  | missingRealm
  | missingNonce
  | unsupportedAlgorithm
  | unsupportedQop
  | invalidUri
  | missingClientNonce
  | zeroNonceCount
  | unsupportedUserHash
  deriving DecidableEq

/-- The UTF-8 text holds a control character; those beyond ASCII are the byte
`0xC2` and a byte below `0xA0`. -/
def hasControl (text : Bytes) : Bool := text.any Ascii.isControl ||
    (text.zip text.tail).any fun pair => pair.1 == 0xC2 && pair.2 < 0xA0

/-- A request component is a nonempty text of bounded size without control
characters. -/
def validateComponent (text : Bytes) (error : DigestError) : Except DigestError Unit :=
  ensure (text ≠ [] ∧ text.length ≤ maxDigestComponentBytes ∧ ¬hasControl text) error

/-- A whitespace character, as the trimming of texts takes it. -/
def isWhitespaceChar (char : Char) : Bool :=
  (9 ≤ char.toNat && char.toNat ≤ 13) || char.toNat == 32 ||
    char.toNat == 0x85 || char.toNat == 0xA0 || char.toNat == 0x1680 ||
    (0x2000 ≤ char.toNat && char.toNat ≤ 0x200A) || char.toNat == 0x2028 ||
    char.toNat == 0x2029 || char.toNat == 0x202F || char.toNat == 0x205F ||
    char.toNat == 0x3000

/-- The items of a comma-separated list, without the space around them. -/
def commaItems (text : String) : List String := (text.toList.splitOn ',').map fun item =>
    String.ofList (((item.dropWhile isWhitespaceChar).reverse.dropWhile isWhitespaceChar).reverse)

/-- The algorithm that a challenge names; MD5 where it names none. -/
def parseAlgorithm (value : Option String) : Except DigestError DigestAlgorithm :=
  let value := value.getD "MD5"
  if eqIgnoreAsciiCase value "SHA-256" then .ok .sha256
  else if eqIgnoreAsciiCase value "SHA-256-sess" then .ok .sha256Sess
  else if eqIgnoreAsciiCase value "MD5" then .ok .md5
  else if eqIgnoreAsciiCase value "MD5-sess" then .ok .md5Sess
  else .error .unsupportedAlgorithm

/-- The quality of protection chosen from an offered set. -/
def parseQop (value : Option String) : Except DigestError (Option QualityOfProtection) :=
  match value with
  | none => .ok none
  | some value =>
    if (commaItems value).any (eqIgnoreAsciiCase · "auth") then .ok (some .auth)
    else if (commaItems value).any (eqIgnoreAsciiCase · "auth-int") then .ok (some .authInt)
    else .error .unsupportedQop

/-- Eight lower-case hexadecimal digits of a nonce count. -/
def nonceCountText (count : Nat) : Bytes :=
  let text := hexDigits count
  List.replicate (8 - text.length) 48 ++ text

/-- The method token on the wire. -/
def Method.bytes (method : Method) : Bytes := wireBytes method.asStr

namespace DigestAuthorization

/-- The response value of a challenge that passed all checks. -/
def responseValue
    (hash : DigestAlgorithm → Bytes → Bytes) (credentials : DigestCredentials)
    (request : DigestRequest) (algorithm : DigestAlgorithm)
    (qop : Option QualityOfProtection) (realm nonce : String) : Bytes :=
  let hashJoin (parts : List Bytes) := hash algorithm (joinBytes 58 parts)
  let ha1 := hashJoin
    [wireBytes credentials.username, wireBytes realm, wireBytes credentials.password]
  let ha1 := if algorithm.isSession then
      hashJoin [ha1, wireBytes nonce, wireBytes request.clientNonce]
    else ha1
  let ha2 := match qop with
    | some .authInt => hashJoin
        [request.method.bytes, request.uri, hash algorithm request.entityBody]
    | _ => hashJoin [request.method.bytes, request.uri]
  match qop with
  | some qop => hashJoin
      [ha1, wireBytes nonce, nonceCountText request.nonceCount,
        wireBytes request.clientNonce, wireBytes qop.asStr, ha2]
  | none => hashJoin [ha1, wireBytes nonce, ha2]

/-- Compute a Digest authorization from a challenge. -/
def calculate
    (hash : DigestAlgorithm → Bytes → Bytes) (challenge : AuthChallenge)
    (credentials : DigestCredentials)
    (request : DigestRequest) : Except DigestError DigestAuthorization :=
  if ¬eqIgnoreAsciiCase challenge.scheme "Digest" then
    .error .unsupportedScheme
  else
    match challenge.parameter "realm", challenge.parameter "nonce" with
    | none, _ => .error .missingRealm
    | some _, none => .error .missingNonce
    | some realm, some nonce => do
      ensure (¬challenge.isTrue "userhash") .unsupportedUserHash
      validateComponent request.uri .invalidUri
      -- A session algorithm also needs the client nonce, which is not empty.
      validateComponent (wireBytes request.clientNonce) .missingClientNonce
      let algorithm ← parseAlgorithm (challenge.parameter "algorithm")
      let qop ← parseQop (challenge.parameter "qop")
      ensure (qop = none ∨ request.nonceCount ≠ 0) .zeroNonceCount
      return {
        username := credentials.username
        realm := realm
        nonce := nonce
        uri := request.uri
        response :=
          responseValue hash credentials request algorithm qop realm nonce
        algorithm := algorithm
        opaqueValue := challenge.parameter "opaque"
        qop := qop
        nonceCount := qop.map fun _ => request.nonceCount
        clientNonce :=
          if qop.isSome || algorithm.isSession then some request.clientNonce
          else none }

end DigestAuthorization

/-- Maximum stale-nonce recoveries per scope and call attempt. -/
def maxStaleRecoveries : Nat := 2

/-- Maximum challenges evaluated in one response. -/
def maxAuthChallenges : Nat := 16

/-- Independent SIP authentication namespace. -/
inductive AuthScope
  | server
  | proxy
  deriving DecidableEq

/-- The challenge in use in one scope. -/
structure ScopeState where
  challenge : AuthChallenge
  nonceCount : Nat
  staleRecoveries : Nat
  deriving DecidableEq

/-- Stateful authentication failure. -/
inductive AuthContextError
  | invalidChallengeCount
  | noSupportedChallenge
  | missingNonce
  | repeatedChallenge
  | staleLimitExceeded
  | noChallenge
  | nonceCountExhausted
  | digest (error : DigestError)

/-- Authentication state with isolated slots. -/
structure AuthContext where
  server : Option ScopeState
  proxy : Option ScopeState

/-- The last of the strongest supported Digest challenges. -/
def strongestChallenge (challenges : List AuthChallenge) : Option AuthChallenge :=
  (challenges.filter fun challenge =>
      eqIgnoreAsciiCase challenge.scheme "Digest" && challenge.score != 0).foldl
    (fun strongest challenge =>
      match strongest with
      | none => some challenge
      | some best =>
        if best.score ≤ challenge.score then some challenge else some best)
    none

namespace AuthContext

variable {scope : AuthScope}

/-- Empty authentication state. -/
def new : AuthContext := ⟨none, none⟩

/-- The slot of a scope. -/
def slot (context : AuthContext) : AuthScope → Option ScopeState
  | .server => context.server
  | .proxy => context.proxy

/-- The state with another slot of a scope. -/
def setSlot (context : AuthContext) (state : Option ScopeState) : AuthScope → AuthContext
  | .server => { context with server := state }
  | .proxy => { context with proxy := state }

@[simp] theorem slot_setSlot_self
    (context : AuthContext) (state : Option ScopeState) (scope : AuthScope) :
    (context.setSlot state scope).slot scope = state := by
  cases scope <;> rfl

theorem slot_setSlot_of_ne
    (context : AuthContext) (state : Option ScopeState) {other : AuthScope}
    (different : other ≠ scope) :
    (context.setSlot state scope).slot other = context.slot other := by
  cases scope <;> cases other <;> first | rfl | exact absurd rfl different

/-- The stale recoveries that a selected challenge leads to. -/
def recoveriesAfter
    (previous : Option ScopeState) (nonce : String) (stale : Bool) : Except AuthContextError Nat :=
  match previous with
  | none => .ok 0
  | some previous =>
    if previous.challenge.parameter "nonce" = some nonce ∧ ¬stale then
      .error .repeatedChallenge
    else if stale then
      if previous.staleRecoveries + 1 < 2 ^ 8 then .ok (previous.staleRecoveries + 1)
      else .error .staleLimitExceeded
    else
      .ok 0

/-- Select and install the strongest supported challenge of a scope; a failure
changes nothing. -/
def install
    (context : AuthContext) (scope : AuthScope)
    (challenges : List AuthChallenge) : Except AuthContextError AuthContext := do
  ensure (challenges ≠ [] ∧ challenges.length ≤ maxAuthChallenges) .invalidChallengeCount
  match strongestChallenge challenges with
  | none => .error .noSupportedChallenge
  | some selected =>
    match selected.parameter "nonce" with
    | none => .error .missingNonce
    | some nonce =>
      let recoveries ←
        recoveriesAfter (context.slot scope) nonce selected.isStale
      ensure (recoveries ≤ maxStaleRecoveries) .staleLimitExceeded
      return context.setSlot (some ⟨selected, 0, recoveries⟩) scope

/-- Calculate the next authorization of a scope; a failure changes nothing. -/
def authorize
    (hash : DigestAlgorithm → Bytes → Bytes) (context : AuthContext)
    (scope : AuthScope) (credentials : DigestCredentials) (method : Method)
    (uri entityBody : Bytes) (clientNonce : String) :
    Except AuthContextError (AuthContext × DigestAuthorization) := do
  match context.slot scope with
  | none => .error .noChallenge
  | some state =>
    ensure (state.nonceCount + 1 < 2 ^ 32) .nonceCountExhausted
    let next := state.nonceCount + 1
    let authorization ←
      (DigestAuthorization.calculate hash state.challenge credentials
        ⟨method, uri, entityBody, next, clientNonce⟩).mapError .digest
    return (context.setSlot (some { state with nonceCount := next }) scope, authorization)

/-- What a successful installation found and did. -/
theorem install_eq_ok
    {context next : AuthContext} {challenges : List AuthChallenge}
    (installed : context.install scope challenges = .ok next) :
    ∃ selected nonce recoveries, strongestChallenge challenges = some selected ∧
      selected.parameter "nonce" = some nonce ∧
      recoveriesAfter (context.slot scope) nonce selected.isStale = .ok recoveries ∧
      recoveries ≤ maxStaleRecoveries ∧
      next = context.setSlot (some ⟨selected, 0, recoveries⟩) scope := by
  unfold install at installed
  obtain ⟨-, -, installed⟩ := bind_eq_ok.mp installed
  cases strongest : strongestChallenge challenges with
  | none => simp [strongest] at installed
  | some selected =>
    simp only [strongest] at installed
    cases named : selected.parameter "nonce" with
    | none => simp [named] at installed
    | some nonce =>
      simp only [named] at installed
      obtain ⟨recoveries, counted, installed⟩ := bind_eq_ok.mp installed
      obtain ⟨_, bounded, returned⟩ := bind_eq_ok.mp installed
      cases returned
      exact ⟨selected, nonce, recoveries, rfl, named, counted, ensure_eq_ok.mp bounded, rfl⟩

end AuthContext

end Sip
end LiveAISIP
