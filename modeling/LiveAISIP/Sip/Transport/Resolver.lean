import LiveAISIP.Sip.Transport.Connection
import Mathlib.Algebra.GroupWithZero.Nat
import Mathlib.Data.List.Sort
import Mathlib.Data.Prod.Lex
import Mathlib.Data.String.Basic

/-!
# Destination planning

The resolution plans of `sip/transport/resolver`.  Service records are sorted
and their equal groups shuffled by weight; the addresses of their targets
become the candidates, each once and up to a bound.
-/

namespace LiveAISIP
namespace Sip
namespace Transport

open String TlsIdentity

/-- Failure to construct a SIP destination. -/
inductive DestinationError
  | zeroPort
  | unspecifiedAddress
  | emptyTlsDnsName
  | tlsDnsNameTooLong (length maximum : Nat)
  | invalidTlsDnsLabel (index : Nat)

/-- An address of the newer family that stands for one of the older becomes the latter. -/
def canonicalize (endpoint : SocketAddress) : SocketAddress :=
  match endpoint.address with
  | .v6 address =>
    if address.toNat >>> 32 = 0xFFFF then ⟨.v4 (address.setWidth 32), endpoint.port, 0, 0⟩
    else endpoint
  | .v4 _ => endpoint

/-- The canonical endpoint, unless its port or address is a wildcard. -/
def validateRemote (remote : SocketAddress) : Except DestinationError SocketAddress :=
  if (canonicalize remote).port = 0 then .error .zeroPort
  else if (canonicalize remote).address.isUnspecified then .error .unspecifiedAddress
  else .ok (canonicalize remote)

/-- Maximum accepted DNS certificate identity length. -/
def maxTlsDnsNameBytes : Nat := 253

/-- A part of a name between dots that is refused. -/
def invalidLabel (label : List Char) : Bool :=
  label.isEmpty || decide (63 < (ofList label).utf8ByteSize) ||
    label.head? == some '-' || label.getLast? == some '-' ||
    !label.all fun char => char.isAlphanum || char == '-'

/-- Check a DNS name. -/
def validateDns (name : String) : Except DestinationError Unit :=
  if name.isEmpty then .error .emptyTlsDnsName
  else if maxTlsDnsNameBytes < name.utf8ByteSize then
    .error (.tlsDnsNameTooLong name.utf8ByteSize maxTlsDnsNameBytes)
  else
    match (name.toList.splitOn '.').findIdx? invalidLabel with
    | some index => .error (.invalidTlsDnsLabel index)
    | none => .ok ()

/-- The name without one trailing dot. -/
def stripRootDot (name : String) : String :=
  if name.toList.getLast? = some '.' then ofList name.toList.dropLast else name

/-- A DNS identity in lower case. -/
def TlsIdentity.ofDns (name : String) : Except DestinationError TlsIdentity := do
  validateDns (stripRootDot name)
  return .dns (ofList ((stripRootDot name).toList.map Char.toLower))

/-- A name in the form that an identity holds. -/
def NormalizedDns (name : String) : Prop := ofDns name = .ok (.dns name)

/-- Equal names up to ASCII case. -/
def eqIgnoreAsciiCase (first second : String) : Bool :=
  first.toList.map Char.toLower == second.toList.map Char.toLower

namespace Destination

/-- A destination without a certificate identity. -/
def plain (protocol : Protocol) (remote : SocketAddress) :
    Except DestinationError Destination := do
  let remote ← validateRemote remote
  return ⟨protocol, remote, none⟩

/-- A UDP destination. -/
def udp (remote : SocketAddress) : Except DestinationError Destination := plain .udp remote

/-- A TCP destination. -/
def tcp (remote : SocketAddress) : Except DestinationError Destination := plain .tcp remote

/-- A TLS destination with explicit certificate identity. -/
def tls (remote : SocketAddress) (identity : TlsIdentity) :
    Except DestinationError Destination := do
  let remote ← validateRemote remote
  return ⟨.tls, remote, some identity⟩

end Destination

theorem toLower_cases (char : Char) :
    (char.toLower = char ∧ ¬(65 ≤ char.toNat ∧ char.toNat ≤ 90)) ∨
      (char.toLower.toNat = char.toNat + 32 ∧ 65 ≤ char.toNat ∧ char.toNat ≤ 90) := by
  by_cases upper : char.val ≥ 'A'.val ∧ char.val ≤ 'Z'.val
  · have bounds : 65 ≤ char.toNat ∧ char.toNat ≤ 90 := upper
    have lower : char.toLower.toNat = (char.toNat + 32) % 2 ^ 32 :=
      congrArg Char.toNat (dif_pos upper)
    exact .inr ⟨by rw [lower]; omega, bounds⟩
  · exact .inl ⟨dif_neg upper, upper⟩

theorem utf8Size_toLower (char : Char) : char.toLower.utf8Size = char.utf8Size := by
  obtain ⟨same, -⟩ | ⟨lower, -, bound⟩ := toLower_cases char
  · rw [same]
  · have small (other : Char) (bound : other.toNat ≤ 127) : other.utf8Size = 1 :=
      Char.utf8Size_eq_one_iff.mpr bound
    rw [small char (by omega), small char.toLower (by omega)]

/-- Only letters change. -/
theorem toLower_eq_iff {char : Char} (other : Char) (caseless : other.toNat < 65) :
    char.toLower = other ↔ char = other := by
  obtain ⟨same, -⟩ | ⟨lower, above, -⟩ := toLower_cases char
  · rw [same]
  · constructor
    · rintro rfl
      omega
    · rintro rfl
      omega

theorem toLower_toLower (char : Char) : char.toLower.toLower = char.toLower := by
  obtain ⟨same, -⟩ | ⟨lower, above, below⟩ := toLower_cases char
  · rw [same, same]
  · obtain ⟨same, -⟩ | ⟨-, -, bound⟩ := toLower_cases char.toLower
    · exact same
    · omega

/-- A letter or a digit, by its number. -/
theorem isAlphanum_iff (char : Char) : char.isAlphanum = true ↔
    ((65 ≤ char.toNat ∧ char.toNat ≤ 90) ∨ (97 ≤ char.toNat ∧ char.toNat ≤ 122)) ∨
      (48 ≤ char.toNat ∧ char.toNat ≤ 57) := by
  have spelled : char.isAlphanum = ((decide (65 ≤ char.val ∧ char.val ≤ 90) ||
      decide (97 ≤ char.val) && decide (char.val ≤ 122)) ||
        decide (48 ≤ char.val) && decide (char.val ≤ 57)) := rfl
  rw [spelled]
  simp only [Bool.or_eq_true, Bool.and_eq_true, decide_eq_true_eq]
  exact Iff.rfl

theorem isAlphanum_toLower (char : Char) : char.toLower.isAlphanum = char.isAlphanum := by
  obtain ⟨same, -⟩ | ⟨lower, above, below⟩ := toLower_cases char
  · rw [same]
  · rw [Bool.eq_iff_iff, isAlphanum_iff, isAlphanum_iff]
    omega

theorem utf8ByteSize_map_toLower (chars : List Char) :
    (ofList (chars.map Char.toLower)).utf8ByteSize = (ofList chars).utf8ByteSize := by
  rw [utf8ByteSize_ofList, utf8ByteSize_ofList]
  induction chars with
  | nil => rfl
  | cons char chars ih =>
    rw [List.map_cons, utf8Len_cons, utf8Len_cons, ih, utf8Size_toLower]

theorem invalidLabel_map_toLower (label : List Char) :
    invalidLabel (label.map Char.toLower) = invalidLabel label := by
  have hyphen (found : Option Char) :
      (found.map Char.toLower == some '-') = (found == some '-') := by
    cases found with
    | none => rfl
    | some char =>
      rw [Bool.eq_iff_iff, beq_iff_eq, beq_iff_eq, Option.map_some, Option.some.injEq,
        Option.some.injEq]
      exact toLower_eq_iff '-' (by decide)
  have inside (char : Char) :
      (char.toLower.isAlphanum || char.toLower == '-') = (char.isAlphanum || char == '-') := by
    rw [isAlphanum_toLower]
    congr 1
    rw [Bool.eq_iff_iff, beq_iff_eq, beq_iff_eq]
    exact toLower_eq_iff '-' (by decide)
  rw [invalidLabel, invalidLabel, List.isEmpty_map, utf8ByteSize_map_toLower, List.head?_map,
    List.getLast?_map, hyphen, hyphen, List.all_map]
  congr 3
  exact funext inside

theorem splitOn_map_toLower (chars : List Char) :
    (chars.map Char.toLower).splitOn '.' = (chars.splitOn '.').map (List.map Char.toLower) := by
  induction chars with
  | nil => simp
  | cons char chars ih =>
    rw [List.map_cons, List.splitOn_cons_eq_if_modifyHead, List.splitOn_cons_eq_if_modifyHead, ih]
    by_cases dot : char = '.'
    · simp [dot]
    · have other : ¬char.toLower = '.' := fun same =>
        dot ((toLower_eq_iff '.' (by decide)).mp same)
      rw [if_neg (by simpa using other), if_neg (by simpa using dot)]
      cases chars.splitOn '.' with
      | nil => rfl
      | cons first rest => rfl

theorem validateDns_map_toLower (name : String) :
    validateDns (ofList (name.toList.map Char.toLower)) = validateDns name := by
  have empty : (ofList (name.toList.map Char.toLower)).isEmpty = name.isEmpty := by
    rw [Bool.eq_iff_iff, String.isEmpty_iff, String.isEmpty_iff, ← toList_inj,
      ← toList_inj, toList_ofList]
    simp
  have size : (ofList (name.toList.map Char.toLower)).utf8ByteSize = name.utf8ByteSize := by
    rw [utf8ByteSize_map_toLower, ofList_toList]
  rw [validateDns, validateDns, empty, size, toList_ofList, splitOn_map_toLower, List.findIdx?_map]
  simp only [Function.comp_def, invalidLabel_map_toLower]

/-- A valid name does not end in a dot. -/
theorem stripRootDot_of_valid {name : String} (valid : validateDns name = .ok ()) :
    stripRootDot name = name := by
  rw [stripRootDot, if_neg]
  intro last
  rw [validateDns] at valid
  split_ifs at valid
  cases invalid : (name.toList.splitOn '.').findIdx? invalidLabel with
  | some index =>
    rw [invalid] at valid
    cases valid
  | none =>
    have labels := List.findIdx?_eq_none_iff.mp invalid
    obtain ⟨front, split⟩ := List.getLast?_eq_some_iff.mp last
    rw [split, List.splitOn_append_cons_self] at labels
    have refused := labels [] (by simp)
    cases refused

theorem normalized_of_ofDns {name normal : String}
    (made : ofDns name = .ok (.dns normal)) : NormalizedDns normal := by
  obtain ⟨_, valid, returned⟩ := Outcome.bind_eq_ok.mp made
  cases returned
  have again := (validateDns_map_toLower (stripRootDot name)).trans valid
  rw [NormalizedDns, ofDns, stripRootDot_of_valid again, again]
  have twice : Char.toLower ∘ Char.toLower = Char.toLower := funext toLower_toLower
  simp [twice]

/-- Maximum service records accepted for one resolution. -/
def maxServiceRecords : Nat := 64

/-- Maximum address records accepted for one resolution. -/
def maxAddressRecords : Nat := 128

/-- Maximum concrete failover candidates retained. -/
def maxResolvedCandidates : Nat := 32

/-- Destination-resolution failure. -/
inductive ResolutionError
  | invalidDomain
  | zeroPort
  | unspecifiedAddress
  | tooManyServiceRecords
  | tooManyAddressRecords
  | secureDowngrade
  | noUsableDestination
  | invalidDestination (error : DestinationError)

/-- Request constraints derived from a SIP or SIPS URI. -/
structure ResolutionRequest where
  domain : String
  secure : Bool
  explicitProtocol : Option Protocol
  explicitPort : Option UInt16
  entropy : UInt64
  normalized : NormalizedDns domain
  portNonzero : explicitPort ≠ some 0
  guarded : secure = true → ∀ protocol, explicitProtocol = some protocol → protocol = .tls

/-- One bounded SRV service answer. -/
structure ServiceRecord where
  protocol : Protocol
  naptrOrder : UInt16
  naptrPreference : UInt16
  priority : UInt16
  weight : UInt16
  port : UInt16
  target : String
  normalized : NormalizedDns target
  portNonzero : port ≠ 0

/-- One validated DNS address answer associated with a name. -/
structure AddressRecord where
  target : String
  address : IpAddress
  normalized : NormalizedDns target
  specified : address.isUnspecified = false

/-- DNS answers supplied by the runtime resolver and its bounded cache. -/
structure ResolverRecords where
  services : List ServiceRecord
  addresses : List AddressRecord

/-- Ordered concrete destinations for one call attempt. -/
structure ResolutionPlan where
  candidates : List Destination
  next : Nat

/-- Create a request with an optional explicit transport and port. -/
def ResolutionRequest.new (domain : String) (secure : Bool)
    (explicitProtocol : Option Protocol) (explicitPort : Option UInt16) (entropy : UInt64) :
    Except ResolutionError ResolutionRequest :=
  match made : ofDns domain with
  | .error error => .error (.invalidDestination error)
  | .ok (.ip _) => .error .invalidDomain
  | .ok (.dns domain) =>
    if port : explicitPort = some 0 then .error .zeroPort
    else if downgrade : secure = true ∧ explicitProtocol.any (· ≠ .tls) then
      .error .secureDowngrade
    else
      .ok {
        domain := domain
        secure := secure
        explicitProtocol := explicitProtocol
        explicitPort := explicitPort
        entropy := entropy
        normalized := normalized_of_ofDns made
        portNonzero := port
        guarded := by
          intro required protocol chosen
          by_contra other
          exact downgrade ⟨required, by simp [chosen, other]⟩ }

/-- Create a service record with its NAPTR ordering metadata. -/
def ServiceRecord.withNaptr (protocol : Protocol)
    (naptrOrder naptrPreference priority weight port : UInt16) (target : String) :
    Except ResolutionError ServiceRecord :=
  if nonzero : port = 0 then .error .zeroPort
  else
    match made : ofDns target with
    | .error error => .error (.invalidDestination error)
    | .ok (.ip _) => .error .invalidDomain
    | .ok (.dns target) =>
      .ok {
        protocol := protocol
        naptrOrder := naptrOrder
        naptrPreference := naptrPreference
        priority := priority
        weight := weight
        port := port
        target := target
        normalized := normalized_of_ofDns made
        portNonzero := nonzero }

/-- Create an address answer. -/
def AddressRecord.new (target : String) (address : IpAddress) :
    Except ResolutionError AddressRecord :=
  if specified : address.isUnspecified then .error .unspecifiedAddress
  else
    match made : ofDns target with
    | .error error => .error (.invalidDestination error)
    | .ok (.ip _) => .error .invalidDomain
    | .ok (.dns target) =>
      .ok ⟨target, address, normalized_of_ofDns made, by simpa using specified⟩

/-- The place of a protocol among services that are equal otherwise. -/
def protocolRank : Protocol → Nat
  | .udp => 0
  | .tcp => 1
  | .tls => 2

/-- What services are sorted by. -/
def ServiceRecord.key (record : ServiceRecord) : ℕ ×ₗ ℕ ×ₗ ℕ ×ₗ ℕ :=
  toLex (record.naptrOrder.toNat, toLex (record.naptrPreference.toNat,
    toLex (record.priority.toNat, protocolRank record.protocol)))

/-- The entropy of the next choice. -/
def nextEntropy (entropy : UInt64) : UInt64 := entropy * 6364136223846793005 + 1442695040888963407

/-- The first record at which the cumulative weight exceeds the choice. -/
def weightPosition (choice : Nat) : Nat → List ServiceRecord → Option Nat
  | _, [] => none
  | cumulative, record :: records =>
    if choice < cumulative + record.weight.toNat then some 0
    else (weightPosition choice (cumulative + record.weight.toNat) records).map (· + 1)

/-- The record chosen by weight among those that remain. -/
def selectWeighted (records : List ServiceRecord) (entropy : UInt64) : Nat :=
  let total := (records.map fun record => record.weight.toNat).sum
  if total = 0 then entropy.toNat % records.length
  else (weightPosition (entropy.toNat % total) 0 records).getD 0

/-- Exchange two elements. -/
def swap (items : List α) (first second : Nat) : List α :=
  match items[first]?, items[second]? with
  | some firstItem, some secondItem => (items.set first secondItem).set second firstItem
  | _, _ => items

/-- Choose the record at one index. -/
def weightedStep (state : List ServiceRecord × UInt64) (index : Nat) :
    List ServiceRecord × UInt64 :=
  (swap state.1 index
      (index + selectWeighted (state.1.drop index) (nextEntropy state.2)), nextEntropy state.2)

/-- Draw the records by weight, without replacement. -/
def weightedOrder (records : List ServiceRecord) (entropy : UInt64) : List ServiceRecord × UInt64 :=
  (List.range records.length).foldl weightedStep (records, entropy)

/-- The record belongs to the group of the first. -/
def sameGroup (first record : ServiceRecord) : Bool :=
  record.naptrOrder == first.naptrOrder && record.naptrPreference == first.naptrPreference &&
    record.priority == first.priority && record.protocol == first.protocol

/-- Shuffle each group of sorted records; the number of records is enough fuel. -/
def orderGroups : Nat → List ServiceRecord → UInt64 → List ServiceRecord
  | 0, services, _ => services
  | _ + 1, [], _ => []
  | fuel + 1, first :: rest, entropy =>
    let (group, entropy) := weightedOrder (first :: rest.takeWhile (sameGroup first)) entropy
    group ++ orderGroups fuel (rest.dropWhile (sameGroup first)) entropy

/-- Sort the services and shuffle their groups. -/
def orderServices (services : List ServiceRecord) (entropy : UInt64) : List ServiceRecord :=
  orderGroups services.length
    (services.insertionSort fun first second => first.key ≤ second.key) entropy

/-- The request permits the protocol. -/
def protocolAllowed (request : ResolutionRequest) (protocol : Protocol) : Bool :=
  if request.secure then protocol == .tls
  else
    match request.explicitProtocol with
    | none => true
    | some explicit => explicit == protocol

/-- The port of a protocol where none is given. -/
def defaultPort : Protocol → UInt16
  | .tls => 5061
  | _ => 5060

/-- The destination at one address. -/
def destinationAt (request : ResolutionRequest) (protocol : Protocol)
    (remote : SocketAddress) : Except ResolutionError Destination :=
  match protocol with
  | .udp => (Destination.udp remote).mapError .invalidDestination
  | .tcp => (Destination.tcp remote).mapError .invalidDestination
  | .tls => do
    let identity ← (ofDns request.domain).mapError .invalidDestination
    (Destination.tls remote identity).mapError .invalidDestination

/-- Add the destinations at the addresses, each once, until the bound is reached. -/
def appendEach (request : ResolutionRequest) (protocol : Protocol) (port : UInt16) :
    List AddressRecord → List Destination → Except ResolutionError (List Destination)
  | [], candidates => .ok candidates
  | address :: addresses, candidates =>
    match destinationAt request protocol ⟨address.address, port, 0, 0⟩ with
    | .error error => .error error
    | .ok destination =>
      if destination ∈ candidates then appendEach request protocol port addresses candidates
      else if candidates.length = maxResolvedCandidates then .ok candidates
      else appendEach request protocol port addresses (candidates ++ [destination])

/-- The address records of a name. -/
def ResolverRecords.addressesOf (records : ResolverRecords) (target : String) :
    List AddressRecord :=
  records.addresses.filter fun record => eqIgnoreAsciiCase record.target target

/-- Add the destinations of a name. -/
def appendAddresses (candidates : List Destination) (request : ResolutionRequest)
    (records : ResolverRecords) (target : String) (protocol : Protocol) (port : UInt16) :
    Except ResolutionError (List Destination) :=
  if protocolAllowed request protocol then
    appendEach request protocol port (records.addressesOf target) candidates
  else .error .secureDowngrade

/-- Add the destinations of services until the bound is reached. -/
def appendServices (request : ResolutionRequest) (records : ResolverRecords) :
    List ServiceRecord → List Destination → Except ResolutionError (List Destination)
  | [], candidates => .ok candidates
  | service :: services, candidates => do
    let candidates ← appendAddresses candidates request records service.target
      service.protocol service.port
    if candidates.length = maxResolvedCandidates then return candidates
    else appendServices request records services candidates

/-- The protocols to try where no service is known. -/
def defaultProtocols (request : ResolutionRequest) : List Protocol :=
  match request.explicitProtocol with
  | some protocol => [protocol]
  | none => if request.secure then [.tls] else [.udp, .tcp]

/-- Add the destinations of the domain on the default ports. -/
def appendDefaults (request : ResolutionRequest) (records : ResolverRecords) :
    List Protocol → List Destination → Except ResolutionError (List Destination)
  | [], candidates => .ok candidates
  | protocol :: protocols, candidates => do
    let candidates ← appendAddresses candidates request records request.domain protocol
      (defaultPort protocol)
    appendDefaults request records protocols candidates

/-- The protocol for an explicit port. -/
def portProtocol (request : ResolutionRequest) : Protocol :=
  request.explicitProtocol.getD (if request.secure then .tls else .udp)

/-- The services that the request permits. -/
def allowedServices (request : ResolutionRequest) (records : ResolverRecords) :
    List ServiceRecord :=
  records.services.filter fun record => protocolAllowed request record.protocol

/-- The candidates before the check that there is one. -/
def collectCandidates (request : ResolutionRequest) (records : ResolverRecords) :
    Except ResolutionError (List Destination) :=
  match request.explicitPort with
  | some port =>
    appendAddresses [] request records request.domain (portProtocol request) port
  | none => do
    let candidates ← appendServices request records
      (orderServices (allowedServices request records) request.entropy) []
    if candidates.isEmpty && records.services.isEmpty then
      appendDefaults request records (defaultProtocols request) candidates
    else return candidates

/-- Build a bounded plan from validated DNS answers. -/
def ResolutionPlan.build (request : ResolutionRequest) (records : ResolverRecords) :
    Except ResolutionError ResolutionPlan :=
  if maxServiceRecords < records.services.length then .error .tooManyServiceRecords
  else if maxAddressRecords < records.addresses.length then .error .tooManyAddressRecords
  else do
    let candidates ← collectCandidates request records
    if candidates.isEmpty then .error .noUsableDestination
    else return ⟨candidates, 0⟩

end Transport
end Sip
end LiveAISIP
