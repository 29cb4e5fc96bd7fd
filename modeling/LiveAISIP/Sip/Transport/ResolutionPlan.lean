import LiveAISIP.Library.Distinct
import LiveAISIP.Sip.Transport.Resolver
import Mathlib.Data.List.TakeWhile
import Mathlib.Data.Set.Card

/-!
# Resolution plans

What the candidates of a plan are: the destinations that the records offer, each
once, in the order of the services that offer them.  The entropy of a request
decides among services of one key.
-/

namespace LiveAISIP
namespace Sip
namespace Transport

open Outcome
open List Distinct

variable {request : ResolutionRequest} {records : ResolverRecords}

theorem swap_perm (items : List α) (first second : Nat) :
    (swap items first second).Perm items := by
  unfold swap
  split
  next firstItem secondItem firstFound secondFound =>
    obtain ⟨firstBound, rfl⟩ := List.getElem?_eq_some_iff.mp firstFound
    obtain ⟨secondBound, rfl⟩ := List.getElem?_eq_some_iff.mp secondFound
    exact set_set_perm firstBound secondBound
  · exact .refl items

/-- Drawing by weight loses and repeats no record, whatever the weights. -/
theorem weightedOrder_perm (records : List ServiceRecord) (entropy : UInt64) :
    (weightedOrder records entropy).1.Perm records := by
  have drawn (indices : List Nat) (state : List ServiceRecord × UInt64) :
      (indices.foldl weightedStep state).1.Perm state.1 := by
    induction indices generalizing state with
    | nil => exact .refl _
    | cons index indices ih =>
      exact (ih _).trans (swap_perm _ _ _)
  exact drawn _ (records, entropy)

theorem key_of_sameGroup
    {first record : ServiceRecord} (same : sameGroup first record = true) :
    record.key = first.key := by
  simp only [sameGroup, Bool.and_eq_true, beq_iff_eq] at same
  obtain ⟨⟨⟨order, preference⟩, priority⟩, protocol⟩ := same
  rw [ServiceRecord.key, order, preference, priority, protocol]
  rfl

/-- Shuffling the groups of sorted records keeps the records and their order by key. -/
theorem orderGroups_spec
    (fuel : Nat) {services : List ServiceRecord}
    (sorted : services.Pairwise fun first second => first.key ≤ second.key) (entropy : UInt64) :
    (orderGroups fuel services entropy).Perm services ∧
      (orderGroups fuel services entropy).Pairwise fun first second =>
        first.key ≤ second.key := by
  induction fuel generalizing services entropy with
  | zero => exact ⟨.refl _, sorted⟩
  | succ fuel ih =>
    cases services with
    | nil => exact ⟨.refl _, sorted⟩
    | cons first rest =>
      rw [orderGroups]
      have shuffled := weightedOrder_perm (first :: rest.takeWhile (sameGroup first)) entropy
      generalize weightedOrder (first :: rest.takeWhile (sameGroup first)) entropy =
        drawn at shuffled ⊢
      obtain ⟨group, entropy⟩ := drawn
      dsimp only at shuffled ⊢
      obtain ⟨below, sorted⟩ := pairwise_cons.mp sorted
      obtain ⟨perm, ordered⟩ := ih (sorted.sublist (dropWhile_sublist (sameGroup first))) entropy
      have keys : ∀ record ∈ group, record.key = first.key := by
        intro record member
        rcases mem_cons.mp (shuffled.mem_iff.mp member) with rfl | taken
        · rfl
        · exact key_of_sameGroup (mem_takeWhile_imp taken)
      refine ⟨?_, pairwise_append.mpr ⟨?_, ordered, ?_⟩⟩
      · have joined := shuffled.append perm
        rwa [cons_append, takeWhile_append_dropWhile] at joined
      · apply pairwise_of_forall_mem_list
        intro earlier earlierMember later laterMember
        rw [keys earlier earlierMember, keys later laterMember]
      · intro earlier earlierMember later laterMember
        rw [keys earlier earlierMember]
        exact below later ((dropWhile_sublist _).subset (perm.mem_iff.mp laterMember))

theorem orderServices_spec (services : List ServiceRecord) (entropy : UInt64) :
    (orderServices services entropy).Perm services ∧
      (orderServices services entropy).Pairwise fun first second =>
        first.key ≤ second.key := by
  have total : Std.Total fun first second : ServiceRecord => first.key ≤ second.key :=
    ⟨fun first second => le_total first.key second.key⟩
  have transitive : IsTrans ServiceRecord fun first second => first.key ≤ second.key :=
    ⟨fun _ _ _ => le_trans⟩
  obtain ⟨perm, ordered⟩ := orderGroups_spec services.length
    (pairwise_insertionSort (fun first second : ServiceRecord => first.key ≤ second.key)
      services) entropy
  exact ⟨perm.trans (perm_insertionSort _ services), ordered⟩

/-- The destination that a request is sent to at one endpoint. -/
def destinationFor (request : ResolutionRequest) (protocol : Protocol)
    (remote : SocketAddress) : Destination where
  protocol := protocol
  remote := canonicalize remote
  tlsIdentity := if protocol = .tls then some (.dns request.domain) else none

/-- Neither the port nor the address is a wildcard. -/
def Destination.Concrete (destination : Destination) : Prop :=
  destination.remote.port ≠ 0 ∧ destination.remote.address.isUnspecified = false

theorem validateRemote_eq_ok {remote checked : SocketAddress} :
    validateRemote remote = .ok checked ↔
      checked = canonicalize remote ∧ (canonicalize remote).port ≠ 0 ∧
        (canonicalize remote).address.isUnspecified = false := by
  unfold validateRemote
  split_ifs with zero wildcard
  · simp [zero]
  · simp [wildcard]
  · simp [zero, wildcard, eq_comm]

theorem destinationAt_eq_ok {protocol : Protocol} {remote : SocketAddress}
    {destination : Destination} :
    destinationAt request protocol remote = .ok destination ↔
      destination = destinationFor request protocol remote ∧ destination.Concrete := by
  have normal : TlsIdentity.ofDns request.domain = .ok (.dns request.domain) := request.normalized
  have plain (protocol : Protocol) (other : protocol ≠ .tls) :
      Destination.plain protocol remote = .ok destination ↔
        destination = destinationFor request protocol remote ∧ destination.Concrete := by
    rw [Destination.plain, bind_eq_ok]
    constructor
    · rintro ⟨checked, valid, returned⟩
      obtain ⟨rfl, concrete⟩ := validateRemote_eq_ok.mp valid
      cases returned
      exact ⟨by rw [destinationFor, if_neg other], concrete⟩
    · rintro ⟨rfl, concrete⟩
      refine ⟨_, validateRemote_eq_ok.mpr ⟨rfl, concrete⟩, ?_⟩
      rw [destinationFor, if_neg other]
      rfl
  cases protocol with
  | udp =>
    rw [destinationAt, mapError_eq_ok]
    exact plain .udp (by decide)
  | tcp =>
    rw [destinationAt, mapError_eq_ok]
    exact plain .tcp (by decide)
  | tls =>
    rw [destinationAt, normal]
    show (Destination.tls remote _).mapError _ = _ ↔ _
    rw [mapError_eq_ok, Destination.tls, bind_eq_ok]
    constructor
    · rintro ⟨checked, valid, returned⟩
      obtain ⟨rfl, concrete⟩ := validateRemote_eq_ok.mp valid
      cases returned
      exact ⟨rfl, concrete⟩
    · rintro ⟨rfl, concrete⟩
      exact ⟨_, validateRemote_eq_ok.mpr ⟨rfl, concrete⟩, rfl⟩

/-- The destinations of a name, in the order of the address records. -/
def destinationsOf (request : ResolutionRequest) (records : ResolverRecords)
    (target : String) (protocol : Protocol) (port : UInt16) : List Destination :=
  (records.addressesOf target).map fun record =>
    destinationFor request protocol ⟨record.address, port, 0, 0⟩

/-- The destinations of a service. -/
def served (request : ResolutionRequest) (records : ResolverRecords)
    (service : ServiceRecord) : List Destination :=
  destinationsOf request records service.target service.protocol service.port

/-- What the records offer for a request. -/
inductive Offered (request : ResolutionRequest) (records : ResolverRecords) : Destination → Prop
  | onPort (port : UInt16) (explicit : request.explicitPort = some port)
      (destination : Destination)
      (found : destination ∈
        destinationsOf request records request.domain (portProtocol request) port) :
      Offered request records destination
  | byService (unspecified : request.explicitPort = none) (service : ServiceRecord)
      (known : service ∈ records.services)
      (allowed : protocolAllowed request service.protocol = true)
      (destination : Destination) (found : destination ∈ served request records service) :
      Offered request records destination
  | byDefault (unspecified : request.explicitPort = none) (unknown : records.services = [])
      (protocol : Protocol) (tried : protocol ∈ defaultProtocols request)
      (destination : Destination)
      (found : destination ∈
        destinationsOf request records request.domain protocol (defaultPort protocol)) :
      Offered request records destination

/-- All offers in the order in which they are tried. -/
def offers (request : ResolutionRequest) (records : ResolverRecords) : List Destination :=
  match request.explicitPort with
  | some port => destinationsOf request records request.domain (portProtocol request) port
  | none =>
    if records.services = [] then
      (defaultProtocols request).flatMap fun protocol =>
        destinationsOf request records request.domain protocol (defaultPort protocol)
    else
      (orderServices (allowedServices request records) request.entropy).flatMap
        (served request records)

theorem offers_of_port {port : UInt16} (explicit : request.explicitPort = some port)
    (records : ResolverRecords) :
    offers request records =
      destinationsOf request records request.domain (portProtocol request) port := by
  rw [offers, explicit]

theorem offers_of_unknown
    (unspecified : request.explicitPort = none) (unknown : records.services = []) :
    offers request records = (defaultProtocols request).flatMap fun protocol =>
      destinationsOf request records request.domain protocol (defaultPort protocol) := by
  rw [offers, unspecified]
  exact if_pos unknown

theorem offers_of_known
    (unspecified : request.explicitPort = none) (known : records.services ≠ []) :
    offers request records =
      (orderServices (allowedServices request records) request.entropy).flatMap
        (served request records) := by
  rw [offers, unspecified]
  exact if_neg known

theorem mem_offers {destination : Destination} :
    destination ∈ offers request records ↔ Offered request records destination := by
  cases port : request.explicitPort with
  | some explicit =>
    rw [offers_of_port port]
    constructor
    · exact fun found => .onPort explicit port destination found
    · rintro (⟨other, specified, _, found⟩ | ⟨unspecified⟩ | ⟨unspecified⟩)
      · obtain rfl : explicit = other := Option.some.inj (port.symm.trans specified)
        exact found
      · rw [port] at unspecified
        cases unspecified
      · rw [port] at unspecified
        cases unspecified
  | none =>
    by_cases unknown : records.services = []
    · rw [offers_of_unknown port unknown, mem_flatMap]
      constructor
      · rintro ⟨protocol, tried, found⟩
        exact .byDefault port unknown protocol tried destination found
      · rintro (⟨_, specified⟩ | ⟨_, service, known⟩ | ⟨_, _, protocol, tried, _, found⟩)
        · rw [port] at specified
          cases specified
        · rw [unknown] at known
          cases known
        · exact ⟨protocol, tried, found⟩
    · rw [offers_of_known port unknown, mem_flatMap]
      have members (service : ServiceRecord) :
          service ∈ orderServices (allowedServices request records) request.entropy ↔
            service ∈ records.services ∧ protocolAllowed request service.protocol = true :=
        (orderServices_spec _ _).1.mem_iff.trans mem_filter
      constructor
      · rintro ⟨service, member, found⟩
        obtain ⟨known, allowed⟩ := (members service).mp member
        exact .byService port service known allowed destination found
      · rintro (⟨_, specified⟩ | ⟨_, service, known, allowed, _, found⟩ | ⟨_, empty⟩)
        · rw [port] at specified
          cases specified
        · exact ⟨service, (members service).mpr ⟨known, allowed⟩, found⟩
        · exact absurd empty unknown

section

variable {candidates result : List Destination}

variable {protocol : Protocol} {port : UInt16}

/-- Adding the destinations of addresses keeps the new ones within the bound. -/
theorem appendEach_eq_ok {addresses : List AddressRecord}
    (appended : appendEach request protocol port addresses candidates = .ok result) :
    result = (addresses.map fun record =>
        destinationFor request protocol ⟨record.address, port, 0, 0⟩).foldl
          (keepNew maxResolvedCandidates) candidates ∧
      ∀ destination ∈ result, destination ∈ candidates ∨ destination.Concrete := by
  induction addresses generalizing candidates with
  | nil =>
    cases appended
    exact ⟨rfl, fun _ => .inl⟩
  | cons record addresses ih =>
    rw [appendEach] at appended
    rw [map_cons, foldl_cons]
    cases made : destinationAt request protocol ⟨record.address, port, 0, 0⟩ with
    | error error =>
      rw [made] at appended
      cases appended
    | ok destination =>
      rw [made] at appended
      obtain ⟨rfl, concrete⟩ := destinationAt_eq_ok.mp made
      dsimp only at appended
      split_ifs at appended with old full
      · rw [keepNew, if_pos old]
        exact ih appended
      · cases appended
        rw [keepNew, if_neg old, if_pos full, foldl_keepNew_of_full full]
        exact ⟨rfl, fun _ => .inl⟩
      · rw [keepNew, if_neg old, if_neg full]
        obtain ⟨kept, sound⟩ := ih appended
        refine ⟨kept, ?_⟩
        intro destination member
        rcases sound destination member with before | valid
        · rcases mem_append.mp before with before | last
          · exact .inl before
          · rw [mem_singleton.mp last]
            exact .inr concrete
        · exact .inr valid

/-- Concrete destinations are added without failure. -/
theorem appendEach_of_concrete {addresses : List AddressRecord}
    (concrete : ∀ record ∈ addresses,
      (destinationFor request protocol ⟨record.address, port, 0, 0⟩).Concrete)
    (candidates : List Destination) :
    ∃ result, appendEach request protocol port addresses candidates = .ok result := by
  induction addresses generalizing candidates with
  | nil => exact ⟨candidates, rfl⟩
  | cons record addresses ih =>
    have made := destinationAt_eq_ok.mpr ⟨rfl, concrete record (mem_cons_self ..)⟩
    have later := ih fun other member =>
      concrete other (mem_cons_of_mem _ member)
    rw [appendEach, made]
    dsimp only
    split_ifs
    · exact later _
    · exact ⟨_, rfl⟩
    · exact later _

theorem appendAddresses_eq_ok
    {target : String}
    (appended : appendAddresses candidates request records target protocol port = .ok result) :
    result = (destinationsOf request records target protocol port).foldl
        (keepNew maxResolvedCandidates) candidates ∧
      ∀ destination ∈ result, destination ∈ candidates ∨ destination.Concrete := by
  rw [appendAddresses] at appended
  split_ifs at appended
  exact appendEach_eq_ok appended

theorem appendAddresses_of_concrete
    {target : String} (allowed : protocolAllowed request protocol = true)
    (concrete : ∀ destination ∈ destinationsOf request records target protocol port,
      destination.Concrete)
    (candidates : List Destination) :
    ∃ result, appendAddresses candidates request records target protocol port = .ok result := by
  rw [appendAddresses, if_pos allowed]
  exact appendEach_of_concrete (fun record member => concrete _ (mem_map_of_mem member)) candidates

theorem appendServices_eq_ok
    {services : List ServiceRecord}
    (appended : appendServices request records services candidates = .ok result) :
    result = (services.flatMap (served request records)).foldl
        (keepNew maxResolvedCandidates) candidates ∧
      ∀ destination ∈ result, destination ∈ candidates ∨ destination.Concrete := by
  induction services generalizing candidates with
  | nil =>
    cases appended
    exact ⟨rfl, fun _ => .inl⟩
  | cons service services ih =>
    obtain ⟨grown, first, appended⟩ := bind_eq_ok.mp appended
    obtain ⟨rfl, sound⟩ := appendAddresses_eq_ok first
    rw [flatMap_cons, foldl_append]
    split_ifs at appended with full
    · cases appended
      exact ⟨(foldl_keepNew_of_full full _).symm, sound⟩
    · obtain ⟨kept, later⟩ := ih appended
      refine ⟨kept, ?_⟩
      intro destination member
      rcases later destination member with before | valid
      · exact sound destination before
      · exact .inr valid

theorem appendServices_of_concrete
    {services : List ServiceRecord}
    (allowed : ∀ service ∈ services, protocolAllowed request service.protocol = true)
    (concrete : ∀ destination ∈ services.flatMap (served request records), destination.Concrete)
    (candidates : List Destination) :
    ∃ result, appendServices request records services candidates = .ok result := by
  induction services generalizing candidates with
  | nil => exact ⟨candidates, rfl⟩
  | cons service services ih =>
    rw [flatMap_cons] at concrete
    obtain ⟨grown, first⟩ := appendAddresses_of_concrete (allowed service (mem_cons_self ..))
      (fun destination member => concrete destination (mem_append_left _ member))
      candidates
    have later := ih (fun other member => allowed other (mem_cons_of_mem _ member))
      (fun destination member => concrete destination (mem_append_right _ member))
    rw [appendServices, first]
    show ∃ result, (if grown.length = maxResolvedCandidates then Except.ok grown
      else appendServices request records services grown) = .ok result
    split_ifs
    · exact ⟨grown, rfl⟩
    · exact later grown

theorem appendDefaults_eq_ok
    {protocols : List Protocol}
    (appended : appendDefaults request records protocols candidates = .ok result) :
    result = (protocols.flatMap fun protocol =>
        destinationsOf request records request.domain protocol (defaultPort protocol)).foldl
          (keepNew maxResolvedCandidates) candidates ∧
      ∀ destination ∈ result, destination ∈ candidates ∨ destination.Concrete := by
  induction protocols generalizing candidates with
  | nil =>
    cases appended
    exact ⟨rfl, fun _ => .inl⟩
  | cons protocol protocols ih =>
    obtain ⟨grown, first, appended⟩ := bind_eq_ok.mp appended
    obtain ⟨rfl, sound⟩ := appendAddresses_eq_ok first
    rw [flatMap_cons, foldl_append]
    obtain ⟨kept, later⟩ := ih appended
    refine ⟨kept, ?_⟩
    intro destination member
    rcases later destination member with before | valid
    · exact sound destination before
    · exact .inr valid

theorem appendDefaults_of_concrete
    {protocols : List Protocol}
    (allowed : ∀ protocol ∈ protocols, protocolAllowed request protocol = true)
    (concrete : ∀ destination ∈ protocols.flatMap fun protocol =>
        destinationsOf request records request.domain protocol (defaultPort protocol),
      destination.Concrete)
    (candidates : List Destination) :
    ∃ result, appendDefaults request records protocols candidates = .ok result := by
  induction protocols generalizing candidates with
  | nil => exact ⟨candidates, rfl⟩
  | cons protocol protocols ih =>
    rw [flatMap_cons] at concrete
    obtain ⟨grown, first⟩ := appendAddresses_of_concrete
      (allowed protocol (mem_cons_self ..))
      (fun destination member => concrete destination (mem_append_left _ member))
      candidates
    rw [appendDefaults, first]
    exact ih (fun other member => allowed other (mem_cons_of_mem _ member))
      (fun destination member => concrete destination (mem_append_right _ member))
      grown

/-- The protocols tried without services are those that the request permits. -/
theorem allowed_of_default (tried : protocol ∈ defaultProtocols request) :
    protocolAllowed request protocol = true := by
  rw [defaultProtocols] at tried
  rw [protocolAllowed]
  cases chosen : request.explicitProtocol with
  | some explicit =>
    rw [chosen] at tried
    obtain rfl := mem_singleton.mp tried
    split_ifs with required
    · exact beq_iff_eq.mpr (request.guarded required protocol chosen)
    · exact beq_self_eq_true protocol
  | none =>
    rw [chosen] at tried
    dsimp only at tried ⊢
    split_ifs at tried ⊢ with required
    · exact beq_iff_eq.mpr (mem_singleton.mp tried)
    · rfl

theorem allowed_portProtocol : protocolAllowed request (portProtocol request) = true := by
  rw [portProtocol, protocolAllowed]
  cases chosen : request.explicitProtocol with
  | some explicit =>
    split_ifs with required
    · exact beq_iff_eq.mpr (request.guarded required explicit chosen)
    · exact beq_self_eq_true explicit
  | none =>
    split_ifs with required
    · rfl
    · rfl

/-- The candidates are the first distinct offers, and all are concrete. -/
theorem collectCandidates_eq_ok
    (collected : collectCandidates request records = .ok candidates) :
    candidates = (offers request records).eraseDups.take maxResolvedCandidates ∧
      ∀ destination ∈ candidates, destination.Concrete := by
  have fromNothing {values : List Destination}
      (outcome : candidates = values.foldl (keepNew maxResolvedCandidates) [] ∧
        ∀ destination ∈ candidates, destination ∈ [] ∨ destination.Concrete) :
      candidates = values.eraseDups.take maxResolvedCandidates ∧
        ∀ destination ∈ candidates, destination.Concrete := by
    refine ⟨outcome.1.trans (foldl_keepNew maxResolvedCandidates [] values), ?_⟩
    intro destination member
    exact (outcome.2 destination member).resolve_left not_mem_nil
  rw [collectCandidates] at collected
  cases port : request.explicitPort with
  | some explicit =>
    rw [port] at collected
    rw [offers_of_port port]
    exact fromNothing (appendAddresses_eq_ok collected)
  | none =>
    rw [port] at collected
    obtain ⟨found, appended, collected⟩ := bind_eq_ok.mp collected
    by_cases unknown : records.services = []
    · have nothing : allowedServices request records = [] := by
        rw [allowedServices, unknown, filter_nil]
      rw [nothing] at appended
      cases appended
      rw [unknown] at collected
      rw [offers_of_unknown port unknown]
      exact fromNothing (appendDefaults_eq_ok collected)
    · have known : (found.isEmpty && records.services.isEmpty) = false := by
        simp [unknown]
      rw [known] at collected
      cases collected
      rw [offers_of_known port unknown]
      exact fromNothing (appendServices_eq_ok appended)

/-- Candidates are collected wherever all offers are concrete. -/
theorem collectCandidates_of_concrete
    (concrete : ∀ destination ∈ offers request records, destination.Concrete) :
    ∃ candidates, collectCandidates request records = .ok candidates := by
  rw [collectCandidates]
  cases port : request.explicitPort with
  | some explicit =>
    rw [offers_of_port port] at concrete
    exact appendAddresses_of_concrete allowed_portProtocol concrete []
  | none =>
    by_cases unknown : records.services = []
    · have nothing : allowedServices request records = [] := by
        rw [allowedServices, unknown, filter_nil]
      rw [offers_of_unknown port unknown] at concrete
      rw [nothing, unknown]
      exact appendDefaults_of_concrete (fun _ => allowed_of_default) concrete []
    · rw [offers_of_known port unknown] at concrete
      have allowed : ∀ service ∈ orderServices (allowedServices request records) request.entropy,
            protocolAllowed request service.protocol = true := by
        intro service member
        have kept := (orderServices_spec _ _).1.mem_iff.mp member
        exact (mem_filter.mp kept).2
      obtain ⟨found, appended⟩ := appendServices_of_concrete allowed concrete []
      refine ⟨found, bind_eq_ok.mpr ⟨found, appended, ?_⟩⟩
      have known : (found.isEmpty && records.services.isEmpty) = false := by
        simp [unknown]
      rw [known]
      rfl

theorem build_eq_ok
    {plan : ResolutionPlan} :
    ResolutionPlan.build request records = .ok plan ↔ (records.services.length ≤ maxServiceRecords ∧
          records.addresses.length ≤ maxAddressRecords) ∧
        collectCandidates request records = .ok plan.candidates ∧ plan.candidates ≠ [] ∧
          plan.next = 0 := by
  rw [ResolutionPlan.build]
  split_ifs with services addresses
  · exact iff_of_false nofun fun both => absurd both.1.1 (Nat.not_le_of_lt services)
  · exact iff_of_false nofun fun both => absurd both.1.2 (Nat.not_le_of_lt addresses)
  · rw [and_iff_right ⟨Nat.le_of_not_lt services, Nat.le_of_not_lt addresses⟩, bind_eq_ok]
    constructor
    · rintro ⟨candidates, collected, returned⟩
      split_ifs at returned with empty
      cases returned
      exact ⟨collected, by simpa using empty, rfl⟩
    · rintro ⟨collected, nonempty, start⟩
      refine ⟨plan.candidates, collected, ?_⟩
      rw [if_neg (by simpa using nonempty), ← start]
      rfl

end

/-- The least key of the permitted services that offer a destination. -/
def orderOf (request : ResolutionRequest) (records : ResolverRecords)
    (destination : Destination) : WithTop (ℕ ×ₗ ℕ ×ₗ ℕ ×ₗ ℕ) :=
  firstKey ServiceRecord.key (served request records) (allowedServices request records) destination

/-- There are no more distinct offers than candidates are retained. -/
def Fits (request : ResolutionRequest) (records : ResolverRecords) : Prop :=
  {destination | Offered request records destination}.encard ≤ maxResolvedCandidates

/-- What the candidates of a plan are. -/
structure Planned (request : ResolutionRequest) (records : ResolverRecords)
    (candidates : List Destination) : Prop where
  distinct : candidates.Nodup
  bounded : candidates.length ≤ maxResolvedCandidates
  offered : ∀ destination ∈ candidates, Offered request records destination
  complete : Fits request records →
    ∀ destination, Offered request records destination → destination ∈ candidates
  ordered : request.explicitPort = none → candidates.Pairwise fun first second =>
    orderOf request records first ≤ orderOf request records second
  leftOut : ∀ destination, Offered request records destination → destination ∉ candidates →
    candidates.length = maxResolvedCandidates ∧ (request.explicitPort = none → ∀ kept ∈ candidates,
        orderOf request records kept ≤ orderOf request records destination)
  secure : request.secure = true → ∀ destination ∈ candidates,
    destination.protocol = .tls ∧ destination.tlsIdentity = some (.dns request.domain)

/-- How the candidates of another entropy compare. -/
structure Redrawn (request : ResolutionRequest) (records : ResolverRecords)
    (candidates other : List Destination) : Prop where
  sameOrder : candidates.map (orderOf request records) = other.map (orderOf request records)
  permuted : Fits request records → candidates.Perm other

section

variable {candidates : List Destination}

theorem secure_of_offered
    (required : request.secure = true) {destination : Destination}
    (offered : Offered request records destination) :
    destination.protocol = .tls ∧ destination.tlsIdentity = some (.dns request.domain) := by
  have permitted {protocol : Protocol} (allowed : protocolAllowed request protocol = true)
      {target : String} {port : UInt16}
      (found : destination ∈ destinationsOf request records target protocol port) :
      destination.protocol = .tls ∧ destination.tlsIdentity = some (.dns request.domain) := by
    rw [protocolAllowed, if_pos required, beq_iff_eq] at allowed
    subst allowed
    obtain ⟨record, -, rfl⟩ := mem_map.mp found
    exact ⟨rfl, rfl⟩
  cases offered with
  | onPort port explicit _ found => exact permitted allowed_portProtocol found
  | byService unspecified service known allowed _ found => exact permitted allowed found
  | byDefault unspecified unknown protocol tried _ found =>
    exact permitted (allowed_of_default tried) found

/-- Without an explicit port, the distinct offers stand in the order of their services. -/
theorem pairwise_offers (unspecified : request.explicitPort = none) :
    (offers request records).eraseDups.Pairwise fun first second =>
      orderOf request records first ≤ orderOf request records second := by
  by_cases unknown : records.services = []
  · have nothing : allowedServices request records = [] := by
      rw [allowedServices, unknown, filter_nil]
    have last (destination : Destination) : orderOf request records destination = ⊤ := by
      rw [orderOf, nothing]
      rfl
    apply pairwise_of_forall
    intro first second
    rw [last first, last second]
  · obtain ⟨perm, sorted⟩ := orderServices_spec (allowedServices request records) request.entropy
    rw [offers_of_known unspecified unknown]
    apply (pairwise_firstKey sorted).imp
    intro first second below
    rwa [firstKey_perm perm, firstKey_perm perm] at below

theorem fits_iff :
    Fits request records ↔ (offers request records).eraseDups.length ≤ maxResolvedCandidates := by
  have same : {destination | Offered request records destination} =
      ((offers request records).eraseDups.toFinset : Set Destination) := by
    ext destination
    simp [mem_offers]
  rw [Fits, same, Set.encard_coe_eq_coe_finsetCard, toFinset_card_of_nodup (nodup_eraseDups _)]
  exact Nat.cast_le

theorem planned_of_collected
    (collected : collectCandidates request records = .ok candidates) :
    Planned request records candidates := by
  obtain ⟨rfl, -⟩ := collectCandidates_eq_ok collected
  have members {destination : Destination} : destination ∈ (offers request records).eraseDups ↔
        Offered request records destination := mem_eraseDups.trans mem_offers
  have offered : ∀ destination ∈ (offers request records).eraseDups.take maxResolvedCandidates,
        Offered request records destination :=
    fun destination member => members.mp (mem_of_mem_take member)
  exact {
    distinct := (nodup_eraseDups _).sublist (take_sublist _ _)
    bounded := length_take_le _ _
    offered := offered
    complete := by
      intro fits destination found
      rw [take_of_length_le (fits_iff.mp fits)]
      exact members.mpr found
    ordered := fun unspecified =>
      (pairwise_offers unspecified).sublist (take_sublist _ _)
    leftOut := by
      intro destination found absent
      have dropped : destination ∈
          (offers request records).eraseDups.drop maxResolvedCandidates := by
        have either := members.mpr found
        rw [← take_append_drop maxResolvedCandidates (offers request records).eraseDups] at either
        exact (mem_append.mp either).resolve_left absent
      refine ⟨?_, ?_⟩
      · apply length_take_of_le
        have nonempty := length_pos_of_mem dropped
        rw [length_drop] at nonempty
        omega
      · intro unspecified kept member
        have ordered := @pairwise_offers request records unspecified
        rw [← take_append_drop maxResolvedCandidates (offers request records).eraseDups] at ordered
        exact (pairwise_append.mp ordered).2.2 kept member destination dropped
    secure := fun required destination member =>
      secure_of_offered required (offered destination member) }

/-- The same request with another entropy. -/
def ResolutionRequest.redraw (request : ResolutionRequest) (entropy : UInt64) : ResolutionRequest :=
  { request with entropy := entropy }

theorem offers_redraw (entropy : UInt64) :
    (offers request records).Perm (offers (request.redraw entropy) records) ∧
      (offers request records).eraseDups.map (orderOf request records) =
        (offers (request.redraw entropy) records).eraseDups.map (orderOf request records) := by
  cases port : request.explicitPort with
  | some explicit =>
    have same : offers (request.redraw entropy) records = offers request records := by
      rw [offers_of_port port, @offers_of_port (request.redraw entropy) _ port]
      rfl
    rw [same]
    exact ⟨.refl _, rfl⟩
  | none =>
    by_cases unknown : records.services = []
    · have same : offers (request.redraw entropy) records = offers request records := by
        rw [offers_of_unknown port unknown,
          @offers_of_unknown (request.redraw entropy) _ port unknown]
        rfl
      rw [same]
      exact ⟨.refl _, rfl⟩
    · obtain ⟨first, firstSorted⟩ :=
        orderServices_spec (allowedServices request records) request.entropy
      obtain ⟨second, secondSorted⟩ :=
        orderServices_spec (allowedServices request records) entropy
      have perm := first.trans second.symm
      rw [offers_of_known port unknown, @offers_of_known (request.redraw entropy) _ port unknown]
      refine ⟨perm.flatMap_right _, ?_⟩
      have same := @map_firstKey_perm _ _ _ _ _ _ (served request records) _ _ perm
        firstSorted secondSorted
      have order : firstKey ServiceRecord.key (served request records)
          (orderServices (allowedServices request records) request.entropy) =
            orderOf request records := funext fun _ => firstKey_perm first
      rw [order] at same
      exact same

theorem redrawn_of_collected
    {entropy : UInt64} {other : List Destination}
    (collected : collectCandidates request records = .ok candidates)
    (again : collectCandidates (request.redraw entropy) records = .ok other) :
    Redrawn request records candidates other := by
  obtain ⟨rfl, -⟩ := collectCandidates_eq_ok collected
  obtain ⟨rfl, -⟩ := collectCandidates_eq_ok again
  obtain ⟨perm, order⟩ := @offers_redraw request records entropy
  have distinct := perm_eraseDups perm
  refine ⟨?_, ?_⟩
  · rw [map_take, map_take, order]
  · intro fits
    have short := fits_iff.mp fits
    rwa [take_of_length_le short, take_of_length_le (distinct.length_eq ▸ short)]

/-- Where all offers fit, every entropy yields candidates. -/
theorem collected_redraw (collected : collectCandidates request records = .ok candidates)
    (fits : Fits request records) (entropy : UInt64) :
    ∃ other, collectCandidates (request.redraw entropy) records = .ok other := by
  apply collectCandidates_of_concrete
  intro destination member
  have found := mem_offers.mp ((@offers_redraw request records entropy).1.mem_iff.mpr member)
  exact (collectCandidates_eq_ok collected).2 destination
    ((planned_of_collected collected).complete fits destination found)

end

/-- Resolution plans are sound, complete and ordered: their candidates are distinct,
bounded and offered by the records, all of them where they fit and the first ones in the
order of the services otherwise; the entropy only reorders the candidates of equal keys
where all fit, and never changes the sequence of keys; and a secure request is met by TLS
with the identity of its domain only. -/
theorem resolution_plan
    {request : ResolutionRequest} {records : ResolverRecords} {plan : ResolutionPlan}
    (built : ResolutionPlan.build request records = .ok plan) :
    Planned request records plan.candidates ∧ (∀ entropy other,
        ResolutionPlan.build (request.redraw entropy) records = .ok other →
          Redrawn request records plan.candidates other.candidates) ∧
      (Fits request records → ∀ entropy, ∃ other,
        ResolutionPlan.build (request.redraw entropy) records = .ok other) ∧
      ∀ services entropy, (weightedOrder services entropy).1.Perm services := by
  obtain ⟨sizes, collected, nonempty, start⟩ := build_eq_ok.mp built
  refine ⟨planned_of_collected collected, ?_, ?_, weightedOrder_perm⟩
  · intro entropy other again
    exact redrawn_of_collected collected (build_eq_ok.mp again).2.1
  · intro fits entropy
    obtain ⟨candidates, again⟩ := collected_redraw collected fits entropy
    have redrawn := redrawn_of_collected collected again
    refine ⟨⟨candidates, 0⟩, build_eq_ok.mpr ⟨sizes, again, ?_, rfl⟩⟩
    rintro rfl
    exact nonempty (redrawn.permuted fits).eq_nil

/-- A request to a sample domain. -/
def crowdedRequest : ResolutionRequest where
  domain := "a"
  secure := false
  explicitProtocol := none
  explicitPort := none
  entropy := 0
  normalized := rfl
  portNonzero := nofun
  guarded := nofun

/-- A service of the sample key at the first host. -/
def crowdedService : ServiceRecord where
  protocol := .udp
  naptrOrder := 0
  naptrPreference := 0
  priority := 0
  weight := 1
  port := 5060
  target := "a"
  normalized := crowdedRequest.normalized
  portNonzero := by decide

/-- The first host has as many addresses as candidates are retained, the second has one more. -/
def crowdedRecords : ResolverRecords where
  services := [crowdedService, { crowdedService with target := "b", normalized := rfl }]
  addresses :=
    (finRange maxResolvedCandidates).map (fun index =>
      ⟨"a", .v4 (BitVec.ofFin (index.succ.castLE (by decide))), crowdedRequest.normalized,
        by revert index; decide⟩) ++
      [⟨"b", .v4 33, rfl, rfl⟩]

/-- The destination at the second host. -/
def lastDestination : Destination := destinationFor crowdedRequest .udp ⟨.v4 33, 5060, 0, 0⟩

/-- Whether it is retained depends on the entropy. -/
theorem retained_by_entropy :
    (ResolutionPlan.build crowdedRequest crowdedRecords).toOption.map
        (fun plan => decide (lastDestination ∈ plan.candidates)) = some true ∧
      (ResolutionPlan.build (crowdedRequest.redraw 1) crowdedRecords).toOption.map
        (fun plan => decide (lastDestination ∈ plan.candidates)) = some false := by
  decide +kernel

theorem exists_plan_of_retained {retained : Bool}
    (found : (ResolutionPlan.build request records).toOption.map
      (fun plan => decide (lastDestination ∈ plan.candidates)) = some retained) :
    ∃ plan, ResolutionPlan.build request records = .ok plan ∧
      decide (lastDestination ∈ plan.candidates) = retained := by
  obtain ⟨plan, returned, same⟩ := Option.map_eq_some_iff.mp found
  cases built : ResolutionPlan.build request records with
  | error error =>
    rw [built] at returned
    cases returned
  | ok other =>
    rw [built] at returned
    cases returned
    exact ⟨plan, rfl, same⟩

theorem resolution_plan_crowded :
    ∃ plan, ResolutionPlan.build crowdedRequest crowdedRecords = .ok plan ∧
      Planned crowdedRequest crowdedRecords plan.candidates := by
  obtain ⟨plan, built, -⟩ := exists_plan_of_retained retained_by_entropy.1
  exact ⟨plan, built, (resolution_plan built).1⟩

/-- Where not all offers fit, the entropy can change which ones are retained. -/
theorem entropy_changes_candidates :
    ¬∀ (request : ResolutionRequest) (records : ResolverRecords) (entropy : UInt64)
        (plan other : ResolutionPlan), ResolutionPlan.build request records = .ok plan →
        ResolutionPlan.build (request.redraw entropy) records = .ok other →
          plan.candidates.Perm other.candidates := by
  intro claimed
  obtain ⟨plan, built, kept⟩ := exists_plan_of_retained retained_by_entropy.1
  obtain ⟨other, again, dropped⟩ := exists_plan_of_retained retained_by_entropy.2
  have perm := claimed crowdedRequest crowdedRecords 1 plan other built again
  have both := perm.mem_iff.mp (of_decide_eq_true kept)
  exact of_decide_eq_false dropped both

end Transport
end Sip
end LiveAISIP
