import LiveAISIP.Library.Outcome
import LiveAISIP.Library.Unwinding
import LiveAISIP.Rtp.Source
import Mathlib.Data.List.Infix

/-!
# Takeover of a source and of its endpoints

Another source or endpoint is learned only at the end of an uninterrupted row of its
packets.  What was observed is told from the calls and their replies.
-/

namespace LiveAISIP
namespace Rtp

open Outcome
open Run

variable {endpoints : SymmetricEndpoints}

/-- A call of the source tracker. -/
inductive SourceCall
  | observe (ssrc : UInt32) (sequence : UInt16)
  | authorize (ssrc : UInt32)
  | clear

/-- What such a call returns. -/
inductive SourceReply
  | observed (observation : SourceObservation)
  | authorized (changed : Bool)
  | cleared

/-- One call. -/
def sourceStep (tracker : RemoteSourceTracker) : SourceCall → RemoteSourceTracker × SourceReply
  | .observe ssrc sequence =>
    ((tracker.observe ssrc sequence).1, .observed (tracker.observe ssrc sequence).2)
  | .authorize ssrc => ((tracker.authorize ssrc).1, .authorized (tracker.authorize ssrc).2)
  | .clear => (tracker.clear, .cleared)

/-- The packets that were observed in a run. -/
def observations (calls : List SourceCall) : List (UInt32 × UInt16) := calls.filterMap fun
    | .observe ssrc sequence => some (ssrc, sequence)
    | _ => none

/-- So many packets of a source in a row, up to this number. -/
def consecutive (ssrc : UInt32) : UInt16 → Nat → List (UInt32 × UInt16)
  | _, 0 => []
  | last, count + 1 => consecutive ssrc (last - 1) count ++ [(ssrc, last)]

theorem consecutive_suffix
    (ssrc : UInt32) (last : UInt16) {fewer count : Nat} (order : fewer ≤ count) :
    consecutive ssrc last fewer <:+ consecutive ssrc last count := by
  induction fewer generalizing last count with
  | zero => exact List.nil_suffix
  | succ fewer ih =>
    cases count with
    | zero => exact absurd order (Nat.not_succ_le_zero _)
    | succ count =>
      obtain ⟨earlier, split⟩ := ih (last - 1) (Nat.le_of_succ_le_succ order)
      refine ⟨earlier, ?_⟩
      rw [consecutive, consecutive, ← split, List.append_assoc]

theorem suffix_concat {earlier items : List α} (suffix : earlier <:+ items) (item : α) :
    earlier ++ [item] <:+ items ++ [item] := by
  obtain ⟨front, split⟩ := suffix
  exact ⟨front, by rw [← split, List.append_assoc]⟩

theorem toNat_saturatingNext8 (count : UInt8) :
    (saturatingNext8 count).toNat ≤ count.toNat + 1 := by
  rw [saturatingNext8]
  split
  next full =>
    rw [full]
    decide
  next room =>
    rw [UInt8.toNat_add]
    exact Nat.mod_le _ _

theorem toNat_min_le (first second : UInt8) : (min first second).toNat ≤ first.toNat := by
  rw [show min first second = if first ≤ second then first else second from rfl]
  split
  · exact Nat.le_refl _
  next more =>
    exact Nat.le_of_lt (UInt8.lt_iff_toNat_lt.1 (UInt8.not_le.1 more))

/-- What is saved of a candidate was observed last, and a fixed source has none. -/
structure OnProbation (tracker : RemoteSourceTracker) (observed : List (UInt32 × UInt16)) :
    Prop where
  streak : ∀ candidate ∈ tracker.candidate,
    consecutive candidate.ssrc candidate.lastSequence candidate.sequential.toNat <:+ observed
  fixed : tracker.active.isSome → tracker.policy.allowProbationarySwitch = false →
    tracker.candidate = none

theorem onProbation_of_none
    {tracker : RemoteSourceTracker} (none : tracker.candidate = none)
    (observed : List (UInt32 × UInt16)) :
    OnProbation tracker observed where
  streak := by
    intro candidate found
    rw [none] at found
    cases found
  fixed := fun _ _ => none

namespace RemoteSourceTracker

variable {tracker : RemoteSourceTracker} {observed : List (UInt32 × UInt16)}

/-- The packets in a row, with this one, were observed last. -/
theorem sequential_suffix
    (probation : OnProbation tracker observed) (ssrc : UInt32) (sequence : UInt16) :
    consecutive ssrc sequence (tracker.sequential ssrc sequence).toNat <:+
      observed ++ [(ssrc, sequence)] := by
  have single : consecutive ssrc sequence 1 <:+ observed ++ [(ssrc, sequence)] :=
    suffix_concat List.nil_suffix _
  rw [sequential]
  cases waiting : tracker.candidate with
  | none => exact single
  | some candidate =>
    dsimp only
    split
    next continues =>
      obtain ⟨same, next⟩ := continues
      have streak := probation.streak candidate waiting
      have before : sequence - 1 = candidate.lastSequence := by
        rw [← next, UInt16.add_sub_cancel]
      have longer : consecutive ssrc sequence (candidate.sequential.toNat + 1) <:+
          observed ++ [(ssrc, sequence)] := by
        rw [consecutive, before, ← same]
        exact suffix_concat streak _
      refine List.IsSuffix.trans (consecutive_suffix ssrc sequence ?_) longer
      exact Nat.le_trans (toNat_min_le _ _) (toNat_saturatingNext8 candidate.sequential)
    · exact single

/-- An observation keeps what is saved of a candidate. -/
theorem onProbation_observe
    (probation : OnProbation tracker observed) (ssrc : UInt32) (sequence : UInt16) :
    OnProbation (tracker.observe ssrc sequence).1 (observed ++ [(ssrc, sequence)]) := by
  have suffix := sequential_suffix probation ssrc sequence
  rw [observe]
  split
  · exact onProbation_of_none rfl _
  · split
    next fixed =>
      exact onProbation_of_none (probation.fixed fixed.1 (Bool.eq_false_iff.2 fixed.2)) _
    next free =>
      dsimp only
      split
      · constructor
        · rintro _ ⟨⟩
          exact suffix
        · intro bound locked
          have locked : tracker.policy.allowProbationarySwitch = false := locked
          exact absurd ⟨bound, by simp [locked]⟩ free
      · exact onProbation_of_none rfl _

theorem policy_observe
    (tracker : RemoteSourceTracker) (ssrc : UInt32) (sequence : UInt16) :
    (tracker.observe ssrc sequence).1.policy = tracker.policy := by
  rw [observe]
  split
  · rfl
  · split
    · rfl
    · dsimp only
      split
      · rfl
      · rfl

/-- An observation that changes the active source ends a row of its packets. -/
theorem observe_of_changed
    (probation : OnProbation tracker observed) {ssrc : UInt32} {sequence : UInt16}
    (bound : tracker.active.isSome)
    (changed : (tracker.observe ssrc sequence).1.active ≠ tracker.active) :
    tracker.policy.allowProbationarySwitch = true ∧
      (tracker.observe ssrc sequence).1.active = some ssrc ∧
      consecutive ssrc sequence tracker.policy.probationPackets.toNat <:+
        observed ++ [(ssrc, sequence)] := by
  have suffix := sequential_suffix probation ssrc sequence
  rw [observe] at changed ⊢
  split at changed
  · exact absurd rfl changed
  next other =>
    rw [if_neg other]
    split at changed
    · exact absurd rfl changed
    next free =>
      rw [if_neg free]
      dsimp only at changed ⊢
      split at changed
      · exact absurd rfl changed
      next complete =>
        rw [if_neg complete]
        refine ⟨?_, rfl, List.IsSuffix.trans (consecutive_suffix _ _ ?_) suffix⟩
        · by_contra locked
          exact free ⟨bound, locked⟩
        · exact UInt8.le_iff_toNat_le.1 (UInt8.not_lt.1 complete)

end RemoteSourceTracker

theorem observations_concat (calls : List SourceCall) (call : SourceCall) :
    observations (calls ++ [call]) = observations calls ++ observations [call] :=
  List.filterMap_append

/-- Every run keeps its policy and what is saved of a candidate. -/
theorem onProbation_run
    (expectedSsrc : Option UInt32) (policy : SourcePolicy) (calls : List SourceCall) :
    (after sourceStep (.new expectedSsrc policy) calls).policy = policy ∧
      OnProbation (after sourceStep (.new expectedSsrc policy) calls) (observations calls) := by
  induction calls using List.reverseRecOn with
  | nil => exact ⟨rfl, onProbation_of_none rfl _⟩
  | append_singleton earlier call ih =>
    obtain ⟨kept, probation⟩ := ih
    rw [after_append, after_cons, after_nil]
    rw [observations_concat]
    cases call with
    | observe ssrc sequence =>
      exact ⟨(RemoteSourceTracker.policy_observe _ _ _).trans kept,
        RemoteSourceTracker.onProbation_observe probation ssrc sequence⟩
    | authorize ssrc =>
      refine ⟨?_, onProbation_of_none ?_ _⟩
      · simp only [sourceStep, RemoteSourceTracker.authorize]
        split
        · exact kept
        · exact kept
      · simp only [sourceStep, RemoteSourceTracker.authorize]
        split
        · rfl
        · rfl
    | clear => exact ⟨kept, onProbation_of_none rfl _⟩

/-- A call of the endpoints. -/
inductive EndpointCall
  | observe (component : Component) (source : SocketAddress)
  | resetComponent (component : Component) (advertised : SocketAddress)
  | reset (mediaDestination controlDestination : SocketAddress)

/-- What such a call returns. -/
inductive EndpointReply
  | observed (observation : SymmetricObservation)
  | reset
  | failed (error : SymmetricError)

/-- One call.  A failed call returns no endpoints, and the old ones stay. -/
def endpointStep (endpoints : SymmetricEndpoints) :
    EndpointCall → SymmetricEndpoints × EndpointReply
  | .observe component source =>
    match endpoints.observeValidatedSource component source with
    | .ok (next, observation) => (next, .observed observation)
    | .error error => (endpoints, .failed error)
  | .resetComponent component advertised =>
    match endpoints.resetComponent component advertised with
    | .ok next => (next, .reset)
    | .error error => (endpoints, .failed error)
  | .reset mediaDestination controlDestination =>
    match endpoints.reset mediaDestination controlDestination with
    | .ok next => (next, .reset)
    | .error error => (endpoints, .failed error)

/-- The call is about the component. -/
def concerns (component : Component) : EndpointCall → Bool
  | .observe observed _ => observed == component
  | .resetComponent reset _ => reset == component
  | .reset .. => true

/-- The source was forbidden. -/
def SymmetricObservation.isRejected : SymmetricObservation → Bool
  | .rejected _ => true
  | _ => false

/-- The sources that count for a component, with one call more: those observed and not
rejected since its last reset. -/
def countSource (component : Component) (sources : List SocketAddress) :
    EndpointCall × EndpointReply → List SocketAddress
  | (.observe observed source, .observed observation) =>
    if observed = component ∧ observation.isRejected = false then sources ++ [source]
    else sources
  | (.resetComponent reset _, .reset) => if reset = component then [] else sources
  | (.reset _ _, .reset) => []
  | _ => sources

/-- The sources that count for a component after a history. -/
def countedSources (component : Component) (history : List (EndpointCall × EndpointReply)) :
    List SocketAddress :=
  history.foldl (countSource component) []

/-- A reset of the component that was done. -/
def resets (component : Component) : EndpointCall × EndpointReply → Bool
  | (.resetComponent reset _, .reset) => reset == component
  | (.reset _ _, .reset) => true
  | _ => false

namespace EndpointState

variable {state : EndpointState}

/-- Packets in a row that move the destination. -/
def required (state : EndpointState) (config : SymmetricConfig) : UInt8 :=
  if state.learned.isSome then config.portRebindPackets else config.initialLatchPackets

/-- Packets of a source in a row, with one more. -/
def row (state : EndpointState) (source : SocketAddress) (required : UInt8) : UInt8 :=
  match state.candidate with
  | some candidate =>
    if candidate.source = source then min (saturatingNext8 candidate.consecutive) required
    else 1
  | none => 1

/-- What is saved of a candidate was observed last. -/
def OnProbation (state : EndpointState) (counted : List SocketAddress) : Prop :=
  ∀ candidate ∈ state.candidate,
    List.replicate candidate.consecutive.toNat candidate.source <:+ counted

theorem onProbation_of_none (none : state.candidate = none) (counted : List SocketAddress) :
    state.OnProbation counted := by
  intro candidate found
  rw [none] at found
  cases found

theorem replicate_suffix (item : α) {fewer count : Nat} (order : fewer ≤ count) :
    List.replicate fewer item <:+ List.replicate count item := by
  refine ⟨List.replicate (count - fewer) item, ?_⟩
  rw [List.replicate_append_replicate, Nat.sub_add_cancel order]

/-- The packets in a row, with this one, were observed last. -/
theorem row_suffix {counted : List SocketAddress}
    (probation : state.OnProbation counted) (source : SocketAddress) (required : UInt8) :
    List.replicate (state.row source required).toNat source <:+ counted ++ [source] := by
  have single : List.replicate 1 source <:+ counted ++ [source] := suffix_concat List.nil_suffix _
  rw [row]
  cases waiting : state.candidate with
  | none => exact single
  | some candidate =>
    dsimp only
    split
    next same =>
      have longer : List.replicate (candidate.consecutive.toNat + 1) source <:+
          counted ++ [source] := by
        rw [List.replicate_succ', ← same]
        exact suffix_concat (probation candidate waiting) _
      refine List.IsSuffix.trans ?_ longer
      exact replicate_suffix _
        (Nat.le_trans (toNat_min_le _ _) (toNat_saturatingNext8 candidate.consecutive))
    · exact single

/-- A source on probation has the address of the endpoint that was learned. -/
theorem of_probation {source : SocketAddress} {config : SymmetricConfig}
    {required : UInt8} {completed : SymmetricObservation}
    (allowed : state.probation source config = .ok (required, completed)) :
    required = state.required config ∧ completed.isRejected = false ∧
      ∀ current ∈ state.learned, source.address = current.address := by
  rw [EndpointState.required]
  rw [probation] at allowed
  cases learned : state.learned with
  | none =>
    rw [learned] at allowed
    cases allowed
    exact ⟨rfl, rfl, fun current found => by cases found⟩
  | some current =>
    rw [learned] at allowed
    dsimp only at allowed
    split at allowed
    · cases allowed
    next address =>
      split at allowed
      · cases allowed
      · cases allowed
        refine ⟨rfl, rfl, ?_⟩
        rintro _ ⟨⟩
        exact Decidable.not_not.1 address

theorem observe_of_probation {source : SocketAddress} {config : SymmetricConfig}
    {required : UInt8} {completed : SymmetricObservation} (other : source ≠ state.destination)
    (allowed : state.probation source config = .ok (required, completed)) :
    state.observe source config =
      if state.row source required < required then
        ({ state with candidate := some ⟨source, state.row source required⟩ },
          .candidate (state.row source required) required)
      else ({ state with learned := some source, candidate := none }, completed) := by
  rw [observe, if_neg other, allowed]
  rfl

/-- What one observation does to an endpoint. -/
theorem observe_cases
    (state : EndpointState) (source : SocketAddress) (config : SymmetricConfig) :
    ((state.observe source config).1 = { state with candidate := none } ∧
        (state.observe source config).2.isRejected = false) ∨
      ((state.observe source config).1 = state ∧
        (state.observe source config).2.isRejected = true) ∨
      ((state.observe source config).1 =
          { state with
            candidate := some ⟨source, state.row source (state.required config)⟩ } ∧
        (state.observe source config).2.isRejected = false) ∨
      ((state.observe source config).1 = { state with learned := some source, candidate := none } ∧
        (state.observe source config).2.isRejected = false ∧
        (∀ current ∈ state.learned, source.address = current.address) ∧
        state.required config ≤ state.row source (state.required config)) := by
  by_cases other : source ≠ state.destination
  · right
    cases allowed : state.probation source config with
    | error reason =>
      left
      rw [observe, if_neg other, allowed]
      exact ⟨rfl, rfl⟩
    | ok probation =>
      right
      obtain ⟨needed, completed⟩ := probation
      obtain ⟨rfl, accepted, address⟩ := of_probation allowed
      rw [observe_of_probation other allowed]
      by_cases waiting : state.row source (state.required config) < state.required config
      · rw [if_pos waiting]
        exact .inl ⟨rfl, rfl⟩
      · rw [if_neg waiting]
        exact .inr ⟨rfl, accepted, address, UInt8.not_lt.1 waiting⟩
  · left
    rw [observe, if_pos (Decidable.not_not.1 other)]
    refine ⟨rfl, ?_⟩
    dsimp only
    split
    · rfl
    · rfl

end EndpointState

namespace SymmetricEndpoints

variable {endpoints next : SymmetricEndpoints}

theorem state_withState
    (endpoints : SymmetricEndpoints) (changed component : Component) (state : EndpointState) :
    (endpoints.withState changed state).state component =
      if changed = component then state else endpoints.state component := by
  cases changed with
  | rtp | rtcp =>
    cases component with
    | rtp => rfl
    | rtcp => rfl

theorem config_withState
    (endpoints : SymmetricEndpoints) (changed : Component) (state : EndpointState) :
    (endpoints.withState changed state).config = endpoints.config := by
  cases changed with
  | rtp => rfl
  | rtcp => rfl

theorem observeValidatedSource_eq_ok {component : Component} {source : SocketAddress}
    {observation : SymmetricObservation}
    (observed : endpoints.observeValidatedSource component source = .ok (next, observation)) :
    next = endpoints.withState component
        ((endpoints.state component).observe source endpoints.config).1 ∧
      observation = ((endpoints.state component).observe source endpoints.config).2 := by
  obtain ⟨_, -, observed⟩ := bind_eq_ok.mp observed
  dsimp only at observed
  split at observed
  · cases observed
  · cases observed
    exact ⟨rfl, rfl⟩

theorem resetComponent_eq_ok {component : Component} {advertised : SocketAddress}
    (done : endpoints.resetComponent component advertised = .ok next) :
    next = endpoints.withState component (.new advertised) ∧ advertised.address.isIpv4 =
        (endpoints.state (otherComponent component)).advertised.address.isIpv4 := by
  obtain ⟨_, -, done⟩ := bind_eq_ok.mp done
  dsimp only at done
  split at done
  · cases done
  next family =>
    cases done
    exact ⟨rfl, Decidable.not_not.1 family⟩

theorem new_eq_ok
    {mediaDestination controlDestination : SocketAddress} {config : SymmetricConfig}
    (created : new mediaDestination controlDestination config = .ok endpoints) :
    endpoints = ⟨config, .new mediaDestination, .new controlDestination⟩ ∧
      mediaDestination.address.isIpv4 = controlDestination.address.isIpv4 := by
  obtain ⟨_, -, created⟩ := bind_eq_ok.mp created
  obtain ⟨_, -, created⟩ := bind_eq_ok.mp created
  split at created
  · cases created
  next family =>
    cases created
    exact ⟨rfl, Decidable.not_not.1 family⟩

theorem reset_eq_ok {mediaDestination controlDestination : SocketAddress}
    (done : endpoints.reset mediaDestination controlDestination = .ok next) :
    next = ⟨endpoints.config, .new mediaDestination, .new controlDestination⟩ ∧
      mediaDestination.address.isIpv4 = controlDestination.address.isIpv4 := by
  obtain ⟨replacement, created, done⟩ := bind_eq_ok.mp done
  obtain ⟨rfl, family⟩ := new_eq_ok created
  cases done
  exact ⟨rfl, family⟩

/-- Both components were advertised with addresses of one family. -/
def OneFamily (endpoints : SymmetricEndpoints) : Prop :=
  endpoints.rtp.advertised.address.isIpv4 = endpoints.rtcp.advertised.address.isIpv4

theorem OneFamily.other (family : endpoints.OneFamily) (component : Component) :
    (endpoints.state (otherComponent component)).advertised.address.isIpv4 =
      (endpoints.state component).advertised.address.isIpv4 := by
  cases component with
  | rtp => exact family.symm
  | rtcp => exact family

end SymmetricEndpoints

namespace EndpointState

theorem advertised_observe
    (state : EndpointState) (source : SocketAddress) (config : SymmetricConfig) :
    (state.observe source config).1.advertised = state.advertised := by
  rcases state.observe_cases source config with
    ⟨after, -⟩ | ⟨after, -⟩ | ⟨after, -⟩ | ⟨after, -⟩
  · rw [after]
  · rw [after]
  · rw [after]
  · rw [after]

end EndpointState

/-- What a call does to a component. -/
inductive ComponentStep (component : Component) (config : SymmetricConfig)
    (before after : EndpointState) (call : EndpointCall) (reply : EndpointReply) : Prop
  | untouched
      (same : after = before)
      (uncounted : ∀ sources, countSource component sources (call, reply) = sources)
      (unset : resets component (call, reply) = false)
  | observed (source : SocketAddress)
      (called : call = .observe component source)
      (changed : after = (before.observe source config).1)
      (replied : reply = .observed (before.observe source config).2)
  | reset (advertised : SocketAddress)
      (concerned : concerns component call = true)
      (renewed : after = .new advertised)
      (uncounted : ∀ sources, countSource component sources (call, reply) = [])
      (set : resets component (call, reply) = true)

theorem endpointStep_observe
    (endpoints : SymmetricEndpoints) (component : Component) (source : SocketAddress) :
    endpointStep endpoints (.observe component source) =
      match endpoints.observeValidatedSource component source with
      | .ok (next, observation) => (next, .observed observation)
      | .error error => (endpoints, .failed error) := rfl

theorem endpointStep_resetComponent
    (endpoints : SymmetricEndpoints) (component : Component) (advertised : SocketAddress) :
    endpointStep endpoints (.resetComponent component advertised) =
      match endpoints.resetComponent component advertised with
      | .ok next => (next, .reset)
      | .error error => (endpoints, .failed error) := rfl

theorem endpointStep_reset
    (endpoints : SymmetricEndpoints) (mediaDestination controlDestination : SocketAddress) :
    endpointStep endpoints (.reset mediaDestination controlDestination) =
      match endpoints.reset mediaDestination controlDestination with
      | .ok next => (next, .reset)
      | .error error => (endpoints, .failed error) := rfl

/-- What a call can do to the endpoints. -/
inductive EndpointEffect (endpoints : SymmetricEndpoints) :
    EndpointCall → SymmetricEndpoints × EndpointReply → Prop
  | failed (call : EndpointCall) (error : SymmetricError) :
      EndpointEffect endpoints call (endpoints, .failed error)
  | observed (component : Component) (source : SocketAddress) :
      EndpointEffect endpoints (.observe component source)
        (endpoints.withState component
          ((endpoints.state component).observe source endpoints.config).1,
          .observed ((endpoints.state component).observe source endpoints.config).2)
  | replaced (component : Component) (advertised : SocketAddress)
      (family : advertised.address.isIpv4 =
        (endpoints.state (SymmetricEndpoints.otherComponent component)).advertised.address.isIpv4) :
      EndpointEffect endpoints (.resetComponent component advertised)
        (endpoints.withState component (.new advertised), .reset)
  | renewed (mediaDestination controlDestination : SocketAddress)
      (family : mediaDestination.address.isIpv4 = controlDestination.address.isIpv4) :
      EndpointEffect endpoints (.reset mediaDestination controlDestination)
        (⟨endpoints.config, .new mediaDestination, .new controlDestination⟩, .reset)

theorem endpointStep_effect (endpoints : SymmetricEndpoints) (call : EndpointCall) :
    EndpointEffect endpoints call (endpointStep endpoints call) := by
  cases call with
  | observe component source =>
    rw [endpointStep_observe]
    cases outcome : endpoints.observeValidatedSource component source with
    | error error => exact .failed _ error
    | ok result =>
      obtain ⟨next, observation⟩ := result
      obtain ⟨rfl, rfl⟩ := SymmetricEndpoints.observeValidatedSource_eq_ok outcome
      exact .observed component source
  | resetComponent component advertised =>
    rw [endpointStep_resetComponent]
    cases outcome : endpoints.resetComponent component advertised with
    | error error => exact .failed _ error
    | ok next =>
      obtain ⟨rfl, family⟩ := SymmetricEndpoints.resetComponent_eq_ok outcome
      exact .replaced component advertised family
  | reset mediaDestination controlDestination =>
    rw [endpointStep_reset]
    cases outcome : endpoints.reset mediaDestination controlDestination with
    | error error => exact .failed _ error
    | ok next =>
      obtain ⟨rfl, family⟩ := SymmetricEndpoints.reset_eq_ok outcome
      exact .renewed mediaDestination controlDestination family

theorem endpointStep_component
    (endpoints : SymmetricEndpoints) (component : Component) (call : EndpointCall) :
    ComponentStep component endpoints.config (endpoints.state component)
      ((endpointStep endpoints call).1.state component) call
      (endpointStep endpoints call).2 := by
  have effect := endpointStep_effect endpoints call
  generalize endpointStep endpoints call = result at effect ⊢
  cases effect with
  | failed _ error =>
    refine .untouched rfl ?_ ?_
    · cases call with
      | observe => exact fun _ => rfl
      | resetComponent => exact fun _ => rfl
      | reset => exact fun _ => rfl
    · cases call with
      | observe => rfl
      | resetComponent => rfl
      | reset => rfl
  | observed observed source =>
    dsimp only
    rw [SymmetricEndpoints.state_withState]
    by_cases same : observed = component
    · subst same
      rw [if_pos rfl]
      exact .observed source rfl rfl rfl
    · rw [if_neg same]
      exact .untouched rfl (fun _ => if_neg fun both => same both.1) rfl
  | replaced reset advertised _ =>
    dsimp only
    rw [SymmetricEndpoints.state_withState]
    by_cases same : reset = component
    · rw [if_pos same]
      exact .reset advertised (beq_iff_eq.2 same) rfl (fun _ => if_pos same) (beq_iff_eq.2 same)
    · rw [if_neg same]
      exact .untouched rfl (fun _ => if_neg same) (beq_eq_false_iff_ne.2 same)
  | renewed mediaDestination controlDestination _ =>
    cases component with
    | rtp => exact .reset mediaDestination rfl rfl (fun _ => rfl) rfl
    | rtcp => exact .reset controlDestination rfl rfl (fun _ => rfl) rfl

theorem config_endpointStep (endpoints : SymmetricEndpoints) (call : EndpointCall) :
    (endpointStep endpoints call).1.config = endpoints.config := by
  have effect := endpointStep_effect endpoints call
  generalize endpointStep endpoints call = result at effect ⊢
  cases effect with
  | failed _ error => rfl
  | observed component source => exact SymmetricEndpoints.config_withState _ _ _
  | replaced component advertised _ => exact SymmetricEndpoints.config_withState _ _ _
  | renewed mediaDestination controlDestination _ => rfl

/-- Every call keeps the families alike. -/
theorem oneFamily_endpointStep (family : endpoints.OneFamily) (call : EndpointCall) :
    (endpointStep endpoints call).1.OneFamily := by
  have effect := endpointStep_effect endpoints call
  generalize endpointStep endpoints call = result at effect ⊢
  cases effect with
  | failed _ error => exact family
  | observed component source =>
    have kept := congrArg (fun advertised : SocketAddress => advertised.address.isIpv4)
      ((endpoints.state component).advertised_observe source endpoints.config)
    cases component with
    | rtp => exact kept.trans family
    | rtcp => exact family.trans kept.symm
  | replaced component advertised matched =>
    cases component with
    | rtp => exact matched
    | rtcp => exact matched.symm
  | renewed mediaDestination controlDestination matched => exact matched

/-- A failed call changes nothing. -/
theorem endpointStep_of_failed {call : EndpointCall} {error : SymmetricError}
    (failed : (endpointStep endpoints call).2 = .failed error) :
    (endpointStep endpoints call).1 = endpoints := by
  have effect := endpointStep_effect endpoints call
  generalize endpointStep endpoints call = result at effect failed ⊢
  cases effect with
  | failed _ error => rfl
  | observed component source => cases failed
  | replaced component advertised _ => cases failed
  | renewed mediaDestination controlDestination _ => cases failed

theorem state_observe
    (endpoints : SymmetricEndpoints) (component : Component) (source : SocketAddress) :
    (endpointStep endpoints (.observe component source)).1.state component =
      match validateEndpoint source component with
      | .error _ => endpoints.state component
      | .ok _ =>
        if source.address.isIpv4 ≠
            (endpoints.state component).advertised.address.isIpv4 then
          endpoints.state component
        else ((endpoints.state component).observe source endpoints.config).1 := by
  rw [endpointStep_observe, SymmetricEndpoints.observeValidatedSource]
  cases validateEndpoint source component with
  | error error => rfl
  | ok _ =>
    rw [ok_bind]
    by_cases mismatch : source.address.isIpv4 ≠
        (endpoints.state component).advertised.address.isIpv4
    · simp only [if_pos mismatch]
    · simp only [if_neg mismatch]
      exact (SymmetricEndpoints.state_withState _ _ _ _).trans (if_pos rfl)

theorem state_resetComponent (family : endpoints.OneFamily) (component : Component)
    (advertised : SocketAddress) :
    (endpointStep endpoints (.resetComponent component advertised)).1.state component =
      match validateEndpoint advertised component with
      | .error _ => endpoints.state component
      | .ok _ =>
        if advertised.address.isIpv4 ≠
            (endpoints.state component).advertised.address.isIpv4 then
          endpoints.state component
        else .new advertised := by
  rw [endpointStep_resetComponent, SymmetricEndpoints.resetComponent]
  cases validateEndpoint advertised component with
  | error error => rfl
  | ok _ =>
    rw [ok_bind]
    dsimp only
    rw [family.other component]
    by_cases mismatch : advertised.address.isIpv4 ≠
        (endpoints.state component).advertised.address.isIpv4
    · simp only [if_pos mismatch]
    · simp only [if_neg mismatch]
      exact (SymmetricEndpoints.state_withState _ _ _ _).trans (if_pos rfl)

theorem state_reset
    (endpoints : SymmetricEndpoints) (component : Component)
    (mediaDestination controlDestination : SocketAddress) :
    (endpointStep endpoints (.reset mediaDestination controlDestination)).1.state component =
      match SymmetricEndpoints.new mediaDestination controlDestination endpoints.config with
      | .error _ => endpoints.state component
      | .ok replacement => replacement.state component := by
  rw [endpointStep_reset, SymmetricEndpoints.reset]
  cases SymmetricEndpoints.new mediaDestination controlDestination endpoints.config with
  | error error => rfl
  | ok replacement =>
    cases component with
    | rtp => rfl
    | rtcp => rfl

/-- Calls about the other component leave a component as it is. -/
theorem state_of_unconcerned
    {component : Component} {call : EndpointCall} (other : concerns component call = false)
    (endpoints : SymmetricEndpoints) :
    (endpointStep endpoints call).1.state component = endpoints.state component := by
  cases endpointStep_component endpoints component call with
  | untouched same uncounted unset => exact same
  | observed source called changed replied =>
    rw [called] at other
    simp [concerns] at other
  | reset advertised concerned renewed uncounted set =>
    rw [other] at concerned
    cases concerned

theorem unwinds_component (component : Component) :
    Unwinds endpointStep SymmetricEndpoints.OneFamily (concerns component)
      fun endpoints => (endpoints.config, endpoints.state component) where
  keeps := fun endpoints call family => oneFamily_endpointStep family call
  respects := by
    intro endpoints call family other
    rw [config_endpointStep, state_of_unconcerned other]
  consistent := by
    intro first second call family otherFamily same
    have config : first.config = second.config := congrArg Prod.fst same
    have state : first.state component = second.state component := congrArg Prod.snd same
    rw [config_endpointStep, config_endpointStep, config]
    refine congrArg (Prod.mk _) ?_
    cases concerned : concerns component call with
    | false => rw [state_of_unconcerned concerned, state_of_unconcerned concerned, state]
    | true =>
      cases call with
      | observe observed source =>
        obtain rfl : observed = component := beq_iff_eq.1 concerned
        rw [state_observe, state_observe, state, config]
      | resetComponent reset advertised =>
        obtain rfl : reset = component := beq_iff_eq.1 concerned
        rw [state_resetComponent family, state_resetComponent otherFamily, state]
      | reset mediaDestination controlDestination =>
        rw [state_reset, state_reset, state, config]

/-- The component has what was counted since its last reset. -/
theorem countedSources_concat
    (component : Component) (history : List (EndpointCall × EndpointReply))
    (last : EndpointCall × EndpointReply) :
    countedSources component (history ++ [last]) =
      countSource component (countedSources component history) last := by
  rw [countedSources, countedSources, List.foldl_append]
  rfl

section

variable {mediaDestination controlDestination : SocketAddress} {config : SymmetricConfig}
  {start : SymmetricEndpoints}
  (created : SymmetricEndpoints.new mediaDestination controlDestination config = .ok start)

include created

theorem config_run (calls : List EndpointCall) :
    (after endpointStep start calls).config = config := by
  have initial : start.config = config := by
    rw [(SymmetricEndpoints.new_eq_ok created).1]
  exact invariant (fun endpoints : SymmetricEndpoints => endpoints.config = config) initial
    (fun endpoints call kept => (config_endpointStep endpoints call).trans kept) calls

/-- The candidate of a component was observed last. -/
theorem endpoint_onProbation (component : Component) (calls : List EndpointCall) :
    ((Run.after endpointStep start calls).state component).OnProbation
      (countedSources component (history endpointStep start calls)) := by
  induction calls using List.reverseRecOn with
  | nil =>
    rw [(SymmetricEndpoints.new_eq_ok created).1]
    cases component with
    | rtp => exact EndpointState.onProbation_of_none rfl _
    | rtcp => exact EndpointState.onProbation_of_none rfl _
  | append_singleton earlier call ih =>
    rw [history_concat, countedSources_concat, after_append, after_cons, after_nil]
    have happened := endpointStep_component (Run.after endpointStep start earlier) component call
    have reply : output endpointStep start earlier call =
        (endpointStep (Run.after endpointStep start earlier) call).2 := rfl
    rw [reply]
    cases happened with
    | untouched same uncounted unset =>
      rw [same, uncounted]
      exact ih
    | observed source called changed replied =>
      rw [changed, replied, called, countSource]
      have suffix := EndpointState.row_suffix ih source
        (((Run.after endpointStep start earlier).state component).required
          (Run.after endpointStep start earlier).config)
      rcases ((Run.after endpointStep start earlier).state component).observe_cases source
          (Run.after endpointStep start earlier).config with
        ⟨after, -⟩ | ⟨after, rejected⟩ | ⟨after, counted⟩ | ⟨after, -⟩
      · rw [after]
        exact EndpointState.onProbation_of_none rfl _
      · rw [after, if_neg (by simp [rejected])]
        exact ih
      · rw [after, if_pos ⟨rfl, counted⟩]
        rintro _ ⟨⟩
        exact suffix
      · rw [after]
        exact EndpointState.onProbation_of_none rfl _
    | reset advertised concerned renewed uncounted set =>
      rw [renewed]
      exact EndpointState.onProbation_of_none rfl _

/-- A destination moves by a reset, or at the end of a row of packets from the new one. -/
theorem destination_moved
    (component : Component) (earlier : List EndpointCall) (call : EndpointCall)
    (moved : ((Run.after endpointStep start (earlier ++ [call])).state component).destination ≠
      ((Run.after endpointStep start earlier).state component).destination) :
    resets component (call, output endpointStep start earlier call) = true ∨
      (call = .observe component
          ((Run.after endpointStep start (earlier ++ [call])).state component).destination ∧
        List.replicate
            (((Run.after endpointStep start earlier).state component).required config).toNat
            ((Run.after endpointStep start (earlier ++ [call])).state component).destination <:+
          countedSources component (history endpointStep start (earlier ++ [call]))) := by
  have probation := endpoint_onProbation created component earlier
  have settings := config_run created earlier
  have happened := endpointStep_component (Run.after endpointStep start earlier) component call
  have reply : output endpointStep start earlier call =
      (endpointStep (Run.after endpointStep start earlier) call).2 := rfl
  rw [history_concat, countedSources_concat, reply]
  rw [after_append, after_cons, after_nil] at moved ⊢
  cases happened with
  | untouched same uncounted unset => exact absurd (by rw [same]) moved
  | observed source called changed replied =>
    right
    rw [settings] at changed replied
    rw [changed] at moved ⊢
    rw [replied, called, countSource]
    rcases ((Run.after endpointStep start earlier).state component).observe_cases source
        config with
      ⟨after, -⟩ | ⟨after, -⟩ | ⟨after, -⟩ | ⟨after, counted, -, complete⟩
    · exact absurd (by rw [after]; rfl) moved
    · exact absurd (by rw [after]) moved
    · exact absurd (by rw [after]; rfl) moved
    · rw [after, if_pos ⟨rfl, counted⟩]
      refine ⟨rfl, List.IsSuffix.trans (EndpointState.replicate_suffix source ?_)
        (EndpointState.row_suffix probation source
          (((Run.after endpointStep start earlier).state component).required config))⟩
      exact UInt8.le_iff_toNat_le.1 complete
  | reset advertised concerned renewed uncounted set => exact .inl set

end

/-- The address that was learned stays until a reset. -/
theorem learned_address
    {start : SymmetricEndpoints}
    (component : Component)
    (earlier : List EndpointCall)
    {current : SocketAddress}
    (learned : ((Run.after endpointStep start earlier).state component).learned = some current)
    (later : List EndpointCall)
    (unset : ∀ entry ∈ history endpointStep (Run.after endpointStep start earlier) later,
      resets component entry = false) :
    ∃ next, ((Run.after endpointStep start (earlier ++ later)).state component).learned =
        some next ∧ next.address = current.address := by
  induction later using List.reverseRecOn with
  | nil => exact ⟨current, by rw [List.append_nil, learned], rfl⟩
  | append_singleton later call ih =>
    rw [history_concat] at unset
    obtain ⟨previous, known, address⟩ := ih fun entry found =>
      unset entry (List.mem_append_left _ found)
    have last := unset _ (List.mem_append_right _ List.mem_cons_self)
    rw [output, ← after_append] at last
    rw [← List.append_assoc, after_append, after_cons, after_nil]
    cases endpointStep_component (Run.after endpointStep start (earlier ++ later)) component
        call with
    | untouched same uncounted unset => exact ⟨previous, by rw [same, known], address⟩
    | observed source called changed replied =>
      rw [changed]
      rcases ((Run.after endpointStep start
          (earlier ++ later)).state component).observe_cases source
          (Run.after endpointStep start (earlier ++ later)).config with
        ⟨after, -⟩ | ⟨after, -⟩ | ⟨after, -⟩ | ⟨after, -, same, -⟩
      · exact ⟨previous, by rw [after, known], address⟩
      · exact ⟨previous, by rw [after, known], address⟩
      · exact ⟨previous, by rw [after, known], address⟩
      · exact ⟨source, by rw [after], (same previous known).trans address⟩
    | reset advertised concerned renewed uncounted set =>
      rw [last] at set
      cases set

/-- Endpoints move only after probation, apart from each other and on success. -/
structure Guarded (config : SymmetricConfig) (start : SymmetricEndpoints) : Prop where
  moved : ∀ component earlier call,
    ((after endpointStep start (earlier ++ [call])).state component).destination ≠
        ((after endpointStep start earlier).state component).destination →
    resets component (call, output endpointStep start earlier call) = true ∨
      (call = .observe component
          ((after endpointStep start (earlier ++ [call])).state component).destination ∧
        List.replicate
            (((after endpointStep start earlier).state component).required config).toNat
            ((after endpointStep start (earlier ++ [call])).state component).destination <:+
          countedSources component (history endpointStep start (earlier ++ [call])))
  independent : ∀ component calls, (after endpointStep start calls).state component =
      (after endpointStep start (calls.filter (concerns component))).state component
  address : ∀ component earlier later current,
    ((after endpointStep start earlier).state component).learned = some current →
    (∀ entry ∈ history endpointStep (after endpointStep start earlier) later,
      resets component entry = false) →
    ∃ next, ((after endpointStep start (earlier ++ later)).state component).learned =
      some next ∧ next.address = current.address
  failed : ∀ earlier call error, output endpointStep start earlier call = .failed error →
    after endpointStep start (earlier ++ [call]) = after endpointStep start earlier

/-- In every run an active source is replaced only when that is allowed and only by a
source whose packets were observed last in a row, and the endpoints are guarded. -/
theorem takeover_needs_probation :
    (∀ expectedSsrc policy calls ssrc sequence,
      (after sourceStep (.new expectedSsrc policy) calls).active.isSome →
      (after sourceStep (.new expectedSsrc policy)
          (calls ++ [.observe ssrc sequence])).active ≠
        (after sourceStep (.new expectedSsrc policy) calls).active →
      policy.allowProbationarySwitch = true ∧ (after sourceStep (.new expectedSsrc policy)
          (calls ++ [.observe ssrc sequence])).active = some ssrc ∧
        consecutive ssrc sequence policy.probationPackets.toNat <:+
          observations (calls ++ [.observe ssrc sequence])) ∧
      ∀ mediaDestination controlDestination config start,
        SymmetricEndpoints.new mediaDestination controlDestination config = .ok start →
        Guarded config start := by
  constructor
  · intro expectedSsrc policy calls ssrc sequence bound changed
    obtain ⟨kept, probation⟩ := onProbation_run expectedSsrc policy calls
    rw [after_append, after_cons, after_nil] at changed ⊢
    rw [observations_concat]
    have replaced := RemoteSourceTracker.observe_of_changed probation bound changed
    rw [kept] at replaced
    exact replaced
  · intro mediaDestination controlDestination config start created
    refine ⟨destination_moved created, ?_, ?_, ?_⟩
    · intro component calls
      have family : start.OneFamily := by
        obtain ⟨rfl, matched⟩ := SymmetricEndpoints.new_eq_ok created
        exact matched
      exact congrArg Prod.snd ((unwinds_component component).view_after family family rfl calls)
    · intro component earlier later current learned unset
      exact learned_address component earlier learned later unset
    · intro earlier call error failed
      rw [after_append, after_cons, after_nil]
      exact endpointStep_of_failed failed

/-- Two packets of another source take over, and two endpoints are guarded. -/
theorem takeover_needs_probation_switch :
    (after sourceStep (.new (some 7) ⟨2, true, SourcePolicy.default.probationPackets_ne⟩)
        [.observe 9 11, .observe 9 12]).active = some 9 ∧
      Guarded .default
        ⟨.default, .new ⟨.v4 0x0a000001, 4000, 0, 0⟩, .new ⟨.v4 0x0a000001, 4001, 0, 0⟩⟩ :=
  ⟨(takeover_needs_probation.1 (some 7)
      ⟨2, true, SourcePolicy.default.probationPackets_ne⟩ [.observe 9 11] 9 12 (by decide)
      (by decide)).2.1,
    takeover_needs_probation.2 ⟨.v4 0x0a000001, 4000, 0, 0⟩ ⟨.v4 0x0a000001, 4001, 0, 0⟩ .default _
      (by rfl)⟩

end Rtp
end LiveAISIP
