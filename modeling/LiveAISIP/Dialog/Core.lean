import LiveAISIP.Library.Outcome
import LiveAISIP.Library.Run
import LiveAISIP.Sip.Types

/-!
# Dialog state

One SIP dialog of `sip/dialog/dialog.rs`, with its lifecycle, identity and
route set from `state.rs`, `id.rs` and `route.rs`.  A dialog owns the numbers
of its local requests and the number of the last accepted remote request.
-/

namespace LiveAISIP
namespace Dialog

open Sip

/-- Largest valid `CSeq` sequence number. -/
def maxCseqSequence : Nat := 2147483647

/-- The lifecycle state of a dialog. -/
inductive DialogState
  | early
  | confirmed
  | terminated
  deriving DecidableEq

/-- A dialog identity oriented to this user agent. -/
structure DialogId where
  callId : String
  localTag : Tag
  remoteTag : Tag
  deriving DecidableEq

/-- Maximum number of route URIs retained by one dialog. -/
def maxDialogRoutes : Nat := 64

/-- An immutable route set in local outbound order. -/
structure RouteSet where
  routes : List Uri
  bounded : routes.length ≤ maxDialogRoutes

/-- The wire-routing inputs for one outbound in-dialog request. -/
structure RoutingPlan where
  requestUri : Uri
  routes : List Uri

/-- ASCII lower case of a character. -/
def asciiLower (char : Char) : Char :=
  if 'A' ≤ char ∧ char ≤ 'Z' then Char.ofNat (char.toNat + 32) else char

/-- The URI has an `lr` parameter. -/
def hasLr : Uri → Bool
  | .sip uri => uri.parameters.any fun parameter =>
    parameter.name.toList.map asciiLower = ['l', 'r']
  | .absolute _ => false

namespace RouteSet

/-- The route set of a locally initiated dialog, from the wire order of the
`Record-Route` values. -/
def forUac (routes : List Uri) : Option RouteSet :=
  if bounded : routes.length ≤ maxDialogRoutes then some ⟨routes.reverse, by simpa using bounded⟩
  else none

/-- The Request-URI and `Route` values of an in-dialog request: a strict first
router takes the place of the remote target, which moves to the end. -/
def plan (routeSet : RouteSet) (remoteTarget : Uri) : RoutingPlan :=
  match routeSet.routes with
  | [] => ⟨remoteTarget, []⟩
  | first :: rest =>
    if hasLr first then ⟨remoteTarget, first :: rest⟩
    else ⟨first, rest ++ [remoteTarget]⟩

end RouteSet

/-- A rejected dialog lifecycle operation. -/
inductive DialogStateError
  | terminated

/-- Ownership side of a dialog sequence number. -/
inductive DialogSequenceRole
  | localSide
  | remoteSide

/-- A rejected dialog operation. -/
inductive DialogError
  | state (error : DialogStateError)
  | sequenceTooLarge
      (role : DialogSequenceRole) (sequence : UInt32) (maximum : Nat)
  | localSequenceExhausted
  | nonIncrementingMethod (method : Method)
  | remoteSequenceOutOfOrder (received : UInt32) (current : Option UInt32)

end Dialog

/-- Complete protocol state for one SIP dialog. -/
structure Dialog where
  id : Dialog.DialogId
  state : Dialog.DialogState
  routeSet : Dialog.RouteSet
  remoteTarget : Sip.Uri
  localSequence : UInt32
  remoteSequence : Option UInt32

namespace Dialog

open Sip

variable {dialog : Dialog}

/-- An initial sequence number may not exceed the SIP maximum. -/
def validateSequence
    (sequence : UInt32) (role : DialogSequenceRole) : Except DialogError Unit :=
  if maxCseqSequence < sequence.toNat then .error (.sequenceTooLarge role sequence maxCseqSequence)
  else .ok ()

/-- Verify that the dialog can process an in-dialog operation. -/
def DialogState.ensureActive : DialogState → Except DialogError Unit
  | .terminated => .error (.state .terminated)
  | _ => .ok ()

/-- Create a dialog with validated, role-oriented state. -/
def new
    (id : DialogId) (state : DialogState) (routeSet : RouteSet)
    (remoteTarget : Uri) (localSequence : UInt32)
    (remoteSequence : Option UInt32) : Except DialogError Dialog := do
  validateSequence localSequence .localSide
  match remoteSequence with
  | none => pure ()
  | some sequence => validateSequence sequence .remoteSide
  return ⟨id, state, routeSet, remoteTarget, localSequence, remoteSequence⟩

/-- A created dialog has the given fields. -/
theorem new_eq_ok
    {id : DialogId} {state : DialogState} {routeSet : RouteSet}
    {remoteTarget : Uri} {localSequence : UInt32} {remoteSequence : Option UInt32}
    (created : new id state routeSet remoteTarget localSequence remoteSequence = .ok dialog) :
    dialog = ⟨id, state, routeSet, remoteTarget, localSequence, remoteSequence⟩ := by
  unfold new at created
  obtain ⟨_, -, created⟩ := Outcome.bind_eq_ok.mp created
  cases remoteSequence with
  | none =>
    cases created
    rfl
  | some sequence =>
    obtain ⟨_, -, created⟩ := Outcome.bind_eq_ok.mp created
    cases created
    rfl

/-- The methods that reuse the sequence number of another request. -/
def reusesSequence : Method → Bool
  | .ack => true
  | .cancel => true
  | _ => false

/-- Allocate the next local `CSeq` for a newly generated request. -/
def nextLocalCseq
    (dialog : Dialog) (method : Method) : Dialog × Except DialogError CSeq :=
  match dialog.state.ensureActive with
  | .error error => (dialog, .error error)
  | .ok () =>
    if reusesSequence method then
      (dialog, .error (.nonIncrementingMethod method))
    -- The bound also covers the overflow that the source checks before it.
    else if maxCseqSequence < dialog.localSequence.toNat + 1 then
      (dialog, .error .localSequenceExhausted)
    else
      ({ dialog with localSequence := dialog.localSequence + 1 },
        .ok ⟨dialog.localSequence + 1, method⟩)

/-- Validate and record the `CSeq` of an incoming in-dialog request. -/
def acceptRemoteCseq
    (dialog : Dialog) (cseq : CSeq) : Dialog × Except DialogError Unit :=
  let received := cseq.sequence
  let outOfOrder := DialogError.remoteSequenceOutOfOrder received dialog.remoteSequence
  match dialog.state.ensureActive with
  | .error error => (dialog, .error error)
  | .ok () =>
    if reusesSequence cseq.method then
      if dialog.remoteSequence = some received then (dialog, .ok ())
      else (dialog, .error outOfOrder)
    else if dialog.remoteSequence.any fun current => received ≤ current then
      (dialog, .error outOfOrder)
    else
      ({ dialog with remoteSequence := some received }, .ok ())

/-- Produce the routing plan for the next outbound in-dialog request. -/
def routingPlan (dialog : Dialog) : Except DialogError RoutingPlan := do
  dialog.state.ensureActive
  return dialog.routeSet.plan dialog.remoteTarget

/-- Replace the remote target after a target refresh. -/
def updateRemoteTarget
    (dialog : Dialog) (remoteTarget : Uri) : Dialog × Except DialogError Unit :=
  match dialog.state.ensureActive with
  | .error error => (dialog, .error error)
  | .ok () => ({ dialog with remoteTarget := remoteTarget }, .ok ())

/-- Confirm an early dialog; repeated confirmation is harmless. -/
def confirm (dialog : Dialog) : Dialog × Except DialogError Unit :=
  match dialog.state with
  | .early => ({ dialog with state := .confirmed }, .ok ())
  | .confirmed => (dialog, .ok ())
  | .terminated => (dialog, .error (.state .terminated))

/-- An active dialog can process in-dialog requests. -/
def Active (dialog : Dialog) : Prop := dialog.state ≠ .terminated

instance (dialog : Dialog) : Decidable dialog.Active := inferInstanceAs (Decidable (_ ≠ _))

@[simp] theorem Active.ensureActive (active : dialog.Active) :
    dialog.state.ensureActive = .ok () := by
  unfold Active at active
  cases state : dialog.state with
  | early => rfl
  | confirmed => rfl
  | terminated => exact absurd state active

/-- A new request of this method takes the next local number. -/
def CanNumber (dialog : Dialog) (method : Method) : Prop :=
  reusesSequence method = false ∧ dialog.localSequence.toNat + 1 ≤ maxCseqSequence

instance (dialog : Dialog) (method : Method) : Decidable (dialog.CanNumber method) :=
  inferInstanceAs (Decidable (_ ∧ _))

/-- Allocating a number adds one to it, or leaves the dialog as it is. -/
theorem nextLocalCseq_cases (active : dialog.Active) (method : Method) :
    (dialog.CanNumber method ∧ (dialog.nextLocalCseq method).1 =
        { dialog with localSequence := dialog.localSequence + 1 } ∧
      (dialog.localSequence + 1).toNat = dialog.localSequence.toNat + 1) ∨
    (¬dialog.CanNumber method ∧ (dialog.nextLocalCseq method).1 = dialog) := by
  simp only [nextLocalCseq, active.ensureActive]
  split_ifs with reuses exhausted
  · exact .inr ⟨fun can => by simp [can.1] at reuses, rfl⟩
  · exact .inr ⟨fun can => absurd can.2 (Nat.not_le_of_lt exhausted), rfl⟩
  · have within := Nat.le_of_not_lt exhausted
    refine .inl ⟨⟨by simpa using reuses, within⟩, rfl, ?_⟩
    rw [UInt32.toNat_add]
    apply Nat.mod_eq_of_lt
    exact Nat.lt_of_le_of_lt within (by decide)

/-- A dialog stays active under another remote number. -/
theorem Active.advance (active : dialog.Active) (number : Option UInt32) :
    Active { dialog with remoteSequence := number } := active

/-- What a remote request does to an active dialog: it is accepted under a
higher number, it is accepted under the current number, or it is rejected. -/
theorem acceptRemoteCseq_cases (active : dialog.Active) (cseq : CSeq) :
    (reusesSequence cseq.method = false ∧
      (∀ current ∈ dialog.remoteSequence, current < cseq.sequence) ∧
      dialog.acceptRemoteCseq cseq =
        ({ dialog with remoteSequence := some cseq.sequence }, .ok ())) ∨
    (reusesSequence cseq.method = true ∧ dialog.remoteSequence = some cseq.sequence ∧
      dialog.acceptRemoteCseq cseq = (dialog, .ok ())) ∨
    (∃ error, dialog.acceptRemoteCseq cseq = (dialog, .error error)) := by
  simp only [acceptRemoteCseq, active.ensureActive]
  by_cases reuses : reusesSequence cseq.method = true
  · rw [if_pos reuses]
    by_cases current : dialog.remoteSequence = some cseq.sequence
    · rw [if_pos current]
      exact .inr (.inl ⟨reuses, current, rfl⟩)
    · rw [if_neg current]
      exact .inr (.inr ⟨_, rfl⟩)
  · rw [if_neg reuses]
    split_ifs with stale
    · exact .inr (.inr ⟨_, rfl⟩)
    · refine .inl ⟨by simpa using reuses, ?_, rfl⟩
      intro current isCurrent
      rw [Option.mem_def] at isCurrent
      simpa [isCurrent] using stale

/-- The dialog after a run of remote requests. -/
def afterRemote (dialog : Dialog) (requests : List CSeq) : Dialog :=
  Run.after acceptRemoteCseq dialog requests

/-- The number under which a request is accepted, unless it reuses the number
of another request. -/
def newNumber (dialog : Dialog) (cseq : CSeq) : Option UInt32 :=
  if (dialog.acceptRemoteCseq cseq).2.isOk = true ∧ reusesSequence cseq.method = false then
    some cseq.sequence
  else
    none

/-- The numbers of the accepted requests of a run that do not reuse the number
of another request, in order. -/
def acceptedNumbers (dialog : Dialog) : List CSeq → List UInt32
  | [] => []
  | cseq :: rest =>
    (dialog.newNumber cseq).toList ++ (dialog.acceptRemoteCseq cseq).1.acceptedNumbers rest

/-- A remote request either advances the number of the dialog or leaves the
dialog as it is. -/
theorem newNumber_cases (active : dialog.Active) (cseq : CSeq) :
    (dialog.newNumber cseq = some cseq.sequence ∧
      (∀ current ∈ dialog.remoteSequence, current < cseq.sequence) ∧
      (dialog.acceptRemoteCseq cseq).1 = { dialog with remoteSequence := some cseq.sequence }) ∨
    (dialog.newNumber cseq = none ∧ (dialog.acceptRemoteCseq cseq).1 = dialog) := by
  rcases acceptRemoteCseq_cases active cseq with
    ⟨fresh, above, accepted⟩ | ⟨reuses, -, accepted⟩ | ⟨error, rejected⟩
  · left
    simpa [newNumber, accepted, fresh, Except.isOk, Except.toBool] using above
  · right
    simp [newNumber, accepted, reuses]
  · right
    simp [newNumber, rejected, Except.isOk, Except.toBool]

/-- A run of remote requests keeps the dialog active. -/
theorem Active.afterRemote (active : dialog.Active) (requests : List CSeq) :
    (dialog.afterRemote requests).Active := by
  refine Run.invariant Active active (fun current cseq currentActive => ?_) requests
  rcases newNumber_cases currentActive cseq with ⟨-, -, advanced⟩ | ⟨-, kept⟩
  · rw [advanced]
    exact currentActive
  · rw [kept]
    exact currentActive

/-- Every number of a run exceeds the number before the run. -/
theorem lt_of_mem_acceptedNumbers
    (active : dialog.Active)
    {requests : List CSeq}
    {number current : UInt32}
    (accepted : number ∈ dialog.acceptedNumbers requests)
    (isCurrent : dialog.remoteSequence = some current) :
    current < number := by
  induction requests generalizing dialog current with
  | nil => simp [acceptedNumbers] at accepted
  | cons cseq rest ih =>
    rw [acceptedNumbers] at accepted
    rcases newNumber_cases active cseq with ⟨new, above, advanced⟩ | ⟨old, kept⟩
    · rw [new, advanced, Option.toList_some, List.singleton_append, List.mem_cons] at accepted
      have higher := above current isCurrent
      rcases accepted with rfl | later
      · exact higher
      · exact UInt32.lt_trans higher (ih (active.advance _) later rfl)
    · rw [old, kept, Option.toList_none, List.nil_append] at accepted
      exact ih active accepted isCurrent

/-- The numbers of a run strictly increase. -/
theorem pairwise_acceptedNumbers (active : dialog.Active) (requests : List CSeq) :
    (dialog.acceptedNumbers requests).Pairwise (· < ·) := by
  induction requests generalizing dialog with
  | nil => exact .nil
  | cons cseq rest ih =>
    rw [acceptedNumbers]
    rcases newNumber_cases active cseq with ⟨new, -, advanced⟩ | ⟨old, kept⟩
    · rw [new, advanced, Option.toList_some, List.singleton_append]
      refine .cons (fun number later => ?_) (ih (active.advance _))
      exact lt_of_mem_acceptedNumbers (active.advance _) later rfl
    · rw [old, kept, Option.toList_none, List.nil_append]
      exact ih active

/-- The current number after a run is its last number, if it has one. -/
theorem remoteSequence_afterRemote (active : dialog.Active) (requests : List CSeq) :
    (dialog.afterRemote requests).remoteSequence =
      (dialog.acceptedNumbers requests).getLast?.or dialog.remoteSequence := by
  induction requests generalizing dialog with
  | nil => simp [afterRemote, acceptedNumbers]
  | cons cseq rest ih =>
    rw [acceptedNumbers, afterRemote, Run.after_cons, ← afterRemote]
    rcases newNumber_cases active cseq with ⟨new, -, advanced⟩ | ⟨old, kept⟩
    · rw [new, advanced, ih (active.advance _),
        Option.toList_some, List.singleton_append, List.getLast?_cons]
      cases (acceptedNumbers _ rest).getLast? <;> rfl
    · rw [old, kept, ih active, Option.toList_none, List.nil_append]

/-- The last of increasing numbers is the largest. -/
theorem le_of_getLast?
    {numbers : List UInt32} (increasing : numbers.Pairwise (· < ·))
    {number last : UInt32} (member : number ∈ numbers) (isLast : numbers.getLast? = some last) :
    number ≤ last := by
  obtain ⟨front, rfl⟩ := List.getLast?_eq_some_iff.mp isLast
  rcases List.mem_append.mp member with earlier | same
  · exact UInt32.le_of_lt ((List.pairwise_append.mp increasing).2.2 number earlier last (by simp))
  · exact UInt32.le_of_eq (by simpa using same)

/-- An active dialog accepts an ACK exactly under its current number. -/
theorem accepts_ack_iff (active : dialog.Active) (number : UInt32) :
    (dialog.acceptRemoteCseq ⟨number, .ack⟩).2.isOk = true ↔
      dialog.remoteSequence = some number := by
  simp only [acceptRemoteCseq, active.ensureActive, reusesSequence, ↓reduceIte]
  split_ifs with current <;> simp [current, Except.isOk, Except.toBool]

/-- In every run of remote requests of an active dialog, the accepted numbers
of requests other than ACK and CANCEL strictly increase from the initial
number and the current number is the largest of them, a rejected request
changes nothing, and an ACK is accepted exactly under the current number: the
ACK of an accepted request no longer is once a higher number was accepted. -/
theorem remote_numbers_increase
    {dialog : Dialog} (active : dialog.Active) (requests : List CSeq) :
    (dialog.acceptedNumbers requests).Pairwise (· < ·) ∧
      (∀ number ∈ dialog.acceptedNumbers requests,
        ∀ initial ∈ dialog.remoteSequence, initial < number) ∧
      (dialog.afterRemote requests).remoteSequence =
        (dialog.acceptedNumbers requests).getLast?.or dialog.remoteSequence ∧
      (∀ number ∈ dialog.acceptedNumbers requests,
        ∃ current, (dialog.afterRemote requests).remoteSequence = some current ∧ number ≤ current) ∧
      (∀ cseq, ((dialog.afterRemote requests).acceptRemoteCseq cseq).2.isOk = false →
        ((dialog.afterRemote requests).acceptRemoteCseq cseq).1 = dialog.afterRemote requests) ∧
      (∀ number, ((dialog.afterRemote requests).acceptRemoteCseq ⟨number, .ack⟩).2.isOk = true ↔
          (dialog.afterRemote requests).remoteSequence = some number) ∧
      (∀ number ∈ dialog.acceptedNumbers requests,
        ((dialog.afterRemote requests).acceptRemoteCseq ⟨number, .ack⟩).2.isOk = true ↔
          ∀ other ∈ dialog.acceptedNumbers requests, other ≤ number) := by
  have increasing := pairwise_acceptedNumbers active requests
  have current := remoteSequence_afterRemote active requests
  have stillActive := active.afterRemote requests
  have largest (number : UInt32)
      (accepted : number ∈ dialog.acceptedNumbers requests) :
      ∃ last, (dialog.acceptedNumbers requests).getLast? = some last ∧
        (dialog.afterRemote requests).remoteSequence = some last := by
    cases isLast : (dialog.acceptedNumbers requests).getLast? with
    | none =>
      rw [List.getLast?_eq_none_iff] at isLast
      simp [isLast] at accepted
    | some last => exact ⟨last, rfl, by rw [current, isLast]; rfl⟩
  refine ⟨increasing, ?_, current, ?_, ?_, accepts_ack_iff stillActive, ?_⟩
  · intro number accepted initial isInitial
    exact lt_of_mem_acceptedNumbers active accepted isInitial
  · intro number accepted
    obtain ⟨last, isLast, isCurrent⟩ := largest number accepted
    exact ⟨last, isCurrent, le_of_getLast? increasing accepted isLast⟩
  · intro cseq rejected
    rcases acceptRemoteCseq_cases stillActive cseq with
      ⟨-, -, accepted⟩ | ⟨-, -, accepted⟩ | ⟨error, refused⟩
    · simp [accepted, Except.isOk, Except.toBool] at rejected
    · rw [accepted]
    · rw [refused]
  · intro number accepted
    obtain ⟨last, isLast, isCurrent⟩ := largest number accepted
    have lastAccepted := List.mem_of_getLast? isLast
    rw [accepts_ack_iff stillActive, isCurrent, Option.some.injEq]
    constructor
    · rintro rfl other otherAccepted
      exact le_of_getLast? increasing otherAccepted isLast
    · intro above
      exact UInt32.le_antisymm (above last lastAccepted) (le_of_getLast? increasing accepted isLast)

/-- A confirmed dialog that has accepted no remote request. -/
def sampleDialog : Dialog where
  id := ⟨"one@example.com", tagA, tagB⟩
  state := .confirmed
  routeSet := ⟨[], by decide⟩
  remoteTarget := .absolute ⟨"tel", "1"⟩
  localSequence := 1
  remoteSequence := none

/-- An INVITE followed by an UPDATE of a higher number. -/
def inviteThenUpdate : List CSeq := [⟨1, .invite⟩, ⟨2, .update⟩]

theorem remote_numbers_increase_inviteThenUpdate :
    (sampleDialog.acceptedNumbers inviteThenUpdate).Pairwise (· < ·) :=
  (remote_numbers_increase (show sampleDialog.Active by decide) inviteThenUpdate).1

/-- The ACK of the INVITE is rejected once the UPDATE was accepted. -/
theorem ack_rejected_after_update :
    sampleDialog.acceptedNumbers inviteThenUpdate = [1, 2] ∧
      ¬((sampleDialog.afterRemote inviteThenUpdate).acceptRemoteCseq ⟨1, .ack⟩).2.isOk = true := by
  decide +kernel

end Dialog
end LiveAISIP
