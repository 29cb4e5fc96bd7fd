import LiveAISIP.Call.LateChallenge

/-!
# Responses that fail a poll

A poll propagates each failure of routing a response, of answering a challenge and
of recording a dialog.  So it isolates a response exactly where none of these
steps fails on what the response holds.  The failures of the socket, the
allocator, the clock, the random source and a full registry are no matter of the
response.
-/

namespace LiveAISIP

open Sip Outcome
open Effect List

namespace Transaction

/-- The registry is fenced or full, or cannot store. -/
def ManagerError.IsRefusal : ManagerError → Prop
  | .shuttingDown | .capacity _ | .duplicate | .generationExhausted | .completion _
  | .timeOverflow | .allocationFailed => True
  | _ => False

namespace TransactionManager

/-- The response is isolated: it is routed, and every other transaction is left
alone. -/
structure Isolates
    (manager : TransactionManager) (response : ValidatedResponse) (now : Duration) : Prop where
  routed : ∃ route, (manager.routeResponseAt response now).2 = .ok route
  others : manager.SameBut response (manager.routeResponseAt response now).1

/-- A completion fails only where it cannot be retained. -/
theorem refusal_of_completeAt
    {manager : TransactionManager} {token : Token} {now : Duration} {allocated : Bool}
    {error : ManagerError} (failed : (manager.completeAt token now allocated).2 = .error error) :
    error.IsRefusal := by
  unfold completeAt at failed
  split at failed
  · cases failed
  · split at failed
    · cases failed
    · split at failed
      · cases failed
      · simp only at failed
        split at failed
        · split at failed
          · cases failed
            trivial
          · split at failed <;> cases failed
            trivial
        · cases failed

/-- An unstarted transaction is refused only by the registry. -/
theorem refusal_of_startClient
    {manager : TransactionManager} {transaction : ClientTransaction} {allocated : Bool}
    {error : ManagerError} (idle : transaction.started = false)
    (failed : (manager.startClient transaction allocated).2 = .error error) :
    error.IsRefusal := by
  simp only [startClient, admission, token, ClientTransaction.start, idle] at failed
  split at failed
  · rename_i refused
    split_ifs at refused <;> cases refused <;> cases failed <;> trivial
  · split_ifs at failed <;> cases failed <;> trivial

/-- A started transaction is sent first. -/
theorem actions_startClient
    {manager : TransactionManager} {transaction : ClientTransaction} {allocated : Bool}
    {routed : RoutedActions Action} (idle : transaction.started = false)
    (started : (manager.startClient transaction allocated).2 = .ok routed) :
    routed.actions = [.send transaction.request,
        .schedule .requestTimeout transaction.requestTimeout] ++
      match transaction.nextRetransmit with
      | some delay => [.schedule .retransmit delay]
      | none => [] := by
  simp only [startClient, admission, token, ClientTransaction.start, idle] at started
  split at started
  · cases started
  · split_ifs at started
    cases started
    rfl

end TransactionManager
end Transaction

namespace Call

open Transaction
open Dialog (DialogId RouteSet maxCseqSequence maxDialogRoutes)

/-- A failure of the socket, the allocator, the clock, the timers or the registry. -/
def SignalingError.IsRefusal : SignalingError → Prop
  | .driver | .allocationFailed | .timerCapacity | .timeOverflow | .deadlines _ => True
  | .transactions error => error.IsRefusal
  | .dialogs error => error = .allocationFailed
  | _ => False

namespace CallSignaling

variable {call : CallSignaling δ} {grants : Nat → Grant δ} {token : Token} {now : Duration}
  {response : ValidatedResponse}

/-- The configuration of the socket admits what is to be sent first. -/
def AdmitsFirst (call : CallSignaling δ) (grants : Nat → Grant δ) (sent : Option Bytes) : Prop :=
  ∀ bytes ∈ sent, (grants 0).transmit call.signaling.destination bytes ≠ .inadmissible

/-- Sending fails on its bytes only where the configuration does not admit them. -/
theorem hinges_send (call : CallSignaling δ) (grants : Nat → Grant δ) (bytes : Bytes) :
    Hinges SignalingError.IsRefusal (call.AdmitsFirst grants (some bytes))
      (call.send (grants 0) bytes).2 := by
  simp only [send, sendTo, AdmitsFirst, Option.mem_def, Option.some.injEq, forall_eq']
  cases (grants 0).transmit call.signaling.destination bytes with
  | sent => exact Transmission.noConfusion
  | inadmissible => exact hinges_of_not (by simp) _
  | failed => exact fun _ => trivial

/-- One action fails on its bytes only. -/
theorem hinges_executeClientAction
    (call : CallSignaling δ) (grants : Nat → Grant δ) (token : Token) (now : Duration)
    (action : Action) :
    Hinges SignalingError.IsRefusal (call.AdmitsFirst grants action.bytes)
      (call.executeClientAction (grants 0) token now action).2 := by
  have silent : call.AdmitsFirst grants none := by simp [AdmitsFirst]
  cases action with
  | send bytes | sendAck bytes => exact call.hinges_send grants bytes
  | cancel timer | deliverResponse => exact silent
  | schedule timer delay =>
    refine .of_raises silent fun error raised => ?_
    simp only [executeClientAction, armTimer] at raised
    split_ifs at raised
    · cases raised
      trivial
    · split at raised
      · cases raised
        trivial
      · split at raised <;> cases raised
        trivial
  | terminate =>
    refine .of_raises silent fun error raised => ?_
    simp only [executeClientAction, finishTransaction] at raised
    split at raised <;> cases raised
    exact TransactionManager.refusal_of_completeAt (congrArg Prod.snd ‹_›)

/-- Actions that send nothing fail on nothing. -/
theorem hinges_executeSilent
    (call : CallSignaling δ) (grants : Nat → Grant δ) (token : Token) (now : Duration)
    {actions : List Action} (silent : ∀ action ∈ actions, action.bytes = none) :
    Hinges SignalingError.IsRefusal True
      (executeAll (fun call grant => call.executeClientAction grant token now)
        grants call actions).2 := by
  induction actions generalizing call grants with
  | nil => trivial
  | cons action actions ih =>
    have first := call.hinges_executeClientAction grants token now action
    rw [silent action (by simp)] at first
    simp only [executeAll]
    rcases executed : call.executeClientAction (grants 0) token now action with
      ⟨next, error | _⟩
    · rw [executed] at first
      exact fun _ => first (by simp [AdmitsFirst])
    · exact ih next _ fun later member => silent later (mem_cons_of_mem _ member)

/-- Actions of which only the first sends fail on its bytes only. -/
theorem hinges_executeClientActions
    (call : CallSignaling δ) (grants : Nat → Grant δ) (token : Token) (now : Duration)
    {actions : List Action} (silent : ∀ action ∈ actions.tail, action.bytes = none) :
    Hinges SignalingError.IsRefusal
      (call.AdmitsFirst grants (actions.head?.bind Action.bytes))
      (call.executeClientActions grants token actions now).2 := by
  have all : Hinges SignalingError.IsRefusal
      (call.AdmitsFirst grants (actions.head?.bind Action.bytes))
      (executeAll (fun call grant => call.executeClientAction grant token now)
        grants call actions).2 := by
    cases actions with
    | nil => simp [AdmitsFirst, executeAll, Hinges]
    | cons action actions =>
      have first := call.hinges_executeClientAction grants token now action
      simp only [executeAll, head?_cons, Option.bind_some]
      rcases executed : call.executeClientAction (grants 0) token now action with
        ⟨next, error | _⟩ <;> rw [executed] at first
      · exact first
      · exact (hinges_executeSilent next _ token now silent).congr (iff_of_true trivial first)
  simp only [executeClientActions]
  split <;> simp_all [Hinges]

/-- Routing a response fails on it exactly where the registry cannot route it or
its ACK is not admitted. -/
theorem hinges_pollResponse
    (keyed : call.transactions.Keyed) (response : ValidatedResponse) (grants : Nat → Grant δ)
    (now : Duration) :
    Hinges SignalingError.IsRefusal
      (call.transactions.CanRoute response ∧
        call.AdmitsFirst grants (call.transactions.ackOf response now))
      (call.pollResponse response grants now).2 := by
  have routes := TransactionManager.canRoute_iff keyed response now
  unfold pollResponse
  rcases routed : call.transactions.routeResponseAt response now with ⟨next, error | route⟩
  · exact hinges_of_not (fun holds => by simp [routed] at routes; exact routes holds.1) _
  · have can : call.transactions.CanRoute response := routes.mpr ⟨route, congrArg Prod.snd routed⟩
    have handled := TransactionManager.handling_of_routed (congrArg Prod.snd routed)
    cases handled with
    | live token ack rest acked silent delivers =>
      have tail : ∀ action ∈ (ClientTransaction.ackActions ack ++ rest).tail,
          action.bytes = none := by
        cases ack with
        | none => exact fun action member => silent action (mem_of_mem_tail member)
        | some bytes => exact silent
      refine (hinges_executeClientActions { call with transactions := next } grants token now
        tail).congr ?_
      have first : (ClientTransaction.ackActions ack ++ rest).head?.bind Action.bytes = ack := by
        cases ack with
        | some bytes => rfl
        | none =>
          cases rest with
          | nil => rfl
          | cons action rest => exact silent action (by simp)
      rw [first, acked]
      exact ⟨fun admits => ⟨can, admits⟩, And.right⟩
    | resends generation ack acked passed =>
      have sent := hinges_send { call with transactions := next } grants ack
      rw [acked]
      simp only
      split <;> simp_all [Hinges, AdmitsFirst]
    | delivers generation acked passed => exact ⟨can, by simp [acked, AdmitsFirst]⟩
    | absorbs route absorbed acked passed =>
      rcases absorbed with rfl | ⟨generation, rfl⟩ <;>
        exact ⟨can, by simp [acked, AdmitsFirst]⟩

/-- A response is delivered exactly when its transaction passes it up. -/
theorem delivered_iff
    {delivered : Bool} (polled : (call.pollResponse response grants now).2 = .ok delivered) :
    delivered = true ↔ call.transactions.PassesUp response now := by
  unfold pollResponse at polled
  rcases routed : call.transactions.routeResponseAt response now with ⟨next, error | route⟩
  · simp [routed] at polled
  · rw [routed] at polled
    have handled := TransactionManager.handling_of_routed (congrArg Prod.snd routed)
    cases handled with
    | live token ack rest acked silent delivers =>
      rw [← delivers]
      simp only [executeClientActions] at polled
      split at polled <;> simp at polled
      simp [← polled]
    | resends generation ack acked passed =>
      simp only at polled
      split at polled <;> simp at polled
      simp [← polled, passed]
    | delivers generation acked passed =>
      cases polled
      simp [passed]
    | absorbs route absorbed acked passed =>
      rcases absorbed with rfl | ⟨generation, rfl⟩ <;> cases polled <;> simp [passed]

/-- Routing a response leaves the peer of the call. -/
theorem destination_pollResponse
    (call : CallSignaling δ) (response : ValidatedResponse) (grants : Nat → Grant δ)
    (now : Duration) :
    (call.pollResponse response grants now).1.signaling.destination =
      call.signaling.destination := by
  have sends (current : CallSignaling δ) (grant : Grant δ) (bytes : Bytes) :
      (current.send grant bytes).1.signaling.destination = current.signaling.destination := by
    unfold send sendTo
    split <;> rfl
  have cancels (current : CallSignaling δ) (token : Token) (timer : Timer) :
      (current.cancelClientTimer token timer).signaling.destination =
        current.signaling.destination := by
    unfold cancelClientTimer cancelFirst
    split <;> rfl
  have acts (token : Token) (grant : Grant δ) (action : Action) :
      Keeps (fun next => next.signaling.destination = call.signaling.destination)
        fun current : CallSignaling δ => current.executeClientAction grant token now action := by
    intro current same
    rw [← same]
    cases action with
    | send bytes | sendAck bytes => exact sends current grant bytes
    | cancel timer => exact cancels current token timer
    | deliverResponse => rfl
    | schedule timer delay =>
      rw [← cancels current token timer]
      simp only [executeClientAction, armTimer]
      split_ifs
      · rfl
      · split
        · rfl
        · split <;> rfl
    | terminate =>
      simp only [executeClientAction, finishTransaction]
      split <;> rfl
  unfold pollResponse
  rcases call.transactions.routeResponseAt response now with ⟨next, error | route⟩
  · rfl
  · cases route with
    | live routed =>
      have kept := keeps_executeAll (acts routed.token) grants routed.actions
        { call with transactions := next } rfl
      simp only [executeClientActions]
      split <;> simp_all
    | retained disposition =>
      cases disposition with
      | resendFailureAck generation ack =>
        have kept := sends { call with transactions := next } (grants 0) ack
        simp only
        split <;> simp_all
      | deliverLateSuccess generation | absorb generation => rfl
    | unknown => rfl

/-- A request can be made a transaction, and the socket admits it. -/
def CanStart
    (call : CallSignaling δ) (codec : MessageCodec) (request : ValidatedRequest)
    (grants : Nat → Grant δ) : Prop :=
  ∃ transaction, ClientTransaction.new codec.ackTemplate request false .default =
      .ok transaction ∧
    call.AdmitsFirst grants (some request.bytes)

/-- Starting a request fails on the request alone. -/
theorem hinges_startRequest
    (call : CallSignaling δ) (codec : MessageCodec) (request : ValidatedRequest)
    (allocated : Bool) (grants : Nat → Grant δ) (now : Duration) :
    Hinges SignalingError.IsRefusal (call.CanStart codec request grants)
      (call.startRequest codec.ackTemplate request allocated grants now).2 := by
  unfold startRequest
  cases created : ClientTransaction.new codec.ackTemplate request false .default with
  | error error => exact hinges_of_not (by simp [CanStart, created]) _
  | ok transaction =>
    obtain ⟨key, template, -, -, rfl⟩ := ClientTransaction.new_eq_ok created
    simp only
    rcases started : call.transactions.startClient _ allocated with ⟨next, error | routed⟩
    · exact fun _ => TransactionManager.refusal_of_startClient rfl (congrArg Prod.snd started)
    · have begun := TransactionManager.actions_startClient rfl (congrArg Prod.snd started)
      have silent : ∀ action ∈ routed.actions.tail, action.bytes = none := by
        rw [begun]
        simp only [cons_append, tail_cons, nil_append]
        split <;> simp [Action.bytes]
      have executed := hinges_executeClientActions { call with transactions := next } grants
        routed.token now silent
      have same : call.CanStart codec request grants ↔
          AdmitsFirst { call with transactions := next } grants (some request.bytes) := by
        simp [CanStart, created, AdmitsFirst]
      rw [begun] at executed
      rw [same]
      simp only
      split <;> simp_all [Hinges, Action.bytes]

end CallSignaling

/-- The parser reads the field, which is not the wildcard. -/
def RoutingField.IsReadable : RoutingField → Prop
  | .contact (some _) | .recordRoute _ => True
  | _ => False

/-- The remote targets of a field. -/
def RoutingField.targets : RoutingField → List Uri
  | .contact (some entries) => entries
  | _ => []

/-- The routes of a field. -/
def RoutingField.routes : RoutingField → List Uri
  | .recordRoute entries => entries
  | _ => []

/-- The fields can be read after so many remote targets and routes: one target at
most, and no more routes than a dialog retains. -/
structure Reads (targets routes : Nat) (fields : List RoutingField) : Prop where
  readable : ∀ field ∈ fields, field.IsReadable
  targets : targets + (fields.flatMap RoutingField.targets).length ≤ 1
  routes : routes + (fields.flatMap RoutingField.routes).length ≤ maxDialogRoutes

theorem reads_cons
    {targets routes : Nat} {field : RoutingField} {fields : List RoutingField} :
    Reads targets routes (field :: fields) ↔ field.IsReadable ∧
      Reads (targets + field.targets.length) (routes + field.routes.length) fields := by
  constructor
  · rintro ⟨readable, targeted, routed⟩
    simp only [flatMap_cons, length_append, ← Nat.add_assoc] at targeted routed
    exact ⟨readable _ mem_cons_self,
      fun other member => readable other (mem_cons_of_mem _ member), targeted, routed⟩
  · rintro ⟨first, readable, targeted, routed⟩
    refine ⟨by simpa using ⟨first, readable⟩, ?_, ?_⟩ <;>
      simpa only [flatMap_cons, length_append, ← Nat.add_assoc]

/-- A further target is refused. -/
theorem meets_contactTarget (target : Option Uri) (entries : List Uri) :
    Meets (fun _ => 1 < target.toList.length + entries.length)
      (fun found => found.toList.length = target.toList.length + entries.length)
      (contactTarget target entries) := by
  induction entries generalizing target with
  | nil => exact rfl
  | cons entry entries ih =>
    cases target with
    | some known => simp [contactTarget, Meets]
    | none => simpa [contactTarget, Nat.add_comm] using ih (some entry)

/-- The fields that can be read are read, unless a reservation fails. -/
theorem meets_readRouting
    (grants : Nat → Bool) {target : Option Uri} {routes : List Uri}
    (bounded : routes.length ≤ maxDialogRoutes) (fields : List RoutingField) :
    Meets (fun error => Reads target.toList.length routes.length fields → error.IsRefusal)
      (fun found => Reads target.toList.length routes.length fields ∧
        found.2.length ≤ maxDialogRoutes)
      (readRouting grants target routes fields) := by
  induction fields generalizing target routes with
  | nil =>
    refine ⟨⟨by simp, ?_, by simpa using bounded⟩, bounded⟩
    cases target <;> simp
  | cons field fields ih =>
    cases field with
    | unreadable | invalidContact | invalidRecordRoute =>
      exact fun reads => (reads_cons.mp reads).1.elim
    | contact entries =>
      cases entries with
      | none => exact fun reads => (reads_cons.mp reads).1.elim
      | some entries =>
        have targeted := meets_contactTarget target entries
        simp only [readRouting, reads_cons, RoutingField.IsReadable, true_and,
          RoutingField.targets, RoutingField.routes, length_nil, Nat.add_zero]
        cases found : contactTarget target entries with
        | error error =>
          rw [found] at targeted
          exact fun reads => absurd (Nat.le_of_add_right_le reads.targets) (Nat.not_le.mpr targeted)
        | ok next =>
          rw [found] at targeted
          rw [← targeted]
          exact ih bounded
    | recordRoute entries =>
      simp only [readRouting, reads_cons, RoutingField.IsReadable, true_and,
        RoutingField.targets, RoutingField.routes, length_nil, Nat.add_zero]
      split_ifs with excessive reserved
      · exact fun reads => absurd (Nat.le_of_add_right_le reads.routes) (Nat.not_le.mpr excessive)
      · rw [← length_append]
        exact ih (by simpa using Nat.not_lt.mp excessive)
      · exact fun _ => trivial

/-- The target and the routes of a response are found where its fields can be
read. -/
theorem hinges_dialogRouting
    (grants : Nat → Bool) (response : DialogResponse) (fallbackTarget : Uri) :
    Hinges SignalingError.IsRefusal (Reads 0 0 response.routingFields)
      (dialogRouting grants response fallbackTarget) := by
  have routed : Meets _ _ (readRouting grants none [] response.routingFields) :=
    meets_readRouting grants (Nat.zero_le _) response.routingFields
  unfold dialogRouting
  cases found : readRouting grants none [] response.routingFields with
  | error error =>
    rw [found] at routed
    exact routed
  | ok parts =>
    rw [found] at routed
    simp only [ok_bind, RouteSet.forUac, dif_pos routed.2]
    exact routed.1

namespace DialogSignaling

variable {state : DialogSignaling} {response : DialogResponse}

/-- The dialog of an identity is active, or can be registered with a number. -/
def Admits (state : DialogSignaling) (id : DialogId) (sequence : UInt32) : Prop :=
  match state.dialogs.dialogOf id with
  | some dialog => dialog.Active
  | none => sequence.toNat ≤ maxCseqSequence ∧ state.dialogs.shuttingDown = false ∧
      state.dialogs.entries.size < state.dialogs.maximum ∧
      state.dialogs.nextGeneration + 1 < 2 ^ 64

/-- The dialog of a 2xx can be recorded: there is a template, the routing of the
response can be read, both of its tags are there, and the registry admits the
dialog. -/
structure CanRemember (state : DialogSignaling) (response : DialogResponse) : Prop where
  template : state.template.isSome
  reads : Reads 0 0 response.routingFields
  dialog : ∃ localTag remoteTag, response.fromHeader.tag = some localTag ∧
    response.toHeader.tag = some remoteTag ∧
    state.Admits ⟨response.callId, localTag, remoteTag⟩ response.cseq.sequence

/-- A known dialog is refreshed exactly while it is active. -/
theorem hinges_refreshDialog
    {token : Dialog.DialogToken} {id : DialogId}
    (registered : state.dialogs.tokenFor id = some token) (remoteTarget : Uri)
    (sequence : UInt32) :
    Hinges SignalingError.IsRefusal (state.Admits id sequence)
      (state.refreshDialog token remoteTarget).2 := by
  obtain ⟨dialog, rfl, known, found⟩ := DialogManager.get_of_tokenFor registered
  have same : state.Admits token.id sequence ↔ dialog.state ≠ .terminated := by
    simp [Admits, known, Dialog.Active]
  rw [same]
  cases dialogState : dialog.state with
  | terminated =>
    simp only [refreshDialog, DialogManager.getMut, found, Dialog.confirm, dialogState]
    exact hinges_of_not (by simp) _
  | early | confirmed =>
    have changed (dialog : Dialog) : DialogManager.get { state.dialogs with
        entries := state.dialogs.entries.insert token.id ⟨token.generation, dialog⟩ } token =
          .ok dialog := by
      simp [DialogManager.get]
    simp [refreshDialog, DialogManager.getMut, found, Dialog.confirm, dialogState, changed,
      Dialog.updateRemoteTarget, Dialog.DialogState.ensureActive, Except.mapError, Hinges]

/-- A new dialog is registered exactly where the registry admits it. -/
theorem hinges_registerDialog
    {id : DialogId} (unknown : state.dialogs.tokenFor id = none) (routeSet : RouteSet)
    (remoteTarget : Uri) (sequence : UInt32) (allocated : Bool) :
    Hinges SignalingError.IsRefusal (state.Admits id sequence)
      (state.registerDialog id routeSet remoteTarget sequence allocated).2 := by
  have absent : id ∉ state.dialogs.entries := by
    rw [← AList.lookup_eq_none]
    simpa [DialogManager.tokenFor] using unknown
  have other : state.dialogs.dialogOf id = none := by
    simp [DialogManager.dialogOf, AList.lookup_eq_none.mpr absent]
  unfold registerDialog Dialog.new Dialog.validateSequence
  simp only [Admits, other]
  by_cases numbered : maxCseqSequence < sequence.toNat
  · rw [if_pos numbered]
    exact hinges_of_not (fun admits => Nat.not_le.mpr numbered admits.1) _
  · rw [if_neg numbered]
    simp only [ok_bind, Pure.pure, Except.pure, DialogManager.insert]
    by_cases closed : state.dialogs.shuttingDown = true
    · rw [if_pos closed]
      exact hinges_of_not (by simp [closed]) _
    · by_cases full : state.dialogs.entries.size ≥ state.dialogs.maximum
      · simp only [if_neg closed, if_neg absent, if_pos full]
        exact hinges_of_not (by simp; omega) _
      · by_cases counted : state.dialogs.nextGeneration + 1 < 2 ^ 64
        · simp only [if_neg closed, if_neg absent, if_neg full, if_pos counted]
          cases allocated with
          | true =>
            exact ⟨Nat.not_lt.mp numbered, by simpa using closed, Nat.not_le.mp full, counted⟩
          | false => exact fun _ => rfl
        · simp only [if_neg closed, if_neg absent, if_neg full, if_neg counted]
          exact hinges_of_not (fun admits => counted admits.2.2.2) _

/-- Recording a 2xx fails on it exactly where its dialog cannot be recorded. -/
theorem hinges_rememberConfirmed
    {branch : DialogBranchId}
    (named : ∀ tag, response.toHeader.tag = some tag → branch.asStr = tag.text)
    (grants : Nat → Bool) (allocated : Bool) :
    Hinges SignalingError.IsRefusal (state.CanRemember response)
      (state.rememberConfirmed branch response grants allocated).2 := by
  unfold rememberConfirmed
  cases installed : state.template with
  | none => exact hinges_of_not (fun can => by simpa [installed] using can.template) _
  | some template =>
    have routed := hinges_dialogRouting grants response template.requestUri
    simp only
    rcases found : dialogRouting grants response template.requestUri with
      error | ⟨target, routeSet⟩ <;> rw [found] at routed
    · exact fun can => routed can.reads
    · unfold fromUacResponse
      cases localTag : response.fromHeader.tag with
      | none => exact hinges_of_not (fun can => by simpa [localTag] using can.dialog) _
      | some localTag' =>
        cases remoteTag : response.toHeader.tag with
        | none => exact hinges_of_not (fun can => by simpa [remoteTag] using can.dialog) _
        | some remoteTag' =>
          have same : state.CanRemember response ↔ state.Admits
              ⟨response.callId, localTag', remoteTag'⟩ response.cseq.sequence := by
            refine ⟨fun can => by simpa [localTag, remoteTag] using can.dialog, fun admits =>
              ⟨by simp [installed], routed, localTag', remoteTag', localTag, remoteTag, admits⟩⟩
          rw [same]
          simp only [DialogId.new_text, named remoteTag' remoteTag, ne_eq,
            not_true_eq_false, if_false]
          cases found : state.dialogs.tokenFor ⟨response.callId, localTag', remoteTag'⟩ with
          | some token => exact hinges_refreshDialog found target response.cseq.sequence
          | none => exact hinges_registerDialog found routeSet target _ allocated

end DialogSignaling

/-- The failure is a refusal, or that of drawing a nonce or a Via. -/
def Turn.Refuses (turn : Turn δ) (error : SignalingError) : Prop :=
  error.IsRefusal ∨ turn.clientNonce = .error error ∨ turn.retry.via = .error error

namespace SignalingEngine

variable {engine : SignalingEngine δ} {response : InboundResponse} {turn : Turn δ}
  {template : RequestTemplate} {scope : AuthScope} {codec : MessageCodec} {now : Duration}

/-- Every challenge field of the scope can be read. -/
def ReadsChallenges (scope : AuthScope) (fields : List (AuthScope × ChallengeField)) : Prop :=
  ∀ field, (scope, field) ∈ fields → ∃ challenge, field = .challenge challenge

/-- The challenges of a scope. -/
def challengesOf (scope : AuthScope) : List (AuthScope × ChallengeField) → List AuthChallenge
  | [] => []
  | (kind, field) :: fields =>
    match field with
    | .challenge challenge =>
      if kind = scope then challenge :: challengesOf scope fields
      else challengesOf scope fields
    | _ => challengesOf scope fields

/-- The challenges of a scope are collected where they can be read, unless a
reservation fails. -/
theorem meets_collectChallenges
    (reserved : Nat → Bool) (scope : AuthScope) (challenges : List AuthChallenge)
    (fields : List (AuthScope × ChallengeField)) :
    Meets (fun error => ReadsChallenges scope fields → error.IsRefusal)
      (fun found => ReadsChallenges scope fields ∧ found = challenges ++ challengesOf scope fields)
      (collectChallenges reserved scope challenges fields) := by
  induction fields generalizing challenges with
  | nil => simp [collectChallenges, Meets, ReadsChallenges, challengesOf]
  | cons first fields ih =>
    obtain ⟨kind, field⟩ := first
    by_cases other : kind = scope
    · subst other
      cases field with
      | unreadable | invalid =>
        simp only [collectChallenges, ne_eq, not_true_eq_false, if_false]
        intro reads
        obtain ⟨challenge, ⟨⟩⟩ := reads _ mem_cons_self
      | challenge challenge =>
        have same : ReadsChallenges kind ((kind, .challenge challenge) :: fields) ↔
            ReadsChallenges kind fields := by
          simp [ReadsChallenges]
        have rest := ih (challenges ++ [challenge])
        simp only [collectChallenges, challengesOf, ne_eq, not_true_eq_false, if_false,
          if_true, same]
        split_ifs with room
        · simpa using rest
        · exact fun _ => trivial
    · have same : ReadsChallenges scope ((kind, field) :: fields) ↔
          ReadsChallenges scope fields := by
        simp [ReadsChallenges, Ne.symm other]
      have skipped : challengesOf scope ((kind, field) :: fields) = challengesOf scope fields := by
        cases field <;> simp [challengesOf, other]
      simp only [collectChallenges, ne_eq, other, not_false_eq_true, if_true, same, skipped]
      exact ih challenges

/-- The INVITE can be sent once more: its number is not the last one, and for the
drawn Via it can be built and started. -/
def CanResend
    (engine : SignalingEngine δ) (codec : MessageCodec) (template : RequestTemplate)
    (turn : Turn δ) : Prop :=
  template.inviteSequence.toNat < maxCseqSequence ∧
    ∀ via, turn.retry.via = .ok via → ∃ request,
      codec.invite (engine.authenticatedInvite template via
        ⟨template.inviteSequence + 1, .invite⟩) = .ok request ∧
      engine.call.CanStart codec request turn.retry.grants

/-- The engine with the authorization of a scope. -/
def authorized
    (engine : SignalingEngine δ) (scope : AuthScope) (value : AuthChallenge) :
    SignalingEngine δ :=
  match scope with
  | .server => { engine with serverAuthorization := some value }
  | .proxy => { engine with proxyAuthorization := some value }

/-- A challenge can be answered: its fields can be read, its scope takes it, and
for the drawn nonce an authorization is found with which the INVITE can be sent
once more. -/
def CanAnswer
    (engine : SignalingEngine δ) (codec : MessageCodec) (response : InboundResponse)
    (scope : AuthScope) (credentials : DigestCredentials) (template : RequestTemplate)
    (turn : Turn δ) : Prop :=
  ReadsChallenges scope response.challengeFields ∧ ∃ context,
    engine.authentication.install scope (challengesOf scope response.challengeFields) =
      .ok context ∧
    ∀ nonce, turn.clientNonce = .ok nonce → ∃ drawn,
      context.authorize codec.hash scope credentials .invite template.requestUri.render
        engine.content.body nonce = .ok drawn ∧
      ∃ value, codec.credentials drawn.2 = some value ∧
        (engine.authorized scope value).CanResend codec template turn

/-- The next number is within the range exactly below the last one. -/
theorem newCseq_next {sequence : UInt32} (fits : sequence.toNat + 1 < 2 ^ 32) :
    newCseq (sequence + 1) .invite =
      if sequence.toNat < maxCseqSequence then .ok ⟨sequence + 1, .invite⟩ else .error .cseq := by
  have next : (sequence + 1).toNat = sequence.toNat + 1 := by
    rw [UInt32.toNat_add]
    exact Nat.mod_eq_of_lt fits
  rw [newCseq, next]
  split_ifs <;> first | rfl | omega

/-- Sending the INVITE once more fails on it exactly where it cannot be sent. -/
theorem hinges_resendInvite
    (installed : engine.dialog.template = some template) :
    Hinges turn.Refuses (engine.CanResend codec template turn)
      (resendInvite codec template turn now engine).2 := by
  unfold resendInvite
  by_cases numbered : template.inviteSequence.toNat < maxCseqSequence
  · have fits : template.inviteSequence.toNat + 1 < 2 ^ 32 := by
      unfold maxCseqSequence at numbered
      omega
    have cseq := newCseq_next fits
    rw [if_pos numbered] at cseq
    simp only [if_pos fits, buildAuthenticatedInvite, bind_assoc]
    rw [CanResend, and_iff_right numbered]
    refine hinges_granted (fun error failed => .inr (.inr failed)) fun via drawn => ?_
    rw [bind_of_ok (installedTemplate_of_some installed), cseq,
      bind_of_ok (ofExcept_apply _ engine),
      bind_of_ok (read_apply _ engine)]
    refine hinges_ofExcept fun request built => ?_
    exact (CallSignaling.hinges_startRequest _ codec request _ _ now).mono fun _ => .inl
  · have cannot : ¬engine.CanResend codec template turn := fun can => numbered can.1
    have failed (error : SignalingError) :
        Hinges turn.Refuses (engine.CanResend codec template turn)
          (.error error : Except SignalingError Unit) :=
      hinges_of_not cannot error
    split_ifs with fits
    · have cseq := newCseq_next fits
      rw [if_neg numbered] at cseq
      simp only [buildAuthenticatedInvite, bind_assoc]
      cases turn.retry.via with
      | error error => exact failed error
      | ok via =>
        rw [bind_of_ok (ofExcept_apply _ engine),
          bind_of_ok (installedTemplate_of_some installed), cseq]
        exact failed .cseq
    · exact failed .sequenceExhausted

/-- Answering a challenge fails on it exactly where it cannot be answered. -/
theorem hinges_answerChallenge
    {credentials : DigestCredentials} (installed : engine.dialog.template = some template) :
    Hinges turn.Refuses (engine.CanAnswer codec response scope credentials template turn)
      (answerChallenge codec response scope credentials template turn now engine).2 := by
  have collected := meets_collectChallenges turn.challengesReserved scope []
    response.challengeFields
  simp only [answerChallenge, installChallenges, authorizeInvite, bind_assoc]
  cases found : collectChallenges turn.challengesReserved scope [] response.challengeFields with
  | error error =>
    rw [found] at collected
    exact fun can => .inl (collected can.1)
  | ok challenges =>
    rw [found] at collected
    obtain ⟨reads, rfl⟩ := collected
    rw [CanAnswer, and_iff_right reads, bind_of_ok (ofExcept_apply _ engine),
      bind_of_ok (read_apply _ engine)]
    refine hinges_mapped fun context accepted => ?_
    rw [modify_bind]
    refine hinges_granted (fun error failed => .inr (.inl failed)) fun nonce drew => ?_
    rw [bind_of_ok (read_apply _ _), bind_of_ok (read_apply _ _)]
    refine hinges_mapped fun drawn authorizes => ?_
    obtain ⟨next, digest⟩ := drawn
    simp only [modify_bind]
    cases authorization : codec.credentials digest with
    | none => cases scope <;> exact hinges_of_not (by simp) _
    | some value =>
      have resends (drawn : AuthContext) : Hinges turn.Refuses
          ((engine.authorized scope value).CanResend codec template turn)
          (resendInvite codec template turn now
            { engine.authorized scope value with authentication := drawn }).2 := by
        cases scope <;> exact hinges_resendInvite installed
      cases scope <;> exact (resends next).congr (by simp)

/-- A challenge of the current INVITE that the engine has credentials for can be
answered. -/
def CanRetry
    (engine : SignalingEngine δ) (codec : MessageCodec) (response : InboundResponse)
    (turn : Turn δ) : Prop :=
  ∀ scope credentials, challengedScope response.status = some scope →
    response.cseq.method = .invite → engine.credentials = some credentials →
    ∃ template, engine.dialog.template = some template ∧
      (response.cseq.sequence = template.inviteSequence →
        engine.CanAnswer codec response scope credentials template turn)

/-- The dialog of a 2xx to an INVITE can be recorded. -/
def CanReport (engine : SignalingEngine δ) (response : InboundResponse) : Prop :=
  response.cseq.method = .invite → response.status.Success →
    engine.dialog.CanRemember response.toDialogResponse

/-- Only a 2xx to an INVITE means an accepted INVITE. -/
theorem accepted_of_branchEvent
    {response : ValidatedResponse} {branch accepted : DialogBranchId}
    (event : branchEvent response branch = some (.inviteAccepted accepted)) :
    response.cseq.method = .invite ∧ response.status.Success := by
  unfold branchEvent at event
  split at event
  · rename_i invite
    split_ifs at event with provisional success <;> cases event
    exact ⟨invite, success⟩
  · split_ifs at event
    cases event
  · split_ifs at event
    cases event
  · cases event

/-- Reporting a response fails on it exactly where its dialog cannot be recorded. -/
theorem hinges_reportResponse :
    Hinges turn.Refuses (engine.CanReport response) (reportResponse response turn engine).2 := by
  unfold reportResponse
  simp only [responseEvent_eq, Except.mapError]
  rw [bind_of_ok (ofExcept_apply _ engine)]
  by_cases success : response.cseq.method = .invite ∧ response.status.Success
  · obtain ⟨invite, success⟩ := success
    have final : response.status.asU16 ≠ 100 ∧ ¬response.status.Provisional := by
      unfold StatusCode.Success StatusCode.Provisional at *
      omega
    have named : ∀ tag, response.toDialogResponse.toHeader.tag = some tag →
        (branchOf response.toValidatedResponse).asStr = tag.text := by
      intro tag tagged
      simp only [InboundResponse.toDialogResponse] at tagged
      simp [branchOf, tagged, branchOfTag]
    simp only [if_neg final.1, branchEvent, invite, if_neg final.2, if_pos success]
    have recorded : Hinges turn.Refuses
        (engine.dialog.CanRemember response.toDialogResponse)
        (engine.dialog.rememberConfirmed (branchOf response.toValidatedResponse)
          response.toDialogResponse turn.routesReserved turn.dialogAllocated).2 :=
      (DialogSignaling.hinges_rememberConfirmed named _ _).mono fun _ => .inl
    refine (hinges_bind recorded ?_ : Hinges turn.Refuses (_ ∧ True) _).congr ?_
    · exact fun _ _ _ => trivial
    · simp [CanReport, invite, success]
  · have can : engine.CanReport response := fun invite succeeds =>
      absurd ⟨invite, succeeds⟩ success
    generalize meant : (if response.status.asU16 = 100 then none
      else branchEvent response.toValidatedResponse (branchOf response.toValidatedResponse)) = event
    cases event with
    | none => exact can
    | some event =>
      cases event with
      | inviteAccepted branch =>
        split_ifs at meant
        exact absurd (accepted_of_branchEvent meant) success
      | _ => exact can

/-- A response that is passed up fails its handling exactly where it cannot be
answered or recorded. -/
theorem hinges_passedUp :
    Hinges turn.Refuses (engine.CanRetry codec response turn ∧ engine.CanReport response)
      ((do
        if ← retryAuthenticatedInvite codec response turn now then pure none
        else reportResponse response turn : Operation δ _) engine).2 := by
  by_cases answered : IsChallenge response ∧ engine.Answers response
  · obtain ⟨challenge, answers⟩ := answered
    have reports : engine.CanReport response := by
      intro _ success
      unfold StatusCode.Success at success
      rcases challenge.1 with status | status <;> omega
    obtain ⟨scope, credentials, challenged, known⟩ := exists_of_answers challenge answers
    rw [and_iff_left reports]
    cases installed : engine.dialog.template with
    | none =>
      have cannot : ¬engine.CanRetry codec response turn := fun can => by
        simpa [installed] using can scope credentials challenged challenge.2 known
      rw [bind_of_error (retryAuthenticatedInvite_of_missing challenged challenge.2 known
        installed codec turn now)]
      exact hinges_of_not cannot _
    | some template =>
      have current := answers.2 template installed
      have same : engine.CanRetry codec response turn ↔
          engine.CanAnswer codec response scope credentials template turn := by
        simp [CanRetry, challenged, challenge.2, known, installed, current]
      have retries := retryAuthenticatedInvite_of_current challenged challenge.2 known
        installed current codec turn now
      have hinges : Hinges turn.Refuses _ (answerChallenge codec response scope credentials
        template turn now engine).2 := hinges_answerChallenge installed
      rw [same]
      rcases done : answerChallenge codec response scope credentials template turn now
        engine with ⟨next, error | _⟩ <;> rw [done] at hinges
      · rw [bind_of_error done] at retries
        rw [bind_of_error retries]
        exact hinges
      · rw [bind_of_ok done] at retries
        rw [bind_of_ok retries]
        exact hinges
  · have retries : engine.CanRetry codec response turn := by
      intro scope credentials challenged invite known
      by_contra missing
      refine answered ⟨⟨(isSome_challengedScope_iff _).mp (by simp [challenged]), invite⟩,
        by simp [known], fun template installed => ?_⟩
      by_contra other
      exact missing ⟨template, installed, fun current => absurd current other⟩
    rw [bind_of_ok (retryAuthenticatedInvite_of_not_answers answered codec turn now),
      and_iff_right retries]
    exact hinges_reportResponse

/-- Routing a response does not decide whether it can be answered. -/
theorem canRetry_moved
    {received : Nat} {observed : Option SocketAddress} {call : CallSignaling δ}
    (same : call.signaling.destination = engine.call.signaling.destination) :
    CanRetry { engine with
        call := call, received := received, observedReflexiveAddr := observed }
      codec response turn ↔ engine.CanRetry codec response turn := by
  have starts (request : ValidatedRequest) (grants : Nat → Grant δ) :
      call.CanStart codec request grants ↔ engine.call.CanStart codec request grants := by
    simp only [CallSignaling.CanStart, CallSignaling.AdmitsFirst, same]
  have resends (scope : AuthScope) (value : AuthChallenge) (template : RequestTemplate) :
      (authorized { engine with
          call := call, received := received, observedReflexiveAddr := observed }
        scope value).CanResend codec template turn ↔
      (engine.authorized scope value).CanResend codec template turn := by
    cases scope <;> exact and_congr_right fun _ => forall₂_congr fun via _ =>
      exists_congr fun request => and_congr_right fun _ => starts request _
  simp only [CanRetry, CanAnswer, resends]

/-- The response can be taken: it can be routed, and its ACK is admitted; and if
it is passed up, it can be answered and recorded. -/
structure Takes
    (codec : MessageCodec) (now : Duration) (engine : SignalingEngine δ)
    (response : InboundResponse) (turn : Turn δ) : Prop where
  routes : engine.call.transactions.CanRoute response.toValidatedResponse
  acknowledges : engine.call.AdmitsFirst turn.grants
    (engine.call.transactions.ackOf response.toValidatedResponse now)
  retries : engine.call.transactions.PassesUp response.toValidatedResponse now →
    engine.CanRetry codec response turn
  reports : engine.call.transactions.PassesUp response.toValidatedResponse now →
    engine.CanReport response

/-- A response fails its handling exactly where it cannot be taken. -/
theorem hinges_receive (keyed : engine.call.transactions.Keyed) :
    Hinges turn.Refuses (Takes codec now engine response turn)
      (engine.receive codec now (.response response) turn).2 := by
  obtain ⟨received, observed, handled⟩ := receive_response codec now response turn engine
  rw [handled, takeResponse]
  have polled := CallSignaling.hinges_pollResponse keyed response.toValidatedResponse
    turn.grants now
  rcases routed : engine.call.pollResponse response.toValidatedResponse turn.grants now with
    ⟨next, error | delivered⟩ <;> rw [routed] at polled
  · rw [bind_of_error (by rw [onCall_apply, routed])]
    exact fun takes => .inl (polled ⟨takes.routes, takes.acknowledges⟩)
  · rw [bind_of_ok (by rw [onCall_apply, routed])]
    have passed := CallSignaling.delivered_iff (congrArg Prod.snd routed)
    obtain ⟨can, admits⟩ : engine.call.transactions.CanRoute response.toValidatedResponse ∧ _ :=
      polled
    cases delivered with
    | false =>
      have silent := mt passed.mpr Bool.false_ne_true
      exact ⟨can, admits, fun up => absurd up silent, fun up => absurd up silent⟩
    | true =>
      have up := passed.mp rfl
      have same := CallSignaling.destination_pollResponse engine.call
        response.toValidatedResponse turn.grants now
      rw [routed] at same
      refine hinges_passedUp.congr ?_
      rw [canRetry_moved same]
      exact ⟨fun holds => ⟨can, admits, fun _ => holds.1, fun _ => holds.2⟩,
        fun takes => ⟨takes.retries up, takes.reports up⟩⟩

/-- Every response that a poll comes to can be taken. -/
def TakesResponses
    (codec : MessageCodec) (now : Duration) (engine : SignalingEngine δ)
    (receipts : List (Datagram × Turn δ)) : Prop :=
  ∀ earlier response turn later,
    receipts.take maxSignalingDatagramsPerPoll = earlier ++ (.response response, turn) :: later →
    (Poll.after codec now engine earlier).failure = none →
    Takes codec now (Poll.after codec now engine earlier).engine response turn

/-- A failure that is not due to what a response holds: no response was received,
or the surroundings refused. -/
def IsolatedFailure (datagram : Datagram) (turn : Turn δ) (error : SignalingError) : Prop :=
  ∀ response, datagram = .response response → turn.Refuses error

/-- A poll keeps every live client under its own key. -/
theorem keyed_after
    (keyed : engine.call.transactions.Keyed) (codec : MessageCodec) (now : Duration)
    (receipts : List (Datagram × Turn δ)) :
    (Poll.after codec now engine receipts).engine.call.transactions.Keyed := by
  have quietly : KeptQuietly TransactionManager.Keyed := fun _ operation _ keyed =>
    keyed.apply operation
  have starts : KeptByStart TransactionManager.Keyed := fun _ transaction allocated keyed =>
    keyed.apply (.startClient transaction allocated)
  refine Run.invariant (fun poll : Poll δ => poll.engine.call.transactions.Keyed) keyed ?_ receipts
  rintro poll ⟨datagram, turn⟩ reached
  have received : Keeps (Has TransactionManager.Keyed fun _ => True)
      (receive codec now datagram turn) :=
    keeps_receive quietly fun response _ =>
      keeps_retryAuthenticatedInvite quietly starts codec response turn now
  have kept := (received poll.engine ⟨reached, trivial⟩).registry
  simp only [Poll.step]
  split
  · exact reached
  · split <;> simp_all

end SignalingEngine

/-- In every reachable registry a response is routed, with every other transaction
left alone, exactly when its topmost Via has a modern branch and the live client
of its key, if there is one, can take it.  A poll that returns could take every
response that it came to; and where it can take them, it fails only at another
datagram or by a refusal of its surroundings. -/
theorem responses_isolated_iff
    (manager : TransactionManager) (reachable : manager.Reachable) (now : Duration) :
    (∀ response, manager.Isolates response now ↔ manager.CanRoute response) ∧
    ∀ (δ : Type) (engine : SignalingEngine δ), engine.call.transactions = manager →
      ∀ (codec : MessageCodec) (receipts : List (Datagram × Turn δ)),
        (∀ outcomes, (engine.poll codec receipts now).2 = .ok outcomes →
          engine.TakesResponses codec now receipts) ∧
        (engine.TakesResponses codec now receipts →
          ∀ error, (engine.poll codec receipts now).2 = .error error →
            ∃ earlier datagram turn later,
              receipts.take maxSignalingDatagramsPerPoll = earlier ++ (datagram, turn) :: later ∧
              ((Poll.after codec now engine earlier).engine.receive codec now datagram turn).2 =
                .error error ∧
              SignalingEngine.IsolatedFailure datagram turn error) := by
  have keyed := TransactionManager.keyed_of_reachable reachable
  refine ⟨fun response => ?_, ?_⟩
  · have routes := TransactionManager.canRoute_iff keyed response now
    exact ⟨fun isolated => routes.mpr isolated.routed, fun can =>
      ⟨routes.mp can, manager.sameBut_routeResponseAt response now⟩⟩
  · rintro δ engine rfl codec receipts
    have hinges (earlier : List (Datagram × Turn δ)) (response : InboundResponse) (turn : Turn δ) :
        Hinges turn.Refuses
          (SignalingEngine.Takes codec now (Poll.after codec now engine earlier).engine response
            turn)
          ((Poll.after codec now engine earlier).engine.receive codec now (.response response)
            turn).2 :=
      SignalingEngine.hinges_receive (SignalingEngine.keyed_after keyed codec now earlier)
    constructor
    · intro outcomes returned earlier response turn later split _
      obtain ⟨outcome, received⟩ := Poll.receives (Prod.ext rfl returned) split
      have takes := hinges earlier response turn
      rwa [received] at takes
    · intro takes error failed
      have raised : (Poll.after codec now engine
          (receipts.take maxSignalingDatagramsPerPoll)).failure = some error := by
        simp only [SignalingEngine.poll] at failed
        split at failed
        · rename_i cause failure
          cases failed
          exact failure
        · cases failed
      obtain ⟨earlier, datagram, turn, later, split, intact, received⟩ := Poll.failed_at raised
      refine ⟨earlier, datagram, turn, later, split, received, ?_⟩
      rintro response rfl
      have refused := hinges earlier response turn
      rw [received] at refused
      exact refused (takes earlier response turn later split intact)

/-- The sample engine, whose INVITE was answered with a 2xx. -/
def answeredEngine : Option (SignalingEngine Unit) :=
  (idleRuntime none).map fun runtime =>
    { runtime.engine with
      call := { runtime.engine.call with
        transactions := runtime.engine.call.transactions.after TransactionManager.acceptedInvite } }

/-- The 2xx is repeated. -/
def repeatedSuccess : InboundResponse :=
  sampleInbound inviteRequest.topmostVia ⟨1, .invite⟩ .ok tagB

/-- A repeated 2xx to a sample INVITE is isolated, and so is the poll that receives
it. -/
theorem repeated_success_isolated :
    ∃ engine, answeredEngine = some engine ∧
      engine.call.transactions.Isolates repeatedSuccess.toValidatedResponse (.fromSecs 1) ∧
      ∀ error, (engine.poll sampleCodec [(.response repeatedSuccess, sampleTurn)]
          (.fromSecs 1)).2 = .error error →
        sampleTurn.Refuses error := by
  refine ⟨_, rfl, ?_⟩
  have isolation := responses_isolated_iff _
    ⟨8, _, TransactionManager.acceptedInvite, rfl, rfl⟩ (.fromSecs 1)
  have success : StatusCode.ok.Success := by decide
  have isolates := (isolation.1 repeatedSuccess.toValidatedResponse).mpr
    ⟨TransactionManager.inviteTransaction.key, by decide, fun entry found => by
      cases found
      exact ⟨rfl, success, fun failed => absurd failed.2 success.not_failure⟩⟩
  refine ⟨isolates, fun error failed => ?_⟩
  refine Exists.elim ((isolation.2 Unit _ (by rfl) sampleCodec
    [(.response repeatedSuccess, sampleTurn)]).2 ?_ error failed) ?_
  · rintro earlier response turn later split -
    obtain ⟨rfl, single⟩ | ⟨-, ⟨⟩⟩ := append_eq_singleton_iff.mp split.symm
    cases single
    refine ⟨(isolation.1 _).mp isolates, ?_, ?_, ?_⟩
    · rintro ack ⟨⟩
    · rintro - scope credentials ⟨⟩
    · rintro - - -
      refine ⟨rfl, ⟨?_, by decide, by decide⟩, tagA, tagB, rfl, rfl, by decide, rfl,
        by decide, by decide⟩
      rintro field (_ | ⟨_, ⟨⟩⟩)
      trivial
  · rintro earlier ⟨datagram, turn, later, split, -, isolated⟩
    obtain ⟨rfl, single⟩ | ⟨-, ⟨⟩⟩ := append_eq_singleton_iff.mp split.symm
    cases single
    exact isolated _ rfl

/-- A `180 Ringing` that arrives after the 2xx of its INVITE is refused, and so is
a response whose branch lacks the magic cookie; a repeated 2xx without a `To` tag
fails the poll. -/
theorem late_provisional_refused :
    ∃ engine, answeredEngine = some engine ∧ engine.call.transactions.Reachable ∧
      ¬(∃ route, (engine.call.transactions.routeResponseAt
        (responseTo inviteRequest .ringing none) (.fromSecs 1)).2 = .ok route) ∧
      ¬(∃ route, (engine.call.transactions.routeResponseAt
        { responseTo inviteRequest .ok none with
          topmostVia := ⟨.domain "host", none, some "one"⟩ }
        (.fromSecs 1)).2 = .ok route) ∧
      (engine.poll sampleCodec [(.response { repeatedSuccess with
          toHeader := { repeatedSuccess.toHeader with tag := none } }, sampleTurn)]
        (.fromSecs 1)).2 = .error (.dialogId (.missingTag .remoteSide)) := by
  refine ⟨_, rfl, ⟨8, _, TransactionManager.acceptedInvite, rfl, rfl⟩, ?_, ?_, rfl⟩
  · rintro ⟨route, routed⟩
    cases routed
  · rintro ⟨route, routed⟩
    cases routed

end Call
end LiveAISIP
