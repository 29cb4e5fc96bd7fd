import LiveAISIP.Call.Signaling
import LiveAISIP.Sip.HeaderField

/-!
# Requests inside a dialog

How the signaling engine of `call/signaling/engine.rs` records the dialogs of
accepted INVITEs and builds the requests inside them, with the routing of
`call/signaling/dialog.rs`.  A request under construction is the record of what
the request builder is given; whether the builder, the serializer and the
validator accept it is an argument, as are generated Via values and the
outcomes of reservations.
-/

namespace LiveAISIP
namespace Call

open Sip
open Dialog (DialogError DialogId DialogIdError DialogManagerError DialogToken
  RouteSet RoutingPlan maxCseqSequence maxDialogRoutes)
open DialogManager

/-- Maximum `To` parameters. -/
def maxToParameters : Nat := 64

/-- The number of parameters, the tag included. -/
def toParameterCount (toHeader : ToHeader) : Nat :=
  toHeader.parameters.length + if toHeader.tag.isSome then 1 else 0

/-- Set the dialog tag of a `To` value. -/
def setTag (toHeader : ToHeader) (tag : Tag) : Except SignalingError ToHeader :=
  if toHeader.tag.isNone ∧ toParameterCount toHeader ≥ maxToParameters then .error .to
  else .ok { toHeader with tag := some tag }

/-- Create a `CSeq` whose number is within the SIP maximum. -/
def newCseq (sequence : UInt32) (method : Method) : Except SignalingError CSeq :=
  if maxCseqSequence < sequence.toNat then .error .cseq
  else .ok ⟨sequence, method⟩

/-- What the initial INVITE leaves for later requests. -/
structure RequestTemplate where
  requestUri : Uri
  fromHeader : FromHeader
  initialTo : ToHeader
  callId : String
  inviteSequence : UInt32
  activeInviteVia : List ViaEntry
  maxForwards : UInt8
  extensionHeaders : List Header

/-- One `Contact` or `Record-Route` field of a response, as its parser reads it;
a `Contact` without entries is the wildcard. -/
inductive RoutingField
  | unreadable
  | invalidContact
  | contact (entries : Option (List Uri))
  | invalidRecordRoute
  | recordRoute (entries : List Uri)

/-- What recording a dialog reads of a response. -/
structure DialogResponse where
  callId : String
  fromHeader : FromHeader
  toHeader : ToHeader
  cseq : CSeq
  routingFields : List RoutingField

/-- What dialog matching reads of an inbound request. -/
structure InDialogRequest where
  callId : String
  fromHeader : FromHeader
  toHeader : ToHeader
  cseq : CSeq

/-- What the request builder is given. -/
structure OutboundRequest where
  method : Method
  requestUri : Uri
  via : List ViaEntry
  fromHeader : FromHeader
  toHeader : ToHeader
  callId : String
  cseq : CSeq
  maxForwards : UInt8
  routes : List Uri
  extensionHeaders : List Header

/-- The remote target of a `Contact` field: all of its fields name one. -/
def contactTarget (target : Option Uri) : List Uri → Except SignalingError (Option Uri)
  | [] => .ok target
  | entry :: entries =>
    if target.isSome then .error .invalidDialogContact
    else contactTarget (some entry) entries

/-- The remote target and the routes of the fields read so far. -/
def readRouting
    (grants : Nat → Bool) (target : Option Uri) (routes : List Uri) :
    List RoutingField → Except SignalingError (Option Uri × List Uri)
  | [] => .ok (target, routes)
  | .unreadable :: _ => .error .headerNormalization
  | .invalidContact :: _ => .error .contact
  | .contact none :: _ => .error .invalidDialogContact
  | .contact (some entries) :: fields => do
    let target ← contactTarget target entries
    readRouting grants target routes fields
  | .invalidRecordRoute :: _ => .error .recordRoute
  | .recordRoute entries :: fields =>
    let attempted := routes.length + entries.length
    if attempted > maxDialogRoutes then .error (.dialogRoute attempted maxDialogRoutes)
    else if grants entries.length then readRouting grants target (routes ++ entries) fields
    else .error .allocationFailed

/-- The remote target and the route set of a response. -/
def dialogRouting
    (grants : Nat → Bool) (response : DialogResponse)
    (fallbackTarget : Uri) : Except SignalingError (Uri × RouteSet) := do
  let (target, routes) ← readRouting grants none [] response.routingFields
  match RouteSet.forUac routes with
  | none => .error (.dialogRoute routes.length maxDialogRoutes)
  | some routeSet => .ok (target.getD fallbackTarget, routeSet)

/-- The dialog that a response to a local request establishes. -/
def fromUacResponse (response : DialogResponse) : Except DialogIdError DialogId :=
  match response.fromHeader.tag with
  | none => .error (.missingTag .localSide)
  | some localTag =>
    match response.toHeader.tag with
    | none => .error (.missingTag .remoteSide)
    | some remoteTag => DialogId.new response.callId localTag.text remoteTag.text

/-- The request template with the dialogs that the call lends the engine. -/
structure DialogSignaling where
  template : Option RequestTemplate
  dialogs : DialogManager

namespace DialogSignaling

/-- The failure of a dialog change through the registry. -/
def changeError : DialogManagerError ⊕ DialogError → SignalingError
  | .inl error => .dialogs error
  | .inr error => .dialog error

/-- Confirm a known dialog and refresh its remote target. -/
def refreshDialog
    (state : DialogSignaling) (token : DialogToken)
    (remoteTarget : Uri) : DialogSignaling × Except SignalingError Unit :=
  match state.dialogs.getMut token Dialog.confirm with
  | (dialogs, .error error) =>
    ({ state with dialogs := dialogs }, .error (changeError error))
  | (dialogs, .ok ()) =>
    match dialogs.getMut token fun dialog =>
        dialog.updateRemoteTarget remoteTarget with
    | (dialogs, .error error) =>
      ({ state with dialogs := dialogs }, .error (changeError error))
    | (dialogs, .ok ()) => ({ state with dialogs := dialogs }, .ok ())

/-- Register the dialog of an accepted INVITE. -/
def registerDialog
    (state : DialogSignaling) (id : DialogId) (routeSet : RouteSet)
    (remoteTarget : Uri) (inviteSequence : UInt32)
    (allocated : Bool) : DialogSignaling × Except SignalingError Unit :=
  match Dialog.new id .confirmed routeSet remoteTarget inviteSequence none with
  | .error error => (state, .error (.dialog error))
  | .ok dialog =>
    match state.dialogs.insert dialog allocated with
    | (dialogs, .error error) =>
      ({ state with dialogs := dialogs }, .error (.dialogs error))
    | (dialogs, .ok _) => ({ state with dialogs := dialogs }, .ok ())

/-- Record the dialog of a 2xx response to an INVITE. -/
def rememberConfirmed
    (state : DialogSignaling) (branch : DialogBranchId)
    (response : DialogResponse) (grants : Nat → Bool)
    (allocated : Bool) : DialogSignaling × Except SignalingError Unit :=
  match state.template with
  | none => (state, .error .initialInviteMissing)
  | some template =>
    match dialogRouting grants response template.requestUri with
    | .error error => (state, .error error)
    | .ok (remoteTarget, routeSet) =>
      match fromUacResponse response with
      | .error error => (state, .error (.dialogId error))
      | .ok id =>
        if id.remoteTag.text ≠ branch.asStr then
          (state, .error .dialogBranchMismatch)
        else
          match state.dialogs.tokenFor id with
          | some token => state.refreshDialog token remoteTarget
          | none =>
            state.registerDialog id routeSet remoteTarget response.cseq.sequence allocated

/-- The dialog that the template names for a branch. -/
def dialogIdFor (template : RequestTemplate) (branch : DialogBranchId) :
    Except SignalingError DialogId :=
  match template.fromHeader.tag with
  | none => .error .missingLocalDialogTag
  | some localTag =>
    (DialogId.new template.callId localTag.text branch.asStr).mapError .dialogId

/-- The number of a request: an ACK reads the number of the dialog, every other
request draws the next one. -/
def numberRequest
    (state : DialogSignaling) (token : DialogToken)
    (method : Method) : DialogSignaling × Except SignalingError CSeq :=
  match method with
  | .ack =>
    match state.dialogs.get token with
    | .error error => (state, .error (.dialogs error))
    | .ok dialog => (state, newCseq dialog.localSequence .ack)
  | method =>
    match state.dialogs.getMut token fun dialog =>
        dialog.nextLocalCseq method with
    | (dialogs, .error error) =>
      ({ state with dialogs := dialogs }, .error (changeError error))
    | (dialogs, .ok cseq) => ({ state with dialogs := dialogs }, .ok cseq)

/-- The routing of a request inside a dialog. -/
def routeRequest (state : DialogSignaling) (token : DialogToken) :
    Except SignalingError RoutingPlan :=
  match state.dialogs.get token with
  | .error error => .error (.dialogs error)
  | .ok dialog => dialog.routingPlan.mapError .dialog

/-- The fields of a request that depend on its dialog. -/
structure RequestAddress where
  toHeader : ToHeader
  routing : Option RoutingPlan
  cseq : CSeq

/-- The registered dialog of a branch, and the `To` value inside it. -/
def findDialog
    (state : DialogSignaling) (template : RequestTemplate)
    (branch : DialogBranchId) : Except SignalingError (DialogToken × ToHeader) := do
  let id ← dialogIdFor template branch
  match state.dialogs.tokenFor id with
  | none => .error .unknownDialogBranch
  | some token =>
    let toHeader ← setTag template.initialTo id.remoteTag
    return (token, toHeader)

/-- Address a request to the dialog of a branch, or outside every dialog. -/
def addressRequest
    (state : DialogSignaling) (template : RequestTemplate) (method : Method)
    (branch : Option DialogBranchId) :
    DialogSignaling × Except SignalingError RequestAddress :=
  match branch with
  | none =>
    (state, (newCseq template.inviteSequence method).map fun cseq =>
      ⟨template.initialTo, none, cseq⟩)
  | some branch =>
    match state.findDialog template branch with
    | .error error => (state, .error error)
    | .ok (token, toHeader) =>
      match state.numberRequest token method with
      | (numbered, .error error) => (numbered, .error error)
      | (numbered, .ok cseq) =>
        (numbered, (numbered.routeRequest token).map fun routing =>
          ⟨toHeader, some routing, cseq⟩)

/-- What the builder is given for an addressed request; a CANCEL repeats the
Via and the preloaded routes of the INVITE. -/
def assembleRequest
    (template : RequestTemplate) (method : Method) (generated : Option (List ViaEntry))
    (address : RequestAddress) : OutboundRequest where
  method := method
  requestUri :=
    match address.routing with
    | none => template.requestUri
    | some plan => plan.requestUri
  via := generated.getD template.activeInviteVia
  fromHeader := template.fromHeader
  toHeader := address.toHeader
  callId := template.callId
  cseq := address.cseq
  maxForwards := template.maxForwards
  routes :=
    match address.routing with
    | none => []
    | some plan => plan.routes
  extensionHeaders :=
    if method = .cancel then
      template.extensionHeaders.filter fun header =>
        header.name.kind = some .route
    else
      []

/-- The generated Via of a request other than CANCEL, and the template. -/
def prepareRequest
    (state : DialogSignaling) (method : Method)
    (generated : Except SignalingError (List ViaEntry)) :
    Except SignalingError (Option (List ViaEntry) × RequestTemplate) := do
  let via ← if method = .cancel then .ok none else generated.map some
  match state.template with
  | none => .error .initialInviteMissing
  | some template => return (via, template)

/-- Build a request; `generated` is the outcome of generating a Via, and
`renders` that of the builder, the serializer and the validator. -/
def buildRequest
    (state : DialogSignaling) (method : Method) (branch : Option DialogBranchId)
    (generated : Except SignalingError (List ViaEntry))
    (renders : OutboundRequest → Except SignalingError Unit) :
    DialogSignaling × Except SignalingError OutboundRequest :=
  match state.prepareRequest method generated with
  | .error error => (state, .error error)
  | .ok (via, template) =>
    match state.addressRequest template method branch with
    | (next, .error error) => (next, .error error)
    | (next, .ok address) =>
      let request := assembleRequest template method via address
      (next, (renders request).map fun _ => request)

/-- An inbound request is valid inside a registered dialog; `advance` makes it
take the next remote number. -/
def inDialogRequestIsValid
    (state : DialogSignaling) (request : InDialogRequest)
    (advance : Bool) : DialogSignaling × Bool :=
  match request.toHeader.tag, request.fromHeader.tag with
  | some localTag, some remoteTag =>
    match DialogId.new request.callId localTag.text remoteTag.text with
    | .error _ => (state, false)
    | .ok id =>
      match state.dialogs.tokenFor id with
      | none => (state, false)
      | some token =>
        if advance then
          let (dialogs, outcome) := state.dialogs.getMut token fun dialog =>
            dialog.acceptRemoteCseq request.cseq
          ({ state with dialogs := dialogs }, outcome.isOk)
        else
          (state, (state.dialogs.get token).isOk)
  | _, _ => (state, false)

end DialogSignaling

/-- One use of the template and the dialogs of a call. -/
inductive DialogOperation
  | install (template : RequestTemplate)
  | remember
      (branch : DialogBranchId)
      (response : DialogResponse)
      (grants : Nat → Bool)
      (allocated : Bool)
  | build
      (method : Method)
      (branch : Option DialogBranchId)
      (generated : Except SignalingError (List ViaEntry))
      (renders : OutboundRequest → Except SignalingError Unit)
  | receive (request : InDialogRequest) (advance : Bool)
  | beginShutdown

namespace DialogSignaling

variable {dialog : Dialog}

variable {id : DialogId} {state : DialogSignaling} {template : RequestTemplate}
  {branch : DialogBranchId}

/-- The state after one operation. -/
def apply (state : DialogSignaling) : DialogOperation → DialogSignaling
  | .install template => { state with template := some template }
  | .remember branch response grants allocated =>
    (state.rememberConfirmed branch response grants allocated).1
  | .build method branch generated renders =>
    (state.buildRequest method branch generated renders).1
  | .receive request advance => (state.inDialogRequestIsValid request advance).1
  | .beginShutdown => { state with dialogs := state.dialogs.beginShutdown }

/-- The state after a run of operations. -/
def after (state : DialogSignaling) (operations : List DialogOperation) : DialogSignaling :=
  Run.after (fun state operation => (state.apply operation, ())) state operations

/-- The registered dialog in which a request is numbered. -/
def requestToken
    (state : DialogSignaling) (method : Method) (branch : Option DialogBranchId)
    (generated : Except SignalingError (List ViaEntry)) : Option DialogToken :=
  match state.prepareRequest method generated, branch with
  | .ok (_, template), some branch =>
    (state.findDialog template branch).toOption.map Prod.fst
  | _, _ => none

/-- The operation draws a number of the dialog for a new request. -/
def Numbers (state : DialogSignaling) (id : DialogId) : DialogOperation → Prop
  | .build method branch generated _ =>
    (state.requestToken method branch generated).map DialogToken.id = some id ∧
      ∃ dialog ∈ state.dialogs.dialogOf id, dialog.CanNumber method
  | _ => False

/-- A dialog keeps its number and stays active. -/
def KeepsNumber (id : DialogId) (before after : DialogManager) : Prop :=
  ∀ dialog, before.dialogOf id = some dialog → dialog.Active →
    ∃ next, after.dialogOf id = some next ∧ next.Active ∧ next.localSequence = dialog.localSequence

theorem KeepsNumber.refl (id : DialogId) (manager : DialogManager) :
    KeepsNumber id manager manager :=
  fun dialog registered active => ⟨dialog, registered, active, rfl⟩

theorem KeepsNumber.trans {first second third : DialogManager}
    (left : KeepsNumber id first second) (right : KeepsNumber id second third) :
    KeepsNumber id first third := by
  intro dialog registered active
  obtain ⟨next, found, nextActive, same⟩ := left dialog registered active
  obtain ⟨last, foundLast, lastActive, sameLast⟩ := right next found nextActive
  exact ⟨last, foundLast, lastActive, sameLast.trans same⟩

/-- A change that keeps the number of every active dialog keeps that of the
registered ones. -/
theorem keepsNumber_getMut
    (id : DialogId) (manager : DialogManager) (token : DialogToken)
    (change : Dialog → Dialog × Except DialogError α)
    (keeps : ∀ dialog : Dialog, dialog.Active → (change dialog).1.Active ∧
        (change dialog).1.localSequence = dialog.localSequence) :
    KeepsNumber id manager (manager.getMut token change).1 := by
  cases known : manager.get token with
  | error error =>
    simp only [getMut, known]
    exact .refl id manager
  | ok dialog =>
    intro before registered active
    rw [dialogOf_getMut known]
    split_ifs with same
    · rw [same, dialogOf_of_get known, Option.some.injEq] at registered
      subst registered
      exact ⟨_, rfl, keeps dialog active⟩
    · exact ⟨before, registered, active, rfl⟩

theorem keepsNumber_refreshDialog
    (id : DialogId) (state : DialogSignaling) (token : DialogToken) (remoteTarget : Uri) :
    KeepsNumber id state.dialogs (state.refreshDialog token remoteTarget).1.dialogs := by
  have confirmed := keepsNumber_getMut id state.dialogs token Dialog.confirm
    fun dialog active => by
      unfold Dialog.confirm
      cases dialogState : dialog.state with
      | early => exact ⟨by simp [Dialog.Active], rfl⟩
      | confirmed => exact ⟨active, rfl⟩
      | terminated => exact absurd dialogState active
  unfold refreshDialog
  cases first : state.dialogs.getMut token Dialog.confirm with
  | mk dialogs outcome =>
    rw [first] at confirmed
    cases outcome with
    | error error => exact confirmed
    | ok done =>
      have targeted := keepsNumber_getMut id dialogs token
        (fun dialog => dialog.updateRemoteTarget remoteTarget)
        fun dialog active => by
          rw [Dialog.updateRemoteTarget, active.ensureActive]
          exact ⟨active, rfl⟩
      cases second : dialogs.getMut token fun dialog =>
          dialog.updateRemoteTarget remoteTarget with
      | mk final last =>
        rw [second] at targeted
        simp only [second]
        cases last <;> exact confirmed.trans targeted

theorem keepsNumber_registerDialog
    (id : DialogId) (state : DialogSignaling) (registeredId : DialogId)
    (routeSet : RouteSet) (remoteTarget : Uri) (inviteSequence : UInt32) (allocated : Bool) :
    KeepsNumber id state.dialogs
      (state.registerDialog registeredId routeSet remoteTarget inviteSequence
        allocated).1.dialogs := by
  unfold registerDialog
  split
  · exact .refl id state.dialogs
  next dialog created =>
    have kept : KeepsNumber id state.dialogs (state.dialogs.insert dialog allocated).1 := by
      intro known registered active
      exact ⟨known, dialogOf_insert registered allocated, active, rfl⟩
    cases inserted : state.dialogs.insert dialog allocated with
    | mk dialogs outcome =>
      rw [inserted] at kept
      cases outcome <;> exact kept

/-- Recording a response keeps the numbers of the registered dialogs. -/
theorem keepsNumber_rememberConfirmed
    (id : DialogId) (state : DialogSignaling) (branch : DialogBranchId)
    (response : DialogResponse) (grants : Nat → Bool) (allocated : Bool) :
    KeepsNumber id state.dialogs
      (state.rememberConfirmed branch response grants allocated).1.dialogs := by
  unfold rememberConfirmed
  split
  · exact .refl id state.dialogs
  split
  · exact .refl id state.dialogs
  split
  · exact .refl id state.dialogs
  split_ifs
  · exact .refl id state.dialogs
  split
  · exact keepsNumber_refreshDialog id state _ _
  · exact keepsNumber_registerDialog id state _ _ _ _ _

/-- An inbound request keeps the numbers of the registered dialogs. -/
theorem keepsNumber_inDialogRequestIsValid
    (id : DialogId) (state : DialogSignaling) (request : InDialogRequest) (advance : Bool) :
    KeepsNumber id state.dialogs (state.inDialogRequestIsValid request advance).1.dialogs := by
  unfold inDialogRequestIsValid
  split
  · split
    · exact .refl id state.dialogs
    split
    · exact .refl id state.dialogs
    next token _ =>
      split_ifs
      · refine keepsNumber_getMut id state.dialogs token _ fun dialog active => ?_
        rcases Dialog.acceptRemoteCseq_cases active request.cseq with
          ⟨-, -, accepted⟩ | ⟨-, -, accepted⟩ | ⟨error, rejected⟩
        · rw [accepted]
          exact ⟨active, rfl⟩
        · rw [accepted]
          exact ⟨active, rfl⟩
        · rw [rejected]
          exact ⟨active, rfl⟩
      · exact .refl id state.dialogs
  · exact .refl id state.dialogs

/-- Addressing a request changes the dialogs as its numbering does. -/
theorem dialogs_addressRequest
    (state : DialogSignaling) (template : RequestTemplate) (method : Method)
    (branch : DialogBranchId) :
    (state.addressRequest template method (some branch)).1.dialogs =
      match state.findDialog template branch with
      | .error _ => state.dialogs
      | .ok (token, _) => (state.numberRequest token method).1.dialogs := by
  unfold addressRequest
  cases found : state.findDialog template branch with
  | error error => simp only [found]
  | ok address =>
    simp only [found]
    split <;> simp [*]

/-- A build changes the dialogs as the numbering of its request does. -/
theorem dialogs_buildRequest
    (state : DialogSignaling) (method : Method) (branch : Option DialogBranchId)
    (generated : Except SignalingError (List ViaEntry))
    (renders : OutboundRequest → Except SignalingError Unit) :
    (state.buildRequest method branch generated renders).1.dialogs =
      match state.requestToken method branch generated with
      | none => state.dialogs
      | some token => (state.numberRequest token method).1.dialogs := by
  cases prepared : state.prepareRequest method generated with
  | error error => simp only [buildRequest, requestToken, prepared]
  | ok parts =>
    obtain ⟨via, template⟩ := parts
    have addressed : (state.buildRequest method branch generated renders).1 =
        (state.addressRequest template method branch).1 := by
      simp only [buildRequest, prepared]
      split <;> simp [*]
    simp only [addressed, requestToken, prepared]
    cases branch with
    | none => rfl
    | some branch =>
      rw [dialogs_addressRequest]
      cases found : state.findDialog template branch <;>
        simp [found, Except.toOption]

/-- The dialog found for a branch is registered under the identity that the
template names. -/
theorem findDialog_eq_ok {token : DialogToken} {toHeader : ToHeader}
    (found : state.findDialog template branch = .ok (token, toHeader)) :
    ∃ id, dialogIdFor template branch = .ok id ∧ state.dialogs.tokenFor id = some token := by
  unfold findDialog at found
  obtain ⟨id, named, found⟩ := Outcome.bind_eq_ok.mp found
  refine ⟨id, named, ?_⟩
  cases registered : state.dialogs.tokenFor id with
  | none => simp [registered] at found
  | some other =>
    simp only [registered] at found
    obtain ⟨toHeader, -, returned⟩ := Outcome.bind_eq_ok.mp found
    cases returned
    rfl

/-- The token of a request names a registered dialog. -/
theorem registered_of_requestToken {method : Method} {branch : Option DialogBranchId}
    {generated : Except SignalingError (List ViaEntry)} {token : DialogToken}
    (addressed : state.requestToken method branch generated = some token) :
    ∃ dialog, state.dialogs.get token = .ok dialog := by
  unfold requestToken at addressed
  split at addressed
  next via template branch prepared =>
    cases found : state.findDialog template branch with
    | error error => simp [found, Except.toOption] at addressed
    | ok parts =>
      simp only [found, Except.toOption, Option.map_some, Option.some.injEq] at addressed
      subst addressed
      obtain ⟨id, -, registered⟩ := findDialog_eq_ok found
      obtain ⟨dialog, -, -, known⟩ := get_of_tokenFor registered
      exact ⟨dialog, known⟩
  · cases addressed

/-- Numbering an ACK changes nothing; every other request allocates. -/
theorem dialogs_numberRequest
    (state : DialogSignaling) (token : DialogToken) (method : Method) :
    (state.numberRequest token method).1.dialogs =
      if method = .ack then state.dialogs
      else (state.dialogs.getMut token fun dialog =>
        dialog.nextLocalCseq method).1 := by
  unfold numberRequest
  split
  · rw [if_pos rfl]
    split <;> rfl
  next other =>
    rw [if_neg other]
    split <;> simp [*]

/-- What a build does to the number of an active dialog. -/
theorem localSequence_buildRequest (registered : state.dialogs.dialogOf id = some dialog)
    (active : dialog.Active) (method : Method) (branch : Option DialogBranchId)
    (generated : Except SignalingError (List ViaEntry))
    (renders : OutboundRequest → Except SignalingError Unit) :
    ∃ next, (state.buildRequest method branch generated renders).1.dialogs.dialogOf id = some next ∧
      next.Active ∧
      ((state.Numbers id (.build method branch generated renders) ∧
          next.localSequence.toNat = dialog.localSequence.toNat + 1) ∨
        (¬state.Numbers id (.build method branch generated renders) ∧
          next.localSequence = dialog.localSequence)) := by
  rw [dialogs_buildRequest]
  cases addressed : state.requestToken method branch generated with
  | none =>
    refine ⟨dialog, registered, active, .inr ⟨?_, rfl⟩⟩
    rintro ⟨reached, -⟩
    simp [addressed] at reached
  | some token =>
    obtain ⟨known, get⟩ := registered_of_requestToken addressed
    simp only [dialogs_numberRequest]
    by_cases same : id = token.id
    · subst same
      have isKnown : known = dialog := by
        rw [dialogOf_of_get get] at registered
        exact Option.some.inj registered
      subst isKnown
      have numbers : state.Numbers token.id (.build method branch generated renders) ↔
            known.CanNumber method := by
        simp [Numbers, addressed, registered]
      rw [numbers]
      split_ifs with acknowledges
      · subst acknowledges
        exact ⟨known, registered, active, .inr ⟨by simp [Dialog.CanNumber,
          Dialog.reusesSequence], rfl⟩⟩
      · rw [dialogOf_getMut get, if_pos rfl]
        rcases Dialog.nextLocalCseq_cases active method with
          ⟨can, advanced, number⟩ | ⟨cannot, same⟩
        · exact ⟨_, rfl, by rw [advanced]; exact active, .inl ⟨can, by rw [advanced]; exact number⟩⟩
        · exact ⟨_, rfl, by rw [same]; exact active, .inr ⟨cannot, by rw [same]⟩⟩
    · have other :
          ¬state.Numbers id (.build method branch generated renders) := by
        rintro ⟨reached, -⟩
        simp only [addressed, Option.map_some, Option.some.injEq] at reached
        exact same reached.symm
      refine ⟨dialog, ?_, active, .inr ⟨other, rfl⟩⟩
      split_ifs
      · exact registered
      · rw [dialogOf_getMut get, if_neg same]
        exact registered

/-- What one operation does to the number of an active dialog. -/
theorem localSequence_apply (registered : state.dialogs.dialogOf id = some dialog)
    (active : dialog.Active) (operation : DialogOperation) :
    ∃ next, (state.apply operation).dialogs.dialogOf id = some next ∧ next.Active ∧
      ((state.Numbers id operation ∧ next.localSequence.toNat = dialog.localSequence.toNat + 1) ∨
        (¬state.Numbers id operation ∧ next.localSequence = dialog.localSequence)) := by
  have kept (keeps : KeepsNumber id state.dialogs (state.apply operation).dialogs)
      (other : ¬state.Numbers id operation) :
      ∃ next, (state.apply operation).dialogs.dialogOf id = some next ∧ next.Active ∧
        ((state.Numbers id operation ∧ next.localSequence.toNat = dialog.localSequence.toNat + 1) ∨
          (¬state.Numbers id operation ∧ next.localSequence = dialog.localSequence)) := by
    obtain ⟨next, found, nextActive, same⟩ := keeps dialog registered active
    exact ⟨next, found, nextActive, .inr ⟨other, same⟩⟩
  cases operation with
  | install template =>
    exact kept (.refl id state.dialogs) (fun numbers => numbers)
  | remember branch response grants allocated =>
    exact kept (keepsNumber_rememberConfirmed id state branch response grants
      allocated) (fun numbers => numbers)
  | build method branch generated renders =>
    exact localSequence_buildRequest registered active method branch generated renders
  | receive request advance =>
    exact kept (keepsNumber_inDialogRequestIsValid id state request advance)
      (fun numbers => numbers)
  | beginShutdown => exact kept (.refl id state.dialogs) (fun numbers => numbers)

/-- What a run does to the number of an active dialog. -/
theorem localSequence_after (registered : state.dialogs.dialogOf id = some dialog)
    (active : dialog.Active) (operations : List DialogOperation) :
    ∃ next, (state.after operations).dialogs.dialogOf id = some next ∧ next.Active ∧
      dialog.localSequence.toNat ≤ next.localSequence.toNat ∧
      (next.localSequence = dialog.localSequence ↔ Run.AllSteps
          (fun earlier operation => ¬(state.after earlier).Numbers id operation)
          operations) := by
  induction operations using List.reverseRecOn with
  | nil => exact ⟨dialog, registered, active, Nat.le_refl _, by simp⟩
  | append_singleton earlier operation ih =>
    obtain ⟨before, found, stillActive, bounded, unchanged⟩ := ih
    obtain ⟨next, foundNext, nextActive, step⟩ := localSequence_apply found stillActive operation
    have reached : state.after (earlier ++ [operation]) =
        (state.after earlier).apply operation := by
      simp [after]
    rw [reached, Run.allSteps_concat, ← unchanged]
    refine ⟨next, foundNext, nextActive, ?_⟩
    rcases step with ⟨numbers, advanced⟩ | ⟨other, same⟩
    · refine ⟨by omega, fun back => ?_, fun met => absurd numbers met.2⟩
      rw [back] at advanced
      omega
    · rw [same]
      exact ⟨bounded, fun back => ⟨back, other⟩, fun met => met.1⟩

/-- The response registers a dialog that was not known before. -/
structure Records
    (state : DialogSignaling) (branch : DialogBranchId)
    (response : DialogResponse) (grants : Nat → Bool) (allocated : Bool)
    (id : DialogId) : Prop where
  identity : fromUacResponse response = .ok id
  unknown : state.dialogs.tokenFor id = none
  accepted : (state.rememberConfirmed branch response grants allocated).2 = .ok ()

section Records

variable {response : DialogResponse} {grants : Nat → Bool} {allocated : Bool}

/-- What recording a response checked and did. -/
theorem Records.registerDialog
    (recorded : state.Records branch response grants allocated id) :
    id.remoteTag.text = branch.asStr ∧ ∃ routeSet remoteTarget,
        state.rememberConfirmed branch response grants allocated =
          state.registerDialog id routeSet remoteTarget response.cseq.sequence allocated := by
  have accepted := recorded.accepted
  unfold rememberConfirmed at accepted ⊢
  cases installed : state.template with
  | none => simp [installed] at accepted
  | some template =>
    simp only [installed] at accepted ⊢
    cases routing : dialogRouting grants response template.requestUri with
    | error error => simp [routing] at accepted
    | ok parts =>
      simp only [routing, recorded.identity, recorded.unknown] at accepted ⊢
      split_ifs at accepted ⊢ with mismatch
      exact ⟨not_not.mp mismatch, parts.2, parts.1, rfl⟩

/-- A recorded dialog is active and starts with the number of its response. -/
theorem Records.registered
    (recorded : state.Records branch response grants allocated id) :
    ∃ dialog, (state.rememberConfirmed branch response grants allocated).1.dialogs.dialogOf
        id = some dialog ∧
      dialog.Active ∧ dialog.localSequence = response.cseq.sequence := by
  obtain ⟨-, routeSet, remoteTarget, registers⟩ := recorded.registerDialog
  have accepted := recorded.accepted
  rw [registers] at accepted ⊢
  unfold DialogSignaling.registerDialog at accepted ⊢
  cases created : Dialog.new id .confirmed routeSet remoteTarget
      response.cseq.sequence none with
  | error error => simp [created] at accepted
  | ok dialog =>
    have fields := Dialog.new_eq_ok created
    simp only [created] at accepted ⊢
    cases inserted : state.dialogs.insert dialog allocated with
    | mk dialogs outcome =>
      simp only [inserted] at accepted ⊢
      cases outcome with
      | error error => simp at accepted
      | ok token =>
        obtain ⟨found, active⟩ := dialogOf_insert_self inserted
        subst fields
        exact ⟨_, found, active, rfl⟩

/-- A response with the identity of the template's INVITE records the dialog
that the template names for its branch. -/
theorem Records.dialogIdFor_eq
    (recorded : state.Records branch response grants allocated id)
    {template : RequestTemplate} (sameCall : response.callId = template.callId)
    (sameTag : response.fromHeader.tag = template.fromHeader.tag) :
    dialogIdFor template branch = .ok id := by
  obtain ⟨isBranch, -⟩ := recorded.registerDialog
  have identity := recorded.identity
  unfold fromUacResponse at identity
  unfold dialogIdFor
  rw [← sameTag, ← sameCall, ← isBranch]
  cases localTag : response.fromHeader.tag with
  | none => simp [localTag] at identity
  | some localTag =>
    cases remoteTag : response.toHeader.tag with
    | none => simp [localTag, remoteTag] at identity
    | some remoteTag =>
      simp only [localTag, remoteTag, DialogId.new_text, Except.ok.injEq] at identity ⊢
      subst identity
      rfl

end Records

/-- The number of an addressed ACK is that of its dialog. -/
theorem sequence_of_addressRequest
    {next : DialogSignaling}
    {address : RequestAddress}
    (named : dialogIdFor template branch = .ok id)
    (registered : state.dialogs.dialogOf id = some dialog)
    (addressed : state.addressRequest template .ack (some branch) = (next, .ok address)) :
    address.cseq.sequence = dialog.localSequence := by
  unfold addressRequest at addressed
  cases found : state.findDialog template branch with
  | error error => simp [found] at addressed
  | ok parts =>
    obtain ⟨token, toHeader⟩ := parts
    obtain ⟨other, namedOther, known⟩ := findDialog_eq_ok found
    obtain rfl : other = id := by simpa [named, eq_comm] using namedOther
    obtain ⟨current, -, isCurrent, get⟩ := get_of_tokenFor known
    obtain rfl : current = dialog := by simpa [registered, eq_comm] using isCurrent
    simp only [found, numberRequest, get, newCseq] at addressed
    split_ifs at addressed with exceeds
    · simp at addressed
    · cases routed : state.routeRequest token with
      | error error => simp [routed, Except.map] at addressed
      | ok routing =>
        simp only [routed, Except.map, Prod.mk.injEq, Except.ok.injEq] at addressed
        rw [← addressed.2]

/-- The number of a built ACK is that of its dialog. -/
theorem sequence_of_ack
    {generated : Except SignalingError (List ViaEntry)}
    {renders : OutboundRequest → Except SignalingError Unit}
    {request : OutboundRequest}
    (installed : state.template = some template) (addressed : dialogIdFor template branch = .ok id)
    (registered : state.dialogs.dialogOf id = some dialog)
    (built : (state.buildRequest .ack (some branch) generated renders).2 = .ok request) :
    request.cseq.sequence = dialog.localSequence := by
  unfold buildRequest at built
  cases prepared : state.prepareRequest .ack generated with
  | error error => simp [prepared] at built
  | ok parts =>
    obtain ⟨via, other⟩ := parts
    have isTemplate : other = template := by
      unfold prepareRequest at prepared
      obtain ⟨via, -, returned⟩ := Outcome.bind_eq_ok.mp prepared
      rw [installed] at returned
      cases returned
      rfl
    subst isTemplate
    simp only [prepared] at built
    cases address : state.addressRequest other .ack (some branch) with
    | mk next outcome =>
      simp only [address] at built
      cases outcome with
      | error error => simp at built
      | ok parts =>
        have isRequest : request = assembleRequest other .ack via parts := by
          cases rendered : renders (assembleRequest other .ack via parts) with
          | error error => simp [rendered, Except.map] at built
          | ok done => simpa [rendered, Except.map, eq_comm] using built
        rw [isRequest]
        exact sequence_of_addressRequest addressed registered address

/-- After a response has recorded a dialog, every ACK that is built for that
dialog has the number of the response exactly when no request was numbered in
the dialog since.  The dialog is the one of the response's branch when the
response carries the `Call-ID` and the `From` tag of the INVITE. -/
theorem ack_number_kept_iff
    (state : DialogSignaling) (branch : DialogBranchId)
    (response : DialogResponse) (grants : Nat → Bool) (allocated : Bool) (id : DialogId)
    (recorded : state.Records branch response grants allocated id) :
    let start := (state.rememberConfirmed branch response grants allocated).1
    (∀ template : RequestTemplate, response.callId = template.callId →
      response.fromHeader.tag = template.fromHeader.tag →
      dialogIdFor template branch = .ok id) ∧
    ∀ (operations : List DialogOperation) (template : RequestTemplate)
        (ackBranch : DialogBranchId)
        (generated : Except SignalingError (List ViaEntry))
        (renders : OutboundRequest → Except SignalingError Unit)
        (request : OutboundRequest), (start.after operations).template = some template →
      dialogIdFor template ackBranch = .ok id →
      ((start.after operations).buildRequest .ack (some ackBranch) generated
        renders).2 = .ok request →
      (request.cseq.sequence = response.cseq.sequence ↔ Run.AllSteps
          (fun earlier operation => ¬(start.after earlier).Numbers id operation)
          operations) := by
  obtain ⟨dialog, registered, active, number⟩ := recorded.registered
  refine ⟨fun template => recorded.dialogIdFor_eq, ?_⟩
  intro operations template ackBranch generated renders request installed addressed built
  obtain ⟨next, found, -, -, unchanged⟩ := localSequence_after registered active operations
  rw [sequence_of_ack installed addressed found built, ← number]
  exact unchanged

/-- The template of a sample INVITE. -/
def sampleTemplate : RequestTemplate where
  requestUri := .absolute ⟨"tel", "1"⟩
  fromHeader := ⟨.addrSpec (.absolute ⟨"tel", "2"⟩), some tagA, []⟩
  initialTo := ⟨.addrSpec (.absolute ⟨"tel", "1"⟩), none, []⟩
  callId := "one@example.com"
  inviteSequence := 1
  activeInviteVia := [inviteRequest.topmostVia]
  maxForwards := 70
  extensionHeaders := []

/-- A 2xx response to that INVITE. -/
def sampleAnswer : DialogResponse where
  callId := sampleTemplate.callId
  fromHeader := sampleTemplate.fromHeader
  toHeader := { sampleTemplate.initialTo with tag := some tagB }
  cseq := ⟨1, .invite⟩
  routingFields := [.contact (some [.absolute ⟨"tel", "3"⟩])]

/-- The call of that INVITE, before the response. -/
def sampleCall : DialogSignaling := ⟨some sampleTemplate, 4, 1, false, ∅⟩

/-- The call once the response was recorded. -/
def answeredCall : DialogSignaling :=
  (sampleCall.rememberConfirmed (branchOfTag tagB) sampleAnswer (fun _ => true) true).1

/-- Build a sample request on the branch of the response. -/
def sampleBuild (method : Method) : DialogOperation :=
  .build method (some (branchOfTag tagB)) (.ok [inviteRequest.topmostVia]) (fun _ => .ok ())

/-- Receive the response once more. -/
def sampleRetransmission : DialogOperation :=
  .remember (branchOfTag tagB) sampleAnswer (fun _ => true) true

theorem records_sampleAnswer :
    sampleCall.Records (branchOfTag tagB) sampleAnswer (fun _ => true) true
      ⟨"one@example.com", tagA, tagB⟩ :=
  ⟨rfl, rfl, rfl⟩

/-- The ACK of a retransmitted response has the number of the INVITE. -/
theorem ack_number_kept_retransmission :
    ∃ request, ((answeredCall.after [sampleRetransmission]).buildRequest .ack
        (some (branchOfTag tagB)) (.ok [inviteRequest.topmostVia])
        (fun _ => .ok ())).2 = .ok request ∧
      request.cseq.sequence = sampleAnswer.cseq.sequence := by
  refine ⟨_, rfl, ?_⟩
  refine ((ack_number_kept_iff sampleCall (branchOfTag tagB) sampleAnswer
    (fun _ => true) true ⟨"one@example.com", tagA, tagB⟩ records_sampleAnswer).2
    [sampleRetransmission] sampleTemplate (branchOfTag tagB)
    (.ok [inviteRequest.topmostVia]) (fun _ => .ok ()) _ rfl rfl rfl).mpr ?_
  exact (Run.allSteps_concat _ [] sampleRetransmission).mpr ⟨by simp, fun numbers => numbers⟩

/-- When a BYE was built before the response is retransmitted, the ACK of the
response has the number of the BYE. -/
theorem ack_number_moved_by_bye :
    sampleCall.Records (branchOfTag tagB) sampleAnswer (fun _ => true) true
        ⟨"one@example.com", tagA, tagB⟩ ∧
      ∃ request, ((answeredCall.after
          [sampleBuild .ack, sampleBuild .bye, sampleRetransmission]).buildRequest
          .ack (some (branchOfTag tagB)) (.ok [inviteRequest.topmostVia])
          (fun _ => .ok ())).2 = .ok request ∧
        request.cseq = ⟨2, .ack⟩ ∧
        request.cseq.sequence ≠ sampleAnswer.cseq.sequence := by
  refine ⟨records_sampleAnswer, _, rfl, rfl, ?_⟩
  decide

end DialogSignaling
end Call
end LiveAISIP
