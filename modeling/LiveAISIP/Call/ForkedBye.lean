import LiveAISIP.Call.Batches

/-!
# The BYE of a losing fork

Every dialog that a 2xx confirmed is registered with the engine, and a BYE that is
valid in any of them is reported as the end of the call.  Which branch the call
selected is known to the lifecycle alone, and neither side compares the two: a
BYE ends the call for its own dialog only where the peers send none on a fork
that lost.
-/

namespace LiveAISIP
namespace Call

open Sip Transaction Effect
open Dialog (DialogId)

/-- The dialog that a received request names; its `To` tag is the local one. -/
def InDialogRequest.dialogId (request : InDialogRequest) : Option DialogId :=
  match request.toHeader.tag, request.fromHeader.tag with
  | some localTag, some remoteTag =>
    (DialogId.new request.callId localTag.text remoteTag.text).toOption
  | _, _ => none

namespace SignalingEngine

variable {δ : Type}

variable {codec : MessageCodec} {engine : SignalingEngine δ}

/-- The request is a BYE of a registered dialog, with a number that is new there. -/
def IsValidBye (engine : SignalingEngine δ) (request : InboundRequest) : Prop :=
  request.method = .bye ∧
    (engine.dialog.inDialogRequestIsValid request.toInDialogRequest true).2 = true

/-- Once counted, the request gets a server transaction that passes it up. -/
def PassesUp
    (codec : MessageCodec) (now : Duration) (engine : SignalingEngine δ)
    (request : InboundRequest) (turn : Turn δ) : Prop :=
  ∃ destination known opened token, turn.destination = .ok destination ∧
    routed (fun manager => manager.routeRequest request.toValidatedRequest)
      (countReceived engine).1 = (known, .ok .new) ∧
    openServer codec request destination turn now known = (opened, .ok (some token))

/-- Only a valid BYE is classified as an event. -/
theorem event_classifyInboundRequest
    (state : DialogSignaling) (request : InboundRequest) :
    (classifyInboundRequest state request).2.2 =
      if request.method = .bye ∧
          (state.inDialogRequestIsValid request.toInDialogRequest true).2 = true then
        some .remoteBye
      else
        none := by
  unfold classifyInboundRequest
  by_cases bye : request.method = .bye
  · rw [if_pos bye]
    rcases state.inDialogRequestIsValid request.toInDialogRequest true with
      ⟨next, valid | valid⟩
    · simp only [Bool.false_eq_true, if_false, and_false]
      split_ifs
      · rfl
      · split <;> rfl
    · simp [bye]
  · rw [if_neg bye]
    simp only [Bool.false_eq_true, if_false, bye, false_and]
    split_ifs
    · rfl
    · split <;> rfl

theorem keeps_dialog_onCall
    (dialog : DialogSignaling) (inner : CallSignaling δ → CallSignaling.Result δ α) :
    Effect.Keeps (fun engine => engine.dialog = dialog) (onCall inner) :=
  keeps_zoom fun _ same => same

/-- A new server transaction leaves the dialogs. -/
theorem keeps_dialog_openServer
    (dialog : DialogSignaling) (codec : MessageCodec) (request : InboundRequest)
    (destination : δ) (turn : Turn δ) (now : Duration) :
    Effect.Keeps (fun engine => engine.dialog = dialog)
      (openServer codec request destination turn now) := by
  unfold openServer
  refine (keeps_ofExcept _).bind fun transaction => ?_
  refine (keeps_dialog_onCall dialog _).bind fun started => ?_
  exact (keeps_dialog_onCall dialog _).bind fun _ => keeps_pure _

/-- A request that is passed up is answered with its classification. -/
theorem event_of_answerRequest {request : InboundRequest} {destination : δ}
    {turn : Turn δ} {now : Duration} {next : SignalingEngine δ} {event : Option CallEvent}
    (answered : answerRequest codec request destination turn now engine = (next, .ok event)) :
    ∃ opened token, openServer codec request destination turn now engine = (opened, .ok token) ∧
      event = token.bind fun _ =>
        (classifyInboundRequest engine.dialog request).2.2 := by
  obtain ⟨opened, token, opens, rest⟩ := bind_eq_ok.mp answered
  refine ⟨opened, token, opens, ?_⟩
  have dialog := keeps_dialog_openServer engine.dialog codec request destination turn now engine rfl
  rw [opens] at dialog
  cases token with
  | none =>
    cases rest
    rfl
  | some token =>
    obtain ⟨classified, answer, classifies, rest⟩ := bind_eq_ok.mp rest
    obtain ⟨_, response, _, rest⟩ := bind_eq_ok.mp rest
    obtain ⟨_, responded, _, rest⟩ := bind_eq_ok.mp rest
    obtain ⟨_, sent, _, rest⟩ := bind_eq_ok.mp rest
    cases rest
    have same : answer = (classifyInboundRequest opened.dialog request).2 :=
      (Except.ok.inj (congrArg Prod.snd classifies)).symm
    rw [same, dialog]
    rfl

/-- A received request is reported exactly when it is a valid BYE that is passed
up, and then as the end of the call. -/
theorem receive_request {now : Duration} {request : InboundRequest}
    {turn : Turn δ} {outcome : Option SignalingOutcome}
    (received : (engine.receive codec now (.request request) turn).2 = .ok outcome) :
    (outcome = some ⟨.remoteBye, none⟩ ∧ engine.IsValidBye request ∧
      engine.PassesUp codec now request turn) ∨
    (outcome = none ∧ ¬(engine.IsValidBye request ∧ engine.PassesUp codec now request turn)) := by
  rw [receive, countReceived, modify_bind] at received
  obtain ⟨handled, event, handles, returns⟩ := bind_eq_ok.mp (Prod.ext rfl received)
  obtain rfl : event.map (fun event => ⟨event, none⟩) = outcome :=
    Except.ok.inj (congrArg Prod.snd returns)
  clear returns
  obtain ⟨_, destination, goes, rest⟩ := bind_eq_ok.mp handles
  obtain ⟨rfl, reachable⟩ := Prod.mk.inj goes
  split_ifs at rest with ack
  · -- an ACK is never answered
    obtain ⟨_, _, _, returns⟩ := bind_eq_ok.mp rest
    cases returns
    refine .inr ⟨rfl, ?_⟩
    rintro ⟨⟨bye, -⟩, -⟩
    rw [ack] at bye
    cases bye
  · obtain ⟨known, route, routes, rest⟩ := bind_eq_ok.mp rest
    cases route with
    | existing found =>
      obtain ⟨_, _, _, returns⟩ := bind_eq_ok.mp rest
      cases returns
      refine .inr ⟨rfl, ?_⟩
      rintro ⟨-, _, _, _, _, -, new, -⟩
      cases routes.symm.trans new
    | new =>
      obtain ⟨opened, token, opens, rfl⟩ := event_of_answerRequest rest
      have dialog : known.dialog = engine.dialog :=
        (congrArg (fun reached => reached.1.dialog) routes).symm
      cases token with
      | none =>
        refine .inr ⟨rfl, ?_⟩
        rintro ⟨-, other, _, _, _, goesOther, routesOther, opensOther⟩
        cases reachable.symm.trans goesOther
        cases routes.symm.trans routesOther
        cases opens.symm.trans opensOther
      | some token =>
        have passes : engine.PassesUp codec now request turn :=
          ⟨destination, known, opened, token, reachable, routes, opens⟩
        rw [Option.bind_some, dialog, event_classifyInboundRequest]
        split_ifs with valid
        · exact .inl ⟨rfl, valid, passes⟩
        · exact .inr ⟨rfl, fun both => valid both.1⟩

theorem branchEvent_ne_remoteBye
    (response : ValidatedResponse) (branch : DialogBranchId) :
    branchEvent response branch ≠ some .remoteBye := by
  unfold branchEvent
  repeat' split
  all_goals simp

/-- The media of a response leaves the kind of its event. -/
theorem classifyMediaAnswer_ne_remoteBye
    {event : CallEvent} (other : event ≠ .remoteBye)
    (engine : SignalingEngine δ) (response : InboundResponse) :
    (engine.classifyMediaAnswer event response).event ≠ .remoteBye := by
  cases event with
  | provisional | inviteAccepted => simp [classifyMediaAnswer]
  | _ => exact other

/-- A response is never reported as a BYE of the peer. -/
theorem receive_response_ne_remoteBye {now : Duration} {response : InboundResponse}
    {turn : Turn δ} {outcome : SignalingOutcome}
    (received : (engine.receive codec now (.response response) turn).2 = .ok (some outcome)) :
    outcome.event ≠ .remoteBye := by
  have reported {reached : SignalingEngine δ}
      (reports : (reportResponse response turn reached).2 = .ok (some outcome)) :
      outcome.event ≠ .remoteBye := by
    obtain ⟨_, event, reads, rest⟩ := bind_eq_ok.mp (Prod.ext rfl reports)
    have named : event ≠ some .remoteBye := by
      have event_eq : _ = event := Except.ok.inj
        (congrArg Prod.snd (responseEvent_eq response.toValidatedResponse ▸ reads))
      rw [← event_eq]
      split_ifs
      · simp
      · exact branchEvent_ne_remoteBye _ _
    cases event with
    | none => cases rest
    | some event =>
      obtain ⟨_, _, _, rest⟩ := bind_eq_ok.mp rest
      obtain ⟨_, _, classifies, rest⟩ := bind_eq_ok.mp rest
      cases classifies
      cases rest
      exact classifyMediaAnswer_ne_remoteBye (by simpa using named) _ response
  obtain ⟨_, _, _, rest⟩ := bind_eq_ok.mp (Prod.ext rfl received)
  obtain ⟨_, _, _, rest⟩ := bind_eq_ok.mp rest
  obtain ⟨_, delivered, _, rest⟩ := bind_eq_ok.mp rest
  cases delivered with
  | false => cases rest
  | true =>
    obtain ⟨_, retried, _, rest⟩ := bind_eq_ok.mp rest
    cases retried with
    | true => cases rest
    | false => exact reported (congrArg Prod.snd rest)

end SignalingEngine

namespace CallRuntime

variable {δ μ : Type}

/-- The request names the dialog of the branch that the lifecycle selected. -/
def Selects (runtime : CallRuntime δ μ) (request : InboundRequest) : Prop :=
  ∃ branch template id, runtime.context.lifecycle.selected = some branch ∧
    runtime.engine.dialog.template = some template ∧
    DialogSignaling.dialogIdFor template branch = .ok id ∧
    request.toInDialogRequest.dialogId = some id

/-- The datagram is reported as a BYE of the peer only if it is one, of the dialog
that is selected when the report is handled. -/
def EndsSelected
    (codec : MessageCodec) (now : Duration) (engine : SignalingEngine δ)
    (datagram : Datagram) (turn : Turn δ) (handler : CallRuntime δ μ) : Prop :=
  ∀ outcome, (engine.receive codec now datagram turn).2 = .ok (some outcome) →
    outcome.event = .remoteBye → ∃ request, datagram = .request request ∧ request.method = .bye ∧
        handler.Selects request

/-- The datagram is no valid BYE of a dialog other than the selected one. -/
def MeetsNoLosingBye
    (codec : MessageCodec) (now : Duration) (engine : SignalingEngine δ)
    (datagram : Datagram) (turn : Turn δ) (handler : CallRuntime δ μ) : Prop :=
  ∀ request, datagram = .request request → engine.IsValidBye request →
    engine.PassesUp codec now request turn → handler.Selects request

/-- The property holds at every datagram of a poll, with the engine that receives
it and the runtime that handles what it is reported as. -/
def AtEveryHandling
    (property : SignalingEngine δ → Datagram → Turn δ → CallRuntime δ μ → Prop)
    (plane : MediaPlane μ) (codec : MessageCodec) (now : Duration)
    (runtime : CallRuntime δ μ) : RuntimeOperation δ μ → Prop
  | .pollSignaling receipts grants =>
    runtime.signalingInstalled = true →
      ∀ engine outcomes earlier datagram turn later handler actions,
        runtime.engine.poll codec receipts now = (engine, .ok outcomes) →
        receipts.take maxSignalingDatagramsPerPoll = earlier ++ (datagram, turn) :: later →
        processOutcomes plane codec now
          ((numbered grants outcomes).take
            (Poll.after codec now runtime.engine earlier).outcomes.length)
          { runtime with engine := engine } = (handler, .ok actions) →
        property (Poll.after codec now runtime.engine earlier).engine datagram turn handler
  | _ => True

/-- A datagram that is received is reported as it should be exactly when it is no
valid BYE of another dialog. -/
theorem endsSelected_iff
    {codec : MessageCodec} {now : Duration} {engine : SignalingEngine δ}
    {datagram : Datagram} {turn : Turn δ} {outcome : Option SignalingOutcome}
    (received : (engine.receive codec now datagram turn).2 = .ok outcome)
    (handler : CallRuntime δ μ) :
    EndsSelected codec now engine datagram turn handler ↔
      MeetsNoLosingBye codec now engine datagram turn handler := by
  constructor
  · rintro ends request rfl valid passes
    rcases SignalingEngine.receive_request received with ⟨rfl, -, -⟩ | ⟨-, other⟩
    · obtain ⟨_, ⟨⟩, -, selects⟩ := ends _ received rfl
      exact selects
    · exact absurd ⟨valid, passes⟩ other
  · intro meets reported reports bye
    cases datagram with
    | broken | malformed => cases reports
    | response response =>
      exact absurd bye (SignalingEngine.receive_response_ne_remoteBye reports)
    | request request =>
      rcases SignalingEngine.receive_request reports with ⟨-, valid, passes⟩ | ⟨⟨⟩, -⟩
      exact ⟨request, rfl, valid.1, meets request rfl valid passes⟩

/-- In every run, every datagram that is reported as a BYE of the peer is a BYE of
the dialog that the lifecycle has selected, exactly when no poll receives a valid
BYE of another dialog. -/
theorem remote_bye_selected_iff
    (plane : MediaPlane μ) (codec : MessageCodec) (runtime : CallRuntime δ μ)
    (operations : List (Duration × RuntimeOperation δ μ)) :
    Run.AllSteps (fun earlier operation =>
        AtEveryHandling (EndsSelected codec operation.1) plane codec operation.1
          (runtime.after plane codec earlier) operation.2) operations ↔
      Run.AllSteps (fun earlier operation =>
        AtEveryHandling (MeetsNoLosingBye codec operation.1) plane codec operation.1
          (runtime.after plane codec earlier) operation.2) operations := by
  refine Run.allSteps_congr (fun earlier operation => ?_) operations
  obtain ⟨now, operation⟩ := operation
  cases operation with
  | pollSignaling receipts grants =>
    simp only [AtEveryHandling]
    refine imp_congr_right fun _ => ?_
    refine forall₄_congr fun engine outcomes first datagram => ?_
    refine forall₄_congr fun turn later handler actions => ?_
    refine imp_congr_right fun returned => ?_
    refine imp_congr_right fun split => ?_
    obtain ⟨outcome, received⟩ := Poll.receives returned split
    exact imp_congr_right fun _ => endsSelected_iff received handler
  | event | media | processDueDeadlines | shutdown => exact Iff.rfl

/-- The `To` tag of a branch that answers late. -/
def tagLate : Tag := ⟨"c", by decide, by decide, by decide⟩

/-- The sample call is answered by two branches. -/
def forkedRun : List (Duration × RuntimeOperation Unit Unit) :=
  [(.fromSecs 1, sampleEvent (.command .start)), (.fromSecs 2, samplePoll [.response
      (sampleInbound inviteRequest.topmostVia ⟨1, .invite⟩ .ok tagB)]),
    (.fromSecs 3, samplePoll [.response
      (sampleInbound inviteRequest.topmostVia ⟨1, .invite⟩ .ok tagLate)])]

/-- A BYE of the branch with this tag. -/
def sampleBye (tag : Tag) : InboundRequest where
  method := .bye
  topmostVia := sampleVia "z9hG4bK-peer"
  cseq := ⟨7, .bye⟩
  bytes := []
  callId := DialogSignaling.sampleTemplate.callId
  fromHeader := ⟨.addrSpec (.absolute ⟨"tel", "1"⟩), some tag, []⟩
  toHeader := ⟨.addrSpec (.absolute ⟨"tel", "2"⟩), some tagA, []⟩
  cseq_method := rfl

/-- The peer of this branch hangs up. -/
def byePoll (tag : Tag) : Duration × RuntimeOperation Unit Unit :=
  (.fromSecs 4, samplePoll [.request (sampleBye tag)])

/-- The call has selected the first branch, and a BYE of the other one ends it. -/
theorem losing_bye_ends_call :
    ∃ runtime, idleRuntime none = some runtime ∧
      (runtime.after sampleMedia sampleCodec forkedRun).context.lifecycle.state = .established ∧
      (runtime.after sampleMedia sampleCodec forkedRun).context.lifecycle.selected =
        some (branchOfTag tagB) ∧
      (runtime.after sampleMedia sampleCodec
        (forkedRun ++ [byePoll tagLate])).context.lifecycle.state = .ended .remoteHangup ∧
      ¬Run.AllSteps (fun earlier operation =>
        AtEveryHandling (EndsSelected sampleCodec operation.1) sampleMedia sampleCodec
          operation.1 (runtime.after sampleMedia sampleCodec earlier) operation.2)
        (forkedRun ++ [byePoll tagLate]) := by
  refine ⟨_, rfl, rfl, rfl, rfl, fun all => ?_⟩
  rw [Run.allSteps_concat] at all
  obtain ⟨request, same, -, branch, template, id, selected, installed, named, names⟩ :=
    all.2 rfl _ _ [] _ _ [] _ _ rfl rfl rfl _ rfl rfl
  cases same
  cases selected
  cases installed
  cases named
  revert names
  decide

end CallRuntime

end Call
end LiveAISIP
