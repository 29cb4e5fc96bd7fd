import LiveAISIP.Call.Requests
import LiveAISIP.Call.RuntimeInvariant
import LiveAISIP.Transaction.ResponseRouting

/-!
# Challenges after a hangup

The engine answers a challenge of the INVITE by itself, before the lifecycle sees
the response.  It does not know of the hangup: where it has credentials for the
current INVITE, a challenge that arrives after the hangup starts a new INVITE, and
every other one is reported as a rejection.
-/

namespace LiveAISIP

open Sip Effect

namespace Transaction
namespace TransactionManager

/-- Every live client is one of those given. -/
def ClientsAmong
    (known : TransactionKey → Nat → Prop) (manager : TransactionManager) : Prop :=
  ∀ key generation, manager.liveGeneration .client key = some generation → known key generation

/-- An operation with the same clients has no new client. -/
theorem ClientsAmong.of_clients
    {known : TransactionKey → Nat → Prop} {manager next : TransactionManager}
    (among : manager.ClientsAmong known) (same : next.clients = manager.clients) :
    next.ClientsAmong known := by
  intro key generation live
  refine among key generation ?_
  simpa only [liveGeneration, same] using live

/-- An operation that issues no token has no new client. -/
theorem ClientsAmong.of_steps
    {known : TransactionKey → Nat → Prop} {manager next : TransactionManager}
    (among : manager.ClientsAmong known) (steps : Steps manager next none) :
    next.ClientsAmong known := by
  intro key generation live
  rcases steps.current ⟨key, generation, .client⟩ live with current | issued
  · exact among key generation current
  · cases issued

/-- Only the start of a client makes a new one. -/
theorem keptQuietly_clientsAmong (known : TransactionKey → Nat → Prop) :
    KeptQuietly (ClientsAmong known) := by
  intro manager operation quiet among
  cases operation with
  | insertClient | startClient | beginShutdown => exact quiet.elim
  | insertServer transaction allocated =>
    exact among.of_clients (manager.changes_insertServer transaction allocated).clients
  | startServer transaction allocated =>
    exact among.of_clients (manager.changes_startServer transaction allocated).clients
  | _ => exact among.of_steps (manager.steps_apply _)

end TransactionManager
end Transaction

namespace Call

open Transaction

namespace SignalingEngine

variable {engine : SignalingEngine δ} {response : InboundResponse}

/-- The response is a challenge of the INVITE. -/
def IsChallenge (response : InboundResponse) : Prop :=
  (response.status.asU16 = 401 ∨ response.status.asU16 = 407) ∧ response.cseq.method = .invite

/-- The transaction of the response passes it up. -/
def Delivers
    (engine : SignalingEngine δ) (response : InboundResponse) (turn : Turn δ)
    (now : Duration) : Prop :=
  (engine.call.pollResponse response.toValidatedResponse turn.grants now).2 = .ok true

/-- The engine has credentials for the INVITE that a response answers. -/
def Answers (engine : SignalingEngine δ) (response : InboundResponse) : Prop :=
  engine.credentials.isSome ∧ ∀ template ∈ engine.dialog.template,
      response.cseq.sequence = template.inviteSequence

/-- Receiving the datagram starts no client, and a challenge of the INVITE that is
passed up is reported as a rejection. -/
structure StartsNoInvite
    (codec : MessageCodec) (now : Duration) (engine : SignalingEngine δ)
    (datagram : Datagram) (turn : Turn δ) : Prop where
  clients : (engine.receive codec now datagram turn).1.call.transactions.ClientsAmong
    fun key generation =>
      engine.call.transactions.liveGeneration .client key = some generation
  rejected : ∀ response, datagram = .response response → IsChallenge response →
    engine.Delivers response turn now → ∃ branch, (engine.receive codec now datagram turn).2 =
        .ok (some ⟨.inviteRejected branch response.status.asU16, none⟩)

/-- The datagram is not a challenge of the INVITE that is passed up and that the
engine has credentials for. -/
def MeetsNoChallenge
    (now : Duration) (engine : SignalingEngine δ) (datagram : Datagram) (turn : Turn δ) : Prop :=
  ∀ response, datagram = .response response →
    ¬(IsChallenge response ∧ engine.Delivers response turn now ∧ engine.Answers response)

theorem isSome_challengedScope_iff (status : StatusCode) : (challengedScope status).isSome = true ↔
      status.asU16 = 401 ∨ status.asU16 = 407 := by
  unfold challengedScope
  split_ifs with server proxy
  · simp [server]
  · simp [proxy]
  · simp [server, proxy]

/-- A challenge that is answered has a scope and credentials. -/
theorem exists_of_answers (challenge : IsChallenge response) (answers : engine.Answers response) :
    ∃ scope credentials, challengedScope response.status = some scope ∧
      engine.credentials = some credentials := by
  obtain ⟨scope, challenged⟩ := Option.isSome_iff_exists.mp
    ((isSome_challengedScope_iff response.status).mpr challenge.1)
  obtain ⟨credentials, known⟩ := Option.isSome_iff_exists.mp answers.1
  exact ⟨scope, credentials, challenged, known⟩

/-- Reading the installed template. -/
theorem installedTemplate_of_some {template : RequestTemplate}
    (installed : engine.dialog.template = some template) :
    installedTemplate engine = (engine, .ok template) := by
  rw [installedTemplate, bind_of_ok (read_apply _ engine), installed]
  rfl

theorem installedTemplate_of_none (missing : engine.dialog.template = none) :
    installedTemplate engine = (engine, .error .initialInviteMissing) := by
  rw [installedTemplate, bind_of_ok (read_apply _ engine), missing]
  rfl

/-- A challenge of the INVITE is looked at with the credentials and the template. -/
theorem retryAuthenticatedInvite_of_credentials
    {scope : AuthScope} {credentials : DigestCredentials}
    (challenged : challengedScope response.status = some scope)
    (method : response.cseq.method = .invite)
    (known : engine.credentials = some credentials) (codec : MessageCodec)
    (turn : Turn δ) (now : Duration) :
    retryAuthenticatedInvite codec response turn now engine =
      (do
        let template ← installedTemplate
        if response.cseq.sequence ≠ template.inviteSequence then
          pure false
        else
          answerChallenge codec response scope credentials template turn now
          pure true : Operation δ Bool) engine := by
  unfold retryAuthenticatedInvite
  simp only [challenged]
  rw [if_neg (not_not.mpr method),
    bind_of_ok (read_apply SignalingEngine.credentials engine), known]

/-- A response that is not answered changes nothing before it is reported. -/
theorem retryAuthenticatedInvite_of_not_answers
    (unanswered : ¬(IsChallenge response ∧ engine.Answers response))
    (codec : MessageCodec) (turn : Turn δ) (now : Duration) :
    retryAuthenticatedInvite codec response turn now engine = (engine, .ok false) := by
  cases challenged : challengedScope response.status with
  | none =>
    unfold retryAuthenticatedInvite
    rw [challenged]
    rfl
  | some scope =>
    have status := (isSome_challengedScope_iff response.status).mp (by simp [challenged])
    by_cases method : response.cseq.method = .invite
    · have spared : ¬engine.Answers response :=
        fun answers => unanswered ⟨⟨status, method⟩, answers⟩
      cases known : engine.credentials with
      | none =>
        unfold retryAuthenticatedInvite
        simp only [challenged]
        rw [if_neg (not_not.mpr method),
          bind_of_ok (read_apply SignalingEngine.credentials engine), known]
        rfl
      | some credentials =>
        obtain ⟨template, installed, other⟩ : ∃ template,
            engine.dialog.template = some template ∧
            response.cseq.sequence ≠ template.inviteSequence := by
          simpa [Answers, known] using spared
        rw [retryAuthenticatedInvite_of_credentials challenged method known,
          bind_of_ok (installedTemplate_of_some installed), if_pos other]
        rfl
    · unfold retryAuthenticatedInvite
      simp only [challenged]
      rw [if_pos method]
      rfl

/-- A challenge of the current INVITE is answered where there are credentials. -/
theorem retryAuthenticatedInvite_of_current
    {scope : AuthScope} {credentials : DigestCredentials} {template : RequestTemplate}
    (challenged : challengedScope response.status = some scope)
    (method : response.cseq.method = .invite) (known : engine.credentials = some credentials)
    (installed : engine.dialog.template = some template)
    (current : response.cseq.sequence = template.inviteSequence)
    (codec : MessageCodec) (turn : Turn δ) (now : Duration) :
    retryAuthenticatedInvite codec response turn now engine =
      (do
        answerChallenge codec response scope credentials template turn now
        pure true : Operation δ Bool) engine := by
  rw [retryAuthenticatedInvite_of_credentials challenged method known,
    bind_of_ok (installedTemplate_of_some installed), if_neg (not_not.mpr current)]

/-- Without a dialled INVITE there is nothing to answer with. -/
theorem retryAuthenticatedInvite_of_missing
    {scope : AuthScope} {credentials : DigestCredentials}
    (challenged : challengedScope response.status = some scope)
    (method : response.cseq.method = .invite) (known : engine.credentials = some credentials)
    (missing : engine.dialog.template = none) (codec : MessageCodec) (turn : Turn δ)
    (now : Duration) :
    retryAuthenticatedInvite codec response turn now engine =
      (engine, .error .initialInviteMissing) := by
  rw [retryAuthenticatedInvite_of_credentials challenged method known,
    bind_of_error (installedTemplate_of_none missing)]

/-- A challenge that is answered is not left to be reported. -/
theorem retryAuthenticatedInvite_of_answers
    (challenge : IsChallenge response) (answers : engine.Answers response)
    (codec : MessageCodec) (turn : Turn δ) (now : Duration) :
    (retryAuthenticatedInvite codec response turn now engine).2 ≠ .ok false := by
  obtain ⟨scope, credentials, challenged, known⟩ := exists_of_answers challenge answers
  cases installed : engine.dialog.template with
  | none =>
    rw [retryAuthenticatedInvite_of_missing challenged challenge.2 known installed]
    rintro ⟨⟩
  | some template =>
    rw [retryAuthenticatedInvite_of_current challenged challenge.2 known installed
      (answers.2 template installed)]
    intro spared
    obtain ⟨last, -, -, returned⟩ := bind_eq_ok.mp (Prod.ext rfl spared)
    cases returned

/-- Counting a response and noting its endpoint leaves everything else. -/
theorem receive_response
    (codec : MessageCodec) (now : Duration) (response : InboundResponse)
    (turn : Turn δ) (engine : SignalingEngine δ) :
    ∃ received observed, engine.receive codec now (.response response) turn =
      takeResponse codec response turn now
        { engine with received := received, observedReflexiveAddr := observed } := by
  have observes (engine : SignalingEngine δ) :
      ∃ observed, engine.observeReflexiveAddr response =
        { engine with observedReflexiveAddr := observed } := by
    unfold observeReflexiveAddr
    split
    · split_ifs <;> exact ⟨_, rfl⟩
    · exact ⟨_, rfl⟩
  let counted := { engine with received := Rtp.saturatingAdd engine.received 1 }
  obtain ⟨noted, same⟩ : ∃ observed, (observeKnown response now counted).1 =
      { counted with observedReflexiveAddr := observed } := by
    simp only [observeKnown, modify_apply]
    split
    · exact ⟨_, rfl⟩
    · exact ⟨_, rfl⟩
    · exact observes counted
  refine ⟨counted.received, noted, ?_⟩
  rw [← same]
  rfl

theorem answers_congr
    {other : SignalingEngine δ} (same : other.settings = engine.settings)
    (response : InboundResponse) :
    other.Answers response ↔ engine.Answers response := by
  have template : other.dialog.template = engine.dialog.template := congrArg Settings.template same
  have credentials : other.credentials = engine.credentials := congrArg Settings.credentials same
  rw [Answers, Answers, template, credentials]

/-- A response is passed up to be answered or reported, or ends at its
transaction. -/
theorem receive_response_cases
    (codec : MessageCodec) (now : Duration) (response : InboundResponse)
    (turn : Turn δ) (engine : SignalingEngine δ) :
    ∃ next : SignalingEngine δ,
      next.call = (engine.call.pollResponse response.toValidatedResponse turn.grants now).1 ∧
      next.settings = engine.settings ∧
      ((engine.Delivers response turn now ∧ engine.receive codec now (.response response) turn =
            (do
              if ← retryAuthenticatedInvite codec response turn now then pure none
              else reportResponse response turn : Operation δ _) next) ∨
        (¬engine.Delivers response turn now ∧
          (engine.receive codec now (.response response) turn).1 = next)) := by
  obtain ⟨count, observed, received⟩ := receive_response codec now response turn engine
  let noted := { engine with received := count, observedReflexiveAddr := observed }
  have settings : noted.settings = engine.settings := rfl
  rw [received, takeResponse, Delivers]
  rcases polled : engine.call.pollResponse response.toValidatedResponse turn.grants now
    with ⟨next, error | delivered⟩
  · have routes : onCall (fun call => call.pollResponse response.toValidatedResponse
        turn.grants now) noted = ({ noted with call := next }, .error error) := by
      rw [onCall_apply, polled]
    rw [bind_of_error routes]
    exact ⟨{ noted with call := next }, rfl, settings, .inr ⟨by simp, rfl⟩⟩
  · have routes : onCall (fun call => call.pollResponse response.toValidatedResponse
        turn.grants now) noted = ({ noted with call := next }, .ok delivered) := by
      rw [onCall_apply, polled]
    rw [bind_of_ok routes]
    cases delivered with
    | true => exact ⟨{ noted with call := next }, rfl, settings, .inl ⟨rfl, rfl⟩⟩
    | false => exact ⟨{ noted with call := next }, rfl, settings, .inr ⟨by simp, rfl⟩⟩

/-- Without a challenge to answer, a datagram starts no client. -/
theorem clientsAmong_receive {codec : MessageCodec} {now : Duration}
    {datagram : Datagram} {turn : Turn δ} (meets : engine.MeetsNoChallenge now datagram turn) :
    (engine.receive codec now datagram turn).1.call.transactions.ClientsAmong
      fun key generation =>
        engine.call.transactions.liveGeneration .client key = some generation := by
  have quietly := TransactionManager.keptQuietly_clientsAmong fun key generation =>
    engine.call.transactions.liveGeneration .client key = some generation
  have before : Has (TransactionManager.ClientsAmong fun key generation =>
      engine.call.transactions.liveGeneration .client key = some generation)
      (fun _ => True) engine := ⟨fun _ _ live => live, trivial⟩
  cases datagram with
  | broken | malformed | request request =>
    refine (keeps_receive quietly ?_ engine before).registry
    rintro response ⟨⟩
  | response response =>
    obtain ⟨next, call, settings, cases⟩ := receive_response_cases codec now response turn engine
    have routed : Has (TransactionManager.ClientsAmong fun key generation =>
        engine.call.transactions.liveGeneration .client key = some generation)
        (fun _ => True) next := by
      refine ⟨?_, trivial⟩
      rw [call]
      exact CallSignaling.keeps_pollResponse quietly _ _ now _ before.registry
    rcases cases with ⟨delivers, received⟩ | ⟨-, received⟩
    · have unanswered : ¬(IsChallenge response ∧ next.Answers response) := by
        rintro ⟨challenge, answers⟩
        exact meets response rfl ⟨challenge, delivers, (answers_congr settings response).mp answers⟩
      rw [received, bind_of_ok (retryAuthenticatedInvite_of_not_answers unanswered codec turn now)]
      exact (keeps_reportResponse response turn next routed).registry
    · rw [received]
      exact routed.registry

/-- A challenge that is reported is reported as a rejection. -/
theorem reportResponse_of_challenge (challenge : IsChallenge response)
    (turn : Turn δ) (engine : SignalingEngine δ) :
    reportResponse response turn engine = (engine, .ok (some
      ⟨.inviteRejected (branchOf response.toValidatedResponse) response.status.asU16, none⟩)) := by
  have failure : ¬response.status.Provisional ∧ ¬response.status.Success ∧
      response.status.asU16 ≠ 100 := by
    simp only [StatusCode.Provisional, StatusCode.Success]
    rcases challenge.1 with status | status <;> omega
  have event : responseEvent response.toValidatedResponse =
      .ok (some (.inviteRejected (branchOf response.toValidatedResponse)
        response.status.asU16)) := by
    rw [responseEvent, if_neg failure.2.2, new_branchText]
    simp only [branchEvent, challenge.2, if_neg failure.1, if_neg failure.2.1]
  rw [reportResponse, event]
  rfl

/-- A datagram starts no INVITE exactly when it is not a challenge that the engine
answers. -/
theorem startsNoInvite_iff
    (codec : MessageCodec) (now : Duration) (engine : SignalingEngine δ)
    (datagram : Datagram) (turn : Turn δ) :
    engine.StartsNoInvite codec now datagram turn ↔ engine.MeetsNoChallenge now datagram turn := by
  constructor
  · rintro spared response rfl ⟨challenge, delivers, answers⟩
    obtain ⟨branch, reported⟩ := spared.rejected response rfl challenge delivers
    obtain ⟨next, -, settings, cases⟩ := receive_response_cases codec now response turn engine
    rcases cases with ⟨-, received⟩ | ⟨undelivered, -⟩
    · rw [received] at reported
      obtain ⟨middle, retried, retry, rest⟩ := bind_eq_ok.mp (Prod.ext rfl reported)
      cases retried with
      | true => cases rest
      | false =>
        exact retryAuthenticatedInvite_of_answers challenge
          ((answers_congr settings response).mpr answers) codec turn now
          (congrArg Prod.snd retry)
    · exact undelivered delivers
  · intro meets
    refine ⟨clientsAmong_receive meets, ?_⟩
    rintro response rfl challenge delivers
    obtain ⟨next, -, settings, cases⟩ := receive_response_cases codec now response turn engine
    rcases cases with ⟨-, received⟩ | ⟨undelivered, -⟩
    · have unanswered : ¬(IsChallenge response ∧ next.Answers response) := by
        rintro ⟨-, answers⟩
        exact meets response rfl ⟨challenge, delivers, (answers_congr settings response).mp answers⟩
      rw [received, bind_of_ok (retryAuthenticatedInvite_of_not_answers unanswered codec turn now)]
      exact ⟨_, congrArg Prod.snd (reportResponse_of_challenge challenge turn next)⟩
    · exact absurd delivers undelivered

end SignalingEngine

namespace CallLifecycle

/-- A hangup was accepted, or the call has ended. -/
def IsHungUp (call : CallLifecycle) : Prop := call.state = .cancelling ∨ call.state = .terminating ∨
    ∃ reason, call.state = .ended reason

/-- A call that is being cancelled was asked to be. -/
def MeansToCancel (call : CallLifecycle) : Prop :=
  call.state = .cancelling → call.cancelRequested = true

theorem MeansToCancel.step
    {call next : CallLifecycle} {operation : CallOperation}
    {actions : List CallAction} (means : call.MeansToCancel)
    (transition : call.Transition operation next actions) :
    next.MeansToCancel := by
  intro cancelling
  cases transition with
  | keeps state selected requested =>
    rw [requested]
    exact means (state.symm.trans cancelling)
  | cancels => rfl
  | repeats branch takes wanted selection noted => exact means cancelling
  | starts | hangsUp | declines | selects => cases cancelling
  | ends reason live ended =>
    rw [ended] at cancelling
    cases cancelling

/-- A call that was hung up stays so. -/
theorem IsHungUp.step
    {call next : CallLifecycle} {operation : CallOperation}
    {actions : List CallAction} (hungUp : call.IsHungUp) (means : call.MeansToCancel)
    (transition : call.Transition operation next actions) :
    next.IsHungUp := by
  cases transition with
  | keeps state =>
    rw [IsHungUp, state]
    exact hungUp
  | cancels => exact .inl rfl
  | hangsUp | declines => exact .inr (.inl rfl)
  | repeats => exact hungUp
  | ends reason live ended => exact .inr (.inr ⟨reason, ended⟩)
  | starts start idle => simp [IsHungUp, idle] at hungUp
  | selects branch takes wanted =>
    -- a first answer is selected only where nothing was cancelled
    rcases hungUp with cancelling | terminating | ⟨reason, ended⟩
    · simp [means cancelling] at wanted
    · exact absurd terminating wanted.2
    · have live := takes.2.1.not_terminal
      rw [ended] at live
      cases live

end CallLifecycle

namespace CallRuntime

variable {δ μ : Type}

/-- A hangup of the call was accepted, or the call has ended. -/
def IsHungUp (runtime : CallRuntime δ μ) : Prop := runtime.context.lifecycle.IsHungUp

/-- An invariant of the lifecycle holds after every run. -/
theorem lifecycle_after
    {Lifecycle : CallLifecycle → Prop}
    (applies : ∀ call operation, Lifecycle call → Lifecycle (call.apply operation).1)
    (plane : MediaPlane μ) (codec : MessageCodec) {runtime : CallRuntime δ μ}
    (initial : Lifecycle runtime.context.lifecycle)
    (operations : List (Duration × RuntimeOperation δ μ)) :
    Lifecycle (runtime.after plane codec operations).context.lifecycle := by
  refine (Run.invariant (Sound Lifecycle fun _ => True) ⟨initial, trivial⟩ ?_ operations).lifecycle
  intro state operation holds
  exact keeps_perform applies engineRule_true plane (fun _ _ _ _ _ => trivial) state holds

/-- In every run of a fresh call a hangup is final, and after it no poll starts a
client and every challenge of the INVITE is reported as a rejection, exactly when
no poll after the hangup comes to a challenge that is passed up for the current
INVITE while the call has credentials. -/
theorem no_invite_after_hangup_iff
    (plane : MediaPlane μ) (codec : MessageCodec) (runtime : CallRuntime δ μ)
    (fresh : runtime.context.lifecycle = .idle)
    (operations : List (Duration × RuntimeOperation δ μ)) :
    (∀ earlier later, operations = earlier ++ later → (runtime.after plane codec earlier).IsHungUp →
        (runtime.after plane codec operations).IsHungUp) ∧
    (Run.AllSteps (fun earlier operation =>
        (runtime.after plane codec earlier).IsHungUp →
          AtEveryDatagram (SignalingEngine.StartsNoInvite codec operation.1) codec
            operation.1 (runtime.after plane codec earlier) operation.2) operations ↔
      Run.AllSteps (fun earlier operation =>
        (runtime.after plane codec earlier).IsHungUp →
          AtEveryDatagram (SignalingEngine.MeetsNoChallenge operation.1) codec
            operation.1 (runtime.after plane codec earlier) operation.2)
        operations) := by
  constructor
  · rintro earlier later rfl hungUp
    have means : (runtime.after plane codec earlier).context.lifecycle.MeansToCancel := by
      refine lifecycle_after (fun call operation means =>
        means.step (call.transition_apply operation)) plane codec ?_ earlier
      rw [fresh]
      rintro ⟨⟩
    have applies (call : CallLifecycle) (operation : CallOperation)
        (both : call.MeansToCancel ∧ call.IsHungUp) :
        (call.apply operation).1.MeansToCancel ∧ (call.apply operation).1.IsHungUp :=
      ⟨both.1.step (call.transition_apply operation),
        both.2.step both.1 (call.transition_apply operation)⟩
    have stays := lifecycle_after applies plane codec ⟨means, hungUp⟩ later
    rw [after, Run.after_append]
    exact stays.2
  · refine Run.allSteps_congr (fun earlier operation => ?_) operations
    refine imp_congr_right fun _ => ?_
    obtain ⟨now, operation⟩ := operation
    cases operation with
    | pollSignaling receipts grants =>
      simp only [AtEveryDatagram, SignalingEngine.startsNoInvite_iff]
    | event | media | processDueDeadlines | shutdown => exact Iff.rfl

/-- A `401 Unauthorized` to the sample INVITE, with a challenge. -/
def sampleChallenge (nonce : String) : InboundResponse :=
  { sampleInbound inviteRequest.topmostVia ⟨1, .invite⟩
      ⟨401, by decide, by decide⟩ tagB with
    challengeFields := [(.server, .challenge ⟨"Digest",
      [⟨"realm", "sip", true⟩, ⟨"nonce", nonce, true⟩]⟩)] }

/-- The sample call is started and hung up. -/
def hangupRun : List (Duration × RuntimeOperation Unit Unit) :=
  [(.fromSecs 1, sampleEvent (.command .start)), (.fromSecs 2, sampleEvent (.command .hangup))]

/-- Then its INVITE is challenged. -/
def latePoll : Duration × RuntimeOperation Unit Unit :=
  (.fromSecs 3, samplePoll [.response (sampleChallenge "one")])

/-- Without credentials, the challenge after the hangup is a rejection. -/
theorem late_challenge_rejected :
    ∃ runtime, idleRuntime none = some runtime ∧
      (runtime.after sampleMedia sampleCodec (hangupRun ++ [latePoll])).IsHungUp ∧
      Run.AllSteps (fun earlier operation =>
        (runtime.after sampleMedia sampleCodec earlier).IsHungUp →
          AtEveryDatagram (SignalingEngine.StartsNoInvite sampleCodec operation.1)
            sampleCodec operation.1 (runtime.after sampleMedia sampleCodec earlier)
            operation.2) (hangupRun ++ [latePoll]) := by
  refine ⟨_, rfl, ?_⟩
  refine ⟨(no_invite_after_hangup_iff sampleMedia sampleCodec _ rfl
      (hangupRun ++ [latePoll])).1 hangupRun [latePoll] rfl (.inl rfl),
    (no_invite_after_hangup_iff sampleMedia sampleCodec _ rfl (hangupRun ++ [latePoll])).2.mpr ?_⟩
  rw [Run.allSteps_concat]
  refine ⟨?_, fun _ _ => ?_⟩
  · intro earlier operation later split _
    have member : operation ∈ hangupRun := by simp [split]
    simp only [hangupRun, List.mem_cons, List.not_mem_nil, or_false] at member
    rcases member with rfl | rfl <;> trivial
  · intro earlier datagram turn later split _ response _ ⟨_, _, answers⟩
    have single : earlier ++ (datagram, turn) :: later =
        [(.response (sampleChallenge "one"), sampleTurn)] := split.symm
    obtain ⟨rfl, -⟩ | ⟨-, ⟨⟩⟩ := List.append_eq_singleton_iff.mp single
    cases answers.1

/-- With credentials, the challenge after the hangup starts an INVITE of the call
that is being cancelled. -/
theorem late_challenge_starts_invite :
    ∃ runtime key, idleRuntime (some ⟨"alice", "secret"⟩) = some runtime ∧
      TransactionKey.forClientResponse (sampleInbound (sampleVia "z9hG4bK-retry")
        ⟨2, .invite⟩ .ok tagB).toValidatedResponse = .ok key ∧
      (runtime.after sampleMedia sampleCodec hangupRun).IsHungUp ∧
      (runtime.after sampleMedia sampleCodec hangupRun).engine.call.transactions.liveGeneration
        .client key = none ∧
      (runtime.after sampleMedia sampleCodec
        (hangupRun ++ [latePoll])).engine.call.transactions.liveGeneration .client key = some 3 ∧
      ¬Run.AllSteps (fun earlier operation =>
        (runtime.after sampleMedia sampleCodec earlier).IsHungUp →
          AtEveryDatagram (SignalingEngine.StartsNoInvite sampleCodec operation.1)
            sampleCodec operation.1 (runtime.after sampleMedia sampleCodec earlier)
            operation.2) (hangupRun ++ [latePoll]) := by
  refine ⟨_, _, rfl, rfl, .inl rfl, rfl, by decide +kernel, fun all => ?_⟩
  rw [Run.allSteps_concat] at all
  have spared := all.2 (.inl rfl) rfl [] _ _ [] rfl rfl
  rw [SignalingEngine.startsNoInvite_iff] at spared
  exact spared _ rfl ⟨⟨.inl rfl, rfl⟩, rfl, rfl, by rintro template ⟨⟩; rfl⟩

end CallRuntime

end Call
end LiveAISIP
