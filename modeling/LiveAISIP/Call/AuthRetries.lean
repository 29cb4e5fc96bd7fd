import LiveAISIP.Call.LateChallenge
import LiveAISIP.Sip.NonceCounts

/-!
# The bound on authenticated retries

A scope accepts one first challenge and then a bounded number of stale ones, so
that a call is challenged, and sends its INVITE again, at most six times.  The
one exception is a challenge that is not marked stale and brings another nonce:
the scope takes it for a first one, and its count of stale challenges starts
over.
-/

namespace LiveAISIP

namespace Sip
namespace AuthContext

variable {context next : AuthContext} {scope : AuthScope}

/-- The challenges that a scope has accepted: the first one and the stale ones. -/
def attempts (context : AuthContext) (scope : AuthScope) : Nat :=
  match context.slot scope with
  | none => 0
  | some state => state.staleRecoveries + 1

theorem attempts_of_slot {state : ScopeState}
    (current : context.slot scope = some state) :
    context.attempts scope = state.staleRecoveries + 1 := by
  rw [attempts, current]

/-- The challenge brings another nonce to a scope that has one, and does not say
that the old one was stale. -/
def Renews
    (context : AuthContext) (scope : AuthScope) (selected : AuthChallenge) : Prop :=
  selected.isStale = false ∧ ∃ previous nonce, context.slot scope = some previous ∧
      selected.parameter "nonce" = some nonce ∧
      previous.challenge.parameter "nonce" ≠ some nonce

/-- One more challenge of the scope was accepted, within the bound. -/
structure AcceptsOne
    (before after : AuthContext) (scope : AuthScope) : Prop where
  counted : after.attempts scope = before.attempts scope + 1
  bounded : after.attempts scope ≤ 1 + maxStaleRecoveries
  others : ∀ other, other ≠ scope → after.attempts other = before.attempts other

theorem AcceptsOne.of_attempts
    {before after : AuthContext} (one : before.AcceptsOne next scope)
    (same : after.attempts = next.attempts) :
    before.AcceptsOne after scope := by
  obtain ⟨counted, bounded, others⟩ := one
  rw [← same] at counted bounded others
  exact ⟨counted, bounded, others⟩

/-- Without a renewal, an installation counts one more challenge. -/
theorem acceptsOne_install {challenges : List AuthChallenge}
    (installed : context.install scope challenges = .ok next)
    (spared : ∀ selected, strongestChallenge challenges = some selected →
      ¬context.Renews scope selected) :
    context.AcceptsOne next scope := by
  obtain ⟨selected, nonce, recoveries, strongest, named, counted, bounded, rfl⟩ :=
    install_eq_ok installed
  have reached : (context.setSlot (some ⟨selected, 0, recoveries⟩) scope).attempts
      scope = recoveries + 1 :=
    attempts_of_slot (slot_setSlot_self context _ scope)
  refine ⟨?_, by omega, fun other different => ?_⟩
  · rw [reached]
    unfold recoveriesAfter at counted
    cases current : context.slot scope with
    | none =>
      rw [current] at counted
      cases counted
      rw [attempts, current]
    | some previous =>
      rw [attempts_of_slot current]
      simp only [current] at counted
      split_ifs at counted with repeated stale fits
      · cases counted
        rfl
      · -- neither repeated nor stale: the nonce is another one
        refine absurd ⟨by simpa using stale, previous, nonce, current, named, ?_⟩
          (spared selected strongest)
        exact fun same => repeated ⟨same, stale⟩
  · rw [attempts, slot_setSlot_of_ne context _ different, attempts]

/-- An authorization counts no challenge. -/
theorem attempts_authorize
    {hash : DigestAlgorithm → Bytes → Bytes} {credentials : DigestCredentials} {method : Method}
    {uri entityBody : Bytes} {clientNonce : String} {authorization : DigestAuthorization}
    (authorized : context.authorize hash scope credentials method uri entityBody
      clientNonce = .ok (next, authorization))
    (other : AuthScope) :
    next.attempts other = context.attempts other := by
  obtain ⟨state, current, rfl, -⟩ := authorize_uses authorized
  by_cases same : other = scope
  · subst same
    rw [attempts_of_slot (slot_setSlot_self context _ other), attempts_of_slot current]
  · rw [attempts, slot_setSlot_of_ne context _ same, attempts]

/-- A further challenge that is neither stale nor a renewal is refused. -/
theorem install_of_tried
    {challenges : List AuthChallenge} {selected : AuthChallenge}
    (strongest : strongestChallenge challenges = some selected)
    (fresh : selected.isStale = false) (tried : (context.slot scope).isSome)
    (spared : ¬context.Renews scope selected) :
    ∃ error, context.install scope challenges = .error error := by
  cases installed : context.install scope challenges with
  | error error => exact ⟨error, rfl⟩
  | ok next =>
    obtain ⟨other, nonce, recoveries, same, named, counted, -, -⟩ := install_eq_ok installed
    cases strongest.symm.trans same
    obtain ⟨previous, current⟩ := Option.isSome_iff_exists.mp tried
    have repeated : previous.challenge.parameter "nonce" = some nonce := by
      by_contra renewed
      exact spared ⟨fresh, previous, nonce, current, named, renewed⟩
    simp [recoveriesAfter, current, repeated, fresh] at counted

end AuthContext
end Sip

namespace Call

open Sip Transaction Effect

namespace SignalingEngine

variable {δ : Type}

variable {response : InboundResponse} {scope : AuthScope} {turn : Turn δ}
  {engine : SignalingEngine δ} {codec : MessageCodec} {now : Duration} {datagram : Datagram}

/-- The number of the current INVITE. -/
def Settings.inviteNumber (settings : Settings) : Nat :=
  settings.template.elim 0 fun template => template.inviteSequence.toNat

theorem Settings.inviteNumber_congr
    {first second : Settings} (same : first.template = second.template) :
    first.inviteNumber = second.inviteNumber := by
  rw [Settings.inviteNumber, Settings.inviteNumber, same]

/-- One more challenge of the scope was accepted, and at most one INVITE was sent
for it. -/
structure Settings.RetriesOnce
    (before after : Settings) (scope : AuthScope) : Prop where
  accepts : before.authentication.AcceptsOne after.authentication scope
  number : after.inviteNumber ≤ before.inviteNumber + 1

/-- Without a renewal, the installation of challenges changes nothing or counts
one. -/
theorem installChallenges_cases
    (spared : ∀ challenges selected,
      collectChallenges turn.challengesReserved scope [] response.challengeFields = .ok challenges →
      strongestChallenge challenges = some selected →
        ¬engine.authentication.Renews scope selected) :
    (∃ error, installChallenges response scope turn engine = (engine, .error error)) ∨
    ∃ next, installChallenges response scope turn engine =
        ({ engine with authentication := next }, .ok ()) ∧
      engine.authentication.AcceptsOne next scope := by
  unfold installChallenges
  cases collected : collectChallenges turn.challengesReserved scope []
      response.challengeFields with
  | error error => exact .inl ⟨error, rfl⟩
  | ok challenges =>
    rw [bind_of_ok (ofExcept_apply _ engine),
      bind_of_ok (read_apply SignalingEngine.authentication engine)]
    cases installed : engine.authentication.install scope challenges with
    | error error => exact .inl ⟨.authentication error, rfl⟩
    | ok next =>
      exact .inr ⟨next, rfl,
        AuthContext.acceptsOne_install installed (spared challenges · collected)⟩

/-- The authorization of an INVITE leaves the template and counts no challenge. -/
theorem keeps_authorizeInvite
    (template : Option RequestTemplate) (attempts : AuthScope → Nat)
    (codec : MessageCodec) (scope : AuthScope) (credentials : DigestCredentials)
    (current : RequestTemplate) (turn : Turn δ) :
    Effect.Keeps
      (fun engine => engine.dialog.template = template ∧ engine.authentication.attempts = attempts)
      (authorizeInvite codec scope credentials current turn) := by
  intro engine holds
  unfold authorizeInvite
  cases turn.clientNonce with
  | error error => exact holds
  | ok clientNonce =>
    rw [bind_of_ok (ofExcept_apply _ engine),
      bind_of_ok (read_apply SignalingEngine.authentication engine),
      bind_of_ok (read_apply _ engine)]
    cases authorized : engine.authentication.authorize codec.hash scope credentials
        .invite current.requestUri.render engine.content.body clientNonce with
    | error error => exact holds
    | ok drawn =>
      obtain ⟨next, digest⟩ := drawn
      have counts : next.attempts = attempts :=
        (funext (AuthContext.attempts_authorize authorized)).trans holds.2
      simp only [Except.mapError]
      rw [bind_of_ok (ofExcept_apply _ engine), modify_bind]
      cases scope <;> cases codec.credentials digest <;> exact ⟨holds.1, counts⟩

/-- Building the INVITE changes nothing. -/
theorem keeps_buildAuthenticatedInvite
    (engine : SignalingEngine δ) (codec : MessageCodec) (sequence : UInt32)
    (generated : Except SignalingError (List ViaEntry)) :
    Effect.Keeps (fun reached => reached = engine)
      (buildAuthenticatedInvite codec sequence generated) := by
  have installed : Effect.Keeps (fun reached => reached = engine) installedTemplate := by
    refine (keeps_read _).bind fun template => ?_
    split
    · exact keeps_fail _
    · exact keeps_pure _
  exact (keeps_ofExcept _).bind fun via => installed.bind fun template =>
    (keeps_ofExcept _).bind fun cseq => (keeps_read _).bind fun invite =>
      (keeps_ofExcept _).bind fun request => keeps_pure _

/-- Sending the INVITE once more leaves the authentication, and raises its number
by one at most. -/
theorem resendInvite_settings {template : RequestTemplate}
    (installed : engine.dialog.template = some template) (codec : MessageCodec)
    (turn : Turn δ) (now : Duration) :
    (resendInvite codec template turn now engine).1.authentication = engine.authentication ∧
      (resendInvite codec template turn now engine).1.settings.inviteNumber ≤
        engine.settings.inviteNumber + 1 := by
  unfold resendInvite
  split_ifs with fits
  · have builds := keeps_buildAuthenticatedInvite engine codec
      (template.inviteSequence + 1) turn.retry.via engine rfl
    simp only
    rw [bind_apply]
    rcases built : buildAuthenticatedInvite codec (template.inviteSequence + 1)
        turn.retry.via engine with ⟨next, error | ⟨request, via⟩⟩ <;>
      rw [built] at builds <;> obtain rfl : next = engine := builds
    · exact ⟨rfl, Nat.le_succ _⟩
    · refine ⟨rfl, Nat.le_of_eq ?_⟩
      have number : (template.inviteSequence + 1).toNat = template.inviteSequence.toNat + 1 := by
        rw [UInt32.toNat_add]
        exact Nat.mod_eq_of_lt fits
      simpa [Settings.inviteNumber, settings, renumberInvite, modify_bind,
        startRequest, onCall_apply, installed] using number
  · exact ⟨rfl, Nat.le_succ _⟩

/-- Without a renewal, the answer to a challenge changes nothing or is one retry. -/
theorem answerChallenge_cases
    {credentials : DigestCredentials} {template : RequestTemplate}
    (installed : engine.dialog.template = some template)
    (spared : ∀ challenges selected,
      collectChallenges turn.challengesReserved scope [] response.challengeFields = .ok challenges →
      strongestChallenge challenges = some selected →
        ¬engine.authentication.Renews scope selected) :
    (answerChallenge codec response scope credentials template turn now
        engine).1.settings = engine.settings ∨
      engine.settings.RetriesOnce (answerChallenge codec response scope credentials
        template turn now engine).1.settings scope := by
  unfold answerChallenge
  rcases installChallenges_cases spared with ⟨error, refused⟩ | ⟨next, accepted, one⟩
  · rw [bind_of_error refused]
    exact .inl rfl
  right
  rw [bind_of_ok accepted, bind_apply]
  have authorizes := keeps_authorizeInvite (some template) next.attempts codec scope
    credentials template turn { engine with authentication := next } ⟨installed, rfl⟩
  rcases authorized : authorizeInvite codec scope credentials template turn
      { engine with authentication := next } with ⟨drawn, error | ⟨⟩⟩ <;>
    rw [authorized] at authorizes <;> obtain ⟨same, counts⟩ := authorizes
  · have number : drawn.settings.inviteNumber = engine.settings.inviteNumber :=
      Settings.inviteNumber_congr (same.trans installed.symm)
    exact ⟨one.of_attempts counts, Nat.le_succ_of_le (Nat.le_of_eq number)⟩
  · have number : drawn.settings.inviteNumber = engine.settings.inviteNumber :=
      Settings.inviteNumber_congr (same.trans installed.symm)
    obtain ⟨kept, raised⟩ := resendInvite_settings same codec turn now
    refine ⟨one.of_attempts ((congrArg AuthContext.attempts kept).trans counts), ?_⟩
    rwa [← number]

/-- The datagram challenges the current INVITE in this scope, its transaction
passes it up, the engine has credentials, and this is the challenge that it would
answer. -/
def Challenges
    (now : Duration) (engine : SignalingEngine δ) (datagram : Datagram)
    (turn : Turn δ) (scope : AuthScope) (selected : AuthChallenge) : Prop :=
  ∃ response template challenges, datagram = .response response ∧
    challengedScope response.status = some scope ∧
    response.cseq.method = .invite ∧
    engine.Delivers response turn now ∧
    engine.credentials.isSome ∧
    engine.dialog.template = some template ∧
    response.cseq.sequence = template.inviteSequence ∧
    collectChallenges turn.challengesReserved scope [] response.challengeFields = .ok challenges ∧
    strongestChallenge challenges = some selected

/-- The datagram does not bring another nonce, without calling the old one stale,
to a scope that has one. -/
def MeetsNoRenewal
    (now : Duration) (engine : SignalingEngine δ) (datagram : Datagram) (turn : Turn δ) : Prop :=
  ∀ scope selected, Challenges now engine datagram turn scope selected →
    ¬engine.authentication.Renews scope selected

/-- What a bounded retry loop does with one datagram: every challenge that is
accepted counts, and one that is not marked stale is refused once the scope has a
challenge. -/
structure BoundsRetries
    (codec : MessageCodec) (now : Duration) (engine : SignalingEngine δ)
    (datagram : Datagram) (turn : Turn δ) : Prop where
  counts : (engine.receive codec now datagram turn).1.settings = engine.settings ∨
    ∃ scope, engine.settings.RetriesOnce (engine.receive codec now datagram turn).1.settings scope
  refuses : ∀ scope selected, Challenges now engine datagram turn scope selected →
    selected.isStale = false → (engine.authentication.slot scope).isSome →
      (engine.receive codec now datagram turn).1.settings = engine.settings ∧
      ∃ error, (engine.receive codec now datagram turn).2 = .error (.authentication error)

/-- Without a renewal, the retry of a challenged INVITE changes nothing or counts. -/
theorem retryAuthenticatedInvite_cases
    (spared : ∀ scope template challenges selected, challengedScope response.status = some scope →
      response.cseq.method = .invite →
      engine.credentials.isSome →
      engine.dialog.template = some template →
      response.cseq.sequence = template.inviteSequence →
      collectChallenges turn.challengesReserved scope [] response.challengeFields = .ok challenges →
      strongestChallenge challenges = some selected →
        ¬engine.authentication.Renews scope selected) :
    (retryAuthenticatedInvite codec response turn now engine).1.settings = engine.settings ∨
      ∃ scope, engine.settings.RetriesOnce
        (retryAuthenticatedInvite codec response turn now engine).1.settings scope := by
  by_cases answered : IsChallenge response ∧ engine.Answers response
  · obtain ⟨challenge, answers⟩ := answered
    obtain ⟨scope, credentials, challenged, known⟩ := exists_of_answers challenge answers
    cases installed : engine.dialog.template with
    | none =>
      rw [retryAuthenticatedInvite_of_missing challenged challenge.2 known installed]
      exact .inl rfl
    | some template =>
      have current := answers.2 template installed
      rw [retryAuthenticatedInvite_of_current challenged challenge.2 known installed
        current, state_bind_pure]
      refine (answerChallenge_cases installed fun challenges selected =>
        spared scope template challenges selected challenged challenge.2 answers.1
          installed current).imp_right ?_
      exact fun retries => ⟨scope, retries⟩
  · rw [retryAuthenticatedInvite_of_not_answers answered]
    exact .inl rfl

/-- A computation that leaves the settings. -/
theorem settings_reportResponse
    (response : InboundResponse) (turn : Turn δ) (engine : SignalingEngine δ) :
    (reportResponse response turn engine).1.settings = engine.settings :=
  (keeps_reportResponse response turn engine
    (⟨trivial, rfl⟩ : Has (fun _ => True) (fun settings => settings = engine.settings)
      engine)).settings

/-- Without a renewal, a datagram changes no settings or counts. -/
theorem receive_counts (meets : MeetsNoRenewal now engine datagram turn) :
    (engine.receive codec now datagram turn).1.settings = engine.settings ∨
      ∃ scope, engine.settings.RetriesOnce
        (engine.receive codec now datagram turn).1.settings scope := by
  cases datagram with
  | broken | malformed | request request =>
    left
    refine (keeps_receive (fun _ _ _ _ => trivial) ?_ engine (⟨trivial, rfl⟩ : Has (fun _ => True)
        (fun settings => settings = engine.settings) engine)).settings
    rintro response ⟨⟩
  | response response =>
    obtain ⟨next, -, same, cases⟩ := receive_response_cases codec now response turn engine
    rcases cases with ⟨delivers, received⟩ | ⟨-, received⟩
    · have retries : (retryAuthenticatedInvite codec response turn now
          next).1.settings = next.settings ∨ ∃ scope, next.settings.RetriesOnce
              (retryAuthenticatedInvite codec response turn now next).1.settings
              scope := by
        refine retryAuthenticatedInvite_cases fun scope template challenges selected
          challenged method known installed current collected strongest => ?_
        have template_eq := congrArg Settings.template same
        have authentication_eq := congrArg Settings.authentication same
        have credentials_eq := congrArg Settings.credentials same
        simp only [settings] at template_eq authentication_eq credentials_eq
        rw [authentication_eq]
        rw [template_eq] at installed
        rw [credentials_eq] at known
        exact meets scope selected ⟨response, template, challenges, rfl, challenged,
          method, delivers, known, installed, current, collected, strongest⟩
      rw [same] at retries
      rw [received, bind_apply]
      rcases retried : retryAuthenticatedInvite codec response turn now next with
        ⟨last, error | taken⟩ <;> rw [retried] at retries
      · exact retries
      · cases taken with
        | true => exact retries
        | false =>
          simp only [Bool.false_eq_true, if_false]
          rw [settings_reportResponse]
          exact retries
    · rw [received]
      exact .inl same

/-- A challenge that the scope refuses changes nothing. -/
theorem installChallenges_of_refused {challenges : List AuthChallenge} {error : AuthContextError}
    (collected : collectChallenges turn.challengesReserved scope []
      response.challengeFields = .ok challenges)
    (refused : engine.authentication.install scope challenges = .error error) :
    installChallenges response scope turn engine = (engine, .error (.authentication error)) := by
  unfold installChallenges
  rw [collected, bind_of_ok (ofExcept_apply _ engine),
    bind_of_ok (read_apply SignalingEngine.authentication engine), refused]
  rfl

/-- Without a renewal, a further challenge that is not marked stale is refused. -/
theorem receive_refuses
    {selected : AuthChallenge} (meets : MeetsNoRenewal now engine datagram turn)
    (challenges : Challenges now engine datagram turn scope selected)
    (fresh : selected.isStale = false) (tried : (engine.authentication.slot scope).isSome) :
    (engine.receive codec now datagram turn).1.settings = engine.settings ∧
      ∃ error, (engine.receive codec now datagram turn).2 = .error (.authentication error) := by
  have spared := meets scope selected challenges
  obtain ⟨response, template, collected, rfl, challenged, method, delivers, known,
    installed, current, collects, strongest⟩ := challenges
  obtain ⟨next, -, same, cases⟩ := receive_response_cases codec now response turn engine
  rcases cases with ⟨-, received⟩ | ⟨undelivered, -⟩
  · have template_eq : next.dialog.template = engine.dialog.template :=
      congrArg Settings.template same
    have authentication_eq : next.authentication = engine.authentication :=
      congrArg Settings.authentication same
    have credentials_eq : next.credentials = engine.credentials :=
      congrArg Settings.credentials same
    rw [← authentication_eq] at spared tried
    rw [← credentials_eq] at known
    rw [← template_eq] at installed
    obtain ⟨credentials, known⟩ := Option.isSome_iff_exists.mp known
    obtain ⟨error, refused⟩ := AuthContext.install_of_tried strongest fresh tried spared
    have retried : retryAuthenticatedInvite codec response turn now next =
        (next, .error (.authentication error)) := by
      rw [retryAuthenticatedInvite_of_current challenged method known installed current]
      exact bind_of_error (bind_of_error (installChallenges_of_refused collects refused) _) _
    rw [received, bind_of_error retried]
    exact ⟨same, error, rfl⟩
  · exact absurd delivers undelivered

theorem boundsRetries_of_meetsNoRenewal
    (meets : MeetsNoRenewal now engine datagram turn)
    (codec : MessageCodec) :
    BoundsRetries codec now engine datagram turn where
  counts := receive_counts meets
  refuses _ _ challenges fresh tried := receive_refuses meets challenges fresh tried

/-- The INVITEs sent between two states are paid for by accepted challenges, which
are never forgotten. -/
structure Settings.Advances (before after : Settings) : Prop where
  kept : ∀ scope, before.authentication.attempts scope ≤ after.authentication.attempts scope
  bounded : (∀ scope, before.authentication.attempts scope ≤ 1 + maxStaleRecoveries) →
    ∀ scope, after.authentication.attempts scope ≤ 1 + maxStaleRecoveries
  number : after.inviteNumber + (before.authentication.attempts .server +
      before.authentication.attempts .proxy) ≤
    before.inviteNumber + (after.authentication.attempts .server +
      after.authentication.attempts .proxy)

theorem Settings.Advances.refl (settings : Settings) : settings.Advances settings :=
  ⟨fun _ => Nat.le_refl _, fun bounded => bounded, Nat.le_refl _⟩

/-- A retry is paid for by its challenge. -/
theorem Settings.Advances.step
    {before middle after : Settings} (advances : before.Advances middle)
    (counts : after = middle ∨ ∃ scope, middle.RetriesOnce after scope) :
    before.Advances after := by
  rcases counts with rfl | ⟨scope, ⟨counted, bounded, others⟩, number⟩
  · exact advances
  · obtain ⟨kept, within, paid⟩ := advances
    refine ⟨fun other => ?_, fun small other => ?_, ?_⟩
    · by_cases same : other = scope
      · subst same
        exact (kept other).trans (by omega)
      · rw [others other same]
        exact kept other
    · by_cases same : other = scope
      · subst same
        exact bounded
      · rw [others other same]
        exact within small other
    · cases scope with
      | server =>
        rw [counted, others .proxy (by decide)]
        omega
      | proxy =>
        rw [counted, others .server (by decide)]
        omega

end SignalingEngine

namespace CallRuntime

variable {δ μ : Type}

/-- The number of challenges that a scope of the call has accepted. -/
def attempts (runtime : CallRuntime δ μ) (scope : AuthScope) : Nat :=
  runtime.engine.authentication.attempts scope

/-- The number of the INVITE of the call. -/
def inviteNumber (runtime : CallRuntime δ μ) : Nat := runtime.engine.settings.inviteNumber

/-- Between two states of a run without renewals the call advances. -/
theorem advances_after
    (plane : MediaPlane μ) (codec : MessageCodec) (runtime : CallRuntime δ μ)
    {operations : List (Duration × RuntimeOperation δ μ)}
    (met : Run.AllSteps (fun earlier operation =>
      AtEveryDatagram (SignalingEngine.MeetsNoRenewal operation.1) codec operation.1
        (runtime.after plane codec earlier) operation.2) operations)
    {earlier later : List (Duration × RuntimeOperation δ μ)}
    (split : operations = earlier ++ later) :
    (runtime.after plane codec earlier).engine.settings.Advances
      (runtime.after plane codec operations).engine.settings := by
  subst split
  have resumes (more : List (Duration × RuntimeOperation δ μ)) :
      runtime.after plane codec (earlier ++ more) =
        (runtime.after plane codec earlier).after plane codec more :=
    Run.after_append _ _ _ _
  rw [resumes]
  refine engine_after (engineRule_settings
      (runtime.after plane codec earlier).engine.settings.Advances)
    (fun now engine datagram turn meets advances =>
      advances.step (SignalingEngine.receive_counts meets)) plane
    (SignalingEngine.Settings.Advances.refl _) later ?_
  intro first operation rest split
  have meets := met (earlier ++ first) operation rest (by simp [split])
  simpa only [resumes] using meets

/-- In every run of a call in which no poll comes to a renewal, the number of its
INVITE rises by at most six, no scope accepts more than one first and two stale
challenges in the whole run, and at every datagram each accepted challenge counts
and a further one that is not marked stale is refused. -/
theorem retries_bounded
    (plane : MediaPlane μ) (codec : MessageCodec) (runtime : CallRuntime δ μ)
    (fresh : runtime.engine.authentication = .new)
    (operations : List (Duration × RuntimeOperation δ μ))
    (met : Run.AllSteps (fun earlier operation =>
      AtEveryDatagram (SignalingEngine.MeetsNoRenewal operation.1) codec operation.1
        (runtime.after plane codec earlier) operation.2) operations) :
    (runtime.after plane codec operations).inviteNumber ≤
        runtime.inviteNumber + 2 * (1 + maxStaleRecoveries) ∧
    (∀ scope, (runtime.after plane codec operations).attempts scope ≤ 1 + maxStaleRecoveries) ∧
    (∀ earlier later, operations = earlier ++ later → ∀ scope,
      (runtime.after plane codec earlier).attempts scope ≤
        (runtime.after plane codec operations).attempts scope) ∧
    Run.AllSteps (fun earlier operation =>
      AtEveryDatagram (SignalingEngine.BoundsRetries codec operation.1) codec
        operation.1 (runtime.after plane codec earlier) operation.2) operations := by
  have none (scope : AuthScope) : runtime.engine.authentication.attempts scope = 0 := by
    rw [fresh]
    cases scope <;> rfl
  obtain ⟨-, within, number⟩ : runtime.engine.settings.Advances
      (runtime.after plane codec operations).engine.settings :=
    advances_after plane codec runtime met (List.nil_append operations).symm
  have bounded (scope : AuthScope) :
      (runtime.after plane codec operations).attempts scope ≤ 1 + maxStaleRecoveries :=
    within (fun scope => (none scope).trans_le (Nat.zero_le _)) scope
  refine ⟨?_, bounded, ?_, ?_⟩
  · have server := bounded .server
    have proxy := bounded .proxy
    simp only [SignalingEngine.settings, none] at number
    simp only [attempts] at server proxy
    simp only [inviteNumber, SignalingEngine.settings]
    omega
  · intro earlier later split scope
    exact (advances_after plane codec runtime met split).kept scope
  · intro earlier operation later split
    have meets := met earlier operation later split
    obtain ⟨now, operation⟩ := operation
    cases operation with
    | pollSignaling receipts grants =>
      intro installed first datagram turn rest splits intact
      exact SignalingEngine.boundsRetries_of_meetsNoRenewal
        (meets installed first datagram turn rest splits intact) codec
    | event | media | processDueDeadlines | shutdown => trivial

/-- The Via of the sample INVITE with this number. -/
def inviteVia (number : Nat) : ViaEntry :=
  if number = 1 then inviteRequest.topmostVia
  else sampleVia (String.ofList ("z9hG4bK".toList ++ List.replicate number 'r'))

/-- That INVITE is challenged, each time with another nonce. -/
def challengePoll (number : Nat) : Duration × RuntimeOperation Unit Unit :=
  let response : InboundResponse :=
    { sampleChallenge (String.ofList (List.replicate number 'n')) with
      topmostVia := inviteVia number
      cseq := ⟨UInt32.ofNat number, .invite⟩ }
  let turn : Turn Unit :=
    { sampleTurn with
      retry := { sampleTurn.retry with via := .ok [inviteVia (number + 1)] } }
  (.fromSecs (UInt32.ofNat (number + 1)), .pollSignaling [(.response response, turn)] fun _ =>
      ⟨fun _ => turn.retry, fun _ => turn.retry⟩)

/-- The sample call is started and challenged this many times. -/
def challengedRun (challenges : Nat) : List (Duration × RuntimeOperation Unit Unit) :=
  (.fromSecs 1, sampleEvent (.command .start)) ::
    (List.range challenges).map fun index => challengePoll (index + 1)

/-- A single challenge leads to a second INVITE, within the bound. -/
theorem one_challenge_bounded :
    ∃ runtime, idleRuntime (some ⟨"alice", "secret"⟩) = some runtime ∧
      (runtime.after sampleMedia sampleCodec (challengedRun 1)).inviteNumber = 2 ∧
      (runtime.after sampleMedia sampleCodec (challengedRun 1)).inviteNumber ≤
        runtime.inviteNumber + 2 * (1 + maxStaleRecoveries) := by
  refine ⟨_, rfl, by decide +kernel,
    (retries_bounded sampleMedia sampleCodec _ rfl (challengedRun 1) ?_).1⟩
  refine (Run.allSteps_concat _ [(.fromSecs 1, sampleEvent (.command .start))]
    (challengePoll 1)).mpr ⟨?_, ?_⟩
  · intro earlier operation later split
    obtain ⟨rfl, -⟩ | ⟨-, ⟨⟩⟩ := List.append_eq_singleton_iff.mp split.symm
    cases split
    trivial
  · intro _ earlier datagram turn later split _ scope selected _ renews
    obtain ⟨rfl, -⟩ | ⟨-, ⟨⟩⟩ := List.append_eq_singleton_iff.mp split.symm
    -- no scope has a challenge yet
    obtain ⟨-, previous, nonce, current, -⟩ := renews
    cases scope <;> cases current

/-- Seven challenges with seven nonces lead to seven more INVITEs. -/
theorem renewals_exceed_bound :
    ∃ runtime, idleRuntime (some ⟨"alice", "secret"⟩) = some runtime ∧
      runtime.engine.authentication = .new ∧
      runtime.inviteNumber = 1 ∧
      (runtime.after sampleMedia sampleCodec (challengedRun 7)).inviteNumber = 8 ∧
      ¬(runtime.after sampleMedia sampleCodec (challengedRun 7)).inviteNumber ≤
        runtime.inviteNumber + 2 * (1 + maxStaleRecoveries) := by
  exact ⟨_, rfl, rfl, rfl, by decide +kernel, by decide +kernel⟩

end CallRuntime

end Call
end LiveAISIP
