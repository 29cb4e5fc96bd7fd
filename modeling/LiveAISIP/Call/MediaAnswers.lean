import LiveAISIP.Call.BranchOrder
import LiveAISIP.Call.Media

/-!
# Answers to the local offer

The responses to an INVITE may carry one SDP answer after another, from one branch
or from several.  The offer of a call waits for one answer; what follows it must
repeat it.
-/

namespace LiveAISIP
namespace Call
namespace CallMedia

open Sip Sip.Sdp Rtp Transaction Effect
open CallRuntime

variable {requireSecure : Bool} {policy : MediaSessionPolicy} {localSsrc : UInt32}
  {media : CallMedia} {negotiated : NegotiatedMedia} {remoteRtp : SocketAddress}

/-- The event of a response with its answer, and what its activation is granted. -/
structure AnswerResponse where
  event : CallEvent
  answer : RemoteMediaAnswer
  grant : ActivationGrant
  now : Duration

/-- The responses whose media the lifecycle takes, in order. -/
def taken (call : CallLifecycle) : List AnswerResponse → List AnswerResponse
  | [] => []
  | response :: responses =>
    if selectsMedia (actionsOf (call.handle response.event).2)
        response.answer.branch then
      response :: taken (call.handle response.event).1 responses
    else taken (call.handle response.event).1 responses

theorem mem_of_mem_taken
    {responses : List AnswerResponse} {call : CallLifecycle} {response : AnswerResponse}
    (among : response ∈ taken call responses) :
    response ∈ responses := by
  induction responses generalizing call with
  | nil => cases among
  | cons first responses ih =>
    rw [taken] at among
    split at among
    · rcases List.mem_cons.mp among with rfl | later
      · exact List.mem_cons_self
      · exact List.mem_cons_of_mem _ (ih later)
    · exact List.mem_cons_of_mem _ (ih among)

/-- The media of two answers is the same. -/
def sameMedia (first second : RemoteMediaAnswer) : Prop :=
  first.disposition = second.disposition ∧ first.negotiated = second.negotiated ∧
    first.remoteRtp = second.remoteRtp

/-- The controller has the media of an answer in force, and none for an answer
without media. -/
def Carries (media : CallMedia) (answer : RemoteMediaAnswer) : Prop :=
  match answer.disposition with
  | .active => ∃ negotiated remoteRtp, answer.negotiated = some negotiated ∧
      answer.remoteRtp = some remoteRtp ∧
      media.controller.isActiveMedia negotiated remoteRtp = true
  | .held | .rejected => media.controller.active = none

/-- Every answer is applied without an error, the one in force without a change,
and the answer of the selected branch is in force afterwards. -/
def Faithful (media : CallMedia) (call : CallLifecycle)
    (inForce : Option RemoteMediaAnswer) : List AnswerResponse → Prop
  | [] => True
  | response :: responses =>
    let actions := actionsOf (call.handle response.event).2
    let result := applyRemoteMediaAnswer actions response.answer response.grant response.now media
    result.2 = .ok () ∧
      (∀ answer ∈ inForce, sameMedia answer response.answer → result.1 = media) ∧
      (CallAction.selectBranch response.answer.branch ∈ actions →
        result.1.Carries response.answer) ∧
      Faithful result.1 (call.handle response.event).1
        (if selectsMedia actions response.answer.branch then
          some response.answer else inForce) responses

/-- The first answer can be put in force. -/
def Acceptable
    (requireSecure : Bool) (policy : MediaSessionPolicy) (localSsrc : UInt32)
    (response : AnswerResponse) : Prop :=
  match response.answer.disposition with
  | .active => ∃ negotiated remoteRtp, response.answer.negotiated = some negotiated ∧
      response.answer.remoteRtp = some remoteRtp ∧
      (MediaController.new requireSecure).validateMedia negotiated remoteRtp = .ok () ∧
      ∃ session, policy.activate ⟨1, negotiated, remoteRtp⟩ localSsrc response.grant
          response.now = .ok session ∧
        (session.isSome = true → (mediaTickInterval.checkedAdd response.now).isSome = true)
  | .held | .rejected => True

/-- An answer has the active media of an earlier one. -/
def Repeats (first later : RemoteMediaAnswer) : Prop :=
  first.disposition = .active ∧ later.disposition = .active ∧
    ∃ negotiated remoteRtp again, first.negotiated = some negotiated ∧
      first.remoteRtp = some remoteRtp ∧ later.negotiated = some again ∧
      later.remoteRtp = some remoteRtp ∧ negotiated.direction ≠ .inactive ∧
      negotiated.same again = true

/-- The first answer can be put in force, and all others repeat it. -/
def Settled
    (requireSecure : Bool) (policy : MediaSessionPolicy)
    (localSsrc : UInt32) : List AnswerResponse → Prop
  | [] => True
  | first :: later =>
    Acceptable requireSecure policy localSsrc first ∧
      ∀ response ∈ later, Repeats first.answer response.answer

/-- The media side of a call whose local offer waits for its answer. -/
structure Offered
    (requireSecure : Bool) (policy : MediaSessionPolicy) (localSsrc : UInt32)
    (media : CallMedia) : Prop where
  controller : media.controller = ((MediaController.new requireSecure).beginLocalOffer).1
  pendingOffer : media.pendingOffer = some ⟨1, .local_, by decide⟩
  sessionPolicy : media.sessionPolicy = some policy
  senderSsrc : media.senderSsrc = some localSsrc

/-- Enabling negotiated sessions for a new call leaves an offer that waits. -/
theorem offered_of_withMediaSessionPolicy
    {start : CallMedia} (fresh : media.controller = .new requireSecure)
    (sender : media.senderSsrc = some localSsrc)
    (installed : withMediaSessionPolicy policy media = (start, .ok ())) :
    Offered requireSecure policy localSsrc start := by
  rw [withMediaSessionPolicy, bind_apply] at installed
  simp only [read_apply, id] at installed
  split_ifs at installed with present missing
  · cases installed
  · cases installed
  · have begun : media.controller.beginLocalOffer =
        ((MediaController.new requireSecure).beginLocalOffer.1, .ok ⟨1, .local_, by decide⟩) := by
      rw [fresh]
      rfl
    simp only [bind_apply, onController, mapError_apply, zoom_apply,
      begun, Except.mapError, modify_apply] at installed
    cases installed
    exact ⟨rfl, rfl, rfl, sender⟩

/-- An answer with media and an endpoint. -/
theorem applyAnswer_of_active
    {answer : RemoteMediaAnswer} (kind : answer.disposition = .active)
    (described : answer.negotiated = some negotiated) (located : answer.remoteRtp = some remoteRtp)
    (grant : ActivationGrant) (now : Duration) :
    applyAnswer answer grant now = applyActiveAnswer negotiated remoteRtp grant now := by
  rw [applyAnswer, kind, described, located]
  rfl

/-- The answer that is in force is applied without a change. -/
theorem applyActiveAnswer_of_inForce
    (inForce : (media.controller.isActiveMedia negotiated remoteRtp &&
      media.activeRtp.isSome) = true)
    (grant : ActivationGrant) (now : Duration) :
    applyActiveAnswer negotiated remoteRtp grant now media = (media, .ok ()) := by
  rw [applyActiveAnswer, bind_apply]
  simp only [read_apply, id]
  rw [if_pos inForce]
  rfl

/-- Without a waiting offer another answer is refused. -/
theorem applyActiveAnswer_of_answered
    (other : ¬(media.controller.isActiveMedia negotiated remoteRtp &&
      media.activeRtp.isSome) = true)
    (answered : media.pendingOffer = none) (grant : ActivationGrant) (now : Duration) :
    applyActiveAnswer negotiated remoteRtp grant now media =
      (media, .error (.refused .mediaOfferUnavailable)) := by
  rw [applyActiveAnswer, bind_apply]
  simp only [read_apply, id]
  rw [if_neg other, answered]
  rfl

/-- An answer after the offer was answered is applied only when it repeats the media
in force, and then nothing changes. -/
theorem applyAnswer_of_answered (answered : media.pendingOffer = none)
    (answer : RemoteMediaAnswer) (grant : ActivationGrant) (now : Duration) :
    ((applyAnswer answer grant now media).2 = .ok () ↔
        answer.disposition = .active ∧ media.activeRtp.isSome = true ∧ media.Carries answer) ∧
      (applyAnswer answer grant now media).1 = media := by
  have disabled : (applyDisabledAnswer media).2 ≠ .ok () ∧
      (applyDisabledAnswer media).1 = media := by
    simp [applyDisabledAnswer, bind_apply, answered, require, refuse]
  cases kind : answer.disposition with
  | held => simpa [applyAnswer, kind] using disabled
  | rejected => simpa [applyAnswer, kind] using disabled
  | active =>
    rcases described : answer.negotiated with _ | negotiated
    · simp [applyAnswer, kind, described, require, refuse, bind_apply, Carries]
    rcases located : answer.remoteRtp with _ | remoteRtp
    · simp [applyAnswer, kind, described, located, require, refuse, bind_apply, pure_apply, Carries]
    have carries : media.Carries answer ↔
        media.controller.isActiveMedia negotiated remoteRtp = true := by
      simp [Carries, kind, described, located]
    rw [applyAnswer_of_active kind described located, carries]
    by_cases inForce : (media.controller.isActiveMedia negotiated remoteRtp &&
        media.activeRtp.isSome) = true
    · rw [applyActiveAnswer_of_inForce inForce]
      rw [Bool.and_eq_true] at inForce
      simp [inForce]
    · rw [applyActiveAnswer_of_answered inForce answered]
      rw [Bool.and_eq_true] at inForce
      refine ⟨⟨fun failed => (by cases failed), fun both => ?_⟩, rfl⟩
      exact absurd ⟨both.2.2, both.2.1⟩ inForce

/-- The controller that takes an answer to its first offer. -/
def answeredController (requireSecure : Bool) (active : Option ActiveMedia) :
    MediaController where
  offers := ⟨.stable, 2, 1⟩
  active := active
  nextGeneration := 2
  requireSecure := requireSecure
  lifecycle := .active

theorem applyRemoteAnswer_of_offered
    (requireSecure : Bool) (negotiated : NegotiatedMedia) (remoteRtp : SocketAddress) :
    ((MediaController.new requireSecure).beginLocalOffer.1).applyRemoteAnswer
        ⟨1, .local_, by decide⟩ negotiated remoteRtp =
      match (MediaController.new requireSecure).validateMedia negotiated remoteRtp with
      | .error error =>
        ((MediaController.new requireSecure).beginLocalOffer.1, .error error)
      | .ok () =>
        (answeredController requireSecure (some ⟨1, negotiated, remoteRtp⟩),
          .ok ⟨1, negotiated, remoteRtp⟩) := by
  have same : ((MediaController.new requireSecure).beginLocalOffer.1).validateMedia
      negotiated remoteRtp =
      (MediaController.new requireSecure).validateMedia negotiated remoteRtp := rfl
  rw [MediaController.applyRemoteAnswer, MediaController.applyAnswer, bind_apply]
  simp only [read_apply, id]
  rw [bind_apply]
  simp only [ofExcept_apply, same]
  cases (MediaController.new requireSecure).validateMedia negotiated remoteRtp with
  | error error => rfl
  | ok checked => rfl

theorem applyDisabledAnswer_of_offered
    (offered : Offered requireSecure policy localSsrc media) :
    applyDisabledAnswer media =
      ({ media with
          controller := answeredController requireSecure none
          pendingOffer := none
          activeRtp := none
          nextMediaDeadline := none }, .ok ()) := by
  have answered : (MediaController.new requireSecure).beginLocalOffer.1.applyRemoteDisabledAnswer
      ⟨1, .local_, by decide⟩ = (answeredController requireSecure none, .ok 1) := rfl
  rw [applyDisabledAnswer, bind_apply]
  simp only [read_apply, id]
  rw [offered.pendingOffer, offered.controller]
  simp only [require, bind_apply, pure_apply, answered, modify_apply]

/-- Putting a session in force. -/
theorem commitActive_eq
    (controller : MediaController) (activeRtp : Option ActiveRtpSession) (now : Duration)
    (media : CallMedia) :
    ((commitActive controller activeRtp now media).2 = .ok () ↔
        (activeRtp.isSome = true → (mediaTickInterval.checkedAdd now).isSome = true)) ∧
      (commitActive controller activeRtp now media).1.controller = controller ∧
      (commitActive controller activeRtp now media).1.pendingOffer = none ∧
      (commitActive controller activeRtp now media).1.activeRtp = activeRtp := by
  unfold commitActive
  rw [modify_bind]
  generalize mediaTickInterval.checkedAdd now = deadline
  cases activeRtp with
  | none => simp
  | some active => cases deadline <;> simp [require, refuse, bind_apply, pure_apply]

/-- What the waiting offer makes of an active answer. -/
theorem applyActiveAnswer_of_offered (offered : Offered requireSecure policy localSsrc media)
    (negotiated : NegotiatedMedia) (remoteRtp : SocketAddress)
    (grant : ActivationGrant) (now : Duration) :
    applyActiveAnswer negotiated remoteRtp grant now media =
      match (MediaController.new requireSecure).validateMedia negotiated remoteRtp with
      | .error error => (media, .error (.refused (.mediaControl error)))
      | .ok () =>
        match policy.activate ⟨1, negotiated, remoteRtp⟩ localSsrc grant now with
        | .error fault => (media, .error (fault.map .mediaSessionBuild))
        | .ok activeRtp =>
          commitActive (answeredController requireSecure
            (some ⟨1, negotiated, remoteRtp⟩)) activeRtp now media := by
  have waiting : ¬(media.controller.isActiveMedia negotiated remoteRtp &&
      media.activeRtp.isSome) = true := by
    have none : media.controller.isActiveMedia negotiated remoteRtp = false := by
      rw [offered.controller]
      rfl
    simp [none]
  rw [applyActiveAnswer, bind_apply]
  simp only [read_apply, id]
  rw [if_neg waiting, offered.pendingOffer, offered.sessionPolicy, offered.senderSsrc,
    offered.controller]
  simp only [require, bind_apply, pure_apply, applyRemoteAnswer_of_offered]
  cases (MediaController.new requireSecure).validateMedia negotiated remoteRtp with
  | error error => rfl
  | ok checked =>
    cases built : policy.activate ⟨1, negotiated, remoteRtp⟩ localSsrc grant now with
    | error fault => simp [bind_apply, built, Except.mapError]
    | ok activeRtp => simp [bind_apply, built, Except.mapError]

/-- Media has a session unless its direction is inactive. -/
theorem isSome_of_activate {media : ActiveMedia}
    {grant : ActivationGrant} {now : Duration} {session : Option ActiveRtpSession}
    (built : policy.activate media localSsrc grant now = .ok session) :
    session.isSome = true ↔ media.negotiated.direction ≠ .inactive := by
  rw [MediaSessionPolicy.activate] at built
  split_ifs at built with inactive
  · cases built
    simp [inactive]
  · obtain ⟨_, _, built⟩ := Outcome.bind_eq_ok.mp built
    obtain ⟨_, _, built⟩ := Outcome.bind_eq_ok.mp built
    split at built
    · cases built
    · obtain ⟨_, _, built⟩ := Outcome.bind_eq_ok.mp built
      cases built
      simp [inactive]

/-- What the waiting offer makes of a response. -/
theorem applyAnswer_of_offered (offered : Offered requireSecure policy localSsrc media)
    (response : AnswerResponse) :
    let result := applyAnswer response.answer response.grant response.now media
    (result.2 = .ok () ↔ Acceptable requireSecure policy localSsrc response) ∧ (result.2 = .ok () →
        result.1.pendingOffer = none ∧ result.1.Carries response.answer ∧
          ∀ later : RemoteMediaAnswer,
            later.disposition = .active ∧ result.1.activeRtp.isSome = true ∧
                result.1.Carries later ↔
              Repeats response.answer later) := by
  intro result
  have disabled (kind : response.answer.disposition ≠ .active)
      (same : result = applyDisabledAnswer media)
      (acceptable : Acceptable requireSecure policy localSsrc response)
      (carried : ∀ next : CallMedia, next.controller.active = none → next.Carries response.answer) :
      (result.2 = .ok () ↔ Acceptable requireSecure policy localSsrc response) ∧
        (result.2 = .ok () → result.1.pendingOffer = none ∧ result.1.Carries response.answer ∧
            ∀ later : RemoteMediaAnswer,
              later.disposition = .active ∧ result.1.activeRtp.isSome = true ∧
                  result.1.Carries later ↔
                Repeats response.answer later) := by
    rw [same, applyDisabledAnswer_of_offered offered]
    refine ⟨⟨fun _ => acceptable, fun _ => rfl⟩, fun _ => ⟨rfl, carried _ rfl, ?_⟩⟩
    intro later
    simp [Repeats, kind]
  cases kind : response.answer.disposition with
  | held | rejected =>
    exact disabled (by simp [kind]) (by simp [result, applyAnswer, kind])
      (by simp [Acceptable, kind]) (fun _ none => by simpa [Carries, kind] using none)
  | active =>
    rcases described : response.answer.negotiated with _ | negotiated
    · have refused : result = (media, .error (.refused .mediaAnswerInvariant)) := by
        simp [result, applyAnswer, kind, described, require, refuse, bind_apply]
      simp [refused, Acceptable, kind, described]
    rcases located : response.answer.remoteRtp with _ | remoteRtp
    · have refused : result = (media, .error (.refused .mediaAnswerInvariant)) := by
        simp [result, applyAnswer, kind, described, located, require, refuse,
          bind_apply, pure_apply]
      simp [refused, Acceptable, kind, described, located]
    have answered : result =
        applyActiveAnswer negotiated remoteRtp response.grant response.now media := by
      simp only [result, applyAnswer_of_active kind described located]
    rw [applyActiveAnswer_of_offered offered] at answered
    cases valid : (MediaController.new requireSecure).validateMedia negotiated
        remoteRtp with
    | error error =>
      rw [valid] at answered
      simp [answered, Acceptable, kind, described, located, valid]
    | ok checked =>
      rw [valid] at answered
      cases built : policy.activate ⟨1, negotiated, remoteRtp⟩ localSsrc response.grant
          response.now with
      | error fault =>
        simp only [built] at answered
        simp [answered, Acceptable, kind, described, located, valid, built]
      | ok activeRtp =>
        simp only [built] at answered
        obtain ⟨returned, controller, pending, session⟩ := commitActive_eq
          (answeredController requireSecure (some ⟨1, negotiated, remoteRtp⟩))
          activeRtp response.now media
        rw [← answered] at returned controller pending session
        have inForce (again : NegotiatedMedia) (endpoint : SocketAddress) :
            result.1.controller.isActiveMedia again endpoint =
              (negotiated.same again && remoteRtp == endpoint) := by
          rw [controller]
          rfl
        refine ⟨?_, fun _ => ⟨pending, ?_, fun later => ?_⟩⟩
        · rw [returned]
          simp [Acceptable, kind, described, located, valid, built]
        · simp [Carries, kind, described, located, inForce]
        · rw [session, isSome_of_activate built]
          cases laterKind : later.disposition <;>
            simp only [Repeats, Carries, kind, laterKind, described, located, inForce,
              Bool.and_eq_true, beq_iff_eq]
          · constructor
            · rintro ⟨-, direction, again, endpoint, found, placed, same, rfl⟩
              exact ⟨trivial, trivial, negotiated, _, again, rfl, rfl, found, placed,
                direction, same⟩
            · rintro ⟨-, -, first, endpoint, again, found, placed, repeated, located,
                direction, same⟩
              cases found
              cases placed
              exact ⟨trivial, direction, again, remoteRtp, repeated, located, same, rfl⟩
          · simp
          · simp

/-- The media of a selected branch is taken. -/
theorem selectsMedia_of_selectBranch
    {actions : List CallAction} {branch : DialogBranchId}
    (among : CallAction.selectBranch branch ∈ actions) :
    selectsMedia actions branch = true := by
  refine List.any_eq_true.mpr ⟨_, among, ?_⟩
  simp

/-- After the offer was answered, a sequence is applied faithfully exactly when its
answers repeat the media in force. -/
theorem faithful_iff_of_answered
    (responses : List AnswerResponse) (answered : media.pendingOffer = none)
    (call : CallLifecycle) (inForce : Option RemoteMediaAnswer) :
    media.Faithful call inForce responses ↔ ∀ response ∈ taken call responses,
        response.answer.disposition = .active ∧ media.activeRtp.isSome = true ∧
          media.Carries response.answer := by
  induction responses generalizing call inForce with
  | nil => simp [Faithful, taken]
  | cons response responses ih =>
    obtain ⟨returns, unchanged⟩ :=
      applyAnswer_of_answered answered response.answer response.grant response.now
    rw [Faithful, taken]
    by_cases selected : selectsMedia (actionsOf (call.handle response.event).2)
        response.answer.branch = true
    · simp only [applyRemoteMediaAnswer, selected, if_true, unchanged, returns, ih,
        List.forall_mem_cons]
      constructor
      · rintro ⟨repeated, -, -, rest⟩
        exact ⟨repeated, rest⟩
      · rintro ⟨repeated, rest⟩
        exact ⟨repeated, fun _ _ _ => trivial, fun _ => repeated.2.2, rest⟩
    · have ignored : ¬CallAction.selectBranch response.answer.branch ∈
          actionsOf (call.handle response.event).2 :=
        fun among => selected (selectsMedia_of_selectBranch among)
      simp [applyRemoteMediaAnswer, selected, pure_apply, ih, ignored]

/-- For the answers to one local offer, every application returns, repeated answers
change nothing and the media of the selected branch is in force, if and only if the
first answer whose media is taken can be activated and all others repeat it. -/
theorem remote_answers_faithful_iff
    (requireSecure : Bool) (policy : MediaSessionPolicy) (localSsrc : UInt32)
    (media start : CallMedia) (fresh : media.controller = .new requireSecure)
    (sender : media.senderSsrc = some localSsrc)
    (installed : withMediaSessionPolicy policy media = (start, .ok ()))
    (call : CallLifecycle) (responses : List AnswerResponse) :
    start.Faithful call none responses ↔
      Settled requireSecure policy localSsrc (taken call responses) := by
  have offered := offered_of_withMediaSessionPolicy fresh sender installed
  clear installed
  induction responses generalizing call with
  | nil => simp [Faithful, taken, Settled]
  | cons response responses ih =>
    obtain ⟨returns, next⟩ := applyAnswer_of_offered offered response
    rw [Faithful, taken]
    by_cases selected : selectsMedia (actionsOf (call.handle response.event).2)
        response.answer.branch = true
    · simp only [applyRemoteMediaAnswer, selected, if_true, Settled]
      rw [← returns]
      refine and_congr_right fun returned => ?_
      obtain ⟨answered, carries, repeated⟩ := next returned
      rw [faithful_iff_of_answered responses answered]
      simp only [repeated]
      constructor
      · rintro ⟨-, -, rest⟩
        exact rest
      · intro rest
        exact ⟨by simp, fun _ => carries, rest⟩
    · have ignored : ¬CallAction.selectBranch response.answer.branch ∈
          actionsOf (call.handle response.event).2 :=
        fun among => selected (selectsMedia_of_selectBranch among)
      simp [applyRemoteMediaAnswer, selected, pure_apply, ih, ignored]

/-- A policy with two waiting packets. -/
def samplePolicy : MediaSessionPolicy where
  source := .default
  symmetric := .default
  ingressCapacity := 2
  receiveTimeout := .fromSecs 5
  inactivityTimeout := .fromSecs 15
  rtcpInterval := .fromSecs 5
  rtcpInterval_pos := by decide

/-- A media side with all resources but a policy. -/
def sampleResources : CallMedia :=
  { new false with hasSockets := true, hasScratch := true, senderSsrc := some 7 }

/-- An answer with PCMU media at a port. -/
def sampleAnswer (branch : DialogBranchId) (port : UInt16) : RemoteMediaAnswer where
  branch := branch
  disposition := .active
  negotiated := some { MediaController.sampleMedia with protocol := .rtpAvp, remotePort := port }
  remoteRtp := some ⟨.v4 0x0a000001, port, 0, 0⟩

/-- The branch of a phone. -/
def firstPhone : DialogBranchId := ForkSet.sampleBranch

/-- The branch of another phone. -/
def secondPhone : DialogBranchId := ⟨"b", Sip.tagB.nonempty, by decide, by decide⟩

/-- A response that is granted its activation. -/
def sampleResponse (event : CallEvent) (answer : RemoteMediaAnswer) : AnswerResponse where
  event := event
  answer := answer
  grant := ⟨fun _ => true, some [97]⟩
  now := .fromSecs 1

/-- A call that waits for the answers to its INVITE. -/
def sampleInviting : CallLifecycle := (CallLifecycle.idle.handle (.command .start)).1

/-- Early media of one phone, which then answers with the same media. -/
theorem remote_answers_faithful_sample :
    (withMediaSessionPolicy samplePolicy sampleResources).1.Faithful sampleInviting none
      [sampleResponse (.provisional firstPhone true) (sampleAnswer firstPhone 4000),
        sampleResponse (.inviteAccepted firstPhone) (sampleAnswer firstPhone 4000)] := by
  refine (remote_answers_faithful_iff false samplePolicy 7 sampleResources _ rfl rfl rfl
    sampleInviting _).mpr ?_
  refine ⟨⟨_, _, rfl, rfl, rfl, ?_⟩, ?_⟩
  · refine (Outcome.exists_ok ?_).imp fun session built => ⟨built, fun _ => ?_⟩
    · decide +kernel
    · decide +kernel
  · intro response later
    obtain rfl := List.mem_singleton.mp (mem_of_mem_taken later)
    exact ⟨rfl, rfl, _, _, _, rfl, rfl, rfl, rfl, by decide, by decide +kernel⟩

/-- Early media of one phone, and then another phone answers with its own media: the
offer is spent, and the answer of the selected branch is refused. -/
theorem other_branch_answer_refused :
    ¬(withMediaSessionPolicy samplePolicy sampleResources).1.Faithful sampleInviting none
      [sampleResponse (.provisional firstPhone true) (sampleAnswer firstPhone 4000),
        sampleResponse (.inviteAccepted secondPhone) (sampleAnswer secondPhone 4002)] := by
  intro faithful
  have second := faithful.2.2.2.1
  exact absurd (congrArg Except.isOk second) (by decide +kernel)

end CallMedia
end Call
end LiveAISIP
