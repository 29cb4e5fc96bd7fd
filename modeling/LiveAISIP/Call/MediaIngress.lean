import LiveAISIP.Call.MediaAnswers
import LiveAISIP.Call.RuntimeInvariant

/-!
# Media datagrams of a call

Readiness of a media socket is handled by a poll of its datagrams.  A datagram goes
to the session in force, which takes or refuses it; a call without a session has no
place for datagrams.
-/

namespace LiveAISIP
namespace Call
namespace CallMedia

open Sip Sip.Sdp Rtp Transaction Effect
open RtpSession Effect.Keeps CallRuntime

variable {media : CallMedia}

/-- A session prepared before the call, by the operations of sessions. -/
structure PreparedSession where
  session : RtpSession
  prepared : ∃ settings packets, session.Represents settings packets

/-- The installations on a media side before its call starts. -/
inductive Installation
  | sockets
  | scratch
  | sender (ssrc : UInt32)
  | session (prepared : PreparedSession)
  | policy (policy : MediaSessionPolicy)

/-- Carry out an installation. -/
def install (media : CallMedia) : Installation → CallMedia × Except (Fault CallMediaError) Unit
  | .sockets => withMediaSockets media
  | .scratch => withPacketScratch media
  | .sender ssrc => withRtpSender ssrc media
  | .session prepared => withRtpSession prepared.session media
  | .policy policy => withMediaSessionPolicy policy media

/-- What the thread of a call does with its media directly. -/
inductive MediaOperation
  | pollNetwork (component : Component) (reads : List MediaRead)
  | startMediaClock
  | audioReady (generation : Nat)
  | controller (operation : MediaController.Operation)
  | session (call : Call)
  | finishCleanup

/-- Carry out an operation on the media. -/
def MediaOperation.work (now : Duration) : MediaOperation → CallMedia → CallMedia × Bool
  | .pollNetwork component reads, media =>
    completed (CallMedia.pollNetwork component reads now media)
  | .startMediaClock, media => completed (CallMedia.startMediaClock now media)
  | .audioReady generation, media => completed (CallMedia.audioReady generation media)
  | .controller operation, media =>
    ({ media with controller := (media.controller.step operation).1 }, true)
  | .session call, media =>
    ({ media with
        activeRtp := media.activeRtp.map fun active =>
          { active with session := (active.session.step call).1 } }, true)
  | .finishCleanup, media => completed (CallMedia.finishCleanup media)

/-- Work on the media is one of its operations. -/
def Genuine (now : Duration) : RuntimeOperation δ CallMedia → Prop
  | .media work => ∃ operation : MediaOperation, work = operation.work now
  | _ => True

/-- The session in force was reached by the operations of sessions. -/
def SoundSession (media : CallMedia) : Prop := ∀ active ∈ media.activeRtp, ∃ settings packets,
    active.session.Represents settings packets

/-- Only the session and the counters differ, and the session is of the same media. -/
structure Isolated (before after : CallMedia) : Prop where
  rest : after = { before with
    activeRtp := after.activeRtp, diagnostics := after.diagnostics }
  session : before.activeRtp.map (fun active => (active.generation, active.direction)) =
    after.activeRtp.map (fun active => (active.generation, active.direction))

theorem isolated_refl (media : CallMedia) : Isolated media media := ⟨rfl, rfl⟩

theorem Isolated.trans
    {first second third : CallMedia} (before : Isolated first second)
    (after : Isolated second third) :
    Isolated first third := by
  refine ⟨?_, before.session.trans after.session⟩
  rw [after.rest, before.rest]

/-- A datagram that a sound session in force takes or refuses. -/
structure Handled (before : CallMedia)
    (result : CallMedia × Except (Fault CallMediaError) α) : Prop where
  returned : ∃ value, result.2 = .ok value
  sound : SoundSession result.1
  isolated : Isolated before result.1

/-- A computation on sessions that keeps them sound and has no fault. -/
def SoundRun (run : RtpSession.Operation α) : Prop :=
  ∀ session : RtpSession, (∃ settings packets, session.Represents settings packets) →
    (∃ settings packets, (run session).1.Represents settings packets) ∧
      (run session).2 ≠ .error .outOfBounds

/-- What a call does to a session keeps it sound. -/
theorem soundRun_of_step
    {run : RtpSession.Operation α} (call : RtpSession.Call)
    (same : ∀ session, (run session).1 = (session.step call).1)
    (fault : ∀ session, (run session).2 = .error .outOfBounds →
      (session.step call).2.error? = some .outOfBounds) :
    SoundRun run := by
  rintro session ⟨settings, packets, represents⟩
  obtain ⟨next, sound⟩ := represents_step represents call
  rw [← same] at next
  exact ⟨⟨settings, _, next⟩, fun faulted => (sound _ (fault session faulted)).1 rfl⟩

theorem soundRun_ingestRtp
    (allocates : Nat → Bool) (source : SocketAddress) (payload : List UInt8)
    (now : Duration) (protection : PacketProtection) :
    SoundRun (ingestRtp allocates source payload now protection) := by
  refine soundRun_of_step (.ingestRtp allocates source payload now protection)
    (fun _ => rfl) fun session faulted => ?_
  rw [step, reply, faulted]
  rfl

theorem soundRun_ingestRtcp
    (allocates : Nat → Bool) (source : SocketAddress) (payload : List UInt8)
    (now : Duration) (protection : PacketProtection) :
    SoundRun (ingestRtcp allocates source payload now protection) := by
  refine soundRun_of_step (.ingestRtcp allocates source payload now protection)
    (fun _ => rfl) fun session faulted => ?_
  rw [step, reply, faulted]
  rfl

theorem handled_pure (sound : SoundSession media) (value : α) :
    Handled media ((pure value : Operation α) media) :=
  ⟨⟨value, rfl⟩, sound, isolated_refl media⟩

theorem handled_count (sound : SoundSession media)
    (change : MediaDiagnostics → MediaDiagnostics) :
    Handled media (count change media) :=
  ⟨⟨(), rfl⟩, sound, rfl, rfl⟩

/-- What handles the media goes before what handles it next. -/
theorem Handled.bind {first : Operation α} {second : α → Operation β}
    (before : Handled media (first media))
    (after : ∀ value next, SoundSession next → Handled next (second value next)) :
    Handled media ((first >>= second) media) := by
  obtain ⟨⟨value, returned⟩, sound, isolated⟩ := before
  have first : first media = ((first media).1, .ok value) := by rw [← returned]
  rw [bind_of_ok first]
  obtain ⟨finished, still, rest⟩ := after value _ sound
  exact ⟨finished, still, isolated.trans rest⟩

theorem handled_ingest (sound : SoundSession media)
    {run : RtpSession.Operation α} (runs : SoundRun run)
    (note : α → MediaDiagnostics → MediaDiagnostics × Bool) :
    Handled media (ingest run note media) := by
  unfold ingest
  cases inForce : media.activeRtp with
  | none => exact handled_pure sound false
  | some active =>
    obtain ⟨represents, safe⟩ := runs active.session (sound active inForce)
    have next (counters : MediaDiagnostics) : SoundSession
        { media with
          activeRtp := some { active with session := (run active.session).1 }
          diagnostics := counters } := by
      intro other same
      cases same
      exact represents
    have isolated (counters : MediaDiagnostics) : Isolated media
        { media with
          activeRtp := some { active with session := (run active.session).1 }
          diagnostics := counters } :=
      ⟨rfl, by simp [inForce]⟩
    simp only
    split
    next faulted => exact absurd faulted safe
    next => exact ⟨⟨false, rfl⟩, next media.diagnostics, isolated media.diagnostics⟩
    next => exact ⟨⟨_, rfl⟩, next _, isolated _⟩

theorem handled_handleRead (sound : SoundSession media)
    (component : Component) (receiveAllowed : Bool) (now : Duration)
    {read : MediaRead} (succeeds : read ≠ .failed) :
    Handled media (handleRead component receiveAllowed now read media) := by
  cases read with
  | failed => exact absurd rfl succeeds
  | tooLarge =>
    exact handled_count sound fun diagnostics => diagnostics.received.rejected
  | datagram source payload allocates =>
    refine (handled_count sound MediaDiagnostics.received).bind fun _ counted held => ?_
    have submitted : Handled counted
        (submit component receiveAllowed source payload allocates now counted) := by
      cases component with
      | rtp =>
        cases receiveAllowed with
        | false => exact handled_pure held false
        | true => exact handled_ingest held (soundRun_ingestRtp _ _ _ _ _) noteRtp
      | rtcp => exact handled_ingest held (soundRun_ingestRtcp _ _ _ _ _) noteRtcp
    refine submitted.bind fun accepted next still => ?_
    cases accepted with
    | true => exact handled_pure still ()
    | false => exact handled_count still _

theorem handled_each
    (component : Component) (receiveAllowed : Bool) (now : Duration)
    (reads : List MediaRead)
    (succeed : ∀ read ∈ reads, read ≠ .failed)
    (sound : SoundSession media) :
    Handled media (each (handleRead component receiveAllowed now) reads media) := by
  induction reads generalizing media with
  | nil => exact handled_pure sound ()
  | cons read reads ih =>
    refine (handled_handleRead sound component receiveAllowed now
      (succeed read List.mem_cons_self)).bind fun _ next still => ?_
    exact ih (fun other later => succeed other (List.mem_cons_of_mem _ later)) still

/-- A poll of a media side with sockets and scratch storage. -/
theorem pollNetwork_of_installed
    (sockets : media.hasSockets = true)
    (scratch : media.hasScratch = true)
    (component : Component) (reads : List MediaRead) (now : Duration) :
    pollNetwork component reads now media =
      match media.activeRtp with
      | none => (media, .error (.refused .mediaResourcesUnavailable))
      | some active =>
        each (handleRead component active.canReceive now)
          (reads.take maxMediaDatagramsPerPoll) media := by
  rw [pollNetwork, bind_apply]
  simp only [read_apply, id, sockets, scratch, not_true, or_self, if_false]
  cases media.activeRtp with
  | none => rfl
  | some active => rfl

theorem keeps_require (resource : Option α) (error : CallMediaError) :
    Effect.Keeps SoundSession (require resource error) := by
  unfold require
  split
  · exact keeps_pure _
  · exact keeps_fail _

theorem sound_pollNetwork
    (component : Component) (reads : List MediaRead) (now : Duration) :
    Effect.Keeps SoundSession (pollNetwork component reads now) := by
  have each (receiveAllowed : Bool) : ∀ read, Effect.Keeps SoundSession
      (handleRead component receiveAllowed now read) := by
    intro read media sound
    cases read with
    | failed => exact sound
    | tooLarge => exact sound
    | datagram source payload allocates =>
      exact (handled_handleRead sound component receiveAllowed now (by simp)).sound
  refine (keeps_read _).bind fun media => ?_
  split_ifs
  · exact keeps_fail _
  · exact (keeps_require _ _).bind fun active => keeps_each (each _) _

/-- A step of the configuration leaves the waiting packets alone. -/
theorem framed_of_configured
    {run : RtpSession.Operation Unit} {session next : RtpSession} (quiet : Quiet run)
    (returned : MediaSessionPolicy.configured (run session) = .ok next) :
    Framed session next := by
  have framed := quiet.framed session
  rcases outcome : run session with ⟨after, fault | _⟩ <;> rw [outcome] at returned framed
  · cases returned
  · cases returned
    exact framed

/-- A built session has no waiting packets. -/
theorem represents_of_activate
    {policy : MediaSessionPolicy} {media : ActiveMedia} {localSsrc : UInt32}
    {grant : ActivationGrant} {now : Duration} {active : ActiveRtpSession}
    (built : policy.activate media localSsrc grant now = .ok (some active)) :
    ∃ settings packets, active.session.Represents settings packets := by
  rw [MediaSessionPolicy.activate] at built
  split_ifs at built with inactive
  · cases built
  obtain ⟨_, _, built⟩ := Outcome.bind_eq_ok.mp built
  obtain ⟨_, _, built⟩ := Outcome.bind_eq_ok.mp built
  split at built
  · cases built
  obtain ⟨session, made, built⟩ := Outcome.bind_eq_ok.mp built
  cases built
  rw [MediaSessionPolicy.buildSession] at made
  obtain ⟨endpoints, _, made⟩ := Outcome.bind_eq_ok.mp made
  obtain ⟨clockRate, _, made⟩ := Outcome.bind_eq_ok.mp made
  obtain ⟨receive, _, made⟩ := Outcome.bind_eq_ok.mp made
  obtain ⟨liveness, _, made⟩ := Outcome.bind_eq_ok.mp made
  obtain ⟨maximum, _, made⟩ := Outcome.bind_eq_ok.mp made
  obtain ⟨fresh, created, made⟩ := Outcome.bind_eq_ok.mp made
  obtain ⟨routed, routes, made⟩ := Outcome.bind_eq_ok.mp made
  have start := represents_new (Outcome.mapError_eq_ok.mp created)
  have routing : Framed fresh routed := by
    unfold MediaSessionPolicy.configureEvents at routes
    split at routes
    · cases routes
      exact framed_refl _
    · obtain ⟨config, _, routes⟩ := Outcome.bind_eq_ok.mp routes
      exact framed_of_configured (quiet_configureTelephoneEvent config) routes
  split at made
  · cases made
  · have reporting := framed_of_configured (quiet_configureRtcp _ _ _ _ _ _) made
    exact ⟨_, _, start.framed (routing.trans reporting)⟩

/-- Putting a sound session in force. -/
theorem sound_commitActive
    {controller : MediaController} {activeRtp : Option ActiveRtpSession}
    (built : ∀ active ∈ activeRtp, ∃ settings packets, active.session.Represents settings packets)
    (now : Duration) (media : CallMedia) :
    SoundSession (commitActive controller activeRtp now media).1 := by
  unfold commitActive
  rw [modify_bind]
  generalize mediaTickInterval.checkedAdd now = deadline
  cases activeRtp with
  | none =>
    intro active found
    cases found
  | some session => cases deadline <;> exact built

theorem sound_applyAnswer
    (answer : RemoteMediaAnswer) (grant : ActivationGrant) (now : Duration) :
    Effect.Keeps SoundSession (applyAnswer answer grant now) := by
  have disabled : Effect.Keeps SoundSession applyDisabledAnswer := by
    refine (keeps_read _).bind fun media => (keeps_require _ _).bind fun token => ?_
    split
    · exact keeps_fail _
    · exact fun _ _ _ found => by cases found
  have active (negotiated : NegotiatedMedia) (remoteRtp : SocketAddress) :
      Effect.Keeps SoundSession (applyActiveAnswer negotiated remoteRtp grant now) := by
    refine (keeps_read _).bind fun media => ?_
    split_ifs
    · exact keeps_pure _
    · refine (keeps_require _ _).bind fun token => (keeps_require _ _).bind fun policy =>
        (keeps_require _ _).bind fun localSsrc => ?_
      split
      · exact keeps_fail _
      next controller generation _ =>
        intro state sound
        rw [bind_apply]
        cases built : policy.activate generation localSsrc grant now with
        | error fault => exact sound
        | ok session =>
          refine sound_commitActive (fun active found => ?_) now state
          cases found
          exact represents_of_activate built
  unfold applyAnswer
  split
  · exact (keeps_require _ _).bind fun negotiated => (keeps_require _ _).bind fun remoteRtp =>
      active negotiated remoteRtp
  · exact disabled
  · exact disabled

theorem sound_processMediaClock (now : Duration) :
    Effect.Keeps SoundSession (processMediaClock now) := by
  refine (keeps_read _).bind fun next => ?_
  split
  · exact keeps_pure _
  · split
    · exact keeps_fail _
    · exact keeps_pure _
    · exact bind (fun _ sound => sound) fun _ _ sound => sound

theorem sound_startMediaClock (now : Duration) :
    Effect.Keeps SoundSession (startMediaClock now) := by
  unfold startMediaClock
  generalize mediaTickInterval.checkedAdd now = deadline
  exact (keeps_require deadline _).bind fun _ _ still => still

theorem sound_install (installation : Installation) (media : CallMedia)
    (sound : SoundSession media) : SoundSession (media.install installation).1 := by
  cases installation with
  | sockets | scratch | sender ssrc =>
    refine bind (keeps_read _) (fun present => ?_) media sound
    split_ifs
    · exact keeps_fail _
    · exact fun _ still => still
  | session prepared =>
    refine bind (keeps_read _) (fun present => ?_) media sound
    split_ifs
    · exact keeps_fail _
    · intro state still
      unfold ActiveRtpSession.fromPrebuilt
      split
      · exact still
      · intro active found
        cases found
        exact prepared.prepared
  | policy policy =>
    refine bind (keeps_read _) (fun state => ?_) media sound
    split_ifs
    · exact keeps_fail _
    · exact keeps_fail _
    · exact bind (fun _ still => still) fun _ _ still => still

theorem sound_work
    (now : Duration) (operation : MediaOperation) (media : CallMedia)
    (sound : SoundSession media) : SoundSession (operation.work now media).1 := by
  cases operation with
  | pollNetwork component reads => exact sound_pollNetwork component reads now media sound
  | startMediaClock =>
    simp only [MediaOperation.work, completed]
    exact sound_startMediaClock now media sound
  | audioReady generation =>
    simp only [MediaOperation.work, completed]
    refine bind (keeps_read _) (fun state => ?_) media sound
    split_ifs
    · exact keeps_pure _
    · exact fun _ still => still
  | controller operation => exact sound
  | session call =>
    intro active found
    obtain ⟨before, inForce, rfl⟩ := Option.map_eq_some_iff.mp found
    obtain ⟨settings, packets, represents⟩ := sound before inForce
    exact ⟨settings, _, (represents_step represents call).1⟩
  | finishCleanup =>
    intro active found
    cases found

/-- In every run of a call the session in force is sound. -/
theorem soundSession_after
    (grant : ActivationGrant) (codec : MessageCodec) (requireSecure : Bool)
    (installations : List Installation) {start : CallRuntime δ CallMedia}
    (installed : start.media = Run.after install (new requireSecure) installations)
    {operations : List (Duration × RuntimeOperation δ CallMedia)}
    (genuine : ∀ operation ∈ operations, Genuine operation.1 operation.2) :
    SoundSession (start.after (plane grant) codec operations).media := by
  have initial : SoundSession start.media := by
    rw [installed]
    refine Run.invariant (fun media : CallMedia => SoundSession media) ?_
      (fun media installation sound => sound_install installation media sound) installations
    intro active found
    cases found
  induction operations using List.reverseRecOn with
  | nil => exact initial
  | append_singleton earlier operation ih =>
    obtain ⟨now, operation⟩ := operation
    have before := ih fun other among =>
      genuine other (List.mem_append_left _ among)
    have last : Genuine now operation := genuine (now, operation) (by simp)
    rw [after, Run.after_append]
    refine (runtimeRule_media
      (fun answer now media => sound_applyAnswer answer grant now media)
      (fun now media => sound_processMediaClock now media)
      (fun _ sound => sound) codec now).perform before (fun _ _ _ _ => before) ?_
    rintro work rfl
    obtain ⟨used, rfl⟩ := last
    exact sound_work now used _ before

/-- Work on the media leaves the rest of a runtime alone. -/
theorem perform_media
    (plane : MediaPlane CallMedia) (codec : MessageCodec) (now : Duration)
    (work : CallMedia → CallMedia × Bool) (runtime : CallRuntime δ CallMedia) :
    perform plane codec now (.media work) runtime =
      ({ runtime with media := (work runtime.media).1 },
        if (work runtime.media).2 then .ok [] else .error .media) := by
  rw [perform, bind_apply, onMedia]
  rcases work runtime.media with ⟨media, done⟩
  cases done <;> rfl

/-- A poll of a media socket. -/
def networkPoll (component : Component) (reads : List MediaRead) (now : Duration) :
    RuntimeOperation δ CallMedia :=
  .media ((MediaOperation.pollNetwork component reads).work now)

/-- In every state that a call reaches while it owns its media sockets and scratch
storage, a poll whose reads succeed returns if and only if a session is in force, and
then changes only that session and the counters. -/
theorem network_poll_returns_iff
    (grant : ActivationGrant) (codec : MessageCodec) (requireSecure : Bool)
    (installations : List Installation) (start : CallRuntime δ CallMedia)
    (installed : start.media = Run.after install (new requireSecure) installations)
    (operations : List (Duration × RuntimeOperation δ CallMedia))
    (genuine : ∀ operation ∈ operations, Genuine operation.1 operation.2)
    (component : Component) (reads : List MediaRead) (now : Duration)
    (sockets : (start.after (plane grant) codec operations).media.hasSockets = true)
    (scratch : (start.after (plane grant) codec operations).media.hasScratch = true)
    (succeed : ∀ read ∈ reads.take maxMediaDatagramsPerPoll, read ≠ .failed) :
    let runtime := start.after (plane grant) codec operations
    let result := perform (plane grant) codec now (networkPoll component reads now) runtime
    (result.2 = .ok [] ↔ runtime.media.activeRtp.isSome = true) ∧
      result.1 = { runtime with media := result.1.media } ∧
      Isolated runtime.media result.1.media := by
  intro runtime result
  have sound := soundSession_after grant codec requireSecure installations installed genuine
  have polled := pollNetwork_of_installed sockets scratch component reads now
  have performed : result =
      ({ runtime with media := (pollNetwork component reads now runtime.media).1 },
        if (pollNetwork component reads now runtime.media).2.isOk then .ok []
        else .error .media) := perform_media _ _ _ _ _
  rw [performed, polled]
  cases inForce : runtime.media.activeRtp with
  | none => exact ⟨by simp [Except.isOk, Except.toBool], rfl, isolated_refl _⟩
  | some active =>
    obtain ⟨⟨_, returned⟩, _, isolated⟩ := handled_each component active.canReceive now
      (reads.take maxMediaDatagramsPerPoll) succeed sound
    exact ⟨by simp [returned, Except.isOk, Except.toBool], rfl, isolated⟩

/-- An idle call with this media side. -/
def sampleRuntime (media : CallMedia) : Option (CallRuntime Unit CallMedia) :=
  (idleRuntime none).map fun runtime =>
    { context := runtime.context
      engine := runtime.engine
      signalingInstalled := runtime.signalingInstalled
      media := media
      sessionTimer := runtime.sessionTimer
      transfer := runtime.transfer
      shutdownGrace := runtime.shutdownGrace
      shutdownDeadline := runtime.shutdownDeadline
      shuttingDown := runtime.shuttingDown
      journal := runtime.journal }

/-- What an activation of the sample call is granted. -/
def sampleGrant : ActivationGrant := ⟨fun _ => true, some [97]⟩

/-- A datagram that is not RTP. -/
def sampleRead : MediaRead := .datagram ⟨.v4 0x0a000001, 4000, 0, 0⟩ [1, 2, 3] fun _ => true

/-- The session that was prepared for the sample call. -/
def samplePrepared : Option PreparedSession :=
  match created : sampleSession with
  | .ok session => some ⟨session, _, _, represents_new created⟩
  | .error _ => none

/-- What is installed for a call with a prepared session. -/
def sampleInstallations : List Installation :=
  .sockets :: .scratch :: samplePrepared.toList.map .session

/-- With a session in force, a malformed datagram is counted and the call goes on. -/
theorem network_poll_returns_sample :
    ∃ start, some start = sampleRuntime
        (Run.after install (new false) sampleInstallations) ∧
      (perform (plane sampleGrant) sampleCodec (.fromSecs 1)
        (networkPoll .rtp [sampleRead] (.fromSecs 1)) start).2 = .ok [] := by
  refine ⟨_, rfl, ?_⟩
  refine (network_poll_returns_iff sampleGrant sampleCodec false sampleInstallations _ rfl
    [] (by simp) .rtp [sampleRead] (.fromSecs 1) ?_ ?_ ?_).1.mpr ?_
  · decide +kernel
  · decide +kernel
  · intro read among
    obtain rfl := List.mem_singleton.mp (List.mem_of_mem_take among)
    simp [sampleRead]
  · decide +kernel

/-- The local offer of a call waits for its answer, and one datagram comes early: the
poll fails, and with it the call. -/
theorem early_datagram_fails :
    ∃ start, some start = sampleRuntime (Run.after install (new false)
        [.sockets, .scratch, .sender 7, .policy samplePolicy]) ∧
      start.media.hasSockets = true ∧ start.media.hasScratch = true ∧
      (perform (plane sampleGrant) sampleCodec (.fromSecs 1)
        (networkPoll .rtp [sampleRead] (.fromSecs 1)) start).2 = .error .media :=
  ⟨_, rfl, rfl, rfl, rfl⟩

end CallMedia
end Call
end LiveAISIP
