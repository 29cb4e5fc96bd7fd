import LiveAISIP.Call.EngineRegistry
import LiveAISIP.Call.Runtime

/-!
# Invariants of a runtime

The lifecycle of a call changes through its own operations only, and the engine
through the five uses that the runtime makes of it.  An invariant of the two that
these keep holds after every operation of the runtime, and in every run.
-/

namespace LiveAISIP
namespace Call

open Sip Transaction Effect
open SignalingEngine Effect.Keeps

namespace CallRuntime

variable {δ μ : Type}

/-- The lifecycle and the engine have their invariants. -/
structure Sound
    (Lifecycle : CallLifecycle → Prop) (Engine : SignalingEngine δ → Prop)
    (runtime : CallRuntime δ μ) : Prop where
  lifecycle : Lifecycle runtime.context.lifecycle
  engine : Engine runtime.engine

/-- The invariant is kept by everything that a runtime does to its engine other
than a poll. -/
structure EngineRule (Engine : SignalingEngine δ → Prop) : Prop where
  executes : ∀ codec actions grants now, Effect.Keeps Engine
    (executeCallActions codec actions grants now)
  starts : ∀ codec grant now, Effect.Keeps Engine (start codec grant now)
  fires : ∀ id grants now, Effect.Keeps Engine (onDeadline id grants now)
  reschedules : ∀ engine deadlines, Engine engine →
    Engine { engine with call := { engine.call with deadlines := deadlines } }
  closes : ∀ engine, Engine engine →
    Engine { engine with
      call := { engine.call with
        transactions := engine.call.transactions.beginShutdown }
      dialog := { engine.dialog with dialogs := engine.dialog.dialogs.beginShutdown } }

/-- What every engine has is kept. -/
theorem engineRule_true : EngineRule (δ := δ) fun _ => True where
  executes _ _ _ _ _ _ := trivial
  starts _ _ _ _ _ := trivial
  fires _ _ _ _ _ := trivial
  reschedules _ _ _ := trivial
  closes _ _ := trivial

/-- The settings of the engine change in a poll only. -/
theorem engineRule_settings (Holds : Settings → Prop) :
    EngineRule (δ := δ) fun engine => Holds engine.settings where
  executes codec actions grants now engine holds :=
    (keeps_executeCallActions (fun _ _ _ _ => trivial)
      (fun _ _ _ _ => trivial) codec actions grants now engine
      (⟨trivial, holds⟩ : Has (fun _ => True) Holds engine)).settings
  starts _ _ _ _ holds := holds
  fires _ _ _ _ holds := holds
  reschedules _ _ holds := holds
  closes _ holds := holds

/-- Finding the event of a deadline fires a timer of the engine, or changes a timer
of the call. -/
theorem keeps_deadlineEvent
    {Invariant : CallRuntime δ μ → Prop} {now : Duration}
    (fires : ∀ id grants, Effect.Keeps Invariant (onEngine (onDeadline id grants now)))
    (session : ∀ runtime timer, Invariant runtime →
      Invariant { runtime with sessionTimer := timer })
    (transfer : ∀ runtime state, Invariant runtime → Invariant { runtime with transfer := state })
    (due : DueDeadline)
    (grants : Nat → Grant δ) :
    Effect.Keeps Invariant (deadlineEvent due grants now) := by
  unfold deadlineEvent
  split
  · refine (keeps_read _).bind fun installed => ?_
    split_ifs
    · exact fires due.id grants
    · exact keeps_fail _
  · split
    · exact keeps_fail _
    · unfold callDeadline
      split
      · exact keeps_pure _
      · exact keeps_pure _
      · exact keeps_pure _
      · refine (keeps_read _).bind fun state => ?_
        split
        · exact keeps_fail _
        · exact bind (fun _ holds => transfer _ _ holds) fun _ =>
            keeps_pure _
      · refine (keeps_read _).bind fun timer => ?_
        split
        · exact keeps_fail _
        · split
          · exact keeps_pure _
          · exact keeps_fail _
          · exact bind (fun _ holds => session _ _ holds) fun _ =>
              keeps_fail _
  · exact keeps_fail _

/-- The invariant is kept by every piece of work that the operations of a runtime
are made of, other than a poll of the engine. -/
structure RuntimeRule
    (plane : MediaPlane μ) (codec : MessageCodec) (now : Duration)
    (Invariant : CallRuntime δ μ → Prop) : Prop where
  handles : ∀ event, Effect.Keeps Invariant (handleEvent event now)
  forces : ∀ reason, Effect.Keeps Invariant (forceEnd reason)
  executes : ∀ actions grants, Effect.Keeps Invariant (execute codec actions grants now)
  starts : ∀ grant, Effect.Keeps Invariant (onEngine (start codec grant now))
  fires : ∀ id grants, Effect.Keeps Invariant (onEngine (onDeadline id grants now))
  finds : Effect.Keeps Invariant (nextDue now)
  answers : ∀ answer, Effect.Keeps Invariant (onMedia (plane.applyAnswer answer now))
  ticks : Effect.Keeps Invariant (onMedia (plane.processClock now))
  fences : Effect.Keeps Invariant (fence plane)
  sessions : ∀ runtime timer, Invariant runtime → Invariant { runtime with sessionTimer := timer }
  transfers : ∀ runtime state, Invariant runtime → Invariant { runtime with transfer := state }
  deadlines : ∀ runtime deadline, Invariant runtime →
    Invariant { runtime with shutdownDeadline := deadline }

namespace RuntimeRule

variable {plane : MediaPlane μ} {codec : MessageCodec} {now : Duration}
  {Invariant : CallRuntime δ μ → Prop}

theorem keeps_processOutcomes
    (rule : RuntimeRule plane codec now Invariant)
    (outcomes : List (SignalingOutcome × OutcomeGrant δ)) :
    Effect.Keeps Invariant (processOutcomes plane codec now outcomes) := by
  have media (answer : Option MediaAnswerOutcome) (produced : List CallAction)
      (grants : Nat → StartGrant δ) : Effect.Keeps Invariant
        (applyMedia plane codec answer produced grants now) := by
    unfold applyMedia
    split
    · exact keeps_pure _
    · split_ifs
      · exact (rule.answers _).bind fun _ => keeps_pure _
      · exact keeps_pure _
    · split_ifs
      · exact (rule.handles _).bind fun _ => (rule.executes _ grants).bind fun _ =>
          keeps_pure _
      · exact keeps_pure _
  induction outcomes with
  | nil => exact keeps_pure _
  | cons numbered outcomes ih =>
    have first : Effect.Keeps Invariant (processOutcome plane codec numbered.1 numbered.2 now) :=
      (rule.handles _).bind fun _ => (rule.executes _ _).bind fun _ =>
        (media _ _ _).bind fun _ => keeps_pure _
    exact first.bind fun _ => ih.bind fun _ => keeps_pure _

theorem keeps_processDueDeadlines
    (rule : RuntimeRule plane codec now Invariant) (grants : Nat → Nat → Grant δ) :
    Effect.Keeps Invariant (processDueDeadlines plane grants now) := by
  have reports (due : DueDeadline) (grants : Nat → Grant δ) :
      Effect.Keeps Invariant (deadlineEvent due grants now) :=
    keeps_deadlineEvent rule.fires rule.sessions rule.transfers due grants
  have turn (grants : Nat → Grant δ) : Effect.Keeps Invariant (dueTurn grants now) := by
    refine rule.finds.bind fun due => ?_
    split
    · exact keeps_pure _
    · refine (reports _ grants).bind fun event => ?_
      split
      · exact (keeps_pure _).bind fun _ => (keeps_read _).bind fun _ =>
          keeps_pure _
      · exact (rule.handles _).bind fun _ =>
          (keeps_read _).bind fun _ => keeps_pure _
  have turns (count : Nat) : Effect.Keeps Invariant (dueTurns grants now count) := by
    induction count with
    | zero => exact keeps_pure _
    | succ count ih =>
      refine ih.bind fun turned => ?_
      obtain ⟨earlier, goesOn⟩ := turned
      cases goesOn with
      | false => exact keeps_pure _
      | true => exact (turn _).bind fun _ => keeps_pure _
  refine (turns _).bind fun turned => ?_
  refine rule.ticks.bind fun _ => (keeps_read _).bind fun _ =>
    (keeps_read _).bind fun _ => ?_
  split_ifs
  · exact (rule.forces .localHangup).bind fun _ => keeps_pure _
  · exact keeps_pure _

theorem keeps_beginShutdown (rule : RuntimeRule plane codec now Invariant) :
    Effect.Keeps Invariant (beginShutdown plane now) := by
  have sets : Effect.Keeps Invariant
      (setShutdownDeadline now : Operation δ μ Unit) := by
    refine (keeps_read _).bind fun grace => ?_
    split
    · exact keeps_fail _
    · exact fun _ holds => rule.deadlines _ _ holds
  refine (keeps_read _).bind fun shutting => ?_
  split_ifs
  · exact keeps_pure _
  · refine rule.fences.bind fun _ => sets.bind fun _ => (keeps_read _).bind
      fun state => ?_
    split
    · exact rule.forces .localHangup
    · exact rule.handles _
    · exact rule.handles _
    · exact keeps_pure _
    · exact keeps_pure _
    · exact keeps_pure _

/-- An operation keeps the invariant if its poll or its work on the media does. -/
theorem perform
    (rule : RuntimeRule plane codec now Invariant)
    {operation : RuntimeOperation δ μ} {runtime : CallRuntime δ μ} (holds : Invariant runtime)
    (polls : ∀ receipts grants, operation = .pollSignaling receipts grants →
      runtime.signalingInstalled = true → Invariant (onEngine (poll codec receipts now) runtime).1)
    (works : ∀ work, operation = .media work → Invariant (onMedia work runtime).1) :
    Invariant (CallRuntime.perform plane codec now operation runtime).1 := by
  cases operation with
  | event event start grants =>
    refine bind (rule.handles event)
      (fun actions => (keeps_read _).bind fun installed => ?_) runtime holds
    have hands : Effect.Keeps Invariant (do
        execute codec actions grants now
        pure actions : Operation δ μ (List CallAction)) :=
      (rule.executes actions grants).bind fun _ => keeps_pure _
    split_ifs
    · exact (rule.starts start).bind fun _ => hands
    · exact hands
    · exact keeps_pure _
  | media work =>
    have worked := works work rfl
    rw [CallRuntime.perform, bind_apply]
    rcases returned : onMedia work runtime with ⟨next, error | done⟩ <;> rwa [returned] at worked
  | pollSignaling receipts grants =>
    rw [CallRuntime.perform, pollSignaling,
      bind_of_ok (read_apply CallRuntime.signalingInstalled runtime)]
    split_ifs with installed
    · have polled := polls receipts grants rfl installed
      rw [bind_apply]
      rcases drained : onEngine (poll codec receipts now) runtime with
        ⟨next, error | outcomes⟩
      · rwa [drained] at polled
      · rw [drained] at polled
        exact rule.keeps_processOutcomes _ next polled
    · exact holds
  | processDueDeadlines grants =>
    exact rule.keeps_processDueDeadlines grants runtime holds
  | shutdown => exact rule.keeps_beginShutdown runtime holds

end RuntimeRule

/-- What the media side keeps on its own is kept by the runtime. -/
theorem runtimeRule_media
    {Media : μ → Prop} {plane : MediaPlane μ}
    (answers : ∀ answer now media, Media media → Media (plane.applyAnswer answer now media).1)
    (ticks : ∀ now media, Media media → Media (plane.processClock now media).1)
    (drains : ∀ media, Media media → Media (plane.beginDraining media))
    (codec : MessageCodec) (now : Duration) :
    RuntimeRule (δ := δ) plane codec now fun runtime => Media runtime.media where
  handles event := by
    intro runtime holds
    unfold handleEvent
    split <;> exact holds
  forces _ _ holds := holds
  executes _ _ := bind (fun _ holds => holds) fun _ _ holds => holds
  starts _ _ holds := holds
  fires _ _ _ holds := holds
  finds _ holds := holds
  answers answer _ holds := answers answer now _ holds
  ticks _ holds := ticks now _ holds
  fences _ holds := drains _ holds
  sessions _ _ holds := holds
  transfers _ _ holds := holds
  deadlines _ _ holds := holds

section Keeps

variable {Lifecycle : CallLifecycle → Prop} {Engine : SignalingEngine δ → Prop}

variable {codec : MessageCodec}

theorem keeps_onEngine
    {inner : SignalingEngine.Operation δ α} (keeps : Effect.Keeps Engine inner) :
    Effect.Keeps (Sound (μ := μ) Lifecycle Engine) (onEngine inner) :=
  (keeps_zoom fun runtime holds =>
    ⟨holds.lifecycle, keeps runtime.engine holds.engine⟩).mapError _

/-- Handling an event is one operation of the lifecycle, or none. -/
theorem keeps_handleEvent
    (applies : ∀ call operation, Lifecycle call → Lifecycle (call.apply operation).1)
    (event : CallEvent) (now : Duration) :
    Effect.Keeps (Sound (μ := μ) Lifecycle Engine) (handleEvent event now) := by
  intro runtime holds
  have kept : Lifecycle (runtime.context.handle event now).1.lifecycle := by
    have applied := applies _ (.handle event) holds.lifecycle
    simp only [CallLifecycle.apply] at applied
    unfold CallContext.handle
    split_ifs
    · exact holds.lifecycle
    · split <;> simp_all
  unfold handleEvent
  split <;> rename_i returned <;> rw [returned] at kept
  · exact ⟨kept, holds.engine⟩
  · exact ⟨kept, holds.engine⟩

/-- What the lifecycle and the engine keep on their own is kept by the runtime. -/
theorem runtimeRule_sound
    (applies : ∀ call operation, Lifecycle call → Lifecycle (call.apply operation).1)
    (rule : EngineRule Engine) (plane : MediaPlane μ) (codec : MessageCodec) (now : Duration) :
    RuntimeRule plane codec now (Sound Lifecycle Engine) where
  handles event := keeps_handleEvent applies event now
  forces reason _ holds := ⟨applies _ (.forceEnd reason) holds.lifecycle, holds.engine⟩
  executes actions grants := by
    refine bind (keeps_modify ?_) fun _ =>
      keeps_onEngine (rule.executes codec actions grants now)
    exact fun _ holds => ⟨holds.lifecycle, holds.engine⟩
  starts grant := keeps_onEngine (rule.starts codec grant now)
  fires id grants := keeps_onEngine (rule.fires id grants now)
  finds _ holds := ⟨holds.lifecycle, rule.reschedules _ _ holds.engine⟩
  answers _ _ holds := ⟨holds.lifecycle, holds.engine⟩
  ticks _ holds := ⟨holds.lifecycle, holds.engine⟩
  fences _ holds := ⟨holds.lifecycle, rule.closes _ holds.engine⟩
  sessions _ _ holds := ⟨holds.lifecycle, holds.engine⟩
  transfers _ _ holds := ⟨holds.lifecycle, holds.engine⟩
  deadlines _ _ holds := ⟨holds.lifecycle, holds.engine⟩

/-- An operation leaves a sound runtime sound if its poll does. -/
theorem Sound.perform
    (applies : ∀ call operation, Lifecycle call → Lifecycle (call.apply operation).1)
    (rule : EngineRule Engine) (plane : MediaPlane μ)
    {now : Duration} {operation : RuntimeOperation δ μ}
    {runtime : CallRuntime δ μ} (sound : runtime.Sound Lifecycle Engine)
    (polls : ∀ receipts grants, operation = .pollSignaling receipts grants →
      runtime.signalingInstalled = true → Engine (runtime.engine.poll codec receipts now).1) :
    (perform plane codec now operation runtime).1.Sound Lifecycle Engine :=
  (runtimeRule_sound applies rule plane codec now).perform sound
    (fun receipts grants same installed =>
      ⟨sound.lifecycle, polls receipts grants same installed⟩)
    (fun _ _ => ⟨sound.lifecycle, sound.engine⟩)

/-- Every operation of a runtime keeps what its polls keep. -/
theorem keeps_perform
    (applies : ∀ call operation, Lifecycle call → Lifecycle (call.apply operation).1)
    (rule : EngineRule Engine) (plane : MediaPlane μ)
    {now : Duration} {operation : RuntimeOperation δ μ}
    (polls : ∀ receipts grants, operation = .pollSignaling receipts grants →
      Effect.Keeps Engine (poll codec receipts now)) :
    Effect.Keeps (Sound Lifecycle Engine) (perform plane codec now operation) :=
  fun runtime sound => sound.perform applies rule plane fun receipts grants same _ =>
    polls receipts grants same runtime.engine sound.engine

/-- An invariant of the engine that every datagram under a condition keeps holds
after every run whose polls come to such datagrams only. -/
theorem engine_after
    (rule : EngineRule Engine)
    {condition : Duration → SignalingEngine δ → Datagram → Turn δ → Prop}
    (receives : ∀ now engine datagram turn, condition now engine datagram turn →
      Engine engine → Engine (engine.receive codec now datagram turn).1)
    (plane : MediaPlane μ) {runtime : CallRuntime δ μ} (initial : Engine runtime.engine)
    (operations : List (Duration × RuntimeOperation δ μ))
    (met : Run.AllSteps (fun earlier operation =>
      AtEveryDatagram (condition operation.1) codec operation.1
        (runtime.after plane codec earlier) operation.2) operations) :
    Engine (runtime.after plane codec operations).engine := by
  refine (Run.guarded_invariant (fun _ => Sound (fun _ => True) Engine)
    ⟨trivial, initial⟩ ?_ operations met).engine
  rintro earlier ⟨now, operation⟩ meets sound
  refine sound.perform (fun _ _ _ => trivial) rule plane ?_
  rintro receipts grants rfl installed
  exact poll_of_receives sound.engine fun first datagram turn later split
    intact holds => receives now _ datagram turn
      (meets installed first datagram turn later split intact) holds

end Keeps

end CallRuntime
end Call
end LiveAISIP
