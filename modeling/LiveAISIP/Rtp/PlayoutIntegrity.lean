import LiveAISIP.Rtp.Rtcp.RoundTrip
import LiveAISIP.Rtp.Session
import Mathlib.Data.List.Perm.Basic
import Mathlib.Data.List.Range

/-!
# Integrity of the playout ingress

Every slot of a session is free or waits in the ingress queue, and the waiting
slots hold, in this order, the packets that were admitted and not yet played out.
Admitting a packet, dropping it, giving up a source and playing a packet out move
one slot at a time between the two.
-/

namespace LiveAISIP
namespace Rtp

open Fault Splice
open Transaction (Duration)
open Effect Outcome BoundedQueue

/-- The occupied slot of a packet. -/
def PlayoutPacket.slot (packet : PlayoutPacket) : PlayoutPacketSlot where
  sequenceNumber := packet.sequenceNumber
  timestamp := packet.timestamp
  ssrc := packet.ssrc
  payloadType := packet.payloadType
  marker := packet.marker
  payloadLength := packet.payload.length
  occupied := true

namespace PlayoutPacketPool

variable {pool : PlayoutPacketPool} {capacity : Nat}

/-- The slot keeps the packet and its bytes keep the payload. -/
structure Holds (pool : PlayoutPacketPool) (index : Nat) (packet : PlayoutPacket) :
    Prop where
  fits : packet.payload.length ≤ pool.maximumPayloadBytes
  slot : pool.slots[index]? = some packet.slot
  payload : slice pool.payloads (pool.payloadStart index) packet.payload.length = packet.payload

/-- The bytes of a slot end before those of a later one begin. -/
theorem payloadStart_add_le {first second count : Nat}
    (before : first < second) (fits : count ≤ pool.maximumPayloadBytes) :
    pool.payloadStart first + count ≤ pool.payloadStart second := by
  have next := Nat.mul_le_mul_right pool.maximumPayloadBytes (Nat.succ_le_of_lt before)
  rw [Nat.succ_mul] at next
  simp only [payloadStart]
  omega

/-- Every slot is free or in use; a slot in use holds its packet. -/
structure Invariant (pool : PlayoutPacketPool) (capacity : Nat)
    (waiting : List (Nat × PlayoutPacket)) : Prop where
  slots : pool.slots.length = capacity + 1
  payloads : pool.payloads.length = pool.payloadStart (capacity + 1)
  partition : (pool.free ++ waiting.map Prod.fst).Perm (List.range (capacity + 1))
  vacant : ∀ index ∈ pool.free, ∀ slot, pool.slots[index]? = some slot → slot.occupied = false
  contents : ∀ entry ∈ waiting, pool.Holds entry.1 entry.2

namespace Invariant

variable {waiting : List (Nat × PlayoutPacket)}

theorem nodup (invariant : pool.Invariant capacity waiting) :
    (pool.free ++ waiting.map Prod.fst).Nodup :=
  invariant.partition.nodup_iff.mpr List.nodup_range

theorem lt_of_mem (invariant : pool.Invariant capacity waiting)
    {index : Nat} (known : index ∈ pool.free ++ waiting.map Prod.fst) :
    index < capacity + 1 :=
  List.mem_range.mp (invariant.partition.mem_iff.mp known)

theorem lt_of_waiting (invariant : pool.Invariant capacity waiting)
    {entry : Nat × PlayoutPacket} (known : entry ∈ waiting) :
    entry.1 < capacity + 1 :=
  invariant.lt_of_mem (List.mem_append_right _ (List.mem_map_of_mem known))

/-- The bytes of a slot are there. -/
theorem inside (invariant : pool.Invariant capacity waiting)
    {index count : Nat} (known : index < capacity + 1) (fits : count ≤ pool.maximumPayloadBytes) :
    pool.payloadStart index + count ≤ pool.payloads.length := by
  rw [invariant.payloads]
  exact payloadStart_add_le known fits

/-- A slot in use is read as its packet. -/
theorem packet_eq (invariant : pool.Invariant capacity waiting)
    {entry : Nat × PlayoutPacket} (known : entry ∈ waiting) :
    pool.packet entry.1 = .ok (some entry.2) := by
  have holds := invariant.contents entry known
  have within := invariant.inside (invariant.lt_of_waiting known) holds.fits
  have read := holds.payload
  rw [slice] at read
  rw [PlayoutPacketPool.packet, holds.slot]
  simp only [PlayoutPacket.slot, not_true_eq_false, if_false]
  rw [range, dif_pos ⟨Nat.le_add_right _ _, within⟩]
  simp only [ok_bind, Nat.add_sub_cancel_left, read]
  rfl

/-- Exactly the slots in use are occupied. -/
theorem occupied_iff (invariant : pool.Invariant capacity waiting)
    {index : Nat} {slot : PlayoutPacketSlot} (found : pool.slots[index]? = some slot) :
    slot.occupied = true ↔ index ∈ waiting.map Prod.fst := by
  constructor
  · intro occupied
    have bound : index < capacity + 1 := by
      rw [← invariant.slots]
      exact (List.getElem?_eq_some_iff.mp found).1
    have known : index ∈ pool.free ++ waiting.map Prod.fst :=
      invariant.partition.mem_iff.mpr (List.mem_range.mpr bound)
    rcases List.mem_append.mp known with free | used
    · rw [invariant.vacant index free slot found] at occupied
      cases occupied
    · exact used
  · intro used
    obtain ⟨entry, known, rfl⟩ := List.mem_map.mp used
    rw [(invariant.contents entry known).slot] at found
    cases found
    rfl

end Invariant

/-- A new pool has all of its slots free. -/
theorem invariant_new
    {grants : Nat → Bool} {maximum : Nat}
    (created : new grants capacity maximum = .ok pool) :
    pool.Invariant capacity [] := by
  rw [new] at created
  have valid := returned_of_refusal created
  have representable := returned_of_refusal valid
  have small := returned_of_refusal representable
  have granted := returned_of_refusal small
  cases granted
  exact {
    slots := List.length_replicate
    payloads := List.length_replicate
    partition := by simp
    vacant := by
      intro index free slot found
      rw [List.getElem?_replicate] at found
      split_ifs at found
      cases found
      rfl
    contents := by simp }

/-- Writing one slot leaves the packets of the others alone. -/
theorem Holds.write {index other : Nat} {packet : PlayoutPacket}
    (holds : pool.Holds other packet) (different : index ≠ other) {written : RtpPacket}
    (fits : written.payload.length ≤ pool.maximumPayloadBytes)
    (inside : pool.payloadStart index + written.payload.length ≤ pool.payloads.length) :
    (pool.write index written).Holds other packet where
  fits := holds.fits
  slot := by
    show (pool.slots.set index _)[other]? = _
    rw [List.getElem?_set_ne different]
    exact holds.slot
  payload := by
    show slice (splice pool.payloads (pool.payloadStart index) written.payload)
      (pool.payloadStart other) packet.payload.length = _
    rcases Nat.lt_or_gt_of_ne different with before | behind
    · rw [slice_splice_after inside (payloadStart_add_le before fits)]
      exact holds.payload
    · rw [slice_splice_before inside (payloadStart_add_le behind holds.fits)]
      exact holds.payload

theorem holds_write_self {index : Nat} {written : RtpPacket}
    (known : index < pool.slots.length) (fits : written.payload.length ≤ pool.maximumPayloadBytes)
    (inside : pool.payloadStart index + written.payload.length ≤ pool.payloads.length) :
    (pool.write index written).Holds index (.ofPacket written) where
  fits := fits
  slot := List.getElem?_set_self known
  payload := slice_splice_self inside

/-- A small packet takes a free slot while one is left. -/
theorem Invariant.store {waiting : List (Nat × PlayoutPacket)}
    (invariant : pool.Invariant capacity waiting)
    (room : waiting.length ≤ capacity) {packet : RtpPacket}
    (fits : packet.payload.length ≤ pool.maximumPayloadBytes) :
    ∃ index, (pool.store packet).2 = .ok index ∧
      (pool.store packet).1.maximumPayloadBytes = pool.maximumPayloadBytes ∧
      (pool.store packet).1.Invariant capacity (waiting ++ [(index, .ofPacket packet)]) := by
  have count : pool.free.length + waiting.length = capacity + 1 := by
    simpa using invariant.partition.length_eq
  cases free : pool.free with
  | nil =>
    rw [free] at count
    simp only [List.length_nil] at count
    omega
  | cons index rest =>
    have listed : index ∈ pool.free := free ▸ List.mem_cons_self
    have bound := invariant.lt_of_mem (List.mem_append_left _ listed)
    have bound' : index < pool.slots.length := invariant.slots ▸ bound
    have inside := invariant.inside bound fits
    have found := List.getElem?_eq_getElem bound'
    have vacant := invariant.vacant index listed _ found
    have distinct := invariant.nodup
    rw [free] at distinct
    have stored : pool.store packet =
        (({ pool with free := rest }).write index packet, .ok index) := by
      simp only [PlayoutPacketPool.store]
      rw [if_neg (by omega), free]
      simp only [found, vacant, Bool.false_eq_true, if_false]
      rw [if_neg (by omega)]
    refine ⟨index, by rw [stored], by rw [stored]; rfl, ?_⟩
    rw [stored]
    exact {
      slots := by
        show (pool.slots.set index _).length = _
        rw [List.length_set, invariant.slots]
      payloads := by
        show (splice pool.payloads (pool.payloadStart index) packet.payload).length = _
        rw [length_splice inside, invariant.payloads]
        rfl
      partition := by
        have known := invariant.partition
        rw [free] at known
        refine List.Perm.trans ?_ known
        simp only [List.map_append, List.map_cons, List.map_nil, List.cons_append]
        rw [← List.append_assoc]
        exact List.perm_append_singleton index _
      vacant := by
        intro other otherFree slot otherFound
        have different : index ≠ other := by
          rintro rfl
          exact (List.nodup_cons.mp distinct).1 (List.mem_append_left _ otherFree)
        have before : (pool.slots.set index _)[other]? = some slot := otherFound
        rw [List.getElem?_set_ne different] at before
        exact invariant.vacant other (free ▸ List.mem_cons_of_mem _ otherFree) slot before
      contents := by
        intro entry known
        rcases List.mem_append.mp known with earlier | new
        · have different : index ≠ entry.1 := by
            intro same
            apply (List.nodup_cons.mp distinct).1
            rw [same]
            exact List.mem_append_right _ (List.mem_map_of_mem earlier)
          have kept := invariant.contents entry earlier
          have holds : ({ pool with free := rest }).Holds entry.1 entry.2 :=
            ⟨kept.fits, kept.slot, kept.payload⟩
          exact holds.write different fits inside
        · cases List.mem_singleton.mp new
          exact holds_write_self bound' fits inside }

/-- A packet that does not fit takes no slot. -/
theorem store_of_large {packet : RtpPacket}
    (large : pool.maximumPayloadBytes < packet.payload.length) :
    pool.store packet = (pool, .error (.refused
      (.payloadTooLarge packet.payload.length pool.maximumPayloadBytes))) := by
  rw [store, if_pos large]

/-- A slot in use that is given back is free again. -/
theorem Invariant.release {index : Nat} {packet : PlayoutPacket}
    (first : List (Nat × PlayoutPacket)) {rest : List (Nat × PlayoutPacket)}
    (invariant : pool.Invariant capacity (first ++ (index, packet) :: rest)) :
    (pool.release index).Invariant capacity (first ++ rest) := by
  have holds := invariant.contents (index, packet) (by simp)
  have released : pool.release index =
      { pool with
        slots := pool.slots.set index { packet.slot with payloadLength := 0, occupied := false }
        free := index :: pool.free } := by
    rw [PlayoutPacketPool.release, holds.slot]
    rfl
  have moved : (index :: pool.free ++ (first ++ rest).map Prod.fst).Perm
      (pool.free ++ (first ++ (index, packet) :: rest).map Prod.fst) := by
    simp only [List.map_append, List.map_cons, ← List.append_assoc]
    exact List.perm_middle.symm
  have distinct : (index :: (pool.free ++ (first ++ rest).map Prod.fst)).Nodup :=
    moved.nodup_iff.mpr invariant.nodup
  have fresh := (List.nodup_cons.mp distinct).1
  rw [released]
  exact {
    slots := by
      show (pool.slots.set index _).length = _
      rw [List.length_set, invariant.slots]
    payloads := invariant.payloads
    partition := moved.trans invariant.partition
    vacant := by
      intro other otherFree slot found
      have known : (pool.slots.set index _)[other]? = some slot := found
      by_cases same : index = other
      · subst same
        rw [List.getElem?_set_self (List.getElem?_eq_some_iff.mp holds.slot).1] at known
        cases known
        rfl
      · rw [List.getElem?_set_ne same] at known
        have earlier : other ∈ pool.free := by
          rcases List.mem_cons.mp otherFree with rfl | earlier
          · exact absurd rfl same
          · exact earlier
        exact invariant.vacant other earlier slot known
    contents := by
      intro entry known
      have different : index ≠ entry.1 := by
        intro same
        apply fresh
        rw [same]
        exact List.mem_append_right _ (List.mem_map_of_mem known)
      have listed : entry ∈ first ++ (index, packet) :: rest := by
        rcases List.mem_append.mp known with before | behind
        · exact List.mem_append_left _ before
        · exact List.mem_append_right _ (List.mem_cons_of_mem _ behind)
      have kept := invariant.contents entry listed
      exact {
        fits := kept.fits
        slot := by
          show (pool.slots.set index _)[entry.1]? = _
          rw [List.getElem?_set_ne different]
          exact kept.slot
        payload := kept.payload } }

/-- All slots in use can be given back. -/
theorem Invariant.releaseAll {waiting : List (Nat × PlayoutPacket)}
    (invariant : pool.Invariant capacity waiting) :
    ((waiting.map Prod.fst).foldl PlayoutPacketPool.release pool).Invariant capacity [] := by
  induction waiting generalizing pool with
  | nil => exact invariant
  | cons entry waiting ih =>
    have released : (pool.release entry.1).Invariant capacity waiting :=
      Invariant.release [] invariant
    exact ih released

end PlayoutPacketPool

namespace RtpSession

/-- What a session keeps from its creation on. -/
structure Settings where
  capacity : Nat
  receiveConfig : RtpReceiveConfig

/-- The waiting slots and packets of a session. -/
structure Integrity (session : RtpSession) (settings : Settings)
    (waiting : List (Nat × PlayoutPacket)) : Prop where
  capacity : session.ingress.capacity = settings.capacity
  receiveConfig : session.receiveConfig = settings.receiveConfig
  pool : session.packetPool.Invariant session.ingress.capacity waiting
  items : session.ingress.items = waiting.map Prod.fst
  room : waiting.length ≤ session.ingress.capacity
  policy : session.ingress.policy = .dropNewest
  receive : session.receive.config.payloadType = session.receiveConfig.payloadType
  source : ∀ entry ∈ waiting, session.source.active = some entry.2.ssrc
  payloadType : ∀ entry ∈ waiting, entry.2.payloadType = session.receiveConfig.payloadType

/-- The packets that wait in a session, the next one first. -/
def Represents (session : RtpSession) (settings : Settings)
    (packets : List PlayoutPacket) : Prop :=
  ∃ waiting, waiting.map Prod.snd = packets ∧ session.Integrity settings waiting

variable {settings : Settings}

/-- What decides about the waiting packets is the same. -/
structure Framed (before after : RtpSession) : Prop where
  pool : after.packetPool = before.packetPool
  ingress : after.ingress = before.ingress
  receiveConfig : after.receiveConfig = before.receiveConfig
  active : after.source.active = before.source.active
  config : after.receive.config = before.receive.config

theorem framed_refl (session : RtpSession) : Framed session session := ⟨rfl, rfl, rfl, rfl, rfl⟩

theorem Framed.trans {first second third : RtpSession}
    (before : Framed first second) (after : Framed second third) :
    Framed first third where
  pool := after.pool.trans before.pool
  ingress := after.ingress.trans before.ingress
  receiveConfig := after.receiveConfig.trans before.receiveConfig
  active := after.active.trans before.active
  config := after.config.trans before.config

theorem Integrity.framed
    {before after : RtpSession} {waiting : List (Nat × PlayoutPacket)}
    (integrity : before.Integrity settings waiting) (framed : Framed before after) :
    after.Integrity settings waiting where
  capacity := by
    rw [framed.ingress]
    exact integrity.capacity
  receiveConfig := by
    rw [framed.receiveConfig]
    exact integrity.receiveConfig
  pool := by
    rw [framed.pool, framed.ingress]
    exact integrity.pool
  items := by
    rw [framed.ingress]
    exact integrity.items
  room := by
    rw [framed.ingress]
    exact integrity.room
  policy := by
    rw [framed.ingress]
    exact integrity.policy
  receive := by
    rw [framed.config, framed.receiveConfig]
    exact integrity.receive
  source := by
    rw [framed.active]
    exact integrity.source
  payloadType := by
    rw [framed.receiveConfig]
    exact integrity.payloadType

theorem Represents.framed
    {before after : RtpSession} {packets : List PlayoutPacket}
    (represents : before.Represents settings packets) (framed : Framed before after) :
    after.Represents settings packets := by
  obtain ⟨waiting, rfl, integrity⟩ := represents
  exact ⟨waiting, rfl, integrity.framed framed⟩

/-- The error is neither a fault nor an exhausted pool. -/
def SoundError (error : Fault RtpSessionError) : Prop :=
  error ≠ .outOfBounds ∧ error ≠ .refused .packetPoolExhausted

/-- The computation leaves the waiting packets alone and fails soundly. -/
structure Quiet (run : Operation α) : Prop where
  framed : ∀ session, Framed session (run session).1
  sound : RaisesOnly SoundError run

theorem quiet_modify {change : RtpSession → RtpSession}
    (framed : ∀ session, Framed session (change session)) :
    Quiet (.modify change) :=
  ⟨framed, raisesOnly_modify change⟩

theorem quiet_read (view : RtpSession → α) : Quiet (.read view) :=
  ⟨framed_refl, raisesOnly_read view⟩

theorem quiet_pure (value : α) : Quiet (pure value) := ⟨framed_refl, raisesOnly_pure value⟩

theorem quiet_lift
    {convert : ε → RtpSessionError} (named : ∀ error, convert error ≠ .packetPoolExhausted)
    (outcome : Except ε α) :
    Quiet (lift convert outcome) where
  framed := framed_refl
  sound := by
    intro session error raised
    cases outcome with
    | ok value => cases raised
    | error cause =>
      cases raised
      exact ⟨by simp, by simpa using named cause⟩

/-- A safe parser fails soundly. -/
theorem quiet_ofExcept_map
    {outcome : Except (Fault ε) α} {returns : α → Prop}
    (safe : Safe returns outcome) {convert : ε → RtpSessionError}
    (named : ∀ error, convert error ≠ .packetPoolExhausted) :
    Quiet (.ofExcept (outcome.mapError (Fault.map convert))) where
  framed := framed_refl
  sound := by
    intro session error raised
    cases outcome with
    | ok value => cases raised
    | error fault =>
      cases fault with
      | outOfBounds => exact absurd rfl safe
      | refused cause =>
        cases raised
        exact ⟨by simp [Fault.map], by simpa [Fault.map] using named cause⟩

theorem Quiet.bind
    {first : Operation α} {second : α → Operation β} (before : Quiet first)
    (after : ∀ value, Quiet (second value)) :
    Quiet (first >>= second) where
  framed := by
    intro session
    have start := before.framed session
    rcases returned : first session with ⟨next, error | value⟩
    · rw [bind_of_error returned]
      rwa [returned] at start
    · rw [Effect.bind_of_ok returned]
      rw [returned] at start
      exact start.trans ((after value).framed next)
  sound := before.sound.bind fun value => (after value).sound

/-- A computation on the receive state that keeps its parameters. -/
theorem quiet_onReceive
    {inner : Effect RtpReceiveState RtpStateError α}
    (kept : ∀ receive, (inner receive).1.config = receive.config) :
    Quiet (onReceive inner) where
  framed := by
    intro session
    exact ⟨rfl, rfl, rfl, rfl, kept session.receive⟩
  sound := by
    refine raisesOnly_mapError ?_ _
    intro error
    exact ⟨by simp, by simp⟩

theorem quiet_observeLoss (sequence : UInt16) : Quiet (observeLoss sequence) :=
  quiet_modify fun _ => ⟨rfl, rfl, rfl, rfl, rfl⟩

theorem quiet_observeEndpoint (component : Component) (networkSource : SocketAddress) :
    Quiet (observeEndpoint component networkSource) := by
  refine (quiet_read id).bind fun session => ?_
  refine (quiet_lift (by simp) _).bind fun observed => ?_
  refine (quiet_modify ?_).bind fun _ => quiet_pure _
  intro session
  exact ⟨rfl, rfl, rfl, rfl, rfl⟩

theorem quiet_noteReceive
    (note : MediaLiveness → Duration → Except MediaLivenessError MediaLiveness)
    (arrival : Duration) :
    Quiet (noteReceive note arrival) := by
  refine (quiet_read id).bind fun session => ?_
  refine (quiet_lift (by simp) _).bind fun liveness => ?_
  exact quiet_modify fun _ => ⟨rfl, rfl, rfl, rfl, rfl⟩

end RtpSession

namespace RtpReceiveState

@[simp] theorem countAdmitted_config (state : RtpReceiveState) (packet : RtpPacket) :
    (state.countAdmitted packet).config = state.config := rfl

@[simp] theorem observeAuxiliary_config (state : RtpReceiveState) (packet : RtpPacket) :
    (state.observeAuxiliary packet).1.config = state.config := by
  rw [observeAuxiliary]
  split_ifs
  · rfl
  · dsimp only
    split_ifs <;> rfl

@[simp] theorem observeAdmitted_config (state : RtpReceiveState) (packet : RtpPacket)
    (arrivalTimestamp : UInt32) (disposition : SequenceDisposition) :
    (state.observeAdmitted packet arrivalTimestamp disposition).1.config = state.config := by
  simp only [observeAdmitted, countAdmitted_config]
  split_ifs <;> rfl

@[simp] theorem observe_config (state : RtpReceiveState) (packet : RtpPacket)
    (arrival : Duration) :
    (state.observe packet arrival).1.config = state.config := by
  rw [observe]
  split_ifs
  · rfl
  · rfl
  · cases state.config.clockRate.ticksForDuration arrival with
    | error error => rfl
    | ok ticks =>
      dsimp only
      split_ifs
      · exact observeAdmitted_config _ _ _ _
      · rfl

end RtpReceiveState

namespace RtpSession

variable {session : RtpSession} {packets : List PlayoutPacket} {packet : RtpPacket}

/-- The waiting packets after a datagram of the RTP socket had an outcome. -/
def recordIngress (packet : Option PlayoutPacket) (packets : List PlayoutPacket) :
    Except (Fault RtpSessionError) RtpIngressOutcome → List PlayoutPacket
  | .ok (.queued _) => packets ++ packet.toList
  | .ok .sourceSwitched => []
  | _ => packets

/-- A result of handling a packet: the session has the waiting packets that the
outcome tells, and failed soundly if it failed. -/
structure Follows (settings : Settings) (packet : Option PlayoutPacket)
    (packets : List PlayoutPacket)
    (result : RtpSession × Except (Fault RtpSessionError) RtpIngressOutcome) :
    Prop where
  represents : result.1.Represents settings (recordIngress packet packets result.2)
  sound : ∀ error, result.2 = .error error → SoundError error

section Follows

variable {packet : Option PlayoutPacket}

theorem follows_pure
    (represents : session.Represents settings packets) {outcome : RtpIngressOutcome}
    (same : recordIngress packet packets (.ok outcome) = packets) :
    Follows settings packet packets ((pure outcome : Operation _) session) where
  represents := by
    rw [pure_apply, same]
    exact represents
  sound := by
    intro error raised
    cases raised

/-- What follows a quiet part decides. -/
theorem follows_bind
    {first : Operation α} (quiet : Quiet first) (represents : session.Represents settings packets)
    {second : α → Operation RtpIngressOutcome}
    (rest : ∀ value next, first session = (next, .ok value) →
      Framed session next → Follows settings packet packets (second value next)) :
    Follows settings packet packets ((first >>= second) session) := by
  have framed := quiet.framed session
  rcases returned : first session with ⟨next, error | value⟩
  · rw [bind_of_error returned]
    rw [returned] at framed
    refine ⟨represents.framed framed, ?_⟩
    intro other raised
    cases raised
    exact quiet.sound session error (by rw [returned])
  · rw [Effect.bind_of_ok returned]
    rw [returned] at framed
    exact rest value next returned framed

end Follows

/-- Telephone events do not wait. -/
theorem follows_ingestTelephoneEvent
    (represents : session.Represents settings packets)
    (config : TelephoneEventConfig) (packet : RtpPacket)
    (networkSource : SocketAddress) (arrival : Duration) (waiting : Option PlayoutPacket) :
    Follows settings waiting packets
      (ingestTelephoneEvent config packet networkSource arrival session) := by
  have quietReceive : Quiet (onReceive fun receive =>
      ((receive.observeAuxiliary packet).1, .ok (receive.observeAuxiliary packet).2)) :=
    quiet_onReceive fun receive => receive.observeAuxiliary_config packet
  refine follows_bind quietReceive represents fun auxiliary next _ framed => ?_
  have represents := represents.framed framed
  cases auxiliary with
  | sourceRejected => exact follows_pure represents rfl
  | sequenceRejected disposition => exact follows_pure represents rfl
  | admitted disposition =>
    refine follows_bind (quiet_lift (by simp) _) represents fun event next _ framed => ?_
    have represents := represents.framed framed
    by_cases allowed : config.allows event.code.asRaw = true
    · rw [if_neg (not_not.mpr allowed)]
      refine follows_bind (quiet_observeLoss _) represents fun _ next _ framed => ?_
      have represents := represents.framed framed
      refine follows_bind (quiet_observeEndpoint _ _) represents fun endpoint next _ framed => ?_
      have represents := represents.framed framed
      refine follows_bind (quiet_noteReceive _ _) represents fun _ next _ framed => ?_
      exact follows_pure (represents.framed framed) rfl
    · rw [if_pos allowed]
      refine ⟨represents, ?_⟩
      intro error raised
      cases raised
      exact ⟨by simp, by simp⟩

/-- A stored packet waits at the end of a queue with room, and is given up by a
full one. -/
theorem follows_enqueue {waiting : List (Nat × PlayoutPacket)}
    (integrity : session.Integrity settings waiting)
    (source : session.source.active = some packet.header.ssrc)
    (payloadType : packet.header.payloadType = session.receiveConfig.payloadType)
    {index : Nat} {pool : PlayoutPacketPool}
    (stored : pool.Invariant session.ingress.capacity (waiting ++ [(index, .ofPacket packet)]))
    (endpoint : SymmetricObservation) :
    Follows settings (some (.ofPacket packet)) (waiting.map Prod.snd)
      (enqueue index endpoint { session with packetPool := pool }) := by
  have size : session.ingress.items.length = waiting.length := by
    rw [integrity.items, List.length_map]
  by_cases full : session.ingress.items.length = session.ingress.capacity
  · have pushed : session.ingress.push index =
        ({ session.ingress with
            overflows := saturatingAdd session.ingress.overflows 1
            drops := saturatingAdd session.ingress.drops 1 }, .droppedNewest index) :=
      push_of_full full integrity.policy index
    have released : (pool.release index).Invariant session.ingress.capacity
        (waiting ++ []) := stored.release waiting
    rw [List.append_nil] at released
    constructor
    · rw [enqueue, pushed]
      refine ⟨waiting, rfl, ?_⟩
      exact {
        capacity := integrity.capacity
        receiveConfig := integrity.receiveConfig
        pool := released
        items := integrity.items
        room := integrity.room
        policy := integrity.policy
        receive := integrity.receive
        source := integrity.source
        payloadType := integrity.payloadType }
    · intro error raised
      rw [enqueue, pushed] at raised
      cases raised
  · have pushed : session.ingress.push index =
        ({ session.ingress with
            items := session.ingress.items ++ [index]
            accepted := saturatingAdd session.ingress.accepted 1
            highWaterMark := max session.ingress.highWaterMark
              (session.ingress.items.length + 1) }, .accepted) :=
      push_of_room full index
    have room := integrity.room
    constructor
    · rw [enqueue, pushed]
      refine ⟨waiting ++ [(index, .ofPacket packet)], by simp [recordIngress], ?_⟩
      exact {
        capacity := integrity.capacity
        receiveConfig := integrity.receiveConfig
        pool := stored
        items := by simp [integrity.items]
        room := by
          rw [List.length_append, List.length_singleton]
          show waiting.length + 1 ≤ session.ingress.capacity
          omega
        policy := integrity.policy
        receive := integrity.receive
        source := by
          intro entry known
          rcases List.mem_append.mp known with earlier | new
          · exact integrity.source entry earlier
          · cases List.mem_singleton.mp new
            exact source
        payloadType := by
          intro entry known
          rcases List.mem_append.mp known with earlier | new
          · exact integrity.payloadType entry earlier
          · cases List.mem_singleton.mp new
            exact payloadType }
    · intro error raised
      rw [enqueue, pushed] at raised
      cases raised

/-- Storing and queueing an admitted packet. -/
theorem follows_store
    (represents : session.Represents settings packets)
    (source : session.source.active = some packet.header.ssrc)
    (payloadType : packet.header.payloadType = session.receiveConfig.payloadType)
    (endpoint : SymmetricObservation) :
    Follows settings (some (.ofPacket packet)) packets
      ((do
        let slot ← onPool (PlayoutPacketPool.store packet)
        enqueue slot endpoint : Operation RtpIngressOutcome) session) := by
  obtain ⟨waiting, rfl, integrity⟩ := represents
  by_cases fits : packet.payload.length ≤ session.packetPool.maximumPayloadBytes
  · obtain ⟨index, returned, -, stored⟩ := integrity.pool.store integrity.room fits
    have taken : onPool (PlayoutPacketPool.store packet) session =
        ({ session with packetPool := (session.packetPool.store packet).1 }, .ok index) := by
      rw [onPool, zoom_apply, returned]
    rw [Effect.bind_of_ok taken]
    exact follows_enqueue integrity source payloadType stored endpoint
  · have refused := PlayoutPacketPool.store_of_large (Nat.lt_of_not_le fits)
    have failed : onPool (PlayoutPacketPool.store packet) session =
        (session, .error (.refused (.payloadTooLarge packet.payload.length
          session.packetPool.maximumPayloadBytes))) := by
      rw [onPool, zoom_apply, refused]
    rw [bind_of_error failed]
    refine ⟨⟨waiting, rfl, integrity⟩, ?_⟩
    intro error raised
    cases raised
    exact ⟨by simp, by simp⟩

/-- Admitted audio of the active source waits. -/
theorem follows_ingestAudio
    (represents : session.Represents settings packets)
    (source : session.source.active = some packet.header.ssrc)
    (networkSource : SocketAddress) (arrival : Duration) :
    Follows settings (some (.ofPacket packet)) packets
      (ingestAudio packet networkSource arrival session) := by
  have quietReceive : Quiet (onReceive (RtpReceiveState.observe packet arrival)) :=
    quiet_onReceive fun receive => receive.observe_config packet arrival
  have negotiated : session.receive.config.payloadType = session.receiveConfig.payloadType := by
    obtain ⟨waiting, _, integrity⟩ := represents
    exact integrity.receive
  refine follows_bind quietReceive represents fun stream next returned framed => ?_
  have representsNext := represents.framed framed
  cases stream with
  | payloadTypeRejected actual expected => exact follows_pure representsNext rfl
  | sourceRejected => exact follows_pure representsNext rfl
  | sequenceRejected disposition => exact follows_pure representsNext rfl
  | admitted disposition jitter =>
    have payloadType : packet.header.payloadType = session.receiveConfig.payloadType := by
      rw [← negotiated]
      have inner : (session.receive.observe packet arrival).2 =
          .ok (.admitted disposition jitter) := by
        exact mapError_eq_ok.mp (congrArg Prod.snd returned)
      exact RtpReceiveState.payloadType_of_admitted (Prod.ext rfl inner)
    refine follows_bind (quiet_observeLoss _) representsNext fun _ second _ framedSecond => ?_
    have framed := framed.trans framedSecond
    refine follows_bind (quiet_observeEndpoint _ _) (represents.framed framed)
      fun endpoint third _ framedThird => ?_
    have framed := framed.trans framedThird
    refine follows_bind (quiet_noteReceive _ _) (represents.framed framed)
      fun _ fourth _ framedFourth => ?_
    have framed := framed.trans framedFourth
    apply follows_store (represents.framed framed)
    · rw [framed.active, source]
    · rw [framed.receiveConfig, payloadType]

theorem follows_ingestPacket
    (represents : session.Represents settings packets)
    (source : session.source.active = some packet.header.ssrc)
    (networkSource : SocketAddress) (arrival : Duration) :
    Follows settings (some (.ofPacket packet)) packets
      (ingestPacket packet networkSource arrival session) := by
  rw [ingestPacket, Effect.bind_of_ok (read_apply id session)]
  cases configured : session.telephoneEvent with
  | none =>
    simp only [id_eq, configured]
    exact follows_ingestAudio represents source networkSource arrival
  | some config =>
    simp only [id_eq, configured]
    by_cases routed : packet.header.payloadType = config.payloadType
    · rw [if_pos routed]
      exact follows_ingestTelephoneEvent represents config packet networkSource arrival _
    · rw [if_neg routed]
      exact follows_ingestAudio represents source networkSource arrival

/-- Giving up all waiting packets frees all slots. -/
theorem Integrity.rebound {waiting : List (Nat × PlayoutPacket)}
    (integrity : session.Integrity settings waiting) (config : RtpReceiveConfig)
    (payloadType : config.payloadType = session.receiveConfig.payloadType) :
    (session.rebound config).Integrity settings [] where
  capacity := integrity.capacity
  receiveConfig := integrity.receiveConfig
  pool := by
    show ((session.ingress.items).foldl PlayoutPacketPool.release
      session.packetPool).Invariant session.ingress.capacity []
    rw [integrity.items]
    exact integrity.pool.releaseAll
  items := rfl
  room := Nat.zero_le _
  policy := integrity.policy
  receive := payloadType
  source := by simp
  payloadType := by simp

/-- The receive state can always begin anew, whatever the source is. -/
theorem rebindReceiveState_eq (session : RtpSession) (ssrc : UInt32) :
    rebindReceiveState ssrc session =
      (session.rebound { session.receiveConfig with expectedSsrc := some ssrc }, .ok ()) := by
  have small := session.receiveConfig.payloadType_le
  have created : RtpReceiveConfig.new session.receiveConfig.payloadType
      session.receiveConfig.clockRate (some ssrc) =
        .ok { session.receiveConfig with expectedSsrc := some ssrc } := by
    rw [RtpReceiveConfig.new, dif_pos small]
  rw [rebindReceiveState, Effect.bind_of_ok (read_apply id session)]
  have lifted : lift RtpSessionError.receiveState
      (RtpReceiveConfig.new (id session).receiveConfig.payloadType
        (id session).receiveConfig.clockRate (some ssrc)) session =
        (session, .ok { session.receiveConfig with expectedSsrc := some ssrc }) := by
    rw [lift, id_eq, created]
    rfl
  rw [Effect.bind_of_ok lifted]
  rfl

/-- After a source was observed the waiting packets are given up, or they are
packets of the active source. -/
theorem follows_ingestParsed
    (represents : session.Represents settings packets) (packet : RtpPacket)
    (networkSource : SocketAddress) (arrival : Duration) :
    Follows settings (some (.ofPacket packet)) packets
      (ingestParsed packet networkSource arrival session) := by
  obtain ⟨waiting, rfl, integrity⟩ := represents
  have observed : observeSource packet.header.ssrc packet.header.sequenceNumber session =
      ({ session with
          source := (session.source.observe packet.header.ssrc
            packet.header.sequenceNumber).1 }, .ok (session.source.observe packet.header.ssrc
          packet.header.sequenceNumber).2) := rfl
  rw [ingestParsed, Effect.bind_of_ok observed]
  have kept : ∀ source : RemoteSourceTracker, source.active = session.source.active →
      ({ session with source := source }).Integrity settings waiting := by
    intro source same
    exact integrity.framed ⟨rfl, rfl, rfl, same, rfl⟩
  rcases session.source.observe_cases packet.header.ssrc packet.header.sequenceNumber with
    ⟨before, active, current⟩ | ⟨same, rejected | ⟨count, required, probation⟩⟩ |
      ⟨before, active, bound⟩ | ⟨active, switched⟩
  · rw [current]
    exact follows_ingestPacket ⟨waiting, rfl, kept _ (active.trans before.symm)⟩ active
      networkSource arrival
  · rw [rejected]
    exact follows_pure ⟨waiting, rfl, kept _ same⟩ rfl
  · rw [probation]
    exact follows_pure ⟨waiting, rfl, kept _ same⟩ rfl
  · rw [bound]
    -- Nothing can wait before a first source is known.
    have none : waiting = [] := by
      cases waiting with
      | nil => rfl
      | cons entry rest =>
        have := integrity.source entry List.mem_cons_self
        rw [before] at this
        cases this
    subst none
    have begun : ({ session with
        source := (session.source.observe packet.header.ssrc
          packet.header.sequenceNumber).1 }).Integrity settings [] := by
      exact { integrity with
        source := by simp }
    simp only
    rw [Effect.bind_of_ok (rebindReceiveState_eq _ _)]
    exact follows_ingestPacket
      ⟨[], rfl, begun.rebound { session.receiveConfig with
        expectedSsrc := some packet.header.ssrc } rfl⟩ active networkSource arrival
  · rw [switched]
    simp only
    rw [Effect.bind_of_ok (rebindReceiveState_eq _ _)]
    refine ⟨⟨[], rfl, ?_⟩, ?_⟩
    · have released := integrity.rebound
        { session.receiveConfig with expectedSsrc := some packet.header.ssrc } rfl
      exact {
        capacity := integrity.capacity
        receiveConfig := integrity.receiveConfig
        pool := released.pool
        items := rfl
        room := Nat.zero_le _
        policy := integrity.policy
        receive := rfl
        source := by simp
        payloadType := by simp }
    · intro error raised
      cases raised

/-- The packet of a datagram as it is played out. -/
def playoutOf (grants : Nat → Bool) (datagram : List UInt8) : Option PlayoutPacket :=
  (RtpPacket.parse grants datagram).toOption.map .ofPacket

theorem follows_ingestRtp
    (represents : session.Represents settings packets) (grants : Nat → Bool)
    (networkSource : SocketAddress) (datagram : List UInt8) (arrival : Duration)
    (protection : PacketProtection) :
    Follows settings (playoutOf grants datagram) packets
      (ingestRtp grants networkSource datagram arrival protection session) := by
  refine follows_bind (quiet_read id) represents fun _ next _ framed => ?_
  have represents := represents.framed framed
  refine follows_bind (quiet_lift (by simp) _) represents fun _ next _ framed => ?_
  have represents := represents.framed framed
  by_cases family : classify .rtp datagram = .rtp
  · rw [if_neg (not_not.mpr family)]
    refine follows_bind
      (quiet_ofExcept_map (RtpPacket.safe_parse grants datagram) (by simp)) represents
      fun packet next returned framed => ?_
    have represents := represents.framed framed
    have parsed : RtpPacket.parse grants datagram = .ok packet :=
      mapError_eq_ok.mp (congrArg Prod.snd returned)
    rw [playoutOf, parsed]
    exact follows_ingestParsed represents packet networkSource arrival
  · rw [if_pos family]
    exact follows_pure represents rfl

theorem quiet_noteSenderReports (arrival : Duration) (packets : List RtcpPacket) :
    Quiet (noteSenderReports arrival packets) := by
  induction packets with
  | nil => exact quiet_pure ()
  | cons packet packets ih =>
    refine Quiet.bind ?_ fun _ => ih
    cases packet with
    | senderReport report => exact quiet_modify fun _ => ⟨rfl, rfl, rfl, rfl, rfl⟩
    | receiverReport | sourceDescription | goodbye | opaquePacket =>
      exact quiet_pure ()

theorem quiet_ingestRtcp
    (grants : Nat → Bool) (networkSource : SocketAddress)
    (datagram : List UInt8) (arrival : Duration) (protection : PacketProtection) :
    Quiet (ingestRtcp grants networkSource datagram arrival protection) := by
  refine (quiet_read id).bind fun session => ?_
  refine (quiet_lift (by simp) _).bind fun _ => ?_
  by_cases family : classify .rtcp datagram = .rtcp
  · rw [if_neg (not_not.mpr family)]
    refine (quiet_ofExcept_map
      (CompoundRtcp.safe_parse grants datagram session.rtcpPolicy) (by simp)).bind
      fun compound => ?_
    dsimp only
    split_ifs
    · exact quiet_pure _
    · refine (quiet_noteSenderReports _ _).bind fun _ => ?_
      refine (quiet_observeEndpoint _ _).bind fun endpoint => ?_
      exact (quiet_noteReceive _ _).bind fun _ => quiet_pure _
  · rw [if_pos family]
    exact quiet_pure _

theorem quiet_configureTelephoneEvent (config : TelephoneEventConfig) :
    Quiet (configureTelephoneEvent config) where
  framed := by
    intro session
    rw [configureTelephoneEvent]
    split_ifs
    · exact framed_refl session
    · exact ⟨rfl, rfl, rfl, rfl, rfl⟩
  sound := by
    intro session error raised
    rw [configureTelephoneEvent] at raised
    split_ifs at raised
    cases raised
    exact ⟨by simp, by simp⟩

theorem quiet_configureRtcp
    (grants : Nat → Bool) (interval : Duration) (localSsrc : UInt32)
    (cname : List UInt8) (policy : CompoundPolicy) (now : Duration) :
    Quiet (configureRtcp grants interval localSsrc cname policy now) := by
  refine (quiet_lift (by simp) _).bind fun scheduler => ?_
  exact quiet_modify fun _ => ⟨rfl, rfl, rfl, rfl, rfl⟩

/-- The next packet is the first of those waiting, and the others wait on. -/
theorem popPlayoutPacket_eq
    (represents : session.Represents settings packets) :
    (popPlayoutPacket session).2 = .ok packets.head? ∧
      (popPlayoutPacket session).1.Represents settings packets.tail := by
  obtain ⟨waiting, rfl, integrity⟩ := represents
  cases waiting with
  | nil =>
    have empty := pop_of_nil integrity.items
    have popped : popPlayoutPacket session =
        ({ session with ingress := session.ingress.pop.1 }, .ok none) := by
      have taken : popIngress session =
          ({ session with ingress := session.ingress.pop.1 }, .ok none) := by
        rw [popIngress, empty]
      rw [popPlayoutPacket, Effect.bind_of_ok taken]
      rfl
    rw [popped, empty]
    exact ⟨rfl, [], rfl, { integrity with }⟩
  | cons entry rest =>
    have found := pop_of_cons integrity.items
    have read : session.packetPool.packet entry.1 = .ok (some entry.2) :=
      integrity.pool.packet_eq List.mem_cons_self
    have popped : popPlayoutPacket session =
        ({ session with
            ingress := session.ingress.pop.1
            packetPool := session.packetPool.release entry.1 },
          .ok (some entry.2)) := by
      have taken : popIngress session =
          ({ session with ingress := session.ingress.pop.1 }, .ok (some entry.1)) := by
        rw [popIngress, found]
      rw [popPlayoutPacket, Effect.bind_of_ok taken]
      simp only [checkout, read]
    rw [popped, found]
    refine ⟨rfl, rest, rfl, ?_⟩
    have room := integrity.room
    exact {
      capacity := integrity.capacity
      receiveConfig := integrity.receiveConfig
      pool := integrity.pool.release []
      items := rfl
      room := by
        rw [List.length_cons] at room
        exact Nat.le_of_succ_le room
      policy := integrity.policy
      receive := integrity.receive
      source := fun other known =>
        integrity.source other (List.mem_cons_of_mem _ known)
      payloadType := fun other known =>
        integrity.payloadType other (List.mem_cons_of_mem _ known) }

/-- The calls on a session. -/
inductive Call
  | configureTelephoneEvent (config : TelephoneEventConfig)
  | configureRtcp (grants : Nat → Bool) (interval : Duration) (localSsrc : UInt32)
      (cname : List UInt8) (policy : CompoundPolicy) (now : Duration)
  | ingestRtp (grants : Nat → Bool) (networkSource : SocketAddress)
      (datagram : List UInt8) (arrival : Duration) (protection : PacketProtection)
  | ingestRtcp (grants : Nat → Bool) (networkSource : SocketAddress)
      (datagram : List UInt8) (arrival : Duration) (protection : PacketProtection)
  | popPlayoutPacket

/-- What a call returns. -/
inductive Reply
  | configured (outcome : Except (Fault RtpSessionError) Unit)
  | rtp (outcome : Except (Fault RtpSessionError) RtpIngressOutcome)
  | rtcp (outcome : Except (Fault RtpSessionError) RtcpIngressOutcome)
  | popped (outcome : Except (Fault RtpSessionError) (Option PlayoutPacket))
  deriving DecidableEq

/-- The error of a reply. -/
def Reply.error? : Reply → Option (Fault RtpSessionError)
  | configured (.error error) => some error
  | rtp (.error error) => some error
  | rtcp (.error error) => some error
  | popped (.error error) => some error
  | _ => none

/-- A computation with its result as a reply. -/
def reply (wrap : Except (Fault RtpSessionError) α → Reply) (run : Operation α)
    (session : RtpSession) : RtpSession × Reply :=
  ((run session).1, wrap (run session).2)

/-- One call. -/
def step (session : RtpSession) : Call → RtpSession × Reply
  | .configureTelephoneEvent config =>
    reply .configured (configureTelephoneEvent config) session
  | .configureRtcp grants interval localSsrc cname policy now =>
    reply .configured (configureRtcp grants interval localSsrc cname policy now) session
  | .ingestRtp grants networkSource datagram arrival protection =>
    reply .rtp (ingestRtp grants networkSource datagram arrival protection) session
  | .ingestRtcp grants networkSource datagram arrival protection =>
    reply .rtcp (ingestRtcp grants networkSource datagram arrival protection) session
  | .popPlayoutPacket => reply .popped popPlayoutPacket session

/-- The packets that wait after a call with its reply. -/
def record (packets : List PlayoutPacket) : Call → Reply → List PlayoutPacket
  | .ingestRtp grants _ datagram _ _, .rtp outcome =>
    recordIngress (playoutOf grants datagram) packets outcome
  | .popPlayoutPacket, .popped (.ok (some _)) => packets.tail
  | _, _ => packets

/-- The packets that wait after a run, told from its calls and replies alone. -/
def admitted (start : RtpSession) (calls : List Call) : List PlayoutPacket :=
  (calls.zip (Run.outputs step start calls)).foldl
    (fun packets event => record packets event.1 event.2) []

theorem admitted_concat (start : RtpSession) (calls : List Call) (call : Call) :
    admitted start (calls ++ [call]) =
      record (admitted start calls) call (Run.output step start calls call) := by
  rw [admitted, Run.outputs_concat, List.zip_append (by simp), List.foldl_append]
  rfl

/-- One call moves the waiting packets as its reply tells, and fails soundly. -/
theorem represents_step
    (represents : session.Represents settings packets) (call : Call) :
    (step session call).1.Represents settings (record packets call (step session call).2) ∧
      ∀ error, (step session call).2.error? = some error → SoundError error := by
  have quiet : ∀ {α : Type} {run : Operation α}, Quiet run →
      ∀ {wrap : Except (Fault RtpSessionError) α → Reply},
      (∀ value, (wrap (.ok value)).error? = none) →
      (∀ error, (wrap (.error error)).error? = some error) →
      (reply wrap run session).1.Represents settings packets ∧
        ∀ error, (reply wrap run session).2.error? = some error → SoundError error := by
    intro α run quiet wrap returned raised
    refine ⟨represents.framed (quiet.framed session), ?_⟩
    intro error known
    rw [reply] at known
    cases outcome : (run session).2 with
    | ok value =>
      rw [outcome, returned] at known
      cases known
    | error cause =>
      rw [outcome, raised] at known
      cases known
      exact quiet.sound session error outcome
  cases call with
  | configureTelephoneEvent config =>
    exact quiet (quiet_configureTelephoneEvent config) (fun _ => rfl) fun _ => rfl
  | configureRtcp grants interval localSsrc cname policy now =>
    exact quiet (quiet_configureRtcp grants interval localSsrc cname policy now)
      (fun _ => rfl) fun _ => rfl
  | ingestRtcp grants networkSource datagram arrival protection =>
    exact quiet (quiet_ingestRtcp grants networkSource datagram arrival protection)
      (fun _ => rfl) fun _ => rfl
  | ingestRtp grants networkSource datagram arrival protection =>
    have follows := follows_ingestRtp represents grants networkSource datagram arrival protection
    refine ⟨follows.represents, ?_⟩
    intro error known
    cases outcome :
        (ingestRtp grants networkSource datagram arrival protection session).2 with
    | ok value =>
      rw [step, reply, outcome] at known
      cases known
    | error cause =>
      rw [step, reply, outcome] at known
      cases known
      exact follows.sound error outcome
  | popPlayoutPacket =>
    obtain ⟨returned, next⟩ := popPlayoutPacket_eq represents
    rw [step, reply, returned]
    refine ⟨?_, ?_⟩
    · cases packets with
      | nil => exact next
      | cons packet rest => exact next
    · intro error known
      cases known

/-- A new session has no waiting packets. -/
theorem represents_new
    {grants : Nat → Bool} {receiveConfig : RtpReceiveConfig}
    {sourcePolicy : SourcePolicy} {endpoints : SymmetricEndpoints}
    {security : MediaSecurityPolicy} {liveness : MediaLiveness}
    {capacity maximum : Nat}
    (created : newWithPayloadLimit grants receiveConfig sourcePolicy endpoints security
      liveness capacity maximum = .ok session) :
    session.Represents ⟨capacity, receiveConfig⟩ [] := by
  obtain ⟨ingress, queue, created⟩ := Outcome.bind_eq_ok.mp created
  obtain ⟨pool, slots, created⟩ := Outcome.bind_eq_ok.mp created
  cases created
  have queue := mapError_eq_ok.mp queue
  rw [BoundedQueue.new] at queue
  have queue := returned_of_refusal (returned_of_refusal queue)
  cases queue
  refine ⟨[], rfl, ?_⟩
  exact {
    capacity := rfl
    receiveConfig := rfl
    pool := PlayoutPacketPool.invariant_new slots
    items := rfl
    room := Nat.zero_le _
    policy := rfl
    receive := rfl
    source := by simp
    payloadType := by simp }

/-- After every run the session holds the packets that its replies tell. -/
theorem represents_after
    {start : RtpSession} (created : start.Represents settings []) (calls : List Call) :
    (Run.after step start calls).Represents settings (admitted start calls) := by
  induction calls using List.reverseRecOn with
  | nil => exact created
  | append_singleton earlier call ih =>
    rw [Run.after_append, admitted_concat]
    exact (represents_step ih call).1

/-- The waiting packets of a session, with their slots and origins. -/
theorem Represents.slots
    (represents : session.Represents settings packets) :
    session.packetPool.slots.length = settings.capacity + 1 ∧
      (session.packetPool.free ++ session.ingress.items).Perm (List.range (settings.capacity + 1)) ∧
      (∀ index slot, session.packetPool.slots[index]? = some slot →
        (slot.occupied = true ↔ index ∈ session.ingress.items)) ∧
      ∀ index ∈ session.ingress.items, ∃ packet,
        session.packetPool.packet index = .ok (some packet) ∧
          session.source.active = some packet.ssrc ∧
          packet.payloadType = settings.receiveConfig.payloadType := by
  obtain ⟨waiting, rfl, integrity⟩ := represents
  rw [integrity.items, ← integrity.capacity, ← integrity.receiveConfig]
  refine ⟨integrity.pool.slots, integrity.pool.partition, ?_, ?_⟩
  · intro index slot found
    exact integrity.pool.occupied_iff found
  · intro index known
    obtain ⟨entry, listed, rfl⟩ := List.mem_map.mp known
    exact ⟨entry.2, integrity.pool.packet_eq listed, integrity.source entry listed,
      integrity.payloadType entry listed⟩

/-- In every run of a session the free slots and the queued ones are all slots,
exactly the queued ones are occupied, a slot is always found for an admitted packet,
what is queued comes from the active source with the negotiated payload type, and
packets are played out in the order and with the contents of their admission. -/
theorem playout_ingress_integrity
    {grants : Nat → Bool} {receiveConfig : RtpReceiveConfig}
    {sourcePolicy : SourcePolicy} {endpoints : SymmetricEndpoints}
    {security : MediaSecurityPolicy} {liveness : MediaLiveness}
    {capacity maximum : Nat} {start : RtpSession}
    (created : newWithPayloadLimit grants receiveConfig sourcePolicy endpoints security
      liveness capacity maximum = .ok start)
    (calls : List Call) :
    let session := Run.after step start calls
    session.packetPool.slots.length = capacity + 1 ∧
      (session.packetPool.free ++ session.ingress.items).Perm (List.range (capacity + 1)) ∧
      (∀ index slot, session.packetPool.slots[index]? = some slot →
        (slot.occupied = true ↔ index ∈ session.ingress.items)) ∧
      (∀ index ∈ session.ingress.items, ∃ packet,
        session.packetPool.packet index = .ok (some packet) ∧
          session.source.active = some packet.ssrc ∧
          packet.payloadType = receiveConfig.payloadType) ∧
      (∀ call error, (step session call).2.error? = some error →
        error ≠ .outOfBounds ∧ error ≠ .refused .packetPoolExhausted) ∧
      (step session .popPlayoutPacket).2 = .popped (.ok (admitted start calls).head?) := by
  intro session
  have represents := represents_after (represents_new created) calls
  obtain ⟨slots, partition, occupied, contents⟩ := represents.slots
  refine ⟨slots, partition, occupied, contents, ?_, ?_⟩
  · intro call
    exact (represents_step represents call).2
  · rw [step, reply, (popPlayoutPacket_eq represents).1]

theorem samplePayloadType_le : (0 : UInt8) ≤ 127 := by decide

/-- The parameters of a PCMU stream of a known source. -/
def sampleConfig : RtpReceiveConfig := ⟨0, .telephony8KHz, some 7, samplePayloadType_le⟩

/-- The endpoint of the remote party. -/
def sampleEndpoint : SocketAddress := ⟨.v4 0x0a000001, 4000, 0, 0⟩

/-- A session for two waiting packets of four bytes. -/
def sampleSession : Except RtpSessionError RtpSession :=
  newWithPayloadLimit (fun _ => true) sampleConfig .default
    ⟨.default, .new sampleEndpoint, .new sampleEndpoint⟩
    .plainAllowed ⟨.fromSecs 0, .fromSecs 5, .fromSecs 10, none, none, none⟩ 2 4

/-- A packet of the known source with four bytes of audio. -/
def sampleDatagram (sequence audio : UInt8) : Call := .ingestRtp (fun _ => true) sampleEndpoint
    [0x80, 0, 0, sequence, 0, 0, 0, sequence, 0, 0, 0, 7, audio, audio, audio, audio]
    (.fromSecs 1) .plain

theorem playout_ingress_integrity_sample :
    ∃ start, sampleSession = .ok start ∧ (step (Run.after step start
        [sampleDatagram 10 1, sampleDatagram 11 2, sampleDatagram 12 3,
          .popPlayoutPacket, sampleDatagram 13 4]) .popPlayoutPacket).2 =
        .popped (.ok (some ⟨12, 12, 7, 0, false, [3, 3, 3, 3]⟩)) := by
  have integrity := fun start (created : sampleSession = .ok start) calls =>
    playout_ingress_integrity created calls
  refine ⟨_, rfl, ?_⟩
  rw [(integrity _ rfl _).2.2.2.2.2]
  decide +kernel

end RtpSession
end Rtp
end LiveAISIP
