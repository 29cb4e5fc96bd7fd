import LiveAISIP.Library.Effect
import LiveAISIP.Library.Splice
import LiveAISIP.Rtp.Packet
import LiveAISIP.Rtp.Statistics

/-!
# RTP transmission

The sender of `rtp/session/send.rs`.  It writes fixed headers into storage of its
caller, byte by byte and without the packet codec; sequence number and timestamp advance
with every packet that is written.  A write outside of the storage is a fault.
-/

namespace LiveAISIP
namespace Rtp

open BigEndian Fault Outcome Splice
open List

/-- Maximum packetization interval of the sender. -/
def maxPacketizationMilliseconds : UInt32 := 200

/-- Largest payload behind a fixed header. -/
def maxSendPayloadBytes : Nat := maxRtpPacketBytes - rtpFixedHeaderBytes

/-- Failure to configure the sender or to serialize a packet. -/
inductive RtpSendError
  | invalidPayloadType (payloadType : UInt8)
  | zeroTimestampStep
  | timestampStepTooLarge (value maximum : UInt32)
  | invalidPayloadLimit (value maximum : Nat)
  | emptyPayload
  | payloadTooLarge (actual maximum : Nat)
  | outputTooSmall (required available : Nat)
  | lengthOverflow
  | counterExhausted

/-- The longest step of a clock rate. -/
def maximumTimestampStep (clockRate : RtpClockRate) : UInt32 :=
  let step := clockRate.get / (1000 / maxPacketizationMilliseconds)
  if step = 0 then 1 else step

/-- Negotiated parameters of the sender. -/
structure RtpSendConfig where
  payloadType : UInt8
  clockRate : RtpClockRate
  timestampStep : UInt32
  ssrc : UInt32
  maximumPayloadBytes : Nat
  payloadType_le : payloadType ≤ 127
  timestampStep_ne : timestampStep ≠ 0
  timestampStep_le : timestampStep ≤ maximumTimestampStep clockRate
  maximumPayloadBytes_ne : maximumPayloadBytes ≠ 0
  maximumPayloadBytes_le : maximumPayloadBytes ≤ maxSendPayloadBytes

/-- Check the parameters of a sender. -/
def RtpSendConfig.new
    (payloadType : UInt8) (clockRate : RtpClockRate) (timestampStep ssrc : UInt32)
    (maximumPayloadBytes : Nat) : Except RtpSendError RtpSendConfig :=
  if payload : payloadType ≤ 127 then
    if zero : timestampStep ≠ 0 then
      if step : timestampStep ≤ maximumTimestampStep clockRate then
        if limit : maximumPayloadBytes ≠ 0 ∧ maximumPayloadBytes ≤ maxSendPayloadBytes then
          .ok
            { payloadType := payloadType
              clockRate := clockRate
              timestampStep := timestampStep
              ssrc := ssrc
              maximumPayloadBytes := maximumPayloadBytes
              payloadType_le := payload
              timestampStep_ne := zero
              timestampStep_le := step
              maximumPayloadBytes_ne := limit.1
              maximumPayloadBytes_le := limit.2 }
        else .error (.invalidPayloadLimit maximumPayloadBytes maxSendPayloadBytes)
      else .error (.timestampStepTooLarge timestampStep (maximumTimestampStep clockRate))
    else .error .zeroTimestampStep
  else .error (.invalidPayloadType payloadType)

/-- The parameters are those that pass their checks. -/
theorem RtpSendConfig.new_self (config : RtpSendConfig) :
    new config.payloadType config.clockRate config.timestampStep config.ssrc
      config.maximumPayloadBytes = .ok config := by
  simp [new, config.payloadType_le, config.timestampStep_ne, config.timestampStep_le,
    config.maximumPayloadBytes_ne, config.maximumPayloadBytes_le]

/-- A written packet, with what sender reports need. -/
structure EncodedRtpPacket where
  bytes : List UInt8
  sequenceNumber : UInt16
  timestamp : UInt32
  marker : Bool
  payloadOctets : Nat

/-- The state of a sender. -/
structure RtpSendState where
  config : RtpSendConfig
  nextSequenceNumber : UInt16
  nextTimestamp : UInt32
  markerPending : Bool
  packetsEncoded : Nat
  payloadOctetsEncoded : Nat

namespace RtpSendState

/-- A sender at its initial wire values. -/
def new (config : RtpSendConfig) (initialSequenceNumber : UInt16) (initialTimestamp : UInt32) :
    RtpSendState where
  config := config
  nextSequenceNumber := initialSequenceNumber
  nextTimestamp := initialTimestamp
  markerPending := true
  packetsEncoded := 0
  payloadOctetsEncoded := 0

/-- A computation on a sender and the storage of its caller. -/
abbrev Sending (α : Type) := Effect (RtpSendState × List UInt8) (Fault RtpSendError) α

/-- Go on where a condition holds. -/
def check (condition : Prop) [Decidable condition] (error : RtpSendError) : Sending Unit :=
  .ofExcept (require condition error)

/-- Add to a counter of 64 bits. -/
def checkedAdd (counter amount : Nat) : Sending Nat :=
  if counter + amount < 2 ^ 64 then pure (counter + amount)
  else .fail (.refused .counterExhausted)

/-- Write bytes at a position of the storage. -/
def copyFromSlice (start : Nat) (bytes : List UInt8) : Sending Unit := fun (state, output) =>
  if start + bytes.length ≤ output.length then ((state, splice output start bytes), .ok ())
  else ((state, output), .error .outOfBounds)

/-- The state after a packet. -/
def advance (nextPackets nextOctets : Nat) (state : RtpSendState) : RtpSendState :=
  { state with
    nextSequenceNumber := state.nextSequenceNumber + 1
    nextTimestamp := state.nextTimestamp + state.config.timestampStep
    markerPending := false
    packetsEncoded := nextPackets
    payloadOctetsEncoded := nextOctets }

/-- Write the next packet into the storage. -/
def encodeNext (payload : List UInt8) : Sending EncodedRtpPacket := do
  let state ← .read Prod.fst
  let config := state.config
  check (payload ≠ []) .emptyPayload
  check (payload.length ≤ config.maximumPayloadBytes)
    (.payloadTooLarge payload.length config.maximumPayloadBytes)
  let required := rtpFixedHeaderBytes + payload.length
  let available ← .read fun storage => storage.2.length
  check (required ≤ available) (.outputTooSmall required available)
  let nextPackets ← checkedAdd state.packetsEncoded 1
  let nextOctets ← checkedAdd state.payloadOctetsEncoded payload.length
  copyFromSlice 0 [rtpVersion <<< 6]
  copyFromSlice 1 [state.markerPending.toUInt8 <<< 7 ||| config.payloadType]
  copyFromSlice 2 (halfBytes state.nextSequenceNumber)
  copyFromSlice 4 (wordBytes state.nextTimestamp)
  copyFromSlice 8 (wordBytes config.ssrc)
  copyFromSlice rtpFixedHeaderBytes payload
  .modify fun storage => (storage.1.advance nextPackets nextOctets, storage.2)
  let output ← .read Prod.snd
  return {
    bytes := output.take required
    sequenceNumber := state.nextSequenceNumber
    timestamp := state.nextTimestamp
    marker := state.markerPending
    payloadOctets := payload.length }

/-- Mark the next packet. -/
def markDiscontinuity (state : RtpSendState) : RtpSendState := { state with markerPending := true }

/-- The bytes of a packet with a fixed header. -/
def packetBytes (state : RtpSendState) (payload : List UInt8) : List UInt8 :=
  [rtpVersion <<< 6] ++ [state.markerPending.toUInt8 <<< 7 ||| state.config.payloadType] ++
    halfBytes state.nextSequenceNumber ++ wordBytes state.nextTimestamp ++
    wordBytes state.config.ssrc ++ payload

/-- What writing the next packet leaves and returns. -/
inductive Encodes (payload : List UInt8) (state : RtpSendState) (output : List UInt8) :
    (RtpSendState × List UInt8) × Except (Fault RtpSendError) EncodedRtpPacket → Prop
  | refused (error : RtpSendError) :
      Encodes payload state output ((state, output), .error (.refused error))
  | encoded
      (payload_ne : payload ≠ [])
      (payload_le : payload.length ≤ state.config.maximumPayloadBytes)
      (fits : rtpFixedHeaderBytes + payload.length ≤ output.length) :
      Encodes payload state output
        ((state.advance (state.packetsEncoded + 1)
            (state.payloadOctetsEncoded + payload.length),
          state.packetBytes payload ++ output.drop (rtpFixedHeaderBytes + payload.length)),
         .ok {
          bytes := state.packetBytes payload
          sequenceNumber := state.nextSequenceNumber
          timestamp := state.nextTimestamp
          marker := state.markerPending
          payloadOctets := payload.length })

theorem check_bind
    {condition : Prop} [Decidable condition] (error : RtpSendError)
    (second : Unit → Sending α) (storage : RtpSendState × List UInt8) :
    (check condition error >>= second) storage =
      if condition then second () storage else (storage, .error (.refused error)) := by
  split_ifs with holds
  · exact Effect.bind_of_ok (congrArg (Prod.mk storage) (require_of holds error)) second
  · exact Effect.bind_of_error (congrArg (Prod.mk storage) (if_neg holds)) second

theorem checkedAdd_bind
    (counter amount : Nat) (second : Nat → Sending α) (storage : RtpSendState × List UInt8) :
    (checkedAdd counter amount >>= second) storage =
      if counter + amount < 2 ^ 64 then second (counter + amount) storage
      else (storage, .error (.refused .counterExhausted)) := by
  rw [checkedAdd]
  split_ifs
  · rfl
  · rfl

/-- Writing behind what was written extends it. -/
theorem copyFromSlice_behind
    {state : RtpSendState} {written output bytes : List UInt8} {start : Nat}
    (behind : start = written.length) (inside : (written ++ bytes).length ≤ output.length) :
    copyFromSlice start bytes (state, written ++ output.drop written.length) =
      ((state, (written ++ bytes) ++ output.drop (written ++ bytes).length), .ok ()) := by
  rw [length_append] at inside
  have room : start + bytes.length ≤ (written ++ output.drop written.length).length := by
    rw [length_append, length_drop]
    omega
  have spliced : splice (written ++ output.drop written.length) start bytes =
      (written ++ bytes) ++ output.drop (written ++ bytes).length := by
    rw [splice, behind, take_left, drop_length_add_append, drop_drop, length_append]
  rw [copyFromSlice, if_pos room, spliced]

/-- A part of a packet is written behind the parts before it. -/
theorem copyFromSlice_bind
    {state : RtpSendState} {written output bytes : List UInt8} {start : Nat}
    (behind : start = written.length) (inside : (written ++ bytes).length ≤ output.length)
    (second : Unit → Sending α) :
    (copyFromSlice start bytes >>= second) (state, written ++ output.drop written.length) =
      second () (state, (written ++ bytes) ++ output.drop (written ++ bytes).length) :=
  Effect.bind_of_ok (copyFromSlice_behind behind inside) second

theorem length_packetBytes (state : RtpSendState) (payload : List UInt8) :
    (state.packetBytes payload).length = rtpFixedHeaderBytes + payload.length := by
  simp only [packetBytes, length_append, length_singleton, length_halfBytes,
    length_wordBytes, rtpFixedHeaderBytes]

/-- Writing a packet refuses it and changes nothing, or writes all of it. -/
theorem encodes_encodeNext (payload : List UInt8) (state : RtpSendState) (output : List UInt8) :
    Encodes payload state output (encodeNext payload (state, output)) := by
  rw [encodeNext, Effect.bind_of_ok (Effect.read_apply Prod.fst (state, output))]
  dsimp only
  rw [check_bind]
  split_ifs with payload_ne
  swap
  · exact .refused _
  rw [check_bind]
  split_ifs with payload_le
  swap
  · exact .refused _
  rw [Effect.bind_of_ok (Effect.read_apply _ (state, output)), check_bind]
  split_ifs with fits
  swap
  · exact .refused _
  rw [checkedAdd_bind]
  split_ifs with packets
  swap
  · exact .refused _
  rw [checkedAdd_bind]
  split_ifs with octets
  swap
  · exact .refused _
  have encoded := Encodes.encoded payload_ne payload_le fits
  have twelve : rtpFixedHeaderBytes = 12 := rfl
  have begins : (state, output) = (state, [] ++ output.drop ([] : List UInt8).length) := rfl
  have fits : 12 + payload.length ≤ output.length := fits
  rw [begins]
  repeat rw [copyFromSlice_bind]
  rw [Effect.modify_bind]
  have written : [] ++ [rtpVersion <<< 6] ++
      [state.markerPending.toUInt8 <<< 7 ||| state.config.payloadType] ++
      halfBytes state.nextSequenceNumber ++ wordBytes state.nextTimestamp ++
      wordBytes state.config.ssrc ++ payload = state.packetBytes payload := rfl
  rw [written, length_packetBytes, Effect.bind_of_ok (Effect.read_apply Prod.snd _),
    Effect.pure_apply]
  dsimp only
  rw [take_left' (length_packetBytes state payload)]
  · exact encoded
  all_goals
    simp only [length_append, length_nil, length_singleton, length_halfBytes,
      length_wordBytes, twelve]
    try omega

/-- The written bytes are those of the packet codec. -/
theorem encode_packetBytes
    (state : RtpSendState) {payload : List UInt8}
    (payload_le : payload.length ≤ state.config.maximumPayloadBytes) :
    ∃ header packet,
      RtpHeader.new state.config.payloadType state.nextSequenceNumber state.nextTimestamp
          state.config.ssrc = .ok header ∧
        RtpPacket.new (header.setMarker state.markerPending) none payload 0 = .ok packet ∧
        ∀ grants, grants packet.encodedLen = true →
          packet.encode grants = .ok (state.packetBytes payload) := by
  have small := state.config.payloadType_le
  have limit := state.config.maximumPayloadBytes_le
  have room : maxSendPayloadBytes = 65507 - 12 := rfl
  have created : ∃ header, RtpHeader.new state.config.payloadType state.nextSequenceNumber
      state.nextTimestamp state.config.ssrc = .ok header ∧
        (((header.setMarker state.markerPending).setExtension false).setPadding
          false).bytes ++ payload = state.packetBytes payload ∧ header.csrcs = [] := by
    rw [RtpHeader.new, dif_pos small]
    refine ⟨_, rfl, ?_, rfl⟩
    have first : firstByte false false 0 = rtpVersion <<< 6 := by decide
    rw [packetBytes, ← first]
    simp [RtpHeader.bytes, RtpHeader.setMarker, RtpHeader.setExtension,
      RtpHeader.setPadding, secondByte]
  obtain ⟨header, made, same, sources⟩ := created
  generalize whole : RtpPacket.mk (((header.setMarker state.markerPending).setExtension
    false).setPadding false) none payload 0 = packet
  have fits : packet.encodedLen ≤ maxRtpPacketBytes := by
    have size : packet.encodedLen = rtpFixedHeaderBytes + header.csrcs.length * 4 + 0 +
        payload.length + 0 := by
      rw [← whole]
      rfl
    have bound : maxRtpPacketBytes = 65507 := rfl
    rw [size, sources, rtpFixedHeaderBytes, length_nil]
    omega
  have built : RtpPacket.new (header.setMarker state.markerPending) none payload 0 =
      .ok packet := by
    have checked : packet.checkedEncodedLen = .ok packet.encodedLen := if_neg (Nat.not_lt.mpr fits)
    rw [← whole] at checked ⊢
    exact bind_of_ok checked rfl
  refine ⟨header, packet, made, built, fun grants granted => ?_⟩
  rw [RtpPacket.encode_eq (RtpPacket.canonical_new built) granted, ← same, ← whole, RtpPacket.wire]
  simp [RtpPacket.extensionBytes, paddingWith]

end RtpSendState

/-- A call of a method of the sender. -/
inductive SendCall
  | encodeNext (payload output : List UInt8)
  | markDiscontinuity

/-- What a call leaves in its storage and returns. -/
abbrev SendResult := List UInt8 × Except (Fault RtpSendError) EncodedRtpPacket

variable {entry : SendCall × Option SendResult}

namespace RtpSendState

/-- One call. -/
def step (state : RtpSendState) : SendCall → RtpSendState × Option SendResult
  | .encodeNext payload output =>
    let ((state, output), result) := encodeNext payload (state, output)
    (state, some (output, result))
  | .markDiscontinuity => (state.markDiscontinuity, none)

end RtpSendState

/-- The calls so far, with their results. -/
abbrev SendHistory := List (SendCall × Option SendResult)

/-- Whether a call wrote a packet. -/
def succeeded : SendCall × Option SendResult → Bool
  | (.encodeNext .., some (_, .ok _)) => true
  | _ => false

/-- The number of packets that were written. -/
def packetsSent (history : SendHistory) : Nat := history.countP succeeded

/-- No packet was written, or none since a discontinuity was marked. -/
def MarksNext (history : SendHistory) : Prop := (∀ entry ∈ history, succeeded entry = false) ∨
    ∃ earlier result later, history = earlier ++ (.markDiscontinuity, result) :: later ∧
      ∀ entry ∈ later, succeeded entry = false

/-- A written packet is what the packet codec makes of the header with the next sequence
number and timestamp, and only it is written; a call that fails changes nothing. -/
def AgreesWithCodec
    (config : RtpSendConfig) (initialSequenceNumber : UInt16) (initialTimestamp : UInt32)
    (history : SendHistory) (before : RtpSendState) (call : SendCall)
    (next : RtpSendState × Option SendResult) : Prop :=
  match call, next with
  | .encodeNext payload output, (_, some (written, .ok encoded)) =>
    let number := packetsSent history
    ∃ header packet marker, RtpHeader.new config.payloadType
          (UInt16.ofNat (initialSequenceNumber.toNat + number))
          (UInt32.ofNat (initialTimestamp.toNat + number * config.timestampStep.toNat))
          config.ssrc = .ok header ∧
        RtpPacket.new (header.setMarker marker) none payload 0 = .ok packet ∧
        (marker = true ↔ MarksNext history) ∧
        (∀ grants, grants packet.encodedLen = true → packet.encode grants = .ok encoded.bytes) ∧
        written = encoded.bytes ++ output.drop encoded.bytes.length
  | .encodeNext _ output, (after, some (written, .error fault)) =>
    after = before ∧ written = output ∧ fault ≠ .outOfBounds
  | .encodeNext .., (_, none) => False
  | .markDiscontinuity, (_, result) => result = none

theorem marksNext_concat_mark (history : SendHistory) (result : Option SendResult) :
    MarksNext (history ++ [(.markDiscontinuity, result)]) :=
  .inr ⟨history, result, [], rfl, nofun⟩

theorem not_marksNext_concat
    (success : succeeded entry = true) (history : SendHistory) :
    ¬MarksNext (history ++ [entry]) := by
  rintro (none | ⟨earlier, result, later, split, none⟩)
  · exact absurd (none entry (by simp)) (by simp [success])
  · rcases eq_nil_or_concat' later with rfl | ⟨others, last, rfl⟩
    · have last := (append_inj' split rfl).2
      cases last
      exact absurd success nofun
    · have reassociated : history ++ [entry] =
          (earlier ++ (.markDiscontinuity, result) :: others) ++ [last] := by
        simpa using split
      obtain ⟨-, same⟩ := append_inj' reassociated rfl
      cases same
      exact absurd (none entry (by simp)) (by simp [success])

theorem marksNext_concat_failed
    (failed : succeeded entry = false) (encodes : entry.1 ≠ .markDiscontinuity)
    (history : SendHistory) :
    MarksNext (history ++ [entry]) ↔ MarksNext history := by
  constructor
  · rintro (none | ⟨earlier, result, later, split, none⟩)
    · exact .inl fun other member => none other (mem_append_left _ member)
    · rcases eq_nil_or_concat' later with rfl | ⟨others, last, rfl⟩
      · have last := (append_inj' split rfl).2
        cases last
        exact absurd rfl encodes
      · have reassociated : history ++ [entry] =
            (earlier ++ (.markDiscontinuity, result) :: others) ++ [last] := by
          simpa using split
        obtain ⟨same, -⟩ := append_inj' reassociated rfl
        exact .inr ⟨earlier, result, others, same,
          fun other member => none other (mem_append_left _ member)⟩
  · rintro (none | ⟨earlier, result, later, rfl, none⟩)
    · refine .inl fun other member => ?_
      obtain inside | last := mem_append.mp member
      · exact none other inside
      · rwa [mem_singleton.mp last]
    · refine .inr ⟨earlier, result, later ++ [entry], by simp, fun other member => ?_⟩
      obtain inside | last := mem_append.mp member
      · exact none other inside
      · rwa [mem_singleton.mp last]

theorem packetsSent_concat_failed
    (failed : succeeded entry = false) {history : SendHistory} :
    packetsSent (history ++ [entry]) = packetsSent history := by
  simp [packetsSent, failed]

theorem packetsSent_concat_succeeded
    (success : succeeded entry = true) {history : SendHistory} :
    packetsSent (history ++ [entry]) = packetsSent history + 1 := by
  simp [packetsSent, success]

/-- The state of a sender is what its history says. -/
structure FollowsSends
    (config : RtpSendConfig) (initialSequenceNumber : UInt16) (initialTimestamp : UInt32)
    (history : SendHistory) (state : RtpSendState) : Prop where
  same : state.config = config
  sequence : state.nextSequenceNumber =
    UInt16.ofNat (initialSequenceNumber.toNat + packetsSent history)
  timestamp : state.nextTimestamp =
    UInt32.ofNat (initialTimestamp.toNat + packetsSent history * config.timestampStep.toNat)
  marker : state.markerPending = true ↔ MarksNext history

section

variable {config : RtpSendConfig} {initialSequenceNumber : UInt16} {initialTimestamp : UInt32}
  {history : SendHistory} {state : RtpSendState}

/-- A call agrees with the codec and keeps the state with its history. -/
theorem FollowsSends.step
    (follows : FollowsSends config initialSequenceNumber initialTimestamp history state)
    (call : SendCall) :
    AgreesWithCodec config initialSequenceNumber initialTimestamp history state call
        (state.step call) ∧
      FollowsSends config initialSequenceNumber initialTimestamp
        (history ++ [(call, (state.step call).2)]) (state.step call).1 := by
  obtain ⟨same, sequence, timestamp, marker⟩ := follows
  cases call with
  | markDiscontinuity =>
    refine ⟨rfl, same, ?_, ?_, iff_of_true rfl (marksNext_concat_mark history _)⟩
    · rw [packetsSent_concat_failed rfl]
      exact sequence
    · rw [packetsSent_concat_failed rfl]
      exact timestamp
  | encodeNext payload output =>
    have encodes := RtpSendState.encodes_encodeNext payload state output
    rw [RtpSendState.step]
    generalize RtpSendState.encodeNext payload (state, output) = outcome at encodes
    cases encodes with
    | refused error =>
      refine ⟨⟨rfl, rfl, nofun⟩, same, ?_, ?_, ?_⟩
      · rw [packetsSent_concat_failed rfl]
        exact sequence
      · rw [packetsSent_concat_failed rfl]
        exact timestamp
      · rw [marksNext_concat_failed rfl]
        · exact marker
        · nofun
    | encoded payload_ne payload_le fits =>
      obtain ⟨header, packet, made, built, encoded⟩ := state.encode_packetBytes payload_le
      rw [same, sequence, timestamp] at made
      refine ⟨⟨header, packet, state.markerPending, made, built, marker, encoded, ?_⟩,
        same, ?_, ?_, ?_⟩
      · rw [RtpSendState.length_packetBytes]
      · rw [packetsSent_concat_succeeded rfl, ← Nat.add_assoc, UInt16.ofNat_add, ← sequence]
        rfl
      · rw [packetsSent_concat_succeeded rfl, Nat.succ_mul, ← Nat.add_assoc,
          UInt32.ofNat_add, ← timestamp, UInt32.ofNat_toNat, ← same]
        rfl
      · exact iff_of_false nofun (not_marksNext_concat rfl history)

end

/-- In every run of a sender each call agrees with the packet codec. -/
theorem agreesWithCodec_run
    (config : RtpSendConfig) (initialSequenceNumber : UInt16) (initialTimestamp : UInt32)
    (calls : List SendCall) :
    let sender := RtpSendState.new config initialSequenceNumber initialTimestamp
    Run.AllSteps (fun earlier call =>
      AgreesWithCodec config initialSequenceNumber initialTimestamp
        (Run.history RtpSendState.step sender earlier)
        (Run.after RtpSendState.step sender earlier) call
        ((Run.after RtpSendState.step sender earlier).step call)) calls := by
  intro sender
  have initial : FollowsSends config initialSequenceNumber initialTimestamp [] sender :=
    ⟨rfl, by simp [packetsSent, sender, RtpSendState.new],
      by simp [packetsSent, sender, RtpSendState.new], iff_of_true rfl (.inl nofun)⟩
  have follows (earlier : List SendCall) :
      FollowsSends config initialSequenceNumber initialTimestamp
        (Run.history RtpSendState.step sender earlier)
        (Run.after RtpSendState.step sender earlier) := by
    induction earlier using reverseRecOn with
    | nil => exact initial
    | append_singleton earlier call ih =>
      rw [Run.history_concat, Run.after_append]
      exact (ih.step call).2
  intro earlier call later split
  exact ((follows earlier).step call).1

end Rtp
end LiveAISIP
