import LiveAISIP.Rtp.Dtmf.Sender
import Mathlib.Order.MinMax

/-!
# The packets of one event

What the generator of `rtp/dtmf/sender.rs` sends for one event: progress packets that
grow, then a fixed number of equal end packets.  The packets of an event are a
schedule that the configuration and two counts determine; every call keeps the event
on its schedule.
-/

namespace LiveAISIP
namespace Rtp

open List

namespace DtmfSender

variable {sender : DtmfSender} {event : ActiveEvent} {remaining : UInt8}

/-- What a call returns. -/
inductive Reply
  | called (outcome : Except DtmfSenderError Unit)
  | packet (outcome : Except DtmfSenderError (Option DtmfTransmitPacket))
  | cancelled (changed : Bool)

/-- One call. -/
def step (sender : DtmfSender) : Call → DtmfSender × Reply
  | .start code timestamp =>
    ((sender.start code timestamp).1, .called (sender.start code timestamp).2)
  | .requestEnd => (sender.requestEnd.1, .called sender.requestEnd.2)
  | .nextPacket => (sender.nextPacket.1, .packet sender.nextPacket.2)
  | .cancel => (sender.cancel.1, .cancelled sender.cancel.2)

/-- What was seen of one event: how it was started, its packets, and whether its end
was asked for or it was given up. -/
structure Burst where
  code : TelephoneEventCode
  timestamp : UInt32
  packets : List DtmfTransmitPacket
  endRequested : Bool
  cancelled : Bool
  deriving DecidableEq

/-- The event seen last after one more call. -/
def observe : Option Burst → Call × Reply → Option Burst
  | _, (.start code timestamp, .called (.ok ())) => some ⟨code, timestamp, [], false, false⟩
  | some burst, (.requestEnd, .called (.ok ())) => some { burst with endRequested := true }
  | some burst, (.nextPacket, .packet (.ok (some packet))) =>
    some { burst with packets := burst.packets ++ [packet] }
  | some burst, (.cancel, .cancelled true) => some { burst with cancelled := true }
  | latest, _ => latest

/-- The event seen last in a run. -/
def latest (history : List (Call × Reply)) : Option Burst := history.foldl observe none

namespace Burst

/-- The packets before the end of the event. -/
def progress (burst : Burst) : List DtmfTransmitPacket :=
  burst.packets.filter fun packet => !packet.event.isEnd

/-- The packets at the end of the event. -/
def ends (burst : Burst) : List DtmfTransmitPacket :=
  burst.packets.filter fun packet => packet.event.isEnd

end Burst

/-- Packets after which the longest event has grown to the maximum. -/
def progressBound (config : DtmfSenderConfig) : Nat :=
  (config.maximumTicks.toNat + config.packetTicks.toNat - 1) / config.packetTicks.toNat

/-- The packets of one event are in order.  Progress packets grow up to the first end
packet; end packets are equal but for the mark of the last one. -/
structure Disciplined (config : DtmfSenderConfig) (burst : Burst) : Prop where
  order : burst.packets = burst.progress ++ burst.ends
  timestamp : ∀ packet ∈ burst.packets, packet.timestamp = burst.timestamp
  code : ∀ packet ∈ burst.packets, packet.event.code = burst.code
  marker : ∀ index packet, burst.packets[index]? = some packet → packet.marker = (index == 0)
  maximum : ∀ packet ∈ burst.packets, packet.event.duration.toNat ≤ config.maximumTicks.toNat
  longer : (burst.progress ++ burst.ends.take 1).Pairwise fun first second =>
    first.event.duration.toNat < second.event.duration.toNat
  same : ∀ first ∈ burst.ends, ∀ second ∈ burst.ends, first.event = second.event
  repetitions : burst.ends.length ≤ config.endRepetitions.toNat
  last : ∀ index packet, burst.ends[index]? = some packet →
    packet.finalRetransmission = (index + 1 == config.endRepetitions.toNat)
  notLast : ∀ packet ∈ burst.progress, packet.finalRetransmission = false
  bounded : burst.progress.length < progressBound config
  automatic : burst.endRequested = false → burst.ends ≠ [] →
    burst.progress.length + 1 = progressBound config

section Schedule

variable (config : DtmfSenderConfig) (code : TelephoneEventCode) (timestamp : UInt32)

/-- The duration at the end of an event with a number of progress packets. -/
def finalDuration (progress : Nat) : Nat :=
  min ((progress + 1) * config.packetTicks.toNat) config.maximumTicks.toNat

/-- A progress packet. -/
def progressPacket (index : Nat) : DtmfTransmitPacket where
  timestamp := timestamp
  marker := index == 0
  event := ⟨code, false, config.volume, ((index + 1) * config.packetTicks.toNat).toUInt16⟩
  finalRetransmission := false

/-- An end packet after a number of progress packets. -/
def endPacket (progress index : Nat) : DtmfTransmitPacket where
  timestamp := timestamp
  marker := progress + index == 0
  event := ⟨code, true, config.volume, (finalDuration config progress).toUInt16⟩
  finalRetransmission := index + 1 == config.endRepetitions.toNat

/-- A number of progress packets and a number of end packets. -/
def schedule (progress ends : Nat) : List DtmfTransmitPacket :=
  (range progress).map (progressPacket config code timestamp) ++
    (range ends).map (endPacket config code timestamp progress)

theorem schedule_succ_zero (progress : Nat) : schedule config code timestamp (progress + 1) 0 =
      schedule config code timestamp progress 0 ++
        [progressPacket config code timestamp progress] := by
  simp [schedule, range_succ]

theorem schedule_succ (progress ends : Nat) : schedule config code timestamp progress (ends + 1) =
      schedule config code timestamp progress ends ++
        [endPacket config code timestamp progress ends] := by
  simp [schedule, range_succ]

theorem filter_progress_schedule (progress ends : Nat) :
    (schedule config code timestamp progress ends).filter (fun packet => !packet.event.isEnd) =
      (range progress).map (progressPacket config code timestamp) := by
  rw [schedule, filter_append, filter_eq_self.mpr, filter_eq_nil_iff.mpr, append_nil]
  · simp [endPacket]
  · simp [progressPacket]

theorem filter_ends_schedule (progress ends : Nat) :
    (schedule config code timestamp progress ends).filter (fun packet => packet.event.isEnd) =
      (range ends).map (endPacket config code timestamp progress) := by
  rw [schedule, filter_append, filter_eq_nil_iff.mpr, filter_eq_self.mpr, nil_append]
  · simp [endPacket]
  · simp [progressPacket]

end Schedule

/-- There is room for another packet exactly below the bound. -/
theorem lt_progressBound_iff (config : DtmfSenderConfig) (progress : Nat) :
    progress < progressBound config ↔
      progress * config.packetTicks.toNat < config.maximumTicks.toNat := by
  have positive := config.packetTicks_pos
  rw [progressBound, ← Nat.succ_le_iff, Nat.le_div_iff_mul_le positive, Nat.succ_mul]
  omega

/-- A duration of the schedule fits its field. -/
theorem toUInt16_toNat {config : DtmfSenderConfig} {duration : Nat}
    (bounded : duration ≤ config.maximumTicks.toNat) :
    duration.toUInt16.toNat = duration := by
  have limit := config.maximumTicks.toNat_lt
  rw [Nat.toUInt16_eq, UInt16.toNat_ofNat']
  omega

theorem finalDuration_le (config : DtmfSenderConfig) (progress : Nat) :
    finalDuration config progress ≤ config.maximumTicks.toNat := Nat.min_le_right _ _

/-- The duration of a progress packet is below that of the end. -/
theorem progress_lt_final
    {config : DtmfSenderConfig} {index progress : Nat} (before : index < progress)
    (room : progress * config.packetTicks.toNat < config.maximumTicks.toNat) :
    (index + 1) * config.packetTicks.toNat < finalDuration config progress := by
  have positive := config.packetTicks_pos
  have up : (index + 1) * config.packetTicks.toNat ≤
      progress * config.packetTicks.toNat := Nat.mul_le_mul_right _ before
  have next : (progress + 1) * config.packetTicks.toNat =
      progress * config.packetTicks.toNat + config.packetTicks.toNat := Nat.succ_mul _ _
  rw [finalDuration]
  omega

/-- What stands in the schedule of a burst. -/
structure Scheduled (config : DtmfSenderConfig) (burst : Burst) (progress ends : Nat) :
    Prop where
  packets : burst.packets = schedule config burst.code burst.timestamp progress ends
  room : progress * config.packetTicks.toNat < config.maximumTicks.toNat
  repetitions : ends ≤ config.endRepetitions.toNat
  automatic : burst.endRequested = false → 0 < ends →
    config.maximumTicks.toNat ≤ (progress + 1) * config.packetTicks.toNat

section Scheduled

variable {config : DtmfSenderConfig} {burst : Burst} {progress ends : Nat}

variable {packet : DtmfTransmitPacket}

theorem Scheduled.progress_eq (scheduled : Scheduled config burst progress ends) : burst.progress =
      (range progress).map (progressPacket config burst.code burst.timestamp) := by
  rw [Burst.progress, scheduled.packets, filter_progress_schedule]

theorem Scheduled.ends_eq (scheduled : Scheduled config burst progress ends) : burst.ends =
      (range ends).map (endPacket config burst.code burst.timestamp progress) := by
  rw [Burst.ends, scheduled.packets, filter_ends_schedule]

theorem Scheduled.length_progress (scheduled : Scheduled config burst progress ends) :
    burst.progress.length = progress := by
  rw [scheduled.progress_eq, length_map, length_range]

theorem Scheduled.length_ends (scheduled : Scheduled config burst progress ends) :
    burst.ends.length = ends := by
  rw [scheduled.ends_eq, length_map, length_range]

/-- A packet of the schedule is a progress packet or an end packet. -/
theorem Scheduled.mem_packets
    (scheduled : Scheduled config burst progress ends)
    (among : packet ∈ burst.packets) :
    (∃ index < progress, packet = progressPacket config burst.code burst.timestamp index) ∨
      ∃ index < ends, packet = endPacket config burst.code burst.timestamp progress index := by
  rw [scheduled.packets, schedule, mem_append, mem_map, mem_map] at among
  rcases among with ⟨index, inside, rfl⟩ | ⟨index, inside, rfl⟩
  · exact .inl ⟨index, mem_range.mp inside, rfl⟩
  · exact .inr ⟨index, mem_range.mp inside, rfl⟩

theorem Scheduled.maximum
    (scheduled : Scheduled config burst progress ends)
    (among : packet ∈ burst.packets) :
    packet.event.duration.toNat ≤ config.maximumTicks.toNat := by
  have bounded := finalDuration_le config progress
  rcases scheduled.mem_packets among with ⟨index, before, rfl⟩ | ⟨index, before, rfl⟩
  · have below := (progress_lt_final before scheduled.room).le.trans bounded
    exact (toUInt16_toNat below).trans_le below
  · exact (toUInt16_toNat bounded).trans_le bounded

/-- Progress packets grow. -/
theorem Scheduled.pairwise_progress (scheduled : Scheduled config burst progress ends) :
    burst.progress.Pairwise fun first second =>
      first.event.duration.toNat < second.event.duration.toNat := by
  rw [scheduled.progress_eq, pairwise_map]
  refine pairwise_lt_range.imp_of_mem ?_
  intro first second firstInside secondInside before
  have positive := config.packetTicks_pos
  have bounded := finalDuration_le config progress
  have up := (progress_lt_final (mem_range.mp firstInside) scheduled.room).le
  have down := (progress_lt_final (mem_range.mp secondInside) scheduled.room).le
  rw [progressPacket, progressPacket, toUInt16_toNat (up.trans bounded),
    toUInt16_toNat (down.trans bounded)]
  exact Nat.mul_lt_mul_of_pos_right (Nat.succ_lt_succ before) positive

/-- The packets grow up to the first end packet. -/
theorem Scheduled.longer (scheduled : Scheduled config burst progress ends) :
    (burst.progress ++ burst.ends.take 1).Pairwise fun first second =>
      first.event.duration.toNat < second.event.duration.toNat := by
  refine pairwise_append.mpr ⟨scheduled.pairwise_progress, ?_, ?_⟩
  · rcases burst.ends with _ | ⟨first, rest⟩
    · exact .nil
    · exact pairwise_singleton _ _
  · intro first firstAmong second secondAmong
    have taken := mem_of_mem_take secondAmong
    rw [scheduled.progress_eq, mem_map] at firstAmong
    rw [scheduled.ends_eq, mem_map] at taken
    obtain ⟨index, inside, rfl⟩ := firstAmong
    obtain ⟨other, -, rfl⟩ := taken
    have below := progress_lt_final (mem_range.mp inside) scheduled.room
    have bounded := finalDuration_le config progress
    rw [progressPacket, endPacket, toUInt16_toNat (below.le.trans bounded), toUInt16_toNat bounded]
    exact below

/-- Only the first packet of the schedule carries the marker. -/
theorem Scheduled.marker (scheduled : Scheduled config burst progress ends)
    {index : Nat} (found : burst.packets[index]? = some packet) : packet.marker = (index == 0) := by
  rw [scheduled.packets, schedule, getElem?_append, length_map, length_range] at found
  split_ifs at found with before
  · simp only [getElem?_map, getElem?_range before, Option.map_some, Option.some.injEq] at found
    rw [← found, progressPacket]
  · rw [getElem?_map, Option.map_eq_some_iff] at found
    obtain ⟨position, stands, rfl⟩ := found
    obtain ⟨inside, same⟩ := List.getElem?_eq_some_iff.mp stands
    rw [getElem_range] at same
    rw [endPacket, ← same, Nat.add_sub_cancel' (Nat.not_lt.mp before)]

/-- A scheduled burst is disciplined. -/
theorem Scheduled.disciplined (scheduled : Scheduled config burst progress ends) :
    Disciplined config burst where
  order := by
    rw [scheduled.progress_eq, scheduled.ends_eq]
    exact scheduled.packets
  timestamp := by
    intro packet among
    rcases scheduled.mem_packets among with ⟨index, -, rfl⟩ | ⟨index, -, rfl⟩
    · rfl
    · rfl
  code := by
    intro packet among
    rcases scheduled.mem_packets among with ⟨index, -, rfl⟩ | ⟨index, -, rfl⟩
    · rfl
    · rfl
  marker index packet found := scheduled.marker found
  maximum packet among := scheduled.maximum among
  longer := scheduled.longer
  same := by
    intro first firstAmong second secondAmong
    rw [scheduled.ends_eq, mem_map] at firstAmong secondAmong
    obtain ⟨index, -, rfl⟩ := firstAmong
    obtain ⟨other, -, rfl⟩ := secondAmong
    rfl
  repetitions := scheduled.length_ends.trans_le scheduled.repetitions
  last := by
    intro index packet found
    rw [scheduled.ends_eq, getElem?_map, Option.map_eq_some_iff] at found
    obtain ⟨position, stands, rfl⟩ := found
    obtain ⟨inside, same⟩ := List.getElem?_eq_some_iff.mp stands
    rw [getElem_range] at same
    rw [endPacket, same]
  notLast := by
    intro packet among
    rw [scheduled.progress_eq, mem_map] at among
    obtain ⟨index, -, rfl⟩ := among
    rfl
  bounded := by
    rw [scheduled.length_progress, lt_progressBound_iff]
    exact scheduled.room
  automatic := by
    intro notRequested some
    have begun : 0 < ends := by
      rw [← scheduled.length_ends]
      exact length_pos_iff.mpr some
    have full := scheduled.automatic notRequested begun
    have below := (lt_progressBound_iff config progress).mpr scheduled.room
    have notBelow : ¬progress + 1 < progressBound config := by
      rw [lt_progressBound_iff]
      omega
    rw [scheduled.length_progress]
    omega

end Scheduled

/-- Where a burst stands, seen from the event in progress. -/
inductive Stage (config : DtmfSenderConfig) (burst : Burst) : Option ActiveEvent → Prop
  | growing (progress : Nat)
      (scheduled : Scheduled config burst progress 0)
      (notRequested : burst.endRequested = false)
      (kept : burst.cancelled = false) :
      Stage config burst (some ⟨burst.code, burst.timestamp,
        (progress * config.packetTicks.toNat).toUInt16, progress, .active⟩)
  | asked (progress : Nat)
      (scheduled : Scheduled config burst progress 0)
      (requested : burst.endRequested = true)
      (kept : burst.cancelled = false) :
      Stage config burst (some ⟨burst.code, burst.timestamp,
        (progress * config.packetTicks.toNat).toUInt16, progress,
        .ending config.endRepetitions false⟩)
  | closing (progress ends : Nat) (remaining : UInt8)
      (scheduled : Scheduled config burst progress ends)
      (left : ends + remaining.toNat = config.endRepetitions.toNat)
      (more : 0 < remaining.toNat) (begun : 0 < ends)
      (kept : burst.cancelled = false) :
      Stage config burst (some ⟨burst.code, burst.timestamp,
        (finalDuration config progress).toUInt16, progress + ends, .ending remaining true⟩)
  | done (progress : Nat)
      (scheduled : Scheduled config burst progress config.endRepetitions.toNat) :
      Stage config burst none
  | abandoned (progress ends : Nat)
      (scheduled : Scheduled config burst progress ends)
      (givenUp : burst.cancelled = true) :
      Stage config burst none

/-- A burst is on its schedule at every stage. -/
theorem Stage.exists_scheduled
    {config : DtmfSenderConfig} {burst : Burst} {active : Option ActiveEvent}
    (stage : Stage config burst active) :
    ∃ progress ends, Scheduled config burst progress ends := by
  cases stage with
  | growing progress scheduled => exact ⟨_, _, scheduled⟩
  | asked progress scheduled => exact ⟨_, _, scheduled⟩
  | closing progress ends remaining scheduled => exact ⟨_, _, scheduled⟩
  | done progress scheduled => exact ⟨_, _, scheduled⟩
  | abandoned progress ends scheduled => exact ⟨_, _, scheduled⟩

/-- Event packets that are still to come, at most. -/
def packetsLeft (config : DtmfSenderConfig) (burst : Burst) : Nat :=
  (progressBound config - burst.progress.length) + (config.endRepetitions.toNat - burst.ends.length)

/-- The event after a packet. -/
def Burst.add (burst : Burst) (packet : DtmfTransmitPacket) : Burst :=
  { burst with packets := burst.packets ++ [packet] }

section Schedules

variable {config : DtmfSenderConfig} {burst : Burst} {progress ends : Nat}

/-- A progress packet keeps the schedule. -/
theorem Scheduled.add_progress
    (scheduled : Scheduled config burst progress 0)
    (room : (progress + 1) * config.packetTicks.toNat < config.maximumTicks.toNat) :
    Scheduled config (burst.add (progressPacket config burst.code burst.timestamp progress))
      (progress + 1) 0 where
  packets := by
    rw [Burst.add, scheduled.packets]
    exact (schedule_succ_zero config burst.code burst.timestamp progress).symm
  room := room
  repetitions := Nat.zero_le _
  automatic _ begun := absurd begun (Nat.lt_irrefl 0)

/-- An end packet keeps the schedule. -/
theorem Scheduled.add_end
    (scheduled : Scheduled config burst progress ends) (more : ends < config.endRepetitions.toNat)
    (automatic : burst.endRequested = false →
      config.maximumTicks.toNat ≤ (progress + 1) * config.packetTicks.toNat) :
    Scheduled config (burst.add (endPacket config burst.code burst.timestamp progress ends))
      progress (ends + 1) where
  packets := by
    rw [Burst.add, scheduled.packets]
    exact (schedule_succ config burst.code burst.timestamp progress ends).symm
  room := scheduled.room
  repetitions := more
  automatic notRequested _ := automatic notRequested

end Schedules

/-- The grown duration of an event with a number of progress packets. -/
theorem increment_eq
    {config : DtmfSenderConfig} {progress : Nat}
    (room : progress * config.packetTicks.toNat < config.maximumTicks.toNat) :
    increment (progress * config.packetTicks.toNat).toUInt16 config =
      (finalDuration config progress).toUInt16 := by
  have limit := config.maximumTicks.toNat_lt
  rw [increment, toUInt16_toNat room.le, finalDuration, Nat.succ_mul]
  congr 1
  omega

/-- The schedule is short enough for the packet counter. -/
theorem count_lt
    {config : DtmfSenderConfig} {progress ends : Nat}
    (room : progress * config.packetTicks.toNat < config.maximumTicks.toNat)
    (repetitions : ends ≤ config.endRepetitions.toNat) :
    min (progress + ends + 1) (2 ^ 32 - 1) = progress + ends + 1 := by
  have limit := config.maximumTicks.toNat_lt
  have few := config.endRepetitions.toNat_lt
  have positive := config.packetTicks_pos
  have each : progress * 1 ≤ progress * config.packetTicks.toNat := Nat.mul_le_mul_left _ positive
  omega

/-- The sender and the packet after an advance of its event. -/
theorem nextPacket_of_advance {next : ActiveEvent} {isEnd final : Bool}
    (active : sender.active = some event)
    (advanced : advance event sender.config = (next, isEnd, final)) :
    sender.nextPacket =
      ({ sender with
          emitted := saturatingAdd sender.emitted 1
          active := if final then none
            else some { next with packets := min (event.packets + 1) (2 ^ 32 - 1) }
          completed := if final then saturatingAdd sender.completed 1
            else sender.completed }, .ok (some ⟨next.timestamp, event.packets == 0,
          ⟨next.code, isEnd, sender.config.volume, next.duration⟩, final⟩)) := by
  have volume : ¬ maxTelephoneEventVolume < sender.config.volume :=
    UInt8.not_lt.mpr sender.config.volume_le
  cases final with
  | true | false => simp [nextPacket, active, advanced, TelephoneEvent.new, volume]

/-- An end packet leaves the event at its next stage. -/
theorem stage_of_end
    {config : DtmfSenderConfig} {burst : Burst} {progress ends : Nat}
    (scheduled : Scheduled config burst progress ends)
    (automatic : burst.endRequested = false →
      config.maximumTicks.toNat ≤ (progress + 1) * config.packetTicks.toNat)
    (kept : burst.cancelled = false)
    (left : ends + 1 + remaining.toNat = config.endRepetitions.toNat) :
    Stage config (burst.add (endPacket config burst.code burst.timestamp progress ends))
      (if remaining == 0 then none
        else some ⟨burst.code, burst.timestamp, (finalDuration config progress).toUInt16,
          progress + (ends + 1), .ending remaining true⟩) := by
  have added := scheduled.add_end (by omega) automatic
  by_cases last : remaining = 0
  · rw [if_pos (by simp [last])]
    have full : ends + 1 = config.endRepetitions.toNat := by
      rw [last] at left
      simpa using left
    exact .done progress (full ▸ added)
  · rw [if_neg (by simpa using last)]
    have positive : 0 < remaining.toNat :=
      Nat.pos_of_ne_zero fun zero => last (UInt8.toNat_inj.mp zero)
    exact .closing progress (ends + 1) remaining added left positive (Nat.succ_pos _) kept

/-- A counter of end packets that is above zero goes down by one. -/
theorem toNat_sub_one (more : 0 < remaining.toNat) :
    (remaining - 1).toNat = remaining.toNat - 1 := by
  have one : (1 : UInt8) ≤ remaining := UInt8.le_iff_toNat_le.mpr more
  rw [UInt8.toNat_sub_of_le _ _ one]
  rfl

/-- The last end packet is the one after which none remains. -/
theorem final_eq
    {config : DtmfSenderConfig} {ends : Nat}
    (left : ends + 1 + remaining.toNat = config.endRepetitions.toNat) :
    (remaining == 0) = (ends + 1 == config.endRepetitions.toNat) := by
  rw [Bool.eq_iff_iff, beq_iff_eq, beq_iff_eq, ← UInt8.toNat_inj, UInt8.toNat_zero]
  omega

/-- An advance to an end packet sends the next one of the schedule. -/
theorem nextPacket_of_end {burst : Burst}
    {progress ends : Nat} (active : sender.active = some event)
    (packets : event.packets = progress + ends)
    (scheduled : Scheduled sender.config burst progress ends)
    (automatic : burst.endRequested = false →
      sender.config.maximumTicks.toNat ≤ (progress + 1) * sender.config.packetTicks.toNat)
    (kept : burst.cancelled = false)
    (left : ends + 1 + remaining.toNat = sender.config.endRepetitions.toNat)
    (advanced : advance event sender.config =
      (⟨burst.code, burst.timestamp, (finalDuration sender.config progress).toUInt16,
        event.packets, .ending remaining true⟩, true, remaining == 0)) :
    ∃ next packet, sender.nextPacket = (next, .ok (some packet)) ∧ next.config = sender.config ∧
      Stage sender.config (burst.add packet) next.active := by
  refine ⟨_, _, nextPacket_of_advance active advanced, rfl, ?_⟩
  have reached := stage_of_end scheduled automatic kept left
  rw [endPacket, ← final_eq left] at reached
  simp only [packets, count_lt scheduled.room scheduled.repetitions]
  exact reached

/-- A call for a packet sends the next one of the schedule. -/
theorem nextPacket_stage {burst : Burst}
    (stage : Stage sender.config burst sender.active) (active : sender.active = some event) :
    ∃ next packet, sender.nextPacket = (next, .ok (some packet)) ∧ next.config = sender.config ∧
      Stage sender.config (burst.add packet) next.active := by
  have positive := sender.config.endRepetitions_pos
  have first : 0 + 1 + (sender.config.endRepetitions - 1).toNat =
      sender.config.endRepetitions.toNat := by
    rw [toNat_sub_one positive]
    omega
  rw [active] at stage
  cases stage with
  | growing progress scheduled notRequested kept =>
    have grown := increment_eq scheduled.room
    by_cases full : sender.config.maximumTicks.toNat ≤
        (progress + 1) * sender.config.packetTicks.toNat
    · -- The event has grown to the maximum: its first end packet.
      have same : (finalDuration sender.config progress).toUInt16 = sender.config.maximumTicks := by
        rw [finalDuration, Nat.min_eq_right full]
        exact UInt16.toNat_inj.mp (toUInt16_toNat (le_refl _))
      refine nextPacket_of_end active rfl scheduled (fun _ => full) kept first ?_
      simp only [advance, grown, same, if_true]
    · -- One more progress packet.
      have below := Nat.not_le.mp full
      have short : finalDuration sender.config progress =
          (progress + 1) * sender.config.packetTicks.toNat := Nat.min_eq_left below.le
      have differ : ¬(finalDuration sender.config progress).toUInt16 =
          sender.config.maximumTicks := by
        intro same
        have equal := congrArg UInt16.toNat same
        rw [toUInt16_toNat (finalDuration_le _ _), short] at equal
        omega
      rw [short] at grown differ
      have advanced : advance ⟨burst.code, burst.timestamp,
          (progress * sender.config.packetTicks.toNat).toUInt16, progress, .active⟩
          sender.config =
          (⟨burst.code, burst.timestamp,
            ((progress + 1) * sender.config.packetTicks.toNat).toUInt16, progress,
            .active⟩, false, false) := by
        simp only [advance, grown, if_neg differ]
      refine ⟨_, _, nextPacket_of_advance active advanced, rfl, ?_⟩
      have counted := count_lt scheduled.room scheduled.repetitions
      rw [Nat.add_zero] at counted
      simp only [counted]
      exact .growing (progress + 1) (scheduled.add_progress below) notRequested kept
  | asked progress scheduled requested kept =>
    have unasked : burst.endRequested = false → sender.config.maximumTicks.toNat ≤
          (progress + 1) * sender.config.packetTicks.toNat := by
      intro notRequested
      rw [requested] at notRequested
      cases notRequested
    refine nextPacket_of_end active rfl scheduled unasked kept first ?_
    simp only [advance, increment_eq scheduled.room, Bool.false_eq_true, if_false]
  | closing progress ends remaining scheduled left more begun kept =>
    have after : ends + 1 + (remaining - 1).toNat = sender.config.endRepetitions.toNat := by
      rw [toNat_sub_one more]
      omega
    exact nextPacket_of_end active rfl scheduled
      (fun notRequested => scheduled.automatic notRequested begun) kept after rfl

/-- The event in progress is the one seen last, and it is on its schedule. -/
structure Follows (config : DtmfSenderConfig) (seen : Option Burst) (sender : DtmfSender) :
    Prop where
  config_eq : sender.config = config
  idle : seen = none → sender.active = none
  stage : ∀ burst, seen = some burst → Stage config burst sender.active

/-- A new event is at the beginning of its schedule. -/
theorem stage_start
    (config : DtmfSenderConfig) (code : TelephoneEventCode) (timestamp : UInt32) :
    Stage config ⟨code, timestamp, [], false, false⟩ (some ⟨code, timestamp, 0, 0, .active⟩) := by
  have positive := config.packetTicks_pos
  have scheduled : Scheduled config ⟨code, timestamp, [], false, false⟩ 0 0 := {
    packets := rfl
    room := by
      have fits := config.packetTicks_le
      omega
    repetitions := Nat.zero_le _
    automatic := fun _ begun => absurd begun (Nat.lt_irrefl 0) }
  have begun := Stage.growing 0 scheduled rfl rfl
  rwa [Nat.zero_mul] at begun

/-- Asking for the end of an event keeps its schedule. -/
theorem requestEnd_stage {burst : Burst}
    (stage : Stage sender.config burst sender.active) (active : sender.active = some event) :
    sender.requestEnd.2 = .ok () ∧ sender.requestEnd.1.config = sender.config ∧
      Stage sender.config { burst with endRequested := true } sender.requestEnd.1.active := by
  have asked : ∀ {progress ends : Nat}, Scheduled sender.config burst progress ends →
      Scheduled sender.config { burst with endRequested := true } progress ends :=
    fun scheduled => {
      packets := scheduled.packets
      room := scheduled.room
      repetitions := scheduled.repetitions
      automatic := fun notRequested => by cases notRequested }
  rw [active] at stage
  cases stage with
  | growing progress scheduled notRequested kept | asked progress scheduled requested kept =>
    simp only [requestEnd, active, true_and]
    exact .asked progress (asked scheduled) rfl kept
  | closing progress ends remaining scheduled left more begun kept =>
    simp only [requestEnd, active, true_and]
    exact .closing progress ends remaining (asked scheduled) left more begun kept

/-- Every call keeps the event on its schedule. -/
theorem Follows.step
    {config : DtmfSenderConfig} {seen : Option Burst}
    (follows : Follows config seen sender) (call : Call) :
    Follows config (observe seen (call, (sender.step call).2)) (sender.step call).1 := by
  obtain ⟨rfl, idle, stage⟩ := follows
  cases active : sender.active with
  | none =>
    cases call with
    | start code timestamp =>
      simp only [DtmfSender.step, start, active, observe]
      refine ⟨rfl, by simp, ?_⟩
      rintro burst ⟨⟩
      exact stage_start sender.config code timestamp
    | requestEnd =>
      have kept : observe seen (.requestEnd, (sender.step .requestEnd).2) = seen := by
        cases seen <;> simp [DtmfSender.step, requestEnd, active, observe]
      rw [kept]
      simp only [DtmfSender.step, requestEnd, active]
      exact ⟨rfl, idle, stage⟩
    | nextPacket =>
      have kept : observe seen (.nextPacket, (sender.step .nextPacket).2) = seen := by
        cases seen <;> simp [DtmfSender.step, nextPacket, active, observe]
      rw [kept]
      simp only [DtmfSender.step, nextPacket, active]
      exact ⟨rfl, idle, stage⟩
    | cancel =>
      have kept : observe seen (.cancel, (sender.step .cancel).2) = seen := by
        cases seen <;> simp [DtmfSender.step, cancel, active, observe]
      rw [kept]
      simp only [DtmfSender.step, cancel, active]
      exact ⟨rfl, idle, stage⟩
  | some event =>
    -- An event in progress was seen.
    cases seen with
    | none =>
      rw [idle rfl] at active
      cases active
    | some burst =>
      have current := stage burst rfl
      cases call with
      | start code timestamp =>
        simp only [DtmfSender.step, start, active, observe]
        exact ⟨rfl, idle, stage⟩
      | requestEnd =>
        obtain ⟨returned, same, next⟩ := requestEnd_stage current active
        simp only [DtmfSender.step, returned, observe]
        refine ⟨same, by simp, ?_⟩
        rintro _ ⟨⟩
        exact next
      | nextPacket =>
        obtain ⟨after, packet, returned, same, next⟩ := nextPacket_stage current active
        simp only [DtmfSender.step, returned, observe]
        refine ⟨same, by simp, ?_⟩
        rintro _ ⟨⟩
        exact next
      | cancel =>
        simp only [DtmfSender.step, cancel, active, observe]
        refine ⟨rfl, by simp, ?_⟩
        rintro other ⟨⟩
        obtain ⟨progress, ends, scheduled⟩ := current.exists_scheduled
        exact .abandoned progress ends
          ⟨scheduled.packets, scheduled.room, scheduled.repetitions, scheduled.automatic⟩ rfl

/-- Every run follows the schedule. -/
theorem follows_after (config : DtmfSenderConfig) (calls : List Call) :
    Follows config (latest (Run.history step (new config) calls))
      (Run.after step (new config) calls) := by
  refine @Run.history_invariant _ _ _ _ _
    (fun calls sender =>
      Follows config (latest (Run.history step (new config) calls)) sender)
    ⟨rfl, fun _ => rfl, fun burst nothing => by cases nothing⟩ ?_ calls
  intro earlier call follows
  rw [Run.history_concat, latest, foldl_concat]
  exact follows.step call

/-- An event that was not given up is over exactly after its last end packet. -/
theorem Stage.idle_iff
    {config : DtmfSenderConfig} {burst : Burst} {active : Option ActiveEvent}
    (stage : Stage config burst active) (kept : burst.cancelled = false) :
    active = none ↔ burst.ends.length = config.endRepetitions.toNat := by
  have positive := config.endRepetitions_pos
  cases stage with
  | growing progress scheduled | asked progress scheduled
  | closing progress ends remaining scheduled left more =>
    rw [scheduled.length_ends]
    exact iff_of_false (by simp) (by omega)
  | done progress scheduled => exact iff_of_true rfl scheduled.length_ends
  | abandoned progress ends scheduled givenUp =>
    rw [kept] at givenUp
    cases givenUp

/-- An event in progress has packets left, and one less after a packet. -/
theorem Stage.packetsLeft_add
    {config : DtmfSenderConfig} {burst : Burst} {packet : DtmfTransmitPacket}
    {active : Option ActiveEvent} (stage : Stage config (burst.add packet) active) :
    packetsLeft config (burst.add packet) < packetsLeft config burst := by
  obtain ⟨progress, ends, scheduled⟩ := stage.exists_scheduled
  have few := scheduled.disciplined.bounded
  have repeated := scheduled.disciplined.repetitions
  have sizes : (burst.add packet).progress.length + (burst.add packet).ends.length =
        burst.progress.length + burst.ends.length + 1 ∧
      burst.progress.length ≤ (burst.add packet).progress.length ∧
      burst.ends.length ≤ (burst.add packet).ends.length := by
    cases isEnd : packet.event.isEnd <;>
      simp [Burst.add, Burst.progress, Burst.ends, isEnd] <;> omega
  rw [packetsLeft, packetsLeft]
  omega

/-- An idle sender has no packets. -/
theorem after_of_idle (idle : sender.active = none) (count : Nat) :
    Run.after step sender (replicate count .nextPacket) = sender := by
  have same : (step sender .nextPacket).1 = sender := by
    simp [step, nextPacket, idle]
  induction count with
  | zero => rfl
  | succ count ih =>
    rw [replicate_succ, Run.after_cons, same, ih]

/-- Calling for packets ends the event. -/
theorem idle_after_packets
    (count : Nat) {burst : Burst} (stage : Stage sender.config burst sender.active)
    (enough : packetsLeft sender.config burst ≤ count) :
    (Run.after step sender (replicate count .nextPacket)).active = none := by
  induction count generalizing sender burst with
  | zero =>
    obtain ⟨progress, ends, scheduled⟩ := stage.exists_scheduled
    have few := scheduled.disciplined.bounded
    rw [packetsLeft] at enough
    omega
  | succ count ih =>
    cases active : sender.active with
    | none => rw [after_of_idle active, active]
    | some event =>
      obtain ⟨next, packet, returned, same, following⟩ := nextPacket_stage stage active
      have less := following.packetsLeft_add
      have after : (step sender .nextPacket).1 = next := by rw [step, returned]
      rw [replicate_succ, Run.after_cons, after]
      rw [← same] at following less enough
      exact ih following (by omega)

/-- The packets of an event are disciplined in every run: one timestamp, the marker on
the first packet, growing durations up to the first end packet, and equal end packets
of which the last is the one after which the sender is idle.  The counter of end
packets is above zero before it goes down, and every event ends. -/
theorem dtmfSender_discipline (config : DtmfSenderConfig) (calls : List Call) :
    let sender := Run.after step (new config) calls
    (∀ burst, latest (Run.history step (new config) calls) = some burst →
      Disciplined config burst ∧ (burst.cancelled = false → (sender.active = none ↔
            burst.ends.length = config.endRepetitions.toNat))) ∧
      (latest (Run.history step (new config) calls) = none → sender.active = none) ∧
      (∀ event remaining finalDurationReady, sender.active = some event →
        event.phase = .ending remaining finalDurationReady → 0 < remaining.toNat) ∧
      (∀ event, sender.active = some event →
        ∃ next packet, sender.nextPacket = (next, .ok (some packet))) ∧
      (Run.after step sender (replicate
        (progressBound config + config.endRepetitions.toNat) .nextPacket)).active = none := by
  intro sender
  have follows : Follows config (latest (Run.history step (new config) calls)) sender :=
    follows_after config calls
  -- An event in progress was seen and is at its stage.
  have seen : ∀ event, sender.active = some event →
      ∃ burst, Stage sender.config burst sender.active := by
    intro event active
    cases last : latest (Run.history step (new config) calls) with
    | none =>
      rw [follows.idle last] at active
      cases active
    | some burst => exact ⟨burst, follows.config_eq.symm ▸ follows.stage burst last⟩
  refine ⟨?_, follows.idle, ?_, ?_, ?_⟩
  · intro burst last
    have stage := follows.stage burst last
    obtain ⟨progress, ends, scheduled⟩ := stage.exists_scheduled
    exact ⟨scheduled.disciplined, stage.idle_iff⟩
  · intro event remaining finalDurationReady active ending
    obtain ⟨burst, stage⟩ := seen event active
    rw [active] at stage
    cases stage with
    | growing => cases ending
    | asked =>
      cases ending
      exact sender.config.endRepetitions_pos
    | closing progress ends remaining scheduled left more =>
      cases ending
      exact more
  · intro event active
    obtain ⟨burst, stage⟩ := seen event active
    obtain ⟨next, packet, returned, -, -⟩ := nextPacket_stage stage active
    exact ⟨next, packet, returned⟩
  · cases active : sender.active with
    | none => rw [after_of_idle active, active]
    | some event =>
      obtain ⟨burst, stage⟩ := seen event active
      refine idle_after_packets _ stage ?_
      rw [packetsLeft, follows.config_eq]
      omega

/-- An event that grows to the maximum: two progress packets and three end packets. -/
theorem dtmfSender_discipline_maximum :
    let config : DtmfSenderConfig :=
      ⟨80, 200, 10, 3, by decide, by decide, by decide, by decide, by decide⟩
    let calls := .start .flash 7 :: replicate 5 .nextPacket
    ∃ burst, latest (Run.history step (new config) calls) = some burst ∧
      Disciplined config burst ∧ burst.progress.length = 2 ∧ burst.ends.length = 3 ∧
      (Run.after step (new config) calls).active = none := by
  intro config calls
  obtain ⟨disciplined, -⟩ := dtmfSender_discipline config calls
  have seen : latest (Run.history step (new config) calls) =
      some ⟨.flash, 7, schedule config .flash 7 2 3, false, false⟩ := by decide
  have sizes : Burst.progress ⟨.flash, 7, schedule config .flash 7 2 3, false, false⟩ =
        (schedule config .flash 7 2 3).take 2 ∧
      Burst.ends ⟨.flash, 7, schedule config .flash 7 2 3, false, false⟩ =
        (schedule config .flash 7 2 3).drop 2 := by decide
  obtain ⟨ordered, idle⟩ := disciplined _ seen
  exact ⟨_, seen, ordered, by rw [sizes.1]; decide, by rw [sizes.2]; decide,
    (idle rfl).mpr (by rw [sizes.2]; decide)⟩

end DtmfSender
end Rtp
end LiveAISIP
