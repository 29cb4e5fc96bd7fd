import LiveAISIP.Library.Effect
import LiveAISIP.Rtp.Dtmf.Event
import LiveAISIP.Rtp.Statistics

/-!
# Telephone-event reception

The receiver of `rtp/dtmf/receiver.rs`.  It keeps the event in progress and the
last completed one, and tells both from an incoming packet by the timestamp.
-/

namespace LiveAISIP
namespace Rtp

/-- Policy of event reception. -/
structure DtmfReceiverConfig where
  requireMarkerOnStart : Bool

/-- The policy that accepts peers without the marker. -/
def DtmfReceiverConfig.interoperable : DtmfReceiverConfig := ⟨false⟩

/-- What a packet meant to the receiver. -/
inductive DtmfReceiveUpdate
  | started (code : TelephoneEventCode) (startTimestamp : UInt32) (volume : UInt8)
      (duration : UInt16)
  | continued (code : TelephoneEventCode) (duration : UInt16)
  | ended (code : TelephoneEventCode) (duration : UInt16) (recoveredWithoutStart : Bool)
  | replaced (previous current : TelephoneEventCode) (duration : UInt16)
  | duplicate
  | stale

/-- Failure of event reception. -/
inductive DtmfReceiveError
  | missingStartMarker
  | conflictingCode (existing received : TelephoneEventCode)
  | durationRegressed (previous received : UInt16)

/-- An event as far as it was observed. -/
structure EventState where
  code : TelephoneEventCode
  startTimestamp : UInt32
  volume : UInt8
  duration : UInt16

/-- The receiver of telephone events. -/
structure DtmfReceiver where
  config : DtmfReceiverConfig
  active : Option EventState
  completed : Option EventState
  packets : Nat
  duplicates : Nat
  stale : Nat
  completedEvents : Nat
  interruptedEvents : Nat

namespace DtmfReceiver

/-- An empty receiver. -/
def new (config : DtmfReceiverConfig) : DtmfReceiver := ⟨config, none, none, 0, 0, 0, 0, 0⟩

/-- The event that a packet describes. -/
def stateOf (rtpTimestamp : UInt32) (event : TelephoneEvent) : EventState :=
  ⟨event.code, rtpTimestamp, event.volume, event.duration⟩

/-- A packet of the event in progress. -/
def observeActive (active : EventState) (event : TelephoneEvent) :
    Effect DtmfReceiver DtmfReceiveError DtmfReceiveUpdate := fun receiver =>
  if active.code ≠ event.code then
    (receiver, .error (.conflictingCode active.code event.code))
  else if event.duration < active.duration then
    (receiver, .error (.durationRegressed active.duration event.duration))
  else if event.duration = active.duration ∧ event.isEnd = false then
    ({ receiver with duplicates := saturatingAdd receiver.duplicates 1 }, .ok .duplicate)
  else
    let updated := { active with volume := event.volume, duration := event.duration }
    if event.isEnd then
      ({ receiver with
          active := none
          completed := some updated
          completedEvents := saturatingAdd receiver.completedEvents 1 },
        .ok (.ended updated.code updated.duration false))
    else
      ({ receiver with active := some updated }, .ok (.continued updated.code updated.duration))

/-- The first packet of an event when none is in progress. -/
def startOrRecover (rtpTimestamp : UInt32) (event : TelephoneEvent)
    (receiver : DtmfReceiver) : DtmfReceiver × DtmfReceiveUpdate :=
  let state := stateOf rtpTimestamp event
  if event.isEnd then
    ({ receiver with
        completed := some state
        completedEvents := saturatingAdd receiver.completedEvents 1 },
      .ended state.code state.duration true)
  else
    ({ receiver with active := some state },
      .started state.code state.startTimestamp state.volume state.duration)

/-- The first packet of an event while another is in progress. -/
def replaceActive (active : EventState) (rtpTimestamp : UInt32) (event : TelephoneEvent)
    (receiver : DtmfReceiver) : DtmfReceiver × DtmfReceiveUpdate :=
  let state := stateOf rtpTimestamp event
  let interrupted := { receiver with
    interruptedEvents := saturatingAdd receiver.interruptedEvents 1 }
  (if event.isEnd then
      { interrupted with
        active := none
        completed := some state
        completedEvents := saturatingAdd receiver.completedEvents 1 }
    else { interrupted with active := some state },
    .replaced active.code event.code event.duration)

/-- Whether the policy lets a packet start an event. -/
def validateNewStart (receiver : DtmfReceiver) (marker : Bool) : Except DtmfReceiveError Unit :=
  if receiver.config.requireMarkerOnStart && !marker then .error .missingStartMarker
  else .ok ()

/-- Observe one parsed packet. -/
def observe (rtpTimestamp : UInt32) (marker : Bool) (event : TelephoneEvent) :
    Effect DtmfReceiver DtmfReceiveError DtmfReceiveUpdate := fun receiver =>
  let receiver := { receiver with packets := saturatingAdd receiver.packets 1 }
  match receiver.active with
  | some active =>
    if active.startTimestamp = rtpTimestamp then receiver.observeActive active event
    else if signedTimestampDistance rtpTimestamp active.startTimestamp ≤ 0 then
      ({ receiver with stale := saturatingAdd receiver.stale 1 }, .ok .stale)
    else
      match receiver.validateNewStart marker with
      | .error error => (receiver, .error error)
      | .ok () =>
        let (next, update) := receiver.replaceActive active rtpTimestamp event
        (next, .ok update)
  | none =>
    let startEvent : DtmfReceiver × Except DtmfReceiveError DtmfReceiveUpdate :=
      match receiver.validateNewStart marker with
      | .error error => (receiver, .error error)
      | .ok () =>
        let (next, update) := receiver.startOrRecover rtpTimestamp event
        (next, .ok update)
    match receiver.completed with
    | some completed =>
      if completed.startTimestamp = rtpTimestamp then
        if completed.code ≠ event.code then
          (receiver, .error (.conflictingCode completed.code event.code))
        else
          ({ receiver with duplicates := saturatingAdd receiver.duplicates 1 }, .ok .duplicate)
      else if signedTimestampDistance rtpTimestamp completed.startTimestamp ≤ 0 then
        ({ receiver with stale := saturatingAdd receiver.stale 1 }, .ok .stale)
      else startEvent
    | none => startEvent

end DtmfReceiver
end Rtp
end LiveAISIP
