import LiveAISIP.Library.Run
import LiveAISIP.Sip.Types

/-!
# Acknowledging reliable provisional responses

The client side of `sip/dialog/reliable.rs`: one tracker orders the reliable provisional
responses of all requests of a dialog by their `RSeq` numbers.
-/

namespace LiveAISIP
namespace Dialog

open Sip
open List

/-- Reliable provisional sequencing failure. -/
inductive ReliableError
  | zeroSequence
  | outOfOrder
  | conflictingRetransmission
  deriving DecidableEq

/-- A reliable provisional response: its `RSeq` and the request it answers. -/
structure Provisional where
  rseq : UInt32
  cseq : UInt32
  method : Method
  deriving DecidableEq

/-- PRACK work for one reliable provisional response. -/
inductive PrackDisposition
  | sendPrack (response : Provisional)
  | replayPrack (response : Provisional)
  deriving DecidableEq

/-- Client-side reliable-provisional ordering. -/
structure PrackTracker where
  last : Option Provisional

namespace PrackTracker

variable {tracker : PrackTracker} {response : Provisional}

/-- Empty state. -/
def new : PrackTracker := ⟨none⟩

/-- Observe `RSeq` and the original `CSeq` and method. -/
def observe (tracker : PrackTracker) (response : Provisional) :
    PrackTracker × Except ReliableError PrackDisposition :=
  if response.rseq = 0 ∨ response.cseq = 0 then
    (tracker, .error .zeroSequence)
  else
    match tracker.last with
    | none => (⟨some response⟩, .ok (.sendPrack response))
    | some previous =>
      if response.rseq < previous.rseq then
        (tracker, .error .outOfOrder)
      else if response.rseq = previous.rseq then
        if response.cseq ≠ previous.cseq ∨ response.method ≠ previous.method then
          (tracker, .error .conflictingRetransmission)
        else
          (tracker, .ok (.replayPrack response))
      else
        (⟨some response⟩, .ok (.sendPrack response))

/-- The tracker after some responses. -/
def trackerAfter (observed : List Provisional) : PrackTracker := Run.after observe new observed

/-- What the next response is answered with. -/
def answer (earlier : List Provisional) (response : Provisional) :
    Except ReliableError PrackDisposition :=
  Run.output observe new earlier response

/-- The responses that a run acknowledged for the first time, in order. -/
def acknowledged (observed : List Provisional) : List Provisional :=
  (Run.outputs observe new observed).filterMap fun
    | .ok (.sendPrack response) => some response
    | _ => none

/-- Responses of one request. -/
def SameRequest (first second : Provisional) : Prop :=
  first.cseq = second.cseq ∧ first.method = second.method

instance (first second : Provisional) : Decidable (SameRequest first second) :=
  inferInstanceAs (Decidable (_ ∧ _))

/-- The responses of the request of another response. -/
def sameRequest (responses : List Provisional) (response : Provisional) : List Provisional :=
  responses.filter fun other => SameRequest other response

/-- Both numbers are there. -/
def Numbered (response : Provisional) : Prop := response.rseq ≠ 0 ∧ response.cseq ≠ 0

/-- A response after the last acknowledged one. -/
def Ahead (tracker : PrackTracker) (response : Provisional) : Prop :=
  ∀ previous, tracker.last = some previous → previous.rseq < response.rseq

theorem observe_of_ahead (numbered : Numbered response)
    (ahead : tracker.Ahead response) :
    tracker.observe response = (⟨some response⟩, .ok (.sendPrack response)) := by
  unfold observe
  rw [if_neg (by rintro (zero | zero) <;> simp_all [Numbered])]
  rcases known : tracker.last with _ | previous
  · rfl
  · have above := ahead previous known
    rw [UInt32.lt_iff_toNat_lt] at above
    dsimp only
    rw [if_neg, if_neg]
    · intro same
      rw [same] at above
      omega
    · rw [UInt32.lt_iff_toNat_lt]
      omega

theorem observe_of_last (numbered : Numbered response)
    (last : tracker.last = some response) :
    tracker.observe response = (tracker, .ok (.replayPrack response)) := by
  unfold observe
  rw [if_neg (by rintro (zero | zero) <;> simp_all [Numbered]), last]
  simp [UInt32.lt_irrefl]

/-- Everything else is rejected. -/
theorem observe_of_neither
    (neither : ¬(Numbered response ∧ (tracker.Ahead response ∨ tracker.last = some response))) :
    ∃ error, tracker.observe response = (tracker, .error error) := by
  unfold observe
  by_cases zero : response.rseq = 0 ∨ response.cseq = 0
  · rw [if_pos zero]
    exact ⟨.zeroSequence, rfl⟩
  rw [if_neg zero]
  have numbered : Numbered response := not_or.mp zero
  rcases known : tracker.last with _ | previous
  · exfalso
    apply neither
    refine ⟨numbered, .inl ?_⟩
    intro previous stands
    cases known.symm.trans stands
  · dsimp only
    by_cases below : response.rseq < previous.rseq
    · rw [if_pos below]
      exact ⟨.outOfOrder, rfl⟩
    rw [if_neg below]
    by_cases equal : response.rseq = previous.rseq
    · rw [if_pos equal]
      by_cases other : response.cseq ≠ previous.cseq ∨ response.method ≠ previous.method
      · rw [if_pos other]
        exact ⟨.conflictingRetransmission, rfl⟩
      · obtain ⟨cseq, method⟩ : response.cseq = previous.cseq ∧
            response.method = previous.method := by
          simpa using other
        have same : previous = response := by
          cases previous
          cases response
          simp_all
        exact absurd ⟨numbered, .inr (same ▸ known)⟩ neither
    · exfalso
      apply neither
      refine ⟨numbered, .inl ?_⟩
      intro other stands
      cases known.symm.trans stands
      rw [UInt32.lt_iff_toNat_lt] at below ⊢
      have different : response.rseq.toNat ≠ previous.rseq.toNat := by
        intro same
        exact equal (UInt32.toNat_inj.mp same)
      omega

/-- A new acknowledgement is that of a response ahead of all others. -/
theorem observe_eq_sendPrack_iff (tracker : PrackTracker) (response other : Provisional) :
    (tracker.observe response).2 = .ok (.sendPrack other) ↔
      other = response ∧ Numbered response ∧ tracker.Ahead response := by
  by_cases sent : Numbered response ∧ tracker.Ahead response
  · rw [observe_of_ahead sent.1 sent.2]
    simp [sent, eq_comm]
  · have notSent : ¬(other = response ∧ Numbered response ∧ tracker.Ahead response) :=
      fun all => sent all.2
    by_cases replayed : Numbered response ∧ tracker.last = some response
    · rw [observe_of_last replayed.1 replayed.2]
      simp [notSent]
    · obtain ⟨error, rejected⟩ : ∃ error, tracker.observe response = (tracker, .error error) := by
        apply observe_of_neither
        rintro ⟨numbered, ahead | last⟩
        · exact sent ⟨numbered, ahead⟩
        · exact replayed ⟨numbered, last⟩
      rw [rejected]
      simp [notSent]

theorem acknowledged_concat (earlier : List Provisional) (response : Provisional) :
    (acknowledged (earlier ++ [response]) = acknowledged earlier ++ [response] ∧
        Numbered response ∧ (trackerAfter earlier).Ahead response ∧
        trackerAfter (earlier ++ [response]) = ⟨some response⟩) ∨
      acknowledged (earlier ++ [response]) = acknowledged earlier ∧
        ¬(Numbered response ∧ (trackerAfter earlier).Ahead response) ∧
        trackerAfter (earlier ++ [response]) = trackerAfter earlier := by
  have after : trackerAfter (earlier ++ [response]) =
      ((trackerAfter earlier).observe response).1 := by
    rw [trackerAfter, Run.after_append]
    rfl
  have result : Run.output observe new earlier response =
      ((trackerAfter earlier).observe response).2 := rfl
  rw [acknowledged, Run.outputs_concat, filterMap_append, result, after]
  by_cases sent : Numbered response ∧ (trackerAfter earlier).Ahead response
  · left
    rw [observe_of_ahead sent.1 sent.2]
    exact ⟨rfl, sent.1, sent.2, rfl⟩
  · right
    by_cases replayed : Numbered response ∧ (trackerAfter earlier).last = some response
    · rw [observe_of_last replayed.1 replayed.2]
      exact ⟨append_nil _, sent, rfl⟩
    · obtain ⟨error, rejected⟩ : ∃ error,
          (trackerAfter earlier).observe response = (trackerAfter earlier, .error error) := by
        apply observe_of_neither
        rintro ⟨numbered, ahead | last⟩
        · exact sent ⟨numbered, ahead⟩
        · exact replayed ⟨numbered, last⟩
      rw [rejected]
      exact ⟨append_nil _, sent, rfl⟩

/-- The tracker keeps the last acknowledged response, and the acknowledged `RSeq` numbers
increase. -/
theorem trackerAfter_spec (observed : List Provisional) :
    (trackerAfter observed).last = (acknowledged observed).getLast? ∧
      (acknowledged observed).Pairwise fun first second => first.rseq < second.rseq := by
  induction observed using reverseRecOn with
  | nil => exact ⟨rfl, .nil⟩
  | append_singleton earlier response ih =>
    obtain ⟨last, increasing⟩ := ih
    rcases acknowledged_concat earlier response with
      ⟨more, -, ahead, after⟩ | ⟨same, -, after⟩
    · rw [more, after]
      refine ⟨by simp, ?_⟩
      rw [pairwise_append]
      refine ⟨increasing, pairwise_singleton _ _, ?_⟩
      intro old member new newMember
      rw [mem_singleton] at newMember
      subst newMember
      obtain ⟨init, previous, split⟩ : ∃ init previous,
          acknowledged earlier = init ++ [previous] := by
        rcases eq_nil_or_concat (acknowledged earlier) with empty | ⟨init, previous, split⟩
        · rw [empty] at member
          cases member
        · exact ⟨init, previous, by rw [split, concat_eq_append]⟩
      have above : previous.rseq < new.rseq := by
        apply ahead
        rw [last, split]
        simp
      rw [split] at member increasing
      rcases mem_append.mp member with inInit | isPrevious
      · have order := (pairwise_append.mp increasing).2.2 old inInit previous (by simp)
        exact UInt32.lt_trans order above
      · rw [mem_singleton.mp isPrevious]
        exact above
    · rw [same, after]
      exact ⟨last, increasing⟩

/-- Ahead of the last acknowledged response is ahead of all of them. -/
theorem ahead_iff (earlier : List Provisional) (response : Provisional) :
    (trackerAfter earlier).Ahead response ↔
      ∀ prior ∈ acknowledged earlier, prior.rseq < response.rseq := by
  obtain ⟨last, increasing⟩ := trackerAfter_spec earlier
  unfold Ahead
  rw [last]
  rcases eq_nil_or_concat (acknowledged earlier) with empty | ⟨init, previous, split⟩
  · simp [empty]
  · rw [concat_eq_append] at split
    rw [split] at increasing ⊢
    constructor
    · intro ahead prior member
      have above : previous.rseq < response.rseq := ahead previous (by simp)
      rcases mem_append.mp member with inInit | isPrevious
      · exact UInt32.lt_trans
          ((pairwise_append.mp increasing).2.2 prior inInit previous (by simp)) above
      · rw [mem_singleton.mp isPrevious]
        exact above
    · intro all prior stands
      apply all
      rw [getLast?_append, getLast?_singleton] at stands
      cases stands
      simp

/-- What a run of a tracker does with the next response.  One order is kept for all
requests: only a response ahead of all acknowledged ones is acknowledged, the last one is
acknowledged again, and every other is rejected. -/
structure Orders (earlier : List Provisional) (response : Provisional) : Prop where
  acknowledges : answer earlier response = .ok (.sendPrack response) ↔
    Numbered response ∧ ∀ prior ∈ acknowledged earlier, prior.rseq < response.rseq
  replays : answer earlier response = .ok (.replayPrack response) ↔
    Numbered response ∧ (acknowledged earlier).getLast? = some response
  /-- In particular the numbers of one request increase. -/
  increasing : answer earlier response = .ok (.sendPrack response) →
    ∀ prior ∈ sameRequest (acknowledged earlier) response, prior.rseq < response.rseq
  rejects : (∃ error, answer earlier response = .error error) ↔
    ¬(Numbered response ∧ ((∀ prior ∈ acknowledged earlier, prior.rseq < response.rseq) ∨
      (acknowledged earlier).getLast? = some response))

theorem prack_orders (earlier : List Provisional) (response : Provisional) :
    Orders earlier response := by
  have result : answer earlier response = ((trackerAfter earlier).observe response).2 := rfl
  have last := (trackerAfter_spec earlier).1
  have acknowledges : answer earlier response = .ok (.sendPrack response) ↔
      Numbered response ∧ ∀ prior ∈ acknowledged earlier, prior.rseq < response.rseq := by
    rw [result, observe_eq_sendPrack_iff, ahead_iff]
    simp
  have exclusive : (acknowledged earlier).getLast? = some response →
      ¬∀ prior ∈ acknowledged earlier, prior.rseq < response.rseq := by
    intro stands all
    exact UInt32.lt_irrefl _ (all response (mem_of_getLast? stands))
  refine ⟨acknowledges, ?_, ?_, ?_⟩
  · constructor
    · intro replayed
      by_contra neither
      by_cases sent : Numbered response ∧ ∀ prior ∈ acknowledged earlier, prior.rseq < response.rseq
      · rw [acknowledges.mpr sent] at replayed
        cases replayed
      · have unsettled : ¬(Numbered response ∧ ((trackerAfter earlier).Ahead response ∨
            (trackerAfter earlier).last = some response)) := by
          rw [ahead_iff, last]
          rintro ⟨numbered, ahead | same⟩
          · exact sent ⟨numbered, ahead⟩
          · exact neither ⟨numbered, same⟩
        obtain ⟨error, rejected⟩ := observe_of_neither unsettled
        rw [result, rejected] at replayed
        cases replayed
    · rintro ⟨numbered, stands⟩
      rw [result, observe_of_last numbered (last.trans stands)]
  · intro sent prior member
    exact (acknowledges.mp sent).2 prior (mem_of_mem_filter member)
  · constructor
    · rintro ⟨error, rejected⟩ ⟨numbered, ahead | same⟩
      · rw [acknowledges.mpr ⟨numbered, ahead⟩] at rejected
        cases rejected
      · rw [result, observe_of_last numbered (last.trans same)] at rejected
        cases rejected
    · intro neither
      rw [← ahead_iff, ← last] at neither
      obtain ⟨error, rejected⟩ := observe_of_neither neither
      exact ⟨error, by rw [result, rejected]⟩

/-- The order of RFC 3262 for one request: the next number, or the first one. -/
def FollowsRequest (earlier : List Provisional) (response : Provisional) : Prop :=
  answer earlier response = .ok (.sendPrack response) →
    sameRequest (acknowledged earlier) response = [] ∨
      ∃ prior, (sameRequest (acknowledged earlier) response).getLast? = some prior ∧
        response.rseq.toNat = prior.rseq.toNat + 1

/-- A request without an acknowledged response is not held up by another request. -/
def IndependentOfOthers (earlier : List Provisional) (response : Provisional) : Prop :=
  Numbered response → sameRequest (acknowledged earlier) response = [] →
    answer earlier response = .ok (.sendPrack response)

/-- A gap in the numbers of one request is acknowledged, and a second request that begins
again at one is rejected. -/
theorem not_followsRequest_gap :
    ¬FollowsRequest [⟨1, 7, .invite⟩] ⟨3, 7, .invite⟩ ∧
      ¬IndependentOfOthers [⟨5, 7, .invite⟩] ⟨1, 8, .invite⟩ := by
  constructor
  · intro follows
    rcases follows (by decide) with none_ | ⟨prior, stands, next⟩
    · exact absurd none_ (by decide)
    · have : prior = ⟨1, 7, .invite⟩ := by
        have last : (sameRequest (acknowledged [⟨1, 7, .invite⟩]) ⟨3, 7, .invite⟩).getLast? =
            some ⟨1, 7, .invite⟩ := by decide
        exact (Option.some.inj (last.symm.trans stands)).symm
      rw [this] at next
      exact absurd next (by decide)
  · intro independent
    exact absurd (independent ⟨by decide, by decide⟩ (by decide)) (by decide)

end PrackTracker
end Dialog
end LiveAISIP
