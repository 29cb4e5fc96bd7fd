import LiveAISIP.Sip.Challenge

/-!
# Selection of a challenge

`AuthContext::install` of `sip/auth/context.rs` scores challenges by their algorithm, and
takes the last of the best.  The Digest calculation of `sip/auth/digest.rs` also needs a
realm, a nonce, a known quality of protection and a plain username.
-/

namespace LiveAISIP
namespace Sip

open Outcome
open DigestAuthorization List

variable {challenges : List AuthChallenge}

namespace AuthChallenge

/-- The Digest calculation accepts a challenge. -/
structure Usable (challenge : AuthChallenge) : Prop where
  digest : eqIgnoreAsciiCase challenge.scheme "Digest" = true
  realm : (challenge.parameter "realm").isSome = true
  nonce : (challenge.parameter "nonce").isSome = true
  algorithm : (parseAlgorithm (challenge.parameter "algorithm")).isOk = true
  qop : (parseQop (challenge.parameter "qop")).isOk = true
  plain : challenge.isTrue "userhash" = false

/-- The selection considers a challenge. -/
def Supported (challenge : AuthChallenge) : Prop :=
  eqIgnoreAsciiCase challenge.scheme "Digest" = true ∧ challenge.score ≠ 0

instance (challenge : AuthChallenge) : Decidable challenge.Supported :=
  inferInstanceAs (Decidable (_ ∧ _))

/-- The two modules know the same algorithms. -/
theorem isOk_parseAlgorithm_iff (challenge : AuthChallenge) :
    (parseAlgorithm (challenge.parameter "algorithm")).isOk = true ↔ challenge.score ≠ 0 := by
  rw [score]
  cases challenge.parameter "algorithm" with
  | none => decide +kernel
  | some value =>
    rw [parseAlgorithm]
    dsimp only [Option.getD_some]
    split_ifs <;> simp [Except.isOk, Except.toBool]

theorem Usable.supported {challenge : AuthChallenge} (usable : challenge.Usable) :
    challenge.Supported :=
  ⟨usable.digest, (isOk_parseAlgorithm_iff challenge).mp usable.algorithm⟩

end AuthChallenge

/-- The inputs of an authorization are valid. -/
structure ValidInputs (uri : Bytes) (clientNonce : String) : Prop where
  uri : validateComponent uri .invalidUri = .ok ()
  clientNonce : validateComponent (wireBytes clientNonce) .missingClientNonce = .ok ()

/-- With valid inputs and a count the calculation succeeds just for usable challenges. -/
theorem exists_calculate_iff
    (hash : DigestAlgorithm → Bytes → Bytes) (challenge : AuthChallenge)
    (credentials : DigestCredentials) (request : DigestRequest)
    (valid : ValidInputs request.uri request.clientNonce) (counted : request.nonceCount ≠ 0) :
    (∃ authorization, calculate hash challenge credentials request =
      .ok authorization) ↔ challenge.Usable := by
  constructor
  · rintro ⟨authorization, calculated⟩
    rw [calculate] at calculated
    split_ifs at calculated with scheme
    cases realm : challenge.parameter "realm" with
    | none => simp [realm] at calculated
    | some realmValue =>
      cases nonce : challenge.parameter "nonce" with
      | none => simp [realm, nonce] at calculated
      | some nonceValue =>
        simp only [realm, nonce, bind_eq_ok] at calculated
        obtain ⟨_, plain, _, -, _, -, algorithm, known, qop, offered, -⟩ := calculated
        have plain := ensure_eq_ok.mp plain
        refine ⟨scheme, ?_, ?_, ?_, ?_, ?_⟩
        · rw [realm]
          rfl
        · rw [nonce]
          rfl
        · rw [known]
          rfl
        · rw [offered]
          rfl
        · simpa using plain
  · intro usable
    obtain ⟨realm, realmEq⟩ := Option.isSome_iff_exists.mp usable.realm
    obtain ⟨nonce, nonceEq⟩ := Option.isSome_iff_exists.mp usable.nonce
    obtain ⟨algorithm, known⟩ := exists_ok usable.algorithm
    obtain ⟨qop, offered⟩ := exists_ok usable.qop
    have plain : ¬challenge.isTrue "userhash" = true := by
      rw [usable.plain]
      exact Bool.false_ne_true
    rw [calculate, if_neg (not_not.mpr usable.digest), realmEq, nonceEq]
    simp only [ensure_of plain, valid.uri, valid.clientNonce, known, offered,
      ensure_of (show qop = none ∨ request.nonceCount ≠ 0 from .inr counted), ok_bind]
    exact ⟨_, rfl⟩

/-- A challenge is the last of the strongest that are supported. -/
def LastStrongest (chosen : AuthChallenge) (challenges : List AuthChallenge) : Prop :=
  ∃ before after, challenges = before ++ chosen :: after ∧
    (∀ challenge ∈ before, challenge.Supported → challenge.score ≤ chosen.score) ∧
    ∀ challenge ∈ after, challenge.Supported → challenge.score < chosen.score

theorem LastStrongest.score_le
    {chosen : AuthChallenge} (last : LastStrongest chosen challenges) {challenge : AuthChallenge}
    (member : challenge ∈ challenges) (supported : challenge.Supported) :
    challenge.score ≤ chosen.score := by
  obtain ⟨before, after, rfl, earlier, later⟩ := last
  rw [mem_append, mem_cons] at member
  obtain member | rfl | member := member
  · exact earlier challenge member supported
  · exact le_refl _
  · exact (later challenge member supported).le

/-- What one more challenge does to the selection. -/
theorem strongestChallenge_concat (challenges : List AuthChallenge) (last : AuthChallenge) :
    strongestChallenge (challenges ++ [last]) =
      if last.Supported then
        match strongestChallenge challenges with
        | none => some last
        | some best => if best.score ≤ last.score then some last else some best
      else strongestChallenge challenges := by
  rw [strongestChallenge, strongestChallenge, filter_append, foldl_append]
  by_cases supported : last.Supported
  · have kept : (eqIgnoreAsciiCase last.scheme "Digest" && last.score != 0) = true := by
      simpa [AuthChallenge.Supported] using supported
    simp only [if_pos supported, filter_cons, kept, if_true]
    rfl
  · have dropped : ¬(eqIgnoreAsciiCase last.scheme "Digest" && last.score != 0) = true := by
      simpa [AuthChallenge.Supported] using supported
    simp only [if_neg supported, filter_cons, dropped]
    rfl

/-- The selection takes the last of the strongest, and nothing where none is supported. -/
theorem strongestChallenge_spec (challenges : List AuthChallenge) :
    match strongestChallenge challenges with
    | none => ∀ challenge ∈ challenges, ¬challenge.Supported
    | some chosen => chosen.Supported ∧ LastStrongest chosen challenges := by
  induction challenges using reverseRecOn with
  | nil => exact fun challenge member => nomatch member
  | append_singleton challenges last ih =>
    rw [strongestChallenge_concat]
    by_cases supported : last.Supported
    · rw [if_pos supported]
      cases strongest : strongestChallenge challenges with
      | none =>
        rw [strongest] at ih
        refine ⟨supported, challenges, [], rfl, fun challenge member known => ?_,
          fun challenge member => nomatch member⟩
        exact absurd known (ih challenge member)
      | some best =>
        rw [strongest] at ih
        obtain ⟨known, before, after, rfl, earlier, later⟩ := ih
        have bounded : LastStrongest best (before ++ best :: after) :=
          ⟨before, after, rfl, earlier, later⟩
        dsimp only
        split_ifs with atLeast
        · refine ⟨supported, _, [], rfl, fun challenge member knows => ?_,
            fun challenge member => nomatch member⟩
          exact (bounded.score_le member knows).trans atLeast
        · refine ⟨known, before, after ++ [last], by simp, earlier,
            fun challenge member knows => ?_⟩
          rw [mem_append, mem_singleton] at member
          obtain member | rfl := member
          · exact later challenge member knows
          · exact Nat.not_le.mp atLeast
    · rw [if_neg supported]
      cases strongest : strongestChallenge challenges with
      | none =>
        rw [strongest] at ih
        intro challenge member
        rw [mem_append, mem_singleton] at member
        obtain member | rfl := member
        · exact ih challenge member
        · exact supported
      | some best =>
        rw [strongest] at ih
        obtain ⟨known, before, after, rfl, earlier, later⟩ := ih
        refine ⟨known, before, after ++ [last], by simp, earlier,
          fun challenge member knows => ?_⟩
        rw [mem_append, mem_singleton] at member
        obtain member | rfl := member
        · exact later challenge member knows
        · exact absurd knows supported

/-- With a supported challenge there is one last of the strongest, the selected one. -/
theorem strongestChallenge_of_last {chosen : AuthChallenge}
    (supported : chosen.Supported) (last : LastStrongest chosen challenges) :
    strongestChallenge challenges = some chosen := by
  obtain ⟨before, after, rfl, earlier, later⟩ := last
  induction after using reverseRecOn with
  | nil =>
    have spec := strongestChallenge_spec before
    rw [strongestChallenge_concat, if_pos supported]
    cases strongest : strongestChallenge before with
    | none => rfl
    | some best =>
      rw [strongest] at spec
      obtain ⟨known, front, back, rfl, -⟩ := spec
      exact if_pos (earlier best (by simp) known)
  | append_singleton after next ih =>
    have inside : ∀ challenge ∈ after, challenge.Supported → challenge.score < chosen.score :=
      fun challenge member => later challenge (mem_append_left _ member)
    rw [← cons_append, ← append_assoc, strongestChallenge_concat, ih inside]
    split_ifs with known
    · exact if_neg (Nat.not_le.mpr (later next (by simp) known))
    · rfl

/-- On an empty scope the installation succeeds, and the following authorization too, with
a usable challenge of the strongest algorithm. -/
def SelectsStrongest
    (hash : DigestAlgorithm → Bytes → Bytes) (challenges : List AuthChallenge) : Prop :=
  ∀ (context : AuthContext) (scope : AuthScope), context.slot scope = none →
    ∃ next chosen, context.install scope challenges = .ok next ∧
      chosen ∈ challenges ∧ chosen.Usable ∧
      (∀ other ∈ challenges, other.Usable → other.score ≤ chosen.score) ∧
      ∀ credentials method uri entityBody clientNonce, ValidInputs uri clientNonce →
        ∃ after authorization,
          next.authorize hash scope credentials method uri entityBody clientNonce =
              .ok (after, authorization) ∧
            calculate hash chosen credentials
              ⟨method, uri, entityBody, 1, clientNonce⟩ = .ok authorization

namespace AuthContext

/-- An empty scope takes the selected challenge, which has a nonce. -/
theorem install_empty
    {context : AuthContext} {scope : AuthScope} {challenges : List AuthChallenge}
    {chosen : AuthChallenge} {nonce : String} (empty : context.slot scope = none)
    (short : challenges.length ≤ maxAuthChallenges)
    (strongest : strongestChallenge challenges = some chosen)
    (named : chosen.parameter "nonce" = some nonce) :
    context.install scope challenges = .ok (context.setSlot (some ⟨chosen, 0, 0⟩) scope) := by
  have nonempty : challenges ≠ [] := by
    rintro rfl
    cases strongest
  rw [install, ensure_of ⟨nonempty, short⟩, strongest]
  simp only [ok_bind, named, empty, recoveriesAfter]
  rfl

/-- A fresh challenge is authorized just by its calculation. -/
theorem authorize_fresh
    {hash : DigestAlgorithm → Bytes → Bytes} {context after : AuthContext}
    {scope : AuthScope} {chosen : AuthChallenge} {credentials : DigestCredentials}
    {method : Method} {uri entityBody : Bytes} {clientNonce : String} {recoveries : Nat}
    {authorization : DigestAuthorization} :
    (context.setSlot (some ⟨chosen, 0, recoveries⟩) scope).authorize hash scope credentials
        method uri entityBody clientNonce = .ok (after, authorization) ↔
      after = context.setSlot (some ⟨chosen, 1, recoveries⟩) scope ∧
        calculate hash chosen credentials
          ⟨method, uri, entityBody, 1, clientNonce⟩ = .ok authorization := by
  unfold authorize
  simp only [slot_setSlot_self, Nat.zero_add, ensure_of (show 1 < 2 ^ 32 by decide), ok_bind]
  cases calculated : calculate hash chosen credentials
      ⟨method, uri, entityBody, 1, clientNonce⟩ with
  | error error =>
    refine iff_of_false (fun same => by cases same) ?_
    rintro ⟨-, same⟩
    cases same
  | ok digest =>
    constructor
    · intro same
      cases same
      refine ⟨?_, rfl⟩
      cases scope <;> rfl
    · rintro ⟨rfl, same⟩
      cases same
      cases scope <;> rfl

end AuthContext

/-- The selected challenge must be usable, as it is the one that is authorized. -/
theorem SelectsStrongest.usable
    {hash : DigestAlgorithm → Bytes → Bytes}
    {selected : AuthChallenge} (selects : SelectsStrongest hash challenges)
    (strongest : strongestChallenge challenges = some selected) :
    selected.Usable := by
  obtain ⟨next, chosen, installed, -, -, -, authorizes⟩ := selects .new .server rfl
  obtain ⟨other, nonce, recoveries, same, -, -, -, rfl⟩ := AuthContext.install_eq_ok installed
  obtain rfl : other = selected := Option.some.inj (same.symm.trans strongest)
  have valid : ValidInputs [115] "c" := ⟨by decide, by decide +kernel⟩
  obtain ⟨after, authorization, authorized, -⟩ := authorizes ⟨"u", "p"⟩ .invite [115] [] "c" valid
  have calculated := (AuthContext.authorize_fresh.mp authorized).2
  exact (exists_calculate_iff hash other _ _ valid Nat.one_ne_zero).mp ⟨authorization, calculated⟩

/-- The selection meets its purpose just where the last of the strongest challenges is
usable. -/
theorem selectsStrongest_iff
    (hash : DigestAlgorithm → Bytes → Bytes) {challenges : List AuthChallenge}
    (short : challenges.length ≤ maxAuthChallenges) :
    SelectsStrongest hash challenges ↔
      ∃ chosen, chosen.Usable ∧ LastStrongest chosen challenges := by
  constructor
  · intro selects
    have spec := strongestChallenge_spec challenges
    cases strongest : strongestChallenge challenges with
    | none =>
      obtain ⟨-, chosen, -, member, usable, -⟩ := selects .new .server rfl
      rw [strongest] at spec
      exact absurd usable.supported (spec chosen member)
    | some selected =>
      rw [strongest] at spec
      exact ⟨selected, selects.usable strongest, spec.2⟩
  · rintro ⟨chosen, usable, last⟩ context scope empty
    have strongest := strongestChallenge_of_last usable.supported last
    obtain ⟨nonce, named⟩ := Option.isSome_iff_exists.mp usable.nonce
    refine ⟨_, chosen, AuthContext.install_empty empty short strongest named, ?_, usable,
      fun other member known => last.score_le member known.supported, ?_⟩
    · obtain ⟨before, after, rfl, -⟩ := last
      simp
    · intro credentials method uri entityBody clientNonce valid
      obtain ⟨authorization, calculated⟩ := (exists_calculate_iff hash chosen credentials
          ⟨method, uri, entityBody, 1, clientNonce⟩ valid Nat.one_ne_zero).mpr usable
      exact ⟨_, authorization, AuthContext.authorize_fresh.mpr ⟨rfl, calculated⟩, calculated⟩

/-- A usable challenge of the weakest algorithm. -/
def weakChallenge : AuthChallenge := ⟨"Digest", [⟨"realm", "r", true⟩, ⟨"nonce", "n", true⟩]⟩

/-- A stronger challenge, one of an unknown algorithm, and the weakest one. -/
def mixedChallenges : List AuthChallenge :=
  [⟨"Digest", [⟨"realm", "r", true⟩, ⟨"nonce", "m", true⟩, ⟨"algorithm", "SHA-256", false⟩]⟩,
    ⟨"Digest", [⟨"nonce", "o", true⟩, ⟨"algorithm", "SHA-1", false⟩]⟩, weakChallenge]

theorem selectsStrongest_iff_mixed :
    SelectsStrongest (fun _ _ => []) mixedChallenges ↔
      ∃ chosen, chosen.Usable ∧ LastStrongest chosen mixedChallenges :=
  selectsStrongest_iff _ (by decide)

/-- A challenge of a stronger algorithm without a realm is selected before a usable one. -/
theorem usable_challenge_passed_over :
    weakChallenge.Usable ∧ ¬SelectsStrongest (fun _ _ => [])
        [weakChallenge, ⟨"Digest", [⟨"nonce", "m", true⟩, ⟨"algorithm", "SHA-256", false⟩]⟩] := by
  constructor
  · exact ⟨by decide +kernel, by decide +kernel, by decide +kernel, by decide +kernel,
      by decide +kernel, by decide +kernel⟩
  · intro selects
    have strongest : strongestChallenge [weakChallenge,
        ⟨"Digest", [⟨"nonce", "m", true⟩, ⟨"algorithm", "SHA-256", false⟩]⟩] =
        some ⟨"Digest", [⟨"nonce", "m", true⟩, ⟨"algorithm", "SHA-256", false⟩]⟩ := by
      decide +kernel
    exact absurd (selects.usable strongest).realm (by decide +kernel)

end Sip
end LiveAISIP
