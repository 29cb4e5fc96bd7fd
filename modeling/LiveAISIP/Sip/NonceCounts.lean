import LiveAISIP.Library.Run
import LiveAISIP.Sip.Challenge

/-!
# Nonce counts

Runs of the authentication state of `sip/auth/context.rs`.  The counts of a nonce go up
from one authorization to the next, and start again with each installation.  So a count
comes twice just where a nonce is installed again after it was counted.
-/

namespace LiveAISIP
namespace Sip

open Run

/-- A call on the authentication state. -/
inductive AuthCall
  | install (scope : AuthScope) (challenges : List AuthChallenge)
  | authorize
      (scope : AuthScope)
      (credentials : DigestCredentials)
      (method : Method)
      (uri entityBody : Bytes)
      (clientNonce : String)

/-- The result of a call. -/
inductive AuthOutcome
  | installed (result : Except AuthContextError Unit)
  | authorized (result : Except AuthContextError DigestAuthorization)

namespace AuthContext

variable {context : AuthContext} {scope : AuthScope} {hash : DigestAlgorithm → Bytes → Bytes}

/-- Make one call; a failure changes nothing. -/
def step (hash : DigestAlgorithm → Bytes → Bytes) (context : AuthContext) :
    AuthCall → AuthContext × AuthOutcome
  | .install scope challenges =>
    match context.install scope challenges with
    | .ok next => (next, .installed (.ok ()))
    | .error error => (context, .installed (.error error))
  | .authorize scope credentials method uri entityBody clientNonce =>
    match context.authorize hash scope credentials method uri entityBody clientNonce with
    | .ok (next, authorization) => (next, .authorized (.ok authorization))
    | .error error => (context, .authorized (.error error))

/-- The nonce and the count of a successful authorization of a scope with a quality of
protection. -/
def countOf (scope : AuthScope) : AuthCall × AuthOutcome → Option (String × Nat)
  | (.authorize other _ _ _ _ _, .authorized (.ok authorization)) =>
    if other = scope then authorization.nonceCount.map fun count => (authorization.nonce, count)
    else none
  | _ => none

/-- The nonces and counts of a scope, in order. -/
def nonceCounts (scope : AuthScope) (history : List (AuthCall × AuthOutcome)) :
    List (String × Nat) :=
  history.filterMap (countOf scope)

/-- An installation that is refused for its list, for the nonce in use or for too many
stale nonces. -/
def Refuses (context : AuthContext) (scope : AuthScope) (challenges : List AuthChallenge)
    (selected : AuthChallenge) : Prop :=
  maxAuthChallenges < challenges.length ∨ ∃ previous, context.slot scope = some previous ∧
      ((previous.challenge.parameter "nonce" = selected.parameter "nonce" ∧ ¬selected.isStale) ∨
        (selected.isStale ∧ maxStaleRecoveries ≤ previous.staleRecoveries))

/-- A call does not bring back a nonce that was counted in its scope, unless it is
refused. -/
def BringsNoCountedNonce
    (hash : DigestAlgorithm → Bytes → Bytes) (earlier : List AuthCall) : AuthCall → Prop
  | .install scope challenges =>
    ∀ selected nonce, strongestChallenge challenges = some selected →
      selected.parameter "nonce" = some nonce →
        (∀ count, (nonce, count) ∉ nonceCounts scope (history (step hash) new earlier)) ∨
          Refuses (after (step hash) new earlier) scope challenges selected
  | .authorize _ _ _ _ _ _ => True

/-- What was counted in a scope is counted once, and the nonce in use up to its count. -/
structure Counted
    (scope : AuthScope) (counts : List (String × Nat)) (context : AuthContext) : Prop where
  once : counts.Nodup
  reached : ∀ state nonce count, context.slot scope = some state →
    state.challenge.parameter "nonce" = some nonce → (nonce, count) ∈ counts →
      count ≤ state.nonceCount

/-- A refused installation does not succeed. -/
theorem install_ne_ok_of_refuses
    {next : AuthContext} {challenges : List AuthChallenge}
    {selected : AuthChallenge} (strongest : strongestChallenge challenges = some selected)
    (refuses : Refuses context scope challenges selected) :
    context.install scope challenges ≠ .ok next := by
  intro installed
  obtain ⟨_, nonce, recoveries, same, named, counted, bounded, -⟩ := install_eq_ok installed
  obtain rfl : _ = selected := Option.some.inj (same.symm.trans strongest)
  obtain long | ⟨previous, current, again⟩ := refuses
  · obtain ⟨_, sized, -⟩ := Outcome.bind_eq_ok.mp installed
    have short := (Outcome.ensure_eq_ok.mp sized).2
    omega
  · rw [current] at counted
    rw [named] at again
    simp only [recoveriesAfter] at counted
    obtain ⟨repeated, fresh⟩ | ⟨stale, many⟩ := again
    · rw [if_pos ⟨repeated, fresh⟩] at counted
      cases counted
    · rw [if_neg (fun both => both.2 stale), if_pos stale] at counted
      split_ifs at counted
      cases counted
      omega

/-- An installation counts nothing. -/
theorem countOf_install
    (hash : DigestAlgorithm → Bytes → Bytes) (context : AuthContext) (scope other : AuthScope)
    (challenges : List AuthChallenge) :
    countOf other (.install scope challenges,
      (context.step hash (.install scope challenges)).2) = none := rfl

/-- An installation keeps the counts, where it brings no nonce that was counted. -/
theorem Counted.install {counts : List (String × Nat)} (counted : Counted scope counts context)
    {other : AuthScope} {challenges : List AuthChallenge}
    (fresh : other = scope → ∀ selected nonce, strongestChallenge challenges = some selected →
      selected.parameter "nonce" = some nonce →
        (∀ count, (nonce, count) ∉ counts) ∨ Refuses context other challenges selected) :
    Counted scope counts (context.step hash (.install other challenges)).1 := by
  rw [step]
  cases installed : context.install other challenges with
  | error error => exact counted
  | ok next =>
    obtain ⟨selected, nonce, recoveries, strongest, named, -, -, rfl⟩ := install_eq_ok installed
    refine ⟨counted.once, fun state chosen count current same counts => ?_⟩
    by_cases here : other = scope
    · subst here
      obtain unused | refuses := fresh rfl selected nonce strongest named
      · rw [slot_setSlot_self] at current
        cases current
        cases named.symm.trans same
        exact absurd counts (unused count)
      · exact absurd installed (install_ne_ok_of_refuses strongest refuses)
    · rw [slot_setSlot_of_ne _ _ (Ne.symm here)] at current
      exact counted.reached state chosen count current same counts

/-- What a successful authorization uses of the state. -/
theorem authorize_uses {next : AuthContext}
    {credentials : DigestCredentials} {method : Method} {uri entityBody : Bytes}
    {clientNonce : String} {authorization : DigestAuthorization}
    (authorized : context.authorize hash scope credentials method uri entityBody clientNonce =
      .ok (next, authorization)) :
    ∃ state, context.slot scope = some state ∧
      next = context.setSlot (some { state with nonceCount := state.nonceCount + 1 }) scope ∧
      state.challenge.parameter "nonce" = some authorization.nonce ∧
      ∀ count, authorization.nonceCount = some count → count = state.nonceCount + 1 := by
  unfold authorize at authorized
  cases current : context.slot scope with
  | none => simp [current] at authorized
  | some state =>
    simp only [current] at authorized
    obtain ⟨-, -, authorized⟩ := Outcome.bind_eq_ok.mp authorized
    obtain ⟨digest, computed, returned⟩ := Outcome.bind_eq_ok.mp authorized
    cases returned
    have origin := DigestAuthorization.computedFrom_of_calculate
      (Outcome.mapError_eq_ok.mp computed)
    refine ⟨state, rfl, rfl, origin.nonce, fun count same => ?_⟩
    rw [origin.nonceCount] at same
    obtain ⟨_, _, rfl⟩ := Option.map_eq_some_iff.mp same
    rfl

/-- An authorization counts the next use of the nonce. -/
theorem Counted.authorize {counts : List (String × Nat)} (counted : Counted scope counts context)
    (other : AuthScope) (credentials : DigestCredentials) (method : Method)
    (uri entityBody : Bytes) (clientNonce : String) :
    Counted scope (counts ++ (countOf scope
        (.authorize other credentials method uri entityBody clientNonce, (context.step hash
            (.authorize other credentials method uri entityBody clientNonce)).2)).toList)
      (context.step hash (.authorize other credentials method uri entityBody clientNonce)).1 := by
  rw [step]
  cases authorized : context.authorize hash other credentials method uri entityBody
      clientNonce with
  | error error => simpa [countOf] using counted
  | ok result =>
    obtain ⟨next, authorization⟩ := result
    obtain ⟨state, current, rfl, named, next⟩ := authorize_uses authorized
    by_cases here : other = scope
    · subst here
      have above (count : Nat) (inside : (authorization.nonce, count) ∈ counts) :
          count ≤ state.nonceCount :=
        counted.reached state _ count current named inside
      refine ⟨?_, fun after chosen count same name inside => ?_⟩
      · cases used : authorization.nonceCount with
        | none => simpa [countOf, used] using counted.once
        | some count =>
          have unused : (authorization.nonce, count) ∉ counts := by
            intro inside
            have := above count inside
            have := next count used
            omega
          simpa [countOf, used, List.nodup_append] using ⟨counted.once, by
            intro nonce earlier inside same later
            subst same later
            exact unused inside⟩
      · rw [slot_setSlot_self] at same
        cases same
        cases named.symm.trans name
        change count ≤ state.nonceCount + 1
        rw [List.mem_append] at inside
        obtain earlier | last := inside
        · exact (above count earlier).trans (Nat.le_succ _)
        · simp only [countOf, if_pos, Option.mem_toList, Option.map_eq_some_iff] at last
          obtain ⟨used, counts, pair⟩ := last
          cases pair
          exact (next count counts).le
    · have other_ := slot_setSlot_of_ne context
        (some { state with nonceCount := state.nonceCount + 1 }) (Ne.symm here)
      simp only [countOf, if_neg here, Option.toList_none, List.append_nil]
      refine ⟨counted.once, fun after chosen count same => ?_⟩
      rw [other_] at same
      exact counted.reached after chosen count same

/-- No nonce and count of a scope come twice, in a run that brings back no nonce that was
counted. -/
theorem nonce_counts_distinct
    {hash : DigestAlgorithm → Bytes → Bytes} {calls : List AuthCall}
    (fresh : AllSteps (BringsNoCountedNonce hash) calls) (scope : AuthScope) :
    (nonceCounts scope (history (step hash) new calls)).Nodup := by
  suffices Counted scope (nonceCounts scope (history (step hash) new calls))
      (after (step hash) new calls) from this.once
  induction calls using List.reverseRecOn with
  | nil =>
    refine ⟨List.nodup_nil, fun state nonce count current => ?_⟩
    cases scope <;> cases current
  | append_singleton calls call ih =>
    obtain ⟨earlier, last⟩ := (allSteps_concat _ _ _).mp fresh
    have counted := ih earlier
    have reached : after (step hash) new (calls ++ [call]) =
        ((after (step hash) new calls).step hash call).1 := by
      rw [after_append]
      rfl
    have counts : nonceCounts scope (history (step hash) new (calls ++ [call])) =
        nonceCounts scope (history (step hash) new calls) ++
          (countOf scope (call, ((after (step hash) new calls).step hash call).2)).toList := by
      rw [nonceCounts, history_concat, List.filterMap_append, output]
      cases used : countOf scope (call, _) <;> simp [used, nonceCounts]
    rw [reached, counts]
    cases call with
    | install other challenges =>
      rw [countOf_install, Option.toList_none, List.append_nil]
      apply counted.install
      intro here
      subst here
      exact last
    | authorize other credentials method uri entityBody clientNonce =>
      exact counted.authorize other credentials method uri entityBody clientNonce

/-- A usable challenge with a nonce. -/
def challengeOf (nonce : String) (stale : Bool) : AuthChallenge :=
  ⟨"Digest", [⟨"realm", "r", true⟩, ⟨"nonce", nonce, true⟩, ⟨"qop", "auth", true⟩,
    ⟨"stale", if stale then "true" else "false", false⟩]⟩

/-- The next authorization of the server scope. -/
def authorizeNext : AuthCall := .authorize .server ⟨"u", "p"⟩ .invite [115] [] "c"

/-- Two nonces in use one after the other, and the second one offered once more. -/
def renewingCalls : List AuthCall :=
  [.install .server [challengeOf "a" false], authorizeNext, authorizeNext,
    .install .server [challengeOf "b" true], authorizeNext,
    .install .server [challengeOf "b" false], authorizeNext]

/-- The counts of a nonce go on after an installation that is refused. -/
theorem nonce_counts_distinct_sample :
    (nonceCounts .server (Run.history (step fun _ _ => []) new renewingCalls)).Nodup := by
  refine nonce_counts_distinct ?_ .server
  have brings {nonce : String} {stale : Bool} {earlier : List AuthCall}
      (strongest : strongestChallenge [challengeOf nonce stale] = some (challengeOf nonce stale) ∧
        (challengeOf nonce stale).parameter "nonce" = some nonce)
      (brought : (∀ count, (nonce, count) ∉
          nonceCounts .server (Run.history (step fun _ _ => []) new earlier)) ∨
        Refuses (Run.after (step fun _ _ => []) new earlier) .server [challengeOf nonce stale]
          (challengeOf nonce stale)) :
      BringsNoCountedNonce (fun _ _ => []) earlier
        (.install .server [challengeOf nonce stale]) := by
    intro selected name chosen named
    cases strongest.1.symm.trans chosen
    cases strongest.2.symm.trans named
    exact brought
  rw [show renewingCalls = (((((([] ++ [_]) ++ [_]) ++ [_]) ++ [_]) ++ [_]) ++ [_]) ++ [_] from rfl]
  simp only [allSteps_concat]
  refine ⟨⟨⟨⟨⟨⟨⟨by simp, ?_⟩, trivial⟩, trivial⟩, ?_⟩, trivial⟩, ?_⟩, trivial⟩
  · exact brings (by decide +kernel) (.inl fun count inside => nomatch inside)
  · refine brings (by decide +kernel) (.inl fun count inside => ?_)
    have counts : nonceCounts .server (Run.history (step fun _ _ => []) new
        ([] ++ [.install .server [challengeOf "a" false]] ++ [authorizeNext] ++ [authorizeNext])) =
          [("a", 1), ("a", 2)] := by
      decide +kernel
    rw [counts] at inside
    simp at inside
  · exact brings (by decide +kernel) (.inr (.inr
      ⟨⟨challengeOf "b" true, 1, 1⟩, by decide +kernel, .inl (by decide +kernel)⟩))

/-- A count comes twice where a nonce returns after another one, and where a stale
challenge names the nonce in use. -/
theorem nonce_counts_repeat :
    ¬(nonceCounts .server (history (step fun _ _ => []) new
        [.install .server [challengeOf "a" false], authorizeNext,
          .install .server [challengeOf "b" false],
          .install .server [challengeOf "a" false], authorizeNext])).Nodup ∧
      ¬(nonceCounts .server (history (step fun _ _ => []) new
        [.install .server [challengeOf "a" false], authorizeNext,
          .install .server [challengeOf "a" true], authorizeNext])).Nodup := by
  decide +kernel

end AuthContext

end Sip
end LiveAISIP
