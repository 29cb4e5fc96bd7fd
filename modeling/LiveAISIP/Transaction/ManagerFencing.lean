import LiveAISIP.Transaction.ManagerCompletion
import Mathlib.Data.List.Induction

/-!
# Fencing of the transaction registry

Every live entry carries the generation of the token that was issued for it.
This module follows the issued tokens through the runs of a manager: their
generations differ, the registry stays within its capacity, and an operation
whose token is not that of the live entry of its key does not reach the entry.
-/

namespace LiveAISIP
namespace Transaction

open Sip
open AList List

namespace TransactionManager

variable {key : TransactionKey} {manager next : TransactionManager}

/-- The generation of the live entry of a role and a key. -/
def liveGeneration (manager : TransactionManager) : Role → TransactionKey → Option Nat
  | .client, key => (manager.clients.lookup key).map Entry.generation
  | .server, key => (manager.servers.lookup key).map Entry.generation

/-- The token is that of the live entry of its key. -/
def Current (manager : TransactionManager) (token : Token) : Prop :=
  manager.liveGeneration token.role token.key = some token.generation

instance (manager : TransactionManager) (token : Token) : Decidable (manager.Current token) :=
  inferInstanceAs (Decidable (_ = _))

/-- No entry was added to a map, and no generation was changed. -/
structure MapKept (before after : KeyMap TransactionKey (Entry τ)) : Prop where
  size : after.size ≤ before.size
  generation : ∀ key generation, (after.lookup key).map Entry.generation = some generation →
      (before.lookup key).map Entry.generation = some generation

theorem MapKept.refl (map : KeyMap TransactionKey (Entry τ)) : MapKept map map :=
  ⟨Nat.le_refl _, fun _ _ => id⟩

/-- A live transaction moved on under its generation. -/
theorem mapKept_update
    {map : KeyMap TransactionKey (Entry τ)}
    {entry : Entry τ} (found : map.lookup key = some entry) (next : τ) :
    MapKept map (map.insert key { entry with transaction := next }) := by
  have known : key ∈ map := lookup_isSome.mp (by simp [found])
  refine ⟨Nat.le_of_eq (KeyMap.size_insert_of_mem known _), ?_⟩
  intro other generation updated
  by_cases same : other = key
  · subst same
    rw [lookup_insert] at updated
    rw [found]
    exact updated
  · rwa [lookup_insert_ne same] at updated

theorem mapKept_erase
    (map : KeyMap TransactionKey (Entry τ)) (key : TransactionKey) :
    MapKept map (map.erase key) := by
  refine ⟨KeyMap.size_erase_le map key, fun other generation kept => ?_⟩
  by_cases same : other = key
  · subst same
    simp at kept
  · rwa [lookup_erase_ne same] at kept

/-- What one operation does to the registry, with the token that it issues. -/
structure Steps (manager next : TransactionManager) (issued : Option Token) :
    Prop where
  maximum : next.maximum = manager.maximum
  shutdown : manager.shuttingDown = true → next.shuttingDown = true
  advanced : manager.nextGeneration ≤ next.nextGeneration
  len : next.len ≤ manager.len ∨ (issued.isSome ∧ manager.shuttingDown = false ∧
      next.len ≤ manager.maximum)
  drawn : ∀ token ∈ issued, token.generation = manager.nextGeneration ∧
    manager.nextGeneration < next.nextGeneration
  current : ∀ token, next.Current token → manager.Current token ∨ issued = some token

/-- An operation that adds no entry. -/
theorem steps_of_mapKept (maximum : next.maximum = manager.maximum)
    (shutdown : manager.shuttingDown = true → next.shuttingDown = true)
    (advanced : manager.nextGeneration ≤ next.nextGeneration)
    (clients : MapKept manager.clients next.clients)
    (servers : MapKept manager.servers next.servers) :
    Steps manager next none := by
  refine ⟨maximum, shutdown, advanced, .inl ?_, by simp, fun token current => ?_⟩
  · exact Nat.add_le_add clients.size servers.size
  · left
    obtain ⟨key, generation, role⟩ := token
    cases role with
    | client => exact clients.generation key generation current
    | server => exact servers.generation key generation current

theorem Steps.refl (manager : TransactionManager) : Steps manager manager none :=
  steps_of_mapKept rfl id (Nat.le_refl _) (.refl _) (.refl _)

/-- What admission has checked. -/
theorem admission_eq_ok {role : Role}
    (admitted : manager.admission key role = .ok ()) :
    manager.shuttingDown = false ∧ manager.len < manager.maximum ∧
      manager.liveGeneration role key = none := by
  cases role with
  | client | server =>
    simp only [admission] at admitted
    split_ifs at admitted with shutdown full known
    exact ⟨Bool.eq_false_iff.mpr shutdown, Nat.not_le.mp full,
      by simp [liveGeneration, lookup_eq_none.mpr known]⟩

/-- The generations after a new entry. -/
theorem map_generation_insert
    (map : KeyMap TransactionKey (Entry τ)) (key other : TransactionKey) (entry : Entry τ) :
    ((map.insert key entry).lookup other).map Entry.generation =
      if other = key then some entry.generation
      else (map.lookup other).map Entry.generation := by
  split_ifs with same
  · rw [same, lookup_insert]
    rfl
  · rw [lookup_insert_ne same]

/-- An admitted transaction is registered under its token. -/
theorem steps_register {role : Role}
    (admitted : manager.admission key role = .ok ()) (maximum : next.maximum = manager.maximum)
    (shutdown : next.shuttingDown = manager.shuttingDown)
    (drawn : next.nextGeneration = manager.nextGeneration + 1) (grown : next.len = manager.len + 1)
    (live : ∀ role' other, next.liveGeneration role' other =
      if role' = role ∧ other = key then some manager.nextGeneration
      else manager.liveGeneration role' other) :
    Steps manager next (some ⟨key, manager.nextGeneration, role⟩) := by
  obtain ⟨accepting, room, -⟩ := admission_eq_ok admitted
  refine ⟨maximum, fun closed => shutdown.trans closed, by omega,
    .inr ⟨rfl, accepting, by omega⟩, ?_, ?_⟩
  · intro token issued
    cases issued
    exact ⟨rfl, by omega⟩
  · rintro ⟨other, generation, role'⟩ current
    simp only [Current, live] at current ⊢
    split_ifs at current with same
    · obtain ⟨rfl, rfl⟩ := same
      cases current
      exact .inr rfl
    · exact .inl current

theorem steps_registerClient
    (admitted : manager.admission key .client = .ok ()) (transaction : ClientTransaction) :
    Steps manager
      { manager with
        nextGeneration := manager.nextGeneration + 1
        clients := manager.clients.insert key ⟨manager.nextGeneration, transaction⟩ }
      (some ⟨key, manager.nextGeneration, .client⟩) := by
  obtain ⟨-, -, absent⟩ := admission_eq_ok admitted
  have unknown : key ∉ manager.clients := by
    rw [← lookup_eq_none]
    simpa [liveGeneration] using absent
  refine steps_register admitted rfl rfl rfl ?_ fun role' other => ?_
  · simp only [len, KeyMap.size_insert_of_not_mem unknown]
    omega
  · cases role' with
    | client => simp [liveGeneration, map_generation_insert]
    | server => simp [liveGeneration]

theorem steps_registerServer
    (admitted : manager.admission key .server = .ok ()) (transaction : ServerTransaction) :
    Steps manager
      { manager with
        nextGeneration := manager.nextGeneration + 1
        servers := manager.servers.insert key ⟨manager.nextGeneration, transaction⟩ }
      (some ⟨key, manager.nextGeneration, .server⟩) := by
  obtain ⟨-, -, absent⟩ := admission_eq_ok admitted
  have unknown : key ∉ manager.servers := by
    rw [← lookup_eq_none]
    simpa [liveGeneration] using absent
  refine steps_register admitted rfl rfl rfl ?_ fun role' other => ?_
  · simp only [len, KeyMap.size_insert_of_not_mem unknown]
    omega
  · cases role' with
    | client => simp [liveGeneration]
    | server => simp [liveGeneration, map_generation_insert]

theorem ServerChanges.steps {issued : Option Token} (changes : ServerChanges manager next issued) :
    Steps manager next issued := by
  cases changes with
  | same => exact .refl manager
  | drawn => exact steps_of_mapKept rfl id (Nat.le_succ _) (.refl _) (.refl _)
  | registered key transaction admitted => exact steps_registerServer admitted transaction
  | updated key entry found next =>
    exact steps_of_mapKept rfl id (Nat.le_refl _) (.refl _) (mapKept_update found next)
  | erased key =>
    exact steps_of_mapKept rfl id (Nat.le_refl _) (.refl _) (mapKept_erase manager.servers key)

/-- A change of the registry is a step of it. -/
theorem Changes.steps {operation : ManagerOperation} {issued : Option Token}
    (changes : Changes manager operation next issued) : Steps manager next issued := by
  cases changes with
  | servers changes => exact changes.steps
  | registered key transaction named admitted => exact steps_registerClient admitted transaction
  | updated key entry found input =>
    exact steps_of_mapKept rfl id (Nat.le_refl _) (mapKept_update found _) (.refl _)
  | erased key =>
    exact steps_of_mapKept rfl id (Nat.le_refl _) (mapKept_erase manager.clients key) (.refl _)
  | closed => exact steps_of_mapKept rfl (fun _ => rfl) (Nat.le_refl _) (.refl _) (.refl _)

/-- Every operation takes a step of the registry. -/
theorem steps_apply
    (manager : TransactionManager) (operation : ManagerOperation) :
    Steps manager (manager.apply operation) (manager.issuedBy operation) := by
  obtain ⟨between, store, changes, applied⟩ := manager.apply_changes operation
  have steps := changes.steps
  rw [applied]
  exact ⟨steps.maximum, steps.shutdown, steps.advanced, steps.len, steps.drawn, steps.current⟩

end TransactionManager

/-- The token was refused before any transaction was reached. -/
def ManagerError.IsFence (error : ManagerError) : Prop :=
  error = .wrongRole ∨ error = .unknown ∨ error = .staleGeneration

namespace TransactionManager

variable {manager : TransactionManager}

variable {token : Token}

theorem fencedClient_of_not_current
    (stale : ¬(token.role = .client ∧ manager.Current token)) :
    ∃ error, error.IsFence ∧ manager.fencedClient token = .error error := by
  unfold fencedClient
  by_cases role : token.role = .client
  swap
  · exact ⟨_, .inl rfl, if_pos role⟩
  rw [if_neg (not_not.mpr role)]
  cases found : manager.clients.lookup token.key with
  | none => exact ⟨_, .inr (.inl rfl), rfl⟩
  | some entry =>
    refine ⟨_, .inr (.inr rfl), if_pos fun same => stale ⟨role, ?_⟩⟩
    simp [Current, liveGeneration, role, found, same]

theorem fencedServer_of_not_current
    (stale : ¬(token.role = .server ∧ manager.Current token)) :
    ∃ error, error.IsFence ∧ manager.fencedServer token = .error error := by
  unfold fencedServer
  by_cases role : token.role = .server
  swap
  · exact ⟨_, .inl rfl, if_pos role⟩
  rw [if_neg (not_not.mpr role)]
  cases found : manager.servers.lookup token.key with
  | none => exact ⟨_, .inr (.inl rfl), rfl⟩
  | some entry =>
    refine ⟨_, .inr (.inr rfl), if_pos fun same => stale ⟨role, ?_⟩⟩
    simp [Current, liveGeneration, role, found, same]

/-- A map without the generation of a token is left as it is. -/
theorem removeGeneration_of_absent
    {map : KeyMap TransactionKey (Entry τ)}
    (absent : (map.lookup token.key).map Entry.generation ≠ some token.generation) :
    removeGeneration map token = (map, false) := by
  unfold removeGeneration
  cases found : map.lookup token.key with
  | none => rfl
  | some entry =>
    refine if_neg fun same => absent ?_
    simp [found, same]

theorem remove_of_not_current (stale : ¬manager.Current token) :
    manager.remove token = (manager, false) := by
  obtain ⟨key, generation, role⟩ := token
  cases role <;> simp only [remove] <;> rw [removeGeneration_of_absent stale]

theorem completeAt_of_not_current
    (stale : ¬manager.Current token) (now : Duration) (allocated : Bool) :
    manager.completeAt token now allocated = (manager, .ok false) := by
  by_cases role : token.role = .client
  · refine completeAt_of_stale role ?_ now allocated
    rintro ⟨entry, live⟩
    apply stale
    simp [Current, liveGeneration, role, live.found, live.generation]
  · have server : token.role = .server := by
      cases named : token.role with
      | client => exact absurd named role
      | server => rfl
    have absent : (manager.servers.lookup token.key).map Entry.generation ≠
        some token.generation := by
      simpa [Current, liveGeneration, server] using stale
    rw [completeAt, if_pos role, removeGeneration_of_absent absent]

/-- One operation with the token that it issues. -/
def register (manager : TransactionManager) (operation : ManagerOperation) :
    TransactionManager × Option Token :=
  (manager.apply operation, manager.issuedBy operation)

/-- The tokens issued in a run, in order. -/
def issued (manager : TransactionManager) (operations : List ManagerOperation) : List Token :=
  (Run.outputs register manager operations).filterMap id

theorem after_concat
    (manager : TransactionManager) (operations : List ManagerOperation) (last : ManagerOperation) :
    manager.after (operations ++ [last]) = (manager.after operations).apply last := by
  simp [after]

theorem issued_concat
    (manager : TransactionManager) (operations : List ManagerOperation) (last : ManagerOperation) :
    manager.issued (operations ++ [last]) = manager.issued operations ++
        ((manager.after operations).issuedBy last).toList := by
  have reached : Run.after register manager operations = manager.after operations := rfl
  rw [issued, Run.outputs_concat, filterMap_append, Run.output, reached]
  cases issuedLast : (manager.after operations).issuedBy last <;>
    simp [issued, register, issuedLast]

/-- What holds of a manager after a run. -/
structure Fenced (initial : TransactionManager) (maximum : Nat)
    (operations : List ManagerOperation) : Prop where
  capacity : (initial.after operations).maximum = maximum
  len : (initial.after operations).len ≤ maximum
  below : ∀ token ∈ initial.issued operations,
    token.generation < (initial.after operations).nextGeneration
  distinct : ((initial.issued operations).map Token.generation).Nodup
  current : ∀ token, (initial.after operations).Current token → token ∈ initial.issued operations
  shutdown : .beginShutdown ∈ operations → (initial.after operations).shuttingDown = true

theorem fenced_new
    {maximum : Nat} (created : new maximum = .ok manager) :
    Fenced manager maximum [] := by
  obtain ⟨completions, rfl⟩ := new_eq_ok created
  refine ⟨rfl, ?_, by simp [issued], by simp [issued], ?_, by simp⟩
  · simp [after, len, KeyMap.size]
  · rintro ⟨key, generation, role⟩ current
    cases role <;> simp [after, Current, liveGeneration] at current

/-- One more operation keeps what holds of a run. -/
theorem Fenced.concat
    {initial : TransactionManager} {maximum : Nat} {operations : List ManagerOperation}
    (fenced : Fenced initial maximum operations) (operation : ManagerOperation) :
    Fenced initial maximum (operations ++ [operation]) := by
  have steps := (initial.after operations).steps_apply operation
  have shutdown : operation = .beginShutdown →
      ((initial.after operations).apply operation).shuttingDown = true := by
    rintro rfl
    rfl
  constructor
  · rw [after_concat, steps.maximum, fenced.capacity]
  · rw [after_concat]
    rcases steps.len with kept | ⟨-, -, within⟩
    · exact kept.trans fenced.len
    · rwa [fenced.capacity] at within
  · intro token member
    rw [after_concat]
    rw [issued_concat] at member
    rcases mem_append.mp member with earlier | now
    · exact Nat.lt_of_lt_of_le (fenced.below token earlier) steps.advanced
    · obtain ⟨drawn, advanced⟩ := steps.drawn token (by simpa using now)
      exact drawn ▸ advanced
  · rw [issued_concat, map_append]
    cases issuedLast : (initial.after operations).issuedBy operation with
    | none => simpa using fenced.distinct
    | some token =>
      have drawn := (steps.drawn token issuedLast).1
      refine nodup_append.mpr ⟨fenced.distinct, by simp, ?_⟩
      intro generation earlier other now
      obtain ⟨before, member, rfl⟩ := mem_map.mp earlier
      have fresh := fenced.below before member
      simp only [Option.toList_some, map_cons, map_nil, mem_singleton] at now
      omega
  · intro token current
    rw [after_concat] at current
    rw [issued_concat]
    rcases steps.current token current with before | now
    · exact mem_append_left _ (fenced.current token before)
    · exact mem_append_right _ (by simp [now])
  · intro member
    rw [after_concat]
    rcases mem_append.mp member with earlier | last
    · exact steps.shutdown (fenced.shutdown earlier)
    · exact shutdown (mem_singleton.mp last).symm

theorem fenced_after
    {maximum : Nat} {initial : TransactionManager}
    (created : new maximum = .ok initial) (operations : List ManagerOperation) :
    Fenced initial maximum operations := by
  induction operations using reverseRecOn with
  | nil => exact fenced_new created
  | append_singleton earlier operation ih =>
    exact ih.concat operation

/-- In every run of a manager, the issued tokens have distinct generations, the
registry stays within its capacity with one live entry for each role and key,
a token that is not that of a live entry reaches no transaction and changes
nothing, and nothing is admitted after the shutdown has begun. -/
theorem registry_fenced
    (maximum : Nat) (initial : TransactionManager)
    (created : new maximum = .ok initial) (operations : List ManagerOperation) :
    let manager := initial.after operations
    ((initial.issued operations).map Token.generation).Nodup ∧
    manager.len ≤ maximum ∧
    (manager.clients.keys.Nodup ∧ manager.servers.keys.Nodup) ∧
    (∀ token, manager.Current token → token ∈ initial.issued operations) ∧
    (∀ token timer, ¬(token.role = .client ∧ manager.Current token) → ∃ error, error.IsFence ∧
        manager.clientTimer token timer = (manager, .error error)) ∧
    (∀ token timer, ¬(token.role = .server ∧ manager.Current token) → ∃ error, error.IsFence ∧
        manager.serverTimer token timer = (manager, .error error)) ∧
    (∀ token status bytes, ¬(token.role = .server ∧ manager.Current token) →
      ∃ error, error.IsFence ∧ manager.respondServer token status bytes = (manager, .error error)) ∧
    (∀ token, ¬manager.Current token → manager.remove token = (manager, false) ∧ ∀ now allocated,
        manager.completeAt token now allocated = (manager, .ok false)) ∧
    Run.AllSteps
      (fun earlier operation => .beginShutdown ∈ earlier →
        (initial.after (earlier ++ [operation])).len ≤ (initial.after earlier).len) operations := by
  have fenced := fenced_after created operations
  refine ⟨fenced.distinct, fenced.len, ⟨keys_nodup _, keys_nodup _⟩, fenced.current,
    fun token timer stale => ?_, fun token timer stale => ?_,
    fun token status bytes stale => ?_, fun token stale => ?_, ?_⟩
  · obtain ⟨error, isFence, refused⟩ := fencedClient_of_not_current stale
    exact ⟨error, isFence, by rw [clientTimer, refused]⟩
  · obtain ⟨error, isFence, refused⟩ := fencedServer_of_not_current stale
    exact ⟨error, isFence, by rw [serverTimer, refused]⟩
  · obtain ⟨error, isFence, refused⟩ := fencedServer_of_not_current stale
    exact ⟨error, isFence, by rw [respondServer, refused]⟩
  · exact ⟨remove_of_not_current stale, completeAt_of_not_current stale⟩
  · intro earlier operation later split closing
    have closed := (fenced_after created earlier).shutdown closing
    rw [after_concat]
    rcases ((initial.after earlier).steps_apply operation).len with
      kept | ⟨-, accepting, -⟩
    · exact kept
    · rw [closed] at accepting
      cases accepting

/-- The operations that register an INVITE, remove it and register it again. -/
def registeredTwice : List ManagerOperation :=
  [.startClient inviteTransaction true, .remove inviteToken, .startClient inviteTransaction true]

/-- A delayed timer of the removed INVITE does not reach the one that took over
its key. -/
theorem delayed_timer_refused :
    ∃ initial, new 8 = .ok initial ∧ ∃ error, error.IsFence ∧
        (initial.after registeredTwice).clientTimer inviteToken .requestTimeout =
          (initial.after registeredTwice, .error error) := by
  refine ⟨_, rfl, (registry_fenced 8 _ rfl registeredTwice).2.2.2.2.1
    inviteToken .requestTimeout ?_⟩
  rintro ⟨-, current⟩
  exact absurd current (by decide)

end TransactionManager

end Transaction
end LiveAISIP
