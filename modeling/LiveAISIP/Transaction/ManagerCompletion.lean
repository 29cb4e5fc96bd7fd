import LiveAISIP.Transaction.ManagerChanges

/-!
# Completing a transaction

When the manager completes a client transaction, the live entry leaves the
registry before the fallible steps that retain its tombstone.  This module
states what completion promises, and shows exactly when it keeps the promise.
-/

namespace LiveAISIP
namespace Transaction

open Sip
open CompletionStore AList

/-- The clock reading that an operation compares with retained deadlines. -/
def ManagerOperation.reading : ManagerOperation → Option Duration
  | .routeResponseAt _ now => some now
  | .sweepCompletions now => some now
  | _ => none

/-- The operation completes a client transaction of this key. -/
def ManagerOperation.Completes (key : TransactionKey) : ManagerOperation → Prop
  | .completeAt token _ _ => token.role = .client ∧ token.key = key
  | _ => False

namespace TransactionManager

variable {manager next : TransactionManager} {key : TransactionKey}
  {entry : Entry ClientTransaction} {operation : ManagerOperation}

variable {token : Token} {allocated : Bool}

/-- Every live client of `next` is a live client of `manager` under the same
generation, or was registered under the generation `manager` draws next. -/
structure GenerationsKept (manager next : TransactionManager) : Prop where
  advanced : manager.nextGeneration ≤ next.nextGeneration
  traced : ∀ key entry, next.clients.lookup key = some entry →
    (∃ before, manager.clients.lookup key = some before ∧ before.generation = entry.generation) ∨
      entry.generation = manager.nextGeneration

/-- An operation that leaves the live clients alone. -/
theorem generationsKept_of_clients (advanced : manager.nextGeneration ≤ next.nextGeneration)
    (same : next.clients = manager.clients) :
    GenerationsKept manager next :=
  ⟨advanced, fun _ entry found => .inl ⟨entry, same ▸ found, rfl⟩⟩

/-- An operation that registers a client under the next generation. -/
theorem generationsKept_of_insert {transaction : ClientTransaction}
    (advanced : manager.nextGeneration ≤ next.nextGeneration)
    (inserted : next.clients = manager.clients.insert key ⟨manager.nextGeneration, transaction⟩) :
    GenerationsKept manager next := by
  refine ⟨advanced, fun other entry found => ?_⟩
  rw [inserted] at found
  obtain ⟨rfl, rfl⟩ | ⟨-, before⟩ := KeyMap.lookup_insert_cases found
  · exact .inr rfl
  · exact .inl ⟨entry, before, rfl⟩

/-- An operation that updates a live client. -/
theorem generationsKept_updateClient
    (found : manager.clients.lookup key = some entry) (next : ClientTransaction) :
    GenerationsKept manager (manager.updateClient key entry next) := by
  refine ⟨Nat.le_refl _, fun other updated lookup => ?_⟩
  obtain ⟨rfl, rfl⟩ | ⟨-, before⟩ := KeyMap.lookup_insert_cases lookup
  · exact .inl ⟨entry, found, rfl⟩
  · exact .inl ⟨updated, before, rfl⟩

/-- An operation that removes a live client. -/
theorem generationsKept_of_erase
    (advanced : manager.nextGeneration ≤ next.nextGeneration)
    (erased : next.clients = manager.clients.erase key) :
    GenerationsKept manager next := by
  refine ⟨advanced, fun other entry found => ?_⟩
  rw [erased] at found
  exact .inl ⟨entry, (KeyMap.lookup_of_erase found).2, rfl⟩

/-- A live client stays live when its transaction is updated. -/
theorem IsLive.updateClient (live : manager.IsLive token entry)
    (next : ClientTransaction) :
    (manager.updateClient token.key entry next).IsLive token { entry with transaction := next } :=
  ⟨live.role, lookup_insert _, live.generation⟩

/-- What every operation but the three that read the clock keeps. -/
structure Frame (manager next : TransactionManager) : Prop where
  generations : GenerationsKept manager next
  completions : next.completions = manager.completions

variable {issued : Option Token}

theorem ServerChanges.advanced (changes : ServerChanges manager next issued) :
    manager.nextGeneration ≤ next.nextGeneration := by
  cases changes <;> first | exact Nat.le_refl _ | exact Nat.le_succ _

theorem Changes.generationsKept (changes : Changes manager operation next issued) :
    GenerationsKept manager next := by
  cases changes with
  | servers changes => exact generationsKept_of_clients changes.advanced changes.clients
  | registered key transaction => exact generationsKept_of_insert (Nat.le_succ _) rfl
  | updated key entry found input => exact generationsKept_updateClient found _
  | erased key => exact generationsKept_of_erase (Nat.le_refl _) rfl
  | closed => exact generationsKept_of_clients (Nat.le_refl _) rfl

theorem Changes.frame (changes : Changes manager operation next issued) : Frame manager next := by
  refine ⟨changes.generationsKept, ?_⟩
  cases changes with
  | servers changes => cases changes <;> rfl
  | registered | updated | erased | closed => rfl

/-- The manager without the live client of a token. -/
def withoutClient (manager : TransactionManager) (key : TransactionKey) : TransactionManager :=
  { manager with clients := manager.clients.erase key }

/-- The tombstone of a completed transaction. -/
def tombstone
    (token : Token) (transaction : ClientTransaction) (expiresAt : Duration) : Tombstone where
  generation := token.generation
  expiresAt := expiresAt
  failureAck := transaction.retainedFailureAck

/-- The completion of a live client, after the checks of the token. -/
theorem completeAt_of_live (live : manager.IsLive token entry)
    (now : Duration) (allocated : Bool) :
    manager.completeAt token now allocated =
      if NeedsRetention entry.transaction then
        match now.checkedAdd entry.transaction.completionRetention with
        | none => (manager.withoutClient token.key, .error .timeOverflow)
        | some expiresAt =>
          match manager.completions.retain token.key
              (tombstone token entry.transaction expiresAt) allocated with
          | (store, .error error) =>
            ({ manager.withoutClient token.key with completions := store },
              .error (.completion error))
          | (store, .ok ()) =>
            ({ manager.withoutClient token.key with completions := store }, .ok true)
      else
        (manager.withoutClient token.key, .ok true) := by
  simp only [completeAt, live.role, live.found, live.generation, ne_eq,
    not_true_eq_false, ↓reduceIte]
  rfl

/-- A client timer that is taken is a step of the live transaction of its
token. -/
theorem clientTimer_eq_ok {timer : Timer} {actions : List Action}
    (taken : manager.clientTimer token timer = (next, .ok actions)) :
    ∃ entry after, manager.IsLive token entry ∧ entry.transaction.started = true ∧
      ClientTransaction.TimerStep entry.transaction timer after actions ∧
      next = manager.updateClient token.key entry after := by
  unfold clientTimer at taken
  cases fenced : manager.fencedClient token with
  | error error => simp [fenced] at taken
  | ok entry =>
    have live := isLive_of_fencedClient fenced
    simp only [fenced] at taken
    rcases entry.transaction.onTimer_cases timer with
      ⟨error, refused⟩ | ⟨after, emitted, fires, started, step⟩
    · simp [refused] at taken
    · simp only [fires, Prod.mk.injEq, Except.ok.injEq] at taken
      obtain ⟨rfl, rfl⟩ := taken
      exact ⟨entry, after, live, started, step, rfl⟩

/-- Completing the live client of a token leaves it without one. -/
theorem fencedClient_completeAt (live : manager.IsLive token entry)
    (now : Duration) (allocated : Bool) :
    (manager.completeAt token now allocated).1.fencedClient token = .error .unknown := by
  have refused (completions : CompletionStore) :
      ({ manager.withoutClient token.key with
          completions := completions }).fencedClient token =
        .error .unknown := by
    simp [fencedClient, live.role, withoutClient]
  rw [completeAt_of_live live]
  split_ifs
  · split
    · exact refused _
    · split <;> exact refused _
  · exact refused _

/-- A token that names no live client removes at most a live server. -/
theorem completeAt_of_not_live
    (absent : ∀ entry, ¬manager.IsLive token entry) (now : Duration) (allocated : Bool) :
    ∃ servers removed, manager.completeAt token now allocated =
      ({ manager with servers := servers }, .ok removed) := by
  unfold completeAt
  by_cases role : token.role = .client
  · simp only [role, ne_eq, not_true_eq_false, ↓reduceIte]
    cases found : manager.clients.lookup token.key with
    | none => exact ⟨manager.servers, false, by simp⟩
    | some entry =>
      have stale : entry.generation ≠ token.generation := fun generation =>
        absent entry ⟨role, found, generation⟩
      exact ⟨manager.servers, false, by simp [stale]⟩
  · exact ⟨_, _, if_pos role⟩

theorem retain_eq_ok
    {store : CompletionStore} (stone : Tombstone)
    (positive : stone.generation ≠ 0) (room : store.HasRoom key) :
    store.retain key stone true = (store.put key stone room, .ok ()) := by
  simp [retain, positive, room]

/-- A tombstone is put, or the store stays as it is. -/
theorem retain_cases
    (store : CompletionStore) (key : TransactionKey) (stone : Tombstone) (allocated : Bool) :
    (∃ room, store.retain key stone allocated = (store.put key stone room, .ok ())) ∨
      ∃ error, store.retain key stone allocated = (store, .error error) := by
  unfold retain
  by_cases zero : stone.generation = 0
  · exact .inr ⟨_, if_pos zero⟩
  · rw [if_neg zero]
    by_cases room : store.HasRoom key
    · rw [dif_pos room]
      cases allocated with
      | true => exact .inl ⟨room, rfl⟩
      | false => exact .inr ⟨_, rfl⟩
    · exact .inr ⟨_, dif_neg room⟩

theorem retain_eq_error
    {store : CompletionStore}
    (stone : Tombstone)
    (refused : ¬(store.HasRoom key ∧ allocated = true)) :
    ∃ error, store.retain key stone allocated = (store, .error error) := by
  rcases retain_cases store key stone allocated with ⟨room, retained⟩ | failed
  · refine absurd ⟨room, ?_⟩ refused
    cases allocated with
    | true => rfl
    | false =>
      by_cases zero : stone.generation = 0 <;>
        simp [retain, room, zero] at retained
  · exact failed

/-- A client token without its live client completes nothing. -/
theorem completeAt_of_stale (role : token.role = .client)
    (stale : ¬∃ entry, manager.IsLive token entry) (now : Duration) (allocated : Bool) :
    manager.completeAt token now allocated = (manager, .ok false) := by
  unfold completeAt
  rw [if_neg (not_not.mpr role)]
  cases found : manager.clients.lookup token.key with
  | none => rfl
  | some entry =>
    exact if_pos fun generation => stale ⟨entry, role, found, generation⟩

theorem changes_completeAt
    (manager : TransactionManager) (token : Token) (now : Duration) (allocated : Bool) :
    ∃ between store, Changes manager (.completeAt token now allocated) between none ∧
      (manager.completeAt token now allocated).1 = { between with completions := store } := by
  have idle : manager.Gives (.completeAt token now allocated) fun _ => none := fun _ _ _ => rfl
  by_cases live : ∃ entry, manager.IsLive token entry
  · obtain ⟨entry, live⟩ := live
    rw [completeAt_of_live live]
    split_ifs
    · cases now.checkedAdd entry.transaction.completionRetention with
      | none => exact ⟨_, manager.completions, .erased token.key idle, rfl⟩
      | some expiresAt =>
        simp only
        rcases manager.completions.retain token.key
          (tombstone token entry.transaction expiresAt) allocated with
          ⟨store, error | -⟩ <;>
          exact ⟨_, store, .erased token.key idle, rfl⟩
    · exact ⟨_, manager.completions, .erased token.key idle, rfl⟩
  · by_cases role : token.role = .client
    · rw [completeAt_of_stale role live]
      exact ⟨_, manager.completions, .same idle, rfl⟩
    · rw [completeAt, if_pos role]
      exact ⟨_, manager.completions, .servers (manager.changes_removeServer token) idle, rfl⟩

/-- An operation that neither reads the clock nor completes a client
transaction changes the live entries alone. -/
theorem changes_apply
    (unread : operation.reading = none) (kept : ∀ key, ¬operation.Completes key) :
    Changes manager operation (manager.apply operation) (manager.issuedBy operation) := by
  cases operation with
  | insertClient transaction allocated => exact manager.changes_insertClient transaction allocated
  | startClient transaction allocated => exact manager.changes_startClient transaction allocated
  | insertServer transaction allocated =>
    exact .servers (manager.changes_insertServer transaction allocated) fun _ _ _ => rfl
  | startServer transaction allocated =>
    exact .servers (manager.changes_startServer transaction allocated) fun _ _ _ => rfl
  | respondServer token status bytes =>
    exact .servers (manager.changes_respondServer token status bytes) fun _ _ _ => rfl
  | routeResponse response => exact manager.changes_routeResponse response rfl
  | routeResponseAt response now => cases unread
  | routeRequest request => exact .servers (manager.changes_routeRequest request) fun _ _ _ => rfl
  | routeAck request => exact .servers (manager.changes_routeAck request) fun _ _ _ => rfl
  | clientTimer token timer => exact manager.changes_clientTimer token timer
  | serverTimer token timer =>
    exact .servers (manager.changes_serverTimer token timer) fun _ _ _ => rfl
  | remove token => exact manager.changes_remove token
  | completeAt token now allocated =>
    have server : token.role ≠ .client := fun client => kept token.key ⟨client, rfl⟩
    rw [apply, completeAt, if_pos server]
    exact .servers (manager.changes_removeServer token) fun _ _ _ => rfl
  | sweepCompletions now => cases unread
  | beginShutdown => exact .closed fun _ _ _ => rfl

/-- Every operation changes the live entries, and perhaps the completion
store. -/
theorem apply_changes (manager : TransactionManager) (operation : ManagerOperation) :
    ∃ between store, Changes manager operation between (manager.issuedBy operation) ∧
      manager.apply operation = { between with completions := store } := by
  cases operation with
  | routeResponseAt response now => exact manager.changes_routeResponseAt response now
  | completeAt token now allocated => exact manager.changes_completeAt token now allocated
  | sweepCompletions now => exact ⟨manager, _, .same fun _ _ _ => rfl, rfl⟩
  | _ => exact ⟨_, _, changes_apply rfl fun _ => id, rfl⟩

/-- Generations are drawn from one upwards. -/
structure Numbered (manager : TransactionManager) : Prop where
  next : 0 < manager.nextGeneration
  live : ∀ key entry, manager.clients.lookup key = some entry → 0 < entry.generation

theorem numbered_new
    {maximum : Nat} (created : new maximum = .ok manager) :
    manager.Numbered := by
  obtain ⟨completions, rfl⟩ := new_eq_ok created
  exact ⟨Nat.one_pos, fun key entry found => by simp at found⟩

theorem Numbered.apply (numbered : manager.Numbered) (operation : ManagerOperation) :
    (manager.apply operation).Numbered := by
  obtain ⟨between, store, changes, applied⟩ := manager.apply_changes operation
  obtain ⟨advanced, traced⟩ := changes.generationsKept
  rw [applied]
  refine ⟨Nat.lt_of_lt_of_le numbered.next advanced, fun key entry found => ?_⟩
  rcases traced key entry found with ⟨before, foundBefore, same⟩ | fresh
  · rw [← same]
    exact numbered.live key before foundBefore
  · rw [fresh]
    exact numbered.next

/-- The generations of a reachable manager are positive. -/
theorem numbered_of_reachable (reachable : manager.Reachable) :
    manager.Numbered := by
  obtain ⟨maximum, initial, operations, created, rfl⟩ := reachable
  exact Run.invariant Numbered (numbered_new created)
    (fun _ operation numbered => numbered.apply operation) operations

variable {stone : Tombstone} {now : Duration}

/-- Routing a response drops at most the expired tombstone of its key. -/
theorem completions_routeResponseAt
    (manager : TransactionManager) (response : ValidatedResponse) (now : Duration) :
    (manager.routeResponseAt response now).1.completions = manager.completions ∨
      ∃ key stone, manager.completions.entries.lookup key = some stone ∧
        stone.expiresAt.asNanos ≤ now.asNanos ∧
        (manager.routeResponseAt response now).1.completions = manager.completions.drop key := by
  unfold routeResponseAt
  cases keyed : TransactionKey.forClientResponse response with
  | error error => exact .inl rfl
  | ok key =>
    simp only
    split_ifs
    · left
      have frame := (manager.changes_routeResponse response rfl).frame.completions
      rcases routed : manager.routeResponse response with ⟨next, error | actions⟩
        <;> rw [routed] at frame <;> exact frame
    · simp only [route, keyed]
      cases held : manager.completions.entries.lookup key with
      | none => exact .inl rfl
      | some stone =>
        simp only
        split_ifs with expired
        · exact .inr ⟨key, stone, held, expired, rfl⟩
        · exact .inl rfl

/-- Completing a transaction puts at most one tombstone, under its key. -/
theorem completions_completeAt
    (manager : TransactionManager) (token : Token) (now : Duration) (allocated : Bool) :
    (manager.completeAt token now allocated).1.completions = manager.completions ∨
      (token.role = .client ∧ ∃ stone room, (manager.completeAt token now allocated).1.completions =
          manager.completions.put token.key stone room) := by
  by_cases live : ∃ entry, manager.IsLive token entry
  · obtain ⟨entry, live⟩ := live
    rw [completeAt_of_live live]
    split_ifs
    · cases now.checkedAdd entry.transaction.completionRetention with
      | none => exact .inl rfl
      | some expiresAt =>
        simp only
        rcases retain_cases manager.completions token.key
          (tombstone token entry.transaction expiresAt) allocated with
          ⟨room, retained⟩ | ⟨error, refused⟩
        · rw [retained]
          exact .inr ⟨live.role, _, room, rfl⟩
        · rw [refused]
          exact .inl rfl
    · exact .inl rfl
  · obtain ⟨servers, removed, completed⟩ :=
      completeAt_of_not_live (not_exists.mp live) now allocated
    rw [completed]
    exact .inl rfl

/-- An operation that reads the clock before the deadline of a tombstone
leaves one under its key, and the same one unless it completes a transaction
of that key. -/
theorem lookup_apply {operation : ManagerOperation}
    (held : manager.completions.entries.lookup key = some stone)
    (early : ∀ now, operation.reading = some now → now.asNanos < stone.expiresAt.asNanos) :
    ∃ next, (manager.apply operation).completions.entries.lookup key = some next ∧
      (¬operation.Completes key → next = stone) := by
  cases operation with
  | sweepCompletions now =>
    refine ⟨stone, ?_, fun _ => rfl⟩
    have kept := early now rfl
    exact (KeyMap.lookup_keepIf _ _ _ _).mpr ⟨held, by simpa using kept⟩
  | routeResponseAt response now =>
    refine ⟨stone, ?_, fun _ => rfl⟩
    have before := early now rfl
    rcases manager.completions_routeResponseAt response now with
      same | ⟨dropped, other, found, expired, drop⟩
    · rw [apply, same, held]
    · have different : key ≠ dropped := by
        rintro rfl
        obtain rfl : stone = other := by simpa [held] using found
        omega
      rw [apply, drop, CompletionStore.drop, lookup_erase_ne different, held]
  | completeAt token now allocated =>
    rcases manager.completions_completeAt token now allocated with
      same | ⟨role, fresh, room, put⟩
    · exact ⟨stone, by rw [apply, same, held], fun _ => rfl⟩
    · by_cases sameKey : token.key = key
      · subst sameKey
        refine ⟨fresh, ?_, fun other => absurd ⟨role, rfl⟩ other⟩
        rw [apply, put, CompletionStore.put, lookup_insert]
      · refine ⟨stone, ?_, fun _ => rfl⟩
        rw [apply, put, CompletionStore.put, lookup_insert_ne (Ne.symm sameKey), held]
  | _ =>
    refine ⟨stone, ?_, fun _ => rfl⟩
    rw [(changes_apply rfl fun _ => id).frame.completions, held]

/-- A response to a transaction with a tombstone is never unknown before the
deadline of the tombstone. -/
theorem routeResponseAt_ne_unknown {response : ValidatedResponse}
    (keyed : TransactionKey.forClientResponse response = .ok key)
    (held : manager.completions.entries.lookup key = some stone)
    (early : now.asNanos < stone.expiresAt.asNanos) :
    (manager.routeResponseAt response now).2 ≠ .ok .unknown := by
  simp only [routeResponseAt, keyed]
  split_ifs
  · rcases manager.routeResponse response with ⟨next, error | actions⟩ <;> simp
  · have unexpired : ¬stone.expiresAt.asNanos ≤ now.asNanos := by omega
    simp [route, keyed, held, unexpired]

/-- The tombstone `stone` of a key answers for it in every later run: while
each clock reading precedes the deadline then retained for the key, a
tombstone stays, `stone` itself until a transaction of the key is completed
again, and no response before its deadline is unknown. -/
def AnswersUntilExpiry
    (manager : TransactionManager) (key : TransactionKey) (stone : Tombstone) : Prop :=
  ∀ operations, Run.AllSteps
      (fun earlier operation => ∀ now current, operation.reading = some now →
        (manager.after earlier).completions.entries.lookup key = some current →
        now.asNanos < current.expiresAt.asNanos) operations →
    ∃ current, (manager.after operations).completions.entries.lookup key = some current ∧
      ((∀ operation ∈ operations, ¬operation.Completes key) → current = stone) ∧
      ∀ response now, TransactionKey.forClientResponse response = .ok key →
        now.asNanos < current.expiresAt.asNanos →
        ((manager.after operations).routeResponseAt response now).2 ≠ .ok .unknown

/-- A retained tombstone answers until it expires. -/
theorem answersUntilExpiry_of_lookup
    (held : manager.completions.entries.lookup key = some stone) :
    manager.AnswersUntilExpiry key stone := by
  intro operations early
  have kept : ∃ current, (manager.after operations).completions.entries.lookup key = some current ∧
      ((∀ operation ∈ operations, ¬operation.Completes key) → current = stone) := by
    refine Run.guarded_invariant
      (fun operations (later : TransactionManager) =>
        ∃ current, later.completions.entries.lookup key = some current ∧
          ((∀ operation ∈ operations, ¬operation.Completes key) → current = stone))
      ⟨stone, held, fun _ => rfl⟩ ?_ operations early
    rintro earlier operation before ⟨current, found, same⟩
    obtain ⟨next, foundNext, sameNext⟩ := lookup_apply found
      (fun now read => before now current read found)
    refine ⟨next, foundNext, fun others => ?_⟩
    rw [sameNext (others operation (by simp))]
    exact same fun earlierOperation member =>
      others earlierOperation (by simp [member])
  obtain ⟨current, found, same⟩ := kept
  exact ⟨current, found, same, fun response now keyed before =>
    routeResponseAt_ne_unknown keyed found before⟩

/-- Completion is atomic: a failure leaves the manager as it was, and a
success retains the tombstone that the transaction needs. -/
structure CompletesAtomically
    (manager : TransactionManager) (token : Token) (now : Duration) (allocated : Bool) : Prop where
  unchanged : ∀ error, (manager.completeAt token now allocated).2 = .error error →
    (manager.completeAt token now allocated).1 = manager
  retained : ∀ entry, manager.IsLive token entry → NeedsRetention entry.transaction →
    (manager.completeAt token now allocated).2 = .ok true →
    ∃ stone, (manager.completeAt token now allocated).1.completions.entries.lookup
        token.key = some stone ∧
      stone.generation = token.generation ∧
      now.checkedAdd entry.transaction.completionRetention = some stone.expiresAt ∧
      (manager.completeAt token now allocated).1.AnswersUntilExpiry token.key stone

/-- The tombstone of every live transaction that needs one can be retained. -/
def CanRetain
    (manager : TransactionManager) (token : Token) (now : Duration) (allocated : Bool) : Prop :=
  ∀ entry, manager.IsLive token entry → NeedsRetention entry.transaction →
    (now.checkedAdd entry.transaction.completionRetention).isSome ∧
      manager.completions.HasRoom token.key ∧ allocated = true

/-- A completion whose tombstone cannot be retained fails, and its live entry
is gone. -/
theorem completeAt_loses
    (live : manager.IsLive token entry) (needed : NeedsRetention entry.transaction)
    (lost : ¬((now.checkedAdd entry.transaction.completionRetention).isSome ∧
      manager.completions.HasRoom token.key ∧ allocated = true)) :
    ∃ next error, manager.completeAt token now allocated = (next, .error error) ∧
      next.clients.lookup token.key = none := by
  rw [completeAt_of_live live, if_pos needed]
  cases deadline : now.checkedAdd entry.transaction.completionRetention with
  | none => exact ⟨_, _, rfl, lookup_erase _ _⟩
  | some expiresAt =>
    obtain ⟨error, refused⟩ := retain_eq_error (tombstone token entry.transaction expiresAt)
      (fun room => lost ⟨by simp [deadline], room⟩)
    simp only [refused]
    exact ⟨_, _, rfl, lookup_erase _ _⟩

theorem not_completesAtomically_of_lost
    (live : manager.IsLive token entry) (needed : NeedsRetention entry.transaction)
    (lost : ¬((now.checkedAdd entry.transaction.completionRetention).isSome ∧
      manager.completions.HasRoom token.key ∧ allocated = true)) :
    ¬manager.CompletesAtomically token now allocated := by
  intro atomic
  obtain ⟨next, error, failed, gone⟩ := completeAt_loses live needed lost
  have unchanged := atomic.unchanged error (by rw [failed])
  rw [failed] at unchanged
  rw [show next = manager from unchanged, live.found] at gone
  cases gone

/-- A completion whose tombstone can be retained puts it in the store. -/
theorem completeAt_retains {expiresAt : Duration} (live : manager.IsLive token entry)
    (needed : NeedsRetention entry.transaction) (positive : token.generation ≠ 0)
    (deadline : now.checkedAdd entry.transaction.completionRetention = some expiresAt)
    (room : manager.completions.HasRoom token.key) :
    manager.completeAt token now true =
      ({ manager.withoutClient token.key with
          completions := manager.completions.put token.key
            (tombstone token entry.transaction expiresAt) room },
        .ok true) := by
  rw [completeAt_of_live live, if_pos needed, deadline]
  simp only [retain_eq_ok (tombstone token entry.transaction expiresAt) positive room]

/-- Completion on a reachable manager is atomic exactly when the tombstone of
the completed transaction can be retained: its deadline is representable, the
store has room for its key, and the allocation succeeds. -/
theorem completesAtomically_iff
    (manager : TransactionManager) (reachable : manager.Reachable)
    (token : Token) (now : Duration) (allocated : Bool) :
    manager.CompletesAtomically token now allocated ↔ manager.CanRetain token now allocated := by
  constructor
  · intro atomic entry live needed
    by_contra lost
    exact not_completesAtomically_of_lost live needed lost atomic
  · intro retainable
    by_cases live : ∃ entry, manager.IsLive token entry
    · obtain ⟨entry, live⟩ := live
      by_cases needed : NeedsRetention entry.transaction
      · obtain ⟨deadline, room, rfl⟩ := retainable entry live needed
        obtain ⟨expiresAt, deadline⟩ := Option.isSome_iff_exists.mp deadline
        have positive : token.generation ≠ 0 := by
          have := (numbered_of_reachable reachable).live _ _ live.found
          rw [live.generation] at this
          omega
        have completed := completeAt_retains live needed positive deadline room
        constructor
        · intro error failed
          rw [completed] at failed
          cases failed
        · intro other otherLive _ _
          obtain rfl : entry = other := by
            simpa [live.found] using otherLive.found
          have held : (manager.completeAt token now true).1.completions.entries.lookup
              token.key = some (tombstone token entry.transaction expiresAt) := by
            rw [completed]
            exact lookup_insert _
          exact ⟨_, held, rfl, deadline, answersUntilExpiry_of_lookup held⟩
      · have completed : manager.completeAt token now allocated =
            (manager.withoutClient token.key, .ok true) := by
          rw [completeAt_of_live live, if_neg needed]
        constructor
        · intro error failed
          rw [completed] at failed
          cases failed
        · intro other otherLive otherNeeded _
          obtain rfl : entry = other := by
            simpa [live.found] using otherLive.found
          exact absurd otherNeeded needed
    · obtain ⟨servers, removed, completed⟩ :=
        completeAt_of_not_live (not_exists.mp live) now allocated
      constructor
      · intro error failed
        rw [completed] at failed
        cases failed
      · intro entry isLive _ _
        exact absurd ⟨entry, isLive⟩ live

/-- An idle INVITE client transaction over an unreliable transport. -/
def inviteTransaction : ClientTransaction where
  key := ⟨"z9hG4bK-one", .domain "host", none, .invite⟩
  machine := .new .invite
  profile := TimerConfig.default.profile false
  request := inviteRequest.bytes
  non2xxAckTemplate := some inviteAckTemplate
  non2xxAck := none
  nextRetransmit := (TimerConfig.default.profile false).retransmitInitial
  started := false

/-- The operations that register an INVITE and answer it with a 2xx. -/
def acceptedInvite : List ManagerOperation := [.startClient inviteTransaction true,
    .routeResponse (responseTo inviteRequest .ok none)]

/-- The handle of that INVITE. -/
def inviteToken : Token := ⟨inviteTransaction.key, 1, .client⟩

/-- A completion in good time is atomic. -/
theorem completesAtomically_acceptedInvite :
    ∃ manager : TransactionManager, manager.Reachable ∧
      manager.CompletesAtomically inviteToken (.fromSecs 1) true := by
  refine ⟨_, ⟨8, _, acceptedInvite, rfl, rfl⟩, ?_⟩
  refine (completesAtomically_iff _ ⟨8, _, acceptedInvite, rfl, rfl⟩ inviteToken
    (.fromSecs 1) true).mpr ?_
  intro entry live _
  cases live.found
  decide

/-- A completion whose deadline overflows loses the INVITE. -/
theorem late_completion_loses_invite :
    ∃ manager : TransactionManager, manager.Reachable ∧
      ¬manager.CompletesAtomically inviteToken .max true := by
  refine ⟨_, ⟨8, _, acceptedInvite, rfl, rfl⟩, ?_⟩
  refine not_completesAtomically_of_lost ⟨rfl, rfl, rfl⟩ ?_ ?_
  · decide
  · decide

end TransactionManager

end Transaction
end LiveAISIP
