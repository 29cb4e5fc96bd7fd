import LiveAISIP.Library.KeyMap
import LiveAISIP.Transaction.Key
import LiveAISIP.Transaction.Timer

/-!
# Completed transactions

The bounded store of compact completion state of
`sip/transaction/completion.rs`: what remains of a completed INVITE client
transaction until its deadline.  The outcome of each allocation is an
argument.
-/

namespace LiveAISIP
namespace Transaction

open Sip

/-- Hard maximum of retained completed INVITE identities. -/
def maxCompletionTombstones : Nat := 262144

/-- Action for a response that matches compact completed state. -/
inductive CompletionDisposition
  | deliverLateSuccess (generation : Nat)
  | resendFailureAck (generation : Nat) (ack : Bytes)
  | absorb (generation : Nat)

/-- Compact completion state failure. -/
inductive CompletionError
  | invalidCapacity (value maximum : Nat)
  | capacity (maximum : Nat)
  | zeroGeneration
  | key (error : KeyError)
  | allocationFailed

/-- What is retained of one completed transaction. -/
structure Tombstone where
  generation : Nat
  expiresAt : Duration
  failureAck : Option Bytes

/-- Bounded completion store. -/
structure CompletionStore where
  maximum : Nat
  entries : KeyMap TransactionKey Tombstone
  positive : 0 < maximum
  limited : maximum ≤ maxCompletionTombstones
  bounded : entries.size ≤ maximum

namespace CompletionStore

/-- Create an empty bounded store. -/
def new (maximum : Nat) : Except CompletionError CompletionStore :=
  if invalid : maximum = 0 ∨ maximum > maxCompletionTombstones then
    .error (.invalidCapacity maximum maxCompletionTombstones)
  else
    .ok
      { maximum := maximum
        entries := ∅
        positive := by omega
        limited := by omega
        bounded := by simp [KeyMap.size] }

/-- The store has room for this key. -/
def HasRoom (store : CompletionStore) (key : TransactionKey) : Prop :=
  key ∈ store.entries ∨ store.entries.size < store.maximum

instance (store : CompletionStore) (key : TransactionKey) : Decidable (store.HasRoom key) :=
  inferInstanceAs (Decidable (_ ∨ _))

/-- The store with one entry inserted or overwritten. -/
def put
    (store : CompletionStore) (key : TransactionKey) (tombstone : Tombstone)
    (room : store.HasRoom key) : CompletionStore :=
  { store with
    entries := store.entries.insert key tombstone
    bounded := by
      have bounded := store.bounded
      by_cases known : key ∈ store.entries
      · rwa [KeyMap.size_insert_of_mem known]
      · rw [KeyMap.size_insert_of_not_mem known]
        exact room.resolve_left known }

/-- Retain compact authority after the removal of a transaction. -/
def retain
    (store : CompletionStore) (key : TransactionKey) (tombstone : Tombstone)
    (allocated : Bool) : CompletionStore × Except CompletionError Unit :=
  if tombstone.generation = 0 then
    (store, .error .zeroGeneration)
  else if room : store.HasRoom key then
    if allocated then (store.put key tombstone room, .ok ())
    else (store, .error .allocationFailed)
  else
    (store, .error (.capacity store.maximum))

/-- Drop the entry of one key. -/
def drop (store : CompletionStore) (key : TransactionKey) : CompletionStore :=
  { store with
    entries := store.entries.erase key
    bounded := Nat.le_trans (KeyMap.size_erase_le _ _) store.bounded }

/-- How a response to a completed transaction is handled. -/
def disposition (status : StatusCode) (entry : Tombstone) : CompletionDisposition :=
  if status.Provisional then
    .absorb entry.generation
  else if status.Success then
    .deliverLateSuccess entry.generation
  else
    match entry.failureAck with
    | some ack => .resendFailureAck entry.generation ack
    | none => .absorb entry.generation

/-- Route a response without resurrecting the transaction. -/
def route
    (store : CompletionStore) (response : ValidatedResponse) (now : Duration) :
    CompletionStore × Except CompletionError (Option CompletionDisposition) :=
  match TransactionKey.forClientResponse response with
  | .error error => (store, .error (.key error))
  | .ok key =>
    match store.entries.lookup key with
    | none => (store, .ok none)
    | some entry =>
      if entry.expiresAt.asNanos ≤ now.asNanos then (store.drop key, .ok none)
      else (store, .ok (some (disposition response.status entry)))

/-- Remove expired entries and return the count reclaimed. -/
def sweep (store : CompletionStore) (now : Duration) : CompletionStore × Nat :=
  let kept := store.entries.keepIf fun entry =>
    now.asNanos < entry.expiresAt.asNanos
  ({ store with
      entries := kept
      bounded := Nat.le_trans (KeyMap.size_keepIf_le _ _) store.bounded },
    store.entries.size - kept.size)

end CompletionStore

end Transaction
end LiveAISIP
