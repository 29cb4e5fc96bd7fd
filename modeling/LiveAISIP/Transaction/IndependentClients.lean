import LiveAISIP.Library.Hosting
import LiveAISIP.Transaction.ManagerCompletion

/-!
# Independent clients

A manager holds many client transactions at once.  Whatever its owner does with the
others, one that is live is where its own responses and timers would have brought it
alone.
-/

namespace LiveAISIP
namespace Transaction
namespace TransactionManager

variable {manager next : TransactionManager} {operation : ManagerOperation} {token : Token}

/-- The clients of a manager under their tokens. -/
def clientHosting : Hosting TransactionManager ManagerOperation Unit Token
    ClientTransaction ClientInput ClientTransaction.Outcome where
  apply := fun manager operation => (manager.apply operation, ())
  step := ClientTransaction.step
  hosted := fun manager token => (manager.fencedClient token).toOption.map Entry.transaction
  admitted := fun manager operation token =>
    if manager.issuedBy operation = some token then operation.registers else none
  input := fun token operation => operation.clientInput token

theorem hosted_eq_some {transaction : ClientTransaction} :
    clientHosting.hosted manager token = some transaction ↔
      ∃ entry, manager.IsLive token entry ∧ entry.transaction = transaction := by
  constructor
  · intro hosted
    cases fenced : manager.fencedClient token with
    | error error => simp [clientHosting, fenced, Except.toOption] at hosted
    | ok entry =>
      refine ⟨entry, isLive_of_fencedClient fenced, ?_⟩
      simpa [clientHosting, fenced, Except.toOption] using hosted
  · rintro ⟨entry, live, rfl⟩
    simp [clientHosting, fencedClient_of_isLive live, Except.toOption]

/-- A client that was live takes what the operation has for it, at once. -/
theorem alone_of_gives {given : TransactionKey → Option ClientInput}
    (gives : manager.Gives operation given) {entry : Entry ClientTransaction}
    (live : manager.IsLive token entry) :
    clientHosting.alone token entry.transaction [operation] =
      Run.after ClientTransaction.step entry.transaction (given token.key).toList := by
  rw [Hosting.alone, ← gives token entry live]
  simp only [clientHosting, List.filterMap_cons]
  cases operation.clientInput token <;> rfl

theorem Changes.lawful {issued : Option Token} {entry : Entry ClientTransaction}
    (changes : Changes manager operation next issued) (live : next.IsLive token entry) :
    (∃ before, manager.IsLive token before ∧
      entry.transaction = clientHosting.alone token before.transaction [operation]) ∨
      (issued = some token ∧ operation.registers = some entry.transaction) := by
  obtain ⟨role, found, generation⟩ := live
  have same (kept : manager.clients.lookup token.key = some entry)
      {given : TransactionKey → Option ClientInput} (gives : manager.Gives operation given)
      (idle : given token.key = none) : ∃ before, manager.IsLive token before ∧
        entry.transaction = clientHosting.alone token before.transaction [operation] := by
    have live : manager.IsLive token entry := ⟨role, kept, generation⟩
    refine ⟨entry, live, ?_⟩
    rw [alone_of_gives gives live, idle]
    rfl
  cases changes with
  | servers changes idle => exact .inl (same (changes.clients ▸ found) idle rfl)
  | registered key transaction named admitted registers idle =>
    rcases KeyMap.lookup_insert_cases found with ⟨rfl, rfl⟩ | ⟨-, kept⟩
    · refine .inr ⟨?_, registers⟩
      cases token
      cases role
      cases generation
      rfl
    · exact .inl (same kept idle rfl)
  | updated key before known input gives =>
    rcases KeyMap.lookup_insert_cases found with ⟨rfl, rfl⟩ | ⟨other, kept⟩
    · have live : manager.IsLive token before := ⟨role, known, generation⟩
      refine .inl ⟨before, live, ?_⟩
      rw [alone_of_gives gives live, if_pos rfl]
      rfl
    · exact .inl (same kept gives (if_neg other))
  | erased key idle => exact .inl (same (KeyMap.lookup_of_erase found).2 idle rfl)
  | closed idle => exact .inl (same found idle rfl)

theorem lawful_clientHosting : clientHosting.Lawful := by
  intro manager operation token transaction hosted
  obtain ⟨entry, live, rfl⟩ := hosted_eq_some.mp hosted
  obtain ⟨between, store, changes, applied⟩ := manager.apply_changes operation
  have live : between.IsLive token entry := by
    rw [show (clientHosting.apply manager operation).1 = _ from applied] at live
    exact ⟨live.role, live.found, live.generation⟩
  rcases changes.lawful live with ⟨before, was, moved⟩ | ⟨issues, registers⟩
  · exact .inl ⟨_, hosted_eq_some.mpr ⟨before, was, rfl⟩, moved⟩
  · exact .inr ((if_pos issues).trans registers)

/-- In every run of a manager, each client transaction that is live is where it would be
had it been alone since it was registered. -/
theorem clients_run_alone (manager : TransactionManager) (operations : List ManagerOperation) :
    clientHosting.RunsAlone manager operations :=
  lawful_clientHosting.runsAlone manager operations

end TransactionManager

end Transaction
end LiveAISIP
