import LiveAISIP.Dialog.Core
import LiveAISIP.Library.KeyMap
import Mathlib.Algebra.Group.Nat.Defs

/-!
# Dialog registry

The capacity-bounded dialog registry of `sip/dialog/manager.rs`, and the
construction of dialog identities from message fields of `sip/dialog/id.rs`.
-/

namespace LiveAISIP
namespace Dialog

open Sip

/-- The ownership side of a dialog tag. -/
inductive TagRole
  | localSide
  | remoteSide

/-- A dialog-identifier construction failure. -/
inductive DialogIdError
  | missingTag (role : TagRole)
  | emptyTag (role : TagRole)
  | tagTooLong (role : TagRole) (length maximum : Nat)
  | invalidTag (role : TagRole) (index : Nat)

/-- Check a tag: a nonempty token of bounded size. -/
def validateTag (text : String) (role : TagRole) : Except DialogIdError Tag :=
  if empty : text = "" then
    .error (.emptyTag role)
  else if bounded : text.utf8ByteSize ≤ maxToTagBytes then
    -- The characters before the first that is no token have one byte each.
    if token : text.toList.all isTokenChar = true then
      .ok ⟨text, empty, bounded, token⟩
    else
      .error (.invalidTag role (text.toList.findIdx fun char => !isTokenChar char))
  else
    .error (.tagTooLong role text.utf8ByteSize maxToTagBytes)

/-- A tag is accepted as itself. -/
@[simp] theorem validateTag_text (tag : Tag) (role : TagRole) :
    validateTag tag.text role = .ok tag := by
  simp [validateTag, tag.nonempty, tag.bounded, tag.token]

/-- Create a dialog identifier from the texts of its tags. -/
def DialogId.new
    (callId : String) (localTag remoteTag : String) : Except DialogIdError DialogId := do
  let localTag ← validateTag localTag .localSide
  let remoteTag ← validateTag remoteTag .remoteSide
  return ⟨callId, localTag, remoteTag⟩

@[simp] theorem DialogId.new_text
    (callId : String) (localTag remoteTag : Tag) :
    DialogId.new callId localTag.text remoteTag.text = .ok ⟨callId, localTag, remoteTag⟩ := by
  simp [DialogId.new, Bind.bind, Except.bind, Pure.pure, Except.pure]

/-- Hard maximum number of dialogs in one registry. -/
def maxDialogs : Nat := 1048576

/-- Generation-fenced handle to a registered dialog. -/
structure DialogToken where
  id : DialogId
  generation : Nat

/-- Dialog registry failure. -/
inductive DialogManagerError
  | invalidCapacity (value maximum : Nat)
  | shuttingDown
  | terminatedDialog
  | capacity (maximum : Nat)
  | duplicate
  | unknown
  | staleGeneration
  | generationExhausted
  | allocationFailed

/-- One registered dialog with its generation. -/
structure Entry where
  generation : Nat
  dialog : Dialog

end Dialog

/-- Bounded dialog manager. -/
structure DialogManager where
  maximum : Nat
  nextGeneration : Nat
  shuttingDown : Bool
  entries : KeyMap Dialog.DialogId Dialog.Entry

namespace DialogManager

open Dialog

variable {manager : DialogManager} {token : DialogToken} {dialog : Dialog}

/-- Create an empty registry with a validated capacity. -/
def new (maximum : Nat) : Except DialogManagerError DialogManager :=
  if maximum = 0 ∨ maximum > maxDialogs then .error (.invalidCapacity maximum maxDialogs)
  else .ok ⟨maximum, 1, false, ∅⟩

/-- Register an active dialog; a failure changes nothing. -/
def insert
    (manager : DialogManager) (dialog : Dialog)
    (allocated : Bool) : DialogManager × Except DialogManagerError DialogToken :=
  if manager.shuttingDown then
    (manager, .error .shuttingDown)
  else if dialog.state = .terminated then
    (manager, .error .terminatedDialog)
  else if dialog.id ∈ manager.entries then
    (manager, .error .duplicate)
  else if manager.entries.size ≥ manager.maximum then
    (manager, .error (.capacity manager.maximum))
  else if manager.nextGeneration + 1 < 2 ^ 64 then
    if allocated then
      ({ manager with
          nextGeneration := manager.nextGeneration + 1
          entries := manager.entries.insert dialog.id
            ⟨manager.nextGeneration, dialog⟩ }, .ok ⟨dialog.id, manager.nextGeneration⟩)
    else
      (manager, .error .allocationFailed)
  else
    (manager, .error .generationExhausted)

/-- A token for the registered generation of an identifier. -/
def tokenFor (manager : DialogManager) (id : DialogId) : Option DialogToken :=
  (manager.entries.lookup id).map fun entry => ⟨id, entry.generation⟩

/-- The dialog of an exact generation. -/
def get (manager : DialogManager) (token : DialogToken) : Except DialogManagerError Dialog :=
  match manager.entries.lookup token.id with
  | none => .error .unknown
  | some entry =>
    if entry.generation = token.generation then .ok entry.dialog
    else .error .staleGeneration

/-- Change the dialog of an exact generation, as through mutable access. -/
def getMut
    (manager : DialogManager) (token : DialogToken)
    (change : Dialog → Dialog × Except DialogError α) :
    DialogManager × Except (DialogManagerError ⊕ DialogError) α :=
  match manager.get token with
  | .error error => (manager, .error (.inl error))
  | .ok dialog =>
    let (changed, outcome) := change dialog
    ({ manager with
        entries := manager.entries.insert token.id
          ⟨token.generation, changed⟩ }, outcome.mapError .inr)

/-- Permanently prevent the admission of new dialogs. -/
def beginShutdown (manager : DialogManager) : DialogManager := { manager with shuttingDown := true }

/-- The registered dialog of an identifier. -/
def dialogOf (manager : DialogManager) (id : DialogId) : Option Dialog :=
  (manager.entries.lookup id).map Entry.dialog

/-- The token of an identifier reaches its registered dialog. -/
theorem get_of_tokenFor {id : DialogId}
    (registered : manager.tokenFor id = some token) :
    ∃ dialog, token.id = id ∧ manager.dialogOf id = some dialog ∧
      manager.get token = .ok dialog := by
  unfold tokenFor at registered
  obtain ⟨entry, found, rfl⟩ := Option.map_eq_some_iff.mp registered
  exact ⟨entry.dialog, rfl, by simp [dialogOf, found], by simp [get, found]⟩

theorem dialogOf_of_get
    (known : manager.get token = .ok dialog) :
    manager.dialogOf token.id = some dialog := by
  unfold get at known
  cases found : manager.entries.lookup token.id with
  | none => simp [found] at known
  | some entry =>
    simp only [found] at known
    split_ifs at known
    simpa [dialogOf, found] using known

/-- A change stores the changed dialog and leaves the others. -/
theorem dialogOf_getMut
    (known : manager.get token = .ok dialog)
    (change : Dialog → Dialog × Except DialogError α) (id : DialogId) :
    (manager.getMut token change).1.dialogOf id =
      if id = token.id then some (change dialog).1 else manager.dialogOf id := by
  simp only [getMut, known, dialogOf]
  split_ifs with same
  · rw [same, AList.lookup_insert]
    rfl
  · rw [AList.lookup_insert_ne same]

/-- Registering a dialog leaves the registered ones. -/
theorem dialogOf_insert {id : DialogId} {known : Dialog}
    (registered : manager.dialogOf id = some known) (allocated : Bool) :
    (manager.insert dialog allocated).1.dialogOf id = some known := by
  unfold insert
  split_ifs with shuttingDown terminated duplicate full counted reserved <;> try exact registered
  have other : id ≠ dialog.id := by
    rintro rfl
    apply duplicate
    rw [← AList.lookup_isSome]
    obtain ⟨entry, found, -⟩ := Option.map_eq_some_iff.mp registered
    simp [found]
  simpa [dialogOf, AList.lookup_insert_ne other] using registered

/-- A registered dialog is found under its identity. -/
theorem dialogOf_insert_self
    {next : DialogManager} {allocated : Bool}
    (registered : manager.insert dialog allocated = (next, .ok token)) :
    next.dialogOf dialog.id = some dialog ∧ dialog.state ≠ .terminated := by
  unfold insert at registered
  split_ifs at registered with shuttingDown terminated duplicate full counted
    reserved <;> cases registered
  exact ⟨by simp [dialogOf], terminated⟩

end DialogManager
end LiveAISIP
