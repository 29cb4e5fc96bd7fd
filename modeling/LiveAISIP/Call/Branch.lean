import LiveAISIP.Sip.Types

/-!
# Forked dialog branches

The bounded set of early and confirmed branches of one outbound INVITE, from
`call/model/branch.rs`.  A branch identity and the fork set both carry their
invariants: an identity is a nonempty bounded text without control
characters, and a set holds each identity once and at most sixteen of them.
-/

namespace LiveAISIP
namespace Call

open Sip
open List

/-- Maximum early and confirmed branches retained for one forked INVITE. -/
def maxForkedDialogs : Nat := 16

/-- Maximum remote tag bytes used to identify one branch. -/
def maxDialogBranchIdBytes : Nat := 256

/-- A Unicode control character. -/
def isControl (char : Char) : Bool := char.toNat < 32 || (127 ≤ char.toNat && char.toNat < 160)

/-- Fork branch failure. -/
inductive ForkError
  | invalidBranchId
  | branchLimitExceeded
  | allocationFailed
  deriving DecidableEq

/-- Remote To-tag identity for one fork branch. -/
@[ext] structure DialogBranchId where
  asStr : String
  nonempty : asStr ≠ ""
  bounded : asStr.utf8ByteSize ≤ maxDialogBranchIdBytes
  printable : asStr.toList.any isControl = false

namespace DialogBranchId

instance : DecidableEq DialogBranchId := fun _ _ => decidable_of_iff _ DialogBranchId.ext_iff.symm

/-- Create a bounded branch identifier. -/
def new (value : String) : Except ForkError DialogBranchId :=
  if checked : value ≠ "" ∧ value.utf8ByteSize ≤ maxDialogBranchIdBytes ∧
      value.toList.any isControl = false then
    .ok ⟨value, checked.1, checked.2.1, checked.2.2⟩
  else
    .error .invalidBranchId

/-- The text of an identity is accepted again as the same identity. -/
@[simp] theorem new_asStr (id : DialogBranchId) : new id.asStr = .ok id := by
  simp [new, id.nonempty, id.bounded, id.printable]

end DialogBranchId

/-- A token character is not a control character. -/
theorem not_isControl_of_isTokenChar
    {char : Char} (token : isTokenChar char = true) :
    isControl char = false := by
  obtain ⟨ascii, tokenByte⟩ : char.toNat < 128 ∧ isTokenByte char.toNat.toUInt8 = true := by
    simpa [isTokenChar] using token
  have checked : ∀ code : Fin 128, isTokenByte code.val.toUInt8 = true →
        (code.val < 32 || (127 ≤ code.val && code.val < 160)) = false := by
    decide
  exact checked ⟨char.toNat, ascii⟩ tokenByte

/-- The branch identity a `To` tag names. -/
def branchOfTag (tag : Tag) : DialogBranchId where
  asStr := tag.text
  nonempty := tag.nonempty
  bounded := tag.bounded
  printable := by
    rw [any_eq_false]
    intro char member
    have token := all_eq_true.mp tag.token char member
    simp [not_isControl_of_isTokenChar token]

/-- Every `To` tag is accepted as a branch identity. -/
@[simp] theorem DialogBranchId.new_tag (tag : Tag) :
    DialogBranchId.new tag.text = .ok (branchOfTag tag) :=
  DialogBranchId.new_asStr (branchOfTag tag)

/-- Per-branch lifecycle. -/
inductive BranchState
  | early
  | confirmed
  | terminated
  deriving DecidableEq

/-- One fork branch. -/
structure Branch where
  id : DialogBranchId
  state : BranchState

/-- Fixed-bound set of fork branches, each identity held once. -/
structure ForkSet where
  branches : List Branch
  distinct : (branches.map Branch.id).Nodup
  bounded : branches.length ≤ maxForkedDialogs

namespace ForkSet

/-- The set without branches. -/
def empty : ForkSet := ⟨[], by simp, by simp⟩

/-- Create an empty set once its maximum storage could be reserved. -/
def new (reserved : Bool) : Except ForkError ForkSet :=
  if reserved then .ok empty else .error .allocationFailed

/-- The set retains a branch of this identity. -/
def Knows (forks : ForkSet) (id : DialogBranchId) : Prop := id ∈ forks.branches.map Branch.id

instance (forks : ForkSet) (id : DialogBranchId) : Decidable (forks.Knows id) :=
  inferInstanceAs (Decidable (_ ∈ _))

/-- Overwrite the state of the branch with one identity. -/
def overwrite
    (id : DialogBranchId) (state : BranchState) (branches : List Branch) : List Branch :=
  branches.map fun branch =>
    if branch.id = id then { branch with state := state } else branch

@[simp] theorem overwrite_ids
    (id : DialogBranchId) (state : BranchState) (branches : List Branch) :
    (overwrite id state branches).map Branch.id = branches.map Branch.id := by
  simp only [overwrite, map_map]
  apply map_congr_left
  intro branch _
  simp only [Function.comp_apply]
  split_ifs <;> rfl

@[simp] theorem overwrite_length
    (id : DialogBranchId) (state : BranchState) (branches : List Branch) :
    (overwrite id state branches).length = branches.length := by
  simp [overwrite]

/-- Insert or update a branch. -/
def upsert
    (forks : ForkSet) (id : DialogBranchId) (state : BranchState) : Except ForkError ForkSet :=
  if known : forks.Knows id then
    .ok ⟨overwrite id state forks.branches, by simpa using forks.distinct,
      by simpa using forks.bounded⟩
  else if full : forks.branches.length = maxForkedDialogs then
    .error .branchLimitExceeded
  else
    .ok ⟨forks.branches ++ [⟨id, state⟩],
      by
        rw [map_append, nodup_append]
        refine ⟨forks.distinct, by simp, ?_⟩
        rintro old member new newMember rfl
        obtain rfl : old = id := by simpa using newMember
        exact known member,
      by
        have := forks.bounded
        simp only [length_append, length_singleton]
        omega⟩

/-- Insert or update an early branch. -/
def noteEarly (forks : ForkSet) (id : DialogBranchId) : Except ForkError ForkSet :=
  forks.upsert id .early

/-- Insert or confirm a branch. -/
def noteConfirmed (forks : ForkSet) (id : DialogBranchId) : Except ForkError ForkSet :=
  forks.upsert id .confirmed

/-- Mark a known or newly observed final branch terminated. -/
def noteTerminated (forks : ForkSet) (id : DialogBranchId) : Except ForkError ForkSet :=
  forks.upsert id .terminated

/-- The lifecycle of one branch. -/
def state (forks : ForkSet) (id : DialogBranchId) : Option BranchState :=
  (forks.branches.find? fun branch => branch.id = id).map Branch.state

/-- Some nonterminated branch remains. -/
def hasLiveBranches (forks : ForkSet) : Bool :=
  forks.branches.any fun branch => branch.state ≠ .terminated

/-- The set can take in or update this identity. -/
def Admits (forks : ForkSet) (id : DialogBranchId) : Prop :=
  forks.Knows id ∨ forks.branches.length < maxForkedDialogs

instance (forks : ForkSet) (id : DialogBranchId) : Decidable (forks.Admits id) :=
  inferInstanceAs (Decidable (_ ∨ _))

/-- An update of an admitted branch succeeds; the updated branch replaces the
one of its identity and every other branch is unchanged. -/
theorem upsert_of_admits
    {forks : ForkSet} {id : DialogBranchId} (admits : forks.Admits id) (state : BranchState) :
    ∃ updated, forks.upsert id state = .ok updated ∧ ∀ branch, branch ∈ updated.branches ↔
        branch = ⟨id, state⟩ ∨ (branch ∈ forks.branches ∧ branch.id ≠ id) := by
  unfold upsert
  by_cases known : forks.Knows id
  · simp only [known, ↓reduceDIte]
    refine ⟨_, rfl, fun branch => ?_⟩
    simp only [overwrite, mem_map]
    constructor
    · rintro ⟨old, member, rfl⟩
      by_cases same : old.id = id
      · left
        simp [same]
      · right
        simp [same, member]
    · rintro (rfl | ⟨member, other⟩)
      · obtain ⟨old, member, same⟩ := mem_map.mp known
        exact ⟨old, member, by simp [same]⟩
      · exact ⟨branch, member, by simp [other]⟩
  · have room : forks.branches.length ≠ maxForkedDialogs := Nat.ne_of_lt (admits.resolve_left known)
    simp only [known, room, ↓reduceDIte]
    refine ⟨_, rfl, fun branch => ?_⟩
    simp only [mem_append, mem_singleton]
    constructor
    · rintro (member | rfl)
      · right
        refine ⟨member, ?_⟩
        rintro rfl
        exact known (mem_map_of_mem member)
      · exact .inl rfl
    · rintro (rfl | ⟨member, -⟩)
      · exact .inr rfl
      · exact .inl member

/-- An update of a branch that is not admitted is refused. -/
theorem upsert_of_not_admits
    {forks : ForkSet} {id : DialogBranchId} (refused : ¬forks.Admits id) (state : BranchState) :
    forks.upsert id state = .error .branchLimitExceeded := by
  obtain ⟨unknown, noRoom⟩ := not_or.mp refused
  have full : forks.branches.length = maxForkedDialogs :=
    Nat.le_antisymm forks.bounded (Nat.not_lt.mp noRoom)
  simp [upsert, unknown, full]

/-- Live branches are the members that are not terminated. -/
theorem hasLiveBranches_iff (forks : ForkSet) : forks.hasLiveBranches = true ↔
      ∃ branch ∈ forks.branches, branch.state ≠ .terminated := by
  simp [hasLiveBranches]

end ForkSet

end Call
end LiveAISIP
