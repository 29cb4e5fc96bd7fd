import LiveAISIP.Call.Lifecycle

/-!
# Responses as call events

The translation of a delivered SIP response into a call event, from
`call/signaling/wire.rs`.
-/

namespace LiveAISIP
namespace Call

open Sip
open DialogBranchId

/-- The branch text of a response without a `To` tag. -/
def untaggedFinal : String := "untagged-final"

/-- The branch text of a response. -/
def branchText (response : ValidatedResponse) : String :=
  match response.toHeader.tag with
  | some tag => tag.text
  | none => untaggedFinal

/-- The event that a response means to its branch. -/
def branchEvent
    (response : ValidatedResponse) (branch : DialogBranchId) : Option CallEvent :=
  match response.cseq.method with
  | .invite =>
    if response.status.Provisional then some (.provisional branch (!response.body.isEmpty))
    else if response.status.Success then some (.inviteAccepted branch)
    else some (.inviteRejected branch response.status.asU16)
  | .cancel => if response.status.Success then some .cancelAccepted else none
  | .bye => if response.status.Success then some (.byeCompleted branch) else none
  | _ => none

/-- The call event of a delivered response, if it has one. -/
def responseEvent (response : ValidatedResponse) : Except ForkError (Option CallEvent) :=
  if response.status.asU16 = 100 then
    .ok none
  else
    match new (branchText response) with
    | .error error => .error error
    | .ok branch => .ok (branchEvent response branch)

/-- The identity that stands for a missing tag. -/
def untaggedBranch : DialogBranchId where
  asStr := untaggedFinal
  nonempty := by decide
  bounded := by decide
  printable := by decide

/-- The branch that a response belongs to. -/
def branchOf (response : ValidatedResponse) : DialogBranchId :=
  match response.toHeader.tag with
  | some tag => branchOfTag tag
  | none => untaggedBranch

/-- Every validated response names a branch. -/
theorem new_branchText (response : ValidatedResponse) :
    new (branchText response) = .ok (branchOf response) := by
  unfold branchText branchOf
  cases response.toHeader.tag with
  | none => exact new_asStr untaggedBranch
  | some tag => exact new_tag tag

/-- Translation never fails on a validated response. -/
theorem responseEvent_eq (response : ValidatedResponse) :
    responseEvent response = .ok (if response.status.asU16 = 100 then none
        else branchEvent response (branchOf response)) := by
  unfold responseEvent
  split_ifs
  · rfl
  · rw [new_branchText]

end Call
end LiveAISIP
