import LiveAISIP.Sip.Header
import LiveAISIP.Sip.Via
import Mathlib.Algebra.GroupWithZero.Nat

/-!
# Via fields of a message

How `sip/validation/headers.rs` unfolds a field value, and how it combines all Via
fields of a message into one list within the limits of the message.
-/

namespace LiveAISIP
namespace Sip
namespace Headers

open Ascii Outcome Quoted

/-- Maximum accepted size of a raw field value. -/
def maxHeaderValueBytes : Nat := 64 * 1024

/-- Maximum number of folds in one field value. -/
def maxFoldsPerCoreHeader : Nat := 64

/-- Maximum number of folds in all typed headers of a message. -/
def maxCoreHeaderFolds : Nat := 256

/-- Maximum unfolded size of all typed headers of a message. -/
def maxTypedCoreHeaderBytes : Nat := 32 * 1024

/-- Maximum number of Via hops of a message. -/
def maxTotalViaEntries : Nat := maxViaEntries

/-- Maximum number of Via parameters of a message. -/
def maxTotalViaParameters : Nat := 512

/-- Failure to unfold a field value. -/
inductive LogicalValueError
  | tooLong (length maximum : Nat)
  | bareCarriageReturn (index : Nat)
  | bareLineFeed (index : Nat)
  | missingContinuationWhitespace (index : Nat)
  | invalidControl (index : Nat) (byte : UInt8)
  | tooManyFolds (count maximum : Nat)
  | lengthOverflow
  | allocationFailed (requested : Nat)
  deriving DecidableEq

/-- A byte of a field value. -/
def isFieldValueByte (byte : UInt8) : Bool := byte == 9 || (32 ≤ byte && byte ≤ 126) || 128 ≤ byte

/-- The lengths of a field value as it is unfolded. -/
structure ValueScan where
  outputLength : Nat
  leadingWhitespace : Nat
  trailingWhitespace : Nat
  sawNonWhitespace : Bool
  folds : Nat
  deriving DecidableEq

namespace ValueScan

/-- The lengths after a fold, which stands for one space instead of the space
around it. -/
def fold (scan : ValueScan) : ValueScan where
  outputLength := scan.outputLength - scan.trailingWhitespace + 1
  leadingWhitespace := if scan.sawNonWhitespace then scan.leadingWhitespace else 1
  trailingWhitespace := 1
  sawNonWhitespace := scan.sawNonWhitespace
  folds := scan.folds + 1

/-- The lengths after one more byte. -/
def push (scan : ValueScan) (byte : UInt8) : ValueScan :=
  if isWsp byte then
    { scan with
      outputLength := scan.outputLength + 1
      trailingWhitespace := scan.trailingWhitespace + 1
      leadingWhitespace :=
        if scan.sawNonWhitespace then scan.leadingWhitespace
        else scan.leadingWhitespace + 1 }
  else
    { scan with
      outputLength := scan.outputLength + 1
      sawNonWhitespace := true
      trailingWhitespace := 0 }

/-- The length without the space around the value. -/
def trimmedLength (scan : ValueScan) : Nat :=
  if scan.sawNonWhitespace then scan.outputLength - scan.leadingWhitespace - scan.trailingWhitespace
  else 0

end ValueScan

/-- Check the bytes of a field value and count its folds; `skipping` tells of the
space after a fold. -/
def scanValue (scan : ValueScan) (index : Nat) (skipping : Bool) :
    Bytes → Except LogicalValueError ValueScan
  | [] => .ok scan
  | byte :: rest =>
    if skipping && isWsp byte then scanValue scan (index + 1) true rest
    else if byte = 13 then
      match rest with
      | [] => .error (.bareCarriageReturn index)
      | next :: rest =>
        if next ≠ 10 then .error (.bareCarriageReturn index)
        else if ¬rest.head?.any isWsp then
          .error (.missingContinuationWhitespace index)
        else if maxFoldsPerCoreHeader < scan.folds + 1 then
          .error (.tooManyFolds (scan.folds + 1) maxFoldsPerCoreHeader)
        else scanValue scan.fold (index + 2) true rest
    else if byte = 10 then .error (.bareLineFeed index)
    else if ¬isFieldValueByte byte then .error (.invalidControl index byte)
    else scanValue (scan.push byte) (index + 1) false rest

/-- The plan for the unfolding of a raw field value. -/
def analyzeLogicalValue (input : Bytes) : Except LogicalValueError ValueScan := do
  ensure (input.length ≤ maxHeaderValueBytes) (.tooLong input.length maxHeaderValueBytes)
  scanValue ⟨0, 0, 0, false, 0⟩ 0 false input

/-- Unfold the rest of a field value after some output. -/
def unfoldValue (output : Bytes) (index : Nat) (skipping : Bool) :
    Bytes → Except LogicalValueError Bytes
  | [] => .ok output
  | byte :: rest =>
    if skipping && isWsp byte then unfoldValue output (index + 1) true rest
    else if byte = 13 then
      match rest with
      | [] => .error (.bareCarriageReturn index)
      | next :: rest =>
        if next ≠ 10 then .error (.bareCarriageReturn index)
        else if ¬rest.head?.any isWsp then
          .error (.missingContinuationWhitespace index)
        else unfoldValue (output.rdropWhile isWsp ++ [32]) (index + 2) true rest
    else if byte = 10 then .error (.bareLineFeed index)
    else if ¬isFieldValueByte byte then .error (.invalidControl index byte)
    else unfoldValue (output ++ [byte]) (index + 1) false rest

/-- The unfolded value, for which there is a plan. -/
def materializeLogicalValue (grants : Nat → Bool) (input : Bytes) (analysis : ValueScan) :
    Except LogicalValueError Bytes :=
  if analysis.folds = 0 then .ok input
  else do
    ensure (grants analysis.outputLength = true) (.allocationFailed analysis.outputLength)
    let output ← unfoldValue [] 0 false input
    ensure (output.length = analysis.outputLength) .lengthOverflow
    return output

/-- The unfolded value of a raw field value. -/
def logicalValue (grants : Nat → Bool) (input : Bytes) : Except LogicalValueError Bytes := do
  let analysis ← analyzeLogicalValue input
  materializeLogicalValue grants input analysis

/-- The place of a typed header in a message. -/
structure HeaderLocation where
  kind : HeaderKind
  index : Nat
  occurrence : Nat

/-- Failure to validate a Via field of a message. -/
inductive ViaFieldError
  | invalidLogicalValue (location : HeaderLocation) (source : LogicalValueError)
  | headerValueTooLong (location : HeaderLocation) (length maximum : Nat)
  | coreHeaderBytesExceeded (location : HeaderLocation) (count maximum : Nat)
  | coreHeaderFoldsExceeded (location : HeaderLocation) (count maximum : Nat)
  | invalidVia (location : HeaderLocation) (source : ViaParseError)
  | tooManyViaEntries (location : HeaderLocation) (count maximum : Nat)
  | tooManyViaParameters (location : HeaderLocation) (count maximum : Nat)

/-- What the typed headers of a message have taken so far. -/
structure CoreHeaderBudget where
  bytes : Nat
  folds : Nat

/-- Account for one more field value. -/
def CoreHeaderBudget.account
    (budget : CoreHeaderBudget) (location : HeaderLocation)
    (analysis : ValueScan) : Except ViaFieldError CoreHeaderBudget := do
  let bytes := budget.bytes + analysis.outputLength
  ensure (bytes ≤ maxTypedCoreHeaderBytes)
    (.coreHeaderBytesExceeded location bytes maxTypedCoreHeaderBytes)
  let folds := budget.folds + analysis.folds
  ensure (folds ≤ maxCoreHeaderFolds) (.coreHeaderFoldsExceeded location folds maxCoreHeaderFolds)
  return ⟨bytes, folds⟩

/-- The Via fields of a message so far. -/
structure CoreHeadersBuilder where
  via : Option Via
  viaFieldCount : Nat
  viaParameterCount : Nat
  budget : CoreHeaderBudget

/-- The error about a Via field, counted over the whole message. -/
def mapBudgetedViaError
    (location : HeaderLocation) (existingEntries existingParameters : Nat) :
    BudgetedParseError → ViaFieldError
  | .parse source => .invalidVia location source
  | .entryBudgetExceeded attempted _ =>
    .tooManyViaEntries location (existingEntries + attempted) maxTotalViaEntries
  | .totalParameterBudgetExceeded attempted _ =>
    .tooManyViaParameters location (existingParameters + attempted) maxTotalViaParameters

namespace CoreHeadersBuilder

/-- Before the first field. -/
def new : CoreHeadersBuilder := ⟨none, 0, 0, ⟨0, 0⟩⟩

/-- The unfolded value of a field within the limits, and the budget after it. -/
def prepareValue
    (grants : Nat → Bool) (builder : CoreHeadersBuilder)
    (location : HeaderLocation) (rawValue : Bytes) :
    Except ViaFieldError (Bytes × CoreHeaderBudget) := do
  let analysis ← (analyzeLogicalValue rawValue).mapError (.invalidLogicalValue location)
  ensure (analysis.trimmedLength ≤ maxViaBytes)
    (.headerValueTooLong location analysis.trimmedLength maxViaBytes)
  let budget ← builder.budget.account location analysis
  let value ← (materializeLogicalValue grants rawValue analysis).mapError
    (.invalidLogicalValue location)
  return (value, budget)

/-- Add the hops of one field at the bottom. -/
def parseViaField
    (grants : Nat → Bool) (builder : CoreHeadersBuilder)
    (location : HeaderLocation) (rawValue : Bytes) : Except ViaFieldError CoreHeadersBuilder := do
  let existingEntries := (builder.via.map fun via => via.entries.length).getD 0
  let existingParameters := builder.viaParameterCount
  let (value, budget) ← builder.prepareValue grants location rawValue
  let parsed ← (parseWithBudget (trim value) (maxTotalViaEntries - existingEntries)
    (maxTotalViaParameters - existingParameters)).mapError
      (mapBudgetedViaError location existingEntries existingParameters)
  let totalEntries := existingEntries + parsed.entries.length
  ensure (totalEntries ≤ maxTotalViaEntries)
    (.tooManyViaEntries location totalEntries maxTotalViaEntries)
  let totalParameters := existingParameters +
    (parsed.entries.map fun entry => entry.parameters.length).sum
  ensure (totalParameters ≤ maxTotalViaParameters)
    (.tooManyViaParameters location totalParameters maxTotalViaParameters)
  let combined ←
    match builder.via with
    | some combined =>
      (parsed.entries.foldlM Via.pushEntry combined).mapError fun _ =>
        .tooManyViaEntries location totalEntries maxTotalViaEntries
    | none => .ok parsed
  return {
    via := some combined
    viaFieldCount := builder.viaFieldCount + 1
    viaParameterCount := totalParameters
    budget := budget }

/-- Take the Via field at an index of the message. -/
def consume (grants : Nat → Bool) (builder : CoreHeadersBuilder) (field : Nat × Bytes) :
    Except ViaFieldError CoreHeadersBuilder :=
  builder.parseViaField grants ⟨.via, field.1, builder.viaFieldCount + 1⟩ field.2

end CoreHeadersBuilder

end Headers
end Sip
end LiveAISIP
