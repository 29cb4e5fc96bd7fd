import LiveAISIP.Call.Runtime
import LiveAISIP.Library.Journal
import LiveAISIP.Sip.IpRoundTrip

/-!
# Transfers

The `Refer-To` headers of blind and attended transfers, and the REFER
subscription (`call/model/transfer.rs`).  An attended transfer appends a
`Replaces` header to the text of the target, behind a separator that is chosen by
looking for a question mark anywhere in that text.
-/

namespace LiveAISIP
namespace Call

open Ascii Dialog Outcome Sip Text
open List TransferTarget

/-- Maximum generated `Refer-To` field bytes. -/
def maxReferToBytes : Nat := 16 * 1024

/-- Why a transfer target is refused. -/
inductive TransferTargetError
  | parse (error : UriParseError)
  | notSipUri
  deriving DecidableEq

/-- Parse a transfer target. -/
def TransferTarget.parse (value : Bytes) : Except TransferTargetError TransferTarget :=
  match parseUri value with
  | .error error => .error (.parse error)
  | .ok (.absolute _) => .error .notSipUri
  | .ok (.sip uri) => .ok ⟨uri⟩

/-- Why a transfer operation fails. -/
inductive TransferError
  | valueTooLong
  | allocationFailed
  | headerName (error : HeaderNameError)
  | headerValue (error : HeaderValueError)
  | invalidState
  | invalidStatus
  | notificationLimitExceeded

/-- An upper-case hexadecimal digit. -/
def hexDigit (value : UInt8) : UInt8 :=
  [48, 49, 50, 51, 52, 53, 54, 55, 56, 57, 65, 66, 67, 68, 69, 70][value.toNat]?.getD 0

/-- The byte stands for itself in a query. -/
def isQueryByte (byte : UInt8) : Bool := isAlphanumeric byte || [45, 46, 95, 126].contains byte

/-- What a byte is written as in a query. -/
def encodedByte (byte : UInt8) : Bytes :=
  if isQueryByte byte then [byte] else [37, hexDigit (byte >>> 4), hexDigit (byte &&& 15)]

/-- Append the encoding of a text. -/
def encodeQueryComponent (input output : Bytes) : Except TransferError Bytes :=
  match input with
  | [] => .ok output
  | byte :: rest =>
    let output := output ++ encodedByte byte
    if maxReferToBytes < output.length then .error .valueTooLong
    else encodeQueryComponent rest output

/-- Headers required by an outbound REFER request. -/
structure TransferRequestHeaders where
  referTo : Header

namespace TransferRequestHeaders

/-- The field of a generated value. -/
def fromValue (value : Bytes) : Except TransferError TransferRequestHeaders :=
  if maxReferToBytes < value.length then .error .valueTooLong
  else do
    let name ← (HeaderName.fromBytes (wireBytes "Refer-To")).mapError .headerName
    let value ← (HeaderValue.fromBytes value).mapError .headerValue
    return ⟨⟨name, value⟩⟩

/-- Refer to a target. -/
def blind (target : TransferTarget) : Except TransferError TransferRequestHeaders :=
  fromValue ([60] ++ target.uri.render ++ [62])

/-- The dialog that an attended transfer replaces. -/
def replacesValue (replaces : DialogId) : Bytes :=
  wireBytes replaces.callId ++ wireBytes ";to-tag=" ++ wireBytes replaces.remoteTag.text ++
    wireBytes ";from-tag=" ++ wireBytes replaces.localTag.text

/-- Refer to a target with the dialog that the new call replaces. -/
def attended (target : TransferTarget) (replaces : DialogId) (reserved : Bool) :
    Except TransferError TransferRequestHeaders := do
  let targetText := target.uri.render
  let separator : UInt8 := if targetText.contains 63 then 38 else 63
  let replacesValue := replacesValue replaces
  let reserve := targetText.length + replacesValue.length * 3 + 14
  if maxReferToBytes < reserve then .error .valueTooLong
  else if ¬reserved then .error .allocationFailed
  else
    let value ← encodeQueryComponent replacesValue
      ([60] ++ targetText ++ [separator] ++ wireBytes "Replaces=")
    fromValue (value ++ [62])

/-- The text between the angle brackets. -/
def text (headers : TransferRequestHeaders) : Bytes := headers.referTo.value.bytes.tail.dropLast

end TransferRequestHeaders

theorem isQueryByte_hexDigit {value : UInt8} (small : value < 16) :
    isQueryByte (hexDigit value) = true ∧ isHexDigit (hexDigit value) = true ∧
      hexValue (hexDigit value) = some value := by
  have checked : ∀ digit : Fin 16, isQueryByte (hexDigit digit.val.toUInt8) = true ∧
      isHexDigit (hexDigit digit.val.toUInt8) = true ∧
      hexValue (hexDigit digit.val.toUInt8) = some digit.val.toUInt8 := by
    decide
  simpa using checked ⟨value.toNat, small⟩

theorem nibbles (byte : UInt8) :
    byte >>> 4 < 16 ∧ byte &&& 15 < 16 ∧ (byte >>> 4) * 16 + (byte &&& 15) = byte := by
  have high : (byte >>> 4).toNat = byte.toNat / 16 := by
    simpa using Nat.shiftRight_eq_div_pow byte.toNat 4
  have low : (byte &&& 15).toNat = byte.toNat % 16 := by
    simpa using Nat.and_two_pow_sub_one_eq_mod byte.toNat 4
  have bound := byte.toNat_lt
  simp only [UInt8.lt_iff_toNat_lt, ← UInt8.toNat_inj, UInt8.toNat_add, UInt8.toNat_mul, high, low]
  simp
  omega

theorem isHeaderByte_of_isQueryByte {byte : UInt8} (query : isQueryByte byte = true) :
    isHeaderByte byte = true ∧ byte < 128 ∧ byte ≠ 37 := by
  revert query
  simp [isQueryByte, isHeaderByte, isUnreservedByte, isAlphanumeric, isAlphabetic, isDigit,
    UInt8.le_iff_toNat_le, UInt8.lt_iff_toNat_lt, ← UInt8.toNat_inj]
  omega

/-- An encoded byte is read back as the byte. -/
theorem componentBytes_encodedByte (byte : UInt8) (rest : Bytes) :
    componentBytes (encodedByte byte ++ rest) =
      (byte :: (componentBytes rest).1, (componentBytes rest).2) := by
  unfold encodedByte
  split_ifs with query
  · rw [singleton_append, componentBytes.eq_def]
    simp [(isHeaderByte_of_isQueryByte query).2.2]
  · obtain ⟨high, low, whole⟩ := nibbles byte
    simp only [cons_append, nil_append]
    rw [componentBytes]
    simp [(isQueryByte_hexDigit high).2.2, (isQueryByte_hexDigit low).2.2, whole]

/-- An encoded text is read back as the text. -/
theorem componentBytes_encoded (text : Bytes) :
    componentBytes (text.flatMap encodedByte) = (text, true) := by
  induction text with
  | nil => rfl
  | cons byte text ih => rw [flatMap_cons, componentBytes_encodedByte, ih]

theorem mem_encoded {text : Bytes} {byte : UInt8} (member : byte ∈ text.flatMap encodedByte) :
    isQueryByte byte = true ∨ byte = 37 := by
  obtain ⟨source, -, written⟩ := mem_flatMap.mp member
  unfold encodedByte at written
  split_ifs at written with query
  · rw [mem_singleton.mp written]
    exact .inl query
  · obtain ⟨high, low, -⟩ := nibbles source
    simp only [mem_cons, not_mem_nil, or_false] at written
    obtain rfl | rfl | rfl := written
    · exact .inr rfl
    · exact .inl (isQueryByte_hexDigit high).1
    · exact .inl (isQueryByte_hexDigit low).1

/-- An encoded text is the value of a URI header. -/
theorem validate_encoded (text : Bytes) :
    validateEscapedComponent isHeaderByte (text.flatMap encodedByte) = true := by
  induction text with
  | nil => rfl
  | cons byte text ih =>
    rw [flatMap_cons, encodedByte]
    split_ifs with query
    · obtain ⟨header, -, other⟩ := isHeaderByte_of_isQueryByte query
      rw [singleton_append, validateEscapedComponent.eq_def]
      simp [other, header, ih]
    · obtain ⟨high, low, -⟩ := nibbles byte
      simp [validateEscapedComponent, ih, (isQueryByte_hexDigit high).2.1,
        (isQueryByte_hexDigit low).2.1]

theorem encodeQueryComponent_eq_ok
    {input output result : Bytes} (encodes : encodeQueryComponent input output = .ok result) :
    result = output ++ input.flatMap encodedByte := by
  induction input generalizing output with
  | nil =>
    cases encodes
    simp
  | cons byte rest ih =>
    rw [encodeQueryComponent] at encodes
    rw [ih (returned_of_refusal encodes), flatMap_cons, append_assoc]

namespace TransferRequestHeaders

theorem fromValue_eq_ok
    {value : Bytes} {headers : TransferRequestHeaders} (made : fromValue value = .ok headers) :
    headers.referTo.value.bytes = value := by
  rw [fromValue] at made
  obtain ⟨name, -, made⟩ := bind_eq_ok.mp (returned_of_refusal made)
  obtain ⟨field, makes, returned⟩ := bind_eq_ok.mp made
  cases returned
  exact HeaderValue.fromBytes_eq_ok (mapError_eq_ok.mp makes)

/-- The header that names the dialog. -/
def replacesHeader (replaces : DialogId) : Bytes :=
  wireBytes "Replaces" ++ 61 :: (replacesValue replaces).flatMap encodedByte

variable {target : TransferTarget} {replaces : DialogId} {reserved : Bool}
  {headers : TransferRequestHeaders}

theorem attended_eq_ok (built : attended target replaces reserved = .ok headers) :
    headers.text = target.uri.render ++
      (if target.uri.render.contains 63 then 38 else 63) :: replacesHeader replaces := by
  unfold attended at built
  obtain ⟨value, encodes, makes⟩ := bind_eq_ok.mp (returned_of_refusal (returned_of_refusal built))
  have named : wireBytes "Replaces=" = wireBytes "Replaces" ++ [61] := by decide +kernel
  have bracketed (text : Bytes) : (60 :: (text ++ [62])).tail.dropLast = text :=
    dropLast_concat
  rw [← bracketed (target.uri.render ++ _), text, fromValue_eq_ok makes,
    encodeQueryComponent_eq_ok encodes, replacesHeader, named]
  simp only [append_assoc, cons_append, nil_append]

theorem parseHeader_replacesHeader (replaces : DialogId) :
    ∃ value, wireBytes value = (replacesValue replaces).flatMap encodedByte ∧
      parseHeader (replacesHeader replaces) = .ok ⟨"Replaces", value⟩ := by
  have ascii : ∀ byte ∈ (replacesValue replaces).flatMap encodedByte, byte < 128 := by
    intro byte member
    obtain query | rfl := mem_encoded member
    · exact (isHeaderByte_of_isQueryByte query).2.1
    · decide
  obtain ⟨value, reads, same⟩ := readText_of_ascii ascii .invalidHeader
  have valid := validate_encoded (replacesValue replaces)
  rw [← same] at valid
  have name : validateEscapedComponent isHeaderByte (wireBytes "Replaces") = true := by
    decide +kernel
  refine ⟨value, same, ?_⟩
  rw [parseHeader, replacesHeader, cut_eq_some.mpr ⟨rfl, by decide +kernel⟩]
  simp [reads, readText_wireBytes, UriHeader.new, valid, name]

theorem not_mem_replacesHeader
    {byte : UInt8} (query : isQueryByte byte = false) (percent : byte ≠ 37) (equals : byte ≠ 61) :
    byte ∉ replacesHeader replaces := by
  have name : (wireBytes "Replaces").all isQueryByte = true := by decide +kernel
  simp only [replacesHeader, mem_append, mem_cons, not_or]
  refine ⟨fun member => ?_, equals, fun member => ?_⟩
  · rw [all_eq_true.mp name byte member] at query
    cases query
  · obtain among | among := mem_encoded member
    · rw [among] at query
      cases query
    · exact percent among

/-- The text between the brackets is read as the target with one more header, which
names the dialog. -/
def Faithful
    (target : TransferTarget) (replaces : DialogId) (headers : TransferRequestHeaders) : Prop :=
  ∃ value, parseUri headers.text = .ok (.sip
      { target.uri with headers := target.uri.headers ++ [⟨"Replaces", value⟩] }) ∧
    componentBytes (wireBytes value) = (replacesValue replaces, true)

/-- An attended transfer refers to its target exactly when the target has headers or no
question mark in its user part. -/
theorem attended_faithful_iff
    {value : Bytes} (parsed : parse value = .ok target)
    (built : attended target replaces reserved = .ok headers)
    (small : headers.text.length ≤ maxUriBytes)
    (room : target.uri.headers.length < maxUriHeaders) :
    Faithful target replaces headers ↔ (target.uri.headers = [] → 63 ∉ target.uri.renderUser) := by
  obtain ⟨known, received, found⟩ :
      ∃ known received, parseSipUri known received = .ok target.uri := by
    rw [parse] at parsed
    cases read : parseUri value with
    | error error => simp [read] at parsed
    | ok uri =>
      obtain ⟨_, _, known, sip, -, rfl, found⟩ | ⟨_, _, absolute, -, rfl, -⟩ :=
        parseUri_eq_ok read
      · rw [read] at parsed
        cases parsed
        exact ⟨known, _, found⟩
      · simp [read] at parsed
  obtain ⟨rest, written, found⟩ := parseSipUri_render found target.uri.host.reparses
  have text := attended_eq_ok built
  generalize chosen : (if target.uri.render.contains 63 then (38 : UInt8) else 63) = separator
    at text
  rw [written, append_assoc, cons_append] at text
  rw [text] at small
  rw [Faithful, text, parseUri_of_scheme known small]
  obtain ⟨named, hostport, tail, parts⟩ := parseSipUri_parts found
  obtain ⟨kept, -, -, noHeaders⟩ := parseTail_eq_ok parts.begun parts.tails
  have user : target.uri.renderUser = named.renderUser := by
    rw [kept]
    rfl
  have questioned : target.uri.render.contains 63 = true ↔
      63 ∈ target.uri.renderUser ∨ target.uri.headers ≠ [] := by
    have name : 63 ∉ wireBytes known.asStr := by cases known <;> decide +kernel
    rw [contains_iff_mem, written, parts.received, ne_eq, noHeaders, not_not, user]
    simp [name, parts.outside.2.1]
  have plain := @not_mem_replacesHeader replaces
  by_cases condition : target.uri.headers = [] → 63 ∉ target.uri.renderUser
  · have separates : separator = target.uri.separator := by
      rw [← chosen, SipUri.separator]
      by_cases none : target.uri.headers = []
      · rw [if_neg (by rw [questioned]; simp [none, condition none]), if_pos none]
      · rw [if_pos (questioned.mpr (.inr none)), if_neg none]
    obtain ⟨value, same, reads⟩ := parseHeader_replacesHeader replaces
    refine iff_of_true ⟨value, ?_, ?_⟩ condition
    · rw [separates, parseSipUri_addHeader found reads
        (plain (by decide) (by decide) (by decide))
        (plain (by decide) (by decide) (by decide)) room]
      rfl
    · rw [same, componentBytes_encoded]
  · refine iff_of_false ?_ condition
    rintro ⟨value, read, -⟩
    obtain ⟨none, among⟩ := Classical.not_imp.mp condition
    rw [if_pos (questioned.mpr (.inl (not_not.mp among)))] at chosen
    subst chosen
    obtain ⟨next, extended, same⟩ := map_eq_ok.mp read
    cases same
    have nothing := noHeaders_of_append found none
      (not_mem_cons_of_ne_of_not_mem (by decide) (plain (by decide) (by decide) (by decide)))
      extended rfl
    simp at nothing

/-- A dialog of an established call. -/
def sampleReplaces : DialogId where
  callId := "c"
  localTag := tagA
  remoteTag := tagB

/-- A user of a domain. -/
def sampleTarget (user : String) : TransferTarget :=
  ⟨{ SipUri.new .sip (.domain "b.c") with user := some user }⟩

/-- A target without a question mark is referred to. -/
theorem attended_faithful_unquestioned :
    parse (wireBytes "sip:u@b.c") = .ok (sampleTarget "u") ∧
      ∃ headers, attended (sampleTarget "u") sampleReplaces true = .ok headers ∧
        Faithful (sampleTarget "u") sampleReplaces headers := by
  have parsed : parse (wireBytes "sip:u@b.c") =
      .ok (sampleTarget "u") := by
    decide +kernel
  obtain ⟨headers, built⟩ := exists_ok (show
    (attended (sampleTarget "u") sampleReplaces true).isOk = true by decide +kernel)
  have small : headers.text.length ≤ maxUriBytes := by
    rw [attended_eq_ok built]
    decide +kernel
  refine ⟨parsed, headers, built, (attended_faithful_iff parsed built small ?_).mpr fun _ => ?_⟩
  · decide
  · decide +kernel

/-- A question mark in the user part is taken for the beginning of the headers. -/
theorem not_attended_faithful_questioned :
    parse (wireBytes "sip:a?b@b.c") = .ok (sampleTarget "a?b") ∧
      (sampleTarget "a?b").uri.headers.length < maxUriHeaders ∧
      ∃ headers, attended (sampleTarget "a?b") sampleReplaces true = .ok headers ∧
        headers.text.length ≤ maxUriBytes ∧
        ¬Faithful (sampleTarget "a?b") sampleReplaces headers := by
  obtain ⟨headers, built⟩ := exists_ok (show
    (attended (sampleTarget "a?b") sampleReplaces true).isOk = true by decide +kernel)
  refine ⟨by decide +kernel, by decide, headers, built, ?_, ?_⟩
  · rw [attended_eq_ok built]
    decide +kernel
  · rintro ⟨value, read, -⟩
    have rendered : (sampleTarget "a?b").uri.render = wireBytes "sip:a?b@b.c" := by
      decide +kernel
    have refused : parseUri (wireBytes "sip:a?b@b.c" ++
        38 :: replacesHeader sampleReplaces) = .error .invalidHost := by
      decide +kernel
    rw [attended_eq_ok built, rendered, if_pos (by decide +kernel), refused] at read
    cases read

end TransferRequestHeaders

/-- No further transfer mutation is valid. -/
def TransferState.isTerminal : TransferState → Bool
  | .succeeded | .failed => true
  | .referPending | .notifyPending => false

/-- Result of one transfer-related NOTIFY. -/
structure TransferNotification where
  responseStatus : UInt16
  state : TransferState
  referredStatus : UInt16

/-- One bounded outbound REFER subscription. -/
structure TransferTracker where
  state : TransferState
  notifications : UInt16

namespace TransferTracker

/-- The state after REFER is emitted. -/
def new : TransferTracker := ⟨.referPending, 0⟩

/-- Apply the final status of the REFER. -/
def onReferResponse (tracker : TransferTracker) (status : UInt16) :
    TransferTracker × Except TransferError TransferState :=
  if tracker.state ≠ .referPending then (tracker, .error .invalidState)
  else if 200 ≤ status ∧ status ≤ 299 then
    ({ tracker with state := .notifyPending }, .ok .notifyPending)
  else if 300 ≤ status ∧ status ≤ 699 then ({ tracker with state := .failed }, .ok .failed)
  else (tracker, .error .invalidStatus)

/-- The state that a NOTIFY with a valid status leads to. -/
def referredState (referredStatus : UInt16) (terminated : Bool) : TransferState :=
  if 200 ≤ referredStatus ∧ referredStatus ≤ 299 then .succeeded
  else if 300 ≤ referredStatus ∨ terminated then .failed
  else .notifyPending

/-- Apply one NOTIFY status. -/
def onNotify (tracker : TransferTracker) (referredStatus : UInt16) (terminated : Bool) :
    TransferTracker × Except TransferError TransferNotification :=
  if tracker.state ≠ .notifyPending then (tracker, .error .invalidState)
  else if ¬(100 ≤ referredStatus ∧ referredStatus ≤ 699) then (tracker, .error .invalidStatus)
  else if 2 ^ 16 ≤ tracker.notifications.toNat + 1 then
    (tracker, .error .notificationLimitExceeded)
  else
    let state := referredState referredStatus terminated
    (⟨state, tracker.notifications + 1⟩, .ok ⟨200, state, referredStatus⟩)

/-- Expire an unfinished subscription; the result tells whether it was pending. -/
def expire (tracker : TransferTracker) : TransferTracker × Bool :=
  if tracker.state.isTerminal then (tracker, false) else ({ tracker with state := .failed }, true)

end TransferTracker

/-- What happens to a subscription. -/
inductive TransferOperation
  | referResponse (status : UInt16)
  | notify (referredStatus : UInt16) (terminated : Bool)
  | expire

namespace TransferTracker

/-- One operation; the output tells whether it was taken. -/
def step (tracker : TransferTracker) : TransferOperation → TransferTracker × Bool
  | .referResponse status => (tracker.onReferResponse status).map id Except.isOk
  | .notify status terminated => (tracker.onNotify status terminated).map id Except.isOk
  | .expire => tracker.expire

/-- The operations of a run that are taken. -/
def taken (operations : List TransferOperation) : List TransferOperation :=
  (Run.journal id step new operations).map Prod.fst

/-- A provisional status of a subscription that goes on. -/
def IsProgress : TransferOperation → Prop
  | .notify status terminated => 100 ≤ status ∧ status ≤ 199 ∧ terminated = false
  | _ => False

/-- An operation that decides a subscription, and how. -/
inductive Decides : TransferOperation → TransferState → Prop
  | success (status : UInt16) (terminated : Bool) (positive : 200 ≤ status ∧ status ≤ 299) :
      Decides (.notify status terminated) .succeeded
  | failure (status : UInt16) (terminated : Bool) (negative : 300 ≤ status ∧ status ≤ 699) :
      Decides (.notify status terminated) .failed
  | terminated (status : UInt16) (provisional : 100 ≤ status ∧ status ≤ 199) :
      Decides (.notify status true) .failed
  | expired : Decides .expire .failed

/-- How far a subscription gets with the operations that were taken. -/
inductive Story : List TransferOperation → TransferState → Prop
  | pending : Story [] .referPending
  | expired : Story [.expire] .failed
  | rejected (status : UInt16) (final : 300 ≤ status ∧ status ≤ 699) :
      Story [.referResponse status] .failed
  | accepted (status : UInt16) (success : 200 ≤ status ∧ status ≤ 299)
      (progress : List TransferOperation) (goesOn : ∀ each ∈ progress, IsProgress each) :
      Story (.referResponse status :: progress) .notifyPending
  | decided (status : UInt16) (success : 200 ≤ status ∧ status ≤ 299)
      (progress : List TransferOperation) (goesOn : ∀ each ∈ progress, IsProgress each)
      (last : TransferOperation) (state : TransferState) (decides : Decides last state) :
      Story (.referResponse status :: (progress ++ [last])) state

/-- What one operation that is taken does to the state. -/
inductive Moves : TransferState → TransferOperation → TransferState → Prop
  | accepts (status : UInt16) (success : 200 ≤ status ∧ status ≤ 299) :
      Moves .referPending (.referResponse status) .notifyPending
  | rejects (status : UInt16) (final : 300 ≤ status ∧ status ≤ 699) :
      Moves .referPending (.referResponse status) .failed
  | expires : Moves .referPending .expire .failed
  | progresses (operation : TransferOperation) (goesOn : IsProgress operation) :
      Moves .notifyPending operation .notifyPending
  | decides (operation : TransferOperation) (state : TransferState)
      (decides : Decides operation state) : Moves .notifyPending operation state

theorem Moves.not_terminal
    {before after : TransferState} {operation : TransferOperation}
    (moves : Moves before operation after) : ¬before.isTerminal = true := by
  cases moves <;> nofun

theorem moves_referredState
    {status : UInt16} (bounded : 100 ≤ status ∧ status ≤ 699) (terminated : Bool) :
    Moves .notifyPending (.notify status terminated) (referredState status terminated) := by
  unfold referredState
  split_ifs with success failure
  · exact .decides _ _ (.success status terminated success)
  · by_cases negative : 300 ≤ status
    · exact .decides _ _ (.failure status terminated ⟨negative, bounded.2⟩)
    · obtain rfl := failure.resolve_left negative
      refine .decides _ _ (.terminated status ⟨bounded.1, ?_⟩)
      simp only [UInt16.le_iff_toNat_le, UInt16.reduceToNat] at *
      omega
  · rw [not_or] at failure
    refine .progresses _ ⟨bounded.1, ?_, by simpa using failure.2⟩
    simp only [UInt16.le_iff_toNat_le, UInt16.reduceToNat] at *
    omega

/-- The operation is a NOTIFY. -/
def isNotify : TransferOperation → Bool
  | .notify .. => true
  | _ => false

/-- An operation is taken and moves the subscription, or it is refused and changes
nothing. -/
theorem step_cases (tracker : TransferTracker) (operation : TransferOperation) :
    tracker.step operation = (tracker, false) ∨
      ∃ state count, tracker.step operation = (⟨state, count⟩, true) ∧
        Moves tracker.state operation state ∧
        count.toNat = tracker.notifications.toNat + (isNotify operation).toNat := by
  cases operation with
  | referResponse status =>
    simp only [step, onReferResponse]
    split_ifs with pending success final
    · exact .inl rfl
    · exact .inr ⟨_, _, rfl, not_not.mp pending ▸ .accepts status success, rfl⟩
    · exact .inr ⟨_, _, rfl, not_not.mp pending ▸ .rejects status final, rfl⟩
    · exact .inl rfl
  | notify status terminated =>
    simp only [step, onNotify]
    split_ifs with pending bounded limit
    · exact .inl rfl
    · exact .inl rfl
    · refine .inr ⟨_, _, rfl, ?_, ?_⟩
      · rw [not_not.mp pending]
        exact moves_referredState bounded terminated
      · rw [UInt16.toNat_add]
        exact Nat.mod_eq_of_lt (Nat.lt_of_not_le limit)
    · exact .inl rfl
  | expire =>
    simp only [step, expire]
    split_ifs with terminal
    · exact .inl rfl
    · refine .inr ⟨_, _, rfl, ?_, rfl⟩
      cases pending : tracker.state with
      | referPending => exact .expires
      | notifyPending => exact .decides _ _ .expired
      | succeeded | failed => simp [pending, TransferState.isTerminal] at terminal

/-- A pending subscription goes on with each operation that it takes. -/
theorem Story.moves
    {operations : List TransferOperation} {before after : TransferState}
    (story : Story operations before) {operation : TransferOperation}
    (moves : Moves before operation after) : Story (operations ++ [operation]) after := by
  cases moves with
  | accepts status success =>
    cases story with
    | pending => exact .accepted status success [] nofun
    | decided _ _ _ _ _ _ decides => cases decides
  | rejects status final =>
    cases story with
    | pending => exact .rejected status final
    | decided _ _ _ _ _ _ decides => cases decides
  | expires =>
    cases story with
    | pending => exact .expired
    | decided _ _ _ _ _ _ decides => cases decides
  | progresses operation goesOn =>
    cases story with
    | accepted status success progress others =>
      refine .accepted status success (progress ++ [operation]) fun each member => ?_
      rcases mem_append.mp member with earlier | last
      · exact others each earlier
      · rwa [mem_singleton.mp last]
    | decided _ _ _ _ _ _ decides => cases decides
  | decides operation state decides =>
    cases story with
    | accepted status success progress others =>
      exact .decided status success progress others operation _ decides
    | decided _ _ _ _ _ _ earlier => cases earlier

/-- In every run the operations that are taken are those of one subscription, in order:
a final response to the REFER or its expiry, then progress, then one decision; the
NOTIFYs among them are counted, and a decided subscription takes nothing more. -/
theorem taken_story (operations : List TransferOperation) :
    Story (taken operations) (Run.after step new operations).state ∧
      (Run.after step new operations).notifications.toNat = (taken operations).countP isNotify ∧
      ((Run.after step new operations).state.isTerminal = true → ∀ later,
        Run.after step new (operations ++ later) = Run.after step new operations) := by
  have told := @Run.journal_invariant _ _ _ id step new
    (fun entries tracker => Story (entries.map Prod.fst) tracker.state ∧
      tracker.notifications.toNat = (entries.map Prod.fst).countP isNotify)
    ⟨.pending, rfl⟩ ?_ ?_ operations
  · refine ⟨told.1, told.2, fun terminal later => ?_⟩
    rw [Run.after_append]
    refine Run.invariant (· = Run.after step new operations) rfl (fun tracker operation same => ?_)
      later
    rw [same]
    obtain refused | ⟨state, count, -, moves, -⟩ :=
      step_cases (Run.after step new operations) operation
    · rw [refused]
    · exact absurd terminal moves.not_terminal
  · intro entries tracker operation ⟨story, counted⟩ accepted
    obtain refused | ⟨state, count, stepped, moves, counts⟩ := step_cases tracker operation
    · rw [refused] at accepted
      cases accepted
    · rw [stepped, map_append, map_singleton, countP_append, ← counted]
      refine ⟨story.moves moves, ?_⟩
      rw [counts, countP_singleton]
      cases isNotify operation <;> rfl
  · intro entries tracker operation told refused
    obtain same | ⟨state, count, stepped, -⟩ := step_cases tracker operation
    · rwa [same]
    · rw [stepped] at refused
      cases refused

end TransferTracker

end Call
end LiveAISIP
