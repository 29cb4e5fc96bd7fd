import LiveAISIP.Library.BigEndian
import LiveAISIP.Library.Fault

/-!
# RTP header extensions

The bounded extension block of `rtp/packet/extension.rs`.  A block is a profile
number and data of whole words; the element profiles are checked element by
element and every other profile is carried as it is.

Lengths of slices are far below the range of the machine's integers, so the
checked additions of the source cannot fail and are plain additions here.
-/

namespace LiveAISIP
namespace Rtp

open BigEndian Fault Outcome

/-- Size of the profile and length fields. -/
def extensionPreambleBytes : Nat := 4

/-- Profile of one-byte element headers. -/
def oneByteProfile : UInt16 := 0xbede

/-- Lowest profile of two-byte element headers. -/
def twoByteProfileBase : UInt16 := 0x1000

/-- Maximum extension data without the preamble. -/
def maxExtensionDataBytes : Nat := 16 * 1024

/-- Maximum number of elements in one block. -/
def maxExtensionElements : Nat := 256

/-- Interpretation of an extension profile. -/
inductive ExtensionFormat
  | oneByte
  | twoByte (appBits : UInt8)
  | uninterpreted
  deriving DecidableEq

/-- Failure to parse, construct or serialize an extension block. -/
inductive RtpExtensionError
  | truncated (required available : Nat)
  | dataTooLarge (actual maximum : Nat)
  | dataNotWordAligned (actual : Nat)
  | structuredProfileRequiresParsing (profile : UInt16)
  | elementHeaderTruncated (offset : Nat)
  | elementTruncated (offset required available : Nat)
  | nonPaddingAfterReservedId (offset : Nat)
  | tooManyElements (attempted maximum : Nat)
  | lengthOverflow
  deriving DecidableEq

/-- The layout that a profile names. -/
def formatForProfile (profile : UInt16) : ExtensionFormat :=
  if profile = oneByteProfile then .oneByte
  else if profile &&& 0xfff0 = twoByteProfileBase then
    .twoByte (profile &&& 0x000f).toUInt8
  else .uninterpreted

/-- The number of elements with one more. -/
def checkedElementCount (current : Nat) : Except (Fault RtpExtensionError) Nat :=
  let attempted := current + 1
  if maxExtensionElements < attempted then
    .error (.refused (.tooManyElements attempted maxExtensionElements))
  else .ok attempted

/-- Count the elements with one-byte headers. -/
def validateOneByte (data : List UInt8) (count offset : Nat) :
    Except (Fault RtpExtensionError) Nat :=
  match data with
  | [] => .ok count
  | header :: data =>
    if header = 0 then validateOneByte data count (offset + 1)
    else if header >>> 4 = 15 then
      if data.any (· != 0) then .error (.refused (.nonPaddingAfterReservedId offset))
      else .ok count
    else do
      let length := (header &&& 0x0f).toNat + 1
      require (length ≤ data.length) (.elementTruncated offset length data.length)
      let count ← checkedElementCount count
      let rest ← rangeFrom data length
      validateOneByte rest.val count (offset + (1 + length))
  termination_by data.length
  decreasing_by
    · simp
    · rw [rest.property, List.length_cons]
      omega

/-- Count the elements with two-byte headers. -/
def validateTwoByte (data : List UInt8) (count offset : Nat) :
    Except (Fault RtpExtensionError) Nat :=
  match data with
  | [] => .ok count
  | id :: data =>
    if id = 0 then validateTwoByte data count (offset + 1)
    else match data with
      | [] => .error (.refused (.elementHeaderTruncated offset))
      | length :: data => do
        let length := length.toNat
        require (length ≤ data.length) (.elementTruncated offset length data.length)
        let count ← checkedElementCount count
        let rest ← rangeFrom data length
        validateTwoByte rest.val count (offset + (2 + length))
  termination_by data.length
  decreasing_by
    · simp
    · rw [rest.property, List.length_cons, List.length_cons]
      omega

/-- Check the elements of a profile and count them. -/
def validateElements (format : ExtensionFormat) (data : List UInt8) :
    Except (Fault RtpExtensionError) Nat :=
  match format with
  | .oneByte => validateOneByte data 0 0
  | .twoByte _ => validateTwoByte data 0 0
  | .uninterpreted => .ok 0

theorem safe_checkedElementCount (current : Nat) :
    Safe (fun _ => True) (checkedElementCount current) := by
  simp only [checkedElementCount]
  split_ifs <;> simp

theorem safe_validateOneByte (data : List UInt8) (count offset : Nat) :
    Safe (fun _ => True) (validateOneByte data count offset) := by
  fun_induction validateOneByte data count offset with
  | case1 => trivial
  | case2 count offset data ih => exact ih
  | case3 => simp
  | case4 => trivial
  | case5 count offset header data _ _ length ih =>
    refine .bind (safe_require _ _) fun _ whole => ?_
    refine .bind (safe_checkedElementCount _) fun count _ => ?_
    refine .bind (safe_rangeFrom whole) fun rest _ => ?_
    exact ih count rest

theorem safe_validateTwoByte (data : List UInt8) (count offset : Nat) :
    Safe (fun _ => True) (validateTwoByte data count offset) := by
  fun_induction validateTwoByte data count offset with
  | case1 => trivial
  | case2 count offset data ih => exact ih
  | case3 => simp
  | case4 count offset id _ header data length ih =>
    refine .bind (safe_require _ _) fun _ whole => ?_
    refine .bind (safe_checkedElementCount _) fun count _ => ?_
    refine .bind (safe_rangeFrom whole) fun rest _ => ?_
    exact ih () count rest

/-- Counting elements reads only the data. -/
theorem safe_validateElements (format : ExtensionFormat) (data : List UInt8) :
    Safe (fun count => validateElements format data = .ok count)
      (validateElements format data) := by
  have safe : Safe (fun _ => True) (validateElements format data) := by
    cases format with
    | oneByte => exact safe_validateOneByte data 0 0
    | twoByte appBits => exact safe_validateTwoByte data 0 0
    | uninterpreted => trivial
  cases counted : validateElements format data with
  | ok count => rfl
  | error fault => rwa [counted] at safe

/-- A validated extension block. -/
structure RtpExtension where
  profile : UInt16
  data : List UInt8
  elementCount : Nat
  data_le : data.length ≤ maxExtensionDataBytes
  aligned : 4 ∣ data.length
  counted : validateElements (formatForProfile profile) data = .ok elementCount

namespace RtpExtension

/-- An extension block is its profile and data. -/
theorem ext_of
    {first second : RtpExtension} (profile : first.profile = second.profile)
    (data : first.data = second.data) :
    first = second := by
  obtain ⟨firstProfile, firstData, firstCount, _, _, firstCounted⟩ := first
  obtain ⟨secondProfile, secondData, secondCount, _, _, secondCounted⟩ := second
  subst profile data
  have count : firstCount = secondCount := by
    simpa using firstCounted.symm.trans secondCounted
  subst count
  rfl

/-- Parse a block and return its exact length. -/
def parse (input : List UInt8) :
    Except (Fault RtpExtensionError) (RtpExtension × Nat) := do
  require (extensionPreambleBytes ≤ input.length) (.truncated extensionPreambleBytes input.length)
  let profile ← range input 0 2
  let words ← range input 2 4
  let dataLength := (halfOf words.val).toNat * 4
  if small : dataLength ≤ maxExtensionDataBytes then
    let consumed := extensionPreambleBytes + dataLength
    require (consumed ≤ input.length) (.truncated consumed input.length)
    let data ← range input extensionPreambleBytes consumed
    match counted : validateElements (formatForProfile (halfOf profile.val)) data.val with
    | .error fault => .error fault
    | .ok elementCount =>
      return (
        { profile := halfOf profile.val
          data := data.val
          elementCount := elementCount
          data_le := by
            rw [data.property]
            omega
          aligned := by
            rw [data.property]
            omega
          counted := counted }, consumed)
  else
    .error (.refused (.dataTooLarge dataLength maxExtensionDataBytes))

/-- Construct a block of a profile that has no elements. -/
def uninterpreted (profile : UInt16) (data : List UInt8) : Except RtpExtensionError RtpExtension :=
  if plain : formatForProfile profile = .uninterpreted then
    if small : data.length ≤ maxExtensionDataBytes then
      if aligned : 4 ∣ data.length then
        .ok
          { profile := profile
            data := data
            elementCount := 0
            data_le := small
            aligned := aligned
            counted := by rw [plain, validateElements] }
      else .error (.dataNotWordAligned data.length)
    else .error (.dataTooLarge data.length maxExtensionDataBytes)
  else .error (.structuredProfileRequiresParsing profile)

/-- The exact encoded size. -/
def encodedLen (extension : RtpExtension) : Nat := extensionPreambleBytes + extension.data.length

/-- The wire form of a block. -/
def bytes (extension : RtpExtension) : List UInt8 := halfBytes extension.profile ++
    (halfBytes (extension.data.length / 4).toUInt16 ++ extension.data)

/-- Append the preamble and the data. -/
def appendEncoded (extension : RtpExtension) (output : List UInt8) :
    Except RtpExtensionError (List UInt8) :=
  if 65535 < extension.data.length / 4 then .error .lengthOverflow
  else .ok (output ++ extension.bytes)

theorem length_bytes (extension : RtpExtension) :
    extension.bytes.length = extension.encodedLen := by
  simp only [bytes, encodedLen, extensionPreambleBytes, List.length_append, length_halfBytes]
  omega

theorem appendEncoded_eq (extension : RtpExtension) (output : List UInt8) :
    extension.appendEncoded output = .ok (output ++ extension.bytes) := by
  have bound : extension.data.length ≤ 16 * 1024 := extension.data_le
  rw [appendEncoded, if_neg (by omega)]

/-- A parsed block stands at the front of the input. -/
theorem safe_parse (input : List UInt8) : Safe (fun parsed => parsed.2 = parsed.1.bytes.length ∧
        input = parsed.1.bytes ++ input.drop parsed.2)
      (parse input) := by
  unfold parse
  refine .bind (safe_require _ _) fun _ fixed => ?_
  have four : extensionPreambleBytes = 4 := rfl
  refine .bind (safe_range (by omega) (by omega)) fun profile profileStands => ?_
  refine .bind (safe_range (by omega) (by omega)) fun words wordsStand => ?_
  dsimp only
  split_ifs with small
  swap
  · simp
  refine .bind (safe_require _ _) fun _ whole => ?_
  refine .bind (safe_range (by omega) whole) fun data dataStand => ?_
  have safe := safe_validateElements (formatForProfile (halfOf profile.val)) data.val
  split
  case h_1 fault refused =>
    rw [refused] at safe
    exact safe
  case h_2 elementCount counted =>
    have length : data.val.length = (halfOf words.val).toNat * 4 := by
      rw [data.property]
      omega
    have number : (data.val.length / 4).toUInt16 = halfOf words.val := by
      rw [length, Nat.mul_div_cancel _ (by omega)]
      simp
    refine ⟨?_, ?_⟩
    · rw [length_bytes, encodedLen, length]
    · rw [List.drop_zero] at profileStands
      simp only [bytes, number, halfBytes_halfOf profile.property,
        halfBytes_halfOf words.property, List.append_assoc]
      rw [← dataStand, four, ← wordsStand, ← profileStands]

/-- The number of words of a block fits its field. -/
theorem toNat_words (extension : RtpExtension) :
    (extension.data.length / 4).toUInt16.toNat * 4 = extension.data.length := by
  have bounded := extension.data_le
  have aligned := extension.aligned
  rw [maxExtensionDataBytes] at bounded
  rw [Nat.toUInt16_eq, UInt16.toNat_ofNat', Nat.mod_eq_of_lt (by omega)]
  omega

/-- The wire form of a block is parsed back, whatever follows it. -/
theorem parse_bytes (extension : RtpExtension) (rest : List UInt8) :
    parse (extension.bytes ++ rest) = .ok (extension, extension.bytes.length) := by
  have bound : extension.data.length ≤ 16 * 1024 := extension.data_le
  have aligned := extension.aligned
  have size := extension.length_bytes
  have four : extensionPreambleBytes = 4 := rfl
  rw [encodedLen, four] at size
  have words : (halfOf (halfBytes (extension.data.length / 4).toUInt16)).toNat * 4 =
      extension.data.length := by
    rw [halfOf_halfBytes, extension.toNat_words]
  generalize whole : extension.bytes ++ rest = input
  have length : input.length = 4 + extension.data.length + rest.length := by
    rw [← whole, List.length_append, size]
  have at0 : input.drop 0 = halfBytes extension.profile ++
      (halfBytes (extension.data.length / 4).toUInt16 ++ (extension.data ++ rest)) := by
    rw [← whole]
    simp [bytes]
  have at2 : input.drop 2 = _ := drop_next at0 (length_halfBytes _)
  have at4 : input.drop extensionPreambleBytes = _ := drop_next at2 (length_halfBytes _)
  have consumed : extensionPreambleBytes +
      (halfOf (halfBytes (extension.data.length / 4).toUInt16)).toNat * 4 =
      extension.bytes.length := by
    rw [size, words, four]
  have counted := extension.counted
  unfold parse
  refine bind_of_ok (require_of (by omega) _) ?_
  refine bind_of_ok (range_of_drop at0 (by rw [length_halfBytes]) (by omega)) ?_
  refine bind_of_ok (range_of_drop at2 (length_halfBytes _) (by omega)) ?_
  dsimp only
  rw [dif_pos (by rw [words]; exact extension.data_le)]
  refine bind_of_ok (require_of (by omega) _) ?_
  refine bind_of_ok (range_of_drop at4 (by omega) (by omega)) ?_
  split
  case h_1 fault refused =>
    rw [halfOf_halfBytes, counted] at refused
    cases refused
  case h_2 elementCount _ =>
    refine congrArg Except.ok (Prod.ext (ext_of ?_ rfl) ?_)
    · exact halfOf_halfBytes _
    · exact consumed

end RtpExtension

end Rtp
end LiveAISIP
