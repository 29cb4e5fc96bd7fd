import LiveAISIP.Rtp.Extension

/-!
# Iterating the elements of an extension

The element iterator of `rtp/packet/extension.rs`.  It reads the data of a block
again, without the checks of the validation, so that a split outside of the data is a
fault here.  What the validation counted is what the iterator yields.
-/

namespace LiveAISIP
namespace Rtp

open BigEndian Fault Outcome
open List

/-- One element of an extension block. -/
structure ExtensionElement where
  id : UInt8
  data : List UInt8

/-- The iterator over the elements of a block. -/
structure ExtensionElementIter where
  format : ExtensionFormat
  remaining : List UInt8
  emitted : Nat

/-- Split a slice at a position. -/
def splitAt (input : List UInt8) (mid : Nat) : Except (Fault Empty) (List UInt8 × List UInt8) :=
  if mid ≤ input.length then .ok (input.take mid, input.drop mid) else .error .outOfBounds

namespace ExtensionElementIter

variable {iterator rest : ExtensionElementIter} {element : ExtensionElement}

/-- The next element with a one-byte header. -/
def nextOneByte : ExtensionElementIter →
    Except (Fault Empty) (Option ExtensionElement × ExtensionElementIter)
  | ⟨format, [], emitted⟩ => .ok (none, ⟨format, [], emitted⟩)
  | ⟨format, header :: tail, emitted⟩ =>
    if header = 0 then nextOneByte ⟨format, tail, emitted⟩
    else if header >>> 4 = 15 then .ok (none, ⟨format, [], emitted⟩)
    else do
      let length := (header &&& 0x0f).toNat + 1
      let (data, remaining) ← splitAt tail length
      return (some ⟨header >>> 4, data⟩, ⟨format, remaining, emitted + 1⟩)
  termination_by iterator => iterator.remaining.length

/-- The next element with a two-byte header. -/
def nextTwoByte : ExtensionElementIter →
    Except (Fault Empty) (Option ExtensionElement × ExtensionElementIter)
  | ⟨format, [], emitted⟩ => .ok (none, ⟨format, [], emitted⟩)
  | ⟨format, id :: tail, emitted⟩ =>
    if id = 0 then nextTwoByte ⟨format, tail, emitted⟩
    else match tail with
      | [] => .ok (none, ⟨format, [], emitted⟩)
      | length :: tail => do
        let (data, remaining) ← splitAt tail length.toNat
        return (some ⟨id, data⟩, ⟨format, remaining, emitted + 1⟩)
  termination_by iterator => iterator.remaining.length

/-- The next element. -/
def next (iterator : ExtensionElementIter) :
    Except (Fault Empty) (Option ExtensionElement × ExtensionElementIter) :=
  match iterator.format with
  | .oneByte => nextOneByte iterator
  | .twoByte _ => nextTwoByte iterator
  | .uninterpreted => .ok (none, iterator)

theorem remaining_nextOneByte_lt
    (yields : nextOneByte iterator = .ok (some element, rest)) :
    rest.remaining.length < iterator.remaining.length := by
  fun_induction nextOneByte iterator with
  | case1 => cases yields
  | case2 format tail emitted ih =>
    exact Nat.lt_succ_of_lt (ih yields)
  | case3 => cases yields
  | case4 format header tail emitted _ _ length =>
    rw [splitAt] at yields
    split_ifs at yields
    · cases yields
      simp only [length_drop, length_cons]
      omega
    · cases yields

theorem remaining_nextTwoByte_lt
    (yields : nextTwoByte iterator = .ok (some element, rest)) :
    rest.remaining.length < iterator.remaining.length := by
  fun_induction nextTwoByte iterator with
  | case1 => cases yields
  | case2 format tail emitted ih =>
    exact Nat.lt_succ_of_lt (ih yields)
  | case3 => cases yields
  | case4 format id emitted _ length tail =>
    rw [splitAt] at yields
    split_ifs at yields
    · cases yields
      simp only [length_drop, length_cons]
      omega
    · cases yields

/-- An element is taken from what remains. -/
theorem remaining_next_lt
    (yields : iterator.next = .ok (some element, rest)) :
    rest.remaining.length < iterator.remaining.length := by
  rw [next] at yields
  split at yields
  · exact remaining_nextOneByte_lt yields
  · exact remaining_nextTwoByte_lt yields
  · cases yields

/-- All elements that are left. -/
def collect (iterator : ExtensionElementIter) : Except (Fault Empty) (List ExtensionElement) :=
  match _yields : iterator.next with
  | .error fault => .error fault
  | .ok (none, _) => .ok []
  | .ok (some element, rest) => do
    let elements ← rest.collect
    return element :: elements
  termination_by iterator.remaining.length
  decreasing_by exact remaining_next_lt ‹_›

theorem collect_of_none (ends : iterator.next = .ok (none, rest)) :
    iterator.collect = .ok [] := by
  rw [collect]
  split <;> simp_all

theorem collect_of_some
    {elements : List ExtensionElement} (yields : iterator.next = .ok (some element, rest))
    (others : rest.collect = .ok elements) :
    iterator.collect = .ok (element :: elements) := by
  rw [collect]
  split <;> simp_all

/-- Iterators with the same next element yield the same elements. -/
theorem collect_congr
    {first second : ExtensionElementIter} (same : first.next = second.next) :
    first.collect = second.collect := by
  rw [collect, collect, same]

end ExtensionElementIter

/-- Iterate the elements of a block. -/
def RtpExtension.elements (extension : RtpExtension) : ExtensionElementIter where
  format := formatForProfile extension.profile
  remaining := extension.data
  emitted := 0

/-- Elements, in one form, and padding that make up data, up to a final part. -/
inductive Tiles (Form : ExtensionElement → List UInt8 → Prop) (Final : List UInt8 → Prop) :
    List ExtensionElement → List UInt8 → Prop
  | final (final : Final rest) : Tiles Form Final [] rest
  | padding (tiles : Tiles Form Final elements rest) : Tiles Form Final elements (0 :: rest)
  | element (form : Form element bytes) (tiles : Tiles Form Final elements rest) :
      Tiles Form Final (element :: elements) (bytes ++ rest)

/-- A header byte with the number and the length, and the data. -/
def OneByteForm (element : ExtensionElement) (bytes : List UInt8) : Prop :=
  ∃ header : UInt8, bytes = header :: element.data ∧ header >>> 4 = element.id ∧
    (header &&& 0x0f).toNat + 1 = element.data.length

/-- The end of the data, or the reserved number with padding behind it. -/
def OneByteFinal (rest : List UInt8) : Prop :=
  rest = [] ∨ ∃ header zeros, rest = header :: zeros ∧ header >>> 4 = 15 ∧ ∀ byte ∈ zeros, byte = 0

/-- The number, the length and the data. -/
def TwoByteForm (element : ExtensionElement) (bytes : List UInt8) : Prop :=
  ∃ length : UInt8, bytes = element.id :: length :: element.data ∧
    length.toNat = element.data.length

/-- The elements of a format make up the data. -/
def TilesData (format : ExtensionFormat) (elements : List ExtensionElement)
    (data : List UInt8) : Prop :=
  match format with
  | .oneByte => Tiles OneByteForm OneByteFinal elements data
  | .twoByte _ => Tiles TwoByteForm (· = []) elements data
  | .uninterpreted => elements = []

/-- The bytes that stand where the header of a one-byte element is due. -/
def oneByteHeaders : List UInt8 → List UInt8
  | [] => []
  | header :: rest =>
    header ::
      if header = 0 then oneByteHeaders rest
      else if header >>> 4 = 15 then []
      else oneByteHeaders (rest.drop ((header &&& 0x0f).toNat + 1))
  termination_by data => data.length

/-- No header has a length without a number. -/
def Numbered (data : List UInt8) : Prop := ∀ header ∈ oneByteHeaders data, header = 0 ∨ 16 ≤ header

/-- What validated data yields: as many elements as were counted, and they make up the
data. -/
structure Yields (format : ExtensionFormat) (data : List UInt8) (count total : Nat)
    (emitted : Nat) (elements : List ExtensionElement) : Prop where
  collected : (ExtensionElementIter.mk format data emitted).collect = .ok elements
  counted : count + elements.length = total
  tiled : TilesData format elements data

theorem toNat_shiftRight_four (header : UInt8) :
    (header >>> 4).toNat = header.toNat / 16 := by
  rw [UInt8.toNat_shiftRight, Nat.shiftRight_eq_div_pow]
  rfl

theorem id_range {header : UInt8} (known : header >>> 4 ≠ 15) :
    ((1 : UInt8) ≤ header >>> 4 ∧ header >>> 4 ≤ (14 : UInt8)) ↔ 16 ≤ header := by
  have shifted := toNat_shiftRight_four header
  have byte := header.toNat_lt
  have known : (header >>> 4).toNat ≠ 15 := fun same => known (UInt8.toNat_inj.mp same)
  rw [UInt8.le_iff_toNat_le, UInt8.le_iff_toNat_le, UInt8.le_iff_toNat_le, shifted]
  rw [shifted] at known
  simp only [UInt8.reduceToNat]
  omega

theorem shiftRight_ne_of_lt {header : UInt8} (small : header < 16) :
    header >>> 4 ≠ 15 := by
  intro reserved
  have shifted := toNat_shiftRight_four header
  have small := UInt8.lt_iff_toNat_lt.mp small
  rw [reserved] at shifted
  simp only [UInt8.reduceToNat] at shifted small
  omega

theorem eq_of_checkedElementCount {count next : Nat}
    (limited : checkedElementCount count = .ok next) : next = count + 1 := by
  rw [checkedElementCount] at limited
  split_ifs at limited
  cases limited
  rfl

theorem eq_of_rangeFrom
    {input : List UInt8} {start : Nat}
    {bytes : {bytes : List UInt8 // bytes.length = input.length - start}}
    (read : (rangeFrom input start : Except (Fault RtpExtensionError) _) = .ok bytes) :
    bytes.val = input.drop start := by
  rw [rangeFrom] at read
  split_ifs at read
  cases read
  rfl

theorem yields_oneByte
    {data : List UInt8} {count offset total : Nat}
    (valid : validateOneByte data count offset = .ok total) (emitted : Nat) :
    ∃ elements, Yields .oneByte data count total emitted elements ∧
      ((∀ element ∈ elements, 1 ≤ element.id ∧ element.id ≤ 14) ↔ Numbered data) := by
  fun_induction validateOneByte data count offset generalizing emitted with
  | case1 count offset =>
    cases valid
    have ends : ExtensionElementIter.next ⟨.oneByte, [], emitted⟩ = _ :=
      ExtensionElementIter.nextOneByte.eq_1 .oneByte emitted
    refine ⟨[], ⟨ExtensionElementIter.collect_of_none ends, rfl, .final (.inl rfl)⟩, ?_⟩
    simp [Numbered, oneByteHeaders]
  | case2 count offset data ih =>
    obtain ⟨elements, ⟨collected, counted, tiled⟩, numbered⟩ := ih valid emitted
    refine ⟨elements, ⟨?_, counted, .padding tiled⟩, ?_⟩
    · rw [← collected]
      apply ExtensionElementIter.collect_congr
      rw [ExtensionElementIter.next, ExtensionElementIter.next,
        ExtensionElementIter.nextOneByte, if_pos rfl]
    · rw [numbered, Numbered, Numbered, oneByteHeaders, if_pos rfl]
      simp
  | case3 count offset header data nonzero reserved padded => cases valid
  | case4 count offset header data nonzero reserved padded =>
    cases valid
    have ends : ExtensionElementIter.next ⟨.oneByte, header :: data, emitted⟩ =
        .ok (none, ⟨.oneByte, [], emitted⟩) := by
      rw [ExtensionElementIter.next, ExtensionElementIter.nextOneByte, if_neg nonzero,
        if_pos reserved]
    refine ⟨[], ⟨ExtensionElementIter.collect_of_none ends, rfl, .final (.inr ?_)⟩, ?_⟩
    · refine ⟨header, data, rfl, reserved, ?_⟩
      simpa using padded
    · rw [Numbered, oneByteHeaders, if_neg nonzero, if_pos reserved]
      have large : 16 ≤ header := by
        by_contra small
        exact absurd reserved (shiftRight_ne_of_lt (UInt8.not_le.mp small))
      simp [large]
  | case5 count offset header data nonzero known length ih =>
    obtain ⟨_, whole, valid⟩ := bind_eq_ok.mp valid
    obtain ⟨next, limited, valid⟩ := bind_eq_ok.mp valid
    obtain ⟨rest, split, valid⟩ := bind_eq_ok.mp valid
    have whole := ensure_eq_ok.mp whole
    have one := eq_of_checkedElementCount limited
    have dropped := eq_of_rangeFrom split
    obtain ⟨elements, ⟨collected, counted, tiled⟩, numbered⟩ := ih next rest valid (emitted + 1)
    rw [dropped] at collected tiled numbered
    have yields : ExtensionElementIter.next ⟨.oneByte, header :: data, emitted⟩ =
        .ok (some ⟨header >>> 4, data.take length⟩, ⟨.oneByte, data.drop length, emitted + 1⟩) := by
      rw [ExtensionElementIter.next, ExtensionElementIter.nextOneByte, if_neg nonzero, if_neg known]
      dsimp only
      rw [splitAt, if_pos whole]
      rfl
    refine ⟨⟨header >>> 4, data.take length⟩ :: elements,
      ⟨ExtensionElementIter.collect_of_some yields collected, ?_, ?_⟩, ?_⟩
    · rw [length_cons]
      omega
    · have form : OneByteForm ⟨header >>> 4, data.take length⟩
          (header :: data.take length) :=
        ⟨header, rfl, rfl, (length_take_of_le whole).symm⟩
      have tiled := Tiles.element form tiled
      rwa [cons_append, take_append_drop] at tiled
    · rw [Numbered, oneByteHeaders, if_neg nonzero, if_neg known, forall_mem_cons,
        forall_mem_cons, numbered, id_range known, Numbered]
      exact and_congr_left' (or_iff_right nonzero).symm

theorem yields_twoByte
    {data : List UInt8} {count offset total : Nat}
    (valid : validateTwoByte data count offset = .ok total) (appBits : UInt8) (emitted : Nat) :
    ∃ elements, Yields (.twoByte appBits) data count total emitted elements := by
  fun_induction validateTwoByte data count offset generalizing emitted with
  | case1 count offset =>
    cases valid
    have ends : ExtensionElementIter.next ⟨.twoByte appBits, [], emitted⟩ = _ :=
      ExtensionElementIter.nextTwoByte.eq_1 (.twoByte appBits) emitted
    exact ⟨[], ExtensionElementIter.collect_of_none ends, rfl, .final rfl⟩
  | case2 count offset data ih =>
    obtain ⟨elements, collected, counted, tiled⟩ := ih valid emitted
    refine ⟨elements, ?_, counted, .padding tiled⟩
    rw [← collected]
    apply ExtensionElementIter.collect_congr
    rw [ExtensionElementIter.next, ExtensionElementIter.next,
      ExtensionElementIter.nextTwoByte.eq_def]
    dsimp only
    rw [if_pos rfl]
  | case3 => cases valid
  | case4 count offset id nonzero header data length ih =>
    obtain ⟨_, whole, valid⟩ := bind_eq_ok.mp valid
    obtain ⟨next, limited, valid⟩ := bind_eq_ok.mp valid
    obtain ⟨rest, split, valid⟩ := bind_eq_ok.mp valid
    have whole := ensure_eq_ok.mp whole
    have one := eq_of_checkedElementCount limited
    have dropped := eq_of_rangeFrom split
    obtain ⟨elements, collected, counted, tiled⟩ := ih () next rest valid (emitted + 1)
    rw [dropped] at collected tiled
    have yields : ExtensionElementIter.next ⟨.twoByte appBits, id :: header :: data, emitted⟩ =
        .ok (some ⟨id, data.take length⟩, ⟨.twoByte appBits, data.drop length, emitted + 1⟩) := by
      rw [ExtensionElementIter.next, ExtensionElementIter.nextTwoByte, if_neg nonzero]
      dsimp only
      rw [splitAt, if_pos whole]
      rfl
    refine ⟨⟨id, data.take length⟩ :: elements,
      ExtensionElementIter.collect_of_some yields collected, ?_, ?_⟩
    · rw [length_cons]
      omega
    · have form : TwoByteForm ⟨id, data.take length⟩ (id :: header :: data.take length) :=
        ⟨header, rfl, (length_take_of_le whole).symm⟩
      have tiled := Tiles.element form tiled
      rwa [cons_append, cons_append, take_append_drop] at tiled

/-- The iteration of a block reads its data only, ends, and yields as many elements as
were counted, which make up the data; one-byte elements have proper numbers. -/
def Covered (extension : RtpExtension) : Prop :=
  ∃ elements, extension.elements.collect = .ok elements ∧ elements.length = extension.elementCount ∧
    TilesData (formatForProfile extension.profile) elements extension.data ∧
    (formatForProfile extension.profile = .oneByte →
      ∀ element ∈ elements, 1 ≤ element.id ∧ element.id ≤ 14)

theorem covered_iff (extension : RtpExtension) : Covered extension ↔
      (formatForProfile extension.profile = .oneByte → Numbered extension.data) := by
  have counted := extension.counted
  rw [Covered, RtpExtension.elements]
  generalize formatForProfile extension.profile = format at counted
  cases format with
  | oneByte =>
    obtain ⟨elements, ⟨collected, length, tiled⟩, numbered⟩ := yields_oneByte counted 0
    rw [Nat.zero_add] at length
    constructor
    · rintro ⟨others, same, -, -, proper⟩ -
      obtain rfl : elements = others := Except.ok.inj (collected.symm.trans same)
      exact numbered.mp (proper rfl)
    · intro proper
      exact ⟨elements, collected, length, tiled, fun _ => numbered.mpr (proper rfl)⟩
  | twoByte appBits =>
    obtain ⟨elements, collected, length, tiled⟩ := yields_twoByte counted appBits 0
    rw [Nat.zero_add] at length
    exact iff_of_true ⟨elements, collected, length, tiled, nofun⟩ nofun
  | uninterpreted =>
    have none : extension.elementCount = 0 := (Except.ok.inj counted).symm
    have ends : ExtensionElementIter.collect ⟨.uninterpreted, extension.data, 0⟩ = .ok [] :=
      ExtensionElementIter.collect_of_none rfl
    exact iff_of_true ⟨[], ends, none.symm, rfl, nofun⟩ nofun

/-- The format that the profile of a serialized block names. -/
def wireFormat (input : List UInt8) : ExtensionFormat := formatForProfile (halfOf (input.take 2))

/-- The data of a serialized block, as many words as its second field says. -/
def wireData (input : List UInt8) : List UInt8 :=
  (input.drop extensionPreambleBytes).take ((halfOf ((input.drop 2).take 2)).toNat * 4)

/-- The format and the data of a parsed block are those of the wire. -/
theorem wire_of_parse
    {input : List UInt8} {extension : RtpExtension} {consumed : Nat}
    (parsed : RtpExtension.parse input = .ok (extension, consumed)) :
    wireFormat input = formatForProfile extension.profile ∧ wireData input = extension.data := by
  have stands := RtpExtension.safe_parse input
  rw [parsed] at stands
  obtain ⟨rest, rfl⟩ : ∃ rest, input = extension.bytes ++ rest := ⟨_, stands.2⟩
  have preamble : extension.bytes ++ rest =
      halfBytes extension.profile ++ (halfBytes (extension.data.length / 4).toUInt16 ++
        (extension.data ++ rest)) := by
    rw [RtpExtension.bytes, append_assoc, append_assoc]
  have words : (extension.bytes ++ rest).drop 2 =
      halfBytes (extension.data.length / 4).toUInt16 ++ (extension.data ++ rest) := by
    rw [preamble, drop_left' (length_halfBytes _)]
  have data : (extension.bytes ++ rest).drop extensionPreambleBytes = extension.data ++ rest := by
    rw [show extensionPreambleBytes = 2 + 2 from rfl, ← drop_drop, words,
      drop_left' (length_halfBytes _)]
  constructor
  · rw [wireFormat, preamble, take_left' (length_halfBytes _), halfOf_halfBytes]
  · rw [wireData, words, data, take_left' (length_halfBytes _), halfOf_halfBytes,
      extension.toNat_words, take_left]

/-- The iteration of a parsed block is covered by its validation exactly if its format
is not that of one-byte headers, or no header has a length without a number. -/
theorem covered_parse_iff
    {input : List UInt8} {extension : RtpExtension} {consumed : Nat}
    (parsed : RtpExtension.parse input = .ok (extension, consumed)) :
    Covered extension ↔ (wireFormat input = .oneByte → Numbered (wireData input)) := by
  obtain ⟨format, data⟩ := wire_of_parse parsed
  rw [format, data]
  exact covered_iff extension

/-- A one-byte element and padding. -/
def numberedExtension : RtpExtension where
  profile := oneByteProfile
  data := [0x10, 0xaa, 0, 0]
  elementCount := 1
  data_le := by decide
  aligned := by decide
  counted := by
    have known : ¬(0x10 : UInt8) >>> 4 = 15 := by decide
    simp [validateElements, formatForProfile, validateOneByte, require, ensure,
      checkedElementCount, maxExtensionElements, rangeFrom, known]

theorem covered_parse_iff_numberedExtension :
    RtpExtension.parse (numberedExtension.bytes ++ []) =
        .ok (numberedExtension, numberedExtension.bytes.length) ∧
      (Covered numberedExtension ↔ (wireFormat (numberedExtension.bytes ++ []) = .oneByte →
          Numbered (wireData (numberedExtension.bytes ++ [])))) :=
  ⟨RtpExtension.parse_bytes _ _, covered_parse_iff (RtpExtension.parse_bytes _ _)⟩

/-- A length without a number, and its data. -/
def unnumberedExtension : RtpExtension where
  profile := oneByteProfile
  data := [0x01, 0xaa, 0xbb, 0]
  elementCount := 1
  data_le := by decide
  aligned := by decide
  counted := by
    have known : ¬(0x01 : UInt8) >>> 4 = 15 := by decide
    simp [validateElements, formatForProfile, validateOneByte, require, ensure,
      checkedElementCount, maxExtensionElements, rangeFrom, known]

/-- A block whose element has no number is parsed and iterated. -/
theorem not_covered_unnumberedExtension :
    RtpExtension.parse [0xbe, 0xde, 0, 1, 0x01, 0xaa, 0xbb, 0] = .ok (unnumberedExtension, 8) ∧
      ¬Covered unnumberedExtension := by
  refine ⟨RtpExtension.parse_bytes unnumberedExtension [], ?_⟩
  rw [covered_iff]
  intro numbered
  have header := numbered rfl 0x01 (by
    rw [unnumberedExtension, oneByteHeaders]
    exact mem_cons_self ..)
  exact absurd header (by decide)

end Rtp
end LiveAISIP
