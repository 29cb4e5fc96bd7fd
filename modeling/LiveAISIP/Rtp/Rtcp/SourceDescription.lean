import LiveAISIP.Rtp.Rtcp.Report

/-!
# RTCP source descriptions

Source descriptions of `rtp/packet/rtcp/sdes.rs`: chunks of items, each chunk
closed by an END marker and filled with zeros to a whole word.
-/

namespace LiveAISIP
namespace Rtp

open Ascii BigEndian Fault Outcome
open RtcpHeader

variable {packet rest : List UInt8} {bodyEnd : Nat} {grants : Nat → Bool}

/-- Maximum number of chunks. -/
def maxSdesChunks : Nat := 31

/-- Maximum number of items over one packet. -/
def maxSdesItems : Nat := 512

/-- Maximum length of an item value. -/
def maxSdesItemBytes : Nat := 255

/-- Item type. -/
inductive SdesItemType
  | canonicalName
  | name
  | email
  | phone
  | location
  | tool
  | note
  | privateUse
  | other (value : UInt8)
  deriving DecidableEq

/-- Failure to parse, construct or serialize a source description. -/
inductive SourceDescriptionError
  | header (error : RtcpHeaderError)
  | wrongPacketType (actual : RtcpPacketType)
  | endMarkerIsNotItem
  | chunkTruncated (chunkIndex offset : Nat)
  | itemHeaderTruncated (chunkIndex offset : Nat)
  | itemTruncated (chunkIndex offset required available : Nat)
  | itemTooLong (actual maximum : Nat)
  | missingEndMarker (chunkIndex : Nat)
  | chunkPaddingTruncated (chunkIndex required available : Nat)
  | nonZeroChunkPadding (chunkIndex : Nat)
  | trailingBodyData (bytes : Nat)
  | tooManyChunks (actual maximum : Nat)
  | tooManyItems (attempted maximum : Nat)
  | privateItemMissingPrefixLength
  | privatePrefixTruncated (required available : Nat)
  | packetNotWordAligned (actual : Nat)
  | lengthOverflow
  | allocationFailed
  deriving DecidableEq

namespace SdesItemType

variable {itemType : SdesItemType}

/-- Classify a nonzero item type. -/
def fromRaw (value : UInt8) : Except SourceDescriptionError SdesItemType :=
  match value.toNat with
  | 0 => .error .endMarkerIsNotItem
  | 1 => .ok .canonicalName
  | 2 => .ok .name
  | 3 => .ok .email
  | 4 => .ok .phone
  | 5 => .ok .location
  | 6 => .ok .tool
  | 7 => .ok .note
  | 8 => .ok .privateUse
  | _ => .ok (.other value)

/-- The item-type octet. -/
def asRaw : SdesItemType → UInt8
  | .canonicalName => 1
  | .name => 2
  | .email => 3
  | .phone => 4
  | .location => 5
  | .tool => 6
  | .note => 7
  | .privateUse => 8
  | .other value => value

/-- An item type that classification returns. -/
def Known (itemType : SdesItemType) : Prop := fromRaw itemType.asRaw = .ok itemType

theorem asRaw_of_fromRaw {value : UInt8}
    (classified : fromRaw value = .ok itemType) :
    itemType.asRaw = value := by
  have checked : ∀ value : UInt8, (fromRaw value).toOption.all (·.asRaw == value) = true :=
    forall_byte (by decide +kernel)
  simpa [classified, Except.toOption] using checked value

theorem known_of_fromRaw {value : UInt8}
    (classified : fromRaw value = .ok itemType) :
    itemType.Known := by
  rw [Known, asRaw_of_fromRaw classified, classified]

theorem fromRaw_zero : fromRaw 0 = .error .endMarkerIsNotItem := rfl

theorem Known.asRaw_ne_zero (known : itemType.Known) :
    itemType.asRaw ≠ 0 := by
  intro zero
  rw [Known, zero, fromRaw_zero] at known
  cases known

end SdesItemType

/-- Check the value of an item. -/
def validateItemValue (itemType : SdesItemType) (value : List UInt8) :
    Except SourceDescriptionError Unit := do
  ensure (value.length ≤ maxSdesItemBytes) (.itemTooLong value.length maxSdesItemBytes)
  if itemType = .privateUse then
    match value with
    | [] => .error .privateItemMissingPrefixLength
    | prefixLength :: rest =>
      ensure (prefixLength.toNat ≤ rest.length)
        (.privatePrefixTruncated prefixLength.toNat rest.length)

/-- An item. -/
structure SdesItem where
  itemType : SdesItemType
  value : List UInt8
  valid : validateItemValue itemType value = .ok ()
  deriving DecidableEq

namespace SdesItem

/-- Construct an item. -/
def new (grants : Nat → Bool) (itemType : SdesItemType) (value : List UInt8) :
    Except SourceDescriptionError SdesItem := do
  let _ ← SdesItemType.fromRaw itemType.asRaw
  match valid : validateItemValue itemType value with
  | .error error => .error error
  | .ok () =>
    ensure (grants value.length = true) .allocationFailed
    return { itemType := itemType, value := value, valid := valid }

/-- The wire form of an item. -/
def bytes (item : SdesItem) : List UInt8 :=
  item.itemType.asRaw :: item.value.length.toUInt8 :: item.value

theorem value_le (item : SdesItem) : item.value.length ≤ 255 := by
  obtain ⟨_, small, _⟩ := bind_eq_ok.mp item.valid
  exact ensure_eq_ok.mp small

theorem length_octet (item : SdesItem) :
    item.value.length.toUInt8.toNat = item.value.length := by
  have small := item.value_le
  rw [Nat.toUInt8_eq, UInt8.toNat_ofNat', Nat.mod_eq_of_lt (by omega)]

/-- An item is made again from its parts. -/
theorem new_eq {grants : Nat → Bool} (granted : ∀ size, grants size = true)
    (item : SdesItem) (known : item.itemType.Known) :
    new grants item.itemType item.value = .ok item := by
  unfold new
  refine bind_of_ok known ?_
  split
  case h_1 error refused =>
    rw [item.valid] at refused
    cases refused
  case h_2 _ =>
    rw [ensure_of (granted _), ok_bind]
    rfl

/-- What a made item is made of. -/
theorem of_new {grants : Nat → Bool} {itemType : SdesItemType} {value : List UInt8}
    {item : SdesItem} (built : new grants itemType value = .ok item) :
    item.itemType = itemType ∧ item.value = value := by
  obtain ⟨_, _, built⟩ := bind_eq_ok.mp built
  split at built
  · cases built
  · obtain ⟨_, _, built⟩ := bind_eq_ok.mp built
    cases built
    exact ⟨rfl, rfl⟩

end SdesItem

/-- A chunk of items about one source. -/
structure SdesChunk where
  sourceSsrc : UInt32
  items : List SdesItem
  deriving DecidableEq

namespace SdesChunk

/-- Construct a chunk. -/
def new (grants : Nat → Bool) (sourceSsrc : UInt32) (items : List SdesItem) :
    Except SourceDescriptionError SdesChunk := do
  ensure (items.length ≤ maxSdesItems) (.tooManyItems items.length maxSdesItems)
  ensure (grants items.length = true) .allocationFailed
  return { sourceSsrc := sourceSsrc, items := items }

/-- The encoded size of a chunk. -/
def encodedLen (chunk : SdesChunk) : Nat :=
  alignToWord (chunk.items.foldl (fun length item => length + 2 + item.value.length) 5)

/-- The source, the items and the END marker of a chunk. -/
def content (chunk : SdesChunk) : List UInt8 :=
  wordBytes chunk.sourceSsrc ++ (chunk.items.flatMap SdesItem.bytes ++ [0])

/-- The zeros that fill a chunk to a whole word. -/
def fill (chunk : SdesChunk) : List UInt8 :=
  List.replicate (alignToWord chunk.content.length - chunk.content.length) 0

/-- The wire form of a chunk. -/
def bytes (chunk : SdesChunk) : List UInt8 := chunk.content ++ chunk.fill

end SdesChunk

/-- A source description. -/
structure SourceDescription where
  chunks : List SdesChunk
  paddingBytes : UInt8
  deriving DecidableEq

/-- Parse the items of a chunk up to its END marker. -/
def parseItems (grants : Nat → Bool) (packet : List UInt8) (bodyEnd chunkIndex : Nat)
    (offset : Nat) (items : List SdesItem) (totalItems : Nat) :
    Except (Fault SourceDescriptionError) (List SdesItem × Nat × Nat) :=
  if offset < bodyEnd then do
    let itemType ← byteAt packet offset
    if itemType = 0 then return (items, offset + 1, totalItems)
    else
      require (offset + 1 < bodyEnd) (.itemHeaderTruncated chunkIndex offset)
      let length ← byteAt packet (offset + 1)
      require (offset + 2 + length.toNat ≤ bodyEnd)
        (.itemTruncated chunkIndex offset length.toNat (bodyEnd - (offset + 2)))
      require (totalItems + 1 ≤ maxSdesItems) (.tooManyItems (totalItems + 1) maxSdesItems)
      let itemType ← (SdesItemType.fromRaw itemType).mapError .refused
      let value ← range packet (offset + 2) (offset + 2 + length.toNat)
      let item ← (SdesItem.new grants itemType value.val).mapError .refused
      require (grants 1) .allocationFailed
      parseItems grants packet bodyEnd chunkIndex (offset + 2 + length.toNat)
        (items ++ [item]) (totalItems + 1)
  else .error (.refused (.missingEndMarker chunkIndex))
  termination_by bodyEnd - offset

/-- Parse one chunk and the zeros that fill it. -/
def parseChunk (grants : Nat → Bool) (packet : List UInt8) (bodyEnd chunkIndex : Nat)
    (offset totalItems : Nat) :
    Except (Fault SourceDescriptionError) (SdesChunk × Nat × Nat) := do
  require (4 ≤ bodyEnd - offset) (.chunkTruncated chunkIndex offset)
  let sourceSsrc ← readU32 packet offset
  let (items, itemsEnd, totalItems) ←
    parseItems grants packet bodyEnd chunkIndex (offset + 4) [] totalItems
  let chunkUsed := itemsEnd - offset
  let padding := alignToWord chunkUsed - chunkUsed
  require (itemsEnd + padding ≤ bodyEnd)
    (.chunkPaddingTruncated chunkIndex padding (bodyEnd - itemsEnd))
  let fill ← range packet itemsEnd (itemsEnd + padding)
  require (fill.val.all (· == 0)) (.nonZeroChunkPadding chunkIndex)
  return ({ sourceSsrc := sourceSsrc, items := items }, itemsEnd + padding, totalItems)

/-- Parse so many chunks, the first of which has an index. -/
def parseChunks (grants : Nat → Bool) (packet : List UInt8) (bodyEnd : Nat) :
    Nat → Nat → Nat → Nat → Except (Fault SourceDescriptionError) (List SdesChunk × Nat)
  | _, 0, offset, _ => .ok ([], offset)
  | chunkIndex, remaining + 1, offset, totalItems => do
    let (chunk, next, totalItems) ← parseChunk grants packet bodyEnd chunkIndex offset totalItems
    let (chunks, offset) ←
      parseChunks grants packet bodyEnd (chunkIndex + 1) remaining next totalItems
    return (chunk :: chunks, offset)

namespace SourceDescription

/-- Parse one source description at the front of the input. -/
def parse (grants : Nat → Bool) (input : List UInt8) :
    Except (Fault SourceDescriptionError) (SourceDescription × Nat) := do
  let header ← (RtcpHeader.parse input).mapError (Fault.map .header)
  require (header.packetType = .sourceDescription) (.wrongPacketType header.packetType)
  let bodyEnd := rtcpHeaderBytes + header.unpaddedBodyLen
  let packet ← range input 0 header.packetLen
  require (grants header.count.toNat) .allocationFailed
  let (chunks, offset) ←
    parseChunks grants packet.val bodyEnd 0 header.count.toNat rtcpHeaderBytes 0
  require (offset = bodyEnd) (.trailingBodyData (bodyEnd - offset))
  return ({ chunks := chunks, paddingBytes := header.paddingBytes }, header.packetLen)

/-- Check the numbers of chunks and items. -/
def validateChunks (chunks : List SdesChunk) : Except SourceDescriptionError Unit := do
  ensure (chunks.length ≤ maxSdesChunks) (.tooManyChunks chunks.length maxSdesChunks)
  let itemCount := chunks.foldl (fun count chunk => count + chunk.items.length) 0
  ensure (itemCount ≤ maxSdesItems) (.tooManyItems itemCount maxSdesItems)

/-- The length of a packet of chunks. -/
def packetLen (chunks : List SdesChunk) (paddingBytes : UInt8) :
    Except SourceDescriptionError Nat :=
  let bodyLength := chunks.foldl (fun length chunk => length + chunk.encodedLen) 0
  let length := rtcpHeaderBytes + bodyLength + paddingBytes.toNat
  if 4 ∣ length then .ok length else .error (.packetNotWordAligned length)

/-- Construct a source description. -/
def new (grants : Nat → Bool) (chunks : List SdesChunk) (paddingBytes : UInt8) :
    Except SourceDescriptionError SourceDescription := do
  validateChunks chunks
  let length ← packetLen chunks paddingBytes
  let _ ← forCount .header .lengthOverflow .sourceDescription chunks.length length paddingBytes
  ensure (grants chunks.length = true) .allocationFailed
  return { chunks := chunks, paddingBytes := paddingBytes }

/-- Append the items of a chunk. -/
def appendItems (output : List UInt8) : List SdesItem → Except SourceDescriptionError (List UInt8)
  | [] => .ok output
  | item :: items => do
    ensure (item.value.length ≤ 255) .lengthOverflow
    appendItems (output ++ [item.itemType.asRaw, item.value.length.toUInt8] ++ item.value) items

/-- Append chunks, each filled to a whole word. -/
def appendChunks (output : List UInt8) : List SdesChunk → Except SourceDescriptionError (List UInt8)
  | [] => .ok output
  | chunk :: chunks => do
    let start := output.length
    let output ← appendItems (output ++ wordBytes chunk.sourceSsrc) chunk.items
    let output := output ++ [0]
    appendChunks (resize output (start + alignToWord (output.length - start))) chunks

/-- Serialize a source description. -/
def encode (grants : Nat → Bool) (packet : SourceDescription) :
    Except SourceDescriptionError (List UInt8) := do
  validateChunks packet.chunks
  let length ← packetLen packet.chunks packet.paddingBytes
  let header ← forCount .header .lengthOverflow .sourceDescription
    packet.chunks.length length packet.paddingBytes
  ensure (grants length = true) .allocationFailed
  let output ← header.encode.mapError .header
  let output ← appendChunks output packet.chunks
  appendPadding .lengthOverflow packet.paddingBytes length output

end SourceDescription

theorem SdesItem.length_bytes (item : SdesItem) :
    item.bytes.length = 2 + item.value.length := by
  simp only [bytes, List.length_cons]
  omega

namespace SdesChunk

theorem foldl_items (items : List SdesItem) (start : Nat) :
    items.foldl (fun length item => length + 2 + item.value.length) start =
      start + (items.flatMap SdesItem.bytes).length := by
  induction items generalizing start with
  | nil => rfl
  | cons item items ih =>
    rw [List.foldl_cons, ih, List.flatMap_cons, List.length_append, item.length_bytes]
    omega

theorem length_content (chunk : SdesChunk) :
    chunk.content.length = 5 + (chunk.items.flatMap SdesItem.bytes).length := by
  simp only [content, List.length_append, length_wordBytes, List.length_singleton]
  omega

theorem length_bytes (chunk : SdesChunk) : chunk.bytes.length = chunk.encodedLen := by
  have bound := le_alignToWord chunk.content.length
  rw [bytes, List.length_append, fill, List.length_replicate, encodedLen, foldl_items,
    ← length_content]
  omega

theorem four_dvd_length_bytes (chunk : SdesChunk) : 4 ∣ chunk.bytes.length := by
  rw [length_bytes]
  exact four_dvd_alignToWord _

end SdesChunk

/-- The number of items of a packet. -/
def itemCount (chunks : List SdesChunk) : Nat := (chunks.map fun chunk => chunk.items.length).sum

namespace SourceDescription

theorem foldl_itemCount (chunks : List SdesChunk) (start : Nat) :
    chunks.foldl (fun count chunk => count + chunk.items.length) start =
      start + itemCount chunks := by
  induction chunks generalizing start with
  | nil => rfl
  | cons chunk chunks ih =>
    rw [List.foldl_cons, ih, itemCount, itemCount, List.map_cons, List.sum_cons, Nat.add_assoc]

theorem foldl_encodedLen (chunks : List SdesChunk) (start : Nat) :
    chunks.foldl (fun length chunk => length + chunk.encodedLen) start =
      start + (chunks.flatMap SdesChunk.bytes).length := by
  induction chunks generalizing start with
  | nil => rfl
  | cons chunk chunks ih =>
    rw [List.foldl_cons, ih, List.flatMap_cons, List.length_append,
      chunk.length_bytes, Nat.add_assoc]

theorem four_dvd_length_flatMap (chunks : List SdesChunk) :
    4 ∣ (chunks.flatMap SdesChunk.bytes).length := by
  induction chunks with
  | nil => exact Nat.dvd_zero 4
  | cons chunk chunks ih =>
    rw [List.flatMap_cons, List.length_append]
    exact Nat.dvd_add chunk.four_dvd_length_bytes ih

end SourceDescription

/-- Parsed items stand one after the other before their END marker. -/
theorem safe_parseItems (grants : Nat → Bool)
    (inside : bodyEnd ≤ packet.length) (chunkIndex offset : Nat)
    (items : List SdesItem) (totalItems : Nat) :
    Safe (fun parsed => ∃ more : List SdesItem,
        parsed.1 = items ++ more ∧ parsed.2.2 = totalItems + more.length ∧
        (totalItems ≤ maxSdesItems → totalItems + more.length ≤ maxSdesItems) ∧
        packet.drop offset = more.flatMap SdesItem.bytes ++ 0 :: packet.drop parsed.2.1 ∧
        parsed.2.1 = offset + (more.flatMap SdesItem.bytes).length + 1 ∧
        parsed.2.1 ≤ bodyEnd ∧ ∀ item ∈ more, item.itemType.Known)
      (parseItems grants packet bodyEnd chunkIndex offset items totalItems) := by
  -- The induction follows the loop: each round consumes one item.
  induction remaining : bodyEnd - offset using Nat.strong_induction_on
    generalizing offset items totalItems with
  | _ size ih =>
  unfold parseItems
  split_ifs with within
  swap
  · simp
  refine .bind (safe_byteAt (by omega)) fun type typeStands => ?_
  split_ifs with ended
  · subst ended
    refine ⟨[], by simp, rfl, fun bound => bound, ?_, rfl, within, by simp⟩
    rw [typeStands]
    rfl
  refine .bind (safe_require _ _) fun _ header => ?_
  refine .bind (safe_byteAt (by omega)) fun length lengthStands => ?_
  refine .bind (safe_require _ _) fun _ whole => ?_
  refine .bind (safe_require _ _) fun _ few => ?_
  have classified : Safe (fun itemType => SdesItemType.fromRaw type = .ok itemType)
      ((SdesItemType.fromRaw type).mapError Fault.refused) := by
    cases SdesItemType.fromRaw type <;> simp [Except.mapError]
  refine .bind classified fun itemType raw => ?_
  refine .bind (safe_range (by omega) (by omega)) fun value valueStands => ?_
  have made : Safe (fun item => SdesItem.new grants itemType value.val = .ok item)
      ((SdesItem.new grants itemType value.val).mapError Fault.refused) := by
    cases SdesItem.new grants itemType value.val <;> simp [Except.mapError]
  refine .bind made fun item built => ?_
  obtain ⟨itemTypeIs, valueIs⟩ := SdesItem.of_new built
  refine .bind (safe_require _ _) fun _ _ => ?_
  refine (ih (bodyEnd - (offset + 2 + length.toNat)) (by omega)
    (offset + 2 + length.toNat) (items ++ [item]) (totalItems + 1) rfl).mono ?_
  rintro ⟨parsed, last, total⟩ ⟨more, parsedIs, totalIs, bound, stand, lastIs, lastIn, known⟩
  have size : item.value.length = length.toNat := by
    rw [valueIs, value.property]
    omega
  have octets : item.bytes = type :: length :: value.val := by
    rw [SdesItem.bytes, size, itemTypeIs, SdesItemType.asRaw_of_fromRaw raw, valueIs]
    simp
  refine ⟨item :: more, ?_, ?_, ?_, ?_, ?_, lastIn, ?_⟩
  · rw [parsedIs, List.append_assoc, List.singleton_append]
  · rw [totalIs, List.length_cons]
    omega
  · intro _
    have bound := bound few
    rw [List.length_cons]
    omega
  · rw [List.flatMap_cons, octets, typeStands, lengthStands, valueStands, stand]
    simp
  · rw [lastIs, List.flatMap_cons, List.length_append, item.length_bytes, size]
    omega
  · intro other among
    rcases List.mem_cons.mp among with rfl | among
    · rw [itemTypeIs]
      exact SdesItemType.known_of_fromRaw raw
    · exact known other among

/-- Items before their END marker are parsed. -/
theorem parseItems_of_drop (granted : ∀ size, grants size = true) (inside : bodyEnd ≤ packet.length)
    (chunkIndex offset : Nat) (items more : List SdesItem) (totalItems : Nat)
    (found : packet.drop offset = more.flatMap SdesItem.bytes ++ 0 :: rest)
    (within : offset + (more.flatMap SdesItem.bytes).length + 1 ≤ bodyEnd)
    (few : totalItems + more.length ≤ maxSdesItems) (known : ∀ item ∈ more, item.itemType.Known) :
    parseItems grants packet bodyEnd chunkIndex offset items totalItems =
      .ok (items ++ more, offset + (more.flatMap SdesItem.bytes).length + 1,
        totalItems + more.length) := by
  induction more generalizing offset items totalItems with
  | nil =>
    rw [List.flatMap_nil, List.nil_append] at found
    rw [parseItems, if_pos (by omega)]
    refine bind_of_ok (byteAt_of_drop found) ?_
    rw [if_pos rfl, List.append_nil]
    rfl
  | cons item more ih =>
    have itemKnown := known item List.mem_cons_self
    have octet := item.length_octet
    rw [List.flatMap_cons, List.length_append, item.length_bytes] at within
    rw [List.length_cons] at few
    have atType : packet.drop offset = item.itemType.asRaw ::
        item.value.length.toUInt8 :: (item.value ++
          (more.flatMap SdesItem.bytes ++ 0 :: rest)) := by
      rw [found, List.flatMap_cons, SdesItem.bytes]
      simp
    have atLength : packet.drop (offset + 1) = _ := drop_succ_of_drop atType
    have atValue : packet.drop (offset + 2) = _ := drop_succ_of_drop atLength
    have atNext : packet.drop (offset + 2 + item.value.length.toUInt8.toNat) = _ :=
      drop_next atValue octet.symm
    rw [parseItems, if_pos (by omega)]
    refine bind_of_ok (byteAt_of_drop atType) ?_
    rw [if_neg itemKnown.asRaw_ne_zero]
    refine bind_of_ok (require_of (by omega) _) ?_
    refine bind_of_ok (byteAt_of_drop atLength) ?_
    refine bind_of_ok (require_of (by omega) _) ?_
    refine bind_of_ok (require_of (by omega) _) ?_
    refine bind_of_ok (mapError_eq_ok.mpr itemKnown) ?_
    refine bind_of_ok (range_of_drop atValue (by omega) (by omega)) ?_
    refine bind_of_ok (mapError_eq_ok.mpr (item.new_eq granted itemKnown)) ?_
    refine bind_of_ok (require_of (granted _) _) ?_
    rw [ih _ (items ++ [item]) (totalItems + 1) atNext (by omega)
      (by omega) fun other among => known other (List.mem_cons_of_mem _ among)]
    rw [List.append_assoc, List.singleton_append, List.flatMap_cons,
      List.length_append, item.length_bytes, List.length_cons, octet]
    refine congrArg Except.ok (Prod.ext rfl (Prod.ext ?_ ?_))
    · simp only
      omega
    · simp only
      omega

/-- Every item of a chunk has a type that classification returns. -/
def SdesChunk.Known (chunk : SdesChunk) : Prop := ∀ item ∈ chunk.items, item.itemType.Known

/-- A parsed chunk stands at its offset. -/
theorem safe_parseChunk (grants : Nat → Bool)
    (inside : bodyEnd ≤ packet.length) (chunkIndex offset totalItems : Nat) :
    Safe (fun parsed => parsed.1.Known ∧ parsed.2.2 = totalItems + parsed.1.items.length ∧
        (totalItems ≤ maxSdesItems → parsed.2.2 ≤ maxSdesItems) ∧
        packet.drop offset = parsed.1.bytes ++ packet.drop parsed.2.1 ∧
        parsed.2.1 = offset + parsed.1.bytes.length ∧ parsed.2.1 ≤ bodyEnd)
      (parseChunk grants packet bodyEnd chunkIndex offset totalItems) := by
  unfold parseChunk
  refine .bind (safe_require _ _) fun _ room => ?_
  refine .bind (safe_readU32 (by omega)) fun source sourceStands => ?_
  refine .bind (safe_parseItems grants inside chunkIndex (offset + 4) [] totalItems)
    fun parsed front => ?_
  obtain ⟨items, itemsEnd, total⟩ := parsed
  obtain ⟨more, itemsIs, totalIs, bound, stand, endIs, endIn, known⟩ := front
  rw [List.nil_append] at itemsIs
  subst itemsIs
  dsimp only at totalIs stand endIs endIn
  have content : itemsEnd - offset = (SdesChunk.content ⟨source, items⟩).length := by
    rw [SdesChunk.length_content]
    dsimp only
    omega
  have filled := le_alignToWord (itemsEnd - offset)
  refine .bind (safe_require _ _) fun _ whole => ?_
  refine .bind (safe_range (by omega) (by omega)) fun fill fillStands => ?_
  refine .bind (safe_require _ _) fun _ zeros => ?_
  have fillIs : fill.val = SdesChunk.fill ⟨source, items⟩ := by
    rw [SdesChunk.fill, ← content, List.eq_replicate_iff]
    refine ⟨?_, ?_⟩
    · rw [fill.property]
      omega
    · simpa using zeros
  refine ⟨known, totalIs, ?_, ?_, ?_, whole⟩
  · intro few
    rw [totalIs]
    exact bound few
  · rw [sourceStands, stand, fillStands, fillIs]
    simp [SdesChunk.bytes, SdesChunk.content]
  · rw [SdesChunk.bytes, List.length_append, ← fillIs, fill.property, ← content]
    dsimp only
    omega

/-- A chunk at its offset is parsed. -/
theorem parseChunk_of_drop (granted : ∀ size, grants size = true) (inside : bodyEnd ≤ packet.length)
    (chunkIndex offset totalItems : Nat) (chunk : SdesChunk)
    (found : packet.drop offset = chunk.bytes ++ rest)
    (within : offset + chunk.bytes.length ≤ bodyEnd)
    (few : totalItems + chunk.items.length ≤ maxSdesItems) (known : chunk.Known) :
    parseChunk grants packet bodyEnd chunkIndex offset totalItems =
      .ok (chunk, offset + chunk.bytes.length, totalItems + chunk.items.length) := by
  have size : chunk.bytes.length = chunk.content.length + chunk.fill.length := List.length_append
  have contentSize := chunk.length_content
  have atSource : packet.drop offset = wordBytes chunk.sourceSsrc ++
      (chunk.items.flatMap SdesItem.bytes ++ 0 :: (chunk.fill ++ rest)) := by
    rw [found]
    simp [SdesChunk.bytes, SdesChunk.content]
  have atItems := drop_next atSource (length_wordBytes _)
  have parsed := parseItems_of_drop granted inside chunkIndex (offset + 4) []
    chunk.items totalItems atItems (by omega) few known
  have endIs : offset + 4 + (chunk.items.flatMap SdesItem.bytes).length + 1 =
      offset + chunk.content.length := by omega
  have atFill : packet.drop (offset + chunk.content.length) = chunk.fill ++ rest := by
    rw [SdesChunk.bytes, List.append_assoc] at found
    exact drop_next found rfl
  have fillSize : chunk.fill.length = alignToWord chunk.content.length - chunk.content.length :=
    List.length_replicate
  have aligned : alignToWord (offset + chunk.content.length - offset) =
      alignToWord chunk.content.length := by
    rw [Nat.add_sub_cancel_left]
  rw [List.nil_append, endIs] at parsed
  unfold parseChunk
  refine bind_of_ok (require_of (by omega) _) ?_
  refine bind_of_ok (readU32_of_drop atSource (by omega)) ?_
  refine bind_of_ok parsed ?_
  refine bind_of_ok (require_of (by omega) _) ?_
  refine bind_of_ok (range_of_drop atFill (by omega) (by omega)) ?_
  refine bind_of_ok (require_of ?_ _) ?_
  · simp [SdesChunk.fill]
  · rw [aligned, Nat.add_sub_cancel_left, ← fillSize, size, Nat.add_assoc]
    rfl

/-- Parsed chunks stand one after the other. -/
theorem safe_parseChunks (grants : Nat → Bool)
    (inside : bodyEnd ≤ packet.length) (chunkIndex remaining offset totalItems : Nat)
    (few : totalItems ≤ maxSdesItems) :
    Safe (fun parsed => parsed.1.length = remaining ∧ (∀ chunk ∈ parsed.1, chunk.Known) ∧
        totalItems + itemCount parsed.1 ≤ maxSdesItems ∧
        packet.drop offset = parsed.1.flatMap SdesChunk.bytes ++ packet.drop parsed.2 ∧
        parsed.2 = offset + (parsed.1.flatMap SdesChunk.bytes).length)
      (parseChunks grants packet bodyEnd chunkIndex remaining offset totalItems) := by
  induction remaining generalizing chunkIndex offset totalItems with
  | zero => exact ⟨rfl, by simp, few, rfl, rfl⟩
  | succ remaining ih =>
    refine .bind (safe_parseChunk grants inside chunkIndex offset totalItems)
      fun parsed front => ?_
    obtain ⟨chunk, next, total⟩ := parsed
    obtain ⟨known, totalIs, bound, stands, nextIs, _⟩ := front
    refine .bind (ih (chunkIndex + 1) next total (bound few)) fun parsed front => ?_
    obtain ⟨chunks, last⟩ := parsed
    obtain ⟨number, allKnown, count, stand, lastIs⟩ := front
    dsimp only at known totalIs stands nextIs number allKnown count stand lastIs
    refine ⟨by simp [number], ?_, ?_, ?_, ?_⟩
    · intro other among
      rcases List.mem_cons.mp among with rfl | among
      · exact known
      · exact allKnown other among
    · rw [itemCount, List.map_cons, List.sum_cons, ← itemCount]
      omega
    · rw [stands, stand, List.flatMap_cons, List.append_assoc]
    · rw [lastIs, nextIs, List.flatMap_cons, List.length_append, Nat.add_assoc]

/-- Chunks one after the other are parsed. -/
theorem parseChunks_of_drop
    (granted : ∀ size, grants size = true)
    (inside : bodyEnd ≤ packet.length)
    (chunkIndex offset totalItems : Nat) (chunks : List SdesChunk)
    (found : packet.drop offset = chunks.flatMap SdesChunk.bytes ++ rest)
    (within : offset + (chunks.flatMap SdesChunk.bytes).length ≤ bodyEnd)
    (few : totalItems + itemCount chunks ≤ maxSdesItems) (known : ∀ chunk ∈ chunks, chunk.Known) :
    parseChunks grants packet bodyEnd chunkIndex chunks.length offset totalItems =
      .ok (chunks, offset + (chunks.flatMap SdesChunk.bytes).length) := by
  induction chunks generalizing chunkIndex offset totalItems with
  | nil => rfl
  | cons chunk chunks ih =>
    rw [List.flatMap_cons, List.append_assoc] at found
    rw [List.flatMap_cons, List.length_append] at within ⊢
    rw [itemCount, List.map_cons, List.sum_cons, ← itemCount] at few
    refine bind_of_ok (parseChunk_of_drop granted inside chunkIndex offset totalItems
      chunk found (by omega) (by omega) (known chunk List.mem_cons_self)) ?_
    refine bind_of_ok (ih (chunkIndex + 1) _ _ (drop_next found rfl) (by omega) (by omega)
      fun other among => known other (List.mem_cons_of_mem _ among)) ?_
    rw [Nat.add_assoc]
    rfl

namespace SourceDescription

variable {grants : Nat → Bool} {frame : Frame} {packet : SourceDescription}

/-- A frame that carries a source description. -/
structure Carries (frame : Frame) (packet : SourceDescription) : Prop where
  packetType : frame.packetType = .sourceDescription
  count : frame.count.toNat = packet.chunks.length
  body : frame.body = packet.chunks.flatMap SdesChunk.bytes
  paddingBytes : frame.paddingBytes = packet.paddingBytes
  items : itemCount packet.chunks ≤ maxSdesItems
  known : ∀ chunk ∈ packet.chunks, chunk.Known

/-- A parsed source description is carried by the frame at the front of the input. -/
theorem safe_parse (grants : Nat → Bool) (input : List UInt8) :
    Safe (fun parsed => ∃ frame : Frame, ∃ rest,
        input = frame.bytes ++ rest ∧ parsed.2 = frame.length ∧
        Carries frame parsed.1)
      (parse grants input) := by
  unfold parse
  refine .bind ((RtcpHeader.safe_parse input).map _) fun header front => ?_
  obtain ⟨frame, rest, rfl, rfl⟩ := front
  refine .bind (safe_require _ _) fun _ type => ?_
  refine .bind (frame.safe_packet rest) fun packet isFrame => ?_
  refine .bind (safe_require _ _) fun _ _ => ?_
  have length : packet.val.length = rtcpHeaderBytes + frame.body.length +
      frame.paddingBytes.toNat := by
    rw [isFrame]
    exact frame.length_bytes
  have inside : rtcpHeaderBytes + frame.header.unpaddedBodyLen ≤ packet.val.length := by
    rw [length, Frame.unpaddedBodyLen_header]
    omega
  refine .bind (safe_parseChunks grants inside 0 _ rtcpHeaderBytes 0 (Nat.zero_le _))
    fun parsed front => ?_
  obtain ⟨chunks, last⟩ := parsed
  obtain ⟨number, known, items, stand, lastIs⟩ := front
  refine .bind (safe_require _ _) fun _ exhausted => ?_
  refine ⟨frame, rest, rfl, rfl, type, number.symm, ?_, rfl, by simpa using items, known⟩
  rw [isFrame, frame.drop_header] at stand
  refine (List.append_inj stand ?_).1
  dsimp only at lastIs exhausted
  rw [Frame.unpaddedBodyLen_header] at exhausted
  dsimp only
  omega

/-- A source description is parsed from a frame that carries it. -/
theorem parse_of_carries (granted : ∀ size, grants size = true) (carries : Carries frame packet)
    (rest : List UInt8) :
    parse grants (frame.bytes ++ rest) = .ok (packet, frame.length) := by
  have length : frame.bytes.length = rtcpHeaderBytes + frame.body.length +
      frame.paddingBytes.toNat := frame.length_bytes
  have bodyEnd := frame.unpaddedBodyLen_header
  have stands := frame.drop_header
  rw [carries.body] at stands
  have chunks := parseChunks_of_drop granted
    (show rtcpHeaderBytes + frame.body.length ≤ frame.bytes.length by omega)
    0 rtcpHeaderBytes 0 packet.chunks stands (by rw [carries.body])
    (by rw [Nat.zero_add]; exact carries.items) carries.known
  obtain ⟨slice, sliced, isFrame⟩ := frame.range_packet (ε := SourceDescriptionError) rest
  unfold parse
  refine bind_of_ok (mapError_eq_ok.mpr (parse_frame frame rest)) ?_
  refine bind_of_ok (require_of carries.packetType _) ?_
  refine bind_of_ok sliced ?_
  rw [isFrame, bodyEnd]
  refine bind_of_ok (require_of (granted _) _) ?_
  rw [← carries.count] at chunks
  refine bind_of_ok chunks ?_
  refine bind_of_ok (require_of (by rw [carries.body]) _) ?_
  simp only [Frame.header, carries.paddingBytes]
  rfl

theorem appendItems_eq (output : List UInt8) (items : List SdesItem) :
    appendItems output items = .ok (output ++ items.flatMap SdesItem.bytes) := by
  induction items generalizing output with
  | nil => rw [appendItems, List.flatMap_nil, List.append_nil]
  | cons item items ih =>
    rw [appendItems, ensure_of item.value_le, ok_bind, ih, List.flatMap_cons, SdesItem.bytes]
    simp

theorem appendChunks_eq (output : List UInt8) (chunks : List SdesChunk) :
    appendChunks output chunks = .ok (output ++ chunks.flatMap SdesChunk.bytes) := by
  induction chunks generalizing output with
  | nil => rw [appendChunks, List.flatMap_nil, List.append_nil]
  | cons chunk chunks ih =>
    have content : output ++ wordBytes chunk.sourceSsrc ++
        chunk.items.flatMap SdesItem.bytes ++ [0] = output ++ chunk.content := by
      simp [SdesChunk.content]
    have bound := le_alignToWord chunk.content.length
    have grown : output.length + alignToWord chunk.content.length =
        (output ++ chunk.content).length +
          (alignToWord chunk.content.length - chunk.content.length) := by
      rw [List.length_append]
      omega
    have used : (output ++ chunk.content).length - output.length = chunk.content.length := by
      rw [List.length_append, Nat.add_sub_cancel_left]
    simp only [appendChunks]
    rw [appendItems_eq, ok_bind, content, used, grown, resize_add,
      ih, List.flatMap_cons, SdesChunk.bytes, SdesChunk.fill]
    simp

theorem validateChunks_eq_ok {chunks : List SdesChunk} : validateChunks chunks = .ok () ↔
      chunks.length ≤ maxSdesChunks ∧ itemCount chunks ≤ maxSdesItems := by
  have count := foldl_itemCount chunks 0
  rw [Nat.zero_add] at count
  unfold validateChunks
  rw [bind_eq_ok, count]
  simp

theorem validateChunks_of_carries
    (carries : Carries frame packet) :
    validateChunks packet.chunks = .ok () := by
  refine validateChunks_eq_ok.mpr ⟨?_, carries.items⟩
  rw [← carries.count]
  exact frame.count_le

theorem packetLen_of_carries
    (carries : Carries frame packet) :
    packetLen packet.chunks packet.paddingBytes = .ok frame.length := by
  have length : rtcpHeaderBytes +
      packet.chunks.foldl (fun length chunk => length + chunk.encodedLen) 0 +
      packet.paddingBytes.toNat = frame.length := by
    rw [Frame.length, carries.body, carries.paddingBytes, foldl_encodedLen, Nat.zero_add]
  simp only [packetLen]
  rw [length, if_pos frame.four_dvd_length]

/-- A source description is encoded in the frame that carries it. -/
theorem encode_of_carries (granted : ∀ size, grants size = true) (carries : Carries frame packet) :
    encode grants packet = .ok frame.zeroed.bytes := by
  have sized : frame.length = (frame.headerBytes ++ packet.chunks.flatMap SdesChunk.bytes).length +
        packet.paddingBytes.toNat := by
    rw [List.length_append, frame.length_headerBytes, ← carries.body, ← carries.paddingBytes]
    rfl
  rw [encode, validateChunks_of_carries carries, ok_bind, packetLen_of_carries carries,
    ok_bind, forCount_frame carries.packetType carries.count
      carries.paddingBytes, ok_bind, ensure_of (granted _), ok_bind, encode_frame]
  refine bind_of_ok rfl ?_
  rw [appendChunks_eq, ok_bind, appendPadding_eq sized, Frame.bytes_zeroed, carries.body,
    carries.paddingBytes, List.append_assoc]

/-- A constructed source description of known item types has a frame. -/
theorem carries_of_new {chunks : List SdesChunk}
    {paddingBytes : UInt8} (built : new grants chunks paddingBytes = .ok packet)
    (known : ∀ chunk ∈ packet.chunks, chunk.Known) :
    ∃ frame, Carries frame packet := by
  obtain ⟨_, checked, built⟩ := bind_eq_ok.mp built
  obtain ⟨length, measured, built⟩ := bind_eq_ok.mp built
  obtain ⟨header, made, built⟩ := bind_eq_ok.mp built
  obtain ⟨_, _, built⟩ := bind_eq_ok.mp built
  cases built
  obtain ⟨few, items⟩ := validateChunks_eq_ok.mp checked
  obtain ⟨aligned, fits⟩ := of_forCount made
  simp only [packetLen, foldl_encodedLen, Nat.zero_add] at measured
  split_ifs at measured
  injection measured with measured
  have whole := four_dvd_length_flatMap chunks
  rw [rtcpHeaderBytes] at measured
  obtain ⟨frame, type, count, body, padding⟩ :=
    Frame.exists_of (show RtcpPacketType.fromRaw RtcpPacketType.sourceDescription.asRaw =
      .ok .sourceDescription from rfl) few
      (show 4 ∣ (chunks.flatMap SdesChunk.bytes).length + paddingBytes.toNat by omega)
      (by rw [rtcpHeaderBytes]; omega)
  exact ⟨frame, type, count, body, padding, items, known⟩

end SourceDescription

end Rtp
end LiveAISIP
