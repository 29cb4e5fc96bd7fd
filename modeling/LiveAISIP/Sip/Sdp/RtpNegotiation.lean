import LiveAISIP.Sip.Sdp.RtpOffer
import Mathlib.Data.List.Forall2
import Mathlib.Data.List.Nodup

/-!
# The meaning of a negotiation

What a media section offers is a relation between its lines and codec mappings:
each payload type of the `m=` line has the mapping of the only `rtpmap` attribute
for it, or else its static one.  A negotiation selects, for the first local codec
that any offered mapping fits, the first mapping that fits it.

Of several telephone-event mappings only the first one is kept.  Where it has
another clock rate than the selected codec, telephone events are lost although a
later mapping may have the right one.
-/

namespace LiveAISIP
namespace Sip
namespace Sdp

open Ascii Text Outcome
open List Codec

variable {rest : List Char} {lines : List SdpLine} {payload : PayloadType} {codecs : List Codec}

/-- The direction that a line declares. -/
def directionOf (line : SdpLine) : Option Direction :=
  if line.field = .attribute_ then (Direction.fromBytes (wireBytes line.value)).toOption
  else none

/-- The codec mapping that a line declares. -/
def mappingOf (line : SdpLine) : Option Codec :=
  if line.field = .attribute_ then
    (stripPrefix "rtpmap:" line.value).bind fun value =>
      (fromBytes (textBytes value)).toOption
  else none

/-- The mapping of a payload type in a section. -/
def Resolves (lines : List SdpLine) (payload : PayloadType) (codec : Codec) : Prop :=
  codec.payloadType = payload ∧ ((∃ line ∈ lines, mappingOf line = some codec) ∨
      ((∀ line ∈ lines, ∀ other, mappingOf line = some other → other.payloadType ≠ payload) ∧
        fromStaticPayload payload = some codec))

/-- The mappings of the payload types of a section, in the order of its `m=` line. -/
def Offers (section_ : MediaSection) (codecs : List Codec) : Prop := ∃ payloads,
    Forall₂ (fun format payload => format.payloadType = .ok payload)
      section_.media.formats payloads ∧
    Forall₂ (Resolves section_.lines) payloads codecs

/-- The direction of a section, which may be inherited. -/
def remoteDirection (section_ : MediaSection) (inherited : Direction) : Direction :=
  (section_.lines.findSome? directionOf).getD inherited

/-- An event is listed for a payload type, or is standard where nothing is. -/
def Listed (lines : List SdpLine) (payload : PayloadType) (code : UInt8) : Prop :=
  (∃ line ∈ lines, ∃ parameters, formatParameters payload line = some parameters ∧
    ∃ item ∈ parameters.splitOn ',', ∃ first last,
      eventRange item = some (first, last) ∧ first ≤ code ∧ code ≤ last) ∨
  ((∀ line ∈ lines, formatParameters payload line = none) ∧ code ≤ 15)

theorem stripPrefix_eq_some
    {front value : String} (stripped : stripPrefix front value = some rest) :
    value.toList = front.toList ++ rest := by
  obtain ⟨start, same, equal⟩ := dropPrefix?_eq_some_iff.mp stripped
  rw [same, eq_of_beq equal]

/-- A value starts with one of two texts that differ in their first character. -/
theorem stripPrefix_eq_none
    {front other value : String} (differ : front.toList.head? ≠ other.toList.head?)
    (nonempty : front.toList ≠ [] ∧ other.toList ≠ [])
    (stripped : stripPrefix front value = some rest) :
    stripPrefix other value = none := by
  cases also : stripPrefix other value with
  | none => rfl
  | some more =>
    have same := (stripPrefix_eq_some stripped).symm.trans (stripPrefix_eq_some also)
    have heads := congrArg head? same
    rw [head?_append_of_ne_nil _ nonempty.1, head?_append_of_ne_nil _ nonempty.2] at heads
    exact absurd heads differ

/-- A mapping is no direction. -/
theorem fromBytes_of_mapping
    {value : String} (stripped : stripPrefix "rtpmap:" value = some rest) :
    Direction.fromBytes (wireBytes value) = .error {} := by
  have front : value.toList.take 7 = "rtpmap:".toList := by
    rw [stripPrefix_eq_some stripped]
    exact take_left' (by decide +kernel)
  have other (token : String) (differs : token.toList.take 7 ≠ "rtpmap:".toList) :
      wireBytes value ≠ wireBytes token := by
    intro same
    have texts : some value = some token := by
      rw [← fromUtf8_toUTF8 value, ← fromUtf8_toUTF8 token]
      exact congrArg fromUtf8 same
    cases texts
    exact differs front
  rw [Direction.fromBytes, if_neg (other _ (by decide +kernel)),
    if_neg (other _ (by decide +kernel)), if_neg (other _ (by decide +kernel)),
    if_neg (other _ (by decide +kernel))]

namespace RtpAttributes

variable {offered : List PayloadType} {found next : RtpAttributes}

/-- What one line adds to the attributes. -/
structure Added (found : RtpAttributes) (line : SdpLine) (next : RtpAttributes) : Prop where
  direction : next.direction = found.direction.or (directionOf line)
  mappings : next.mappings = found.mappings ++ (mappingOf line).toList
  distinct : (found.mappings.map payloadType).Nodup → (next.mappings.map payloadType).Nodup

theorem added_takeMapping {line : SdpLine}
    {value : List Char} (attribute_ : line.field = .attribute_)
    (stripped : stripPrefix "rtpmap:" line.value = some value)
    (taken : found.takeMapping offered value = .ok next) :
    Added found line next := by
  have noDirection : directionOf line = none := by
    rw [directionOf, if_pos attribute_, fromBytes_of_mapping stripped]
    rfl
  rw [takeMapping] at taken
  cases parsed : fromBytes (textBytes value) with
  | error failure => simp [parsed] at taken
  | ok mapping =>
    simp only [parsed] at taken
    split_ifs at taken with unoffered known
    cases taken
    refine ⟨by simp [noDirection], ?_, ?_⟩
    · simp [mappingOf, attribute_, stripped, parsed, Except.toOption]
    · intro distinct
      have fresh : mapping.payloadType ∉ found.mappings.map payloadType := by
        simpa using known
      rw [map_append]
      exact nodup_append.mpr ⟨distinct, by simp, by
        rintro payload member other last rfl
        rw [map_singleton, mem_singleton] at last
        exact fresh (last ▸ member)⟩

/-- A line that declares no mapping adds at most a direction. -/
theorem added_of_mappings {line : SdpLine} (noMapping : mappingOf line = none)
    (direction : next.direction = found.direction.or (directionOf line))
    (same : next.mappings = found.mappings) :
    Added found line next where
  direction := direction
  mappings := by simp [same, noMapping]
  distinct := by simp [same]

theorem added_take {line : SdpLine}
    (taken : found.take offered line = .ok next) :
    Added found line next := by
  rw [take] at taken
  split_ifs at taken with attribute_
  · cases taken
    refine added_of_mappings ?_ ?_ rfl
    · rw [mappingOf, if_neg attribute_]
    · rw [directionOf, if_neg attribute_, Option.or_none]
  obtain attribute_ := not_not.mp attribute_
  -- a mapping is declared by the last kind of line only
  have unmapped (absent : stripPrefix "rtpmap:" line.value = none) : mappingOf line = none := by
    simp [mappingOf, absent]
  cases read : Direction.fromBytes (wireBytes line.value) with
  | ok direction =>
    simp only [read, takeDirection] at taken
    split_ifs at taken with again
    cases taken
    have absent : stripPrefix "rtpmap:" line.value = none := by
      cases stripped : stripPrefix "rtpmap:" line.value with
      | none => rfl
      | some value =>
        rw [fromBytes_of_mapping stripped] at read
        cases read
    refine added_of_mappings (unmapped absent) ?_ rfl
    have none_ : found.direction = none := by simpa using again
    simp [directionOf, attribute_, read, none_, Except.toOption]
  | error failure =>
    have noDirection : directionOf line = none := by
      simp [directionOf, read, Except.toOption]
    have unchanged : found.direction = found.direction.or (directionOf line) := by
      rw [noDirection, Option.or_none]
    simp only [read] at taken
    cases packet : stripPrefix "ptime:" line.value with
    | some value =>
      simp only [packet] at taken
      obtain ⟨time, -, taken⟩ := bind_eq_ok.mp taken
      split_ifs at taken
      cases taken
      exact added_of_mappings
        (unmapped (stripPrefix_eq_none (by decide +kernel) (by decide +kernel) packet))
        unchanged rfl
    | none =>
      simp only [packet] at taken
      cases maximum : stripPrefix "maxptime:" line.value with
      | some value =>
        simp only [maximum] at taken
        obtain ⟨time, -, taken⟩ := bind_eq_ok.mp taken
        split_ifs at taken
        cases taken
        exact added_of_mappings
          (unmapped (stripPrefix_eq_none (by decide +kernel) (by decide +kernel) maximum))
          unchanged rfl
      | none =>
        simp only [maximum] at taken
        cases stripped : stripPrefix "rtpmap:" line.value with
        | some value =>
          simp only [stripped] at taken
          exact added_takeMapping attribute_ stripped taken
        | none =>
          simp only [stripped] at taken
          cases taken
          exact added_of_mappings (unmapped stripped) unchanged rfl

/-- What all lines add to the attributes. -/
theorem takeAll_eq_ok {last : RtpAttributes}
    {lines : List SdpLine} (taken : takeAll offered found lines = .ok last) :
    last.direction = found.direction.or (lines.findSome? directionOf) ∧
      last.mappings = found.mappings ++ lines.filterMap mappingOf ∧
      ((found.mappings.map payloadType).Nodup → (last.mappings.map payloadType).Nodup) := by
  induction lines generalizing found with
  | nil =>
    cases taken
    simp
  | cons line lines ih =>
    obtain ⟨next, first, rest⟩ := bind_eq_ok.mp taken
    obtain ⟨direction, mappings, distinct⟩ := added_take first
    obtain ⟨restDirection, restMappings, restDistinct⟩ := ih rest
    refine ⟨?_, ?_, fun before => restDistinct (distinct before)⟩
    · rw [restDirection, direction, Option.or_assoc, findSome?_cons]
      cases directionOf line <;> rfl
    · rw [restMappings, mappings, append_assoc, filterMap_cons]
      cases mappingOf line <;> rfl

end RtpAttributes

theorem offeredPayloads_eq_ok
    {found payloads : List PayloadType} {formats : List MediaFormat}
    (offered : offeredPayloads found formats = .ok payloads) :
    ∃ more, payloads = found ++ more ∧
      Forall₂ (fun format payload => format.payloadType = .ok payload) formats more := by
  induction formats generalizing found with
  | nil =>
    cases offered
    exact ⟨[], (append_nil _).symm, .nil⟩
  | cons format formats ih =>
    rw [offeredPayloads] at offered
    cases read : format.payloadType with
    | error failure => simp [read] at offered
    | ok payload =>
      simp only [read] at offered
      split_ifs at offered
      obtain ⟨more, rfl, rest⟩ := ih offered
      exact ⟨payload :: more, by simp, .cons read rest⟩

theorem resolves_of_resolve {codec : Codec}
    (resolved : resolve (lines.filterMap mappingOf) payload = some codec) :
    Resolves lines payload codec := by
  rw [resolve] at resolved
  cases found : (lines.filterMap mappingOf).find?
      (fun mapping => mapping.payloadType == payload) with
  | some mapping =>
    simp only [found, Option.some.injEq] at resolved
    subst resolved
    have same : mapping.payloadType = payload := by simpa using find?_some found
    exact ⟨same, .inl (mem_filterMap.mp (mem_of_find?_eq_some found))⟩
  | none =>
    simp only [found] at resolved
    refine ⟨payloadType_of_fromStaticPayload resolved, .inr ⟨?_, resolved⟩⟩
    intro line member other declared
    have absent := find?_eq_none.mp found other (mem_filterMap.mpr ⟨line, member, declared⟩)
    simpa using absent

theorem resolveAll_eq_ok {payloads : List PayloadType}
    (resolved : resolveAll (lines.filterMap mappingOf) payloads = .ok codecs) :
    Forall₂ (Resolves lines) payloads codecs := by
  induction payloads generalizing codecs with
  | nil =>
    cases resolved
    exact .nil
  | cons payload payloads ih =>
    rw [resolveAll] at resolved
    cases first : resolve (lines.filterMap mappingOf) payload with
    | none => simp [first] at resolved
    | some codec =>
      simp only [first] at resolved
      obtain ⟨rest, others, resolved⟩ := bind_eq_ok.mp resolved
      cases resolved
      exact .cons (resolves_of_resolve first) (ih others)

/-- A payload type has one mapping where no two lines map the same. -/
theorem rightUnique_resolves (distinct : ((lines.filterMap mappingOf).map payloadType).Nodup) :
    Relator.RightUnique (Resolves lines) := by
  rintro payload first second ⟨firstPayload, declared | ⟨absent, standard⟩⟩ ⟨secondPayload, other⟩
  · obtain ⟨line, member, mapped⟩ := declared
    obtain ⟨also, alsoMember, alsoMapped⟩ | ⟨absent, -⟩ := other
    · exact inj_on_of_nodup_map distinct
        (mem_filterMap.mpr ⟨line, member, mapped⟩)
        (mem_filterMap.mpr ⟨also, alsoMember, alsoMapped⟩)
        (firstPayload.trans secondPayload.symm)
    · exact absurd firstPayload (absent line member first mapped)
  · obtain ⟨also, alsoMember, alsoMapped⟩ | ⟨-, alsoStandard⟩ := other
    · exact absurd secondPayload (absent also alsoMember second alsoMapped)
    · exact Option.some.inj (standard.symm.trans alsoStandard)

/-- A section offers one list of mappings where no two lines map the same. -/
theorem offers_unique
    {section_ : MediaSection} {first second : List Codec}
    (distinct : ((section_.lines.filterMap mappingOf).map payloadType).Nodup)
    (offered : Offers section_ first) (also : Offers section_ second) :
    first = second := by
  obtain ⟨payloads, read, resolved⟩ := offered
  obtain ⟨others, alsoRead, alsoResolved⟩ := also
  have numbers : Relator.RightUnique
      fun (format : MediaFormat) payload => format.payloadType = .ok payload := by
    intro format payload other one same
    exact Except.ok.inj (one.symm.trans same)
  obtain rfl := numbers.forall₂ read alsoRead
  exact (rightUnique_resolves distinct).forall₂ resolved alsoResolved

theorem getLsbD_allowRange
    (allowed : BitVec 256) (first last code : UInt8) :
    (allowRange allowed first last).getLsbD code.toNat = true ↔
      allowed.getLsbD code.toNat = true ∨ first ≤ code ∧ code ≤ last := by
  have folded (events : List Nat) (allowed : BitVec 256) :
      (events.foldl (fun allowed event => allowed ||| BitVec.twoPow 256 event)
        allowed).getLsbD code.toNat = true ↔
        allowed.getLsbD code.toNat = true ∨ code.toNat ∈ events := by
    induction events generalizing allowed with
    | nil => simp
    | cons event events ih =>
      have small : code.toNat < 256 := code.toNat_lt
      rw [foldl_cons, ih, BitVec.getLsbD_or, BitVec.getLsbD_twoPow]
      simp only [Bool.or_eq_true, Bool.and_eq_true, decide_eq_true_eq, mem_cons]
      rw [or_assoc]
      refine or_congr_right (or_congr_left ?_)
      omega
  rw [allowRange, folded, mem_range'_1, UInt8.le_iff_toNat_le, UInt8.le_iff_toNat_le]
  refine or_congr_right ?_
  omega

theorem getLsbD_allowItems
    {allowed result : BitVec 256} {items : List (List Char)}
    (parsed : allowItems allowed items = .ok result) (code : UInt8) :
    result.getLsbD code.toNat = true ↔
      allowed.getLsbD code.toNat = true ∨ ∃ item ∈ items, ∃ first last,
        eventRange item = some (first, last) ∧ first ≤ code ∧ code ≤ last := by
  induction items generalizing allowed with
  | nil =>
    cases parsed
    simp
  | cons item items ih =>
    rw [allowItems] at parsed
    cases read : eventRange item with
    | none => simp [read] at parsed
    | some ends =>
      obtain ⟨first, last⟩ := ends
      simp only [read] at parsed
      rw [ih parsed, getLsbD_allowRange]
      simp [read, or_assoc]

theorem getLsbD_parseTelephoneEvents
    {input : List Char} {result : BitVec 256}
    (parsed : parseTelephoneEvents input = .ok result) (code : UInt8) :
    result.getLsbD code.toNat = true ↔ ∃ item ∈ input.splitOn ',', ∃ first last,
      eventRange item = some (first, last) ∧ first ≤ code ∧ code ≤ last := by
  rw [parseTelephoneEvents] at parsed
  split_ifs at parsed
  rw [getLsbD_allowItems parsed code]
  simp

theorem getLsbD_standardTelephoneEvents (code : UInt8) :
    standardTelephoneEvents.getLsbD code.toNat = true ↔ code ≤ 15 := by
  have checked : ∀ code : UInt8, standardTelephoneEvents.getLsbD code.toNat = true ↔ code ≤ 15 :=
    forall_byte (by decide +kernel)
  exact checked code

/-- Once events are declared, no other line declares any. -/
theorem declaredEvents_some {allowed : BitVec 256}
    {result : Option (BitVec 256)}
    (declared : declaredEvents payload (some allowed) lines = .ok result) :
    result = some allowed ∧ ∀ line ∈ lines, formatParameters payload line = none := by
  induction lines with
  | nil =>
    cases declared
    simp
  | cons line lines ih =>
    rw [declaredEvents] at declared
    cases read : formatParameters payload line with
    | some parameters => simp [read] at declared
    | none =>
      simp only [read] at declared
      obtain ⟨same, others⟩ := ih declared
      refine ⟨same, ?_⟩
      simpa [read] using others

/-- What is allowed for a payload type is what the lines list for it. -/
theorem listed_of_declaredEvents {result : Option (BitVec 256)}
    (declared : declaredEvents payload none lines = .ok result) (code : UInt8) :
    (result.getD standardTelephoneEvents).getLsbD code.toNat = true ↔
      Listed lines payload code := by
  induction lines with
  | nil =>
    cases declared
    simp [Listed, getLsbD_standardTelephoneEvents]
  | cons line lines ih =>
    rw [declaredEvents] at declared
    cases read : formatParameters payload line with
    | none =>
      simp only [read] at declared
      rw [ih declared]
      simp [Listed, read]
    | some parameters =>
      simp only [read] at declared
      obtain ⟨allowed, parsed, rest⟩ := bind_eq_ok.mp declared
      obtain ⟨rfl, others⟩ := declaredEvents_some rest
      rw [Option.getD_some, getLsbD_parseTelephoneEvents parsed, Listed]
      constructor
      · intro listed
        exact .inl ⟨line, mem_cons_self, parameters, read, listed⟩
      · rintro (⟨other, member, more, alsoRead, listed⟩ | ⟨absent, -⟩)
        · obtain rfl | member := mem_cons.mp member
          · rw [read] at alsoRead
            cases alsoRead
            exact listed
          · rw [others other member] at alsoRead
            cases alsoRead
        · have undeclared := absent line mem_cons_self
          rw [read] at undeclared
          cases undeclared

/-- The first item of a list that has a property. -/
def IsFirst {α : Type} (property : α → Prop) (items : List α) (item : α) : Prop :=
  ∃ before after, items = before ++ item :: after ∧ property item ∧
    ∀ other ∈ before, ¬property other

/-- An offered mapping fits a local codec. -/
def Fits (local_ offered : Codec) : Prop :=
  offered.isTelephoneEvent = false ∧ offered.isCompatibleWith local_ = true

/-- Some offered mapping fits a local codec, which is not for telephone events. -/
def Usable (codecs : List Codec) (local_ : Codec) : Prop :=
  local_.isTelephoneEvent = false ∧ ∃ offered ∈ codecs, Fits local_ offered

/-- The first mapping that fits the first usable local codec. -/
def Chosen (codecs localPreference : List Codec) (offered : Codec) : Prop :=
  ∃ local_, IsFirst (Usable codecs) localPreference local_ ∧ IsFirst (Fits local_) codecs offered

theorem find?_eq_some_iff_isFirst
    {α : Type} {test : α → Bool} {items : List α} {item : α} :
    items.find? test = some item ↔ IsFirst (fun item => test item = true) items item := by
  rw [find?_eq_some_iff_append, IsFirst]
  constructor
  · rintro ⟨passes, before, after, same, earlier⟩
    exact ⟨before, after, same, passes, fun other member => by simpa using earlier other member⟩
  · rintro ⟨before, after, same, passes, earlier⟩
    exact ⟨passes, before, after, same, fun other member => by simpa using earlier other member⟩

/-- A property that an item has, the first such item has too. -/
theorem exists_isFirst
    {α : Type} {property : α → Prop} {items : List α} :
    (∃ item, IsFirst property items item) ↔ ∃ item ∈ items, property item := by
  constructor
  · rintro ⟨item, before, after, rfl, holds, -⟩
    exact ⟨item, by simp, holds⟩
  · rintro ⟨item, member, holds⟩
    classical
    have found : (items.find? (fun item => decide (property item))).isSome = true :=
      find?_isSome.mpr ⟨item, member, by simpa using holds⟩
    obtain ⟨first, found⟩ := Option.isSome_iff_exists.mp found
    exact ⟨first, by simpa using find?_eq_some_iff_isFirst.mp found⟩

/-- The mapping that is found for a local codec. -/
theorem find?_fits {local_ offered : Codec} : (codecs.find? fun offered =>
      !offered.isTelephoneEvent && offered.isCompatibleWith local_) = some offered ↔
      IsFirst (Fits local_) codecs offered := by
  rw [find?_eq_some_iff_isFirst]
  simp only [Bool.and_eq_true, Bool.not_eq_true']
  rfl

namespace RtpMediaOffer

/-- A codec is selected by the rules of the choice. -/
theorem select_eq_some_iff
    {codecs localPreference : List Codec} {offered : Codec} :
    select codecs localPreference = some offered ↔ Chosen codecs localPreference offered := by
  have usable (local_ : Codec) : (if local_.isTelephoneEvent then none
        else codecs.find? fun offered =>
          !offered.isTelephoneEvent && offered.isCompatibleWith local_) = none ↔
        ¬Usable codecs local_ := by
    cases kind : local_.isTelephoneEvent
    · rw [if_neg (by simp)]
      simp [Usable, Fits, kind]
    · simp [Usable, kind]
  rw [select, findSome?_eq_some_iff]
  constructor
  · rintro ⟨before, local_, after, same, found, earlier⟩
    have audio : local_.isTelephoneEvent = false := by
      by_contra other
      rw [if_pos (by simpa using other)] at found
      cases found
    rw [audio, if_neg (by simp)] at found
    have first := find?_fits.mp found
    have fits := exists_isFirst.mp ⟨offered, first⟩
    exact ⟨local_, ⟨before, after, same, ⟨audio, fits⟩,
      fun other member => (usable other).mp (earlier other member)⟩, first⟩
  · rintro ⟨local_, ⟨before, after, same, ⟨audio, -⟩, earlier⟩, first⟩
    refine ⟨before, local_, after, same, ?_,
      fun other member => (usable other).mpr (earlier other member)⟩
    rw [audio, if_neg (by simp)]
    exact find?_fits.mpr first

/-- A codec is selected when a local one is usable. -/
theorem exists_chosen
    {codecs localPreference : List Codec} :
    (∃ offered, Chosen codecs localPreference offered) ↔
      ∃ local_ ∈ localPreference, Usable codecs local_ := by
  constructor
  · rintro ⟨offered, local_, first, -⟩
    exact exists_isFirst.mp ⟨local_, first⟩
  · intro some_
    obtain ⟨local_, first⟩ := exists_isFirst.mpr some_
    obtain ⟨before, after, same, ⟨audio, fits⟩, earlier⟩ := first
    obtain ⟨offered, chosen⟩ := exists_isFirst.mpr fits
    exact ⟨offered, local_, ⟨before, after, same, ⟨audio, fits⟩, earlier⟩, chosen⟩

end RtpMediaOffer

/-- A result follows the section, the local codecs and the local capabilities. -/
structure Agrees
    (section_ : MediaSection) (remote : Direction)
    (codecs localPreference : List Codec) (localCanSend localCanReceive : Bool)
    (media : NegotiatedMedia) : Prop where
  codec : Chosen codecs localPreference media.codec
  sends : media.direction.sends = (remote.receives && localCanSend)
  receives : media.direction.receives = (remote.sends && localCanReceive)
  event_iff : media.telephoneEvent.isSome = true ↔
    ∃ mapping ∈ codecs, mapping.isTelephoneEvent = true ∧ mapping.clockRate = media.codec.clockRate
  event : ∀ event, media.telephoneEvent = some event →
    (∃ mapping ∈ codecs, mapping.isTelephoneEvent = true ∧
      mapping.payloadType = event.payloadType ∧ mapping.clockRate = event.clockRate) ∧
    event.clockRate = media.codec.clockRate ∧
    ∀ code, event.allows code = true ↔ Listed section_.lines event.payloadType code

/-- The port is open, the profile is secure where this is required, and a local
codec can be used. -/
def Acceptable
    (section_ : MediaSection) (codecs localPreference : List Codec) (requireSecure : Bool) : Prop :=
  section_.media.port ≠ 0 ∧ (requireSecure = true → section_.media.protocol.isSecure = true) ∧
    ∃ local_ ∈ localPreference, Usable codecs local_

/-- What a negotiation owes: a result exactly when the offer is acceptable, and a
result that agrees with it. -/
def Negotiated
    (section_ : MediaSection) (inherited : Direction) (localPreference : List Codec)
    (localCanSend localCanReceive requireSecure : Bool)
    (result : Except NegotiationError NegotiatedMedia) : Prop :=
  ∃ codecs, Offers section_ codecs ∧ ((∃ media, result = .ok media) ↔
      Acceptable section_ codecs localPreference requireSecure) ∧
    ∀ media, result = .ok media →
      Agrees section_ (remoteDirection section_ inherited) codecs localPreference
        localCanSend localCanReceive media

/-- The first telephone-event mapping has the clock rate of the chosen codec,
where any telephone-event mapping has it. -/
def EventsReachable (section_ : MediaSection) (localPreference : List Codec) : Prop :=
  ∀ codecs, Offers section_ codecs → ∀ offered, Chosen codecs localPreference offered →
      ∀ event, IsFirst (fun codec => codec.isTelephoneEvent = true) codecs event →
        (∃ other ∈ codecs, other.isTelephoneEvent = true ∧ other.clockRate = offered.clockRate) →
        event.clockRate = offered.clockRate

/-- The telephone events of an offer are those of its first mapping for them. -/
structure KeepsFirst
    (lines : List SdpLine) (mapping : Codec) (event : NegotiatedTelephoneEvent) : Prop where
  payloadType : event.payloadType = mapping.payloadType
  clockRate : event.clockRate = mapping.clockRate
  allows : ∀ code, event.allows code = true ↔ Listed lines event.payloadType code

theorem findTelephoneEvent_eq_ok
    {section_ : MediaSection} {found : Option NegotiatedTelephoneEvent}
    (searched : findTelephoneEvent section_ codecs = .ok found) :
    match codecs.find? isTelephoneEvent with
    | none => found = none
    | some mapping => ∃ event, found = some event ∧ KeepsFirst section_.lines mapping event := by
  rw [findTelephoneEvent] at searched
  cases first : codecs.find? isTelephoneEvent with
  | none =>
    simp only [first, Except.ok.injEq] at searched
    exact searched.symm
  | some mapping =>
    simp only [first] at searched
    obtain ⟨declared, read, searched⟩ := bind_eq_ok.mp searched
    cases searched
    exact ⟨_, rfl, rfl, rfl, listed_of_declaredEvents read⟩

namespace RtpMediaOffer

/-- What an accepted offer keeps of its section. -/
structure Extracted
    (section_ : MediaSection) (inherited : Direction) (offer : RtpMediaOffer) : Prop where
  protocol : offer.protocol = section_.media.protocol
  port : offer.port = section_.media.port
  offers : Offers section_ offer.codecs
  distinct : ((section_.lines.filterMap mappingOf).map payloadType).Nodup
  direction : offer.direction = remoteDirection section_ inherited
  event : match offer.codecs.find? isTelephoneEvent with
    | none => offer.telephoneEvent = none
    | some mapping => ∃ event, offer.telephoneEvent = some event ∧
        KeepsFirst section_.lines mapping event

theorem fromSection_eq_ok
    {grants : Nat → Bool} {section_ : MediaSection} {inherited : Direction} {offer : RtpMediaOffer}
    (accepted : fromSection grants section_ inherited = .ok offer) :
    Extracted section_ inherited offer := by
  obtain ⟨_, -, accepted⟩ := bind_eq_ok.mp accepted
  obtain ⟨_, -, accepted⟩ := bind_eq_ok.mp accepted
  obtain ⟨payloads, read, accepted⟩ := bind_eq_ok.mp accepted
  obtain ⟨found, taken, accepted⟩ := bind_eq_ok.mp accepted
  obtain ⟨_, -, accepted⟩ := bind_eq_ok.mp accepted
  obtain ⟨codecs, resolved, accepted⟩ := bind_eq_ok.mp accepted
  obtain ⟨_, -, accepted⟩ := bind_eq_ok.mp accepted
  obtain ⟨event, searched, accepted⟩ := bind_eq_ok.mp accepted
  cases accepted
  obtain ⟨direction, mappings, distinct⟩ := RtpAttributes.takeAll_eq_ok taken
  have declared : found.mappings = section_.lines.filterMap mappingOf := by
    simpa [RtpAttributes.empty] using mappings
  obtain ⟨numbers, same, numbered⟩ := offeredPayloads_eq_ok read
  rw [nil_append] at same
  subst same
  rw [declared] at resolved distinct
  refine ⟨rfl, rfl, ⟨payloads, numbered, resolveAll_eq_ok resolved⟩,
    distinct (by simp [RtpAttributes.empty]), ?_, findTelephoneEvent_eq_ok searched⟩
  rw [remoteDirection, direction]
  rfl

/-- The outcomes of a negotiation. -/
inductive Outcomes (offer : RtpMediaOffer) (localPreference : List Codec)
    (localCanSend localCanReceive requireSecure : Bool) :
    Except NegotiationError NegotiatedMedia → Prop
  | refused (error : NegotiationError)
      (closed : offer.port = 0 ∨ (requireSecure = true ∧ offer.protocol.isSecure = false)) :
      Outcomes offer localPreference localCanSend localCanReceive requireSecure (.error error)
  | incompatible (error : NegotiationError)
      (port : offer.port ≠ 0)
      (secure : requireSecure = true → offer.protocol.isSecure = true)
      (unchosen : ∀ offered, ¬Chosen offer.codecs localPreference offered) :
      Outcomes offer localPreference localCanSend localCanReceive requireSecure (.error error)
  | selected (media : NegotiatedMedia)
      (port : offer.port ≠ 0)
      (secure : requireSecure = true → offer.protocol.isSecure = true)
      (codec : Chosen offer.codecs localPreference media.codec)
      (direction : media.direction = offer.direction.answer localCanSend localCanReceive)
      (event : media.telephoneEvent =
        offer.telephoneEvent.filter fun event => event.clockRate == media.codec.clockRate) :
      Outcomes offer localPreference localCanSend localCanReceive requireSecure (.ok media)

theorem outcomes_negotiate
    (offer : RtpMediaOffer) (localPreference : List Codec)
    (localCanSend localCanReceive requireSecure : Bool) :
    Outcomes offer localPreference localCanSend localCanReceive requireSecure
      (offer.negotiate localPreference localCanSend localCanReceive requireSecure) := by
  rw [negotiate]
  split_ifs with port secure empty
  · exact .refused _ (.inl port)
  · exact .refused _ (.inr (by simpa using secure))
  · refine .incompatible _ port (by simpa using secure) ?_
    rintro offered ⟨local_, first, -⟩
    obtain ⟨other, member, -⟩ := exists_isFirst.mp ⟨local_, first⟩
    rw [empty] at member
    cases member
  · cases found : select offer.codecs localPreference with
    | none =>
      refine .incompatible _ port (by simpa using secure) ?_
      intro offered chosen
      rw [select_eq_some_iff.mpr chosen] at found
      cases found
    | some offered =>
      exact .selected _ port (by simpa using secure) (select_eq_some_iff.mp found) rfl rfl

section Results

variable {section_ : MediaSection} {inherited : Direction} {offer : RtpMediaOffer}
  {localPreference : List Codec} {localCanSend localCanReceive requireSecure : Bool}

/-- A result is owed where the port is open, the profile secure and a codec chosen. -/
theorem acceptable_iff :
    Acceptable section_ offer.codecs localPreference requireSecure ↔ section_.media.port ≠ 0 ∧
        (requireSecure = true → section_.media.protocol.isSecure = true) ∧
        ∃ offered, Chosen offer.codecs localPreference offered := by
  rw [Acceptable, exists_chosen]

/-- The events of a result that selects the mapping of an offer. -/
theorem agrees_iff
    (extracted : Extracted section_ inherited offer) {media : NegotiatedMedia}
    (codec : Chosen offer.codecs localPreference media.codec)
    (direction : media.direction = offer.direction.answer localCanSend localCanReceive)
    (event : media.telephoneEvent =
      offer.telephoneEvent.filter fun event => event.clockRate == media.codec.clockRate) :
    Agrees section_ (remoteDirection section_ inherited) offer.codecs localPreference
        localCanSend localCanReceive media ↔
      ∀ first, IsFirst (fun codec => codec.isTelephoneEvent = true) offer.codecs first →
        (∃ other ∈ offer.codecs, other.isTelephoneEvent = true ∧
          other.clockRate = media.codec.clockRate) →
        first.clockRate = media.codec.clockRate := by
  have kept := extracted.event
  constructor
  · intro agrees first isFirst other
    have present := agrees.event_iff.mpr other
    rw [find?_eq_some_iff_isFirst.mpr isFirst] at kept
    obtain ⟨known, same, keeps⟩ := kept
    rw [event, same, Option.filter_some] at present
    split_ifs at present with rates
    · exact keeps.clockRate.symm.trans (eq_of_beq rates)
    · cases present
  · intro reachable
    have sends := Direction.sends_answer offer.direction localCanSend localCanReceive
    have receives := Direction.receives_answer offer.direction localCanSend localCanReceive
    rw [← direction, extracted.direction] at sends receives
    cases found : offer.codecs.find? isTelephoneEvent with
    | none =>
      rw [found] at kept
      have absent : media.telephoneEvent = none := by rw [event, kept, Option.filter_none]
      refine ⟨codec, sends, receives, ?_, by simp [absent]⟩
      rw [absent]
      refine iff_of_false (by simp) ?_
      rintro ⟨mapping, member, kind, -⟩
      exact find?_eq_none.mp found mapping member kind
    | some first =>
      rw [found] at kept
      obtain ⟨known, same, keeps⟩ := kept
      have isFirst := find?_eq_some_iff_isFirst.mp found
      have mapped : ∃ mapping ∈ offer.codecs, mapping.isTelephoneEvent = true ∧
          mapping.payloadType = known.payloadType ∧ mapping.clockRate = known.clockRate :=
        ⟨first, mem_of_find?_eq_some found, find?_some found,
          keeps.payloadType.symm, keeps.clockRate.symm⟩
      rw [same, Option.filter_some] at event
      refine ⟨codec, sends, receives, ?_, ?_⟩
      · constructor
        · intro present
          rw [event] at present
          split_ifs at present with rates
          · obtain ⟨mapping, member, kind, -, rate⟩ := mapped
            exact ⟨mapping, member, kind, rate.trans (eq_of_beq rates)⟩
          · cases present
        · intro other
          have rate := reachable first isFirst other
          rw [event, if_pos (by simp [keeps.clockRate, rate])]
          rfl
      · intro chosen present
        rw [event] at present
        split_ifs at present with rates
        cases present
        exact ⟨mapped, eq_of_beq rates, keeps.allows⟩

/-- The mappings that a section offers are those of its offer. -/
theorem eventsReachable_iff (extracted : Extracted section_ inherited offer) :
    EventsReachable section_ localPreference ↔
      ∀ offered, Chosen offer.codecs localPreference offered →
        ∀ first, IsFirst (fun codec => codec.isTelephoneEvent = true) offer.codecs first →
          (∃ other ∈ offer.codecs, other.isTelephoneEvent = true ∧
            other.clockRate = offered.clockRate) →
          first.clockRate = offered.clockRate := by
  constructor
  · intro reachable
    exact reachable offer.codecs extracted.offers
  · intro reachable codecs offered
    obtain rfl := offers_unique extracted.distinct extracted.offers offered
    exact reachable

theorem negotiated_iff (extracted : Extracted section_ inherited offer)
    {result : Except NegotiationError NegotiatedMedia} :
    Negotiated section_ inherited localPreference localCanSend localCanReceive requireSecure
        result ↔
      ((∃ media, result = .ok media) ↔
        Acceptable section_ offer.codecs localPreference requireSecure) ∧
      ∀ media, result = .ok media →
        Agrees section_ (remoteDirection section_ inherited) offer.codecs localPreference
          localCanSend localCanReceive media := by
  constructor
  · rintro ⟨codecs, offered, correct⟩
    obtain rfl := offers_unique extracted.distinct extracted.offers offered
    exact correct
  · intro correct
    exact ⟨offer.codecs, extracted.offers, correct⟩

end Results

/-- A negotiation is correct unless it loses the telephone events of a later mapping. -/
theorem negotiate_correct_iff
    {grants : Nat → Bool} {section_ : MediaSection} {inherited : Direction} {offer : RtpMediaOffer}
    (accepted : fromSection grants section_ inherited = .ok offer) (localPreference : List Codec)
    (localCanSend localCanReceive requireSecure : Bool) :
    Negotiated section_ inherited localPreference localCanSend localCanReceive requireSecure
        (offer.negotiate localPreference localCanSend localCanReceive requireSecure) ↔
      section_.media.port = 0 ∨ (requireSecure = true ∧ section_.media.protocol.isSecure = false) ∨
        EventsReachable section_ localPreference := by
  have extracted := fromSection_eq_ok accepted
  rw [negotiated_iff extracted, acceptable_iff, eventsReachable_iff extracted]
  have outcomes := outcomes_negotiate offer localPreference localCanSend localCanReceive
    requireSecure
  generalize offer.negotiate localPreference localCanSend localCanReceive requireSecure =
    result at outcomes
  rw [← extracted.port, ← extracted.protocol]
  cases outcomes with
  | refused error closed =>
    refine iff_of_true ⟨?_, by simp⟩ (closed.imp_right .inl)
    refine iff_of_false (by simp) ?_
    rintro ⟨port, secure, -⟩
    obtain closed | ⟨required, clear⟩ := closed
    · exact port closed
    · rw [secure required] at clear
      cases clear
  | incompatible error port secure unchosen =>
    refine iff_of_true ⟨?_, by simp⟩ (.inr (.inr fun offered chosen => ?_))
    · refine iff_of_false (by simp) ?_
      rintro ⟨-, -, offered, chosen⟩
      exact unchosen offered chosen
    · exact absurd chosen (unchosen offered)
  | selected media port secure codec direction event =>
    have agrees := agrees_iff extracted codec direction event
    have owed : (∃ result, Except.ok (ε := NegotiationError) media = .ok result) ↔
        offer.port ≠ 0 ∧ (requireSecure = true → offer.protocol.isSecure = true) ∧
          ∃ offered, Chosen offer.codecs localPreference offered :=
      iff_of_true ⟨media, rfl⟩ ⟨port, secure, media.codec, codec⟩
    constructor
    · rintro ⟨-, correct⟩
      refine .inr (.inr fun offered chosen => ?_)
      -- the choice of a codec is unique
      have same := (select_eq_some_iff.mpr chosen).symm.trans (select_eq_some_iff.mpr codec)
      cases same
      exact agrees.mp (correct media rfl)
    · rintro (closed | ⟨required, clear⟩ | reachable)
      · exact absurd closed port
      · rw [secure required] at clear
        cases clear
      · refine ⟨owed, ?_⟩
        rintro result same
        cases same
        exact agrees.mpr (reachable media.codec codec)

/-- A section with PCMU and a telephone-event mapping for each of two clock rates. -/
def twoEventSection : MediaSection where
  media := ⟨.audio, 40000, 1, .rtpAvp, [⟨"0"⟩, ⟨"101"⟩, ⟨"102"⟩]⟩
  lines :=
    [⟨.attribute_, "rtpmap:101 telephone-event/48000"⟩,
      ⟨.attribute_, "rtpmap:102 telephone-event/8000"⟩, ⟨.attribute_, "fmtp:102 0-11,16"⟩]

/-- A section with PCMU and one telephone-event mapping. -/
def oneEventSection : MediaSection where
  media := ⟨.audio, 40000, 1, .rtpAvp, [⟨"0"⟩, ⟨"102"⟩]⟩
  lines :=
    [⟨.attribute_, "rtpmap:102 telephone-event/8000"⟩, ⟨.attribute_, "fmtp:102 0-11,16"⟩]

/-- The static codecs that a local side may prefer. -/
def staticCodecs (payloads : List PayloadType) : List Codec :=
  payloads.filterMap fromStaticPayload

theorem pcmu_le : (0 : UInt8) ≤ 127 := by decide

/-- The payload type of PCMU. -/
def pcmu : PayloadType := ⟨0, pcmu_le⟩

theorem exists_of_toOption_isSome
    {ε α : Type} {result : Except ε α} (present : result.toOption.isSome = true) :
    ∃ value, result = .ok value := by
  cases result with
  | error failure => cases present
  | ok value => exact ⟨value, rfl⟩

/-- A single mapping for telephone events is negotiated correctly. -/
theorem negotiate_correct_iff_one :
    ∃ offer, fromSection (fun _ => true) oneEventSection .sendRecv = .ok offer ∧
      Negotiated oneEventSection .sendRecv (staticCodecs [pcmu]) true true false
        (offer.negotiate (staticCodecs [pcmu]) true true false) := by
  have accepted : (fromSection (fun _ => true) oneEventSection
      .sendRecv).toOption.isSome = true := by
    decide +kernel
  obtain ⟨offer, accepted⟩ := exists_of_toOption_isSome accepted
  have only : ∀ offer ∈ (fromSection (fun _ => true) oneEventSection .sendRecv).toOption,
      ∀ codec ∈ offer.codecs, codec.clockRate = 8000 := by
    decide +kernel
  have rates := only offer (by simp [accepted, Except.toOption])
  refine ⟨offer, accepted, (negotiate_correct_iff accepted _ _ _ _).mpr (.inr (.inr ?_))⟩
  rw [eventsReachable_iff (fromSection_eq_ok accepted)]
  rintro offered ⟨_, -, _, _, offeredSame, -⟩ first ⟨_, _, firstSame, -⟩ -
  rw [rates offered (by simp [offeredSame]), rates first (by simp [firstSame])]

/-- Where the first mapping has another clock rate than PCMU, the events of the
second one are lost. -/
theorem second_event_lost :
    ∃ offer, fromSection (fun _ => true) twoEventSection .sendRecv = .ok offer ∧
      ¬Negotiated twoEventSection .sendRecv (staticCodecs [pcmu]) true true false
        (offer.negotiate (staticCodecs [pcmu]) true true false) := by
  have accepted : (fromSection (fun _ => true) twoEventSection
      .sendRecv).toOption.isSome = true := by
    decide +kernel
  obtain ⟨offer, accepted⟩ := exists_of_toOption_isSome accepted
  have computed : ∀ offer ∈ (fromSection (fun _ => true) twoEventSection .sendRecv).toOption,
      (offer.negotiate (staticCodecs [pcmu]) true true false).toOption.isSome = true ∧
        ∀ media ∈ (offer.negotiate (staticCodecs [pcmu]) true true false).toOption,
          media.telephoneEvent = none ∧ ∃ mapping ∈ offer.codecs,
            mapping.isTelephoneEvent = true ∧ mapping.clockRate = media.codec.clockRate := by
    decide +kernel
  obtain ⟨present, lost⟩ := computed offer (by simp [accepted, Except.toOption])
  obtain ⟨media, selected⟩ := exists_of_toOption_isSome present
  obtain ⟨absent, mapping⟩ := lost media (by simp [selected, Except.toOption])
  refine ⟨offer, accepted, fun correct => ?_⟩
  obtain ⟨-, correct⟩ := (negotiated_iff (fromSection_eq_ok accepted)).mp correct
  have isSome := (correct media selected).event_iff.mpr mapping
  rw [absent] at isSome
  cases isSome

end RtpMediaOffer

end Sdp
end Sip
end LiveAISIP
