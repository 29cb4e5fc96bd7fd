import LiveAISIP.Sip.AddressText
import LiveAISIP.Sip.UriBytes

/-!
# Parsing the text of an address

An address whose URI is parsed again from its text is parsed again from its own
text, with the display name that was quoted and escaped.
-/

namespace LiveAISIP
namespace Sip

open Ascii Outcome Quoted Text
open Address List DisplayName

variable {name : String} {address : Address}

theorem displayName_eq_ok {value : String} : new value = .ok name ↔
      name = value ∧ value.utf8ByteSize ≤ maxDisplayNameBytes ∧
        value.toList.any isControlChar = false := by
  rw [new]
  split_ifs with long control
  · exact iff_of_false nofun fun both => absurd both.2.1 (Nat.not_le_of_lt long)
  · exact iff_of_false nofun fun both => by simp [control] at both
  · rw [Except.ok.injEq, eq_comm]
    exact (and_iff_left ⟨Nat.le_of_not_lt long, by simpa using control⟩).symm

theorem readDisplayName_eq_ok {input : Bytes} : readDisplayName input = .ok name ↔
      wireBytes name = input ∧ new name = .ok name := by
  unfold readDisplayName
  cases decoded : fromUtf8 input with
  | none =>
    refine iff_of_false nofun ?_
    rintro ⟨rfl, -⟩
    rw [wireBytes, fromUtf8_toUTF8] at decoded
    cases decoded
  | some value =>
    have bytes : wireBytes value = input := toUTF8_of_fromUtf8 decoded
    dsimp only
    rw [mapError_eq_ok]
    constructor
    · intro made
      obtain ⟨rfl, valid⟩ := displayName_eq_ok.mp made
      exact ⟨bytes, made⟩
    · rintro ⟨rfl, made⟩
      rw [wireBytes, fromUtf8_toUTF8] at decoded
      cases decoded
      exact made

/-- The bytes of a display name are no control bytes. -/
theorem uncontrolled_of_displayName (valid : new name = .ok name) :
    ∀ byte ∈ wireBytes name, isControl byte = false := by
  obtain ⟨-, -, clean⟩ := displayName_eq_ok.mp valid
  intro byte member
  by_contra control
  rw [Bool.not_eq_false] at control
  have checked : ∀ byte, isControl byte = true → byte < 128 ∧
      (byte.toNat < 32 ∨ byte.toNat = 127) := by
    intro byte
    simp [isControl, UInt8.lt_iff_toNat_lt, ← UInt8.toNat_inj]
    omega
  obtain ⟨ascii, which⟩ := checked byte control
  rw [wireBytes, toUTF8_eq_encode] at member
  obtain ⟨char, inside, same⟩ := exists_of_mem_encode member ascii
  have refused : isControlChar char = true := by
    rw [isControlChar, same, Bool.or_eq_true, Bool.and_eq_true, decide_eq_true_eq,
      decide_eq_true_eq, decide_eq_true_eq]
    omega
  rw [any_eq_false] at clean
  exact clean char inside refused

/-- A byte that is no control byte, quotation mark or backslash stands for itself. -/
theorem isQdtextByte_of
    {byte : UInt8} (clean : isControl byte = false) (plain : byte ≠ 34 ∧ byte ≠ 92) :
    isQdtextByte byte = true := by
  have checked : ∀ byte, isControl byte = false → byte ≠ 34 ∧ byte ≠ 92 →
      isQdtextByte byte = true := by
    intro byte
    simp [isControl, isQdtextByte, UInt8.le_iff_toNat_le, ← UInt8.toNat_inj]
    omega
  exact checked byte clean plain

/-- A text without controls, quotation marks and backslashes is accepted as it stands. -/
theorem validateQdtext_encode
    {chars : List Char} (clean : chars.any isControlChar = false)
    (plain : ∀ byte ∈ encode chars, isControl byte = false ∧ byte ≠ 34 ∧ byte ≠ 92) :
    validateQdtext (encode chars) = .ok () := by
  induction chars with
  | nil => rfl
  | cons char chars ih =>
    have written : encode (char :: chars) = String.utf8EncodeChar char ++ encode chars :=
      flatMap_cons
    obtain ⟨first, others, split⟩ :=
      exists_cons_of_ne_nil (String.utf8EncodeChar_ne_nil (c := char))
    by_cases ascii : char.toNat < 128
    · rw [encodeChar_of_ascii ascii] at written
      rw [written] at plain ⊢
      obtain ⟨visible, special⟩ := plain char.toNat.toUInt8 (mem_cons_self ..)
      have small : char.toNat.toUInt8 < 128 := by
        rw [UInt8.lt_iff_toNat_lt]
        exact (UInt8.toNat_ofNat_of_lt' (Nat.lt_trans ascii (by decide))).trans_lt ascii
      rw [singleton_append, validateQdtext, if_pos small, if_pos (isQdtextByte_of visible special)]
      rw [any_cons, Bool.or_eq_false_iff] at clean
      exact ih clean.2 fun byte member => plain byte (mem_append_right _ member)
    · have large : ¬first < 128 := UInt8.not_lt.mpr (le_of_mem_encodeChar (Nat.le_of_not_lt ascii)
          (by rw [split]; exact mem_cons_self ..))
      have whole := fromUtf8_encode (char :: chars)
      rw [written, split, cons_append] at whole ⊢
      rw [validateQdtext, if_neg large, whole]
      dsimp only
      rw [String.toList_ofList, if_neg (by simp [clean])]

/-- Escaped bytes are decoded. -/
theorem decodeQuoted_escape
    {bytes : Bytes} (clean : ∀ byte ∈ bytes, isControl byte = false) :
    decodeQuoted (escape bytes) = .ok bytes := by
  induction bytes with
  | nil => rfl
  | cons byte bytes ih =>
    have visible := clean byte (mem_cons_self ..)
    have later := ih fun each member =>
      clean each (mem_cons_of_mem _ member)
    rw [escape_cons]
    split_ifs with special
    · have ascii : ¬(byte = 13 ∨ byte = 10 ∨ 128 ≤ byte) := by
        rcases special with rfl | rfl
        · decide
        · decide
      rw [cons_append, singleton_append, decodeQuoted, if_pos rfl]
      rw [if_neg ascii, if_neg (by simp [visible]), later]
      rfl
    · have plain := not_or.mp special
      have tab : byte ≠ 9 := by
        rintro rfl
        cases visible
      rw [singleton_append, decodeQuoted.eq_def]
      dsimp only
      rw [if_neg plain.2, if_neg tab, if_neg (by simp [isQdtextByte_of visible plain]), later]
      rfl

theorem escape_of_plain {bytes : Bytes} (plain : 92 ∉ escape bytes) :
    escape bytes = bytes ∧ ∀ byte ∈ bytes, byte ≠ 34 ∧ byte ≠ 92 := by
  induction bytes with
  | nil => exact ⟨rfl, nofun⟩
  | cons byte bytes ih =>
    rw [escape_cons] at plain ⊢
    split_ifs at plain ⊢ with special
    · exact absurd (mem_append_left _ (mem_cons_self ..)) plain
    · obtain ⟨same, others⟩ := ih
        fun member => plain (mem_append_right _ member)
      refine ⟨by rw [same, singleton_append], ?_⟩
      intro each member
      rcases mem_cons.mp member with rfl | member
      · exact not_or.mp special
      · exact others each member

/-- A quoted display name is read as the name. -/
theorem parseDisplayName_quote (valid : new name = .ok name) :
    parseDisplayName (quote (wireBytes name)) = .ok name := by
  have clean := uncontrolled_of_displayName valid
  have read : readDisplayName (wireBytes name) = .ok name :=
    readDisplayName_eq_ok.mpr ⟨rfl, valid⟩
  have inner : (quote (wireBytes name)).tail.dropLast = escape (wireBytes name) := by
    rw [quote, cons_append, tail_cons, dropLast_concat]
  have long : ¬((quote (wireBytes name)).length < 2 ∨
      (quote (wireBytes name)).getLast? ≠ some 34) := by
    rw [quote, getLast?_concat]
    simp
  rw [parseDisplayName, if_pos (by simp [quote]), parseQuotedDisplayName,
    if_neg long]
  dsimp only
  rw [inner]
  split_ifs with plain
  · obtain ⟨same, special⟩ := escape_of_plain plain.1
    have accepted : validateQdtext (wireBytes name) = .ok () := by
      obtain ⟨-, -, chars⟩ := displayName_eq_ok.mp valid
      rw [wireBytes, toUTF8_eq_encode] at clean special ⊢
      exact validateQdtext_encode chars fun byte member => ⟨clean byte member, special byte member⟩
    rw [same, accepted]
    exact read
  · rw [decodeQuoted_escape clean]
    exact read

theorem trim_quote (value : Bytes) : trim (quote value) = quote value :=
  trim_of_ends (by simp [quote, isWsp]) (by rw [quote, getLast?_concat]; simp [isWsp])

/-- A scan that goes on at every byte but the angle brackets outside of quoted strings
passes over a text that is closed and has none of them. -/
theorem scan_append
    {scan : Quoting → Nat → Bytes → Except ε α}
    (goesOn : ∀ {before after : Quoting} {byte : UInt8}, before.next byte = some after →
      (before = .outside → byte ≠ 60 ∧ byte ≠ 62) → ∀ index rest,
        scan before index (byte :: rest) = scan after (index + 1) rest)
    {first : Bytes} {before after : Quoting}
    (noOpen : walk 60 before first = some after) (noClose : walk 62 before first = some after)
    (index : Nat) (rest : Bytes) :
    scan before index (first ++ rest) = scan after (index + first.length) rest := by
  induction first generalizing before index with
  | nil =>
    cases noOpen
    rfl
  | cons byte first ih =>
    rw [walk] at noOpen noClose
    split_ifs at noOpen noClose with opens closes
    obtain ⟨next, stands, walkOpen⟩ := Option.bind_eq_some_iff.mp noOpen
    obtain ⟨_, same, walkClose⟩ := Option.bind_eq_some_iff.mp noClose
    cases stands.symm.trans same
    have further := ih walkOpen walkClose (index + 1)
    rw [Nat.add_right_comm, Nat.add_assoc] at further
    rw [cons_append, length_cons, ← further]
    exact goesOn stands (fun outside => ⟨fun equal => opens ⟨outside, equal⟩,
      fun equal => closes ⟨outside, equal⟩⟩) index _

theorem Address.findOpenAngle_cons {before after : Quoting} {byte : UInt8}
    (stands : before.next byte = some after) (solid : before = .outside → byte ≠ 60 ∧ byte ≠ 62)
    (index : Nat) (rest : Bytes) :
    findOpenAngle before none index (byte :: rest) = findOpenAngle after none (index + 1) rest := by
  rw [findOpenAngle]
  by_cases outside : before = .outside
  · obtain ⟨notOpen, notClose⟩ := solid outside
    subst outside
    rw [Quoting.next, Option.some.injEq] at stands
    rw [if_neg (by simp), ← stands]
    by_cases quotes : byte = 34
    · rw [if_pos quotes, if_pos quotes]
      rfl
    · rw [if_neg quotes, if_neg notOpen, if_neg fun both => notClose both.1, if_neg quotes]
  · rw [if_pos outside, stands]

/-- Behind the angle bracket no other one is found. -/
theorem Address.findOpenAngle_behind
    {rest : Bytes} (plain : ∀ byte ∈ rest, byte ≠ 34 ∧ byte ≠ 60) (found index : Nat) :
    findOpenAngle .outside (some found) index rest = .ok (some found) := by
  induction rest generalizing index with
  | nil => rfl
  | cons byte rest ih =>
    obtain ⟨unquoted, closed⟩ := plain byte (mem_cons_self ..)
    rw [findOpenAngle, if_neg (by simp), if_neg unquoted, if_neg closed, if_neg (by simp)]
    exact ih (fun each member => plain each (mem_cons_of_mem _ member)) (index + 1)

/-- The display name of an address is a valid one. -/
def Address.Named : Address → Prop
  | .nameAddr (some displayName) _ => new displayName = .ok displayName
  | .nameAddr none _ | .addrSpec _ => True

theorem uriByte_spec {byte : UInt8} (allowed : isUriByte byte = true) :
    isWsp byte = false ∧ byte ≠ 34 ∧ byte ≠ 60 ∧ byte ≠ 62 := by
  have checked : ∀ byte, isUriByte byte = true →
      isWsp byte = false ∧ byte ≠ 34 ∧ byte ≠ 60 ∧ byte ≠ 62 := by
    intro byte
    simp [isUriByte, isVisible, isWsp, UInt8.lt_iff_toNat_lt, ← UInt8.toNat_inj]
    omega
  exact checked byte allowed

section Reparsing

variable {uri : Uri} (reparses : parseUri uri.render = .ok uri)

include reparses

/-- The text of the URI has no space, quotation mark or angle bracket. -/
theorem apart_of_reparses :
    ∀ byte ∈ uri.render, isWsp byte = false ∧ byte ≠ 34 ∧ byte ≠ 60 ∧ byte ≠ 62 :=
  fun byte member =>
    uriByte_spec (all_eq_true.mp (all_renderUri reparses) byte member)

theorem render_ne_nil_of_reparses : uri.render ≠ [] := by
  intro empty
  rw [empty] at reparses
  cases reparses

/-- A URI between angle brackets is parsed after a display name. -/
theorem Address.parseNameAddr_render
    {displayName : Option String} (named : (Address.nameAddr displayName uri).Named)
    {front : Bytes} (written : front = displayName.elim []
      fun name => quote (wireBytes name) ++ [32]) :
    parseNameAddr (front ++ 60 :: uri.render ++ [62]) front.length =
      .ok (.nameAddr displayName uri) := by
  have apart := apart_of_reparses reparses
  have inside : (front ++ 60 :: uri.render ++ [62]).drop (front.length + 1) =
      uri.render ++ 62 :: [] := by
    have split : front ++ 60 :: uri.render ++ [62] = (front ++ [60]) ++ (uri.render ++ [62]) := by
      simp
    rw [split, drop_left' (by simp)]
  have closes : cut 62 (uri.render ++ 62 :: []) = some (uri.render, []) :=
    cut_eq_some.mpr ⟨rfl, fun member => (apart 62 member).2.2.2 rfl⟩
  have before : (front ++ 60 :: uri.render ++ [62]).take front.length = front := by
    rw [append_assoc, take_left]
  rw [parseNameAddr, inside, closes]
  dsimp only
  rw [if_neg fun member => (apart 60 member).2.2.1 rfl, trim_nil, if_neg (by simp),
    trim_of_forall fun byte member => (apart byte member).1,
    if_neg (render_ne_nil_of_reparses reparses), reparses, before]
  cases displayName with
  | none =>
    subst written
    rfl
  | some name =>
    have trimmed : trim front = quote (wireBytes name) := by
      rw [written, Option.elim_some, trim_concat_of_wsp (by decide), trim_quote]
    have read : parseDisplayName (quote (wireBytes name)) = .ok name :=
      parseDisplayName_quote named
    have filled : quote (wireBytes name) ≠ [] := by simp [quote]
    simp only [trimmed, Except.mapError, ok_bind, if_neg filled, read]
    rfl

/-- A bare URI has no angle bracket. -/
theorem Address.findOpenAngle_uri :
    findOpenAngle .outside none 0 uri.render = .ok none := by
  have solid {separator : UInt8} (angle : separator = 60 ∨ separator = 62) :
      Solid separator uri.render := by
    refine solid_of_forall fun byte member => ?_
    obtain ⟨-, unquoted, noOpen, noClose⟩ := apart_of_reparses reparses byte member
    refine ⟨unquoted, ?_⟩
    rcases angle with rfl | rfl
    · exact noOpen
    · exact noClose
  have passed := scan_append findOpenAngle_cons (solid (.inl rfl)) (solid (.inr rfl)) 0 []
  rwa [append_nil] at passed

/-- The angle bracket is found behind the display name. -/
theorem Address.findOpenAngle_front
    {front : Bytes} (noOpen : Solid 60 front) (noClose : Solid 62 front) :
    findOpenAngle .outside none 0 (front ++ 60 :: uri.render ++ [62]) =
      .ok (some front.length) := by
  have plain : ∀ byte ∈ uri.render ++ [62], byte ≠ 34 ∧ byte ≠ 60 := by
    intro byte member
    rcases mem_append.mp member with inside | inside
    · obtain ⟨-, unquoted, noOpen, -⟩ := apart_of_reparses reparses byte inside
      exact ⟨unquoted, noOpen⟩
    · rw [mem_singleton.mp inside]
      decide
  rw [append_assoc, scan_append findOpenAngle_cons noOpen noClose, cons_append,
    findOpenAngle, if_neg (by simp), if_neg (by decide), if_pos rfl,
    if_neg (by simp), Nat.zero_add]
  exact findOpenAngle_behind plain _ _

end Reparsing

/-- What stands before the angle bracket. -/
def Address.front (displayName : Option String) : Bytes :=
  displayName.elim [] fun name => quote (wireBytes name) ++ [32]

theorem Address.render_nameAddr (displayName : Option String) (uri : Uri) :
    (Address.nameAddr displayName uri).render = front displayName ++ 60 :: uri.render ++ [62] := by
  cases displayName with
  | none => rfl
  | some name => simp [render, front]

theorem Address.solid_front
    {displayName : Option String} {uri : Uri} (named : (Address.nameAddr displayName uri).Named)
    {separator : UInt8} (other : separator ≠ 34 ∧ separator ≠ 32) :
    Solid separator (front displayName) := by
  cases displayName with
  | none => rfl
  | some name =>
    have unbroken : ∀ byte ∈ wireBytes name, byte ≠ 13 ∧ byte ≠ 10 := by
      intro byte member
      have clean := uncontrolled_of_displayName named byte member
      constructor <;> rintro rfl <;> cases clean
    refine (solid_quote unbroken other.1).append (solid_of_forall fun byte member => ?_)
    rw [mem_singleton.mp member]
    exact ⟨by decide, other.2.symm⟩

theorem Address.render_ne_nil (reparses : parseUri address.uri.render = .ok address.uri) :
    address.render ≠ [] := by
  cases address with
  | addrSpec uri => exact render_ne_nil_of_reparses reparses
  | nameAddr displayName uri =>
    rw [render_nameAddr]
    simp

/-- The text of an address starts and ends with something else than space. -/
theorem Address.ends_render (reparses : parseUri address.uri.render = .ok address.uri) :
    (∀ byte ∈ address.render.head?, isWsp byte = false) ∧
      ∀ byte ∈ address.render.getLast?, isWsp byte = false := by
  cases address with
  | addrSpec uri =>
    have apart := apart_of_reparses reparses
    exact ⟨fun byte head => (apart byte (mem_of_head? head)).1,
      fun byte last => (apart byte (mem_of_getLast? last)).1⟩
  | nameAddr displayName uri =>
    rw [render_nameAddr]
    refine ⟨?_, by rw [getLast?_concat]; simp [isWsp]⟩
    cases displayName <;> simp [front, quote, isWsp]

theorem Address.trim_render (reparses : parseUri address.uri.render = .ok address.uri) :
    trim address.render = address.render :=
  trim_of_ends (ends_render reparses).1 (ends_render reparses).2

/-- An address is parsed from its text. -/
theorem Address.parse_render (named : address.Named)
    (reparses : parseUri address.uri.render = .ok address.uri)
    (short : address.render.length ≤ maxAddressBytes) :
    parse address.render = .ok address := by
  have trimmed := trim_render reparses
  have filled := render_ne_nil reparses
  have fits : ¬maxAddressBytes < address.render.length := Nat.not_lt.mpr short
  cases address with
  | addrSpec uri =>
    have reparses : parseUri uri.render = .ok uri := reparses
    have noClose : 62 ∉ uri.render := fun member =>
      (apart_of_reparses reparses 62 member).2.2.2 rfl
    rw [parse, trimmed, if_neg filled, if_neg fits]
    rw [render, findOpenAngle_uri reparses, ok_bind]
    dsimp only
    rw [parseAddrSpec, if_neg noClose, reparses]
    rfl
  | nameAddr displayName uri =>
    have reparses : parseUri uri.render = .ok uri := reparses
    have located := findOpenAngle_front reparses
      (solid_front named (by decide)) (solid_front named (by decide))
    rw [parse, trimmed, if_neg filled, if_neg fits]
    rw [render_nameAddr, located, ok_bind]
    exact parseNameAddr_render reparses named rfl

end Sip
end LiveAISIP
