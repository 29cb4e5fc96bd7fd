import LiveAISIP.Sip.AddressRoundTrip
import LiveAISIP.Sip.ToValue
import LiveAISIP.Sip.ViaRoundTrip

/-!
# To values as text

A To value is parsed from its text where its URI is, and where the URI either stands
between angle brackets or has no byte that ends a bare URI.
-/

namespace LiveAISIP
namespace Sip

open Ascii Outcome Quoted Text
open List Address

variable {header : ToHeader}

/-- A byte of a value without quotation marks. -/
def isValueByte (byte : UInt8) : Bool := isUriByte byte && byte != 59

theorem valueByte_spec {byte : UInt8} (allowed : isValueByte byte = true) :
    isWsp byte = false ∧ byte ≠ 34 ∧ byte ≠ 59 ∧ byte ≠ 60 ∧ byte ≠ 62 := by
  rw [isValueByte, Bool.and_eq_true, bne_iff_ne] at allowed
  obtain ⟨solid, unquoted, noOpen, noClose⟩ := uriByte_spec allowed.1
  exact ⟨solid, unquoted, allowed.2, noOpen, noClose⟩

theorem isValueByte_of_token {byte : UInt8} (token : isTokenByte byte = true) :
    isValueByte byte = true := by
  rw [isValueByte, isUriByte_of_class (by simp [token])]
  simp [(Headers.token_byte_spec token).2.1]

/-- A reader takes bytes of bare values off the front. -/
def Reader.Takes (read : Reader α) : Prop := ∀ ⦃input value rest⦄, read input = some (value, rest) →
    ∃ front, input = front ++ rest ∧ front.all isValueByte = true

theorem takes_readNumber (radix maxDigits limit : Nat) (allowZeroPrefix : Bool) :
    (readNumber radix maxDigits limit allowZeroPrefix).Takes := by
  intro input value rest read
  rw [readNumber] at read
  split_ifs at read
  cases read
  refine ⟨_, takeWhile_append_dropWhile.symm, ?_⟩
  rw [all_eq_true]
  intro byte member
  have digit := mem_takeWhile_imp member
  have checked : ∀ byte, (digitValue radix byte).isSome = true → isValueByte byte = true := by
    intro byte
    rw [digitValue]
    split_ifs with decimal lower upper
    case neg => simp
    all_goals
      intro _
      simp [isValueByte, isUriByte, isVisible, UInt8.le_iff_toNat_le, UInt8.lt_iff_toNat_lt,
        ← UInt8.toNat_inj] at *
      omega
  exact checked byte digit

theorem takes_readGivenChar {char : UInt8} (allowed : isValueByte char = true) :
    (readGivenChar char).Takes := by
  intro input value rest given
  cases input with
  | nil => cases given
  | cons first others =>
    rw [readGivenChar] at given
    split_ifs at given with same
    cases given
    exact ⟨[char], by rw [same]; rfl, by rw [all_cons, allowed]; rfl⟩

theorem takes_readSeparator
    {separator : UInt8} (allowed : isValueByte separator = true) (index : Nat)
    {inner : Reader α} (takes : inner.Takes) : (readSeparator separator index inner).Takes := by
  intro input value rest read
  rw [readSeparator] at read
  split_ifs at read
  · exact takes read
  · obtain ⟨⟨_, behind⟩, given, inside⟩ := Option.bind_eq_some_iff.mp read
    obtain ⟨front, rfl, one⟩ := takes_readGivenChar allowed given
    obtain ⟨back, rfl, two⟩ := takes inside
    exact ⟨front ++ back, by simp, by rw [all_append, one, two]; rfl⟩

theorem takes_readIpv4Addr : Reader.Takes readIpv4Addr := by
  intro input value rest read
  have octets (index : Nat) := takes_readSeparator (by decide : isValueByte 46 = true) index
    (takes_readNumber 10 3 256 false)
  obtain ⟨⟨_, _⟩, first, read⟩ := Option.bind_eq_some_iff.mp read
  obtain ⟨⟨_, _⟩, second, read⟩ := Option.bind_eq_some_iff.mp read
  obtain ⟨⟨_, _⟩, third, read⟩ := Option.bind_eq_some_iff.mp read
  obtain ⟨⟨_, _⟩, fourth, read⟩ := Option.bind_eq_some_iff.mp read
  cases read
  obtain ⟨front₁, rfl, all₁⟩ := octets 0 first
  obtain ⟨front₂, rfl, all₂⟩ := octets 1 second
  obtain ⟨front₃, rfl, all₃⟩ := octets 2 third
  obtain ⟨front₄, rfl, all₄⟩ := octets 3 fourth
  exact ⟨front₁ ++ front₂ ++ front₃ ++ front₄, by simp, by simp [all₁, all₂, all₃, all₄]⟩

theorem takes_readGroups (index slots : Nat) (input : Bytes) :
    ∃ front, input = front ++ (readGroups index slots input).2.2 ∧
      front.all isValueByte = true := by
  induction slots generalizing index input with
  | zero => exact ⟨[], rfl, rfl⟩
  | succ slots ih =>
    have colon : isValueByte 58 = true := by decide
    rw [readGroups]
    dsimp only
    split
    · rename_i address rest embedded
      split_ifs at embedded
      exact takes_readSeparator colon index takes_readIpv4Addr embedded
    · split
      · exact ⟨[], rfl, rfl⟩
      · rename_i group rest read
        obtain ⟨front, rfl, all⟩ :=
          takes_readSeparator colon index (takes_readNumber 16 4 65536 true) read
        obtain ⟨groups, later, further⟩ := ih (index + 1) rest
        exact ⟨front ++ groups, by rw [append_assoc, ← later],
          by rw [all_append, all, further]; rfl⟩

/-- The text of an IPv6 address has bytes of bare values only. -/
theorem all_of_parseIpv6Addr {input : Bytes} (parsed : (parseIpv6Addr input).isSome) :
    input.all isValueByte = true := by
  have colon : isValueByte 58 = true := by decide
  have takes : Reader.Takes readIpv6Addr := by
    intro input address rest read
    obtain ⟨front, same, all⟩ := takes_readGroups 0 8 input
    rw [readIpv6Addr] at read
    dsimp only at read
    split_ifs at read with full embedded
    · cases read
      exact ⟨front, same, all⟩
    · obtain ⟨⟨_, _⟩, first, read⟩ := Option.bind_eq_some_iff.mp read
      obtain ⟨⟨_, behind⟩, second, read⟩ := Option.bind_eq_some_iff.mp read
      obtain ⟨front₁, same₁, all₁⟩ := takes_readGivenChar colon first
      obtain ⟨front₂, same₂, all₂⟩ := takes_readGivenChar colon second
      obtain ⟨front₃, same₃, all₃⟩ :=
        takes_readGroups 0 (8 - ((readGroups 0 8 input).1.length + 1)) behind
      cases read
      refine ⟨front ++ front₁ ++ front₂ ++ front₃, ?_, by simp [all, all₁, all₂, all₃]⟩
      rw [append_assoc, append_assoc, append_assoc, ← same₃, ← same₂, ← same₁]
      exact same
  rw [parseIpv6Addr, parseWith] at parsed
  split at parsed
  · rename_i address read
    obtain ⟨front, rfl, all⟩ := takes read
    rw [append_nil, all]
  · cases parsed

/-- A parameter that one of the constructors made. -/
inductive ToParameter.Made (parameter : ToParameter) : Prop
  | flag (text : String) (made : ToParameter.flag text = .ok parameter)
  | unquoted (text content : String) (made : ToParameter.unquoted text content = .ok parameter)
  | ofQuoted (text content : String) (made : ToParameter.ofQuoted text content = .ok parameter)

/-- What a parameter has behind its name. -/
def ToParameter.tail (parameter : ToParameter) : Bytes :=
  match parameter.value with
  | none => []
  | some value => 61 :: if parameter.quoted then quote (wireBytes value) else wireBytes value

namespace To

variable {parameter : ToParameter} {header : ToHeader}

theorem validateExtensionParameterName_eq_ok {name : Bytes} :
    validateExtensionParameterName name = .ok () ↔
      name ≠ [] ∧ name.length ≤ maxToParameterNameBytes ∧ name.all isTokenByte = true ∧
        eqIgnoreCase name (wireBytes "tag") = false := by
  simp [validateExtensionParameterName, bind_eq_ok]

/-- An unquoted value has bytes of bare values only. -/
theorem bare_of_validateUnquotedParameterValue
    {value : Bytes} (valid : validateUnquotedParameterValue value = .ok ()) :
    value ≠ [] ∧ value.all isValueByte = true := by
  simp only [validateUnquotedParameterValue, bind_eq_ok, ensure_eq_ok, exists_const] at valid
  obtain ⟨nonempty, -, token | reference⟩ := valid
  · rw [all_eq_true] at token ⊢
    exact ⟨nonempty, fun byte member => isValueByte_of_token (token byte member)⟩
  · refine ⟨nonempty, ?_⟩
    rw [isIpv6Reference] at reference
    split_ifs at reference with shape
    rw [not_or, not_or, not_not, not_not] at shape
    obtain ⟨-, opens, closes⟩ := shape
    obtain ⟨rest, rfl⟩ := head?_eq_some_iff.mp opens
    obtain rfl | ⟨middle, last, rfl⟩ := eq_nil_or_concat' rest
    · cases closes
    · rw [← cons_append, getLast?_concat, Option.some.injEq] at closes
      rw [tail_cons, dropLast_concat] at reference
      cases decoded : fromUtf8 middle with
      | none => simp [decoded] at reference
      | some address =>
        rw [decoded] at reference
        have inside := all_of_parseIpv6Addr reference
        rw [wireBytes, toUTF8_of_fromUtf8 decoded] at inside
        have brackets : isValueByte 91 = true ∧ isValueByte 93 = true := by decide
        simp [closes, inside, brackets]

/-- A name is read up to the first byte of no token. -/
theorem parseParameterName_append
    {name : String} (nonempty : wireBytes name ≠ [])
    (short : (wireBytes name).length ≤ maxToParameterNameBytes)
    (token : (wireBytes name).all isTokenByte = true)
    {rest : Bytes} (ends : ∀ byte ∈ rest.head?, isTokenByte byte = false) :
    parseParameterName (wireBytes name ++ rest) = .ok (name, rest) := by
  obtain ⟨front, back⟩ := span_front rest (all_eq_true.mp token) ends
  have read : fromUtf8 (wireBytes name) = some name := fromUtf8_toUTF8 name
  simp only [parseParameterName, front, back, ensure_of nonempty, ensure_of short, ok_bind, read]
  rfl

/-- An escaped value is decoded up to its quotation mark. -/
theorem parseQuotedValue_escape
    {value : Bytes} (clean : ∀ byte ∈ value, isControl byte = false) (decoded rest : Bytes) :
    parseQuotedValue decoded (escape value ++ 34 :: rest) =
      match fromUtf8 (decoded ++ value) with
      | none => .error .invalidQuotedString
      | some text => .ok (text, rest) := by
  induction value generalizing decoded with
  | nil =>
    rw [parseQuotedValue.eq_def, append_nil]
    cases fromUtf8 decoded <;> rfl
  | cons byte value ih =>
    have visible := clean byte (mem_cons_self ..)
    have later := ih (fun each member => clean each (mem_cons_of_mem _ member)) (decoded ++ [byte])
    rw [append_assoc, singleton_append] at later
    rw [escape_cons]
    split_ifs with special
    · rw [append_assoc, cons_append, parseQuotedValue.eq_def]
      simp [visible, later]
    · have plain := not_or.mp special
      have tab : byte ≠ 9 := by
        rintro rfl
        cases visible
      rw [append_assoc, singleton_append, parseQuotedValue.eq_def]
      simp [plain, tab, visible, later]

/-- A parameter is read up to the next semicolon. -/
theorem parseExtensionParameter_tail (made : parameter.Made) {rest : Bytes}
    (ends : ∀ byte ∈ rest.head?, byte = 59) :
    parseExtensionParameter parameter.name (parameter.tail ++ rest) = .ok (parameter, rest) := by
  have after : trimStart rest = rest := by
    refine trimStart_of_head fun byte member => ?_
    rw [ends byte member]
    rfl
  have closed : rest = [] ∨ rest.head? = some 59 := by
    cases rest with
    | nil => exact .inl rfl
    | cons first rest => exact .inr (congrArg some (ends first rfl))
  have equals (text : Bytes) : trimStart (61 :: text) = 61 :: text :=
    trimStart_of_head (by simp [isWsp])
  rcases made with ⟨text, made⟩ | ⟨text, content, made⟩ | ⟨text, content, made⟩
  · have named := made
    obtain ⟨_, valid, made⟩ := bind_eq_ok.mp made
    cases made
    rw [parseExtensionParameter, valid, ok_bind, ToParameter.tail, nil_append, after]
    rcases closed with rfl | closed
    · simp [named]
    · obtain ⟨others, rfl⟩ := head?_eq_some_iff.mp closed
      simp [named]
  · have named := made
    obtain ⟨_, valid, made⟩ := bind_eq_ok.mp made
    obtain ⟨_, allowed, made⟩ := bind_eq_ok.mp made
    cases made
    obtain ⟨nonempty, bare⟩ := bare_of_validateUnquotedParameterValue allowed
    have each (byte : UInt8) (member : byte ∈ wireBytes content) :=
      valueByte_spec (all_eq_true.mp bare byte member)
    obtain ⟨front, back⟩ := span_front rest
      (fun byte member => by simpa using (each byte member).2.2.1 :
        ∀ byte ∈ wireBytes content, (byte != 59) = true)
      (fun byte member => by rw [ends byte member]; rfl)
    have read : fromUtf8 (wireBytes content) = some content := fromUtf8_toUTF8 content
    have parsed : parseUnquotedExtensionParameter text (wireBytes content ++ rest) =
        .ok (⟨text, some content, false⟩, rest) := by
      simp only [parseUnquotedExtensionParameter, front, back,
        trim_of_forall fun byte member => (each byte member).1, ensure_of nonempty, allowed,
        ok_bind, read, named]
      rfl
    obtain ⟨first, others, same⟩ := exists_cons_of_ne_nil nonempty
    have member : first ∈ wireBytes content := by
      rw [same]
      exact mem_cons_self ..
    have start : trimStart (wireBytes content ++ rest) = first :: (others ++ rest) := by
      rw [same]
      exact trimStart_of_head (by simp [(each first member).1])
    rw [same] at parsed
    simp only [parseExtensionParameter, valid, ok_bind, ToParameter.tail, Bool.false_eq_true,
      if_false, cons_append, equals, start]
    rw [if_neg (by decide), ensure_of trivial, ok_bind, if_neg (each first member).2.1]
    exact parsed
  · have named := made
    obtain ⟨_, valid, made⟩ := bind_eq_ok.mp made
    obtain ⟨_, allowed, made⟩ := bind_eq_ok.mp made
    cases made
    simp only [validateQuotedParameterValue, bind_eq_ok, ensure_eq_ok, exists_const] at allowed
    have clean (byte : UInt8) (member : byte ∈ wireBytes content) : isControl byte = false := by
      simpa using any_eq_false.mp allowed.2.2 byte member
    have decoded := parseQuotedValue_escape clean [] rest
    have read : fromUtf8 (wireBytes content) = some content := fromUtf8_toUTF8 content
    rw [nil_append, read] at decoded
    have mark (text : Bytes) : trimStart (34 :: text) = 34 :: text :=
      trimStart_of_head (by simp [isWsp])
    have written : quote (wireBytes content) ++ rest =
        34 :: (escape (wireBytes content) ++ 34 :: rest) := by
      simp [quote]
    simp only [parseExtensionParameter, valid, ok_bind, ToParameter.tail, if_true,
      cons_append, equals, written, mark]
    rw [if_neg (by decide), ensure_of trivial, ok_bind]
    simp only [parseQuotedExtensionParameter, decoded, ok_bind, after, ensure_of closed, named]
    rfl

/-- The name of a made parameter is valid. -/
theorem validName_of_made (made : parameter.Made) :
    validateExtensionParameterName (wireBytes parameter.name) = .ok () := by
  rcases made with ⟨text, made⟩ | ⟨text, content, made⟩ | ⟨text, content, made⟩
  all_goals obtain ⟨_, valid, made⟩ := bind_eq_ok.mp made
  · cases made
    exact valid
  all_goals
    obtain ⟨_, -, made⟩ := bind_eq_ok.mp made
    cases made
    exact valid

/-- Parameters whose names differ, not only in case. -/
def NamedApart (first second : ToParameter) : Prop :=
  eqIgnoreCase (wireBytes first.name) (wireBytes second.name) = false

theorem parseParameter_append (made : parameter.Made)
    (apart : ∀ existing ∈ header.parameters, NamedApart existing parameter)
    (room : header.parameterCount < maxToParameters) (rest : Bytes)
    (ends : ∀ byte ∈ rest.head?, byte = 59) :
    parseParameter header (parameter.render ++ rest) =
      .ok ({ header with parameters := header.parameters ++ [parameter] }, rest) := by
  obtain ⟨nonempty, short, token, other⟩ :=
    validateExtensionParameterName_eq_ok.mp (validName_of_made made)
  have separator (byte : UInt8) (head : byte ∈ (parameter.tail ++ rest).head?) :
      byte = 59 ∨ byte = 61 := by
    rw [ToParameter.tail] at head
    cases value : parameter.value with
    | none =>
      rw [value] at head
      exact .inl (ends byte head)
    | some value =>
      simp only [value, cons_append, head?_cons, Option.mem_some_iff] at head
      exact .inr head.symm
  have named := parseParameterName_append nonempty short token fun byte head => by
    rcases separator byte head with rfl | rfl <;> rfl
  have start : trimStart (parameter.tail ++ rest) = parameter.tail ++ rest :=
    trimStart_of_head fun byte head => by
      rcases separator byte head with rfl | rfl <;> rfl
  have fresh : (header.parameter parameter.name).isNone = true := by
    rw [ToHeader.parameter, Option.isNone_iff_eq_none, find?_eq_none]
    intro existing member
    simpa [NamedApart] using apart existing member
  have pushed : header.pushParameter parameter =
      .ok { header with parameters := header.parameters ++ [parameter] } := by
    rw [ToHeader.pushParameter, if_neg (Nat.not_le_of_lt room), if_neg]
    simpa [NamedApart] using apart
  have written : parameter.render ++ rest = wireBytes parameter.name ++ (parameter.tail ++ rest) :=
    append_assoc ..
  simp only [parseParameter, written, named, ok_bind, start, other, Bool.false_eq_true, if_false,
    ensure_of fresh, parseExtensionParameter_tail made ends, pushed]
  rfl

/-- The parameters of a text are read one after the other. -/
theorem parseParameters_flatMap
    (header : ToHeader) {parameters : List ToParameter}
    (made : ∀ parameter ∈ parameters, parameter.Made)
    (apart : (header.parameters ++ parameters).Pairwise NamedApart) {slots : Nat}
    (enough : parameters.length ≤ slots)
    (room : header.parameterCount + parameters.length ≤ maxToParameters) :
    parseParameters slots header (parameters.flatMap fun parameter => 59 :: parameter.render) =
      .ok { header with parameters := header.parameters ++ parameters } := by
  induction parameters generalizing header slots with
  | nil => simp [parseParameters.eq_def]
  | cons parameter parameters ih =>
    obtain ⟨slots, rfl⟩ := Nat.exists_eq_add_of_lt (Nat.lt_of_lt_of_le (Nat.succ_pos _) enough)
    have here := made parameter (mem_cons_self ..)
    obtain ⟨nonempty, -, token, -⟩ :=
      validateExtensionParameterName_eq_ok.mp (validName_of_made here)
    obtain ⟨first, others, same⟩ := exists_cons_of_ne_nil nonempty
    have solid : isWsp first = false :=
      (Headers.token_byte_spec (all_eq_true.mp token first (by simp [same]))).1
    have start (text : Bytes) : trimStart (parameter.render ++ text) = parameter.render ++ text ∧
        parameter.render ++ text ≠ [] := by
      have written : parameter.render = wireBytes parameter.name ++ parameter.tail := rfl
      rw [written, same]
      exact ⟨trimStart_of_head (by simp [solid]), by simp⟩
    have more : header.parameterCount < maxToParameters := by
      rw [length_cons] at room
      omega
    have step := parseParameter_append here
      (fun existing member => (pairwise_append.mp apart).2.2 existing member parameter
        (mem_cons_self ..)) more
      (parameters.flatMap fun parameter => 59 :: parameter.render)
      (by cases parameters <;> simp)
    have further : parseParameters (0 + slots)
        { header with parameters := header.parameters ++ [parameter] }
        (parameters.flatMap fun parameter => 59 :: parameter.render) =
          .ok { header with parameters := header.parameters ++ [parameter] ++ parameters } := by
      refine ih _ (fun other member => made other (mem_cons_of_mem _ member))
        (by simpa using apart) (by simpa using enough) ?_
      simp only [ToHeader.parameterCount, length_append, length_cons, length_nil] at room ⊢
      omega
    have opened (text : Bytes) : trimStart (59 :: text) = 59 :: text :=
      trimStart_of_head (by simp [isWsp])
    rw [parseParameters.eq_def, flatMap_cons, cons_append]
    dsimp only
    rw [opened]
    dsimp only
    rw [ensure_of rfl, ok_bind, (start _).1, ensure_of (start _).2, ok_bind, step, ok_bind]
    simpa using further

/-- A tag is a token. -/
theorem token_tag (tag : Tag) :
    wireBytes tag.text ≠ [] ∧ (wireBytes tag.text).length ≤ maxToTagBytes ∧
      (wireBytes tag.text).all isTokenByte = true := by
  refine ⟨?_, ?_, ?_⟩
  · intro empty
    have read := fromUtf8_toUTF8 tag.text
    rw [show tag.text.toUTF8.toList = [] from empty] at read
    exact tag.nonempty (Option.some.inj read).symm
  · rw [wireBytes, toList_eq]
    exact tag.bounded
  · rw [all_eq_true, wireBytes, toUTF8_eq_encode]
    intro byte member
    obtain ⟨char, inside, written⟩ := mem_flatMap.mp member
    have token := all_eq_true.mp tag.token char inside
    rw [isTokenChar, Bool.and_eq_true, decide_eq_true_eq] at token
    rw [encodeChar_of_ascii token.1] at written
    rw [mem_singleton.mp written]
    exact token.2

/-- The tag is read first. -/
theorem parseParameter_tag
    (address : Address) (tag : Tag) (rest : Bytes) (ends : ∀ byte ∈ rest.head?, byte = 59) :
    parseParameter (ToHeader.new address) (wireBytes "tag" ++ 61 :: wireBytes tag.text ++ rest) =
      .ok (⟨address, some tag, []⟩, rest) := by
  obtain ⟨nonempty, short, token⟩ := token_tag tag
  have read : fromUtf8 (wireBytes tag.text) = some tag.text := fromUtf8_toUTF8 tag.text
  have name : wireBytes "tag" = [116, 97, 103] := by decide +kernel
  have named : parseParameterName (wireBytes "tag" ++ 61 :: (wireBytes tag.text ++ rest)) =
      .ok ("tag", 61 :: (wireBytes tag.text ++ rest)) := by
    refine parseParameterName_append ?_ ?_ ?_ fun byte head => ?_
    · simp [name]
    · simp [name, maxToParameterNameBytes]
    · rw [name]
      decide
    · cases head
      rfl
  have known : eqIgnoreCase (wireBytes "tag") (wireBytes "tag") = true := by
    rw [name]
    decide
  have valid : validateTag (wireBytes tag.text) = .ok () := by
    simpa [validateTag, bind_eq_ok, nonempty, short] using token
  have solid (byte : UInt8) (member : byte ∈ wireBytes tag.text) : isWsp byte = false :=
    (Headers.token_byte_spec (all_eq_true.mp token byte member)).1
  have start : trimStart (wireBytes tag.text ++ rest) = wireBytes tag.text ++ rest := by
    obtain ⟨first, others, same⟩ := exists_cons_of_ne_nil nonempty
    rw [same] at solid ⊢
    exact trimStart_of_head (by simp [solid first (mem_cons_self ..)])
  have equals : trimStart (61 :: (wireBytes tag.text ++ rest)) =
      61 :: (wireBytes tag.text ++ rest) := trimStart_of_head (by simp [isWsp])
  have after : trimStart rest = rest := by
    refine trimStart_of_head fun byte member => ?_
    rw [ends byte member]
    rfl
  obtain ⟨front, back⟩ := span_front rest (all_eq_true.mp token) fun byte head => by
    rw [ends byte head]
    rfl
  have closed : rest = [] ∨ rest.head? = some 59 := by
    cases rest with
    | nil => exact .inl rfl
    | cons first rest => exact .inr (congrArg some (ends first rfl))
  have filled : wireBytes tag.text ++ rest ≠ [] := by simp [nonempty]
  have set : (ToHeader.new address).setTag tag.text = .ok ⟨address, some tag, []⟩ := by
    rw [ToHeader.setTag, dif_neg tag.nonempty, dif_neg (Nat.not_lt.mpr tag.bounded),
      dif_pos tag.token, if_neg (by simp [ToHeader.new, ToHeader.parameterCount, maxToParameters])]
    rfl
  have parsed : parseTagParameter (61 :: (wireBytes tag.text ++ rest)) = .ok (tag.text, rest) := by
    simp only [parseTagParameter, equals, start, ensure_of filled, front, back,
      ensure_of nonempty, valid, after, ensure_of closed, read, ok_bind]
    rfl
  rw [append_assoc, cons_append, parseParameter, named, ok_bind]
  dsimp only
  rw [equals, if_pos known, parsed, ok_bind]
  dsimp only
  rw [ensure_of (by rfl), ok_bind, set]
  rfl

/-- A text that has no angle bracket outside of quoted strings and does not end with
space. -/
structure Clear (text : Bytes) : Prop where
  opening : Solid 60 text
  closing : Solid 62 text
  last : ∀ byte ∈ text.getLast?, isWsp byte = false

theorem clear_of_all {text : Bytes} (all : text.all isUriByte = true) : Clear text := by
  have each (byte : UInt8) (member : byte ∈ text) :=
    uriByte_spec (all_eq_true.mp all byte member)
  exact ⟨solid_of_forall fun byte member => ⟨(each byte member).2.1, (each byte member).2.2.1⟩,
    solid_of_forall fun byte member => ⟨(each byte member).2.1, (each byte member).2.2.2⟩,
    fun byte last => (each byte (mem_of_getLast? last)).1⟩

theorem Clear.append {first second : Bytes} (left : Clear first) (right : Clear second) :
    Clear (first ++ second) := by
  refine ⟨left.opening.append right.opening, left.closing.append right.closing, ?_⟩
  intro byte last
  rw [getLast?_append] at last
  cases ends : second.getLast? with
  | none => exact left.last byte (by simpa [ends] using last)
  | some _ => exact right.last byte (by simpa [ends] using last)

theorem clear_parameter (made : parameter.Made) :
    Clear parameter.render := by
  have ofValue {text : Bytes} (all : text.all isValueByte = true) : Clear text := by
    refine clear_of_all (all_eq_true.mpr fun byte member => ?_)
    exact (Bool.and_eq_true _ _ ▸ all_eq_true.mp all byte member).1
  obtain ⟨-, -, token, -⟩ := validateExtensionParameterName_eq_ok.mp (validName_of_made made)
  have name : Clear (wireBytes parameter.name) := ofValue (all_eq_true.mpr fun byte member =>
      isValueByte_of_token (all_eq_true.mp token byte member))
  refine name.append ?_
  have equals : Clear [61] := clear_of_all (by decide)
  rcases made with ⟨text, made⟩ | ⟨text, content, made⟩ | ⟨text, content, made⟩
  all_goals obtain ⟨_, -, made⟩ := bind_eq_ok.mp made
  · cases made
    exact clear_of_all rfl
  all_goals
    obtain ⟨_, allowed, made⟩ := bind_eq_ok.mp made
    cases made
    refine equals.append ?_
  · exact ofValue (bare_of_validateUnquotedParameterValue allowed).2
  · simp only [validateQuotedParameterValue, bind_eq_ok, ensure_eq_ok, exists_const] at allowed
    have unbroken : ∀ byte ∈ wireBytes content, byte ≠ 13 ∧ byte ≠ 10 := by
      intro byte member
      have clean := any_eq_false.mp allowed.2.2 byte member
      constructor <;> rintro rfl <;> exact clean (by decide)
    refine ⟨solid_quote unbroken (by decide), solid_quote unbroken (by decide), ?_⟩
    have ends : (quote (wireBytes content)).getLast? = some 34 := getLast?_concat
    intro byte last
    cases ends.symm.trans last
    rfl

/-- What stands behind the address. -/
def tail (header : ToHeader) : Bytes :=
  header.renderTag ++ header.parameters.flatMap fun parameter => 59 :: parameter.render

theorem clear_tail (made : ∀ parameter ∈ header.parameters, parameter.Made) :
    Clear (tail header) := by
  have parameters : Clear (header.parameters.flatMap fun parameter => 59 :: parameter.render) := by
    generalize header.parameters = parameters at made ⊢
    induction parameters with
    | nil => exact clear_of_all rfl
    | cons parameter parameters ih =>
      have semicolon : Clear [59] := clear_of_all (by decide)
      exact (semicolon.append (clear_parameter (made parameter (mem_cons_self ..)))).append
        (ih fun other member => made other (mem_cons_of_mem _ member))
  refine Clear.append ?_ parameters
  rw [ToHeader.renderTag]
  cases header.tag with
  | none => exact clear_of_all rfl
  | some tag =>
    have label : (wireBytes ";tag=").all isUriByte = true := by decide +kernel
    refine (clear_of_all label).append (clear_of_all (all_eq_true.mpr fun byte member => ?_))
    exact isUriByte_of_class (by simp [all_eq_true.mp (token_tag tag).2.2 byte member])

theorem head_tail (header : ToHeader) : ∀ byte ∈ (tail header).head?, byte = 59 := by
  have label : wireBytes ";tag=" = 59 :: (wireBytes "tag" ++ [61]) := by decide +kernel
  rw [tail, ToHeader.renderTag]
  cases header.tag with
  | none => cases header.parameters <;> simp
  | some tag => simp [label]

theorem findOpenAngle_cons {before after : Quoting} {byte : UInt8}
    (stands : before.next byte = some after) (solid : before = .outside → byte ≠ 60 ∧ byte ≠ 62)
    (index : Nat) (rest : Bytes) :
    findOpenAngle before index (byte :: rest) = findOpenAngle after (index + 1) rest := by
  rw [findOpenAngle]
  by_cases outside : before = .outside
  · obtain ⟨notOpen, notClose⟩ := solid outside
    subst outside
    rw [Quoting.next, Option.some.injEq] at stands
    rw [if_neg (by simp), ← stands, if_neg notOpen, if_neg notClose]
    split_ifs <;> rfl
  · rw [if_pos outside, stands]

/-- Behind a bare URI no angle bracket is found. -/
theorem findOpenAngle_bare
    {uri : Uri} (reparses : parseUri uri.render = .ok uri) {rest : Bytes} (after : Clear rest) :
    findOpenAngle .outside 0 (uri.render ++ rest) = .ok none := by
  have whole := (clear_of_all (all_renderUri reparses)).append after
  have located := scan_append findOpenAngle_cons whole.opening whole.closing 0 []
  rwa [append_nil] at located

/-- The address is found before the parameters. -/
theorem splitAddressAndParameters_render (made : ∀ parameter ∈ header.parameters, parameter.Made)
    (named : header.address.Named)
    (reparses : parseUri header.address.uri.render = .ok header.address.uri)
    (plain : ∀ uri, header.address = .addrSpec uri →
      59 ∉ uri.render ∧ 63 ∉ uri.render ∧ 44 ∉ uri.render)
    (short : header.address.render.length ≤ maxAddressBytes) :
    splitAddressAndParameters (header.address.render ++ tail header) =
      .ok (header.address, tail header) := by
  have parsed := Address.parse_render named reparses short
  have trimmed := trim_render reparses
  have after := clear_tail made
  have starts := head_tail header
  generalize tail header = rest at *
  cases address : header.address with
  | nameAddr displayName uri =>
    rw [address] at named reparses parsed trimmed
    have reparses : parseUri uri.render = .ok uri := reparses
    have apart := apart_of_reparses reparses
    have located : findOpenAngle .outside 0
        ((Address.nameAddr displayName uri).render ++ rest) =
          .ok (some (Address.front displayName).length) := by
      rw [render_nameAddr, append_assoc, append_assoc,
        scan_append findOpenAngle_cons (solid_front named (by decide))
          (solid_front named (by decide)), Nat.zero_add]
      rfl
    have written : (Address.nameAddr displayName uri).render ++ rest =
        (Address.front displayName ++ [60]) ++ (uri.render ++ 62 :: rest) := by
      simp [render_nameAddr]
    have length : (Address.front displayName).length + 1 =
        (Address.front displayName ++ [60]).length := by simp
    have closes : cut 62 (uri.render ++ 62 :: rest) = some (uri.render, rest) :=
      cut_eq_some.mpr ⟨rfl, fun member => (apart 62 member).2.2.2 rfl⟩
    have found : findCloseAngle ((Address.nameAddr displayName uri).render ++ rest)
        (Address.front displayName).length =
          .ok ((Address.nameAddr displayName uri).render, rest) := by
      rw [findCloseAngle, length, written, drop_left, closes]
      dsimp only
      rw [if_neg fun member => (apart 60 member).2.2.1 rfl, take_left, render_nameAddr]
      simp
    simp only [splitAddressAndParameters, located, ok_bind, found, trimmed, parsed]
    rfl
  | addrSpec uri =>
    rw [address] at reparses parsed trimmed
    have reparses : parseUri uri.render = .ok uri := reparses
    obtain ⟨semicolon, question, comma⟩ := plain uri address
    have located := findOpenAngle_bare reparses after
    have stops : ∀ byte ∈ rest.head?, (byte != 59) = false := by
      intro byte head
      rw [starts byte head]
      rfl
    obtain ⟨front, back⟩ := span_front rest
      (fun byte member => by
        rw [bne_iff_ne]
        rintro rfl
        exact semicolon member : ∀ byte ∈ uri.render, (byte != 59) = true) stops
    have filled : uri.render ≠ [] := render_ne_nil_of_reparses reparses
    have bare : (uri.render.findIdx? fun byte => byte == 44 || byte == 63) = none := by
      rw [findIdx?_eq_none_iff]
      intro byte member
      rw [Bool.or_eq_false_iff, beq_eq_false_iff_ne, beq_eq_false_iff_ne]
      constructor <;> rintro rfl <;> contradiction
    rw [Address.render] at parsed trimmed ⊢
    simp only [splitAddressAndParameters, located, ok_bind, front, back, trimmed,
      ensure_of filled, bare, parsed]
    rfl

end To

/-- What the constructors and the parser keep of a value. -/
structure ToHeader.Valid (header : ToHeader) : Prop where
  named : header.address.Named
  made : ∀ parameter ∈ header.parameters, parameter.Made
  apart : header.parameters.Pairwise To.NamedApart
  count : header.parameterCount ≤ maxToParameters

/-- A bare URI that is parsed up to its end. -/
def ToHeader.Plain (header : ToHeader) : Prop := ∀ uri, header.address = .addrSpec uri →
    59 ∉ uri.render ∧ 63 ∉ uri.render ∧ 44 ∉ uri.render

theorem ToHeader.Valid.trim_render (valid : header.Valid)
    (reparses : parseUri header.address.uri.render = .ok header.address.uri) :
    trim header.render = header.render := by
  have written : header.render = header.address.render ++ To.tail header := append_assoc ..
  obtain ⟨starts, ends⟩ := ends_render reparses
  rw [written]
  refine trim_of_ends (fun byte head => starts byte ?_) ?_
  · rwa [head?_append_of_ne_nil _ (render_ne_nil reparses)] at head
  · intro byte last
    rw [getLast?_append] at last
    cases behind : (To.tail header).getLast? with
    | none => exact ends byte (by simpa [behind] using last)
    | some _ => exact (To.clear_tail valid.made).last byte (by simpa [behind] using last)

/-- A value is parsed from its text. -/
theorem To.parse_render (valid : header.Valid) (plain : header.Plain)
    (reparses : parseUri header.address.uri.render = .ok header.address.uri)
    (short : header.render.length ≤ maxToBytes) : To.parse header.render = .ok header := by
  have written : header.render = header.address.render ++ tail header := append_assoc ..
  have filled := render_ne_nil reparses
  have trimmed := valid.trim_render reparses
  have split := splitAddressAndParameters_render valid.made valid.named reparses plain
    (Nat.le_trans (by rw [written, length_append]; omega) short)
  have nonempty : header.render ≠ [] := by simp [written, filled]
  simp only [To.parse, ensure_of short, trimmed, ensure_of nonempty, ok_bind]
  rw [written, split, ok_bind]
  obtain ⟨address, tag, parameters⟩ := header
  cases tag with
  | none =>
    have count : 0 + parameters.length ≤ maxToParameters := by
      simpa [ToHeader.parameterCount] using valid.count
    exact parseParameters_flatMap (ToHeader.new address) valid.made valid.apart
      (by simpa using count) count
  | some tag =>
    have count : parameters.length + 1 ≤ maxToParameters := by
      simpa [ToHeader.parameterCount] using valid.count
    have first := parseParameter_tag address tag
      (parameters.flatMap fun parameter => 59 :: parameter.render) (by
        cases parameters <;> simp)
    have rest := parseParameters_flatMap ⟨address, some tag, []⟩ valid.made valid.apart
      (Nat.le_of_lt_succ (Nat.lt_of_lt_of_le count (by decide)) : parameters.length ≤ 63) (by
        rw [Nat.add_comm]
        exact count)
    have opened (text : Bytes) : trimStart (59 :: text) = 59 :: text :=
      trimStart_of_head (by simp [isWsp])
    have label : wireBytes ";tag=" = 59 :: (wireBytes "tag" ++ [61]) := by decide +kernel
    have name : wireBytes "tag" = [116, 97, 103] := by decide +kernel
    have inside (text : Bytes) :
        trimStart (wireBytes "tag" ++ 61 :: text) = wireBytes "tag" ++ 61 :: text ∧
          wireBytes "tag" ++ 61 :: text ≠ [] := by
      rw [name]
      exact ⟨trimStart_of_head (by simp [isWsp]), by simp⟩
    rw [tail, ToHeader.renderTag, label, parseParameters.eq_def]
    simp only [cons_append, append_assoc, nil_append, opened] at first ⊢
    rw [ensure_of trivial, ok_bind, (inside _).1, ensure_of (inside _).2, ok_bind]
    simp only [maxToParameters]
    rw [first, ok_bind]
    exact rest

theorem mem_trim {byte : UInt8} {text : Bytes} (member : byte ∈ text)
    (solid : isWsp byte = false) : byte ∈ trim text := by
  have kept {text : Bytes} (member : byte ∈ text) : byte ∈ text.dropWhile isWsp := by
    rw [← takeWhile_append_dropWhile (p := isWsp) (l := text)] at member
    refine (mem_append.mp member).resolve_left fun front => ?_
    rw [mem_takeWhile_imp front] at solid
    cases solid
  rw [trim, rdropWhile, mem_reverse]
  exact kept (mem_reverse.mpr (kept member))

/-- A parsed address has a valid name and a URI that was parsed. -/
theorem Address.parse_spec {input : Bytes} {address : Address}
    (parsed : Address.parse input = .ok address) :
    address.Named ∧ ∃ text, parseUri text = .ok address.uri ∧ (∀ byte ∈ text, byte ∈ input) ∧
      ((∃ displayName uri, address = .nameAddr displayName uri) ∨ 62 ∉ trim input) := by
  rw [Address.parse] at parsed
  have parsed := returned_of_refusal (returned_of_refusal parsed)
  obtain ⟨found, -, parsed⟩ := bind_eq_ok.mp parsed
  cases found with
  | none =>
    rw [parseAddrSpec] at parsed
    split_ifs at parsed with closes
    obtain ⟨uri, read, made⟩ := bind_eq_ok.mp parsed
    cases made
    exact ⟨trivial, _, mapError_eq_ok.mp read, fun byte => mem_of_mem_trim, .inr closes⟩
  | some openAt =>
    simp only [parseNameAddr] at parsed
    cases closes : cut 62 ((trim input).drop (openAt + 1)) with
    | none => simp [closes] at parsed
    | some parts =>
      simp only [closes] at parsed
      have parsed := returned_of_refusal (returned_of_refusal (returned_of_refusal parsed))
      obtain ⟨uri, read, made⟩ := bind_eq_ok.mp parsed
      have read := mapError_eq_ok.mp read
      have inside (byte : UInt8) (member : byte ∈ trim parts.1) : byte ∈ input := by
        have front := (cut_eq_some.mp closes).1 ▸ mem_append_left _ (mem_of_mem_trim member)
        exact mem_of_mem_trim (mem_of_mem_drop front)
      split_ifs at made with unnamed
      · cases made
        exact ⟨trivial, _, read, inside, .inl ⟨_, _, rfl⟩⟩
      · obtain ⟨name, named, made⟩ := bind_eq_ok.mp made
        cases made
        refine ⟨?_, _, read, inside, .inl ⟨_, _, rfl⟩⟩
        have fromText {text : Bytes} (read : readDisplayName text = .ok name) :
            DisplayName.new name = .ok name := (readDisplayName_eq_ok.mp read).2
        rw [parseDisplayName] at named
        split_ifs at named with quoted
        · rw [parseQuotedDisplayName] at named
          dsimp only at named
          split_ifs at named with short plain
          · exact fromText (bind_eq_ok.mp named).choose_spec.2
          · exact fromText (bind_eq_ok.mp named).choose_spec.2
        · exact fromText (bind_eq_ok.mp named).choose_spec.2

namespace ToHeader

theorem Valid.new {address : Address} (named : address.Named) : (ToHeader.new address).Valid :=
  ⟨named, nofun, .nil, Nat.zero_le _⟩

theorem Valid.setTag
    {header after : ToHeader} (valid : header.Valid) {tag : String}
    (set : header.setTag tag = .ok after) : after.Valid ∧ after.address = header.address := by
  rw [ToHeader.setTag] at set
  split_ifs at set with nonempty long token full
  cases set
  refine ⟨⟨valid.named, valid.made, valid.apart, ?_⟩, rfl⟩
  have count := valid.count
  rw [parameterCount] at count full ⊢
  cases present : header.tag with
  | none =>
    simp only [present, Option.isNone_none, true_and, Option.isSome_none, Bool.false_eq_true,
      if_false, Nat.not_le] at full
    simpa using Nat.succ_le_of_lt full
  | some _ => simpa [present] using count

theorem Valid.pushParameter
    {header after : ToHeader} (valid : header.Valid) {parameter : ToParameter}
    (made : parameter.Made) (pushed : header.pushParameter parameter = .ok after) :
    after.Valid ∧ after.address = header.address := by
  rw [ToHeader.pushParameter] at pushed
  split_ifs at pushed with full present
  cases pushed
  refine ⟨⟨valid.named, ?_, ?_, ?_⟩, rfl⟩
  · intro other member
    rcases mem_append.mp member with member | member
    · exact valid.made other member
    · rw [mem_singleton.mp member]
      exact made
  · refine pairwise_append.mpr ⟨valid.apart, pairwise_singleton .., ?_⟩
    intro existing member other last
    rw [mem_singleton.mp last]
    simpa [To.NamedApart] using any_eq_false.mp (by simpa using present) existing member
  · rw [parameterCount] at full ⊢
    rw [length_append, length_singleton]
    dsimp only
    omega

end ToHeader

namespace To

variable {input : Bytes} {header : ToHeader}

theorem made_of_parseExtensionParameter
    {name : String} {rest : Bytes} {parameter : ToParameter}
    (parsed : parseExtensionParameter name input = .ok (parameter, rest)) : parameter.Made := by
  rw [parseExtensionParameter] at parsed
  obtain ⟨_, -, parsed⟩ := bind_eq_ok.mp parsed
  split at parsed
  · obtain ⟨_, made, parsed⟩ := bind_eq_ok.mp parsed
    cases parsed
    exact .flag name made
  · split_ifs at parsed with flag
    · obtain ⟨_, made, parsed⟩ := bind_eq_ok.mp parsed
      cases parsed
      exact .flag name made
    · obtain ⟨_, -, parsed⟩ := bind_eq_ok.mp parsed
      split at parsed
      · cases parsed
      · split_ifs at parsed with quoted
        · obtain ⟨⟨value, _⟩, -, parsed⟩ := bind_eq_ok.mp parsed
          obtain ⟨_, -, parsed⟩ := bind_eq_ok.mp parsed
          obtain ⟨_, made, parsed⟩ := bind_eq_ok.mp parsed
          cases parsed
          exact .ofQuoted name value made
        · obtain ⟨_, -, parsed⟩ := bind_eq_ok.mp parsed
          obtain ⟨_, -, parsed⟩ := bind_eq_ok.mp parsed
          split at parsed
          · cases parsed
          · rename_i text _
            obtain ⟨_, made, parsed⟩ := bind_eq_ok.mp parsed
            cases parsed
            exact .unquoted name text made

theorem parseParameter_keeps
    {after : ToHeader} {rest : Bytes} (valid : header.Valid)
    (parsed : parseParameter header input = .ok (after, rest)) :
    after.Valid ∧ after.address = header.address := by
  rw [parseParameter] at parsed
  obtain ⟨⟨name, behind⟩, -, parsed⟩ := bind_eq_ok.mp parsed
  dsimp only at parsed
  split_ifs at parsed with tagged
  · obtain ⟨⟨tag, remaining⟩, -, parsed⟩ := bind_eq_ok.mp parsed
    obtain ⟨_, -, parsed⟩ := bind_eq_ok.mp parsed
    obtain ⟨_, set, parsed⟩ := bind_eq_ok.mp parsed
    cases parsed
    exact valid.setTag set
  · obtain ⟨_, -, parsed⟩ := bind_eq_ok.mp parsed
    obtain ⟨⟨parameter, remaining⟩, read, parsed⟩ := bind_eq_ok.mp parsed
    obtain ⟨_, pushed, parsed⟩ := bind_eq_ok.mp parsed
    cases parsed
    refine valid.pushParameter ?_ pushed
    exact made_of_parseExtensionParameter read

theorem parseParameters_keeps
    {slots : Nat} {after : ToHeader} (valid : header.Valid)
    (parsed : parseParameters slots header input = .ok after) :
    after.Valid ∧ after.address = header.address := by
  induction slots generalizing header input with
  | zero =>
    rw [parseParameters.eq_def] at parsed
    dsimp only at parsed
    split at parsed
    · cases parsed
      exact ⟨valid, rfl⟩
    · obtain ⟨_, -, parsed⟩ := bind_eq_ok.mp parsed
      obtain ⟨_, -, parsed⟩ := bind_eq_ok.mp parsed
      cases parsed
  | succ slots ih =>
    rw [parseParameters.eq_def] at parsed
    dsimp only at parsed
    split at parsed
    · cases parsed
      exact ⟨valid, rfl⟩
    · obtain ⟨_, -, parsed⟩ := bind_eq_ok.mp parsed
      obtain ⟨_, -, parsed⟩ := bind_eq_ok.mp parsed
      obtain ⟨⟨middle, remaining⟩, step, parsed⟩ := bind_eq_ok.mp parsed
      obtain ⟨kept, same⟩ := parseParameter_keeps valid step
      obtain ⟨last, further⟩ := ih kept parsed
      exact ⟨last, further.trans same⟩

/-- What a parsed value is. -/
theorem parse_spec (parsed : To.parse input = .ok header) :
    header.Valid ∧ ∃ text, parseUri text = .ok header.address.uri ∧
      ((findOpenAngle .outside 0 (trim input) ≠ .ok none ∧
          ∃ displayName uri, header.address = .nameAddr displayName uri) ∨
        59 ∉ text ∧ 63 ∉ text ∧ 44 ∉ text) := by
  rw [To.parse] at parsed
  obtain ⟨_, -, parsed⟩ := bind_eq_ok.mp parsed
  obtain ⟨_, -, parsed⟩ := bind_eq_ok.mp parsed
  obtain ⟨⟨address, parameters⟩, split, parsed⟩ := bind_eq_ok.mp parsed
  suffices found : address.Named ∧ ∃ text, parseUri text = .ok address.uri ∧
      ((findOpenAngle .outside 0 (trim input) ≠ .ok none ∧
          ∃ displayName uri, address = .nameAddr displayName uri) ∨
        59 ∉ text ∧ 63 ∉ text ∧ 44 ∉ text) by
    obtain ⟨valid, same⟩ := parseParameters_keeps (.new found.1) parsed
    rw [same]
    exact ⟨valid, found.2⟩
  obtain ⟨opening, located, split⟩ := bind_eq_ok.mp split
  cases opening with
  | some openAt =>
    obtain ⟨⟨before, behind⟩, closes, split⟩ := bind_eq_ok.mp split
    obtain ⟨found, read, split⟩ := bind_eq_ok.mp split
    cases split
    obtain ⟨named, text, parses, -, form⟩ := Address.parse_spec (mapError_eq_ok.mp read)
    refine ⟨named, text, parses, .inl ⟨by simp [located], form.resolve_right fun absent => ?_⟩⟩
    rw [findCloseAngle] at closes
    split at closes
    · cases closes
    · split_ifs at closes
      cases closes
      have solid : isWsp 62 = false := by decide
      exact absent (mem_trim (mem_trim (by simp) solid) solid)
  | none =>
    obtain ⟨_, -, split⟩ := bind_eq_ok.mp split
    cases index : (trim (takeWhile (· != 59) (trim input))).findIdx? fun byte =>
        byte == 44 || byte == 63 with
    | some index => simp [index] at split
    | none =>
      simp only [index] at split
      obtain ⟨found, read, split⟩ := bind_eq_ok.mp split
      cases split
      obtain ⟨named, text, parses, inside, -⟩ := Address.parse_spec (mapError_eq_ok.mp read)
      rw [findIdx?_eq_none_iff] at index
      refine ⟨named, text, parses, .inr ⟨fun member => ?_, fun member => ?_, fun member => ?_⟩⟩
      · cases mem_takeWhile_imp (mem_of_mem_trim (inside 59 member))
      · cases index 63 (inside 63 member)
      · cases index 44 (inside 44 member)

end To

/-- A bare URI has no other bytes of these than its text. -/
theorem plain_of_parseUri
    {text : Bytes} {uri : Uri} (parses : parseUri text = .ok uri)
    (form : 59 ∉ text ∧ 63 ∉ text ∧ 44 ∉ text) :
    59 ∉ uri.render ∧ 63 ∉ uri.render ∧ 44 ∉ uri.render := by
  have absent {byte : UInt8} (class_ : isIpv6Byte byte = false ∧ (byte ≠ 91 ∧ byte ≠ 93) ∧
      isAlphabetic byte = false) (outside : byte ∉ text) : byte ∉ uri.render :=
    fun member => outside (mem_of_mem_renderUri parses class_.1 class_.2.1 class_.2.2 member)
  exact ⟨absent (by decide) form.1, absent (by decide) form.2.1, absent (by decide) form.2.2⟩

theorem uri_render_le (short : header.render.length ≤ maxToBytes) :
    header.address.uri.render.length ≤ maxUriBytes := by
  refine Nat.le_trans ?_ short
  rw [ToHeader.render, length_append, length_append]
  obtain ⟨_ | _, uri⟩ | uri := header.address <;> simp [Address.render, Address.uri] <;> omega

/-- A parsed value is parsed again from its text. -/
theorem To.parse_render_of_parse
    {input : Bytes} {header : ToHeader} (parsed : To.parse input = .ok header)
    (short : header.render.length ≤ maxToBytes) : To.parse header.render = .ok header := by
  obtain ⟨valid, text, parses, form⟩ := To.parse_spec parsed
  refine To.parse_render valid (fun uri address => ?_)
    (parseUri_text parses (uri_render_le short)) short
  obtain ⟨-, _, _, other⟩ | form := form
  · cases address.symm.trans other
  · rw [address] at parses
    exact plain_of_parseUri parses form

/-- A URI with a parameter. -/
def looseUri : SipUri where
  scheme := .sip
  user := some "bob"
  password := none
  host := .ipv4 0x0a000001
  port := none
  parameters := [⟨"lr", none⟩]
  headers := []

/-- A value with a quoted display name, a tag and a quoted parameter. -/
def looseTo : ToHeader where
  address := .nameAddr (some "B") (.sip looseUri)
  tag := some ⟨"t", by decide, by decide, by decide⟩
  parameters := [⟨"x", some ";", true⟩]

theorem To.parse_render_of_parse_looseTo :
    To.parse (wireBytes "B<sip:bob@10.0.0.1;lr>;x=\";\" ;tag=t") = .ok looseTo ∧
      looseTo.render = wireBytes "\"B\" <sip:bob@10.0.0.1;lr>;tag=t;x=\";\"" ∧
      To.parse looseTo.render = .ok looseTo := by
  have parsed : To.parse (wireBytes "B<sip:bob@10.0.0.1;lr>;x=\";\" ;tag=t") = .ok looseTo := by
    decide +kernel
  exact ⟨parsed, by decide +kernel, To.parse_render_of_parse parsed (by decide +kernel)⟩

/-- A value that the public functions can make. -/
inductive ToHeader.Built : ToHeader → Prop
  | new (address : Address) (named : address.Named) : Built (ToHeader.new address)
  | parsed (input : Bytes) (header : ToHeader) (parsed : To.parse input = .ok header) : Built header
  | setAddress (header : ToHeader) (built : Built header) (address : Address)
      (named : address.Named) : Built (header.setAddress address)
  | setTag (header after : ToHeader) (built : Built header) (tag : String)
      (set : header.setTag tag = .ok after) : Built after
  | clearTag (header : ToHeader) (built : Built header) : Built header.clearTag
  | pushParameter (header after : ToHeader) (built : Built header) (parameter : ToParameter)
      (made : parameter.Made) (pushed : header.pushParameter parameter = .ok after) : Built after

theorem ToHeader.Built.valid (built : header.Built) : header.Valid := by
  induction built with
  | new address named => exact .new named
  | parsed input header parsed => exact (To.parse_spec parsed).1
  | setAddress header built address named valid =>
    exact ⟨named, valid.made, valid.apart, valid.count⟩
  | setTag header after built tag set valid => exact (valid.setTag set).1
  | clearTag header built valid =>
    refine ⟨valid.named, valid.made, valid.apart, Nat.le_trans ?_ valid.count⟩
    simp [ToHeader.parameterCount, ToHeader.clearTag]
  | pushParameter header after built parameter made pushed valid =>
    exact (valid.pushParameter made pushed).1

/-- The text of a value is read as its tag, its URI and its parameters. -/
def ToHeader.Faithful (header : ToHeader) : Prop :=
  ∃ parsed, To.parse header.render = .ok parsed ∧ parsed.tag = header.tag ∧
    parsed.address.uri = header.address.uri ∧ parsed.parameters = header.parameters

/-- The text of a value is faithful exactly if the URI is parsed from its text, and stands
between angle brackets or has no byte that ends a bare URI. -/
theorem ToHeader.faithful_iff
    {header : ToHeader} (built : header.Built) (short : header.render.length ≤ maxToBytes) :
    header.Faithful ↔
      parseUri header.address.uri.render = .ok header.address.uri ∧ header.Plain := by
  constructor
  · rintro ⟨parsed, read, -, same, -⟩
    obtain ⟨-, text, parses, form⟩ := To.parse_spec read
    rw [same] at parses
    have reparses := parseUri_text parses (uri_render_le short)
    refine ⟨reparses, fun uri address => ?_⟩
    rw [address] at parses
    refine plain_of_parseUri parses (form.resolve_left fun bracketed => bracketed.1 ?_)
    have after := To.clear_tail built.valid.made
    have written : header.render = header.address.render ++ To.tail header := append_assoc ..
    rw [built.valid.trim_render reparses, written]
    rw [address] at reparses ⊢
    exact To.findOpenAngle_bare reparses after
  · rintro ⟨reparses, plain⟩
    exact ⟨header, To.parse_render built.valid plain reparses short, rfl, rfl, rfl⟩

theorem ToHeader.faithful_iff_looseUri :
    (ToHeader.new (.nameAddr none (.sip looseUri))).Faithful ∧
      ¬(ToHeader.new (.addrSpec (.sip looseUri))).Faithful := by
  have reparses : parseUri (Uri.sip looseUri).render = .ok (.sip looseUri) := by decide +kernel
  constructor
  · exact (ToHeader.faithful_iff (.new (.nameAddr none (.sip looseUri)) trivial)
      (by decide +kernel)).mpr ⟨reparses, by simp [ToHeader.Plain, ToHeader.new]⟩
  · intro faithful
    have plain := ((ToHeader.faithful_iff (.new (.addrSpec (.sip looseUri)) trivial)
      (by decide +kernel)).mp faithful).2
    exact (plain _ rfl).1 (by decide +kernel)

/-- The parameter of a bare URI is read as a parameter of the value. -/
theorem ToHeader.not_faithful_looseUri :
    ¬∀ header : ToHeader, header.Built → header.render.length ≤ maxToBytes → header.Faithful := by
  intro always
  obtain ⟨parsed, read, -, -, parameters⟩ :=
    always (.new (.addrSpec (.sip looseUri))) (.new _ trivial) (by decide +kernel)
  have other : To.parse (ToHeader.new (.addrSpec (.sip looseUri))).render =
      .ok ⟨.addrSpec (.sip { looseUri with parameters := [] }), none, [⟨"lr", none, false⟩]⟩ := by
    decide +kernel
  rw [other] at read
  cases read
  cases parameters

end Sip
end LiveAISIP
