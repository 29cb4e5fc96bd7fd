import LiveAISIP.Sip.UriRoundTrip

/-!
# Reading the text of an IP address

The text that the standard library writes for an IPv4 or IPv6 address is read as
the same address.
-/

namespace LiveAISIP
namespace Sip

open Ascii
open List

variable {values : List Nat} {start length : Nat}

/-- The digits of a number in a radix of at most sixteen. -/
def radixDigits (radix value : Nat) : Bytes :=
  (Nat.toDigits radix value).map fun digit => digit.toNat.toUInt8

/-- The digits of a radix are those that it reads. -/
structure Radix (radix : Nat) : Prop where
  several : 1 < radix
  reads : ∀ digit < radix, digitValue radix (Nat.digitChar digit).toNat.toUInt8 = some digit
  zero : digitValue radix 48 = some 0

theorem radix_ten : Radix 10 := ⟨by decide, by decide, by decide⟩

theorem radix_sixteen : Radix 16 := ⟨by decide, by decide, by decide⟩

namespace Radix

variable {radix : Nat}

theorem digits_eq (valid : Radix radix) (value : Nat) : radixDigits radix value =
      if value < radix then [(Nat.digitChar value).toNat.toUInt8]
      else radixDigits radix (value / radix) ++
        [(Nat.digitChar (value % radix)).toNat.toUInt8] := by
  rw [radixDigits, Nat.toDigits_eq_if valid.several]
  split_ifs
  · rfl
  · rw [map_append, radixDigits]
    rfl

theorem digits_ne_nil (valid : Radix radix) (value : Nat) : radixDigits radix value ≠ [] := by
  rw [valid.digits_eq]
  split_ifs
  · simp
  · simp

/-- Every digit has a value, and all of them together have the value of the number. -/
theorem digits_spec (valid : Radix radix) (value : Nat) :
    (∀ byte ∈ radixDigits radix value, (digitValue radix byte).isSome = true) ∧
      (radixDigits radix value).foldl
        (fun value byte => value * radix + (digitValue radix byte).getD 0) 0 = value := by
  induction value using Nat.strongRecOn with
  | ind value ih =>
    have positive : 0 < radix := Nat.lt_trans Nat.zero_lt_one valid.several
    rw [valid.digits_eq]
    split_ifs with small
    · have read := valid.reads value small
      refine ⟨?_, ?_⟩
      · intro byte member
        rw [mem_singleton.mp member, read]
        rfl
      · rw [foldl_cons, read]
        exact (congrArg (· + value) (Nat.zero_mul radix)).trans (Nat.zero_add value)
    · have large : radix ≤ value := Nat.le_of_not_lt small
      obtain ⟨known, total⟩ := ih (value / radix)
        (Nat.div_lt_self (Nat.lt_of_lt_of_le positive large) valid.several)
      have read := valid.reads (value % radix) (Nat.mod_lt _ positive)
      refine ⟨?_, ?_⟩
      · intro byte member
        rcases mem_append.mp member with front | last
        · exact known byte front
        · rw [mem_singleton.mp last, read]
          rfl
      · rw [foldl_append, total, foldl_cons, read]
        exact Nat.div_add_mod' value radix

/-- Only the number zero begins with the digit zero. -/
theorem eq_zero_of_head
    (valid : Radix radix)
    {value : Nat}
    (first : (radixDigits radix value).head? = some 48) :
    value = 0 := by
  induction value using Nat.strongRecOn with
  | ind value ih =>
    rw [valid.digits_eq] at first
    split_ifs at first with small
    · have read := valid.reads value small
      rw [Option.some.inj first, valid.zero] at read
      exact (Option.some.inj read).symm
    · have large : radix ≤ value := Nat.le_of_not_lt small
      have positive : 0 < radix := Nat.lt_trans Nat.zero_lt_one valid.several
      rw [head?_append_of_ne_nil _ (valid.digits_ne_nil _)] at first
      have zero := ih (value / radix)
        (Nat.div_lt_self (Nat.lt_of_lt_of_le positive large) valid.several) first
      exact absurd (Nat.div_pos large positive) (by omega)

theorem length_digits_le
    (valid : Radix radix)
    {count value : Nat}
    (positive : 0 < count)
    (small : value < radix ^ count) :
    (radixDigits radix value).length ≤ count := by
  rw [radixDigits, length_map]
  exact (Nat.length_toDigits_le_iff valid.several positive).mpr small

/-- The digits of a number are read as the number. -/
theorem readNumber_digits
    (valid : Radix radix) {maxDigits limit value : Nat} (positive : 0 < maxDigits)
    (short : value < radix ^ maxDigits) (below : value < limit)
    (allowZeroPrefix : Bool) {rest : Bytes}
    (stops : ∀ byte ∈ rest.head?, digitValue radix byte = none) :
    readNumber radix maxDigits limit allowZeroPrefix (radixDigits radix value ++ rest) =
      some (value, rest) := by
  obtain ⟨known, total⟩ := valid.digits_spec value
  have nothing : rest.takeWhile (fun byte => (digitValue radix byte).isSome) = [] ∧
      rest.dropWhile (fun byte => (digitValue radix byte).isSome) = rest := by
    cases rest with
    | nil => exact ⟨rfl, rfl⟩
    | cons byte rest =>
      have other : ¬(digitValue radix byte).isSome = true := by
        rw [stops byte rfl]
        simp
      exact ⟨takeWhile_cons_of_neg other, dropWhile_cons_of_neg other⟩
  have taken : (radixDigits radix value ++ rest).takeWhile
      (fun byte => (digitValue radix byte).isSome) = radixDigits radix value := by
    rw [takeWhile_append_of_pos known, nothing.1, append_nil]
  have dropped : (radixDigits radix value ++ rest).dropWhile
      (fun byte => (digitValue radix byte).isSome) = rest := by
    rw [dropWhile_append_of_pos known, nothing.2]
  rw [readNumber]
  rw [taken, dropped, total, if_neg]
  rintro (empty | long | above | ⟨-, zero, several⟩)
  · exact valid.digits_ne_nil value empty
  · exact absurd (valid.length_digits_le positive short) (Nat.not_le_of_lt long)
  · omega
  · rw [valid.eq_zero_of_head zero] at several
    rw [valid.digits_eq, if_pos (Nat.lt_trans Nat.zero_lt_one valid.several)] at several
    exact absurd several (Nat.lt_irrefl 1)

end Radix

theorem readSeparator_zero (separator : UInt8) (inner : Reader α) (input : Bytes) :
    readSeparator separator 0 inner input = inner input := rfl

theorem readSeparator_succ
    (separator : UInt8) (index : Nat) (inner : Reader α) (rest : Bytes) :
    readSeparator separator (index + 1) inner (separator :: rest) = inner rest := by
  rw [readSeparator, if_neg (Nat.succ_ne_zero index), readGivenChar, if_pos rfl]
  rfl

/-- The four octets of an address. -/
def octets (address : BitVec 32) : Nat × Nat × Nat × Nat :=
  (address.toNat / 2 ^ 24 % 256, address.toNat / 2 ^ 16 % 256, address.toNat / 2 ^ 8 % 256,
    address.toNat % 256)

theorem renderIpv4_eq (address : BitVec 32) : renderIpv4 address =
      radixDigits 10 (octets address).1 ++ 46 :: (radixDigits 10 (octets address).2.1 ++ 46 ::
          (radixDigits 10 (octets address).2.2.1 ++ 46 ::
            radixDigits 10 (octets address).2.2.2)) := by
  simp [renderIpv4, joinBytes, intercalate_cons_cons, octets, radixDigits, digits,
    Nat.shiftRight_eq_div_pow]

theorem ofNat_octets (address : BitVec 32) :
    BitVec.ofNat 32 ((octets address).1 * 2 ^ 24 + (octets address).2.1 * 2 ^ 16 +
      (octets address).2.2.1 * 2 ^ 8 + (octets address).2.2.2) = address := by
  have bound := address.isLt
  apply BitVec.eq_of_toNat_eq
  rw [BitVec.toNat_ofNat, octets]
  dsimp only
  omega

/-- The text of an IPv4 address is read as the address. -/
theorem readIpv4Addr_render
    (address : BitVec 32) {rest : Bytes} (stops : ∀ byte ∈ rest.head?, digitValue 10 byte = none) :
    readIpv4Addr (renderIpv4 address ++ rest) = some (address, rest) := by
  have octet (value : Nat) (small : value < 256) {rest : Bytes}
      (stops : ∀ byte ∈ rest.head?, digitValue 10 byte = none) :
      readNumber 10 3 256 false (radixDigits 10 value ++ rest) = some (value, rest) :=
    radix_ten.readNumber_digits (by decide) (by omega) small false stops
  have dot (rest : Bytes) : ∀ byte ∈ (46 :: rest).head?, digitValue 10 byte = none := by
    intro byte first
    rw [← Option.some.inj first]
    decide
  have small (value : Nat) : value % 256 < 256 := Nat.mod_lt _ (by decide)
  rw [renderIpv4_eq, readIpv4Addr]
  simp only [append_assoc, cons_append, readSeparator_zero, readSeparator_succ,
    octet _ (small _) (dot _), octet _ (small _) stops, octets, Option.bind_eq_bind,
    Option.bind_some]
  exact congrArg (fun found => some (found, rest)) (ofNat_octets address)

theorem parseIpv4Addr_render (address : BitVec 32) :
    parseIpv4Addr (renderIpv4 address) = some address := by
  have short (value : Nat) : (radixDigits 10 (value % 256)).length ≤ 3 :=
    radix_ten.length_digits_le (by decide) (Nat.lt_trans (Nat.mod_lt _ (by decide)) (by decide))
  have length : (renderIpv4 address).length ≤ 15 := by
    have first := short (address.toNat / 2 ^ 24)
    have second := short (address.toNat / 2 ^ 16)
    have third := short (address.toNat / 2 ^ 8)
    have fourth := short address.toNat
    rw [renderIpv4_eq, octets]
    simp only [length_append, length_cons]
    omega
  have read := @readIpv4Addr_render address [] (by simp)
  rw [append_nil] at read
  rw [parseIpv4Addr, if_neg (Nat.not_lt_of_le length), parseWith, read]

theorem readNumber_of_head
    {radix : Nat} {input : Bytes} (maxDigits limit : Nat) (allowZeroPrefix : Bool)
    (other : ∀ byte ∈ input.head?, digitValue radix byte = none) :
    readNumber radix maxDigits limit allowZeroPrefix input = none := by
  have nothing : input.takeWhile (fun byte => (digitValue radix byte).isSome) = [] := by
    cases input with
    | nil => rfl
    | cons byte input =>
      apply takeWhile_cons_of_neg
      rw [other byte rfl]
      simp
  rw [readNumber, nothing, if_pos (.inl rfl)]

theorem readIpv4Addr_of_head
    {input : Bytes} (other : ∀ byte ∈ input.head?, digitValue 10 byte = none) :
    readIpv4Addr input = none := by
  rw [readIpv4Addr]
  simp only [readSeparator_zero, readNumber_of_head 3 256 false other]
  rfl

/-- A text without dots has no IPv4 address. -/
theorem readIpv4Addr_of_plain {input : Bytes} (plain : 46 ∉ input) :
    readIpv4Addr input = none := by
  rw [readIpv4Addr]
  simp only [readSeparator_zero]
  cases read : readNumber 10 3 256 false input with
  | none => rfl
  | some found =>
    obtain ⟨first, rest⟩ := found
    have kept : rest = input.dropWhile fun byte => (digitValue 10 byte).isSome := by
      rw [readNumber] at read
      split at read
      · cases read
      · exact (congrArg Prod.snd (Option.some.inj read)).symm
    have absent : 46 ∉ rest := by
      rw [kept]
      exact fun member => plain ((dropWhile_sublist _).subset member)
    have stopped : readSeparator 46 1 (readNumber 10 3 256 false) rest = none := by
      cases rest with
      | nil => rfl
      | cons byte rest =>
        have other : byte ≠ 46 := fun same => absent (same ▸ mem_cons_self ..)
        rw [readSeparator, if_neg Nat.one_ne_zero, readGivenChar, if_neg other]
        rfl
    simp only [Option.bind_eq_bind, Option.bind_some, stopped, Option.bind_none]

/-- Nothing of a further group follows: the end, or two colons. -/
def EndsGroups (rest : Bytes) : Prop := rest = [] ∨ ∃ tail, rest = 58 :: 58 :: tail

theorem readGroups_of_ends
    {rest : Bytes} (ends : EndsGroups rest) (index slots : Nat) :
    readGroups index slots rest = ([], false, rest) := by
  have stopped {α : Type} (inner : Reader α) (empty : inner [] = none)
      (colon : ∀ tail, inner (58 :: tail) = none) :
      readSeparator 58 index inner rest = none := by
    obtain rfl | ⟨tail, rfl⟩ := ends
    · cases index with
      | zero => exact empty
      | succ index => rfl
    · cases index with
      | zero => exact colon _
      | succ index =>
        rw [readSeparator_succ]
        exact colon tail
  have address := stopped readIpv4Addr (readIpv4Addr_of_head nofun)
    (fun tail => readIpv4Addr_of_head fun byte first => by
      rw [← Option.some.inj first]
      decide)
  have group := stopped (readNumber 16 4 65536 true) (readNumber_of_head 4 65536 true nofun)
    (fun tail => readNumber_of_head 4 65536 true fun byte first => by
      rw [← Option.some.inj first]
      decide)
  cases slots with
  | zero => rfl
  | succ slots =>
    rw [readGroups, address, group, ite_self]

/-- Groups with a colon before each but the first group of all. -/
def groupsText (index : Nat) (values : List Nat) : Bytes :=
  if index = 0 then renderSegments values
  else values.flatMap fun value => 58 :: radixDigits 16 value

theorem groupsText_cons (index value : Nat) (values : List Nat) :
    groupsText index (value :: values) = (if index = 0 then [] else [58]) ++
        (radixDigits 16 value ++ groupsText (index + 1) values) := by
  have later : groupsText (index + 1) values =
      values.flatMap fun value => 58 :: radixDigits 16 value :=
    if_neg (Nat.succ_ne_zero index)
  rw [later, groupsText]
  split_ifs
  · rw [renderSegments, joinBytes, map_cons, nil_append]
    cases values with
    | nil => simp [hexDigits, radixDigits]
    | cons next values =>
      rw [map_cons, intercalate_cons_cons]
      have separated := @flatMap_separated 58 ((next :: values).map hexDigits) (by simp)
      rw [flatMap_map, joinBytes, map_cons] at separated
      rw [append_assoc, singleton_append, ← separated]
      rfl
  · rfl

/-- Groups are read as their values. -/
theorem readGroups_render (small : ∀ value ∈ values, value < 65536)
    {rest : Bytes} (ends : EndsGroups rest) (index : Nat) {slots : Nat}
    (fits : values.length ≤ slots) (plain : 46 ∉ groupsText index values ++ rest) :
    readGroups index slots (groupsText index values ++ rest) = (values, false, rest) := by
  induction values generalizing index slots with
  | nil =>
    have empty : groupsText index [] = [] := by
      rw [groupsText]
      split_ifs
      · rfl
      · rfl
    rw [empty, nil_append]
    exact readGroups_of_ends ends index slots
  | cons value values ih =>
    obtain ⟨slots, rfl⟩ := Nat.exists_eq_add_of_le' (Nat.lt_of_lt_of_le (Nat.succ_pos _) fits)
    have address : readSeparator 58 index readIpv4Addr
        (groupsText index (value :: values) ++ rest) = none := by
      cases index with
      | zero => exact readIpv4Addr_of_plain plain
      | succ index =>
        rw [groupsText_cons, if_neg (Nat.succ_ne_zero index)] at plain ⊢
        rw [append_assoc, singleton_append] at plain ⊢
        rw [readSeparator_succ]
        exact readIpv4Addr_of_plain fun member => plain (mem_cons_of_mem _ member)
    have stops : ∀ byte ∈ (groupsText (index + 1) values ++ rest).head?,
        digitValue 16 byte = none := by
      intro byte first
      have colon : byte = 58 := by
        cases values with
        | nil =>
          obtain rfl | ⟨tail, rfl⟩ := ends
          · cases first
          · exact (Option.some.inj first).symm
        | cons next values =>
          rw [groupsText_cons, if_neg (Nat.succ_ne_zero index)] at first
          exact (Option.some.inj first).symm
      rw [colon]
      decide
    have group := small value (mem_cons_self ..)
    have read : readNumber 16 4 65536 true (radixDigits 16 value ++ _) = some (value, _) :=
      radix_sixteen.readNumber_digits (by decide) group group true stops
    have group : readSeparator 58 index (readNumber 16 4 65536 true)
        (groupsText index (value :: values) ++ rest) =
          some (value, groupsText (index + 1) values ++ rest) := by
      rw [groupsText_cons, append_assoc, append_assoc]
      cases index with
      | zero => exact read
      | succ index =>
        rw [if_neg (Nat.succ_ne_zero index), singleton_append, readSeparator_succ]
        exact read
    have later := ih (fun other member => small other (mem_cons_of_mem _ member)) (index + 1)
      (Nat.le_of_succ_le_succ fits) (by
        intro member
        apply plain
        rw [groupsText_cons, append_assoc, append_assoc]
        exact mem_append_right _ (mem_append_right _ member))
    rw [readGroups, address, group, ite_self]
    simp only [later]

theorem length_segments (address : BitVec 128) : (segments address).length = 8 := rfl

theorem segments_lt (address : BitVec 128) : ∀ value ∈ segments address, value < 65536 := by
  intro value member
  obtain ⟨shift, -, rfl⟩ := mem_map.mp member
  exact Nat.mod_lt _ (by decide)

/-- The segments of an address are its digits to the base of 65536. -/
theorem ofGroups_segments (address : BitVec 128) : ofGroups (segments address) = address := by
  have bound := address.isLt
  apply BitVec.eq_of_toNat_eq
  simp only [ofGroups, segments, map_cons, map_nil, foldl_cons, foldl_nil,
    BitVec.toNat_ushiftRight, Nat.shiftRight_eq_div_pow, BitVec.toNat_ofNat]
  omega

/-- The run that is left out has zeros only. -/
structure ZeroRun (values : List Nat) (start length : Nat) : Prop where
  inside : start + length ≤ values.length
  zeros : ∀ index, start ≤ index → index < start + length → values[index]? = some 0

theorem ZeroRun.split (run : ZeroRun values start length) :
    values.take start ++ replicate length 0 ++ values.drop (start + length) = values := by
  have middle : (values.drop start).take length = replicate length 0 := by
    apply ext_getElem?
    intro index
    rw [getElem?_take, getElem?_drop, getElem?_replicate]
    split_ifs with below
    · exact run.zeros _ (Nat.le_add_right ..) (Nat.add_lt_add_left below _)
    · rfl
  rw [← middle, append_assoc, ← drop_drop, take_append_drop, take_append_drop]

theorem ZeroRun.concat (run : ZeroRun values start length)
    (value : Nat) : ZeroRun (values ++ [value]) start length where
  inside := by
    rw [length_append]
    exact Nat.le_add_right_of_le run.inside
  zeros := by
    intro index above below
    rw [getElem?_append_left (Nat.lt_of_lt_of_le below run.inside)]
    exact run.zeros index above below

/-- A run that reaches the end grows with a further zero. -/
theorem ZeroRun.grow (run : ZeroRun values start length)
    (reaches : start + length = values.length) :
    ZeroRun (values ++ [0]) start (length + 1) where
  inside := by
    rw [length_append, ← reaches]
    exact Nat.le_refl _
  zeros := by
    intro index above below
    by_cases last : index = values.length
    · rw [last, getElem?_concat_length]
    · have inside : index < start + length := by omega
      rw [getElem?_append_left (by omega)]
      exact run.zeros index above inside

/-- The longest run so far and the current one, after one more value. -/
def zeroRunStep (runs : (Nat × Nat) × (Nat × Nat)) (entry : Nat × Nat) :
    (Nat × Nat) × (Nat × Nat) :=
  let (longest, current) := runs
  if entry.1 = 0 then
    let current := if current.2 = 0 then (entry.2, 1) else (current.1, current.2 + 1)
    (if longest.2 < current.2 then current else longest, current)
  else
    (longest, (0, 0))

/-- The longest run is one of zeros. -/
theorem longestZeroRun_zeroRun (values : List Nat) :
    ZeroRun values (longestZeroRun values).1 (longestZeroRun values).2 := by
  have empty (values : List Nat) : ZeroRun values 0 0 := ⟨Nat.zero_le _, by omega⟩
  have scanned : ∀ values : List Nat,
      let runs := values.zipIdx.foldl zeroRunStep ((0, 0), (0, 0))
      ZeroRun values runs.1.1 runs.1.2 ∧ ZeroRun values runs.2.1 runs.2.2 ∧
        (runs.2.2 = 0 ∨ runs.2.1 + runs.2.2 = values.length) := by
    intro values
    induction values using reverseRecOn with
    | nil => exact ⟨empty [], empty [], .inl rfl⟩
    | append_singleton values value ih =>
      rw [zipIdx_append, foldl_append, Nat.zero_add]
      generalize values.zipIdx.foldl zeroRunStep ((0, 0), (0, 0)) = runs at ih ⊢
      obtain ⟨⟨longestStart, longestLength⟩, ⟨start, length⟩⟩ := runs
      obtain ⟨longest, current, reaches⟩ := ih
      dsimp only at longest current reaches
      simp only [zipIdx_singleton, foldl_cons, foldl_nil, zeroRunStep]
      by_cases zero : value = 0
      · subst zero
        rw [if_pos rfl]
        have grown : ∃ next : Nat × Nat,
            (if length = 0 then (values.length, 1) else (start, length + 1)) = next ∧
              ZeroRun (values ++ [0]) next.1 next.2 ∧ next.1 + next.2 = (values ++ [0]).length := by
          rw [length_append]
          split_ifs with fresh
          · have single : ZeroRun values values.length 0 := ⟨Nat.le_refl _, by omega⟩
            exact ⟨_, rfl, single.grow rfl, rfl⟩
          · have reaches := reaches.resolve_left fresh
            exact ⟨_, rfl, current.grow reaches, by
              rw [← reaches]
              rfl⟩
        obtain ⟨next, same, run, ends⟩ := grown
        rw [same]
        refine ⟨?_, run, .inr ends⟩
        dsimp only
        split_ifs
        · exact run
        · exact longest.concat 0
      · rw [if_neg zero]
        exact ⟨longest.concat value, empty _, .inl rfl⟩
  exact (scanned values).1

/-- Segments are written without dots. -/
theorem not_dot_renderSegments (values : List Nat) : 46 ∉ renderSegments values := by
  have others : (renderSegments values).all (· != 46) = true := by
    rw [renderSegments, all_joinBytes (by decide), all_map]
    exact all_eq_true.mpr fun value _ => all_hexDigits_of (by decide) value
  intro member
  have other := all_eq_true.mp others 46 member
  cases other

/-- Groups around two colons are read as the segments. -/
theorem readIpv6Addr_split
    (small : ∀ value ∈ values, value < 65536)
    (full : values.length = 8)
    (run : ZeroRun values start length)
    (several : 1 < length) :
    readIpv6Addr (renderSegments (values.take start) ++ (58 :: 58 ::
      renderSegments (values.drop (start + length)))) = some (ofGroups values, []) := by
  have inside := run.inside
  have taken : (values.take start).length = start := length_take_of_le (by omega)
  have dropped : (values.drop (start + length)).length = 8 - (start + length) := by
    rw [length_drop, full]
  have head : readGroups 0 8 (groupsText 0 (values.take start) ++ (58 :: 58 ::
      renderSegments (values.drop (start + length)))) = (values.take start, false, _) :=
    readGroups_render (fun value member => small value (mem_of_mem_take member))
      (.inr ⟨_, rfl⟩) 0 (by omega) (by simp [groupsText, not_dot_renderSegments])
  have tail : readGroups 0 (8 - (start + 1)) (groupsText 0 (values.drop (start + length)) ++
      []) = (values.drop (start + length), false, []) :=
    readGroups_render (fun value member => small value (mem_of_mem_drop member))
      (.inl rfl) 0 (by omega) (by simp [groupsText, not_dot_renderSegments])
  rw [groupsText, if_pos rfl] at head tail
  rw [append_nil] at tail
  rw [readIpv6Addr, head]
  dsimp only
  rw [taken, if_neg (by omega), if_neg Bool.false_ne_true]
  simp only [readGivenChar, if_true, Option.bind_eq_bind, Option.bind_some, tail, dropped]
  rw [show 8 - start - (8 - (start + length)) = length by omega, run.split]
  rfl

/-- An IPv4-mapped address is read from its IPv4 text. -/
theorem readIpv6Addr_mapped (address : BitVec 32) :
    readIpv6Addr (wireBytes "::ffff:" ++ renderIpv4 address) =
      some (ofGroups [0, 0, 0, 0, 0, 65535, address.toNat / 65536, address.toNat % 65536], []) := by
  have front : wireBytes "::ffff:" ++ renderIpv4 address =
      58 :: 58 :: (radixDigits 16 65535 ++ 58 :: renderIpv4 address) := by
    rw [show wireBytes "::ffff:" = [58, 58, 102, 102, 102, 102, 58] by decide +kernel,
      show radixDigits 16 65535 = [102, 102, 102, 102] by decide]
    rfl
  have colon (rest : Bytes) : ∀ byte ∈ (58 :: rest).head?, digitValue 16 byte = none := by
    intro byte first
    rw [← Option.some.inj first]
    decide
  have group : readNumber 16 4 65536 true (radixDigits 16 65535 ++ 58 :: renderIpv4 address) =
      some (65535, 58 :: renderIpv4 address) :=
    radix_sixteen.readNumber_digits (by decide) (by decide) (by decide) true
      (colon (renderIpv4 address))
  have undotted : readIpv4Addr (radixDigits 16 65535 ++ 58 :: renderIpv4 address) = none := by
    apply readIpv4Addr_of_head
    intro byte first
    rw [show radixDigits 16 65535 = [102, 102, 102, 102] by decide] at first
    rw [← Option.some.inj first]
    decide
  have embedded := @readIpv4Addr_render address [] (by simp)
  rw [append_nil] at embedded
  have tail : readGroups 0 7 (radixDigits 16 65535 ++ 58 :: renderIpv4 address) =
      ([65535, address.toNat / 65536, address.toNat % 65536], true, []) := by
    rw [readGroups, readSeparator_zero, readSeparator_zero, undotted, group, ite_self]
    simp only [readGroups, readSeparator_succ, embedded, Nat.succ_ne_zero]
    rfl
  rw [front, readIpv6Addr, readGroups_of_ends (.inr ⟨_, rfl⟩)]
  dsimp only
  rw [if_neg (by decide), if_neg Bool.false_ne_true]
  simp only [readGivenChar, if_true, Option.bind_eq_bind, Option.bind_some, length_nil]
  rw [show 8 - (0 + 1) = 7 by decide, tail]
  rfl

/-- The text of an IPv6 address is read as the address. -/
theorem parseIpv6Addr_render (address : BitVec 128) :
    parseIpv6Addr (renderIpv6 address) = some address := by
  have read : readIpv6Addr (renderIpv6 address) = some (address, []) := by
    rw [renderIpv6]
    dsimp only
    split_ifs with mapped several
    · have high : (address.setWidth 32).toNat / 65536 = (address >>> 16).toNat % 65536 := by
        rw [BitVec.toNat_setWidth, BitVec.toNat_ushiftRight, Nat.shiftRight_eq_div_pow]
        omega
      have low : (address.setWidth 32).toNat % 65536 = (address >>> 0).toNat % 65536 := by
        rw [BitVec.toNat_setWidth, BitVec.toNat_ushiftRight, Nat.shiftRight_eq_div_pow]
        omega
      have whole : [0, 0, 0, 0, 0, 65535] ++
          [(address >>> 16).toNat % 65536, (address >>> 0).toNat % 65536] = segments address := by
        rw [← mapped]
        rfl
      rw [readIpv6Addr_mapped, high, low]
      exact congrArg (fun found => some (found, []))
        ((congrArg ofGroups whole).trans (ofGroups_segments address))
    · rw [show wireBytes "::" = [58, 58] by decide +kernel, append_assoc]
      have split := readIpv6Addr_split (segments_lt address) (length_segments address)
        (longestZeroRun_zeroRun (segments address)) several
      rw [ofGroups_segments] at split
      exact split
    · have whole : readGroups 0 8 (groupsText 0 (segments address) ++ []) =
          (segments address, false, []) :=
        readGroups_render (segments_lt address) (.inl rfl) 0
          (by rw [length_segments]) (by simp [groupsText, not_dot_renderSegments])
      rw [groupsText, if_pos rfl, append_nil] at whole
      rw [readIpv6Addr, whole]
      dsimp only
      rw [if_pos (length_segments address), ofGroups_segments]
      rfl
  rw [parseIpv6Addr, parseWith, read]

/-- The text of a host is read as the host. -/
theorem Host.reparses (host : Host) : host.Reparses := by
  cases host with
  | domain name => trivial
  | ipv4 address => exact parseIpv4Addr_render address
  | ipv6 address => exact parseIpv6Addr_render address

end Sip
end LiveAISIP
