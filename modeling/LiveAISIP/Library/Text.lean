import Mathlib.Data.List.Basic
import Mathlib.Data.List.TakeWhile

/-!
# Texts as bytes

Byte lists that are UTF-8 texts, and lists cut at the first occurrence of a
separator.
-/

namespace LiveAISIP
namespace Text

open List String

theorem toList_loop (bytes : ByteArray) (index : Nat) (read : List UInt8) :
    ByteArray.toList.loop bytes index read = read.reverse ++ bytes.data.toList.drop index := by
  fun_induction ByteArray.toList.loop bytes index read with
  | case1 index read inside ih =>
    have member : index < bytes.data.toList.length := inside
    rw [ih, drop_eq_getElem_cons member]
    simp [ByteArray.get!, inside, getElem!_pos]
  | case2 index read outside =>
    have past : bytes.data.toList.length ≤ index := Nat.le_of_not_lt outside
    rw [drop_eq_nil_of_le past, append_nil]

/-- The list of the bytes of an array. -/
theorem toList_eq (bytes : ByteArray) : bytes.toList = bytes.data.toList := by
  rw [ByteArray.toList, toList_loop]
  simp

/-- The text whose UTF-8 form the bytes are. -/
def fromUtf8 (bytes : List UInt8) : Option String := fromUTF8? bytes.toByteArray

/-- The UTF-8 form of a text is read as the text. -/
theorem fromUtf8_toUTF8 (text : String) : fromUtf8 text.toUTF8.toList = some text := by
  have same : text.toUTF8.toList.toByteArray = text.toByteArray := by
    apply ByteArray.ext
    rw [toList_eq, data_toByteArray]
    simp
  rw [fromUtf8, same, fromUTF8?, dif_pos text.isValidUTF8]
  rfl

/-- Bytes that are read as a text are its UTF-8 form. -/
theorem toUTF8_of_fromUtf8
    {bytes : List UInt8} {text : String} (read : fromUtf8 bytes = some text) :
    text.toUTF8.toList = bytes := by
  rw [fromUtf8, fromUTF8?] at read
  split_ifs at read with valid
  cases read
  rw [toList_eq]
  exact toList_data_toByteArray

/-- ASCII bytes are a text. -/
theorem fromUtf8_of_ascii
    {bytes : List UInt8} (ascii : ∀ byte ∈ bytes, byte < 128) :
    ∃ text, fromUtf8 bytes = some text := by
  have encodes (byte : UInt8) (small : byte < 128) :
      utf8EncodeChar (Char.ofNat byte.toNat) = [byte] := by
    have checked : ∀ code : Fin 128, utf8EncodeChar (Char.ofNat code.val) = [code.val.toUInt8] := by
      decide
    simpa using checked ⟨byte.toNat, small⟩
  have whole : (ofList (bytes.map fun byte =>
      Char.ofNat byte.toNat)).toUTF8.toList = bytes := by
    rw [toList_eq, toUTF8_eq_toByteArray, toByteArray_ofList,
      utf8Encode, toList_data_toByteArray, flatMap_map]
    calc
      bytes.flatMap (fun byte => utf8EncodeChar (Char.ofNat byte.toNat)) =
          bytes.flatMap (fun byte => [byte]) :=
        flatMap_congr fun byte member => encodes byte (ascii byte member)
      _ = bytes := by simp
  exact ⟨_, whole ▸ fromUtf8_toUTF8 _⟩

/-- The UTF-8 form of a list of characters. -/
def encode (chars : List Char) : List UInt8 := chars.flatMap utf8EncodeChar

theorem toUTF8_ofList (chars : List Char) :
    (ofList chars).toUTF8.toList = encode chars := by
  rw [toList_eq, toUTF8_eq_toByteArray, toByteArray_ofList, utf8Encode,
    toList_data_toByteArray, encode]

theorem toUTF8_eq_encode (text : String) : text.toUTF8.toList = encode text.toList := by
  rw [← toUTF8_ofList, ofList_toList]

theorem fromUtf8_encode (chars : List Char) :
    fromUtf8 (encode chars) = some (ofList chars) := by
  rw [← toUTF8_ofList, fromUtf8_toUTF8]

/-- An ASCII character is one byte. -/
theorem encodeChar_of_ascii {char : Char} (ascii : char.toNat < 128) :
    utf8EncodeChar char = [char.toNat.toUInt8] := by
  rw [utf8EncodeChar]
  exact if_pos (Nat.le_of_lt_succ ascii)

/-- All other characters have no ASCII bytes. -/
theorem le_of_mem_encodeChar
    {char : Char} (other : 128 ≤ char.toNat) {byte : UInt8}
    (member : byte ∈ utf8EncodeChar char) : 128 ≤ byte := by
  have above (part base : Nat) (low : 128 ≤ base) (high : part + base < 256) :
      128 ≤ UInt8.ofNat (part + base) := by
    rw [UInt8.le_iff_toNat_le, UInt8.toNat_ofNat_of_lt' high]
    exact Nat.le_add_left_of_le low
  have notAscii : ¬char.val.toNat ≤ 0x7f := Nat.not_le_of_lt other
  have bound : char.val.toNat < 1114112 := by
    rcases char.valid with low | ⟨-, high⟩
    · exact Nat.lt_trans low (by decide)
    · exact high
  rw [utf8EncodeChar] at member
  simp only [if_neg notAscii] at member
  split_ifs at member
  · simp only [mem_cons, not_mem_nil, or_false] at member
    rcases member with rfl | rfl
    · exact above _ 0xc0 (by decide) (by omega)
    · exact above _ 0x80 (by decide) (by omega)
  · simp only [mem_cons, not_mem_nil, or_false] at member
    rcases member with rfl | rfl | rfl
    · exact above _ 0xe0 (by decide) (by omega)
    · exact above _ 0x80 (by decide) (by omega)
    · exact above _ 0x80 (by decide) (by omega)
  · simp only [mem_cons, not_mem_nil, or_false] at member
    rcases member with rfl | rfl | rfl | rfl
    · exact above _ 0xf0 (by decide) (by omega)
    · exact above _ 0x80 (by decide) (by omega)
    · exact above _ 0x80 (by decide) (by omega)
    · exact above _ 0x80 (by decide) (by omega)

/-- An ASCII byte of a text is one of its characters. -/
theorem exists_of_mem_encode
    {chars : List Char} {byte : UInt8} (member : byte ∈ encode chars) (ascii : byte < 128) :
    ∃ char ∈ chars, char.toNat = byte.toNat := by
  obtain ⟨char, inside, written⟩ := mem_flatMap.mp member
  by_cases single : char.toNat < 128
  · rw [encodeChar_of_ascii single] at written
    refine ⟨char, inside, ?_⟩
    rw [mem_singleton.mp written]
    exact (UInt8.toNat_ofNat_of_lt' (Nat.lt_trans single (by decide))).symm
  · have above := le_of_mem_encodeChar (Nat.le_of_not_lt single) written
    exact absurd ascii (UInt8.not_lt.mpr above)

/-- A front whose bytes belong to a class, before a byte that does not, is
what is taken of the class. -/
theorem span_front
    {class_ : α → Bool} {front : List α} (rest : List α)
    (inside : ∀ item ∈ front, class_ item = true)
    (stops : ∀ item ∈ rest.head?, class_ item = false) :
    (front ++ rest).takeWhile class_ = front ∧ (front ++ rest).dropWhile class_ = rest := by
  rw [takeWhile_append_of_pos inside, dropWhile_append_of_pos inside]
  cases rest with
  | nil => exact ⟨append_nil _, rfl⟩
  | cons item rest =>
    have stopped : ¬class_ item = true := by simp [stops item (by simp)]
    rw [takeWhile_cons_of_neg stopped, dropWhile_cons_of_neg stopped]
    exact ⟨append_nil _, rfl⟩

section Cut

variable {α : Type} [DecidableEq α]

/-- What stands before and after the first occurrence of a separator. -/
def cut (separator : α) : List α → Option (List α × List α)
  | [] => none
  | item :: items =>
    if item = separator then some ([], items)
    else (cut separator items).map fun parts => (item :: parts.1, parts.2)

theorem cut_eq_none {separator : α} {items : List α} :
    cut separator items = none ↔ separator ∉ items := by
  induction items with
  | nil => simp [cut]
  | cons item items ih =>
    rw [cut]
    split_ifs with found
    · simp [found]
    · simp [ih, Ne.symm found]

theorem cut_eq_some {separator : α} {items before after : List α} :
    cut separator items = some (before, after) ↔
      items = before ++ separator :: after ∧ separator ∉ before := by
  induction items generalizing before with
  | nil => simp [cut]
  | cons item items ih =>
    rw [cut]
    split_ifs with found
    · subst found
      constructor
      · intro same
        cases same
        exact ⟨rfl, not_mem_nil⟩
      · rintro ⟨same, absent⟩
        cases before with
        | nil =>
          cases same
          rfl
        | cons first before =>
          cases same
          simp at absent
    · rw [Option.map_eq_some_iff]
      constructor
      · rintro ⟨⟨front, rest⟩, split, same⟩
        cases same
        obtain ⟨rfl, absent⟩ := ih.mp split
        exact ⟨rfl, by simp [absent, Ne.symm found]⟩
      · rintro ⟨same, absent⟩
        cases before with
        | nil =>
          cases same
          exact absurd rfl found
        | cons first before =>
          cases same
          exact ⟨(before, after), ih.mpr
            ⟨rfl, fun member => absent (mem_cons_of_mem _ member)⟩, rfl⟩

/-- What is split off first stands before the first separator. -/
theorem exists_of_splitOn
    {separator : α} {items first second : List α} {rest : List (List α)}
    (split : items.splitOn separator = first :: second :: rest) :
    ∃ after, items = first ++ separator :: after ∧ separator ∉ first ∧
      after.splitOn separator = second :: rest := by
  cases found : cut separator items with
  | none =>
    rw [splitOn_eq_singleton (cut_eq_none.mp found)] at split
    cases split
  | some parts =>
    obtain ⟨before, after⟩ := parts
    obtain ⟨rfl, absent⟩ := cut_eq_some.mp found
    rw [splitOn_append_cons_self_of_not_mem absent] at split
    obtain ⟨rfl, remaining⟩ := cons.inj split
    exact ⟨after, rfl, absent, remaining⟩

end Cut

end Text
end LiveAISIP
