import LiveAISIP.Library.Ascii
import Mathlib.Data.List.DropRight

/-!
# Quoted strings

Texts that hold quoted strings: where a scan stands with respect to the
quotation marks, the pieces of a text between separators outside of quoted
strings, the escaping of a value, and the trimming of white space.
-/

namespace LiveAISIP
namespace Quoted

open Ascii
open List

variable {separator byte : UInt8} {text value : List UInt8}

/-- Where a scan stands with respect to quoted strings. -/
inductive Quoting
  | outside
  | inside
  | escaped
  deriving DecidableEq

variable {quoting : Quoting}

/-- Where the scan stands after one byte; a line break does not stand in a
quoted string. -/
def Quoting.next : Quoting → UInt8 → Option Quoting
  | .outside, byte => some (if byte = 34 then .inside else .outside)
  | .inside, byte =>
    if byte = 92 then some .escaped
    else if byte = 34 then some .outside
    else if byte = 13 ∨ byte = 10 then none
    else some .inside
  | .escaped, byte => if byte = 13 ∨ byte = 10 then none else some .inside

/-- Add a byte to the first piece. -/
def extend (byte : UInt8) : List (List UInt8) → List (List UInt8)
  | [] => [[byte]]
  | piece :: pieces => (byte :: piece) :: pieces

/-- The pieces between the separators outside of quoted strings, where all
quoted strings are closed. -/
def pieces (separator : UInt8) : Quoting → List UInt8 → Option (List (List UInt8))
  | quoting, [] => if quoting = .outside then some [[]] else none
  | quoting, byte :: input =>
    if quoting = .outside ∧ byte = separator then
      (pieces separator .outside input).map ([] :: ·)
    else
      (quoting.next byte).bind fun quoting =>
        (pieces separator quoting input).map (extend byte)

theorem extend_ne_nil (byte : UInt8) (input : List (List UInt8)) :
    extend byte input ≠ [] := by
  cases input <;> simp [extend]

theorem pieces_ne_nil {input : List UInt8} {found : List (List UInt8)}
    (split : pieces separator quoting input = some found) :
    found ≠ [] := by
  cases input with
  | nil =>
    simp only [pieces] at split
    split_ifs at split
    cases split
    simp
  | cons byte input =>
    rw [pieces] at split
    split_ifs at split
    · obtain ⟨rest, -, rfl⟩ := Option.map_eq_some_iff.mp split
      simp
    · obtain ⟨quoting, -, rest⟩ := Option.bind_eq_some_iff.mp split
      obtain ⟨pieces, -, rfl⟩ := Option.map_eq_some_iff.mp rest
      exact extend_ne_nil _ _

theorem extend_append
    {first : List (List UInt8)} (nonempty : first ≠ []) (byte : UInt8)
    (second : List (List UInt8)) :
    extend byte (first ++ second) = extend byte first ++ second := by
  cases first with
  | nil => exact absurd rfl nonempty
  | cons piece first => rfl

/-- A separator outside of quoted strings ends the pieces before it. -/
theorem pieces_append_separator {first second : List UInt8}
    {before after : List (List UInt8)} (left : pieces separator quoting first = some before)
    (right : pieces separator .outside second = some after) :
    pieces separator quoting (first ++ separator :: second) = some (before ++ after) := by
  induction first generalizing quoting before with
  | nil =>
    simp only [pieces] at left
    split_ifs at left with outside
    cases left
    simp [pieces, outside, right]
  | cons byte first ih =>
    rw [pieces] at left
    rw [cons_append, pieces]
    split_ifs at left ⊢ with found
    · obtain ⟨rest, split, rfl⟩ := Option.map_eq_some_iff.mp left
      rw [ih split]
      rfl
    · obtain ⟨quoting, next, left⟩ := Option.bind_eq_some_iff.mp left
      obtain ⟨rest, split, rfl⟩ := Option.map_eq_some_iff.mp left
      rw [next, Option.bind_some, ih split, Option.map_some, extend_append (pieces_ne_nil split)]

/-- Where the scan stands after a text that has no separator outside of quoted
strings. -/
def walk (separator : UInt8) : Quoting → List UInt8 → Option Quoting
  | quoting, [] => some quoting
  | quoting, byte :: input =>
    if quoting = .outside ∧ byte = separator then none
    else (quoting.next byte).bind fun quoting => walk separator quoting input

/-- All quoted strings of the text are closed, and no separator stands outside
of them. -/
def Solid (separator : UInt8) (text : List UInt8) : Prop :=
  walk separator .outside text = some .outside

theorem walk_append
    (separator : UInt8) (quoting : Quoting) (first second : List UInt8) :
    walk separator quoting (first ++ second) = (walk separator quoting first).bind fun quoting =>
        walk separator quoting second := by
  induction first generalizing quoting with
  | nil => rfl
  | cons byte first ih =>
    rw [cons_append, walk, walk]
    split_ifs
    · rfl
    · rw [Option.bind_assoc]
      exact Option.bind_congr fun quoting _ => ih quoting

theorem Solid.append {first second : List UInt8}
    (left : Solid separator first) (right : Solid separator second) :
    Solid separator (first ++ second) := by
  rw [Solid, walk_append, left]
  exact right

/-- A solid text is one piece. -/
theorem pieces_of_walk
    (closed : walk separator quoting text = some .outside) :
    pieces separator quoting text = some [text] := by
  induction text generalizing quoting with
  | nil =>
    cases closed
    rfl
  | cons byte text ih =>
    rw [walk] at closed
    split_ifs at closed with found
    obtain ⟨next, stands, rest⟩ := Option.bind_eq_some_iff.mp closed
    rw [pieces, if_neg found, stands, Option.bind_some, ih rest]
    rfl

/-- A text without quotation marks and separators is solid. -/
theorem solid_of_forall (plain : ∀ byte ∈ text, byte ≠ 34 ∧ byte ≠ separator) :
    Solid separator text := by
  induction text with
  | nil => rfl
  | cons byte text ih =>
    obtain ⟨unquoted, other⟩ := plain byte mem_cons_self
    have rest := ih fun byte member =>
      plain byte (mem_cons_of_mem _ member)
    simpa [Solid, walk, Quoting.next, unquoted, other] using rest

/-- The value with its quotation marks and backslashes escaped. -/
def escape (value : List UInt8) : List UInt8 :=
  value.flatMap fun byte => if byte = 34 ∨ byte = 92 then [92, byte] else [byte]

@[simp] theorem escape_nil : escape [] = [] := rfl

theorem escape_cons (byte : UInt8) (value : List UInt8) : escape (byte :: value) =
      (if byte = 34 ∨ byte = 92 then [92, byte] else [byte]) ++ escape value := rfl

theorem mem_escape (member : byte ∈ escape value) :
    byte = 92 ∨ byte ∈ value := by
  obtain ⟨source, inside, written⟩ := mem_flatMap.mp member
  split_ifs at written with special
  · rcases mem_cons.mp written with rfl | last
    · exact .inl rfl
    · exact .inr (mem_singleton.mp last ▸ inside)
  · exact .inr (mem_singleton.mp written ▸ inside)

/-- The value as a quoted string. -/
def quote (value : List UInt8) : List UInt8 := 34 :: escape value ++ [34]

theorem walk_escape (unbroken : ∀ byte ∈ value, byte ≠ 13 ∧ byte ≠ 10) (separator : UInt8) :
    walk separator .inside (escape value) = some .inside := by
  induction value with
  | nil => rfl
  | cons byte value ih =>
    obtain ⟨noReturn, noFeed⟩ := unbroken byte mem_cons_self
    have rest := ih fun byte member =>
      unbroken byte (mem_cons_of_mem _ member)
    rw [escape_cons]
    split_ifs with special
    · rcases special with rfl | rfl <;> simpa [walk, Quoting.next] using rest
    · obtain ⟨unquoted, plain⟩ := not_or.mp special
      simpa [walk, Quoting.next, unquoted, plain, noReturn, noFeed] using rest

/-- A quoted string without line breaks is solid. -/
theorem solid_quote (unbroken : ∀ byte ∈ value, byte ≠ 13 ∧ byte ≠ 10) (other : separator ≠ 34) :
    Solid separator (quote value) := by
  have opened : Solid separator (quote value) ↔
      walk separator .inside (escape value ++ [34]) = some .outside := by
    simp [Solid, quote, walk, Quoting.next, Ne.symm other]
  rw [opened, walk_append, walk_escape unbroken]
  simp [walk, Quoting.next]

/-- The text without the space at its start. -/
def trimStart (text : List UInt8) : List UInt8 := text.dropWhile isWsp

/-- The text without the space around it. -/
def trim (text : List UInt8) : List UInt8 := (trimStart text).rdropWhile isWsp

@[simp] theorem trimStart_nil : trimStart [] = [] := rfl

@[simp] theorem trim_nil : trim [] = [] := rfl

theorem trimStart_cons_of_wsp (wsp : isWsp byte = true) (text : List UInt8) :
    trimStart (byte :: text) = trimStart text :=
  dropWhile_cons_of_pos wsp

/-- A text that does not start with space is not trimmed there. -/
theorem trimStart_of_head (solid : ∀ byte ∈ text.head?, isWsp byte = false) :
    trimStart text = text := by
  cases text with
  | nil => rfl
  | cons byte text =>
    exact dropWhile_cons_of_neg (by simp [solid byte (by simp)])

/-- A text that neither starts nor ends with space is not trimmed. -/
theorem trim_of_ends (starts : ∀ byte ∈ text.head?, isWsp byte = false)
    (ends : ∀ byte ∈ text.getLast?, isWsp byte = false) :
    trim text = text := by
  rw [trim, trimStart_of_head starts]
  rcases eq_nil_or_concat text with rfl | ⟨front, last, rfl⟩
  · rfl
  · have solid : isWsp last = false := ends last (by simp)
    rw [concat_eq_append]
    exact rdropWhile_concat_neg _ _ _ (by simp [solid])

/-- A text without space is not trimmed. -/
theorem trim_of_forall (solid : ∀ byte ∈ text, isWsp byte = false) : trim text = text :=
  trim_of_ends (fun byte head => solid byte (mem_of_head? head))
    (fun byte last => solid byte (mem_of_getLast? last))

@[simp] theorem trim_cons_of_wsp (wsp : isWsp byte = true) (text : List UInt8) :
    trim (byte :: text) = trim text := by
  rw [trim, trimStart_cons_of_wsp wsp, trim]

@[simp] theorem trim_concat_of_wsp (wsp : isWsp byte = true) (text : List UInt8) :
    trim (text ++ [byte]) = trim text := by
  rw [trim, trim, trimStart, trimStart, dropWhile_append]
  split_ifs with blank
  · rw [List.isEmpty_iff.mp blank, dropWhile_cons_of_pos wsp]
    rfl
  · exact rdropWhile_concat_pos _ _ _ wsp

theorem mem_of_mem_trim (member : byte ∈ trim text) : byte ∈ text :=
  dropWhile_sublist _ |>.subset (( rdropWhile_prefix isWsp (trimStart text)).subset member)

/-- Add a byte to the last piece. -/
def extendLast (byte : UInt8) : List (List UInt8) → List (List UInt8)
  | [] => [[byte]]
  | [piece] => [piece ++ [byte]]
  | piece :: next :: pieces => piece :: extendLast byte (next :: pieces)

theorem extendLast_cons
    {pieces : List (List UInt8)} (nonempty : pieces ≠ []) (byte : UInt8) (piece : List UInt8) :
    extendLast byte (piece :: pieces) = piece :: extendLast byte pieces := by
  cases pieces with
  | nil => exact absurd rfl nonempty
  | cons next pieces => rfl

theorem extendLast_extend
    {pieces : List (List UInt8)} (nonempty : pieces ≠ []) (byte last : UInt8) :
    extendLast last (extend byte pieces) = extend byte (extendLast last pieces) := by
  match pieces with
  | [] => exact absurd rfl nonempty
  | [piece] => rfl
  | piece :: next :: pieces => rfl

/-- Space at the end of a text stands at the end of its last piece. -/
theorem pieces_concat_of_wsp
    {last : UInt8} (wsp : isWsp last = true)
    (other : isWsp separator = false) (quoting : Quoting) (text : List UInt8) :
    pieces separator quoting (text ++ [last]) =
      (pieces separator quoting text).map (extendLast last) := by
  have apart : last ≠ separator := by
    rintro rfl
    rw [wsp] at other
    cases other
  have plain : last = 32 ∨ last = 9 := by
    simpa [isWsp] using wsp
  induction text generalizing quoting with
  | nil =>
    cases quoting <;> rcases plain with rfl | rfl <;>
      simp [pieces, Quoting.next, apart, extend, extendLast]
  | cons byte text ih =>
    rw [cons_append, pieces, pieces]
    split_ifs with found
    · rw [ih, Option.map_map, Option.map_map]
      refine Option.map_congr fun split member => ?_
      exact (extendLast_cons (pieces_ne_nil member) last []).symm
    · rw [Option.map_bind]
      refine Option.bind_congr fun quoting _ => ?_
      rw [ih, Function.comp_apply, Option.map_map, Option.map_map]
      refine Option.map_congr fun split member => ?_
      exact (extendLast_extend (pieces_ne_nil member) byte last).symm

theorem map_trim_extendLast
    {last : UInt8} (wsp : isWsp last = true) {pieces : List (List UInt8)} (nonempty : pieces ≠ []) :
    (extendLast last pieces).map trim = pieces.map trim := by
  induction pieces with
  | nil => exact absurd rfl nonempty
  | cons piece pieces ih =>
    cases pieces with
    | nil => simp [extendLast, wsp]
    | cons next pieces =>
      rw [extendLast, map_cons, ih (by simp)]
      rfl

/-- Space at the end of a text does not change its trimmed pieces. -/
theorem pieces_rdropWhile (other : isWsp separator = false) (text : List UInt8) :
    (pieces separator .outside (text.rdropWhile isWsp)).map (map trim) =
      (pieces separator .outside text).map (map trim) := by
  induction text using reverseRecOn with
  | nil => rfl
  | append_singleton front last ih =>
    by_cases wsp : isWsp last = true
    · rw [rdropWhile_concat_pos _ _ _ wsp, ih, pieces_concat_of_wsp wsp other, Option.map_map]
      refine Option.map_congr fun split member => ?_
      exact (map_trim_extendLast wsp (pieces_ne_nil member)).symm
    · rw [rdropWhile_concat_neg _ _ _ wsp]

/-- Space at the start of a text does not change its trimmed pieces. -/
theorem pieces_trimStart (other : isWsp separator = false) (text : List UInt8) :
    (pieces separator .outside (trimStart text)).map (map trim) =
      (pieces separator .outside text).map (map trim) := by
  induction text with
  | nil => rfl
  | cons byte text ih =>
    by_cases wsp : isWsp byte = true
    · have apart : byte ≠ separator := by
        rintro rfl
        rw [wsp] at other
        cases other
      have unquoted : byte ≠ 34 := by
        rintro rfl
        cases wsp
      rw [trimStart_cons_of_wsp wsp, ih]
      simp only [pieces, apart, and_false, if_false, Quoting.next, unquoted,
        Option.bind_some, Option.map_map]
      refine Option.map_congr fun split member => ?_
      cases split with
      | nil => exact absurd rfl (pieces_ne_nil member)
      | cons piece split => simp [extend, wsp]
    · rw [trimStart_of_head (by simpa using wsp)]

/-- Space around a text does not change its trimmed pieces. -/
theorem pieces_trim (other : isWsp separator = false) (text : List UInt8) :
    (pieces separator .outside (trim text)).map (map trim) =
      (pieces separator .outside text).map (map trim) := by
  rw [trim, pieces_rdropWhile other, pieces_trimStart other]

end Quoted
end LiveAISIP
