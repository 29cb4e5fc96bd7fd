import LiveAISIP.Sip.CoreHeaders
import LiveAISIP.Sip.ViaRoundTrip
import Mathlib.Data.List.Forall2

/-!
# Lists of Via entries

A Via field value is a list of entries between the commas outside of its quoted
strings.  Values are joined by joining their texts, which is how a message may
split its list over several fields.
-/

namespace LiveAISIP
namespace Sip
namespace Headers

open Ascii Outcome Quoted Text
open CoreHeadersBuilder List

variable {input : Bytes}

/-- The text is parsed as an entry within some budget. -/
def ReadsEntry (text : Bytes) (entry : ViaEntry) : Prop :=
  ∃ budget left, parseEntry text budget = .ok (entry, left)

theorem ReadsEntry.nonempty
    {text : Bytes} {entry : ViaEntry} (reads : ReadsEntry text entry) : text ≠ [] := by
  obtain ⟨budget, left, parsed⟩ := reads
  rintro rfl
  exact (parseEntry_eq_ok.mp parsed).1 rfl

/-- The budget of an entry plays no role where nothing is refused. -/
theorem ReadsEntry.unlimited
    {text : Bytes} {entry : ViaEntry} (reads : ReadsEntry text entry)
    {free : ParseBudget} (unlimited : free.Unlimited) :
    ∃ left, parseEntry text free = .ok (entry, left) ∧ left.Unlimited := by
  obtain ⟨budget, left, parsed⟩ := reads
  obtain ⟨after, filled, protocol, host, port, named, remaining, sent, located,
    parsed⟩ := parseEntry_eq_ok.mp parsed
  obtain ⟨left, parsed, unlimited⟩ := parseViaParameters_unlimited parsed unlimited
  exact ⟨left, parseEntry_eq_ok.mpr ⟨after, filled, protocol, host, port, named,
    remaining, sent, located, parsed⟩, unlimited⟩

theorem pushParsedEntry_eq_ok
    {state after : EntryState} :
    pushParsedEntry state input = .ok after ↔
      state.entries.length < maxViaEntries ∧ trim input ≠ [] ∧
        state.budget.checkEntry state.entries.length = .ok () ∧
        ∃ entry left, parseEntry (trim input) state.budget = .ok (entry, left) ∧
          after = ⟨state.entries ++ [entry], left⟩ := by
  simp only [pushParsedEntry, bind_eq_ok, ensure_eq_ok]
  constructor
  · rintro ⟨_, room, _, filled, _, checked, ⟨entry, left⟩, parsed, made⟩
    cases made
    exact ⟨room, filled, checked, entry, left, parsed, rfl⟩
  · rintro ⟨room, filled, checked, entry, left, parsed, rfl⟩
    exact ⟨(), room, (), filled, (), checked, (entry, left), parsed, rfl⟩

/-- Put a text before the first piece. -/
def prepend (front : Bytes) : List Bytes → List Bytes
  | [] => [front]
  | piece :: pieces => (front ++ piece) :: pieces

theorem prepend_nil {pieces : List Bytes} (nonempty : pieces ≠ []) :
    prepend [] pieces = pieces := by
  cases pieces with
  | nil => exact absurd rfl nonempty
  | cons piece pieces => rfl

theorem prepend_extend
    {pieces : List Bytes} (nonempty : pieces ≠ []) (front : Bytes) (byte : UInt8) :
    prepend front (extend byte pieces) = prepend (front ++ [byte]) pieces := by
  cases pieces with
  | nil => exact absurd rfl nonempty
  | cons piece pieces => simp [prepend, extend]

/-- The scan adds the entries that the pieces are parsed as. -/
theorem scanEntries_sound
    {state after : EntryState} {piece : Bytes} {quoting : Quoting}
    (scanned : scanEntries state piece quoting input = .ok after) :
    ∃ found more, pieces 44 quoting input = some found ∧ after.entries = state.entries ++ more ∧
      Forall₂ ReadsEntry ((prepend piece found).map trim) more := by
  induction input generalizing state piece quoting with
  | nil =>
    rw [scanEntries] at scanned
    split_ifs at scanned with outside
    obtain ⟨-, -, -, entry, left, parsed, rfl⟩ := pushParsedEntry_eq_ok.mp scanned
    refine ⟨[[]], [entry], by rw [pieces, if_pos outside], rfl, ?_⟩
    have reads : ReadsEntry (trim (piece ++ [])) entry := by
      rw [append_nil]
      exact ⟨_, _, parsed⟩
    exact .cons reads .nil
  | cons byte input ih =>
    rw [scanEntries] at scanned
    split_ifs at scanned with comma
    · obtain ⟨middle, pushed, scanned⟩ := bind_eq_ok.mp scanned
      obtain ⟨-, -, -, entry, left, parsed, rfl⟩ := pushParsedEntry_eq_ok.mp pushed
      obtain ⟨found, more, split, grown, reads⟩ := ih scanned
      rw [prepend_nil (pieces_ne_nil split)] at reads
      refine ⟨[] :: found, entry :: more, ?_, by simp [grown], ?_⟩
      · rw [pieces, if_pos comma, split]
        rfl
      · rw [prepend, append_nil, map_cons]
        exact .cons ⟨_, _, parsed⟩ reads
    · cases next : quoting.next byte with
      | none => simp [next] at scanned
      | some quoting =>
        simp only [next] at scanned
        obtain ⟨found, more, split, grown, reads⟩ := ih scanned
        refine ⟨extend byte found, more, ?_, grown, ?_⟩
        · rw [pieces, if_neg comma, next, Option.bind_some, split]
          rfl
        · rwa [prepend_extend (pieces_ne_nil split)]

/-- Pieces that are parsed as entries are scanned as these where nothing is
refused. -/
theorem scanEntries_complete
    (state : EntryState) {piece : Bytes} {quoting : Quoting}
    {found : List Bytes} {more : List ViaEntry} (split : pieces 44 quoting input = some found)
    (reads : Forall₂ ReadsEntry ((prepend piece found).map trim) more)
    (unlimited : state.budget.Unlimited)
    (room : state.entries.length + more.length ≤ maxViaEntries) :
    ∃ after, scanEntries state piece quoting input = .ok after ∧
      after.entries = state.entries ++ more := by
  have push {state : EntryState} {text : Bytes} {entry : ViaEntry}
      (unlimited : state.budget.Unlimited)
      (room : state.entries.length < maxViaEntries)
      (reads : ReadsEntry (trim text) entry) :
      ∃ left, pushParsedEntry state text = .ok ⟨state.entries ++ [entry], left⟩ ∧
        left.Unlimited := by
    obtain ⟨left, parsed, free⟩ := reads.unlimited unlimited
    exact ⟨left, pushParsedEntry_eq_ok.mpr ⟨room, reads.nonempty,
      unlimited.checkEntry _, entry, left, parsed, rfl⟩, free⟩
  induction input generalizing state piece quoting found more with
  | nil =>
    rw [pieces] at split
    split_ifs at split with outside
    cases split
    rw [prepend, append_nil] at reads
    cases reads with
    | @cons _ entry _ _ first rest =>
      cases rest
      obtain ⟨left, pushed, -⟩ := push unlimited room first
      exact ⟨_, by rw [scanEntries, if_pos outside, pushed], rfl⟩
  | cons byte input ih =>
    rw [pieces] at split
    rw [scanEntries]
    split_ifs at split ⊢ with comma
    · obtain ⟨rest, behind, rfl⟩ := Option.map_eq_some_iff.mp split
      rw [prepend, append_nil, map_cons] at reads
      cases reads with
      | @cons _ entry _ more first others =>
        rw [length_cons] at room
        obtain ⟨left, pushed, unlimited⟩ := push unlimited (by omega) first
        rw [← prepend_nil (pieces_ne_nil behind)] at others
        obtain ⟨after, scanned, grown⟩ := ih
          ⟨state.entries ++ [entry], left⟩ behind others unlimited
          (by simp only [length_append, length_singleton]; omega)
        refine ⟨after, ?_, by simp [grown]⟩
        rw [pushed, ok_bind, scanned]
    · obtain ⟨next, stands, further⟩ := Option.bind_eq_some_iff.mp split
      obtain ⟨rest, behind, rfl⟩ := Option.map_eq_some_iff.mp further
      rw [prepend_extend (pieces_ne_nil behind)] at reads
      simp only [stands]
      exact ih state behind reads unlimited room

/-- The entries that stand between the commas of a text. -/
def Lists (input : Bytes) (entries : List ViaEntry) : Prop :=
  ∃ found, (pieces 44 .outside input).map (map trim) = some found ∧ Forall₂ ReadsEntry found entries

theorem lists_trim {entries : List ViaEntry} :
    Lists (trim input) entries ↔ Lists input entries := by
  rw [Lists, pieces_trim (by decide), Lists]

/-- Lists are joined by a comma. -/
theorem Lists.append
    {first second : Bytes} {left right : List ViaEntry} (one : Lists first left)
    (two : Lists second right) :
    Lists (first ++ 44 :: second) (left ++ right) := by
  obtain ⟨_, trimmed, reads⟩ := one
  obtain ⟨_, trimmedAfter, readsAfter⟩ := two
  obtain ⟨before, split, rfl⟩ := Option.map_eq_some_iff.mp trimmed
  obtain ⟨after, splitAfter, rfl⟩ := Option.map_eq_some_iff.mp trimmedAfter
  refine ⟨_, ?_, rel_append reads readsAfter⟩
  rw [pieces_append_separator split splitAfter, Option.map_some, map_append]

theorem Lists.nonempty {entries : List ViaEntry} (lists : Lists input entries) :
    entries ≠ [] ∧ trim input ≠ [] := by
  obtain ⟨found, trimmed, reads⟩ := lists_trim.mpr lists
  obtain ⟨parts, split, same⟩ := Option.map_eq_some_iff.mp trimmed
  constructor
  · rintro rfl
    cases reads
    exact pieces_ne_nil split (map_eq_nil_iff.mp same)
  · intro blank
    rw [blank] at split
    cases split
    subst same
    cases reads with
    | cons first rest => exact first.nonempty rfl

theorem fromEntries_eq_ok {entries : List ViaEntry} {via : Via} :
    Via.fromEntries entries = .ok via ↔
      entries = via.entries ∧ entries ≠ [] ∧ entries.length ≤ maxViaEntries := by
  unfold Via.fromEntries
  constructor
  · intro made
    split_ifs at made with nonempty bounded
    cases made
    exact ⟨rfl, nonempty, bounded⟩
  · rintro ⟨rfl, nonempty, bounded⟩
    rw [dif_pos nonempty, dif_pos bounded]

/-- What is parsed within some budget is a list. -/
theorem lists_of_parseWithBudget {remainingEntries remainingParameters : Nat} {via : Via}
    (parsed : parseWithBudget input remainingEntries remainingParameters = .ok via) :
    input.length ≤ maxViaBytes ∧ Lists input via.entries := by
  simp only [parseWithBudget, bind_eq_ok, ensure_eq_ok, plain_eq_ok] at parsed
  obtain ⟨_, short, _, -, state, scanned, made⟩ := parsed
  obtain ⟨found, more, split, grown, reads⟩ := scanEntries_sound scanned
  rw [prepend_nil (pieces_ne_nil split)] at reads
  rw [(fromEntries_eq_ok.mp made).1, nil_append] at grown
  refine ⟨short, lists_trim.mp ⟨found.map trim, ?_, ?_⟩⟩
  · rw [split]
    rfl
  · rwa [grown]

/-- A value is parsed exactly from the lists of its entries. -/
theorem parseVia_eq_ok {via : Via} :
    parseVia input = .ok via ↔ input.length ≤ maxViaBytes ∧ Lists input via.entries := by
  rw [parseVia, mapError_eq_ok]
  constructor
  · exact lists_of_parseWithBudget
  · rintro ⟨short, lists⟩
    have filled := lists.nonempty.2
    obtain ⟨_, trimmed, reads⟩ := lists_trim.mpr lists
    obtain ⟨found, split, rfl⟩ := Option.map_eq_some_iff.mp trimmed
    rw [← prepend_nil (pieces_ne_nil split)] at reads
    obtain ⟨after, scanned, grown⟩ := scanEntries_complete
      ⟨[], .new usizeMax usizeMax⟩ split reads ParseBudget.unlimited_new
      (by simpa using via.bounded)
    rw [nil_append] at grown
    have made : Via.fromEntries after.entries = .ok via :=
      fromEntries_eq_ok.mpr ⟨grown, by rw [grown]; exact via.nonempty,
        by rw [grown]; exact via.bounded⟩
    simp only [parseWithBudget, ensure_of short, ensure_of filled, scanned, made, ok_bind]
    rfl

/-- Valid entries are listed by their texts. -/
theorem lists_render
    {entries : List ViaEntry} (nonempty : entries ≠ []) (valid : ∀ entry ∈ entries, entry.Valid) :
    Lists (([44, 32] : Bytes).intercalate (entries.map ViaEntry.render)) entries := by
  have one {entry : ViaEntry} (valid : entry.Valid) : Lists entry.render [entry] := by
    have firm := valid.firm
    obtain ⟨left, parsed, -⟩ := valid.parse ParseBudget.unlimited_new
    refine ⟨[entry.render], ?_, .cons ⟨_, _, parsed⟩ .nil⟩
    rw [pieces_of_walk firm.solid, Option.map_some, map_singleton, firm.trim]
  induction entries with
  | nil => exact absurd rfl nonempty
  | cons entry entries ih =>
    have first := one (valid entry mem_cons_self)
    cases entries with
    | nil => simpa using first
    | cons next entries =>
      have rest := ih (by simp) (fun each member => valid each (mem_cons_of_mem _ member))
      have spaced : Lists (32 :: ([44, 32] : Bytes).intercalate
          ((next :: entries).map ViaEntry.render)) (next :: entries) := by
        rw [← lists_trim, trim_cons_of_wsp (by decide), lists_trim]
        exact rest
      have joined := first.append spaced
      rw [map_cons, map_cons, intercalate_cons_cons]
      simpa using joined

/-- The addresses of a value are read back from their texts. -/
def Via.Reparses (via : Via) : Prop := ∀ entry ∈ via.entries, entry.Reparses

/-- The entries of a list are valid. -/
theorem Lists.valid {entries : List ViaEntry} (lists : Lists input entries)
    (reparses : ∀ entry ∈ entries, entry.Reparses) :
    ∀ entry ∈ entries, entry.Valid := by
  obtain ⟨found, -, reads⟩ := lists
  induction reads with
  | nil => simp
  | cons first rest ih =>
    obtain ⟨budget, left, parsed⟩ := first
    intro entry member
    rcases mem_cons.mp member with rfl | inside
    · exact ViaEntry.valid_of_parse parsed (reparses _ mem_cons_self)
    · exact ih (fun each member => reparses each (mem_cons_of_mem _ member)) entry inside

theorem pushEntries_eq_ok
    {entries : List ViaEntry} {via after : Via}
    (pushed : entries.foldlM Via.pushEntry via = .ok after) :
    after.entries = via.entries ++ entries := by
  induction entries generalizing via with
  | nil =>
    cases pushed
    simp
  | cons entry entries ih =>
    rw [foldlM_cons] at pushed
    obtain ⟨longer, one, pushed⟩ := bind_eq_ok.mp pushed
    obtain ⟨room, made⟩ := returned_of_dite (by simpa only [Via.pushEntry] using one)
    cases made
    rw [ih pushed]
    simp

/-- The hops that a builder has combined. -/
def CoreHeadersBuilder.entries (builder : CoreHeadersBuilder) : List ViaEntry :=
  (builder.via.map Via.entries).getD []

/-- A field adds the hops that its unfolded value is parsed as. -/
theorem CoreHeadersBuilder.consume_eq_ok
    {grants : Nat → Bool} {builder after : CoreHeadersBuilder} {field : Nat × Bytes}
    (consumed : builder.consume grants field = .ok after) :
    ∃ value via, logicalValue grants field.2 = .ok value ∧ parseVia (trim value) = .ok via ∧
      after.via.isSome = true ∧ after.entries = builder.entries ++ via.entries := by
  simp only [consume, parseViaField, bind_eq_ok] at consumed
  obtain ⟨⟨value, budget⟩, prepared, via, parsed, _, -, _, -, combined⟩ := consumed
  rw [mapError_eq_ok] at parsed
  obtain ⟨short, lists⟩ := lists_of_parseWithBudget parsed
  have unfolded : logicalValue grants field.2 = .ok value := by
    simp only [prepareValue, bind_eq_ok, mapError_eq_ok] at prepared
    obtain ⟨analysis, analyzed, _, -, _, -, _, materialized, same⟩ := prepared
    cases same
    rw [logicalValue, analyzed, ok_bind, materialized]
  refine ⟨value, via, unfolded, parseVia_eq_ok.mpr ⟨short, lists⟩, ?_⟩
  cases existing : builder.via with
  | none =>
    simp only [existing, ok_bind] at combined
    cases combined
    exact ⟨rfl, by simp [entries, existing]⟩
  | some old =>
    simp only [existing, bind_eq_ok, mapError_eq_ok] at combined
    obtain ⟨longer, pushed, made⟩ := combined
    cases made
    exact ⟨rfl, by simp [entries, existing, pushEntries_eq_ok pushed]⟩

/-- All fields add their hops in order. -/
theorem CoreHeadersBuilder.foldlM_consume
    {grants : Nat → Bool} {fields : List (Nat × Bytes)} {builder after : CoreHeadersBuilder}
    (consumed : fields.foldlM (consume grants) builder = .ok after) :
    ∃ values vias,
      Forall₂ (fun field value => logicalValue grants field.2 = .ok value) fields values ∧
      Forall₂ (fun value via => parseVia (trim value) = .ok via) values vias ∧
      (after.via.isSome = true ∨ fields = []) ∧
      after.entries = builder.entries ++ vias.flatMap Via.entries := by
  induction fields generalizing builder with
  | nil =>
    cases consumed
    exact ⟨[], [], .nil, .nil, .inr rfl, by simp⟩
  | cons field fields ih =>
    rw [foldlM_cons] at consumed
    obtain ⟨middle, one, consumed⟩ := bind_eq_ok.mp consumed
    obtain ⟨value, via, unfolded, parsed, filled, grown⟩ := consume_eq_ok one
    obtain ⟨values, vias, logical, parses, some, rest⟩ := ih consumed
    refine ⟨value :: values, via :: vias, .cons unfolded logical, .cons parsed parses, .inl ?_, ?_⟩
    · rcases some with some | rfl
      · exact some
      · cases consumed
        exact filled
    · rw [rest, grown, flatMap_cons, append_assoc]

/-- Values that are parsed on their own are joined with commas. -/
theorem lists_joinBytes
    {values : List Bytes} {vias : List Via}
    (parses : Forall₂ (fun value via => parseVia (trim value) = .ok via) values vias)
    (nonempty : values ≠ []) :
    Lists (joinBytes 44 values) (vias.flatMap Via.entries) := by
  induction parses with
  | nil => exact absurd rfl nonempty
  | @cons value via values vias first rest ih =>
    have one : Lists value via.entries := lists_trim.mp (parseVia_eq_ok.mp first).2
    cases values with
    | nil =>
      cases rest
      simpa [joinBytes] using one
    | cons next values =>
      have more := one.append (ih (by simp))
      rw [joinBytes, intercalate_cons_cons, flatMap_cons]
      simpa [joinBytes] using more

/-- A Via value is parsed from its text; two values are joined by a comma; and the
fields that a message splits its list over are parsed as the one field that joins
their unfolded values. -/
theorem via_lists_round_trip :
    (∀ (input : Bytes) (via : Via), parseVia input = .ok via → via.Reparses →
      via.render.length ≤ maxViaBytes → parseVia via.render = .ok via) ∧
    (∀ (first second : Bytes) (left right : Via),
      parseVia first = .ok left → parseVia second = .ok right →
      (first ++ 44 :: second).length ≤ maxViaBytes →
      left.entries.length + right.entries.length ≤ maxViaEntries →
        ∃ both, parseVia (first ++ 44 :: second) = .ok both ∧
          both.entries = left.entries ++ right.entries) ∧
    ∀ (grants : Nat → Bool) (fields : List (Nat × Bytes)) (after : CoreHeadersBuilder),
      fields ≠ [] → fields.foldlM (consume grants) .new = .ok after → ∃ values vias via,
          Forall₂ (fun field value => logicalValue grants field.2 = .ok value) fields values ∧
          Forall₂ (fun value via => parseVia (trim value) = .ok via) values vias ∧
          after.via = some via ∧ via.entries = vias.flatMap Via.entries ∧
          ((joinBytes 44 values).length ≤ maxViaBytes →
            parseVia (joinBytes 44 values) = .ok via) := by
  refine ⟨?_, ?_, ?_⟩
  · intro input via parsed reparses fits
    have lists := (parseVia_eq_ok.mp parsed).2
    exact parseVia_eq_ok.mpr ⟨fits, lists_render via.nonempty (lists.valid reparses)⟩
  · intro first second left right parsedLeft parsedRight fits room
    have joined := (parseVia_eq_ok.mp parsedLeft).2.append (parseVia_eq_ok.mp parsedRight).2
    exact ⟨⟨left.entries ++ right.entries, joined.nonempty.1, by simpa using room⟩,
      parseVia_eq_ok.mpr ⟨fits, joined⟩, rfl⟩
  · intro grants fields after some consumed
    obtain ⟨values, vias, logical, parses, filled, grown⟩ :=
      foldlM_consume consumed
    obtain ⟨via, found⟩ := Option.isSome_iff_exists.mp (filled.resolve_right some)
    have nonempty : values ≠ [] := by
      rintro rfl
      cases logical
      exact some rfl
    have combined : via.entries = vias.flatMap Via.entries := by
      simpa [entries, found, new] using grown
    refine ⟨values, vias, via, logical, parses, found, combined, ?_⟩
    intro fits
    refine parseVia_eq_ok.mpr ⟨fits, ?_⟩
    rw [combined]
    exact lists_joinBytes parses nonempty

/-- Two fields, the second one folded, with a comma and a semicolon inside a quoted
string. -/
def splitFields : List (Nat × Bytes) :=
  [(0, wireBytes " SIP/2.0/udp h:05060 ; x=\"a,;\\\"\";received=192.0.2.1"),
    (3, wireBytes "SIP/2.0/TCP\r\n g,SIP/3/x [2001:db8::1];ttl=007;maddr=[::1]")]

/-- The unfolded values of the two fields. -/
def splitValues : List Bytes :=
  [wireBytes " SIP/2.0/udp h:05060 ; x=\"a,;\\\"\";received=192.0.2.1",
    wireBytes "SIP/2.0/TCP g,SIP/3/x [2001:db8::1];ttl=007;maddr=[::1]"]

/-- The three hops of the two fields. -/
def splitVia : Via where
  entries :=
    [⟨⟨.sip, .sip2, .udp⟩, .domain "h", some 5060,
        [.extension ⟨"x", some (.quoted "a,;\"")⟩, .received (.v4 0xC0000201)]⟩,
      ⟨⟨.sip, .sip2, .tcp⟩, .domain "g", none, []⟩, ⟨⟨.sip, .extension "3", .extension "x"⟩,
        .ipv6 0x20010DB8000000000000000000000001, none, [.ttl 7, .maddr (.ipv6 1)]⟩]
  nonempty := by decide
  bounded := by decide

/-- The combined hops are those of the joined values, and are parsed from their
text. -/
theorem via_lists_round_trip_split :
    parseVia splitVia.render = .ok splitVia ∧
    (∃ both, parseVia (splitVia.render ++ 44 :: wireBytes "SIP/2.0/UDP z") = .ok both ∧
      both.entries.length = 4) ∧
    ∃ after, splitFields.foldlM (consume fun _ => true) .new = .ok after ∧
      after.via = some splitVia ∧ parseVia (joinBytes 44 splitValues) = .ok splitVia := by
  have joined : parseVia (joinBytes 44 splitValues) = .ok splitVia := by decide +kernel
  have reparses : splitVia.Reparses := by
    intro entry member
    simp only [splitVia, mem_cons, not_mem_nil, or_false] at member
    rcases member with rfl | rfl | rfl
    · refine ⟨trivial, ?_⟩
      simp only [mem_cons, not_mem_nil, or_false, forall_eq_or_imp, forall_eq]
      exact ⟨trivial, (by decide +kernel : parseIpAddr
        (renderIpAddr (.v4 0xC0000201)) = some (.v4 0xC0000201))⟩
    · exact ⟨trivial, by simp⟩
    · refine ⟨(by decide +kernel : parseIpv6Addr
        (renderIpv6 0x20010DB8000000000000000000000001) =
          some 0x20010DB8000000000000000000000001), ?_⟩
      simp only [mem_cons, not_mem_nil, or_false, forall_eq_or_imp, forall_eq]
      exact ⟨trivial, (by decide +kernel : parseIpv6Addr (renderIpv6 1) = some 1)⟩
  have rendered := via_lists_round_trip.1 _ splitVia joined reparses (by decide +kernel)
  refine ⟨rendered, ?_, ?_⟩
  · obtain ⟨other, parsed⟩ : ∃ other, parseVia (wireBytes "SIP/2.0/UDP z") = .ok other ∧
        other.entries.length = 1 :=
      ⟨⟨[⟨⟨.sip, .sip2, .udp⟩, .domain "z", none, []⟩], by decide, by decide⟩,
        by decide +kernel, rfl⟩
    obtain ⟨both, together, entries⟩ := via_lists_round_trip.2.1 _ _ splitVia other
      rendered parsed.1 (by decide +kernel)
      (by rw [parsed.2]; decide)
    exact ⟨both, together, by rw [entries, length_append, parsed.2]; rfl⟩
  · obtain ⟨after, consumed⟩ :
        ∃ after, splitFields.foldlM (consume fun _ => true) .new = .ok after :=
      exists_ok (by decide +kernel)
    obtain ⟨values, vias, via, logical, -, found, -, whole⟩ :=
      via_lists_round_trip.2.2 _ splitFields after (by decide) consumed
    have same : values = splitValues := by
      have unfolds : Forall₂ (fun (field : Nat × Bytes) value =>
          logicalValue (fun _ => true) field.2 = .ok value) splitFields splitValues :=
        .cons (by decide +kernel) (.cons (by decide +kernel) .nil)
      have unique : Relator.RightUnique fun (field : Nat × Bytes) (value : Bytes) =>
          logicalValue (fun _ => true) field.2 = .ok value :=
        fun field first second left right => Except.ok.inj (left.symm.trans right)
      exact unique.forall₂ logical unfolds
    subst same
    have equal := (whole (by decide +kernel)).symm.trans joined
    cases equal
    exact ⟨after, consumed, found, joined⟩

end Headers
end Sip
end LiveAISIP
