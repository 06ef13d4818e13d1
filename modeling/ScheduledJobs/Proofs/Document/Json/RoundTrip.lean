import ScheduledJobs.Proofs.Document.Json.Numbers
import ScheduledJobs.Proofs.Document.Json.Strings

/-!
# JSON values are read back

What is proved of one value holds for every sequence of octets that may follow
it, so that it can be used inside lists and tables.
-/

namespace ScheduledJobs.Document.Json

open Text

theorem value?_atom {fuel room : Nat} {octet : UInt8} {rest : List UInt8}
    (blank : Octet.isBlank octet = false) (notQuote : octet ≠ Octet.quote)
    (notBracket : octet ≠ Octet.openBracket)
    (notBrace : octet ≠ Octet.openBrace) :
    value? (fuel + 1) room (octet :: rest) = atom? (octet :: rest) := by
  have kept : skipBlanks (octet :: rest) = octet :: rest := by
    simp [skipBlanks, blank]
  rw [value?, kept]
  split
  · next equal => exact absurd (List.cons.inj equal).1 notQuote
  · next equal => exact absurd (List.cons.inj equal).1 notBracket
  · next equal => exact absurd (List.cons.inj equal).1 notBrace
  · rfl

theorem after?_append (word : String) (rest : List UInt8) :
    after? word (Utf8.encode word ++ rest) = some rest := by
  simp [after?]

theorem after?_eq_none {word : String} {first octet : UInt8}
    {others rest : List UInt8} (encoded : Utf8.encode word = first :: others)
    (different : first ≠ octet) : after? word (octet :: rest) = none := by
  simp [after?, encoded, different]

theorem encode_null : Utf8.encode "null" = [0x6E, 0x75, 0x6C, 0x6C] := by
  decide

theorem encode_true : Utf8.encode "true" = [0x74, 0x72, 0x75, 0x65] := by
  decide

theorem encode_false :
    Utf8.encode "false" = [0x66, 0x61, 0x6C, 0x73, 0x65] := by
  decide

/-- Whether a value is read back from its octets, whatever follows them. -/
def ReadsBack (value : Value) : Prop :=
  ∀ ⦃fuel room : Nat⦄ ⦃rest : List UInt8⦄, value.depth ≤ fuel →
    value.depth ≤ room → EndsNumber rest →
    value? (fuel + 1) room (Utf8.octets (characters value) ++ rest) =
      some (value, rest)

theorem readsBack_null : ReadsBack .null := by
  intro fuel room rest _ _ _
  have found := after?_append "null" rest
  rw [encode_null] at found
  calc
    value? (fuel + 1) room (Utf8.octets (characters .null) ++ rest) =
        atom? ([0x6E, 0x75, 0x6C, 0x6C] ++ rest) :=
      value?_atom (by decide) (by decide) (by decide) (by decide)
    _ = some (.null, rest) := by rw [atom?, found]; rfl

theorem readsBack_boolean (flag : Bool) : ReadsBack (.boolean flag) := by
  intro fuel room rest _ _ _
  cases flag with
  | true =>
      have found := after?_append "true" rest
      rw [encode_true] at found
      have notNull : after? "null" ([0x74, 0x72, 0x75, 0x65] ++ rest) = none :=
        after?_eq_none encode_null (by decide)
      calc
        value? (fuel + 1) room
              (Utf8.octets (characters (.boolean true)) ++ rest) =
            atom? ([0x74, 0x72, 0x75, 0x65] ++ rest) :=
          value?_atom (by decide) (by decide) (by decide) (by decide)
        _ = some (.boolean true, rest) := by
          rw [atom?, notNull, found]
          rfl
  | false =>
      have found := after?_append "false" rest
      rw [encode_false] at found
      have notNull :
          after? "null" ([0x66, 0x61, 0x6C, 0x73, 0x65] ++ rest) = none :=
        after?_eq_none encode_null (by decide)
      have notTrue :
          after? "true" ([0x66, 0x61, 0x6C, 0x73, 0x65] ++ rest) = none :=
        after?_eq_none encode_true (by decide)
      calc
        value? (fuel + 1) room
              (Utf8.octets (characters (.boolean false)) ++ rest) =
            atom? ([0x66, 0x61, 0x6C, 0x73, 0x65] ++ rest) :=
          value?_atom (by decide) (by decide) (by decide) (by decide)
        _ = some (.boolean false, rest) := by
          rw [atom?, notNull, notTrue, found]
          rfl

theorem exists_octets_integer (number : Int) :
    ∃ octet others,
      Utf8.octets (Decimal.integer number) = octet :: others ∧
        (octet = Octet.minus ∨ Octet.isDigit octet = true) := by
  cases number with
  | ofNat number =>
      obtain ⟨octet, others, written, digit⟩ := exists_octets_natural number
      exact ⟨octet, others, written, .inr digit⟩
  | negSucc number =>
      exact ⟨Octet.minus, Utf8.octets (Decimal.natural (number + 1)), rfl,
        .inl rfl⟩

/-- An octet that begins a number begins nothing else. -/
theorem ne_of_begins_number {octet other : UInt8}
    (begins : octet = Octet.minus ∨ Octet.isDigit octet = true)
    (notMinus : Octet.minus ≠ other) (notDigit : Octet.isDigit other = false) :
    octet ≠ other := by
  rcases begins with rfl | digit
  · exact notMinus
  · exact ne_of_isDigit digit notDigit

theorem isBlank_of_begins_number {octet : UInt8}
    (begins : octet = Octet.minus ∨ Octet.isDigit octet = true) :
    Octet.isBlank octet = false := by
  simp only [Octet.isBlank, Bool.or_eq_false_iff, beq_eq_false_iff_ne]
  exact ⟨⟨⟨ne_of_begins_number begins (by decide) (by decide),
    ne_of_begins_number begins (by decide) (by decide)⟩,
    ne_of_begins_number begins (by decide) (by decide)⟩,
    ne_of_begins_number begins (by decide) (by decide)⟩

theorem readsBack_integer {number : Int} (word : Value.IsWord number) :
    ReadsBack (.integer number) := by
  intro fuel room rest _ _ ends
  obtain ⟨octet, others, written, begins⟩ := exists_octets_integer number
  have apart {other : UInt8} (notMinus : Octet.minus ≠ other)
      (notDigit : Octet.isDigit other = false) : octet ≠ other :=
    ne_of_begins_number begins notMinus notDigit
  have read := number?_integer word ends
  rw [written] at read
  rw [characters, written, List.cons_append,
    value?_atom (isBlank_of_begins_number begins)
      (apart (by decide) (by decide)) (apart (by decide) (by decide))
      (apart (by decide) (by decide)),
    atom?, after?_eq_none encode_null (apart (by decide) (by decide)).symm,
    after?_eq_none encode_true (apart (by decide) (by decide)).symm,
    after?_eq_none encode_false (apart (by decide) (by decide)).symm]
  exact read

theorem skipBlanks_cons {octet : UInt8}
    (notBlank : Octet.isBlank octet = false) (rest : List UInt8) :
    skipBlanks (octet :: rest) = octet :: rest := by
  simp [skipBlanks, notBlank]

theorem value?_quote (fuel room : Nat) (inside : List UInt8) :
    value? (fuel + 1) room (Octet.quote :: inside) =
      (text? inside).map fun read =>
        (read.1.elim .unreadable .text, read.2) := rfl

theorem readsBack_text (content : String) : ReadsBack (.text content) := by
  intro fuel room rest _ _ _
  obtain ⟨inside, written, read⟩ := text?_textCharacters content rest
  rw [characters, written, value?_quote, read]
  rfl

/-- The first octet of an item or an entry is neither a blank nor the end of
the list or table. -/
def BeginsItem (octets : List UInt8) : Prop :=
  ∃ octet others, octets = octet :: others ∧
    Octet.isBlank octet = false ∧ octet ≠ Octet.closeBracket ∧
    octet ≠ Octet.closeBrace

theorem beginsItem_characters {value : Value} (plain : value.IsPlain) :
    BeginsItem (Utf8.octets (characters value)) := by
  cases value with
  | null => exact ⟨_, _, rfl, by decide, by decide, by decide⟩
  | boolean flag =>
      cases flag <;> exact ⟨_, _, rfl, by decide, by decide, by decide⟩
  | integer number =>
      obtain ⟨octet, others, written, begins⟩ := exists_octets_integer number
      exact ⟨octet, others, written, isBlank_of_begins_number begins,
        ne_of_begins_number begins (by decide) (by decide),
        ne_of_begins_number begins (by decide) (by decide)⟩
  | text content => exact ⟨_, _, rfl, by decide, by decide, by decide⟩
  | list items =>
      cases items <;> exact ⟨_, _, rfl, by decide, by decide, by decide⟩
  | table entries =>
      cases entries <;> exact ⟨_, _, rfl, by decide, by decide, by decide⟩
  | fraction negative digits scale => exact plain.elim
  | moment content => exact plain.elim
  | unreadable => exact plain.elim

theorem value?_openBracket (fuel room : Nat) (inside : List UInt8) :
    value? (fuel + 1) room (Octet.openBracket :: inside) =
      match skipBlanks inside with
      | Octet.closeBracket :: rest => some (nested room (.list []), rest)
      | inside => (items? (value? fuel (room - 1)) inside.length inside).map
          fun (items, rest) => (nested room (.list items), rest) := rfl

theorem value?_openBrace (fuel room : Nat) (inside : List UInt8) :
    value? (fuel + 1) room (Octet.openBrace :: inside) =
      match skipBlanks inside with
      | Octet.closeBrace :: rest => some (nested room (.table []), rest)
      | inside => (entries? (value? fuel (room - 1)) inside.length inside).map
          fun (entries, rest) => (nested room (tableOf entries), rest) := rfl

theorem value?_list {fuel room : Nat} {inside : List UInt8}
    (begins : BeginsItem inside) :
    value? (fuel + 1) room (Octet.openBracket :: inside) =
      (items? (value? fuel (room - 1)) inside.length inside).map
        fun read => (nested room (.list read.1), read.2) := by
  obtain ⟨octet, others, rfl, notBlank, notEnd, -⟩ := begins
  rw [value?_openBracket, skipBlanks_cons notBlank]
  split
  · next equal => exact absurd (List.cons.inj equal).1 notEnd
  · rfl

theorem value?_table {fuel room : Nat} {inside : List UInt8}
    (begins : BeginsItem inside) :
    value? (fuel + 1) room (Octet.openBrace :: inside) =
      (entries? (value? fuel (room - 1)) inside.length inside).map
        fun read => (nested room (tableOf read.1), read.2) := by
  obtain ⟨octet, others, rfl, notBlank, -, notEnd⟩ := begins
  rw [value?_openBrace, skipBlanks_cons notBlank]
  split
  · next equal => exact absurd (List.cons.inj equal).1 notEnd
  · rfl

theorem octets_cons_of_ascii {character : Char}
    (ascii : character.toNat < 0x80) (characters : List Char) :
    Utf8.octets (character :: characters) =
      UInt8.ofNat character.toNat :: Utf8.octets characters := by
  rw [Utf8.octets_cons, Utf8.utf8EncodeChar_of_ascii ascii]
  rfl

theorem items?_last {item? : List UInt8 → Option (Value × List UInt8)}
    {octets rest : List UInt8} {last : Value}
    (read : item? octets = some (last, Octet.closeBracket :: rest))
    (fuel : Nat) : items? item? (fuel + 1) octets = some ([last], rest) := by
  rw [items?, read]
  rfl

theorem items?_comma {item? : List UInt8 → Option (Value × List UInt8)}
    {octets rest : List UInt8} {first : Value}
    (read : item? octets = some (first, Octet.comma :: rest)) (fuel : Nat) :
    items? item? (fuel + 1) octets =
      (items? item? fuel rest).map fun read => (first :: read.1, read.2) := by
  rw [items?, read]
  change (items? item? fuel rest).bind _ = _
  cases items? item? fuel rest <;> rfl

theorem items?_itemCharacters {fuel room : Nat} (rest : List UInt8)
    {first : Value} {others : List Value} {count : Nat}
    (readBack : ∀ item ∈ first :: others, ReadsBack item)
    (fueled : Value.itemDepth (first :: others) ≤ fuel)
    (roomy : Value.itemDepth (first :: others) ≤ room)
    (counted : others.length < count) :
    items? (value? (fuel + 1) room) count
      (Utf8.octets (characters first ++ itemCharacters others) ++
        Octet.closeBracket :: rest) = some (first :: others, rest) := by
  induction others generalizing first count with
  | nil =>
      obtain ⟨count, rfl⟩ := Nat.exists_eq_add_one_of_ne_zero
        (Nat.ne_of_gt counted)
      rw [Value.itemDepth] at fueled roomy
      have read := readBack first (by simp)
        (Nat.le_trans (Nat.le_max_left _ _) fueled)
        (Nat.le_trans (Nat.le_max_left _ _) roomy)
        (endsNumber_cons rest (.inr (.inl rfl)))
      rw [itemCharacters, List.append_nil]
      exact items?_last read count
  | cons second others ih =>
      obtain ⟨count, rfl⟩ := Nat.exists_eq_add_one_of_ne_zero
        (Nat.ne_of_gt (Nat.zero_lt_of_lt counted))
      rw [Value.itemDepth] at fueled roomy
      have othersRead := @ih second count
        (fun item member => readBack item (List.mem_cons_of_mem _ member))
        (Nat.le_trans (Nat.le_max_right _ _) fueled)
        (Nat.le_trans (Nat.le_max_right _ _) roomy)
        (by simpa using counted)
      have read := readBack first (by simp)
        (Nat.le_trans (Nat.le_max_left _ _) fueled)
        (Nat.le_trans (Nat.le_max_left _ _) roomy)
        (endsNumber_cons (Utf8.octets (characters second ++
          itemCharacters others) ++ Octet.closeBracket :: rest) (.inl rfl))
      rw [itemCharacters, Utf8.octets_append,
        octets_cons_of_ascii (by decide), List.append_assoc]
      refine (items?_comma read count).trans ?_
      rw [othersRead, Option.map_some]

/-- The characters of an entry. -/
def entryText (entry : String × Value) : List Char :=
  textCharacters entry.1 ++ ':' :: characters entry.2

theorem entry?_entryText {fuel room : Nat} {rest : List UInt8}
    {entry : String × Value} (plain : entry.2.IsPlain)
    (readBack : ReadsBack entry.2) (fueled : entry.2.depth ≤ fuel)
    (roomy : entry.2.depth ≤ room) (ends : EndsNumber rest) :
    entry? (value? (fuel + 1) room) (Utf8.octets (entryText entry) ++ rest) =
      some ((some entry.1, entry.2), rest) := by
  obtain ⟨key, value⟩ := entry
  obtain ⟨inside, written, readKey⟩ := text?_textCharacters key
    (Octet.colon :: (Utf8.octets (characters value) ++ rest))
  have readValue := readBack fueled roomy ends
  rw [entryText, Utf8.octets_append, octets_cons_of_ascii (by decide),
    List.append_assoc]
  change entry? (value? (fuel + 1) room) (Utf8.octets (textCharacters key) ++
    Octet.colon :: (Utf8.octets (characters value) ++ rest)) = _
  rw [written, entry?, skipBlanks_cons (by decide)]
  change (text? inside).bind _ = _
  rw [readKey]
  change (value? (fuel + 1) room
    (Utf8.octets (characters value) ++ rest)).bind _ = _
  rw [readValue]
  rfl

theorem entries?_last {item? : List UInt8 → Option (Value × List UInt8)}
    {octets rest : List UInt8} {last : Option String × Value}
    (read : entry? item? octets = some (last, Octet.closeBrace :: rest))
    (fuel : Nat) :
    entries? item? (fuel + 1) octets = some ([last], rest) := by
  rw [entries?, read]
  rfl

theorem entries?_comma {item? : List UInt8 → Option (Value × List UInt8)}
    {octets rest : List UInt8} {first : Option String × Value}
    (read : entry? item? octets = some (first, Octet.comma :: rest))
    (fuel : Nat) :
    entries? item? (fuel + 1) octets =
      (entries? item? fuel rest).map fun read =>
        (first :: read.1, read.2) := by
  rw [entries?, read]
  change (entries? item? fuel rest).bind _ = _
  cases entries? item? fuel rest <;> rfl

/-- An entry as it is read, with a key that denotes a text. -/
def readEntry (entry : String × Value) : Option String × Value :=
  (some entry.1, entry.2)

theorem entries?_entryCharacters {fuel room : Nat} (rest : List UInt8)
    {first : String × Value} {others : List (String × Value)} {count : Nat}
    (plain : ∀ entry ∈ first :: others, entry.2.IsPlain)
    (readBack : ∀ entry ∈ first :: others, ReadsBack entry.2)
    (fueled : Value.entryDepth (first :: others) ≤ fuel)
    (roomy : Value.entryDepth (first :: others) ≤ room)
    (counted : others.length < count) :
    entries? (value? (fuel + 1) room) count
      (Utf8.octets (entryText first ++ entryCharacters others) ++
        Octet.closeBrace :: rest) =
      some ((first :: others).map readEntry, rest) := by
  induction others generalizing first count with
  | nil =>
      obtain ⟨count, rfl⟩ := Nat.exists_eq_add_one_of_ne_zero
        (Nat.ne_of_gt counted)
      rw [Value.entryDepth] at fueled roomy
      have read := entry?_entryText (plain first (by simp))
        (readBack first (by simp))
        (Nat.le_trans (Nat.le_max_left _ _) fueled)
        (Nat.le_trans (Nat.le_max_left _ _) roomy)
        (endsNumber_cons rest (.inr (.inr rfl)))
      rw [entryCharacters, List.append_nil]
      exact entries?_last read count
  | cons second others ih =>
      obtain ⟨count, rfl⟩ := Nat.exists_eq_add_one_of_ne_zero
        (Nat.ne_of_gt (Nat.zero_lt_of_lt counted))
      rw [Value.entryDepth] at fueled roomy
      have othersRead := @ih second count
        (fun entry member => plain entry (List.mem_cons_of_mem _ member))
        (fun entry member => readBack entry (List.mem_cons_of_mem _ member))
        (Nat.le_trans (Nat.le_max_right _ _) fueled)
        (Nat.le_trans (Nat.le_max_right _ _) roomy)
        (by simpa using counted)
      have read := entry?_entryText (plain first (by simp))
        (readBack first (by simp))
        (Nat.le_trans (Nat.le_max_left _ _) fueled)
        (Nat.le_trans (Nat.le_max_left _ _) roomy)
        (endsNumber_cons (Utf8.octets (entryText second ++
          entryCharacters others) ++ Octet.closeBrace :: rest) (.inl rfl))
      have written : entryCharacters (second :: others) =
          ',' :: (entryText second ++ entryCharacters others) := rfl
      rw [written, Utf8.octets_append, octets_cons_of_ascii (by decide),
        List.append_assoc]
      refine (entries?_comma read count).trans ?_
      rw [othersRead, Option.map_some]
      rfl

theorem tableOf_map_readEntry (entries : List (String × Value)) :
    tableOf (entries.map readEntry) = .table entries := by
  have allTexts :
      (entries.map readEntry).all (fun entry => entry.1.isSome) = true := by
    simp [readEntry]
  have kept : (entries.map readEntry).filterMap
      (fun entry => entry.1.map fun key => (key, entry.2)) = entries := by
    simp [readEntry, Function.comp_def]
  rw [tableOf, if_pos allTexts]
  exact congrArg Value.table kept

theorem length_le_length_octets (characters : List Char) :
    characters.length ≤ (Utf8.octets characters).length := by
  induction characters with
  | nil => exact Nat.le_refl 0
  | cons character characters ih =>
      have positive := character.utf8Size_pos
      simp only [Utf8.octets_cons, List.length_append, List.length_cons,
        String.length_utf8EncodeChar]
      omega

theorem length_le_length_itemCharacters (items : List Value) :
    items.length ≤ (itemCharacters items).length := by
  induction items with
  | nil => exact Nat.le_refl 0
  | cons item items ih =>
      simp only [itemCharacters, List.length_cons, List.length_append]
      omega

theorem length_le_length_entryCharacters (entries : List (String × Value)) :
    entries.length ≤ (entryCharacters entries).length := by
  induction entries with
  | nil => exact Nat.le_refl 0
  | cons entry entries ih =>
      simp only [entryCharacters, List.length_cons, List.length_append]
      omega

theorem BeginsItem.append {octets : List UInt8} (begins : BeginsItem octets)
    (rest : List UInt8) : BeginsItem (octets ++ rest) := by
  obtain ⟨octet, others, rfl, apart⟩ := begins
  exact ⟨octet, others ++ rest, rfl, apart⟩

theorem nested_of_pos {room : Nat} (positive : 0 < room) (value : Value) :
    nested room value = value := by
  rw [nested, if_neg (Nat.ne_of_gt positive)]

theorem readsBack_list {items : List Value}
    (plain : ∀ item ∈ items, item.IsPlain)
    (readBack : ∀ item ∈ items, ReadsBack item) : ReadsBack (.list items) := by
  intro fuel room rest fueled roomy _
  rw [Value.depth] at fueled roomy
  have unnested := nested_of_pos (Nat.zero_lt_of_lt roomy) (.list items)
  cases items with
  | nil =>
      change some (nested room (.list []), rest) = _
      rw [unnested]
  | cons first others =>
      obtain ⟨fuel, rfl⟩ := Nat.exists_eq_add_one_of_ne_zero
        (Nat.ne_of_gt (Nat.zero_lt_of_lt fueled))
      have written : Utf8.octets (characters (.list (first :: others))) ++
          rest = Octet.openBracket ::
            (Utf8.octets (characters first ++ itemCharacters others) ++
              Octet.closeBracket :: rest) := by
        rw [characters, octets_cons_of_ascii (by decide), Utf8.octets_append,
          List.cons_append, List.append_assoc]
        rfl
      have begins : BeginsItem
          (Utf8.octets (characters first ++ itemCharacters others) ++
            Octet.closeBracket :: rest) := by
        rw [Utf8.octets_append, List.append_assoc]
        exact (beginsItem_characters (plain first (by simp))).append _
      have counted : others.length <
          (Utf8.octets (characters first ++ itemCharacters others) ++
            Octet.closeBracket :: rest).length := by
        have itemBound := length_le_length_itemCharacters others
        have octetBound := length_le_length_octets (itemCharacters others)
        simp only [Utf8.octets_append, List.length_append, List.length_cons]
        omega
      have read := items?_itemCharacters rest readBack
        (Nat.le_of_lt_succ fueled) (Nat.le_sub_one_of_lt roomy) counted
      rw [written, value?_list begins, read, Option.map_some, unnested]

theorem readsBack_table {entries : List (String × Value)}
    (plain : ∀ entry ∈ entries, entry.2.IsPlain)
    (readBack : ∀ entry ∈ entries, ReadsBack entry.2) :
    ReadsBack (.table entries) := by
  intro fuel room rest fueled roomy _
  rw [Value.depth] at fueled roomy
  have unnested := nested_of_pos (Nat.zero_lt_of_lt roomy) (.table entries)
  cases entries with
  | nil =>
      change some (nested room (.table []), rest) = _
      rw [unnested]
  | cons first others =>
      obtain ⟨fuel, rfl⟩ := Nat.exists_eq_add_one_of_ne_zero
        (Nat.ne_of_gt (Nat.zero_lt_of_lt fueled))
      have written : Utf8.octets (characters (.table (first :: others))) ++
          rest = Octet.openBrace ::
            (Utf8.octets (entryText first ++ entryCharacters others) ++
              Octet.closeBrace :: rest) := by
        rw [characters, octets_cons_of_ascii (by decide), entryText]
        simp
        rfl
      have begins : BeginsItem
          (Utf8.octets (entryText first ++ entryCharacters others) ++
            Octet.closeBrace :: rest) :=
        ⟨_, _, rfl, by decide, by decide, by decide⟩
      have counted : others.length <
          (Utf8.octets (entryText first ++ entryCharacters others) ++
            Octet.closeBrace :: rest).length := by
        have entryBound := length_le_length_entryCharacters others
        have octetBound := length_le_length_octets (entryCharacters others)
        simp only [Utf8.octets_append, List.length_append, List.length_cons]
        omega
      have read := entries?_entryCharacters rest plain readBack
        (Nat.le_of_lt_succ fueled) (Nat.le_sub_one_of_lt roomy) counted
      rw [written, value?_table begins, read, Option.map_some,
        tableOf_map_readEntry, unnested]

theorem readsBack (value : Value) (plain : value.IsPlain) :
    ReadsBack value := by
  match value with
  | .null => exact readsBack_null
  | .boolean flag => exact readsBack_boolean flag
  | .integer number => exact readsBack_integer plain
  | .text content => exact readsBack_text content
  | .list items =>
      have plainItems := Value.arePlain_iff.mp plain
      exact readsBack_list plainItems fun item member =>
        readsBack item (plainItems item member)
  | .table entries =>
      have plainValues := Value.havePlainValues_iff.mp plain
      exact readsBack_table plainValues fun entry member =>
        readsBack entry.2 (plainValues entry member)
  | .fraction _ _ _ => exact plain.elim
  | .moment _ => exact plain.elim
  | .unreadable => exact plain.elim
termination_by value
decreasing_by
  · have smaller := List.sizeOf_lt_of_mem member
    simp only [Value.list.sizeOf_spec]
    omega
  · have smaller := List.sizeOf_lt_of_mem member
    obtain ⟨key, inner⟩ := entry
    simp only [Value.table.sizeOf_spec, Prod.mk.sizeOf_spec] at smaller ⊢
    omega

mutual

theorem depth_le_length (value : Value) :
    value.depth ≤ (characters value).length := by
  match value with
  | .list [] => simp [Value.depth, Value.itemDepth, characters]
  | .list (first :: others) =>
      have firstBound := depth_le_length first
      have othersBound := itemDepth_le_length others
      simp only [Value.depth, Value.itemDepth, characters, List.length_cons,
        List.length_append]
      omega
  | .table [] => simp [Value.depth, Value.entryDepth, characters]
  | .table ((key, first) :: others) =>
      have firstBound := depth_le_length first
      have othersBound := entryDepth_le_length others
      simp only [Value.depth, Value.entryDepth, characters, List.length_cons,
        List.length_append]
      omega
  | .null | .boolean _ | .integer _ | .fraction _ _ _ | .text _ | .moment _
  | .unreadable => exact Nat.zero_le _

theorem itemDepth_le_length (items : List Value) :
    Value.itemDepth items ≤ (itemCharacters items).length := by
  match items with
  | [] => exact Nat.zero_le _
  | first :: others =>
      have firstBound := depth_le_length first
      have othersBound := itemDepth_le_length others
      simp only [Value.itemDepth, itemCharacters, List.length_cons,
        List.length_append]
      omega

theorem entryDepth_le_length (entries : List (String × Value)) :
    Value.entryDepth entries ≤ (entryCharacters entries).length := by
  match entries with
  | [] => exact Nat.zero_le _
  | (key, first) :: others =>
      have firstBound := depth_le_length first
      have othersBound := entryDepth_le_length others
      simp only [Value.entryDepth, entryCharacters, List.length_cons,
        List.length_append]
      omega

end

/-- Reading the JSON text of a plain value gives the value, as long as it has
no more levels than can be read. -/
theorem ofOctets?_render {value : Value} (plain : value.IsPlain)
    (shallow : value.depth ≤ depthLimit) :
    ofOctets? (Utf8.encode (render value)) = some value := by
  have fueled : value.depth ≤ (Utf8.octets (characters value)).length :=
    Nat.le_trans (depth_le_length value) (length_le_length_octets _)
  have read := readsBack value plain fueled shallow endsNumber_nil
  rw [List.append_nil] at read
  rw [render, Utf8.encode_ofList, ofOctets?, read]
  rfl

end ScheduledJobs.Document.Json
