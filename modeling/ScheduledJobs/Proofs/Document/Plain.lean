import ScheduledJobs.Document.Atoms

/-!
# Plain values

A written text determines null, Booleans, texts and integers of 64 bits, alone
or inside lists and tables.
-/

namespace ScheduledJobs.Document

namespace Value

/-- Whether the number fits in 64 bits, with or without a sign. -/
def IsWord (number : Int) : Prop :=
  -(UInt64.size / 2 : Nat) ≤ number ∧ number < UInt64.size

mutual

/-- Whether a value has a JSON text of its own, apart from its depth. -/
def IsPlain : Value → Prop
  | .null | .boolean _ | .text _ => True
  | .integer number => IsWord number
  | .list items => ArePlain items
  | .table entries => HavePlainValues entries
  | .fraction _ _ _ | .moment _ | .unreadable => False

/-- Whether every item has a JSON text of its own. -/
def ArePlain : List Value → Prop
  | [] => True
  | first :: others => first.IsPlain ∧ ArePlain others

/-- Whether every entry has a JSON text of its own. -/
def HavePlainValues : List (String × Value) → Prop
  | [] => True
  | (_, value) :: others => value.IsPlain ∧ HavePlainValues others

end

mutual

/-- Number of levels of lists and tables. -/
def depth : Value → Nat
  | .list items => itemDepth items + 1
  | .table entries => entryDepth entries + 1
  | _ => 0

/-- Greatest number of levels of an item. -/
def itemDepth : List Value → Nat
  | [] => 0
  | first :: others => max first.depth (itemDepth others)

/-- Greatest number of levels of the value of an entry. -/
def entryDepth : List (String × Value) → Nat
  | [] => 0
  | (_, value) :: others => max value.depth (entryDepth others)

end

theorem arePlain_iff {items : List Value} :
    ArePlain items ↔ ∀ item ∈ items, item.IsPlain := by
  induction items with
  | nil => simp [ArePlain]
  | cons item items ih => simp [ArePlain, ih]

theorem havePlainValues_iff {entries : List (String × Value)} :
    HavePlainValues entries ↔ ∀ entry ∈ entries, entry.2.IsPlain := by
  induction entries with
  | nil => simp [HavePlainValues]
  | cons entry entries ih => simp [HavePlainValues, ih]

mutual

theorem isReadable_of_isPlain : ∀ {value : Value}, value.IsPlain →
    value.isReadable = true
  | .null, _ | .boolean _, _ | .integer _, _ | .text _, _ => by
      simp [isReadable]
  | .list _, plain => by
      rw [isReadable]
      exact areReadable_of_arePlain plain
  | .table _, plain => by
      rw [isReadable]
      exact haveReadableValues_of_havePlainValues plain

theorem areReadable_of_arePlain : ∀ {items : List Value}, ArePlain items →
    areReadable items = true
  | [], _ => by rw [areReadable]
  | _ :: _, plain => by
      rw [areReadable, isReadable_of_isPlain plain.1,
        areReadable_of_arePlain plain.2, Bool.and_self]

theorem haveReadableValues_of_havePlainValues :
    ∀ {entries : List (String × Value)}, HavePlainValues entries →
      haveReadableValues entries = true
  | [], _ => by rw [haveReadableValues]
  | (_, _) :: _, plain => by
      rw [haveReadableValues, isReadable_of_isPlain plain.1,
        haveReadableValues_of_havePlainValues plain.2, Bool.and_self]

end

/-- Whether the value is plain and has at most the given number of levels. -/
structure FitsIn (levels : Nat) (value : Value) : Prop where
  plain : value.IsPlain
  shallow : value.depth ≤ levels

theorem FitsIn.mono {value : Value} {fewer more : Nat}
    (fits : value.FitsIn fewer) (atMost : fewer ≤ more) : value.FitsIn more :=
  ⟨fits.plain, Nat.le_trans fits.shallow atMost⟩

theorem fitsIn_text (levels : Nat) (content : String) :
    (text content).FitsIn levels :=
  ⟨trivial, Nat.zero_le levels⟩

theorem itemDepth_le {items : List Value} {bound : Nat}
    (shallow : ∀ item ∈ items, item.depth ≤ bound) :
    itemDepth items ≤ bound := by
  induction items with
  | nil => exact Nat.zero_le bound
  | cons item items ih =>
      rw [itemDepth]
      exact Nat.max_le.mpr ⟨shallow item (by simp), ih fun other member =>
        shallow other (List.mem_cons_of_mem _ member)⟩

theorem entryDepth_le {entries : List (String × Value)} {bound : Nat}
    (shallow : ∀ entry ∈ entries, entry.2.depth ≤ bound) :
    entryDepth entries ≤ bound := by
  induction entries with
  | nil => exact Nat.zero_le bound
  | cons entry entries ih =>
      rw [entryDepth]
      exact Nat.max_le.mpr ⟨shallow entry (by simp), ih fun other member =>
        shallow other (List.mem_cons_of_mem _ member)⟩

theorem fitsIn_list {levels : Nat} {items : List Value}
    (fit : ∀ item ∈ items, item.FitsIn levels) :
    (list items).FitsIn (levels + 1) :=
  ⟨arePlain_iff.mpr fun item member => (fit item member).plain,
    Nat.succ_le_succ
      (itemDepth_le fun item member => (fit item member).shallow)⟩

theorem fitsIn_table {levels : Nat} {entries : List (String × Value)}
    (fit : ∀ entry ∈ entries, entry.2.FitsIn levels) :
    (table entries).FitsIn (levels + 1) :=
  ⟨havePlainValues_iff.mpr fun entry member => (fit entry member).plain,
    Nat.succ_le_succ
      (entryDepth_le fun entry member => (fit entry member).shallow)⟩

theorem fitsIn_ofFields {levels : Nat} {fields : List (String × Option Value)}
    (fit : ∀ field ∈ fields, ∀ value ∈ field.2, value.FitsIn levels) :
    (ofFields fields).FitsIn (levels + 1) := by
  apply fitsIn_table
  intro entry member
  obtain ⟨field, isField, written⟩ := List.mem_filterMap.mp member
  obtain ⟨value, isValue, rfl⟩ := Option.map_eq_some_iff.mp written
  exact fit field isField value isValue

theorem fitsIn_ofInteger (levels : Nat) (number : Int32) :
    (ofInteger number).FitsIn levels := by
  have least := Int32.le_toInt number
  have greatest := Int32.toInt_lt number
  have size : UInt64.size = 18446744073709551616 := rfl
  refine ⟨⟨?_, ?_⟩, Nat.zero_le levels⟩
  · omega
  · omega

theorem fitsIn_ofInstant (levels : Nat) (instant : Instant) :
    (ofInstant instant).FitsIn levels :=
  fitsIn_text levels instant.text

theorem fitsIn_ofTextTable (levels : Nat) (map : SortedMap String) :
    (ofTextTable map).FitsIn (levels + 1) := by
  apply fitsIn_table
  intro entry member
  obtain ⟨given, -, rfl⟩ := List.mem_map.mp member
  exact fitsIn_text levels given.2

theorem fitsIn_map_list {α : Type} {levels : Nat} {write : α → Value}
    (fits : ∀ item, (write item).FitsIn levels) (items : List α) :
    (list (items.map write)).FitsIn (levels + 1) := by
  apply fitsIn_list
  intro value member
  obtain ⟨item, -, rfl⟩ := List.mem_map.mp member
  exact fits item

end Value

end ScheduledJobs.Document
