import ScheduledJobs.Text.Caseless
import ScheduledJobs.Text.LowerCase

/-!
# Lower case of text

Lowering a text again changes nothing, because no character that a run leads to
is moved by a run itself.
-/

namespace ScheduledJobs.Text

/-- Whether the character is an ASCII capital. -/
def IsCapital (character : Char) : Prop :=
  65 ≤ character.toNat ∧ character.toNat ≤ 90

theorem toNat_toLower_of_isCapital {character : Char}
    (capital : IsCapital character) :
    character.toLower.toNat = character.toNat + 32 := by
  obtain ⟨least, greatest⟩ := capital
  have inRange : 'A'.val ≤ character.val ∧ character.val ≤ 'Z'.val :=
    ⟨UInt32.le_iff_toNat_le.mpr least, UInt32.le_iff_toNat_le.mpr greatest⟩
  have distance : ('a'.val - 'A'.val).toNat = 32 := by decide
  have sum : (character.val + ('a'.val - 'A'.val)).toNat =
      character.val.toNat + 32 := by
    change character.val.toNat ≤ 90 at greatest
    rw [UInt32.toNat_add, distance, Nat.mod_eq_of_lt (by omega)]
  unfold Char.toLower
  rw [dif_pos inRange]
  exact sum

theorem toLower_of_not_isCapital {character : Char}
    (notCapital : ¬IsCapital character) : character.toLower = character := by
  unfold Char.toLower
  rw [dif_neg]
  rintro ⟨least, greatest⟩
  exact notCapital
    ⟨UInt32.le_iff_toNat_le.mp least, UInt32.le_iff_toNat_le.mp greatest⟩

theorem toLower_toLower (character : Char) :
    character.toLower.toLower = character.toLower := by
  apply toLower_of_not_isCapital
  rintro ⟨least, greatest⟩
  by_cases capital : IsCapital character
  · have lowered := toNat_toLower_of_isCapital capital
    have bounds := capital.1
    omega
  · rw [toLower_of_not_isCapital capital] at least greatest
    exact capital ⟨least, greatest⟩

@[simp] theorem foldCase_foldCase (characters : List Char) :
    foldCase (foldCase characters) = foldCase characters := by
  simp only [foldCase, List.map_map]
  exact List.map_congr_left fun character _ => toLower_toLower character

/-- Folding the case leads into ASCII from nowhere else. -/
theorem toNat_toLower_lt_iff {character : Char} :
    character.toLower.toNat < 0x80 ↔ character.toNat < 0x80 := by
  by_cases capital : IsCapital character
  · have lowered := toNat_toLower_of_isCapital capital
    have bound := capital.2
    omega
  · rw [toLower_of_not_isCapital capital]

/-- Whether all characters are ASCII. -/
def IsAscii (characters : List Char) : Prop :=
  ∀ character ∈ characters, character.toNat < 0x80

@[simp] theorem isAscii_foldCase {characters : List Char} :
    IsAscii (foldCase characters) ↔ IsAscii characters := by
  simp [IsAscii, foldCase, toNat_toLower_lt_iff]

namespace LowerCase

theorem lowered_of_ascii {character : Char} (ascii : character.toNat < 0x80)
    (before after : List Char) :
    lowered before character after = [character.toLower] := by
  have notSigma : character ≠ 'Σ' := by
    rintro rfl
    exact absurd ascii (by decide)
  have notDotted : character ≠ 'İ' := by
    rintro rfl
    exact absurd ascii (by decide)
  rw [lowered, if_neg notSigma, if_neg notDotted, simple_of_ascii ascii]

theorem lowerAfter_of_ascii {characters : List Char}
    (ascii : IsAscii characters) (before : List Char) :
    lowerAfter before characters = foldCase characters := by
  induction characters generalizing before with
  | nil => rfl
  | cons character characters ih =>
      have first := lowered_of_ascii (ascii character (by simp)) before
        characters
      have others := ih (fun other member =>
        ascii other (List.mem_cons_of_mem _ member)) (character :: before)
      rw [lowerAfter, first, others]
      rfl

theorem toList_lower_of_ascii {text : String} (ascii : IsAscii text.toList) :
    (lower text).toList = foldCase text.toList := by
  rw [lower, String.toList_ofList, lowerAfter_of_ascii ascii]

/-- Whether the characters of the run are lowered to characters beyond
ASCII. -/
def Run.StaysBeyond (run : Run) : Prop :=
  0x80 ≤ run.first + run.offset ∧
    (run.last + run.offset < 0xD800 ∨
      0xE000 ≤ run.first + run.offset ∧ run.last + run.offset < 0x110000)

instance (run : Run) : Decidable run.StaysBeyond :=
  inferInstanceAs (Decidable (_ ∧ _))

/-- The sign of a unit of temperature is the only character beyond ASCII that
is lowered to a letter of ASCII. -/
def kelvin : Char := '\u212A'

theorem staysBeyond_of_mem_runs : ∀ run ∈ runs,
    run.StaysBeyond ∨
      run.first = kelvin.toNat ∧ run.last = kelvin.toNat := by
  decide +kernel

theorem toNat_ofNat_of_isValidChar {code : Nat} (isValid : code.isValidChar) :
    (Char.ofNat code).toNat = code := by
  rw [Char.ofNat, dif_pos isValid]
  rfl

/-- Whether the character with the code is lowered by the run. -/
structure Run.Has (run : Run) (code : Nat) : Prop where
  first_le : run.first ≤ code
  le_last : code ≤ run.last
  inStep : (code - run.first) % run.step = 0

/-- Whether the character with the one code is lowered by the run to the
character with the other code, beyond ASCII. -/
structure Run.Moves (run : Run) (code image : Nat) : Prop where
  has : run.Has code
  staysBeyond : run.StaysBeyond
  moved : (image : Int) = code + run.offset

theorem Run.Moves.beyond {run : Run} {code image : Nat}
    (moves : run.Moves code image) : ¬image < 0x80 := by
  have bound := moves.staysBeyond.1
  have least := moves.has.first_le
  have moved := moves.moved
  omega

theorem simple_cases {character : Char} (beyond : ¬character.toNat < 0x80) :
    character = kelvin ∨
      (∃ run ∈ runs, run.Moves character.toNat (simple character).toNat) ∨
      simple character = character := by
  cases found : runs.find? fun run =>
      run.first ≤ character.toNat && character.toNat ≤ run.last &&
        (character.toNat - run.first) % run.step == 0 with
  | none => exact .inr (.inr (by rw [simple, if_neg beyond, found]))
  | some run =>
      have member := List.mem_of_find?_eq_some found
      have inRun := List.find?_some found
      simp only [Bool.and_eq_true, decide_eq_true_eq, beq_iff_eq] at inRun
      obtain ⟨⟨least, greatest⟩, inStep⟩ := inRun
      rcases staysBeyond_of_mem_runs run member with
        staysBeyond | ⟨first, last⟩
      · have isValid : (character.toNat + run.offset).toNat.isValidChar := by
          rcases staysBeyond with ⟨bound, low | ⟨high, top⟩⟩
          · exact .inl (by omega)
          · exact .inr ⟨by omega, by omega⟩
        have code := toNat_ofNat_of_isValidChar isValid
        refine .inr (.inl
          ⟨run, member, ⟨least, greatest, inStep⟩, staysBeyond, ?_⟩)
        have bound := staysBeyond.1
        rw [simple, if_neg beyond, found]
        dsimp only
        omega
      · exact .inl (Char.toNat_inj.mp (by omega))

theorem simple_of_forall_not_has {character : Char}
    (beyond : ¬character.toNat < 0x80)
    (noRun : ∀ run ∈ runs, ¬run.Has character.toNat) :
    simple character = character := by
  have notFound : (runs.find? fun run =>
      run.first ≤ character.toNat && character.toNat ≤ run.last &&
        (character.toNat - run.first) % run.step == 0) = none := by
    refine List.find?_eq_none.mpr fun run member inRun => noRun run member ?_
    simp only [Bool.and_eq_true, decide_eq_true_eq, beq_iff_eq] at inRun
    exact ⟨inRun.1.1, inRun.1.2, inRun.2⟩
  rw [simple, if_neg beyond, notFound]

/-- Whether no character of the other run is the lower-case form of one of the
run: the other run lies aside of those forms, or has the characters between
them. -/
def Run.misses (run other : Run) : Bool :=
  Nat.blt (run.last + run.offset).toNat other.first ||
    Nat.blt other.last (run.first + run.offset).toNat ||
    (other.step == 2 && (run.step == 2 || run.first == run.last) &&
      ((run.first + run.offset).toNat + other.first) % 2 == 1)

theorem misses_of_mem_runs :
    (runs.all fun run => runs.all run.misses) = true := by
  decide +kernel

theorem Run.Moves.not_has {run other : Run} {code image : Nat}
    (moves : run.Moves code image) (aside : run.misses other = true) :
    ¬other.Has image := by
  obtain ⟨⟨least, greatest, inStep⟩, ⟨bound, -⟩, moved⟩ := moves
  rintro ⟨otherLeast, otherGreatest, otherInStep⟩
  simp only [misses, Bool.or_eq_true, Bool.and_eq_true, Nat.blt_eq,
    beq_iff_eq] at aside
  rcases aside with (before | after) | ⟨⟨otherStep, step | single⟩, odd⟩
  · omega
  · omega
  · rw [step] at inStep
    rw [otherStep] at otherInStep
    omega
  · rw [otherStep] at otherInStep
    omega

@[simp] theorem simple_simple (character : Char) :
    simple (simple character) = simple character := by
  by_cases ascii : character.toNat < 0x80
  · rw [simple_of_ascii ascii,
      simple_of_ascii (toNat_toLower_lt_iff.mpr ascii), toLower_toLower]
  · rcases simple_cases ascii with rfl | ⟨run, member, moves⟩ | stays
    · decide +kernel
    · have aside := List.all_eq_true.mp misses_of_mem_runs run member
      exact simple_of_forall_not_has moves.beyond fun other isRun =>
        moves.not_has (List.all_eq_true.mp aside other isRun)
    · rw [stays, stays]

/-- Whether the character is lowered to itself between any neighbours. -/
structure IsLowered (character : Char) : Prop where
  stays : simple character = character
  notSigma : character ≠ 'Σ'
  notDotted : character ≠ 'İ'

/-- The capital I with a dot as a run of its own. -/
def dotted : Run := ⟨'İ'.toNat, 'İ'.toNat, 1, 0⟩

theorem misses_dotted_of_mem_runs :
    ∀ run ∈ runs, run.misses dotted = true := by
  decide +kernel

theorem simple_ne_dotted {character : Char} (notDotted : character ≠ 'İ') :
    simple character ≠ 'İ' := by
  intro isDotted
  by_cases ascii : character.toNat < 0x80
  · rw [simple_of_ascii ascii] at isDotted
    have bound := toNat_toLower_lt_iff.mpr ascii
    rw [isDotted] at bound
    exact absurd bound (by decide)
  · rcases simple_cases ascii with rfl | ⟨run, member, moves⟩ | stays
    · exact absurd isDotted (by decide +kernel)
    · rw [isDotted] at moves
      exact moves.not_has (misses_dotted_of_mem_runs run member)
        ⟨Nat.le_refl _, Nat.le_refl _, by decide⟩
    · exact notDotted (stays ▸ isDotted)

theorem isLowered_simple {character : Char} (notDotted : character ≠ 'İ') :
    IsLowered (simple character) where
  stays := simple_simple character
  notSigma := by
    intro isSigma
    have stays := simple_simple character
    rw [isSigma] at stays
    exact absurd stays (by decide +kernel)
  notDotted := simple_ne_dotted notDotted

theorem isLowered_of_mem_lowered {before after : List Char}
    {character result : Char}
    (member : result ∈ lowered before character after) : IsLowered result := by
  unfold lowered at member
  split at member
  · obtain rfl := List.mem_singleton.mp member
    unfold sigma
    split <;> constructor <;> decide +kernel
  · split at member
    · simp only [List.mem_cons, List.not_mem_nil, or_false] at member
      rcases member with rfl | rfl <;> constructor <;> decide +kernel
    · next notDotted =>
        obtain rfl := List.mem_singleton.mp member
        exact isLowered_simple notDotted

theorem isLowered_of_mem_lowerAfter {before characters : List Char}
    {result : Char} (member : result ∈ lowerAfter before characters) :
    IsLowered result := by
  induction characters generalizing before with
  | nil => cases member
  | cons character after ih =>
      rcases List.mem_append.mp member with first | others
      · exact isLowered_of_mem_lowered first
      · exact ih others

theorem lowerAfter_of_isLowered {characters : List Char}
    (areLowered : ∀ character ∈ characters, IsLowered character)
    (before : List Char) : lowerAfter before characters = characters := by
  induction characters generalizing before with
  | nil => rfl
  | cons character after ih =>
      obtain ⟨first, others⟩ := List.forall_mem_cons.mp areLowered
      rw [lowerAfter, lowered, if_neg first.notSigma, if_neg first.notDotted,
        first.stays, ih others]
      rfl

@[simp] theorem lower_lower (text : String) :
    lower (lower text) = lower text := by
  have areLowered : ∀ character ∈ lowerAfter [] text.toList,
      IsLowered character := fun _ => isLowered_of_mem_lowerAfter
  simp only [lower, String.toList_ofList, lowerAfter_of_isLowered areLowered]

theorem isAscii_or_kelvin_of_simple {character : Char}
    (ascii : (simple character).toNat < 0x80) :
    character.toNat < 0x80 ∨ character = kelvin := by
  by_cases isAscii : character.toNat < 0x80
  · exact .inl isAscii
  · rcases simple_cases isAscii with isKelvin | ⟨run, -, moves⟩ | stays
    · exact .inr isKelvin
    · exact absurd ascii moves.beyond
    · rw [stays] at ascii
      exact .inl ascii

theorem isAscii_or_kelvin_of_lowered {before after : List Char}
    {character : Char} (ascii : IsAscii (lowered before character after)) :
    character.toNat < 0x80 ∨ character = kelvin := by
  unfold lowered at ascii
  split at ascii
  · have sigma := ascii _ (List.mem_singleton_self _)
    unfold LowerCase.sigma at sigma
    split at sigma <;> exact absurd sigma (by decide)
  · split at ascii
    · exact absurd (ascii '\u0307' (by simp)) (by decide)
    · exact isAscii_or_kelvin_of_simple
        (ascii _ (List.mem_singleton_self _))

theorem isAscii_of_lowerAfter {before characters : List Char}
    (ascii : IsAscii (lowerAfter before characters))
    (noKelvin : 'k' ∉ lowerAfter before characters) : IsAscii characters := by
  induction characters generalizing before with
  | nil => exact nofun
  | cons character after ih =>
      rw [lowerAfter] at ascii noKelvin
      obtain ⟨first, others⟩ := List.forall_mem_append.mp ascii
      rw [List.mem_append, not_or] at noKelvin
      refine List.forall_mem_cons.mpr ⟨?_, ih others noKelvin.2⟩
      rcases isAscii_or_kelvin_of_lowered first with isAscii | rfl
      · exact isAscii
      · have letter : lowered before kelvin after = ['k'] := by
          rw [lowered, if_neg (by decide), if_neg (by decide)]
          decide +kernel
        exact absurd (by simp [letter]) noKelvin.1

/-- A text is ASCII when its lower-case form is, and has no letter that a
character beyond ASCII is lowered to. -/
theorem isAscii_of_lower {text : String}
    (ascii : IsAscii (lower text).toList)
    (noKelvin : 'k' ∉ (lower text).toList) : IsAscii text.toList := by
  rw [lower, String.toList_ofList] at ascii noKelvin
  exact isAscii_of_lowerAfter ascii noKelvin

end LowerCase

theorem isAscii_of_caselessEq {candidate text : String}
    (ascii : IsAscii candidate.toList)
    (agrees : caselessEq candidate text = true) : IsAscii text.toList := by
  rw [← isAscii_foldCase, ← caselessEq_iff.mp agrees]
  exact isAscii_foldCase.mpr ascii

end ScheduledJobs.Text
