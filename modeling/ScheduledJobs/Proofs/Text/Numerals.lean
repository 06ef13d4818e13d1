import ScheduledJobs.Text.Decimal
import ScheduledJobs.Text.Hexadecimal

/-! # Reading numerals back -/

namespace ScheduledJobs.Text

/-- Items that leave the state as it is may stand in front. -/
theorem foldl_replicate_append {σ α : Type} {step : σ → α → σ} {state : σ}
    {item : α} (fixed : step state item = state) (count : Nat)
    (items : List α) :
    (List.replicate count item ++ items).foldl step state =
      items.foldl step state := by
  induction count with
  | zero => rfl
  | succ count ih =>
      rw [List.replicate_succ, List.cons_append, List.foldl_cons, fixed, ih]

namespace Decimal

theorem accumulate_eq_ofDigitChars (high : Nat) (digits : List Char) :
    accumulate high digits = Nat.ofDigitChars 10 digits high := by
  simp only [accumulate, Nat.ofDigitChars, Nat.mul_comm]

@[simp] theorem value_natural (number : Nat) :
    value (natural number) = number := by
  rw [value, accumulate_eq_ofDigitChars]
  exact Nat.ofDigitChars_ten_toDigits

theorem value_replicate_zero (count : Nat) (digits : List Char) :
    value (List.replicate count '0' ++ digits) = value digits :=
  foldl_replicate_append rfl count digits

@[simp] theorem value_padded (width number : Nat) :
    value (padded width number) = number := by
  rw [padded, value_replicate_zero, value_natural]

theorem isDigit_of_mem_natural {number : Nat} {character : Char}
    (member : character ∈ natural number) : character.isDigit = true :=
  Nat.isDigit_of_mem_toDigits (by decide) (by decide) member

theorem natural_ne_nil (number : Nat) : natural number ≠ [] :=
  Nat.toDigits_ne_nil

/-- Only the numeral of zero begins with the digit zero. -/
theorem head_natural_ne_zero {number : Nat} (positive : 0 < number)
    (digits : List Char) : natural number ≠ '0' :: digits := by
  induction number using Nat.strongRecOn generalizing digits with
  | ind number ih =>
      intro equal
      rw [natural, Nat.toDigits_eq_if (by decide)] at equal
      split at equal
      case isTrue small =>
        have sameDigit : number.digitChar = '0' := (List.cons.inj equal).1
        have code := congrArg Char.toNat sameDigit
        rw [Nat.toNat_digitChar_of_lt_ten small] at code
        have zeroCode : '0'.toNat = 48 := rfl
        omega
      case isFalse large =>
        cases front : Nat.toDigits 10 (number / 10) with
        | nil => exact Nat.toDigits_ne_nil front
        | cons first rest =>
            rw [front, List.cons_append, List.cons.injEq] at equal
            exact ih (number / 10) (by omega) (by omega) rest
              (by rw [natural, front, equal.1])

theorem isDigit_of_mem_padded {width number : Nat} {character : Char}
    (member : character ∈ padded width number) :
    character.isDigit = true := by
  rcases List.mem_append.mp member with zero | digit
  · rw [List.eq_of_mem_replicate zero]
    rfl
  · exact isDigit_of_mem_natural digit

theorem length_padded {width number : Nat} (positive : 0 < width)
    (bounded : number < Nat.pow 10 width) :
    (padded width number).length = width := by
  have fits : (natural number).length ≤ width :=
    (Nat.length_toDigits_le_iff (by decide) positive).mpr bounded
  simp only [padded, List.length_append, List.length_replicate]
  omega

theorem accumulate_replicate_zero (high count : Nat) :
    accumulate high (List.replicate count '0') = high * Nat.pow 10 count := by
  induction count generalizing high with
  | zero => simp
  | succ count ih =>
      rw [List.replicate_succ, accumulate_cons, ih]
      simp only [Nat.pow_eq, Nat.pow_succ, Nat.sub_self, Nat.add_zero]
      rw [Nat.mul_assoc, Nat.mul_comm 10]

theorem value_append_zeros (digits : List Char) (count : Nat) :
    value (digits ++ List.replicate count '0') =
      value digits * Nat.pow 10 count := by
  rw [value, accumulate_append, accumulate_replicate_zero, value]

theorem natural_injective {first second : Nat}
    (equal : natural first = natural second) : first = second := by
  rw [← value_natural first, equal, value_natural]

theorem hyphen_not_mem_natural (number : Nat) : '-' ∉ natural number :=
  fun member => absurd (isDigit_of_mem_natural member) (by decide)

/-- What stands in front of the digits of a number. -/
def sign : Int → List Char
  | .ofNat _ => []
  | .negSucc _ => ['-']

theorem sign_of_neg {number : Int} (negative : number < 0) :
    sign number = ['-'] := by
  cases number with
  | ofNat number => exact absurd negative (by simp)
  | negSucc number => rfl

theorem sign_of_nonneg {number : Int} (nonneg : 0 ≤ number) :
    sign number = [] := by
  cases number with
  | ofNat number => rfl
  | negSucc number => exact absurd nonneg (by simp)

/-- The digits after the last hyphen are found again. -/
theorem append_hyphen_natural_inj {first second : List Char}
    {number other : Nat}
    (equal : first ++ '-' :: natural number =
      second ++ '-' :: natural other) :
    first = second ∧ number = other := by
  have apart (number : Nat) (middle rest : List Char) :
      natural number ≠ middle ++ '-' :: rest := fun equal =>
    hyphen_not_mem_natural number (by simp [equal])
  rcases List.append_eq_append_iff.mp equal with
    ⟨middle, isSecond, isRest⟩ | ⟨middle, isFirst, isRest⟩
  · cases middle with
    | nil =>
        obtain rfl : second = first := by simpa using isSecond
        exact ⟨rfl, natural_injective (List.cons.inj isRest).2⟩
    | cons hyphen middle =>
        exact absurd (List.cons.inj isRest).2 (apart _ _ _)
  · cases middle with
    | nil =>
        obtain rfl : first = second := by simpa using isFirst
        exact ⟨rfl, (natural_injective (List.cons.inj isRest).2).symm⟩
    | cons hyphen middle =>
        exact absurd (List.cons.inj isRest).2 (apart _ _ _)

/-- The hyphen changes places with the sign. -/
theorem append_hyphen_integer (first : List Char) (number : Int) :
    first ++ '-' :: integer number =
      (first ++ sign number) ++ '-' :: natural number.natAbs := by
  cases number <;> simp [integer, sign]

/-- A text that is followed by a hyphen and a number can be divided in another
way only if the hyphen is taken for the sign of the number. -/
theorem append_hyphen_integer_inj {first second : List Char}
    {number other : Int} :
    first ++ '-' :: integer number = second ++ '-' :: integer other ↔
      (first = second ∧ number = other) ∨
      (0 < number ∧ other = -number ∧ first = second ++ ['-']) ∨
      (0 < other ∧ number = -other ∧ second = first ++ ['-']) := by
  have divided : first ++ '-' :: integer number =
      second ++ '-' :: integer other ↔
      first ++ sign number = second ++ sign other ∧
        number.natAbs = other.natAbs := by
    rw [append_hyphen_integer, append_hyphen_integer]
    constructor
    · exact append_hyphen_natural_inj
    · rintro ⟨front, digits⟩
      rw [front, digits]
  rw [divided]
  rcases Int.lt_or_le number 0 with negative | nonneg <;>
    rcases Int.lt_or_le other 0 with otherNegative | otherNonneg
  · rw [sign_of_neg negative, sign_of_neg otherNegative,
      List.append_left_inj]
    grind
  · rw [sign_of_neg negative, sign_of_nonneg otherNonneg, List.append_nil]
    grind
  · rw [sign_of_nonneg nonneg, sign_of_neg otherNegative, List.append_nil]
    grind
  · rw [sign_of_nonneg nonneg, sign_of_nonneg otherNonneg, List.append_nil,
      List.append_nil]
    grind

end Decimal

namespace Hexadecimal

/-- The number that digits of either case denote. -/
def value (digits : List Char) : Nat :=
  digits.foldl (fun number character =>
    number * 16 + (digit? character).getD 0) 0

theorem value_concat (digits : List Char) (last : Char) :
    value (digits ++ [last]) =
      value digits * 16 + (digit? last).getD 0 := by
  rw [value, List.foldl_append]
  rfl

theorem digit?_toUpper_digit :
    ∀ number < 16, digit? (digit number).toUpper = some number := by
  decide

theorem value_capitals_natural (number : Nat) :
    value ((natural number).map Char.toUpper) = number := by
  induction number using Nat.strongRecOn with
  | ind number ih =>
      have last : digit? (digit (number % 16)).toUpper = some (number % 16) :=
        digit?_toUpper_digit _ (by omega)
      rw [natural, Nat.toDigits_eq_if (by decide)]
      split
      case isTrue small =>
        rw [Nat.mod_eq_of_lt small] at last
        change 0 * 16 + (digit? (digit number).toUpper).getD 0 = number
        rw [last, Option.getD_some, Nat.zero_mul, Nat.zero_add]
      case isFalse large =>
        have front := ih (number / 16) (by omega)
        change value (List.map Char.toUpper
          (natural (number / 16) ++ [digit (number % 16)])) = number
        rw [List.map_append, List.map_singleton, value_concat, front, last,
          Option.getD_some]
        omega

theorem value_replicate_zero (count : Nat) (digits : List Char) :
    value (List.replicate count '0' ++ digits) = value digits :=
  foldl_replicate_append rfl count digits

@[simp] theorem value_capitals (width number : Nat) :
    value (capitals width number) = number := by
  have zero : '0'.toUpper = '0' := rfl
  rw [capitals, padded, List.map_append, List.map_replicate, zero,
    value_replicate_zero, value_capitals_natural]

theorem capitals_injective {width first second : Nat}
    (equal : capitals width first = capitals width second) :
    first = second := by
  rw [← value_capitals width first, equal, value_capitals]

end Hexadecimal

end ScheduledJobs.Text
