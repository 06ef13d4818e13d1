import ScheduledJobs.Instant.Text
import ScheduledJobs.Proofs.Results
import ScheduledJobs.Proofs.Text.Numerals

/-!
# Timestamps are read back

Each number of a timestamp ends at a character that is no digit, so every number
is read in full, whatever follows it.
-/

namespace ScheduledJobs.Instant

open Text

/-- Whether a number ends in front of these characters. -/
def EndsDigits (rest : List Char) : Prop :=
  ∀ character ∈ rest.head?, character.isDigit = false

theorem endsDigits_cons {character : Char}
    (notDigit : character.isDigit = false) (rest : List Char) :
    EndsDigits (character :: rest) := by
  intro head isHead
  obtain rfl : character = head := by simpa using isHead
  exact notDigit

theorem takeWhile_isDigit {digits : List Char}
    (allDigits : ∀ character ∈ digits, character.isDigit = true)
    {rest : List Char} (ends : EndsDigits rest) (width : Nat) :
    ((digits ++ rest).take width).takeWhile Char.isDigit =
      digits.take width := by
  induction digits generalizing width with
  | nil =>
      cases width with
      | zero => rfl
      | succ width =>
          cases rest with
          | nil => rfl
          | cons character rest =>
              have notDigit := ends character rfl
              simp [notDigit]
  | cons digit digits ih =>
      cases width with
      | zero => rfl
      | succ width =>
          have isDigit := allDigits digit (by simp)
          have others := ih (fun other member =>
            allDigits other (List.mem_cons_of_mem _ member)) width
          simp [isDigit, others]

theorem takeDigits_append {digits : List Char}
    (allDigits : ∀ character ∈ digits, character.isDigit = true)
    {rest : List Char} (ends : EndsDigits rest) {width : Nat}
    (fits : digits.length ≤ width) :
    takeDigits width (digits ++ rest) = (digits, rest) := by
  have taken := takeWhile_isDigit allDigits ends width
  rw [List.take_of_length_le fits] at taken
  simp [takeDigits, taken]

theorem isBlank_of_isDigit {character : Char}
    (digit : character.isDigit = true) : isBlank character = false := by
  simp only [Char.isDigit, Bool.and_eq_true, decide_eq_true_eq] at digit
  obtain ⟨least, greatest⟩ := digit
  have atLeast : 48 ≤ character.toNat := UInt32.le_iff_toNat_le.mp least
  have atMost : character.toNat ≤ 57 := UInt32.le_iff_toNat_le.mp greatest
  simp only [isBlank, Bool.or_eq_false_iff, Bool.and_eq_false_iff,
    decide_eq_false_iff_not, beq_eq_false_iff_ne]
  omega

theorem skipBlanks_cons {character : Char}
    (visible : isBlank character = false) (rest : List Char) :
    skipBlanks (character :: rest) = character :: rest := by
  simp [skipBlanks, visible]

theorem exists_padded (width number : Nat) :
    ∃ digit digits, Decimal.padded width number = digit :: digits ∧
      digit.isDigit = true := by
  cases written : Decimal.padded width number with
  | nil =>
      have empty := List.append_eq_nil_iff.mp written
      exact absurd empty.2 (Decimal.natural_ne_nil number)
  | cons digit digits =>
      have member : digit ∈ Decimal.padded width number := by simp [written]
      exact ⟨digit, digits, rfl, Decimal.isDigit_of_mem_padded member⟩

theorem skipBlanks_padded (width number : Nat) (rest : List Char) :
    skipBlanks (Decimal.padded width number ++ rest) =
      Decimal.padded width number ++ rest := by
  obtain ⟨digit, digits, written, isDigit⟩ := exists_padded width number
  rw [written, List.cons_append, skipBlanks_cons (isBlank_of_isDigit isDigit)]

theorem takeDigits_padded {width room number : Nat} {rest : List Char}
    (ends : EndsDigits rest)
    (fits : (Decimal.padded width number).length ≤ room) :
    takeDigits room (Decimal.padded width number ++ rest) =
      (Decimal.padded width number, rest) :=
  takeDigits_append (fun _ member => Decimal.isDigit_of_mem_padded member)
    ends fits

theorem number?_padded {width number : Nat} {rest : List Char}
    (ends : EndsDigits rest) (positive : 0 < width)
    (bounded : number < Nat.pow 10 width) :
    number? width (Decimal.padded width number ++ rest) =
      some (number, rest) := by
  have fits := Nat.le_of_eq (Decimal.length_padded positive bounded)
  rw [number?, skipBlanks_padded, takeDigits_padded ends fits]
  obtain ⟨digit, digits, written, -⟩ := exists_padded width number
  have value := Decimal.value_padded width number
  rw [written] at value ⊢
  simp [value]

/-- Every number of a timestamp but the year and the fraction has two
digits. -/
theorem number?_two {number : Nat} (bounded : number < 100) {rest : List Char}
    (ends : EndsDigits rest) :
    number? 2 (Decimal.padded 2 number ++ rest) = some (number, rest) :=
  number?_padded ends (by decide) bounded

theorem signed_padded (sign : Int) (number : Nat) {rest : List Char}
    (ends : EndsDigits rest) :
    year?.signed sign (Decimal.padded 4 number ++ rest) =
      some (sign * number, rest) := by
  rw [year?.signed, takeDigits_padded ends (by simp)]
  obtain ⟨digit, digits, written, -⟩ := exists_padded 4 number
  have value := Decimal.value_padded 4 number
  rw [written] at value ⊢
  simp [value]

theorem year?_yearText (year : Int) {rest : List Char}
    (ends : EndsDigits rest) :
    year? (yearText year ++ rest) = some (year, rest) := by
  unfold yearText
  split
  case isTrue unsigned =>
    have bounded : year.toNat < Nat.pow 10 4 := by
      change year.toNat < 10000
      omega
    have number := number?_padded ends (by decide) bounded
    obtain ⟨digit, digits, written, isDigit⟩ := exists_padded 4 year.toNat
    rw [year?, skipBlanks_padded]
    split
    · next equal =>
        rw [written] at equal
        obtain rfl := (List.cons.inj equal).1
        exact absurd isDigit (by decide)
    · next equal =>
        rw [written] at equal
        obtain rfl := (List.cons.inj equal).1
        exact absurd isDigit (by decide)
    · have value : Int.ofNat year.toNat = year :=
        Int.toNat_of_nonneg unsigned.1
      rw [number, Option.map_some]
      simp only [value]
  case isFalse signed =>
    split
    case isTrue negative =>
      have read := signed_padded (-1) year.natAbs ends
      have value : -1 * (year.natAbs : Int) = year := by omega
      rwa [value] at read
    case isFalse notNegative =>
      have read := signed_padded 1 year.natAbs ends
      have value : 1 * (year.natAbs : Int) = year := by omega
      rwa [value] at read

theorem fraction?_padded {width number : Nat} {rest : List Char}
    (ends : EndsDigits rest) (positive : 0 < width) (short : width ≤ 9)
    (bounded : number < Nat.pow 10 width) :
    fraction? ('.' :: Decimal.padded width number ++ rest) =
      some (number * Nat.pow 10 (9 - width), rest) := by
  have length := Decimal.length_padded positive bounded
  have value :=
    Decimal.value_append_zeros (Decimal.padded width number) (9 - width)
  have stopped : rest.dropWhile Char.isDigit = rest := by
    cases rest with
    | nil => rfl
    | cons character rest => simp [ends character rfl]
  have fits : (Decimal.padded width number).length ≤ 9 := by
    rw [length]
    exact short
  rw [List.cons_append, fraction?, takeDigits_padded ends fits]
  rw [Decimal.value_padded] at value
  obtain ⟨digit, digits, written, -⟩ := exists_padded width number
  rw [written] at value length ⊢
  simp only [length, value, stopped]

theorem fraction?_fractionText {nanosecond : Nat}
    (bounded : nanosecond < nanosecondsPerSecond) :
    fraction? (fractionText nanosecond ++ ['Z']) =
      some (nanosecond, ['Z']) := by
  have ends : EndsDigits ['Z'] := endsDigits_cons (by decide) []
  have bound : nanosecond < 1000000000 := bounded
  unfold fractionText
  split
  case isTrue zero =>
    subst zero
    rfl
  case isFalse =>
    split
    case isTrue thousandths =>
      have fits : nanosecond / 1000000 < Nat.pow 10 3 := by
        change nanosecond / 1000000 < 1000
        omega
      have whole : nanosecond / 1000000 * Nat.pow 10 (9 - 3) = nanosecond := by
        change nanosecond / 1000000 * 1000000 = nanosecond
        omega
      have read := fraction?_padded ends (by decide) (by decide) fits
      rwa [whole] at read
    case isFalse =>
      split
      case isTrue millionths =>
        have fits : nanosecond / 1000 < Nat.pow 10 6 := by
          change nanosecond / 1000 < 1000000
          omega
        have whole : nanosecond / 1000 * Nat.pow 10 (9 - 6) = nanosecond := by
          change nanosecond / 1000 * 1000 = nanosecond
          omega
        have read := fraction?_padded ends (by decide) (by decide) fits
        rwa [whole] at read
      case isFalse =>
        have read :=
          fraction?_padded ends (by decide) (Nat.le_refl 9) bounded
        simpa using read

theorem endsDigits_fractionText (nanosecond : Nat) :
    EndsDigits (fractionText nanosecond ++ ['Z']) := by
  unfold fractionText
  split
  · exact endsDigits_cons (by decide) []
  · split
    · exact endsDigits_cons (by decide) _
    · split <;> exact endsDigits_cons (by decide) _

theorem ofCharacters?_of_parts {timestamp afterYear beforeMonth afterMonth
      beforeDay afterDay beforeHour afterHour beforeMinute afterMinute
      beforeSecond afterSecond afterFraction rest : List Char}
    {year : Int} {month day hour minute second nanosecond : Nat} {offset : Int}
    (isYear : year? timestamp = some (year, afterYear))
    (monthFollows : separator? '-' afterYear = some beforeMonth)
    (isMonth : number? 2 beforeMonth = some (month, afterMonth))
    (dayFollows : separator? '-' afterMonth = some beforeDay)
    (isDay : number? 2 beforeDay = some (day, afterDay))
    (hourFollows : divider? afterDay = some beforeHour)
    (isHour : number? 2 beforeHour = some (hour, afterHour))
    (minuteFollows : separator? ':' afterHour = some beforeMinute)
    (isMinute : number? 2 beforeMinute = some (minute, afterMinute))
    (secondFollows : separator? ':' afterMinute = some beforeSecond)
    (isSecond : number? 2 beforeSecond = some (second, afterSecond))
    (isFraction : fraction? afterSecond = some (nanosecond, afterFraction))
    (isOffset : offset? afterFraction = some (offset, rest))
    (blank : rest.all isBlank = true) :
    ofCharacters? timestamp = (do
      let date ← Date.of? year month day
      let shown ← of? date hour minute second nanosecond
      shown.withoutOffset? offset) := by
  unfold ofCharacters?
  refine (bind_of_eq_some isYear _).trans ?_
  refine (bind_of_eq_some monthFollows _).trans ?_
  refine (bind_of_eq_some isMonth _).trans ?_
  refine (bind_of_eq_some dayFollows _).trans ?_
  refine (bind_of_eq_some isDay _).trans ?_
  refine (bind_of_eq_some hourFollows _).trans ?_
  refine (bind_of_eq_some isHour _).trans ?_
  refine (bind_of_eq_some minuteFollows _).trans ?_
  refine (bind_of_eq_some isMinute _).trans ?_
  refine (bind_of_eq_some secondFollows _).trans ?_
  refine (bind_of_eq_some isSecond _).trans ?_
  refine (bind_of_eq_some isFraction _).trans ?_
  refine (bind_of_eq_some isOffset _).trans ?_
  exact if_pos blank

@[simp] theorem ofText?_text (instant : Instant) :
    ofText? instant.text = some instant := by
  obtain ⟨hourBound, minuteBound, secondBound, nanosecondBound⟩ :=
    instant.inDay
  have monthBound : instant.date.month < 100 :=
    Nat.lt_of_le_of_lt instant.date.inYear.2 (by decide)
  have dayBound : instant.date.day < 100 := by
    have atMost : daysInMonth instant.date.year instant.date.month ≤ 31 := by
      unfold daysInMonth
      split
      · split <;> omega
      · omega
      · omega
      · omega
      · omega
      · omega
    have inMonth := instant.date.inMonth.2
    omega
  have dash (rest : List Char) : EndsDigits ('-' :: rest) :=
    endsDigits_cons (by decide) rest
  have colon (rest : List Char) : EndsDigits (':' :: rest) :=
    endsDigits_cons (by decide) rest
  have letter (rest : List Char) : EndsDigits ('T' :: rest) :=
    endsDigits_cons (by decide) rest
  have separate (separator : Char) (visible : isBlank separator = false)
      (rest : List Char) :
      separator? separator (separator :: rest) = some rest := by
    rw [separator?, skipBlanks_cons visible]
    simp
  have universal : offset? ['Z'] = some (0, []) := by
    rw [offset?, skipBlanks_cons (by decide)]
    rfl
  have hour : instant.hour < 100 := Nat.lt_trans hourBound (by decide)
  have minute : instant.minute < 100 := Nat.lt_trans minuteBound (by decide)
  have second : instant.second < 100 :=
    Nat.lt_of_le_of_lt secondBound (by decide)
  have read := ofCharacters?_of_parts
    (year?_yearText instant.date.year (dash _)) (separate '-' (by decide) _)
    (number?_two monthBound (dash _)) (separate '-' (by decide) _)
    (number?_two dayBound (letter _)) rfl
    (number?_two hour (colon _)) (separate ':' (by decide) _)
    (number?_two minute (colon _)) (separate ':' (by decide) _)
    (number?_two second (endsDigits_fractionText instant.nanosecond))
    (fraction?_fractionText nanosecondBound) universal rfl
  rw [ofText?, text, String.toList_ofList, characters]
  simp only [List.append_assoc, List.cons_append]
  rw [read, Date.of?_self]
  refine (bind_of_eq_some rfl _).trans ?_
  refine (bind_of_eq_some (of?_self instant) _).trans ?_
  exact withoutOffset?_zero instant

end ScheduledJobs.Instant
