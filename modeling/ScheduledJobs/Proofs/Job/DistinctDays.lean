import ScheduledJobs.Proofs.IdentitySet.Keys
import ScheduledJobs.Proofs.Job.Occurrences
import ScheduledJobs.Proofs.Text.Octets

/-!
# Days are told apart

No two days of the week have the same identity, and neither have any two of the
numbered days that a month can have.
-/

namespace ScheduledJobs

open Text

namespace DayName

/-- The name of the day without regard to case. -/
def folded (day : DayName) : List Char := foldCase day.name.toList

def week : List DayName := dayNames.map DayName.mk

theorem identity_eq_of_folded (first second : DayName)
    (isFirst : first.InDomain) (isSecond : second.InDomain)
    (same : first.folded = second.folded) :
    identity first = identity second := by
  have lowered :
      LowerCase.lower first.name = LowerCase.lower second.name := by
    rw [← String.toList_inj,
      toList_lower_of_isValid (isValid_iff.mpr isFirst),
      toList_lower_of_isValid (isValid_iff.mpr isSecond)]
    exact same
  exact congrArg (fun text => Fingerprint.ofOctets (Utf8.encode text)) lowered

theorem exists_mem_week {day : DayName} (isDay : day.InDomain) :
    ∃ usual ∈ week, usual.InDomain ∧ usual.folded = day.folded := by
  obtain ⟨name, isName, agrees⟩ := isDay
  exact ⟨_, List.mem_map_of_mem isName, ⟨name, isName, rfl⟩, agrees⟩

theorem nodup_identity_week : (week.map identity).Nodup := by
  decide +kernel

/-- The identities of days tell their names apart, without regard to case. -/
theorem isKeyed_folded : IdentitySet.IsKeyed InDomain folded :=
  .of_representatives identity_eq_of_folded nodup_identity_week
    fun _ => exists_mem_week

end DayName

namespace MonthlyOccurrence

/-- The name of the day without regard to case, and its number. -/
def folded (numbered : MonthlyOccurrence) : List Char × Int32 :=
  (numbered.day.folded, numbered.occurrence)

/-- The numbers that a day can have in a month. -/
def numbers : List Int32 := [-5, -4, -3, -2, -1, 1, 2, 3, 4, 5]

def ofMonth : List MonthlyOccurrence :=
  DayName.week.flatMap fun day => numbers.map (MonthlyOccurrence.mk day)

/-- What is taken into the fingerprint of a day for its number. -/
def numberOctets (number : Int32) : List UInt8 :=
  Utf8.octets ('-' :: Decimal.integer number.toInt ++ ['-'])

theorem identity_eq_foldl (numbered : MonthlyOccurrence) :
    identity numbered = (numberOctets numbered.occurrence).foldl
      Fingerprint.absorb (identity numbered.day) := by
  change Fingerprint.ofOctets
    (Utf8.encode (String.ofList numbered.identityText)) = _
  rw [Utf8.encode_ofList, identityText, List.append_assoc,
    Utf8.octets_append, Fingerprint.ofOctets_append, ← Utf8.encode_eq_octets]
  rfl

theorem mem_numbers {number : Int32} (nonzero : number ≠ 0)
    (within : IsWithin (-5) 5 number) : number ∈ numbers := by
  have notZero : number.toInt ≠ 0 :=
    fun zero => nonzero (toInt_eq_zero_iff.mp zero)
  obtain ⟨least, greatest⟩ := within
  have listed : number.toInt ∈ numbers.map Int32.toInt := by
    change number.toInt ∈ [-5, -4, -3, -2, -1, 1, 2, 3, 4, 5]
    simp only [List.mem_cons, List.not_mem_nil, or_false]
    omega
  obtain ⟨other, isListed, same⟩ := List.mem_map.mp listed
  rwa [← Int32.toInt_inj.mp same]

theorem nodup_identity_ofMonth : (ofMonth.map identity).Nodup := by
  have distinct : (DayName.week.flatMap fun day => numbers.map fun number =>
      (numberOctets number).foldl Fingerprint.absorb (identity day)).Nodup := by
    decide +kernel
  simpa only [ofMonth, List.map_flatMap, List.map_map, Function.comp_def,
    identity_eq_foldl] using distinct

theorem identity_eq_of_folded (first second : MonthlyOccurrence)
    (isFirst : first.InDomain) (isSecond : second.InDomain)
    (same : first.folded = second.folded) :
    identity first = identity second := by
  obtain ⟨sameDay, sameNumber⟩ := Prod.mk.inj same
  rw [identity_eq_foldl, identity_eq_foldl, sameNumber,
    DayName.identity_eq_of_folded _ _ isFirst.1 isSecond.1 sameDay]

theorem exists_mem_ofMonth {numbered : MonthlyOccurrence}
    (domain : numbered.InDomain) :
    ∃ usual ∈ ofMonth, usual.InDomain ∧ usual.folded = numbered.folded := by
  obtain ⟨isDay, nonzero, within⟩ := domain
  obtain ⟨usual, isUsual, usualIsDay, agrees⟩ := DayName.exists_mem_week isDay
  have listed := List.mem_map_of_mem (f := MonthlyOccurrence.mk usual)
    (mem_numbers nonzero within)
  exact ⟨_, List.mem_flatMap.mpr ⟨usual, isUsual, listed⟩,
    ⟨usualIsDay, nonzero, within⟩, Prod.ext agrees rfl⟩

/-- The identities of numbered days tell apart their names, without regard to
case, and their numbers. -/
theorem isKeyed_folded : IdentitySet.IsKeyed InDomain folded :=
  .of_representatives identity_eq_of_folded nodup_identity_ofMonth
    fun _ => exists_mem_ofMonth

end MonthlyOccurrence

namespace IdentitySet

/-- Sets of days are equal when their lists name the same days, and hold each
of these days once.  The same is true of sets of numbered days. -/
theorem holds_each_day_once :
    (∀ first second : List DayName,
      (∀ day ∈ first, day.InDomain) → (∀ day ∈ second, day.InDomain) →
        ((ofList first == ofList second) = true ↔
          ∀ name, name ∈ first.map DayName.folded ↔
            name ∈ second.map DayName.folded) ∧
        ((ofList first).members.map DayName.folded).Perm
          (first.map DayName.folded).dedup) ∧
    ∀ first second : List MonthlyOccurrence,
      (∀ numbered ∈ first, numbered.InDomain) →
        (∀ numbered ∈ second, numbered.InDomain) →
          ((ofList first == ofList second) = true ↔
            ∀ pair, pair ∈ first.map MonthlyOccurrence.folded ↔
              pair ∈ second.map MonthlyOccurrence.folded) ∧
          ((ofList first).members.map MonthlyOccurrence.folded).Perm
            (first.map MonthlyOccurrence.folded).dedup := by
  constructor
  · intro first second areFirst areSecond
    exact ⟨DayName.isKeyed_folded.ofList_beq_iff areFirst areSecond,
      DayName.isKeyed_folded.map_members_perm areFirst⟩
  · intro first second areFirst areSecond
    exact ⟨MonthlyOccurrence.isKeyed_folded.ofList_beq_iff areFirst areSecond,
      MonthlyOccurrence.isKeyed_folded.map_members_perm areFirst⟩

/-- Two spellings of a weekend, and two numbers of one day. -/
theorem holds_each_day_once_of_weekend :
    let weekend : List DayName := [⟨"Sunday"⟩, ⟨"SATURDAY"⟩, ⟨"sunday"⟩]
    let again : List DayName := [⟨"saturday"⟩, ⟨"SunDay"⟩]
    let last : List MonthlyOccurrence := [⟨⟨"Friday"⟩, -1⟩, ⟨⟨"friday"⟩, -1⟩]
    let first : List MonthlyOccurrence := [⟨⟨"Friday"⟩, 1⟩]
    (ofList weekend == ofList again) = true ∧ (ofList weekend).size = 2 ∧
      (ofList last == ofList first) = false ∧ (ofList last).size = 1 := by
  intro weekend again last first
  have areDays : ∀ day ∈ weekend ++ again, day.InDomain := by
    simp only [← DayName.isValid_iff]
    decide
  have areNumbered : ∀ numbered ∈ last ++ first, numbered.InDomain := by
    simp only [MonthlyOccurrence.InDomain, ← DayName.isValid_iff, IsWithin]
    decide
  obtain ⟨ofDays, ofNumbered⟩ := holds_each_day_once
  obtain ⟨equalDays, heldDays⟩ := ofDays weekend again
    (fun day member => areDays day (List.mem_append_left _ member))
    fun day member => areDays day (List.mem_append_right _ member)
  obtain ⟨equalNumbered, heldNumbered⟩ := ofNumbered last first
    (fun day member => areNumbered day (List.mem_append_left _ member))
    fun day member => areNumbered day (List.mem_append_right _ member)
  have names : weekend.map DayName.folded =
      ["sunday".toList, "saturday".toList, "sunday".toList] := by decide
  have otherNames : again.map DayName.folded =
      ["saturday".toList, "sunday".toList] := by decide
  refine ⟨equalDays.mpr fun name => ?_, ?_, ?_, ?_⟩
  · rw [names, otherNames]
    simp only [List.mem_cons, List.not_mem_nil, or_false]
    grind
  · simpa [names, size] using heldDays.length_eq
  · rw [← Bool.not_eq_true, equalNumbered]
    intro same
    have absent : ("friday".toList, (-1 : Int32)) ∉
        first.map MonthlyOccurrence.folded := by decide
    exact absent ((same _).mp (by decide))
  · have once : (last.map MonthlyOccurrence.folded).dedup.length = 1 := by
      decide
    simpa [size, once] using heldNumbered.length_eq

end IdentitySet

end ScheduledJobs
