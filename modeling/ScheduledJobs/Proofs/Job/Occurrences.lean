import ScheduledJobs.Job.Reading
import ScheduledJobs.Proofs.Document.FormReading
import ScheduledJobs.Proofs.IdentitySet.Order
import ScheduledJobs.Proofs.Job.Domain
import ScheduledJobs.Proofs.Job.Validation
import ScheduledJobs.Proofs.Text.Numerals

/-!
# Numbered days that are listed

The hyphen in the text that is identified can be taken for a minus sign, so the
second `Monday-` of a month is dropped after the last but one `Monday`.
-/

namespace ScheduledJobs

open Document Text

theorem foldCase_of_mem_dayNames : ∀ name ∈ dayNames,
    'k' ∉ foldCase name.toList ∧ '-' ∉ foldCase name.toList := by
  decide

/-- Whether a text names a day shows in lower case, where no character beyond
ASCII can pass for a letter of the name. -/
theorem DayName.inDomain_iff_lower {day : DayName} :
    day.InDomain ↔ ∃ name ∈ dayNames,
      (LowerCase.lower day.name).toList = foldCase name.toList := by
  constructor
  · intro isDay
    have lowered := toList_lower_of_isValid (isValid_iff.mpr isDay)
    obtain ⟨name, isName, agrees⟩ := isDay
    exact ⟨name, isName, lowered.trans agrees.symm⟩
  · rintro ⟨name, isName, lowered⟩
    have loweredAscii : IsAscii (LowerCase.lower day.name).toList := by
      rw [lowered]
      exact isAscii_foldCase.mpr (isAscii_of_mem_dayNames isName)
    have noKelvin : 'k' ∉ (LowerCase.lower day.name).toList := by
      rw [lowered]
      exact (foldCase_of_mem_dayNames name isName).1
    have ascii := LowerCase.isAscii_of_lower loweredAscii noKelvin
    rw [LowerCase.toList_lower_of_ascii ascii] at lowered
    exact ⟨name, isName, lowered.symm⟩

namespace MonthlyOccurrence

/-- What a numbered day of a month has to be. -/
def InDomain (numbered : MonthlyOccurrence) : Prop :=
  numbered.day.InDomain ∧
    numbered.occurrence ≠ 0 ∧ IsWithin (-5) 5 numbered.occurrence

/-- Whether an item reads like the kept one, which counts from the end of the
month: its own name ends in a hyphen where the kept one has a minus sign. -/
def Mimics (item kept : MonthlyOccurrence) : Prop :=
  0 < item.occurrence.toInt ∧
    kept.occurrence.toInt = -item.occurrence.toInt ∧
    (LowerCase.lower item.day.name).toList =
      (LowerCase.lower kept.day.name).toList ++ ['-']

instance (item kept : MonthlyOccurrence) : Decidable (item.Mimics kept) :=
  inferInstanceAs (Decidable (_ ∧ _))

/-- The text tells the name in lower case and the number, unless the hyphen
between them can be taken for the sign of the number. -/
theorem identityText_eq_iff {first second : MonthlyOccurrence} :
    first.identityText = second.identityText ↔
      (LowerCase.lower first.day.name = LowerCase.lower second.day.name ∧
        first.occurrence = second.occurrence) ∨
      first.Mimics second ∨ second.Mimics first := by
  rw [identityText, identityText, List.append_left_inj,
    Decimal.append_hyphen_integer_inj, String.toList_inj, Int32.toInt_inj]
  exact Iff.rfl

/-- No day is called what ends in a hyphen. -/
theorem Mimics.not_inDomain {item kept : MonthlyOccurrence}
    (mimics : item.Mimics kept) : ¬item.InDomain := by
  rintro ⟨isDay, -⟩
  obtain ⟨name, isName, lowered⟩ := DayName.inDomain_iff_lower.mp isDay
  refine (foldCase_of_mem_dayNames name isName).2 ?_
  rw [← lowered, mimics.2.2]
  simp

theorem identity_eq_of_identityText {first second : MonthlyOccurrence}
    (same : first.identityText = second.identityText) :
    identity first = identity second :=
  congrArg (fun text => Fingerprint.ofOctets
    (Utf8.encode (String.ofList text))) same

theorem mimics_iff {item kept : MonthlyOccurrence} :
    item.Mimics kept ↔
      0 < item.occurrence.toInt ∧
        kept.occurrence.toInt = -item.occurrence.toInt ∧
        LowerCase.lower item.day.name =
          LowerCase.lower kept.day.name ++ "-" := by
  rw [Mimics, ← String.toList_inj, String.toList_append]
  exact Iff.rfl

/-- Two numbered days have one text exactly if they have one name in lower case
and one number, or if their numbers are opposite and the name that goes with
the positive one is the other name with a hyphen after it.  Of days with one
text a set takes in the first one, and the others count for nothing. -/
theorem identityText_eq_iff_same_or_opposite
    (first second : MonthlyOccurrence) :
    (first.identityText = second.identityText ↔
      (LowerCase.lower first.day.name = LowerCase.lower second.day.name ∧
        first.occurrence = second.occurrence) ∨
      (first.occurrence ≠ 0 ∧
        second.occurrence.toInt = -first.occurrence.toInt ∧
        ((0 < first.occurrence.toInt ∧ LowerCase.lower first.day.name =
            LowerCase.lower second.day.name ++ "-") ∨
          (0 < second.occurrence.toInt ∧ LowerCase.lower second.day.name =
            LowerCase.lower first.day.name ++ "-")))) ∧
    (first.identityText = second.identityText →
      ∀ before after, first ∈ before →
        IdentitySet.ofList (before ++ second :: after) =
          IdentitySet.ofList (before ++ after)) := by
  constructor
  · rw [identityText_eq_iff, mimics_iff, mimics_iff, Ne, ← toInt_eq_zero_iff]
    refine or_congr_right ⟨?_, ?_⟩
    · rintro (⟨positive, opposite, hyphenated⟩ |
        ⟨positive, opposite, hyphenated⟩)
      · exact ⟨by omega, opposite, .inl ⟨positive, hyphenated⟩⟩
      · exact ⟨by omega, by omega, .inr ⟨positive, hyphenated⟩⟩
    · rintro ⟨-, opposite, ⟨positive, hyphenated⟩ | ⟨positive, hyphenated⟩⟩
      · exact .inl ⟨positive, opposite, hyphenated⟩
      · exact .inr ⟨positive, by omega, hyphenated⟩
  · intro same before after isEarlier
    exact IdentitySet.ofList_append_cons_of_mem isEarlier
      (identity_eq_of_identityText same) after

/-- The first day of a name with a hyphen is merged with the last Friday. -/
theorem identityText_eq_iff_same_or_opposite_of_friday :
    let last : MonthlyOccurrence := ⟨⟨"Friday"⟩, -1⟩
    let hyphenated : MonthlyOccurrence := ⟨⟨"FRIDAY-"⟩, 1⟩
    last.identityText = hyphenated.identityText ∧
      IdentitySet.ofList [last, hyphenated] = IdentitySet.ofList [last] := by
  intro last hyphenated
  obtain ⟨told, merged⟩ :=
    identityText_eq_iff_same_or_opposite last hyphenated
  have names : LowerCase.lower hyphenated.day.name =
      LowerCase.lower last.day.name ++ "-" := by
    decide +kernel
  have same : last.identityText = hyphenated.identityText :=
    told.mpr (.inr ⟨by decide, by decide, .inr ⟨by decide, names⟩⟩)
  exact ⟨same, merged same [last] [] List.mem_cons_self⟩

/-- Whether an item is dropped when the kept one has been taken in, although
they are different days: it mimics the kept one, or the texts of the two differ
and have the same fingerprint. -/
def HiddenBehind (item kept : MonthlyOccurrence) : Prop :=
  item.Mimics kept ∨
    item.identityText ≠ kept.identityText ∧ identity item = identity kept

theorem HiddenBehind.identity_eq {item kept : MonthlyOccurrence}
    (hidden : item.HiddenBehind kept) : identity item = identity kept := by
  rcases hidden with mimics | ⟨-, collides⟩
  · exact identity_eq_of_identityText
      (identityText_eq_iff.mpr (.inr (.inl mimics)))
  · exact collides

/-- An item with the identity of one in the domain lies in the domain itself,
or is hidden behind the other. -/
theorem InDomain.inDomain_or_hiddenBehind {item kept : MonthlyOccurrence}
    (domain : kept.InDomain) (same : identity kept = identity item) :
    item.InDomain ∨ item.HiddenBehind kept := by
  by_cases sameText : item.identityText = kept.identityText
  · rcases identityText_eq_iff.mp sameText with
      ⟨sameDay, sameNumber⟩ | mimics | mimicked
    · have isDay : item.day.InDomain := by
        rw [DayName.inDomain_iff_lower, sameDay]
        exact DayName.inDomain_iff_lower.mp domain.1
      exact .inl ⟨isDay, sameNumber ▸ domain.2⟩
    · exact .inr (.inl mimics)
    · exact absurd domain mimicked.not_inDomain
  · exact .inr (.inr ⟨sameText, same.symm⟩)

/-- The members of a set lie in the domain exactly when each of the items that
have been taken in does, or is hidden behind an earlier one that does. -/
theorem forall_mem_ofList_inDomain_iff {items : List MonthlyOccurrence} :
    (∀ member ∈ (IdentitySet.ofList items).members, member.InDomain) ↔
      ∀ before item after, items = before ++ item :: after →
        item.InDomain ∨
          ∃ kept ∈ before, kept.InDomain ∧ item.HiddenBehind kept := by
  constructor
  · rintro checked before item after rfl
    rcases IdentitySet.mem_ofList_or_exists_earlier before item after with
      member | ⟨kept, isEarlier, same, member⟩
    · exact .inl (checked item member)
    · have domain := checked kept member
      exact (domain.inDomain_or_hiddenBehind same).imp_right
        fun hidden => ⟨kept, isEarlier, domain, hidden⟩
  · intro judged member isMember
    obtain ⟨before, after, divided, different⟩ :=
      IdentitySet.mem_ofList_iff.mp isMember
    rcases judged before member after divided with
      domain | ⟨kept, isEarlier, -, hidden⟩
    · exact domain
    · exact absurd hidden.identity_eq.symm (different kept isEarlier)

end MonthlyOccurrence

theorem Presence.allMembers_provided_iff {α : Type} [Identified α]
    {condition : α → Prop} {set : IdentitySet α} :
    (Presence.provided set).AllMembers condition ↔
      ∀ member ∈ set.members, condition member := by
  unfold Presence.provided
  split
  · next isEmpty =>
      have noMembers : set.members = [] := List.isEmpty_iff.mp isEmpty
      simp [Presence.AllMembers, noMembers]
  · simp [Presence.AllMembers]

theorem Schedule.monthlyOccurrences_of_ofEntries
    {entries : List (String × Value)} {schedule : Schedule} {value : Value}
    {items : List MonthlyOccurrence}
    (reads : Schedule.form.ofEntries entries = .ok schedule)
    (given : entries.lookup "monthly_occurrences" = some value)
    (listed : Reader.list MonthlyOccurrence.form.read value = .ok items) :
    schedule.monthlyOccurrences = .provided (.ofList items) := by
  obtain ⟨_, occurrences, rest₁, occurrencesRead, rfl⟩ :=
    Form.finish_of_seq (Form.finish_of_ofEntries reads)
  obtain ⟨_, _, rest₂, -, rfl⟩ := Form.finish_of_seq rest₁
  obtain ⟨_, _, rest₃, -, rfl⟩ := Form.finish_of_seq rest₂
  obtain ⟨_, _, rest₄, -, rfl⟩ := Form.finish_of_seq rest₃
  obtain ⟨_, -, rfl⟩ := Form.finish_of_map rest₄
  have isList : value ≠ .null := by
    rintro rfl
    cases listed
  have read : Presence.read MonthlyOccurrence.form.read value =
      .ok occurrences := by
    simpa only [Presence.field, Form.defaulted, given] using occurrencesRead
  rw [Presence.read, Form.nullable_of_reads listed isList] at read
  exact (Except.ok.inj read).symm

theorem Recurrence.monthlyOccurrences_of_read {value given : Value}
    {recurrence : Recurrence} {entries : List (String × Value)}
    {items : List MonthlyOccurrence}
    (reads : Recurrence.read value = .ok recurrence)
    (isTable : Reader.entries value = .ok entries)
    (isGiven : entries.lookup "monthly_occurrences" = some given)
    (listed : Reader.list MonthlyOccurrence.form.read given = .ok items) :
    recurrence.schedule.monthlyOccurrences = .provided (.ofList items) := by
  obtain ⟨found, isFound, rest⟩ := eq_ok_of_bind_eq_ok reads
  obtain rfl : entries = found :=
    Except.ok.inj (isTable.symm.trans isFound)
  obtain ⟨_, -, rest⟩ := eq_ok_of_bind_eq_ok rest
  split at rest
  · obtain ⟨schedule, scheduleRead, same⟩ := eq_ok_of_bind_eq_ok rest
    obtain rfl := Except.ok.inj same
    exact Schedule.monthlyOccurrences_of_ofEntries scheduleRead isGiven listed
  · cases rest

namespace Job

/-- The recurrence of a job is read from the value that the document has for
it. -/
theorem recurrence_of_read {surplus refusal : Surplus} {document value : Value}
    {job : Job} (reads : (form surplus).readWith refusal document = .ok job)
    (given : (form surplus).given? document "recurrence" = some value) :
    ∃ recurrence ∈ job.recurrence,
      Recurrence.read value = .ok recurrence := by
  obtain ⟨_, _, rest₁, -, rfl⟩ :=
    Form.finish_of_seq (Form.finish_of_readWith reads)
  obtain ⟨_, _, rest₂, -, rfl⟩ := Form.finish_of_seq rest₁
  obtain ⟨_, recurrence, rest₃, recurrenceRead, rfl⟩ :=
    Form.finish_of_seq rest₂
  obtain ⟨_, _, rest₄, -, rfl⟩ := Form.finish_of_seq rest₃
  obtain ⟨_, _, rest₅, -, rfl⟩ := Form.finish_of_seq rest₄
  obtain ⟨_, _, rest₆, -, rfl⟩ := Form.finish_of_seq rest₅
  obtain ⟨_, _, rest₇, -, rfl⟩ := Form.finish_of_seq rest₆
  obtain ⟨_, _, rest₈, -, rfl⟩ := Form.finish_of_seq rest₇
  obtain ⟨_, -, rfl⟩ := Form.finish_of_map rest₈
  have related := Form.rel_of_finish_optional recurrenceRead
  change Option.Rel _ ((form surplus).given? document "recurrence") _
    at related
  rw [given] at related
  cases related with
  | some isRead => exact ⟨_, rfl, isRead⟩

/-- The numbered days that a document lists. -/
def listedIn? (document : Value) : Option (List MonthlyOccurrence) := do
  let recurrence ← (form .ignored).given? document "recurrence"
  let entries ← (Reader.entries recurrence).toOption
  let given ← entries.lookup "monthly_occurrences"
  (Reader.list MonthlyOccurrence.form.read given).toOption

/-- The numbered days that a job file lists. -/
def listedOccurrences? (text : String) : Option (List MonthlyOccurrence) :=
  (Toml.parse? text).bind listedIn?

/-- What a job file is read as is seen in its document. -/
theorem ofFile_of_parse? {text : String} {document : Value}
    (isDocument : Toml.parse? text = some document) :
    ofFile text = readDeclared document ∧
      listedOccurrences? text = listedIn? document := by
  rw [ofFile, Toml.read, listedOccurrences?, isDocument]
  exact ⟨rfl, rfl⟩

/-- The job of a file holds the set of the numbered days that are listed. -/
theorem monthlyOccurrences_of_ofFile {text : String} {job : Job}
    {items : List MonthlyOccurrence} (reads : ofFile text = .ok job)
    (listed : listedOccurrences? text = some items) :
    ∃ recurrence ∈ job.recurrence,
      recurrence.schedule.monthlyOccurrences = .provided (.ofList items) := by
  obtain ⟨document, isDocument, listed⟩ :=
    Option.bind_eq_some_iff.mp listed
  obtain ⟨value, isGiven, listed⟩ := Option.bind_eq_some_iff.mp listed
  obtain ⟨entries, isTable, listed⟩ := Option.bind_eq_some_iff.mp listed
  obtain ⟨given, isListed, listed⟩ := Option.bind_eq_some_iff.mp listed
  rw [(ofFile_of_parse? isDocument).1] at reads
  obtain ⟨recurrence, isRecurrence, recurrenceRead⟩ :=
    recurrence_of_read reads isGiven
  exact ⟨recurrence, isRecurrence, Recurrence.monthlyOccurrences_of_read
    recurrenceRead (eq_ok_of_toOption_eq_some isTable) isListed
    (eq_ok_of_toOption_eq_some listed)⟩

/-- Every numbered day that an accepted job file lists is a day with a number
that a month can have, or is hidden behind an earlier one that is. -/
theorem inDomain_or_hidden_of_isValid {text : String} {job : Job}
    {items : List MonthlyOccurrence} (reads : ofFile text = .ok job)
    (listed : listedOccurrences? text = some items)
    (valid : job.isValid = true) :
    ∀ before item after, items = before ++ item :: after →
      item.InDomain ∨
        ∃ kept ∈ before, kept.InDomain ∧ item.HiddenBehind kept := by
  obtain ⟨recurrence, isRecurrence, isSet⟩ :=
    monthlyOccurrences_of_ofFile reads listed
  have domain := (isValid_iff_inDomain.mp valid).recurrence recurrence
    isRecurrence
  have members : recurrence.schedule.monthlyOccurrences.AllMembers
      MonthlyOccurrence.InDomain := domain.schedule.monthlyOccurrences
  rw [isSet, Presence.allMembers_provided_iff] at members
  exact MonthlyOccurrence.forall_mem_ofList_inDomain_iff.mp members

/-- A job file that lists the last but one Monday of a month, and then the
second day of a name with a hyphen. -/
def mondaysFile : String :=
  "name = 'mondays'\n" ++
  "resource_group_name = 'group'\n" ++
  "job_collection_name = 'daily'\n" ++
  "[action_web]\n" ++
  "url = 'https://host'\n" ++
  "method = 'get'\n" ++
  "[recurrence]\n" ++
  "frequency = 'Month'\n" ++
  "count = 5\n" ++
  "monthly_occurrences = [\n" ++
  "\x7bday = 'Monday', occurrence = -2\x7d,\n" ++
  "\x7bday = 'Monday-', occurrence = 2\x7d]\n"

/-- The action of that job. -/
def mondaysAction : WebAction where
  url := "https://host"
  method := "get"
  body := none
  headers := ∅
  credentials := none

/-- The last but one Monday of a month. -/
def lastButOne : MonthlyOccurrence := ⟨⟨"Monday"⟩, -2⟩

/-- A numbered day that is none. -/
def hyphenated : MonthlyOccurrence := ⟨⟨"Monday-"⟩, 2⟩

theorem read_mondaysFile :
    (Toml.parse? mondaysFile).any (fun document =>
      listedIn? document = some [lastButOne, hyphenated] ∧
        (readDeclared document).toOption.any (fun job =>
          job.action = some mondaysAction ∧ job.structureViolations = [] ∧
            { job with action := none }.fieldViolations = []) = true) =
      true := by
  decide +kernel

theorem ofFile_mondaysFile :
    ∃ job, ofFile mondaysFile = .ok job ∧ job.isValid = true ∧
      listedOccurrences? mondaysFile = some [lastButOne, hyphenated] := by
  have keepsRules : mondaysAction.KeepsRules := ⟨Url.isWeb_host, by decide⟩
  obtain ⟨document, isDocument, found⟩ :=
    (Option.any_eq_true _ _).mp read_mondaysFile
  obtain ⟨sameJob, sameList⟩ := ofFile_of_parse? isDocument
  obtain ⟨listed, found⟩ := of_decide_eq_true found
  obtain ⟨job, isRead, found⟩ := exists_of_any_toOption found
  obtain ⟨given, structured, others⟩ := of_decide_eq_true found
  exact ⟨job, sameJob.trans isRead,
    isValid_of_action given keepsRules structured others,
    sameList.trans listed⟩

/-- The day with the hyphen is hidden behind the last but one Monday. -/
theorem hidden_mondaysFile :
    ∃ job, ofFile mondaysFile = .ok job ∧
      listedOccurrences? mondaysFile = some [lastButOne, hyphenated] ∧
      job.isValid = true ∧
      (hyphenated.InDomain ∨
        ∃ kept ∈ [lastButOne],
          kept.InDomain ∧ hyphenated.HiddenBehind kept) := by
  obtain ⟨job, reads, valid, listed⟩ := ofFile_mondaysFile
  exact ⟨job, reads, listed, valid,
    inDomain_or_hidden_of_isValid reads listed valid [lastButOne] hyphenated
      [] rfl⟩

theorem mimics_hyphenated : hyphenated.Mimics lastButOne := by
  decide +kernel

/-- Not every day that an accepted job file lists is one. -/
theorem not_listed_inDomain :
    ¬∀ (text : String) (job : Job) (items : List MonthlyOccurrence),
      ofFile text = .ok job → listedOccurrences? text = some items →
        job.isValid = true → ∀ item ∈ items, item.InDomain := by
  intro judged
  obtain ⟨job, reads, valid, listed⟩ := ofFile_mondaysFile
  have domain : hyphenated.InDomain :=
    judged mondaysFile job _ reads listed valid hyphenated (by simp)
  exact mimics_hyphenated.not_inDomain domain

end Job

end ScheduledJobs
