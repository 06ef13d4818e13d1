import ScheduledJobs.Proofs.Job.Url
import ScheduledJobs.Proofs.Service.Answer
import ScheduledJobs.Proofs.Synchronizer.Emulated

/-!
# Applying a job from a file

What comes back is the job as it has been declared, apart from what is filled
in or dropped.
-/

namespace ScheduledJobs

namespace Synchronizer

theorem storedOf_of_laterByDays? (environment : Environment)
    (subscription : String) (now : Instant) {stamp expiry : Instant} (job : Job)
    (inCalendar : stamp.laterByDays? Emulator.certificateDays = some expiry) :
    storedOf environment subscription now stamp job =
      Emulator.stored (job.idIn subscription) expiry
        (job.toDefinition environment now) := by
  rw [storedOf, Emulator.storedAt, inCalendar, Option.getD_some]

/-- An accepted job of a job file whose place is given without slashes is
stored in every reachable store in which its key fits, and what is read back is
the answer to the job, whatever the two clocks tell. -/
theorem apply_ofFile {limit : Nat} {directory : Directory}
    (reachable : Store.Reachable limit directory) {text : String} {job : Job}
    (reads : Job.ofFile text = .ok job) (valid : job.isValid = true)
    (root : String) (environment : Environment) {subscription : String}
    (isSegment : IsSegment subscription) (slashFree : job.IsSlashFree)
    (now : Instant) {stamp expiry : Instant}
    (inCalendar : stamp.laterByDays? 365 = some expiry)
    (fits : 2 * (Emulator.key (job.idIn subscription)).length + 4 ≤ limit) :
    ∃ observed : Observed,
      ((overEmulator root environment subscription now stamp).apply job
        directory).1 = .ok observed ∧
      observed.id = (job.idIn subscription).text ∧
      (observed.job == job.answered environment now expiry) = true := by
  have isRead := Job.isRead_of_ofFile reads
  have isAccepted := Job.isAccepted_of_isValid valid
  have segments := Job.hasSegments_idIn isAccepted slashFree isSegment
  have stores : Stores environment subscription now stamp job directory := by
    constructor
    · rw [Store.Fits, reachable.nameLimit]
      exact fits
    · exact .inl (Option.isSome_iff_exists.mpr ⟨expiry, inCalendar⟩)
  have applied := apply_overEmulator_of_stores valid reachable.hasNoFolder
    stores segments root
  refine ⟨_, congrArg Prod.fst applied, rfl, ?_⟩
  rw [storedOf_of_laterByDays? environment subscription now job inCalendar]
  exact Emulator.toJob_stored isRead isAccepted environment now expiry
    subscription

/-- A job file with a certificate. -/
def reportFile : String :=
  "name = 'report'\n" ++
  "resource_group_name = 'group'\n" ++
  "job_collection_name = 'daily'\n" ++
  "[action_web]\n" ++
  "url = 'https://host'\n" ++
  "method = 'post'\n" ++
  "[action_web.authentication_certificate]\n" ++
  "pfx = 'MIIB'\n" ++
  "password = 'secret'\n"

/-- The job of the file. -/
def report : Job where
  name := "report"
  resourceGroup := "group"
  collection := "daily"
  action := some {
    url := "https://host"
    method := "post"
    body := none
    headers := ∅
    credentials := some (.certificate {
      pfx := "MIIB"
      password := "secret"
      thumbprint := none
      expiration := none
      subjectName := none }) }

theorem ofFile_reportFile : Job.ofFile reportFile = .ok report := by
  have fields : (Job.ofFile reportFile).toOption.any (fun job =>
      job.name = "report" ∧ job.resourceGroup = "group" ∧
        job.collection = "daily" ∧ job.action = report.action ∧
        job.errorAction = none ∧ job.retry = .never ∧
        job.recurrence.isNone ∧ job.startTime = none ∧ job.state = none) =
      true := by
    decide +kernel
  obtain ⟨job, read, found⟩ := exists_of_any_toOption fields
  obtain ⟨name, resourceGroup, collection, action, errorAction, retry,
    recurrence, startTime, state⟩ := job
  simp only [decide_eq_true_eq, Option.isNone_iff_eq_none] at found
  obtain ⟨rfl, rfl, rfl, rfl, rfl, rfl, rfl, rfl, rfl⟩ := found
  exact read

theorem isValid_report : report.isValid = true := by
  simp [Job.isValid, Job.violations, Job.structureViolations,
    Job.fieldViolations, report, WebAction.violations, Url.isWeb_host]
  decide

/-- The start of the year 1971. -/
def nextYear : Instant :=
  { Instant.epoch with
    date := { Instant.epoch.date with
      year := 1971
      inSpan := by decide
      inMonth := by decide } }

/-- The report is answered with the details of its certificate, which expires a
year after the time that the emulator tells. -/
theorem apply_reportFile :
    ∃ observed : Observed,
      ((overEmulator "/state" {} "main" nextYear .epoch).apply report
        { nameLimit := 255 }).1 = .ok observed ∧
      observed.id = (report.idIn "main").text ∧
      (observed.job == report.answered {} nextYear nextYear) = true :=
  apply_ofFile .fresh ofFile_reportFile isValid_report "/state" {}
    ⟨by decide, by decide⟩ ⟨by decide, by decide, by decide⟩ nextYear
    (by decide +kernel) (by decide +kernel)

end Synchronizer

end ScheduledJobs
