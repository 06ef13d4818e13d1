import ScheduledJobs.Proofs.Document.Json.Cycle
import ScheduledJobs.Proofs.Job.RoundTrip

/-!
# Jobs survive a cycle through JSON

Every job that has been read comes back from a cycle with all of its parts.
-/

namespace ScheduledJobs

open Document

theorem Job.isRead_of_read {value : Value} {job : Job}
    (reads : Job.read value = .ok job) : job.IsRead :=
  isRead_of_builds (Form.builds_of_readWith reads)

theorem Job.isRead_of_readDeclared {value : Value} {job : Job}
    (reads : Job.readDeclared value = .ok job) : job.IsRead :=
  isRead_of_builds (Form.builds_of_readWith reads)

/-- A job survives a cycle, be it read as a value of its own or as the content
of a job file. -/
theorem Job.survives_of_read {value : Value} {job : Job}
    (reads : Job.read value = .ok job ∨ Job.readDeclared value = .ok job) :
    Json.Survives Job.read Job.toValue job := by
  have isRead : job.IsRead := by
    rcases reads with reads | reads
    · exact isRead_of_read reads
    · exact isRead_of_readDeclared reads
  exact Json.survives_of_fitsIn (job.fitsIn_toValue.mono (by decide))
    (read_toValue isRead)

namespace Job

/-- A job with an empty body, a day that is given twice, hours that are null
and no minutes. -/
def monthlyText : String :=
  "\x7b\"name\":\"monthly\",\"resource_group_name\":\"group\"," ++
  "\"job_collection_name\":\"daily\"," ++
  "\"action_web\":\x7b\"url\":\"https://host\",\"method\":\"put\"," ++
  "\"body\":\"\",\"headers\":\x7b\"kind\":\"report\"\x7d," ++
  "\"authentication_basic\":" ++
  "\x7b\"username\":\"me\",\"password\":\"secret\"\x7d\x7d," ++
  "\"retry\":\x7b\"count\":2\x7d," ++
  "\"recurrence\":\x7b\"frequency\":\"Month\",\"hours\":null," ++
  "\"minutes\":[],\"week_days\":[\"Friday\",\"MONDAY\",\"friday\"]\x7d," ++
  "\"start_time\":\"2026-11-01T02:00:00+02:00\"\x7d"

/-- What the schedule of the monthly job has to hold. -/
def HasMonthlySchedule (recurrence : Recurrence) : Prop :=
  recurrence.schedule.hours.isProvided = true ∧
    recurrence.schedule.hours.members?.isNone = true ∧
    recurrence.schedule.monthDays.isUnset = true ∧
    recurrence.schedule.weekDays.members?.map
      (fun days => days.members.map DayName.name) =
        some ["MONDAY", "Friday"]

instance (recurrence : Recurrence) :
    Decidable (HasMonthlySchedule recurrence) :=
  inferInstanceAs (Decidable (_ ∧ _))

theorem read_monthlyText :
    ∃ value job, Json.parse? monthlyText = some value ∧
      Job.read value = .ok job ∧ job.retry = .fixed { count := 2 } ∧
      job.recurrence.any (fun given => HasMonthlySchedule given) = true := by
  have fields : ((Json.parse? monthlyText).map Job.read).any (fun result =>
      result.toOption.any fun job =>
        job.retry = .fixed { count := 2 } ∧
          job.recurrence.any (fun given => HasMonthlySchedule given) =
            true) = true := by
    decide +kernel
  obtain ⟨result, isResult, found⟩ := (Option.any_eq_true _ _).mp fields
  obtain ⟨value, parsed, rfl⟩ := Option.map_eq_some_iff.mp isResult
  obtain ⟨job, read, found⟩ := exists_of_any_toOption found
  exact ⟨value, job, parsed, read, of_decide_eq_true found⟩

/-- The monthly job comes back with every hour, day and retry as it was
read. -/
theorem survives_monthlyText :
    ∃ value job, Json.parse? monthlyText = some value ∧
      Job.read value = .ok job ∧
      job.recurrence.any (fun given => HasMonthlySchedule given) = true ∧
      Json.Survives Job.read Job.toValue job := by
  obtain ⟨value, job, parsed, reads, -, schedule⟩ := read_monthlyText
  exact ⟨value, job, parsed, reads, schedule, survives_of_read (.inl reads)⟩

end Job

end ScheduledJobs
