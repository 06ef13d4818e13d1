import ScheduledJobs.Proofs.Exchange.Returned
import ScheduledJobs.Proofs.Store.Record

/-!
# Records of what a service says

An empty body in an answer of the service is kept in the record of it and
dropped when the record is loaded.
-/

namespace ScheduledJobs.Record

open Document

/-- A record of what a definition says can be saved wherever its key fits and
no folder is in the way.  It is loaded without the bodies that are empty, and
so it is the same exactly when there are none. -/
theorem load_save_toJob (definition : Definition) (jobId : JobId)
    (id : String) (syncedAt : Instant) {directory : Directory}
    {address : String} (free : Store.IsFree directory (key address))
    (fits : Store.Fits directory (key address)) :
    let record : Record :=
      { id, observed := definition.toJob jobId, syncedAt }
    let done := save directory address record
    done.1 = .ok () ∧
      load done.2 address = .ok (some record.withoutEmptyBodies) ∧
      (load done.2 address = .ok (some record) ↔
        record.observed.HasNoEmptyBody) := by
  intro record done
  have wellFormed : record.observed.WellFormed :=
    Definition.wellFormed_toJob jobId definition
  have loaded := load_saved fits record wellFormed
  have isDone : done = (.ok (), saved directory address record) :=
    save_of_isFree free fits record
  rw [isDone]
  refine ⟨rfl, loaded, ?_⟩
  rw [loaded, Except.ok.injEq, Option.some.injEq,
    withoutEmptyBodies_eq_self_iff]

/-- A definition of a job that visits a page, as JSON. -/
def visitText (body : String) : String :=
  "\x7b\"properties\":\x7b\"action\":\x7b\"type\":\"http\"," ++
  "\"request\":\x7b\"uri\":\"http://host\",\"method\":\"put\"," ++
  "\"body\":\"" ++ body ++ "\"\x7d\x7d\x7d\x7d"

/-- The definition of the text. -/
def visit (body : String) : Definition where
  properties := some {
    action := some {
      kind := some .http
      request := some {
        uri := some "http://host"
        method := some "put"
        body := some body } } }

/-- The record of what a definition says of a report. -/
def ofReport (definition : Definition) : Record where
  id := "report"
  observed := definition.toJob ⟨"main", "group", "daily", "report"⟩
  syncedAt := .epoch

theorem hasNoEmptyBody_ofReport_iff (body : String) :
    (ofReport (visit body)).observed.HasNoEmptyBody ↔ body ≠ "" := by
  have said : (ofReport (visit body)).observed.action = some {
      url := "http://host"
      method := "put"
      body := some body
      headers := ∅
      credentials := none } := rfl
  have noErrorAction : (ofReport (visit body)).observed.errorAction = none :=
    rfl
  constructor
  · intro bodies empty
    exact bodies.action _ said (congrArg some empty)
  · intro nonempty
    constructor
    · intro action isAction empty
      obtain rfl := Option.some.inj (said.symm.trans isAction)
      exact nonempty (Option.some.inj empty)
    · intro action isAction
      cases noErrorAction.symm.trans isAction

/-- A report with a body is loaded from an empty store as it was saved. -/
theorem load_save_report :
    (Json.parse? (visitText "text")).any (fun value =>
        (Definition.read value).toOption = some (visit "text")) = true ∧
      (save ∅ "group/daily/report" (ofReport (visit "text"))).1 = .ok () ∧
      load (save ∅ "group/daily/report" (ofReport (visit "text"))).2
          "group/daily/report" =
        .ok (some (ofReport (visit "text"))) := by
  have free : Store.IsFree ∅ (key "group/daily/report") :=
    ⟨by decide, by decide⟩
  have fits : Store.Fits ∅ (key "group/daily/report") := by decide
  have loaded := load_save_toJob (visit "text")
    ⟨"main", "group", "daily", "report"⟩ "report" .epoch free fits
  exact ⟨by decide +kernel, loaded.1,
    loaded.2.2.mpr ((hasNoEmptyBody_ofReport_iff "text").mpr (by decide))⟩

/-- A report whose body the service gives as an empty one is not loaded as it
was saved. -/
theorem not_load_save_emptyBody :
    (Json.parse? (visitText "")).any (fun value =>
        (Definition.read value).toOption = some (visit "")) = true ∧
      (save ∅ "group/daily/report" (ofReport (visit ""))).1 = .ok () ∧
      load (save ∅ "group/daily/report" (ofReport (visit ""))).2
          "group/daily/report" ≠
        .ok (some (ofReport (visit ""))) := by
  have fits : Store.Fits ∅ (key "group/daily/report") := by decide
  have done := save_of_isFree ⟨by decide, by decide⟩ fits
    (ofReport (visit ""))
  have wellFormed := Definition.wellFormed_toJob
    ⟨"main", "group", "daily", "report"⟩ (visit "")
  have loaded := load_saved fits (ofReport (visit "")) wellFormed
  refine ⟨by decide +kernel, by rw [done], fun same => ?_⟩
  rw [done, loaded, Except.ok.injEq, Option.some.injEq,
    withoutEmptyBodies_eq_self_iff, hasNoEmptyBody_ofReport_iff] at same
  exact same rfl

end ScheduledJobs.Record
