import ScheduledJobs.Definition.Writing
import ScheduledJobs.Proofs.Document.Plain

/-! # Definitions are written as plain values -/

namespace ScheduledJobs

open Document

namespace Definition

open Value

theorem Authentication.fitsIn_toValue (authentication : Authentication) :
    authentication.toValue.FitsIn 1 := by
  cases authentication <;> apply fitsIn_ofFields <;>
    simp [fitsIn_text, fitsIn_ofInstant]

theorem Request.fitsIn_toValue (request : Request) :
    request.toValue.FitsIn 2 := by
  apply fitsIn_ofFields
  simp [fitsIn_text, Authentication.fitsIn_toValue, fitsIn_ofTextTable]

theorem RetryPolicy.fitsIn_toValue (policy : RetryPolicy) :
    policy.toValue.FitsIn 1 := by
  apply fitsIn_ofFields
  simp [fitsIn_text, fitsIn_ofInteger]

theorem ErrorAction.fitsIn_toValue (action : ErrorAction) :
    action.toValue.FitsIn 3 := by
  apply fitsIn_ofFields
  simp [fitsIn_text, Request.fitsIn_toValue]

theorem Action.fitsIn_toValue (action : Action) : action.toValue.FitsIn 4 := by
  have request (given : Request) : given.toValue.FitsIn 3 :=
    given.fitsIn_toValue.mono (by decide)
  have policy (given : RetryPolicy) : given.toValue.FitsIn 3 :=
    given.fitsIn_toValue.mono (by decide)
  apply fitsIn_ofFields
  simp [fitsIn_text, request, policy, ErrorAction.fitsIn_toValue]

theorem NumberedDay.fitsIn_toValue (numbered : NumberedDay) :
    numbered.toValue.FitsIn 1 := by
  apply fitsIn_ofFields
  simp [fitsIn_text, fitsIn_ofInteger]

theorem Timetable.fitsIn_toValue (timetable : Timetable) :
    timetable.toValue.FitsIn 3 := by
  have texts := fitsIn_map_list (fitsIn_text 1)
  have numbers := fitsIn_map_list (fitsIn_ofInteger 1)
  have days := fitsIn_map_list NumberedDay.fitsIn_toValue
  apply fitsIn_ofFields
  simp [texts, numbers, days]

theorem Repetition.fitsIn_toValue (repetition : Repetition) :
    repetition.toValue.FitsIn 4 := by
  apply fitsIn_ofFields
  simp [fitsIn_text, fitsIn_ofInteger, fitsIn_ofInstant,
    Timetable.fitsIn_toValue]

theorem Properties.fitsIn_toValue (properties : Properties) :
    properties.toValue.FitsIn 5 := by
  apply fitsIn_ofFields
  simp [fitsIn_text, fitsIn_ofInstant, Action.fitsIn_toValue,
    Repetition.fitsIn_toValue]

theorem fitsIn_toValue (definition : Definition) :
    definition.toValue.FitsIn 6 := by
  apply fitsIn_ofFields
  simp [fitsIn_text, Properties.fitsIn_toValue]

end Definition

end ScheduledJobs
