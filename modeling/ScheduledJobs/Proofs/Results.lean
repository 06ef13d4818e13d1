/-!
# Results of steps that may fail

Steps in sequence succeed when each of them does.
-/

namespace ScheduledJobs

variable {ε α β : Type}

theorem ok_bind (item : α) (next : α → Except ε β) :
    (Except.ok item >>= next) = next item := rfl

theorem mapError_ok {ε' : Type} (function : ε → ε') (item : α) :
    (Except.ok item).mapError function = .ok item := rfl

theorem eq_ok_of_bind_eq_ok {first : Except ε α} {next : α → Except ε β}
    {result : β} (done : (first >>= next) = .ok result) :
    ∃ item, first = .ok item ∧ next item = .ok result := by
  cases first with
  | error error => cases done
  | ok item => exact ⟨item, rfl, done⟩

theorem eq_ok_of_map_eq_ok {first : Except ε α} {function : α → β}
    {result : β} (done : first.map function = .ok result) :
    ∃ item, first = .ok item ∧ function item = result := by
  cases first with
  | error error => cases done
  | ok item => exact ⟨item, rfl, Except.ok.inj done⟩

theorem eq_ok_of_toOption_eq_some {first : Except ε α} {item : α}
    (found : first.toOption = some item) : first = .ok item := by
  cases first with
  | error error => cases found
  | ok given => exact congrArg Except.ok (Option.some.inj found)

theorem exists_of_any_toOption {first : Except ε α} {passes : α → Bool}
    (holds : first.toOption.any passes = true) :
    ∃ item, first = .ok item ∧ passes item = true := by
  obtain ⟨item, found, passed⟩ := (Option.any_eq_true _ _).mp holds
  exact ⟨item, eq_ok_of_toOption_eq_some found, passed⟩

theorem bind_of_eq_some {first : Option α} {item : α}
    (found : first = some item) (next : α → Option β) :
    (first >>= next) = next item := by
  rw [found]
  rfl

end ScheduledJobs
