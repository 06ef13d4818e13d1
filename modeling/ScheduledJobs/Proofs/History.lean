/-!
# Histories

A history lists the inputs of a machine with their answers, so that what its
state is meant to hold can be told from the history alone.
-/

namespace ScheduledJobs

/-- Inputs with their answers, the first one first. -/
abbrev History (Input Output : Type) := List (Input × Output)

namespace History

variable {Input Output State Key Value : Type}

/-- The history of inputs that are answered one after the other, and the state
that they lead to. -/
def ofInputs (answer : Input → State → Output × State) :
    List Input → State → History Input Output × State
  | [], state => ([], state)
  | input :: inputs, state =>
      let replied := answer input state
      let ended := ofInputs answer inputs replied.2
      ((input, replied.1) :: ended.1, ended.2)

variable {answer : Input → State → Output × State}

theorem related_append_ofInputs
    (Related : State → History Input Output → Prop) {inputs : List Input}
    (step : ∀ input ∈ inputs, ∀ state past, Related state past →
      Related (answer input state).2
        (past ++ [(input, (answer input state).1)]))
    {state : State} {past : History Input Output}
    (start : Related state past) :
    Related (ofInputs answer inputs state).2
      (past ++ (ofInputs answer inputs state).1) := by
  induction inputs generalizing state past with
  | nil => simpa [ofInputs] using start
  | cons input inputs ih =>
      have first := step input (by simp) state past start
      have others := ih
        (fun other member => step other (List.mem_cons_of_mem _ member)) first
      simpa [ofInputs] using others

/-- What every answer keeps of the state and the history before it holds after
a run. -/
theorem related_ofInputs (Related : State → History Input Output → Prop)
    {inputs : List Input}
    (step : ∀ input ∈ inputs, ∀ state past, Related state past →
      Related (answer input state).2
        (past ++ [(input, (answer input state).1)]))
    {state : State} (start : Related state []) :
    Related (ofInputs answer inputs state).2 (ofInputs answer inputs state).1 :=
  related_append_ofInputs Related step start

/-- Related states give the same history, when every input is answered in the
same way in related states and leaves them related. -/
theorem ofInputs_of_related (Related : State → State → Prop)
    (step : ∀ input first second, Related first second →
      (answer input second).1 = (answer input first).1 ∧
        Related (answer input first).2 (answer input second).2)
    (inputs : List Input) {first second : State}
    (start : Related first second) :
    (ofInputs answer inputs second).1 = (ofInputs answer inputs first).1 ∧
      Related (ofInputs answer inputs first).2
        (ofInputs answer inputs second).2 := by
  induction inputs generalizing first second with
  | nil => exact ⟨rfl, start⟩
  | cons input inputs ih =>
      obtain ⟨sameAnswer, next⟩ := step input first second start
      obtain ⟨sameOthers, ended⟩ := ih next
      exact ⟨by rw [ofInputs, ofInputs, sameAnswer, sameOthers], ended⟩

variable [DecidableEq Key]

/-- What the last event that concerns the key has left under it, when `change?`
tells the key that an event concerns and what it leaves there. -/
def lastValue (change? : Input × Output → Option (Key × Option Value))
    (history : History Input Output) (key : Key) : Option Value :=
  ((history.filterMap change?).reverse.lookup key).join

variable {change? : Input × Output → Option (Key × Option Value)}
  {event : Input × Output}

theorem lastValue_concat_of_eq_none (unchanged : change? event = none)
    (history : History Input Output) :
    lastValue change? (history ++ [event]) = lastValue change? history := by
  funext key
  simp [lastValue, unchanged]

theorem lastValue_concat_of_eq_some {changed : Key} {value? : Option Value}
    (change : change? event = some (changed, value?))
    (history : History Input Output) :
    lastValue change? (history ++ [event]) = fun key =>
      if key = changed then value? else lastValue change? history key := by
  funext key
  by_cases same : key = changed
  · simp [lastValue, change, same]
  · have different : (key == changed) = false := by simpa using same
    simp [lastValue, change, List.lookup_cons, same, different]

end History

end ScheduledJobs
