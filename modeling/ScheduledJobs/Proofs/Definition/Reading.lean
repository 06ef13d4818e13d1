import ScheduledJobs.Proofs.Definition.RoundTrip
import ScheduledJobs.Proofs.Document.FormResults

/-!
# Definitions that have been read

A definition that has been read can be written and read again without a
change.
-/

namespace ScheduledJobs.Definition

open Document

/-- The kind with a name is a known one whose name agrees with it, or one of
its own when there is none. -/
theorem ActionKind.ofName_cases (name : String) :
    (ofName name ∈ known ∧
        Text.caselessEq (ofName name).name name = true) ∨
      (ofName name = .other name ∧
        ∀ kind ∈ known, Text.caselessEq kind.name name = false) := by
  cases found : ActionKind.known.find? fun kind =>
      Text.caselessEq kind.name name with
  | some kind =>
      have isKind : ofName name = kind := by
        rw [ofName, found, Option.getD_some]
      rw [isKind]
      exact .inl ⟨List.mem_of_find?_eq_some found, by
        simpa using List.find?_some found⟩
  | none =>
      have isOther : ofName name = .other name := by
        rw [ofName, found, Option.getD_none]
      exact .inr ⟨isOther, by simpa using List.find?_eq_none.mp found⟩

theorem ActionKind.isCanonical_ofName (name : String) :
    (ofName name).IsCanonical := by
  have isCanonical : ∀ kind ∈ known, kind.IsCanonical := by
    simp only [IsCanonical]
    decide
  rcases ofName_cases name with ⟨isKnown, -⟩ | ⟨isOther, -⟩
  · exact isCanonical (ofName name) isKnown
  · rw [isOther]
    exact isOther

/-- The kinds that have a name of their own. -/
def RetryKind.known : List RetryKind := [.never, .fixed]

/-- The kind with a name is a known one whose name agrees with it, or one of
its own when there is none. -/
theorem RetryKind.ofName_cases (name : String) :
    (ofName name ∈ known ∧
        Text.caselessEq (ofName name).name name = true) ∨
      (ofName name = .other name ∧
        ∀ kind ∈ known, Text.caselessEq kind.name name = false) := by
  have sameFixed : Text.foldCase "fixed".toList =
      Text.foldCase "Fixed".toList := by decide
  have sameNever : Text.foldCase "none".toList =
      Text.foldCase "None".toList := by decide
  have isFixed : Text.caselessEq name "fixed" =
      Text.caselessEq RetryKind.fixed.name name := by
    rw [Text.caselessEq_comm, Text.caselessEq, sameFixed]
    rfl
  have isNever : Text.caselessEq name "none" =
      Text.caselessEq RetryKind.never.name name := by
    rw [Text.caselessEq_comm, Text.caselessEq, sameNever]
    rfl
  unfold ofName
  rw [isFixed, isNever]
  split
  · next agrees => exact .inl ⟨by decide, agrees⟩
  · next notFixed =>
      split
      · next agrees => exact .inl ⟨by decide, agrees⟩
      · next notNever =>
          exact .inr ⟨rfl, by simp [known, notFixed, notNever]⟩

theorem RetryKind.isCanonical_ofName (name : String) :
    (ofName name).IsCanonical := by
  have isCanonical : ∀ kind ∈ known, kind.IsCanonical := by
    simp only [IsCanonical]
    decide
  rcases ofName_cases name with ⟨isKnown, -⟩ | ⟨isOther, -⟩
  · exact isCanonical (ofName name) isKnown
  · rw [isOther]
    exact isOther

theorem ActionKind.isCanonical_of_read {value : Value} {kind : ActionKind}
    (reads : read value = .ok kind) : kind.IsCanonical := by
  obtain ⟨name, -, rfl⟩ := eq_ok_of_map_eq_ok reads
  exact isCanonical_ofName name

theorem RetryKind.isCanonical_of_read {value : Value} {kind : RetryKind}
    (reads : read value = .ok kind) : kind.IsCanonical := by
  obtain ⟨name, -, rfl⟩ := eq_ok_of_map_eq_ok reads
  exact isCanonical_ofName name

theorem RetryPolicy.isCanonical_of_builds {policy : RetryPolicy}
    (builds : form.Builds policy) : policy.IsCanonical := by
  obtain ⟨_, count, rest₁, -, rfl⟩ := builds.of_seq
  obtain ⟨_, interval, rest₂, -, rfl⟩ := rest₁.of_seq
  obtain ⟨kind, kindBuilt, rfl⟩ := rest₂.of_map
  rintro given rfl
  obtain ⟨value, reads⟩ := kindBuilt.of_optional
  exact RetryKind.isCanonical_of_read reads

theorem ErrorAction.isCanonical_of_builds {action : ErrorAction}
    (builds : form.Builds action) : action.IsCanonical := by
  obtain ⟨_, request, rest, -, rfl⟩ := builds.of_seq
  obtain ⟨kind, kindBuilt, rfl⟩ := rest.of_map
  rintro given rfl
  obtain ⟨value, reads⟩ := kindBuilt.of_optional
  exact ActionKind.isCanonical_of_read reads

theorem Action.isCanonical_of_builds {action : Action}
    (builds : form.Builds action) : action.IsCanonical := by
  obtain ⟨_, errorAction, rest₁, errorActionBuilt, rfl⟩ := builds.of_seq
  obtain ⟨_, retryPolicy, rest₂, retryPolicyBuilt, rfl⟩ := rest₁.of_seq
  obtain ⟨_, request, rest₃, -, rfl⟩ := rest₂.of_seq
  obtain ⟨kind, kindBuilt, rfl⟩ := rest₃.of_map
  refine ⟨?_, ?_, ?_⟩
  · rintro given rfl
    obtain ⟨value, reads⟩ := kindBuilt.of_optional
    exact ActionKind.isCanonical_of_read reads
  · rintro given rfl
    obtain ⟨value, reads⟩ := retryPolicyBuilt.of_optional
    exact RetryPolicy.isCanonical_of_builds (Form.builds_of_readWith reads)
  · rintro given rfl
    obtain ⟨value, reads⟩ := errorActionBuilt.of_optional
    exact ErrorAction.isCanonical_of_builds (Form.builds_of_readWith reads)

theorem Properties.isCanonical_of_builds {properties : Properties}
    (builds : form.Builds properties) : properties.IsCanonical := by
  obtain ⟨_, state, rest₁, -, rfl⟩ := builds.of_seq
  obtain ⟨_, repetition, rest₂, -, rfl⟩ := rest₁.of_seq
  obtain ⟨_, action, rest₃, actionBuilt, rfl⟩ := rest₂.of_seq
  obtain ⟨startTime, -, rfl⟩ := rest₃.of_map
  rintro given rfl
  obtain ⟨value, reads⟩ := actionBuilt.of_optional
  exact Action.isCanonical_of_builds (Form.builds_of_readWith reads)

theorem isCanonical_of_read {value : Value} {definition : Definition}
    (reads : read value = .ok definition) : definition.IsCanonical := by
  have builds := Form.builds_of_readWith reads
  obtain ⟨_, properties, rest₁, propertiesBuilt, rfl⟩ := builds.of_seq
  obtain ⟨_, resourceType, rest₂, -, rfl⟩ := rest₁.of_seq
  obtain ⟨_, name, rest₃, -, rfl⟩ := rest₂.of_seq
  obtain ⟨id, -, rfl⟩ := rest₃.of_map
  rintro given rfl
  obtain ⟨value, reads⟩ := propertiesBuilt.of_optional
  exact Properties.isCanonical_of_builds (Form.builds_of_readWith reads)

end ScheduledJobs.Definition
