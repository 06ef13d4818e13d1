/-!
# Comparing text without regard to ASCII letter case

Two texts agree when they are equal once every ASCII capital is lowered; all
other characters have to be the same.
-/

namespace ScheduledJobs.Text

/-- Lower every ASCII capital. -/
def foldCase (characters : List Char) : List Char :=
  characters.map Char.toLower

@[simp] theorem foldCase_cons (character : Char) (characters : List Char) :
    foldCase (character :: characters) =
      character.toLower :: foldCase characters := rfl

@[simp] theorem length_foldCase (characters : List Char) :
    (foldCase characters).length = characters.length :=
  List.length_map _

/-- Equality up to the case of ASCII letters. -/
def caselessEq (first second : String) : Bool :=
  foldCase first.toList == foldCase second.toList

theorem caselessEq_iff {first second : String} :
    caselessEq first second = true ↔
      foldCase first.toList = foldCase second.toList := by
  simp [caselessEq]

theorem caselessEq_comm (first second : String) :
    caselessEq first second = caselessEq second first := by
  rw [Bool.eq_iff_iff, caselessEq_iff, caselessEq_iff, eq_comm]

/-- Whether some member of the list agrees with the text up to ASCII case. -/
def isOneOf (text : String) (allowed : List String) : Bool :=
  allowed.any fun candidate => caselessEq candidate text

end ScheduledJobs.Text
