/-!
# Splitting text at a separator

A text is a sequence of segments that are divided by single separators.
-/

namespace ScheduledJobs.Text

/-- The segments between the separators; there is always at least one. -/
def segments (separator : Char) : List Char → List (List Char)
  | [] => [[]]
  | character :: rest =>
      if character = separator then
        [] :: segments separator rest
      else
        match segments separator rest with
        | [] => [[character]]
        | first :: others => (character :: first) :: others

/-- The segments with single separators between them. -/
def joinSegments (separator : Char) : List (List Char) → List Char
  | [] => []
  | [segment] => segment
  | segment :: others =>
      segment ++ separator :: joinSegments separator others

/-- The characters up to the last one that is not the given one. -/
def trimEnd (trimmed : Char) (characters : List Char) : List Char :=
  (characters.reverse.dropWhile (· == trimmed)).reverse

theorem segments_ne_nil (separator : Char) (characters : List Char) :
    segments separator characters ≠ [] := by
  cases characters with
  | nil => simp [segments]
  | cons character rest =>
      simp only [segments]
      split
      · simp
      · split <;> simp

theorem joinSegments_segments (separator : Char) (characters : List Char) :
    joinSegments separator (segments separator characters) = characters := by
  induction characters with
  | nil => rfl
  | cons character rest ih =>
      have nonempty := segments_ne_nil separator rest
      cases split : segments separator rest with
      | nil => exact absurd split nonempty
      | cons first others =>
          rw [split] at ih
          by_cases isSeparator : character = separator
          · subst isSeparator
            simp [segments, split, joinSegments, ih]
          · cases others with
            | nil =>
                simp_all [segments, joinSegments]
            | cons second remaining =>
                simp_all [segments, joinSegments]

end ScheduledJobs.Text
