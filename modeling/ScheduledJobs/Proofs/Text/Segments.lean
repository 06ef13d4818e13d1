import ScheduledJobs.Text.Segments

/-! # Segments of joined texts -/

namespace ScheduledJobs.Text

@[simp] theorem joinSegments_singleton (separator : Char)
    (segment : List Char) : joinSegments separator [segment] = segment := rfl

@[simp] theorem joinSegments_cons_cons (separator : Char)
    (first second : List Char) (others : List (List Char)) :
    joinSegments separator (first :: second :: others) =
      first ++ separator :: joinSegments separator (second :: others) := rfl

theorem segments_of_not_mem {separator : Char} {characters : List Char}
    (apart : separator ∉ characters) :
    segments separator characters = [characters] := by
  induction characters with
  | nil => rfl
  | cons character rest ih =>
      simp only [List.mem_cons, not_or] at apart
      have different : character ≠ separator := fun equal => apart.1 equal.symm
      rw [segments, if_neg different, ih apart.2]

theorem segments_append {separator : Char} {first : List Char}
    (apart : separator ∉ first) (rest : List Char) :
    segments separator (first ++ separator :: rest) =
      first :: segments separator rest := by
  induction first with
  | nil => simp [segments]
  | cons character characters ih =>
      simp only [List.mem_cons, not_or] at apart
      have different : character ≠ separator := fun equal => apart.1 equal.symm
      rw [List.cons_append, segments, if_neg different, ih apart.2]

theorem segments_joinSegments {separator : Char} {first : List Char}
    {others : List (List Char)}
    (apart : ∀ segment ∈ first :: others, separator ∉ segment) :
    segments separator (joinSegments separator (first :: others)) =
      first :: others := by
  induction others generalizing first with
  | nil => exact segments_of_not_mem (apart first (by simp))
  | cons second others ih =>
      have firstApart := apart first (by simp)
      have rest := ih fun segment member =>
        apart segment (List.mem_cons_of_mem _ member)
      rw [joinSegments_cons_cons, segments_append firstApart, rest]

theorem count_joinSegments (separator : Char) (first : List Char)
    (others : List (List Char)) :
    (joinSegments separator (first :: others)).count separator =
      others.length + (first :: others).flatten.count separator := by
  induction others generalizing first with
  | nil => simp
  | cons second others ih =>
      have rest := ih second
      simp only [joinSegments_cons_cons, List.count_append,
        List.count_cons_self, rest, List.flatten_cons, List.length_cons]
      omega

/-- Segments are determined by the text that they are joined to, when one of
two equally long lists has no separators: the other one cannot have any
either, because the texts hold equally many. -/
theorem joinSegments_injective {separator : Char} {first second : List Char}
    {others rest : List (List Char)} (sameLength : others.length = rest.length)
    (apart : ∀ segment ∈ first :: others, separator ∉ segment)
    (equal : joinSegments separator (first :: others) =
      joinSegments separator (second :: rest)) :
    first :: others = second :: rest := by
  have counts := congrArg (List.count separator) equal
  have absent : separator ∉ (first :: others).flatten := by
    intro member
    obtain ⟨segment, isSegment, inside⟩ := List.mem_flatten.mp member
    exact apart segment isSegment inside
  rw [count_joinSegments, count_joinSegments, sameLength,
    List.count_eq_zero_of_not_mem absent] at counts
  have alsoAbsent : separator ∉ (second :: rest).flatten :=
    List.count_eq_zero.mp (by omega)
  have alsoApart : ∀ segment ∈ second :: rest, separator ∉ segment :=
    fun segment isSegment inside =>
      alsoAbsent (List.mem_flatten.mpr ⟨segment, isSegment, inside⟩)
  calc
    first :: others =
        segments separator (joinSegments separator (first :: others)) :=
      (segments_joinSegments apart).symm
    _ = segments separator (joinSegments separator (second :: rest)) := by
      rw [equal]
    _ = second :: rest := segments_joinSegments alsoApart

theorem not_mem_of_mem_segments {separator : Char} {characters : List Char}
    {segment : List Char}
    (member : segment ∈ segments separator characters) :
    separator ∉ segment := by
  induction characters generalizing segment with
  | nil =>
      obtain rfl : segment = [] := by simpa [segments] using member
      exact List.not_mem_nil
  | cons character rest ih =>
      rw [segments] at member
      split at member
      case isTrue =>
        rcases List.mem_cons.mp member with rfl | later
        · exact List.not_mem_nil
        · exact ih later
      case isFalse different =>
        split at member
        · obtain rfl : segment = [character] := by simpa using member
          simpa using fun equal => different equal.symm
        · next first others divided =>
            rcases List.mem_cons.mp member with rfl | later
            · have restApart : separator ∉ first :=
                ih (by simp [divided])
              simpa [restApart] using fun equal => different equal.symm
            · exact ih (by simp [divided, later])

theorem trimEnd_append_of_ne {trimmed last : Char} (different : last ≠ trimmed)
    (characters : List Char) :
    trimEnd trimmed (characters ++ [last]) = characters ++ [last] := by
  have kept : (last == trimmed) = false := by simpa using different
  simp [trimEnd, kept]

theorem trimEnd_append_of_not_mem {trimmed : Char} {ending : List Char}
    (nonempty : ending ≠ []) (apart : trimmed ∉ ending)
    (characters : List Char) :
    trimEnd trimmed (characters ++ ending) = characters ++ ending := by
  have split := List.dropLast_concat_getLast nonempty
  have different : ending.getLast nonempty ≠ trimmed := fun equal =>
    apart (equal ▸ List.getLast_mem nonempty)
  rw [← split, ← List.append_assoc, trimEnd_append_of_ne different]

theorem trimEnd_append_replicate (trimmed : Char) (characters : List Char)
    (count : Nat) :
    trimEnd trimmed (characters ++ List.replicate count trimmed) =
      trimEnd trimmed characters := by
  simp [trimEnd]

theorem getLast?_trimEnd_ne (trimmed : Char) (characters : List Char) :
    (trimEnd trimmed characters).getLast? ≠ some trimmed := by
  have first := List.head?_dropWhile_not (· == trimmed) characters.reverse
  rw [trimEnd, List.getLast?_reverse]
  intro isFirst
  simp [isFirst] at first

/-- Trimming takes away nothing but the trimmed character. -/
theorem exists_eq_trimEnd_append (trimmed : Char) (characters : List Char) :
    ∃ count, characters =
      trimEnd trimmed characters ++ List.replicate count trimmed := by
  have ending : ∀ character ∈
      characters.reverse.takeWhile (· == trimmed), character = trimmed := by
    intro character member
    have all := List.all_takeWhile (p := (· == trimmed))
      (l := characters.reverse)
    exact eq_of_beq (List.all_eq_true.mp all character member)
  have divided := congrArg List.reverse
    (List.takeWhile_append_dropWhile (p := (· == trimmed))
      (l := characters.reverse))
  rw [List.eq_replicate_of_mem ending, List.reverse_append,
    List.reverse_replicate, List.reverse_reverse] at divided
  exact ⟨_, divided.symm⟩

theorem exists_joinSegments_append (separator : Char)
    (segments : List (List Char)) (last : List Char) :
    ∃ front, joinSegments separator (segments ++ [last]) = front ++ last := by
  induction segments with
  | nil => exact ⟨[], rfl⟩
  | cons first others ih =>
      obtain ⟨front, joined⟩ := ih
      cases others with
      | nil => exact ⟨first ++ [separator], by simp⟩
      | cons second others =>
          refine ⟨first ++ separator :: front, ?_⟩
          rw [List.cons_append, List.cons_append, joinSegments_cons_cons,
            ← List.cons_append, joined]
          simp

theorem trimEnd_joinSegments {separator : Char}
    {segments : List (List Char)} (nonempty : segments ≠ [])
    (apart : ∀ segment ∈ segments, segment ≠ [] ∧ separator ∉ segment) :
    trimEnd separator (joinSegments separator segments) =
      joinSegments separator segments := by
  obtain ⟨lastNonempty, lastApart⟩ :=
    apart (segments.getLast nonempty) (List.getLast_mem nonempty)
  obtain ⟨front, joined⟩ := exists_joinSegments_append separator
    segments.dropLast (segments.getLast nonempty)
  rw [List.dropLast_concat_getLast] at joined
  rw [joined, trimEnd_append_of_not_mem lastNonempty lastApart]

end ScheduledJobs.Text
