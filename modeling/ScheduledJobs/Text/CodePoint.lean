/-!
# Ranges of code points

Classes of characters are given as lists of ranges of code points.
-/

namespace ScheduledJobs.Text

/-- Whether the code point of the character lies in one of the ranges, each
given by its first and its last member. -/
def inRanges (ranges : List (Nat × Nat)) (character : Char) : Bool :=
  ranges.any fun range =>
    range.1 ≤ character.toNat && character.toNat ≤ range.2

end ScheduledJobs.Text
