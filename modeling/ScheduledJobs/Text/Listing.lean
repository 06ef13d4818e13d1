import ScheduledJobs.Text.Hexadecimal

/-!
# Listings of code points

A long table of characters is written as a text: hexadecimal numbers with
blanks between them, in rows that end with a semicolon.
-/

namespace ScheduledJobs.Text.Listing

/-- What has been read of a listing. -/
structure Reading where
  /-- The rows that are complete, the last one first. -/
  rows : List (List Nat) := []
  /-- The numbers of the row that is being read, the last one first. -/
  row : List Nat := []
  number : Option Nat := none

def Reading.endNumber (reading : Reading) : Reading :=
  match reading.number with
  | none => reading
  | some number =>
      { reading with row := number :: reading.row, number := none }

def Reading.endRow (reading : Reading) : Reading :=
  let ended := reading.endNumber
  { rows := ended.row.reverse :: ended.rows }

def Reading.feed (reading : Reading) (character : Char) : Reading :=
  if character = ';' then reading.endRow
  else
    match Hexadecimal.digit? character with
    | none => reading.endNumber
    | some digit =>
        { reading with number := some (reading.number.getD 0 * 16 + digit) }

def rows (listing : String) : List (List Nat) :=
  (listing.toList.foldl Reading.feed {}).rows.reverse

/-- The rows of a listing whose rows are ranges, each with its first and its
last member. -/
def ranges (listing : String) : List (Nat × Nat) :=
  (rows listing).filterMap fun
    | [first, last] => some (first, last)
    | _ => none

/-- What a code point is followed by in rows that give the first of several
neighbours and then one number for each of them. -/
def follower? (rows : List (List Nat)) (point : Nat) : Option Nat :=
  rows.findSome? fun
    | [] => none
    | first :: numbers =>
        if first ≤ point then numbers[point - first]? else none

end ScheduledJobs.Text.Listing
