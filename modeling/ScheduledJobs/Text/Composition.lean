import ScheduledJobs.Text.Composition.Table

/-!
# Characters and their marks put together

A character with marks can often be written as one character or as several. In
the one form that is kept, every character is first taken apart, the marks on
each are put in the order of their classes, and then every mark that has a
common character with the one it stands on is put together with it. Syllables
of two or three letters are put together as well.
-/

namespace ScheduledJobs.Text.Composition

/-- The class of a mark. Other characters have the class zero. -/
def markClass (character : Char) : Nat :=
  if character.toNat < 0x300 then 0
  else
    let number? := markClasses.findSome? fun
      | [first, last, number] =>
          if first ≤ character.toNat && character.toNat ≤ last then
            some number
          else none
      | _ => none
    number?.getD 0

/-- The characters that one stands for, in a single step. -/
def parts? (character : Char) : Option (Char × List Char) :=
  let point := character.toNat
  if point < 0xC0 then none
  else
    let pair? := (composites ++ partings).findSome? fun
      | [whole, first, second] =>
          if whole = point then
            some (Char.ofNat first, [Char.ofNat second])
          else none
      | _ => none
    match pair? with
    | some pair => some pair
    | none =>
        (Listing.follower? substitutes point).map fun other =>
          (Char.ofNat other, [])

/-- The characters that one stands for, in as many steps as are given. Only the
first part can be taken apart again. -/
def apart : Nat → Char → List Char
  | 0, character => [character]
  | steps + 1, character =>
      match parts? character with
      | none => [character]
      | some (first, others) => apart steps first ++ others

/-- A text taken apart; three steps are the most that any character needs. -/
def takenApart (text : List Char) : List Char := text.flatMap (apart 3)

/-- A character with the class that it has as a mark. -/
structure Classed where
  character : Char
  markClass : Nat
  deriving DecidableEq, Repr

/-- A character with its class. -/
def classed (character : Char) : Classed :=
  ⟨character, markClass character⟩

/-- Add a character to a text given from its end. A mark goes before all marks
of a higher class. -/
def insertMark (added : Classed) : List Classed → List Classed
  | [] => [added]
  | last :: earlier =>
      if added.markClass ≠ 0 && added.markClass < last.markClass then
        last :: insertMark added earlier
      else added :: last :: earlier

/-- A text with the marks in order. -/
def inOrder (text : List Char) : List Classed :=
  (text.foldl
    (fun earlier character => insertMark (classed character) earlier)
    []).reverse

/-- The syllable of a leading letter and a vowel, or of such a syllable and a
trailing letter. There are 19 leading letters, 21 vowels and 27 trailing
letters, and every pair of the first two begins 28 syllables. -/
def syllable? (first second : Char) : Option Char :=
  let leading := first.toNat - 0x1100
  let vowel := second.toNat - 0x1161
  let opened := first.toNat - 0xAC00
  let trailing := second.toNat - 0x11A7
  if 0x1100 ≤ first.toNat && leading < 19 &&
      0x1161 ≤ second.toNat && vowel < 21 then
    some (Char.ofNat (0xAC00 + (leading * 21 + vowel) * 28))
  else if 0xAC00 ≤ first.toNat && opened < 19 * 21 * 28 &&
      opened % 28 = 0 && 0 < trailing && trailing < 28 then
    some (Char.ofNat (first.toNat + trailing))
  else none

/-- The one character that two are put together to. -/
def together? (first second : Char) : Option Char :=
  if second.toNat < 0x300 then none
  else
    match syllable? first second with
    | some syllable => some syllable
    | none =>
        composites.findSome? fun
          | [whole, one, other] =>
              if one = first.toNat && other = second.toNat then
                some (Char.ofNat whole)
              else none
          | _ => none

/-- A text of which the last character that can take marks is still open. Both
lists are given from their ends. -/
structure Joining where
  done : List Char := []
  base : Option Char := none
  /-- The marks that stand on the open character. -/
  marks : List Classed := []

/-- All characters, from the end. -/
def Joining.all (joining : Joining) : List Char :=
  joining.marks.map (·.character) ++ joining.base.toList ++ joining.done

/-- Add a character. It is put together with the open one, unless a mark of its
own class or a higher one stands between them. -/
def Joining.add (joining : Joining) (added : Classed) : Joining :=
  let isBlocked :=
    joining.marks.head?.any (added.markClass ≤ ·.markClass)
  let whole? :=
    if isBlocked then none
    else joining.base.bind (together? · added.character)
  match whole? with
  | some whole => { joining with base := some whole }
  | none =>
      if added.markClass = 0 then
        { done := joining.all, base := some added.character }
      else { joining with marks := added :: joining.marks }

/-- The form of a text in which its characters are put together. -/
def composed (text : List Char) : List Char :=
  ((inOrder (takenApart text)).foldl Joining.add {}).all.reverse

end ScheduledJobs.Text.Composition
