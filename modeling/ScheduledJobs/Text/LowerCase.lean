import ScheduledJobs.Text.CodePoint
import ScheduledJobs.Text.LowerCase.Table

/-!
# Lower-casing text

Every character is replaced by its lower-case form. Two characters are special:
a capital I with a dot becomes two characters, and a capital sigma takes its
final form at the end of a word.
-/

namespace ScheduledJobs.Text.LowerCase

def simple (character : Char) : Char :=
  if character.toNat < 0x80 then
    character.toLower
  else
    match runs.find? fun run =>
      run.first ≤ character.toNat && character.toNat ≤ run.last &&
        (character.toNat - run.first) % run.step == 0 with
    | some run => Char.ofNat (character.toNat + run.offset).toNat
    | none => character

/-- Whether the first character that is not passed over has a case. -/
def nextIsCased (characters : List Char) : Bool :=
  match characters.dropWhile (inRanges ignorableRanges) with
  | [] => false
  | next :: _ => inRanges casedRanges next

/-- The lower-case form of a capital sigma between the given neighbours, the
nearest first on both sides. -/
def sigma (before after : List Char) : Char :=
  if nextIsCased before && !nextIsCased after then 'ς' else 'σ'

/-- The lower-case form of a character between the given neighbours. -/
def lowered (before : List Char) (character : Char) (after : List Char) :
    List Char :=
  if character = 'Σ' then [sigma before after]
  else if character = 'İ' then ['i', '\u0307']
  else [simple character]

/-- Lower-case characters of which `before` come first, nearest first. -/
def lowerAfter (before : List Char) : List Char → List Char
  | [] => []
  | character :: after =>
      lowered before character after ++ lowerAfter (character :: before) after

def lower (text : String) : String :=
  String.ofList (lowerAfter [] text.toList)

theorem simple_of_ascii {character : Char} (ascii : character.toNat < 0x80) :
    simple character = character.toLower := by
  simp [simple, ascii]

end ScheduledJobs.Text.LowerCase
