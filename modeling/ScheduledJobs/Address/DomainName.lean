import ScheduledJobs.Address.DomainName.Replacement
import ScheduledJobs.Address.DomainName.Table
import ScheduledJobs.Text.CodePoint
import ScheduledJobs.Text.Composition
import ScheduledJobs.Text.Punycode
import ScheduledJobs.Text.Segments

/-!
# Names of hosts

The name of a host consists of labels between points. A label beyond ASCII is
spelled with ASCII characters after the sign `xn--`, so that every name has one
spelling in ASCII. Before that its characters are replaced by plain ones and put
together. The labels of a name with letters from right to left must not mix
directions.
-/

namespace ScheduledJobs.Address.DomainName

open Text

/-- Whether the character is one of ASCII. -/
def isBasic (character : Char) : Bool := character.toNat < 0x80

/-- What begins a label that is spelled. -/
def sign : List Char := ['x', 'n', '-', '-']

/-- A text with its characters replaced and put together, unless one of them is
refused. -/
def plain? (text : List Char) : Option (List Char) :=
  (text.mapM replacement?).map fun replaced =>
    Composition.composed replaced.flatten

/-- The character that keeps two letters from joining. -/
def nonJoiner : Char := '\u200C'

/-- The character that makes two letters join. -/
def joiner : Char := '\u200D'

/-- Whether the last character, given first, is the mark that takes the vowel
from a letter. -/
def endsWithoutVowel (before : List Char) : Bool :=
  before.head?.any (Composition.markClass · == 9)

/-- Whether the first character apart from those on others is in one of the
ranges. -/
def meets (ranges : List (Nat × Nat)) (text : List Char) : Bool :=
  let onOthers := nonspacingMarks ++ overlaidLetters
  (text.dropWhile (inRanges onOthers)).head?.any (inRanges ranges)

/-- Whether the joiners of a text have a use there. Both follow a letter without
its vowel, and the one that keeps letters from joining may also stand between
two that would. The characters before are given from the end. -/
def joinersFit (before : List Char) : List Char → Bool
  | [] => true
  | character :: after =>
      let fits :=
        if character = joiner then endsWithoutVowel before
        else if character = nonJoiner then
          endsWithoutVowel before ||
            (meets (joiningBoth ++ joiningNext) before &&
              meets (joiningBoth ++ joiningPrevious) after)
        else true
      fits && joinersFit (character :: before) after

/-- How a character takes part in the direction of a text. -/
inductive Direction where
  | rightward
  | leftward
  | leftwardFigure
  | figure
  | neutral
  | mark
  deriving DecidableEq, Repr

namespace Direction

def ofChar (character : Char) : Direction :=
  if inRanges figures character then figure
  else if inRanges directionless character then neutral
  else if inRanges rightwardMarks character then rightward
  else if inRanges nonspacingMarks character then mark
  else if inRanges leftwardLetters character then leftward
  else if inRanges leftwardFigures character then leftwardFigure
  else rightward

/-- Whether a character with the direction makes all labels of its name keep to
one direction each. -/
def turns (direction : Direction) : Bool :=
  direction = leftward || direction = leftwardFigure

/-- Whether directions after a first one from left to right go with it. -/
def goRightward (others : List Direction) : Bool :=
  others.all (!turns ·) &&
    match others.reverse.find? (· ≠ mark) with
    | none => true
    | some last => last = rightward || last = figure

/-- Whether directions after a first one from right to left go with it. -/
def goLeftward (others : List Direction) : Bool :=
  others.all (· ≠ rightward) &&
    !(others.contains figure && others.contains leftwardFigure) &&
    match others.reverse.find? (· ≠ mark) with
    | none => true
    | some last => last ≠ neutral

def agree : List Direction → Bool
  | [] => true
  | rightward :: others => goRightward others
  | leftward :: others => goLeftward others
  | _ :: _ => false

end Direction

/-- What a label says, and how it is spelled in ASCII. -/
structure Label where
  text : List Char
  spelling : List Char
  deriving DecidableEq, Repr

/-- Whether a text beyond ASCII can be a label by itself. -/
def isSound (text : List Char) : Bool :=
  !(text.head?.any fun first =>
      inRanges nonspacingMarks first || inRanges spacingMarks first) &&
    joinersFit [] text && text.length ≤ 1000

/-- The label of a plain text. One that is spelled already has to spell a plain
text that needs it. -/
def Label.ofText? (text : List Char) : Option Label :=
  if sign.isPrefixOf text then do
    let code := text.drop sign.length
    guard (code.all isBasic && code.length ≤ 2000)
    let said ← Punycode.decode? code
    guard (!said.all isBasic && plain? said == some said && isSound said)
    return { text := said, spelling := text }
  else if text.all isBasic then some { text, spelling := text }
  else if isSound text then
    some { text, spelling := sign ++ Punycode.encode text }
  else none

/-- Whether the labels of a name can stand together. -/
def directionsAgree (labels : List Label) : Bool :=
  let directions := labels.map (·.text.map Direction.ofChar)
  !directions.any (·.any Direction.turns) || directions.all Direction.agree

/-- The spelling of a name in ASCII, without capitals. -/
def ofText? (name : List Char) : Option (List Char) := do
  let labels ← (segments '.' (← plain? name)).mapM Label.ofText?
  if directionsAgree labels then
    return joinSegments '.' (labels.map (·.spelling))
  else none

end ScheduledJobs.Address.DomainName
