import ScheduledJobs.Text.CodePoint
import ScheduledJobs.Text.Hexadecimal
import ScheduledJobs.Text.Quoted.Table

/-!
# Quotations in messages

A text is quoted between double quotes, with a backslash in front of quotes and
backslashes, short names for the common control characters, and a number for
every other character that would not show.
-/

namespace ScheduledJobs.Text.Quoted

/-- Whether a quotation gives the number of the character. -/
def isSpelledOut (character : Char) : Bool :=
  character.toNat < 0x20 ||
    (0x7F ≤ character.toNat && inRanges spelledOut character)

/-- The characters that stand for one character inside a quotation. -/
def escape (character : Char) : List Char :=
  match character with
  | '"' => ['\\', '"']
  | '\\' => ['\\', '\\']
  | '\t' => ['\\', 't']
  | '\n' => ['\\', 'n']
  | '\r' => ['\\', 'r']
  | '\x00' => ['\\', '0']
  | other =>
      if isSpelledOut other then
        '\\' :: 'u' :: '\x7b' ::
          (Hexadecimal.natural other.toNat ++ ['\x7d'])
      else
        [other]

def quote (text : String) : String :=
  String.ofList ('"' :: (text.toList.flatMap escape ++ ['"']))

/-- Quoted texts between brackets, separated by commas. -/
def quoteList (texts : List String) : String :=
  "[" ++ String.intercalate ", " (texts.map quote) ++ "]"

end ScheduledJobs.Text.Quoted
