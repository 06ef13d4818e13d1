/-!
# Blank text

The characters that count as white space, and texts that hold nothing else.
-/

namespace ScheduledJobs.Text

/-- White space in the sense of the Unicode property of that name. -/
def isBlank (character : Char) : Bool :=
  let code := character.toNat
  (0x09 ≤ code && code ≤ 0x0D) || code == 0x20 || code == 0x85 ||
    code == 0xA0 || code == 0x1680 || (0x2000 ≤ code && code ≤ 0x200A) ||
    code == 0x2028 || code == 0x2029 || code == 0x202F || code == 0x205F ||
    code == 0x3000

/-- A text is blank when it holds no character other than white space. -/
def isBlankText (text : String) : Bool := text.toList.all isBlank

end ScheduledJobs.Text
