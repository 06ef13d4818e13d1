import ScheduledJobs.Address.DomainName
import ScheduledJobs.Text.Decimal
import ScheduledJobs.Text.Percent
import ScheduledJobs.Text.Segments

/-!
# Hosts of addresses

A host is a name, a number of four octets or a number of eight pieces. Both
kinds of numbers can be spelled in several ways and are written in one.
-/

namespace ScheduledJobs.Address

open Text

/-- The host that an address leads to. -/
inductive Host where
  | name (text : List Char)
  | octets (number : Nat)
  | pieces (numbers : List Nat)
  deriving DecidableEq, Repr

namespace Host

def number? (base : Nat) (digits : List Char) : Option Nat :=
  digits.foldlM
    (fun number character => do
      let digit ← Hexadecimal.digit? character
      if digit < base then return number * base + digit else none)
    0

/-- The number that a part of a four-octet host denotes: `0x` begins a
hexadecimal and `0` an octal numeral. -/
def part? : List Char → Option Nat
  | [] => none
  | '0' :: 'x' :: digits => number? 16 digits
  | '0' :: second :: digits => number? 8 (second :: digits)
  | digits => number? 10 digits

/-- The parts between points; a single point at the end is ignored. -/
def parts (text : List Char) : List (List Char) :=
  let all := segments '.' text
  if 1 < all.length && all.getLast? == some [] then all.dropLast else all

/-- Whether the last part reads as a number, so that the host has to be one. -/
def endsInNumber (text : List Char) : Bool :=
  match (parts text).getLast? with
  | none | some [] => false
  | some part => part.all Char.isDigit || (part? part).isSome

/-- Four octets as one number: every part but the last fills one octet, and
the last fills all that remain. -/
def octets? (text : List Char) : Option Host := do
  let all := parts text
  if 4 < all.length then none
  else
    let numbers ← all.mapM part?
    let last ← numbers.getLast?
    let leading := numbers.dropLast
    let room := Nat.pow 256 (4 - leading.length)
    if leading.all (· < 256) && last < room then
      let high := leading.foldl (fun number octet => number * 256 + octet) 0
      return .octets (high * room + last)
    else
      none

/-- The two pieces that four octets fill at the end of an eight-piece host;
here the octets are plain decimal numbers. -/
def embedded? (text : List Char) : Option (List Nat) := do
  let octet? (digits : List Char) : Option Nat := do
    let number ← number? 10 digits
    if Decimal.natural number == digits && number < 256 then number else none
  match ← (segments '.' text).mapM octet? with
  | [first, second, third, fourth] =>
      return [first * 256 + second, third * 256 + fourth]
  | _ => none

/-- The pieces of at most four hexadecimal digits between colons, the last of
which may be four octets. -/
def run? (text : List Char) : Option (List Nat) :=
  let rec read : List (List Char) → Option (List Nat)
    | [] => some []
    | [last] =>
        if last.contains '.' then embedded? last
        else (piece? last).map ([·])
    | piece :: rest => do return (← piece? piece) :: (← read rest)
  if text.isEmpty then some [] else read (segments ':' text)
where
  /-- The number of a single piece. -/
  piece? (digits : List Char) : Option Nat :=
    if digits.isEmpty || 4 < digits.length then none else number? 16 digits

/-- The text before and after the first two colons in a row. -/
def gap? : List Char → Option (List Char × List Char)
  | ':' :: ':' :: rest => some ([], rest)
  | [] => none
  | character :: rest =>
      (gap? rest).map fun (before, after) => (character :: before, after)

/-- Eight pieces; two colons in a row stand for as many zeros as are
missing. -/
def pieces? (text : List Char) : Option Host := do
  match gap? text with
  | none =>
      let numbers ← run? text
      if numbers.length = 8 then return .pieces numbers else none
  | some (before, after) =>
      let first ← if before.contains '.' then none else run? before
      let last ← run? after
      let given := first.length + last.length
      if given < 8 then
        return .pieces (first ++ List.replicate (8 - given) 0 ++ last)
      else
        none

/-- The text in brackets, if all of it is. -/
def bracketed? : List Char → Option (List Char)
  | '[' :: rest => if rest.getLast? = some ']' then rest.dropLast else none
  | _ => none

def forbidden : List Char :=
  ['\x00', '\t', '\n', '\r', ' ', '#', '/', ':', '<', '>', '?', '@', '[',
    '\\', ']', '^', '|']

/-- The host of a scheme that leads to servers: spelled octets are read, and
the name is spelled in ASCII without capitals. -/
def ofServer? (text : List Char) : Option Host := do
  if text.head? = some '[' then
    pieces? (← bracketed? text)
  else
    let name ← DomainName.ofText?
      (← Utf8.decode? (Percent.decode text)).toList
    let isForbidden (character : Char) : Bool :=
      forbidden.contains character || character == '%' ||
        character.toNat < 0x20 || character.toNat == 0x7F
    if name.isEmpty || name.any isForbidden then none
    else if endsInNumber name then octets? name
    else return .name name

/-- The host of any other scheme: a name is kept as it is spelled. -/
def ofOther? (text : List Char) : Option Host := do
  if text.head? = some '[' then
    pieces? (← bracketed? text)
  else if text.any forbidden.contains then none
  else return .name (Percent.encode [] text)

/-- The zeros at the beginning of a list of pieces. -/
def zeros (numbers : List Nat) : Nat := (numbers.takeWhile (· == 0)).length

/-- Where the longest run of zeros begins and how long it is; the first one
counts when several are longest. -/
def longestZeros : List Nat → Nat × Nat
  | [] => (0, 0)
  | number :: rest =>
      let here := zeros (number :: rest)
      let (start, size) := longestZeros rest
      if size ≤ here then (0, here) else (start + 1, size)

def joined (numbers : List Nat) : List Char :=
  joinSegments ':' (numbers.map Hexadecimal.natural)

/-- The one spelling of the host. -/
def text : Host → List Char
  | .name spelling => spelling
  | .octets number =>
      joinSegments '.' ([3, 2, 1, 0].map fun place =>
        Decimal.natural (number / Nat.pow 256 place % 256))
  | .pieces numbers =>
      let (start, size) := longestZeros numbers
      let inside :=
        if size < 2 then joined numbers
        else
          joined (numbers.take start) ++ [':', ':'] ++
            joined (numbers.drop (start + size))
      '[' :: inside ++ [']']

end Host

end ScheduledJobs.Address
