import ScheduledJobs.Address.Host
import ScheduledJobs.Text.Caseless

/-!
# Addresses of requests

An address is read into its parts and written in one normal form: the scheme
and the host of a server have no capitals, the usual socket and the user are
left out, and no name of the way stays in place or leads back. The letter of a
drive holds its place in a way: nothing leads back over it.

Tabulators and ends of lines are passed over wherever they stand. In the way to
a file they are so only when its names are read, because one of them can part
the letter of a drive from a name.
-/

namespace ScheduledJobs

open Text

/-- A host, if one is given, and the number of its socket if that is not the
usual one. A user is kept as it is spelled only if it cannot be read. -/
structure Address.Authority where
  user : List Char := []
  host? : Option Address.Host := none
  socket? : Option Nat := none
  deriving DecidableEq, Repr

/-- What follows the authority: names, each after a slash, or plain text. -/
inductive Address.Way where
  | steps (names : List (List Char))
  | plain (text : List Char)
  deriving DecidableEq, Repr

/-- The parts of an address. -/
structure Address where
  scheme : List Char
  authority? : Option Address.Authority
  way : Address.Way
  query? : Option (List Char)
  fragment? : Option (List Char)
  deriving DecidableEq, Repr

namespace Address

/-- Whether the character is passed over wherever it stands. -/
def isPassedOver (character : Char) : Bool :=
  ['\t', '\n', '\r'].contains character

/-- The text without characters that are passed over. -/
def settled (text : List Char) : List Char := text.filter (!isPassedOver ·)

/-- What the scheme says about the rest of an address. -/
inductive Family where
  | server
  | file
  | other
  deriving DecidableEq, Repr

/-- The number of the socket that a server scheme uses. -/
def usualSockets : List (String × Nat) :=
  [("http", 80), ("https", 443), ("ws", 80), ("wss", 443), ("ftp", 21)]

/-- The number of the usual socket of a scheme. -/
def usualSocket? (scheme : List Char) : Option Nat :=
  usualSockets.lookup (String.ofList scheme)

def Family.ofScheme (scheme : List Char) : Family :=
  if (usualSocket? scheme).isSome then .server
  else if scheme = ['f', 'i', 'l', 'e'] then .file
  else .other

def Family.isSlash (family : Family) (character : Char) : Bool :=
  character == '/' || (character == '\\' && family != .other)

/-- The scheme in small letters and what follows its colon. -/
def scheme? : List Char → Option (List Char × List Char)
  | [] => none
  | first :: rest =>
      let isPart (character : Char) : Bool :=
        character.isAlphanum || ['+', '-', '.'].contains character
      match first.isAlpha, rest.dropWhile isPart with
      | true, ':' :: after =>
          some (foldCase (first :: rest.takeWhile isPart), after)
      | _, _ => none

/-- The text before a separator and, if there is one, the text after it. -/
def cut (separator : Char) (text : List Char) :
    List Char × Option (List Char) :=
  let before := text.takeWhile (· != separator)
  match text.dropWhile (· != separator) with
  | [] => (before, none)
  | _ :: after => (before, some after)

/-- The number of a socket, which fits two octets; without digits there is
none. -/
def socketNumber? (digits : List Char) : Option (Option Nat) :=
  if digits.isEmpty then some none
  else if digits.all Char.isDigit && Decimal.value digits < 65536 then
    some (some (Decimal.value digits))
  else none

/-- The host and the text after the colon that follows it; a colon in brackets
belongs to the host. -/
def hostAndSocket (text : List Char) : List Char × Option (List Char) :=
  if text.head? = some '[' then
    let (inside, after?) := cut ']' text
    match after? with
    | none => (inside, none)
    | some after =>
        let (more, socket?) := cut ':' after
        (inside ++ ']' :: more, socket?)
  else
    cut ':' text

namespace Authority

/-- Characters that are spelled out in a user. -/
def reserved : List Char :=
  [' ', '"', '#', '<', '>', '?', '\x60', '\x7b', '\x7d', '/', ':', ';', '=',
    '@', '[', '\\', ']', '^', '|']

/-- The name and the password of a user who cannot be read, as they are
spelled; a user who can be read is left out. -/
def keptUser (name password : List Char) : List Char :=
  let isReadable (text : List Char) : Bool :=
    (Utf8.decode? (Percent.decode text)).isSome
  if isReadable name && (!name.isEmpty || isReadable password) then []
  else
    Percent.encode reserved name ++
      (if password.isEmpty then []
        else ':' :: Percent.encode reserved password)

/-- The text before the last `@`, if there is one, and the text after it. -/
def userAndPlace (text : List Char) : Option (List Char) × List Char :=
  let reversed := text.reverse
  let place := (reversed.takeWhile (· != '@')).reverse
  match reversed.dropWhile (· != '@') with
  | [] => (none, place)
  | _ :: user => (some user.reverse, place)

/-- Read a user, a host and a socket, and give what follows the number of the
socket: a backslash that divides nothing still ends it. Where a host may be
missing, it may not be missed: a user or a socket needs one. -/
def ofText? (scheme text : List Char) :
    Option (Authority × List Char) := do
  let family := Family.ofScheme scheme
  let (user?, place) := userAndPlace text
  let (host, afterHost?) := hostAndSocket place
  if host.isEmpty then
    if family = .other && afterHost?.isNone &&
        (user?.isNone || user? = some [':']) then
      return ({}, [])
    else none
  else
    let host ←
      if family = .other then Host.ofOther? host else Host.ofServer? host
    let (digits, rest) := (afterHost?.getD []).span (· != '\\')
    let socket? ← socketNumber? digits
    let (name, password?) := cut ':' (user?.getD [])
    let authority : Authority := {
      user := keptUser name (password?.getD [])
      host? := host
      socket? := if socket? = usualSocket? scheme then none else socket? }
    return (authority, rest)

/-- Read the host of a file, which has neither user nor socket; this machine
needs no name. -/
def ofFile? (text : List Char) : Option Authority :=
  if text.isEmpty then some {}
  else do
    let host ← Host.ofServer? text
    if host = .name "localhost".toList then return {}
    else return { host? := host }

/-- The user, the host and the socket. -/
def text (authority : Authority) : List Char :=
  (if authority.user.isEmpty then [] else authority.user ++ ['@']) ++
    (authority.host?.elim [] Host.text) ++
    (authority.socket?.elim [] fun socket => ':' :: Decimal.natural socket)

end Authority

namespace Way

/-- Whether a name is made of the given number of points, some of which may be
spelled as octets. -/
def isPoints : (count : Nat) → List Char → Bool
  | 0, [] => true
  | count + 1, '.' :: rest => isPoints count rest
  | count + 1, '%' :: '2' :: 'e' :: rest => isPoints count rest
  | count + 1, '%' :: '2' :: 'E' :: rest => isPoints count rest
  | _, _ => false

/-- Whether the name is the letter of a drive, which a backslash may follow
where it divides nothing. -/
def isDrive : List Char → Bool
  | letter :: mark :: rest =>
      letter.isAlpha && [':', '|'].contains mark &&
        (rest.isEmpty || rest.head? == some '\\')
  | _ => false

/-- How far a way has been followed. -/
structure Walk where
  /-- The names that were passed and kept, the last one first. -/
  passed : List (List Char) := []
  /-- Whether the way begins with the letter of a drive. -/
  onDrive : Bool := false

namespace Walk

def pass (walk : Walk) (name : List Char) : Walk :=
  { walk with passed := name :: walk.passed }

/-- Go back over the name passed last, except over the letter of a drive. -/
def back (walk : Walk) : Walk :=
  match walk.passed with
  | [] => walk
  | name :: passed => if isDrive name then walk else { walk with passed }

/-- Follow names: one point stays, two points go back, and both leave an empty
name when they come last. Any other name is entered. -/
def follow (enter : Walk → List Char → Walk) :
    Walk → List (List Char) → Walk
  | walk, [] => walk
  | walk, [last] =>
      if isPoints 2 (settled last) then walk.back.pass []
      else if isPoints 1 (settled last) then walk.pass []
      else enter walk last
  | walk, name :: rest =>
      if isPoints 2 (settled name) then follow enter walk.back rest
      else if isPoints 1 (settled name) then follow enter walk rest
      else follow enter (enter walk name) rest

/-- The letter of a drive and the rest of a name, when something that is passed
over parts them. -/
def partedDrive? (name : List Char) : Option (List Char × List Char) :=
  match name.dropWhile isPassedOver with
  | [] => none
  | letter :: more =>
      match more.dropWhile isPassedOver with
      | ':' :: after =>
          let isParted :=
            letter.isAlpha && after.head?.any isPassedOver &&
              !(settled after).isEmpty
          if isParted then some ([letter, ':'], settled after) else none
      | _ => none

/-- Enter a name on the way to a file. The first one may be the letter of a
drive, which a colon follows from then on, or be parted from one. -/
def enterFile (walk : Walk) (name : List Char) : Walk :=
  if walk.passed.isEmpty then
    match partedDrive? name with
    | some (drive, rest) => (walk.pass drive).pass rest
    | none =>
        if isDrive (settled name) then
          { passed := [(settled name).take 1 ++ [':']], onDrive := true }
        else walk.pass (settled name)
  else walk.pass (settled name)

def names (walk : Walk) : List (List Char) := walk.passed.reverse

end Walk

/-- Characters that are spelled out in a name. -/
def reserved : List Char :=
  [' ', '"', '#', '<', '>', '?', '\x60', '\x7b', '\x7d']

def divided (family : Family) (text : List Char) : List (List Char) :=
  segments '/' (text.map fun character =>
    if family.isSlash character then '/' else character)

def ofText (family : Family) (text : List Char) : Way :=
  let walk := Walk.follow Walk.pass {} (divided family text)
  .steps (walk.names.map (Percent.encode reserved))

/-- Read the way to a file, and tell whether it begins with the letter of a
drive. There are no empty names in front, except that there is always one
name. -/
def ofFile (text : List Char) : Way × Bool :=
  let walk := Walk.follow Walk.enterFile {} (divided .file text)
  let names :=
    match walk.names.dropWhile List.isEmpty with
    | [] => [[]]
    | others => others
  (.steps (names.map (Percent.encode reserved)), walk.onDrive)

/-- Each name after a slash, or the text itself. -/
def text : Way → List Char
  | .steps names => names.flatMap ('/' :: ·)
  | .plain text => text

end Way

/-- Read the authority and the way of an address that leads to a server, or
to no server in particular. -/
def placeAndWay? (scheme text : List Char) : Option (Authority × Way) := do
  let family := Family.ofScheme scheme
  let (before, after) := text.span (!family.isSlash ·)
  let (authority, rest) ← Authority.ofText? scheme before
  let way :=
    match family, rest, after with
    | .other, [], [] => .steps []
    | _, [], after => Way.ofText family (after.drop 1)
    | _, rest, after => Way.ofText family (rest ++ after)
  return (authority, way)

/-- Read the host and the way of a file. The letter of a drive is no host, and
a way that begins with one needs none. After a host, the slash belongs to
neither; without one, there is an empty name in front of it. -/
def hostAndFile? (text : List Char) : Option (Authority × Way) :=
  let isDivided (character : Char) : Bool := !Family.file.isSlash character
  let afterSlash (text : List Char) : List Char :=
    (text.dropWhile isDivided).drop 1
  let ofThisMachine (text : List Char) : Authority × Way :=
    ({}, (Way.ofFile text).1)
  match (settled text).map Family.file.isSlash with
  | true :: true :: _ => do
      let (before, after) := (afterSlash (afterSlash text)).span isDivided
      if Way.isDrive (settled before) then
        return ofThisMachine (before ++ after)
      else
        let authority ← Authority.ofFile? (settled before)
        if authority.host?.isNone then return ofThisMachine after
        else
          let (way, onDrive) := Way.ofFile (after.drop 1)
          return (if onDrive then {} else authority, way)
  | true :: _ => some (ofThisMachine (afterSlash text))
  | _ => some (ofThisMachine text)

/-- Read the authority and the way of an address. -/
def authorityAndWay? (scheme text : List Char) :
    Option (Option Authority × Way) :=
  let family := Family.ofScheme scheme
  let withAuthority (parts? : Option (Authority × Way)) :
      Option (Option Authority × Way) :=
    parts?.map fun (authority, way) => (some authority, way)
  match family, settled text with
  | .server, text =>
      withAuthority (placeAndWay? scheme (text.dropWhile family.isSlash))
  | .file, _ => withAuthority (hostAndFile? text)
  | .other, '/' :: '/' :: rest => withAuthority (placeAndWay? scheme rest)
  | .other, '/' :: rest => some (none, Way.ofText .other rest)
  | .other, text => some (none, .plain (Percent.encode [] text))

/-- Read an address. Blanks and control characters around it are passed
over. -/
def ofText? (text : String) : Option Address := do
  let isPassed (character : Char) : Bool := character.toNat ≤ 0x20
  let trimmed :=
    ((text.toList.dropWhile isPassed).reverse.dropWhile isPassed).reverse
  let (scheme, _) ← scheme? (settled trimmed)
  let rest ← (cut ':' trimmed).2
  let (beforeFragment, fragment?) := cut '#' rest
  let (hierarchy, query?) := cut '?' beforeFragment
  let (authority?, way) ← authorityAndWay? scheme hierarchy
  let quote := if Family.ofScheme scheme = .other then [] else ['\x27']
  let spelled (reserved text : List Char) : List Char :=
    Percent.encode reserved (settled text)
  return {
    scheme
    authority?
    way
    query? := query?.map (spelled (quote ++ [' ', '"', '#', '<', '>']))
    fragment? := fragment?.map (spelled [' ', '"', '<', '>', '\x60']) }

def hasHost (address : Address) : Bool :=
  address.authority?.any (·.host?.isSome)

def isWeb (address : Address) : Bool :=
  ["http".toList, "https".toList].contains address.scheme

/-- Whether the way could be taken for an authority, so that a point has to
come before it. -/
def isAmbiguous (address : Address) : Bool :=
  match address.authority?, address.way with
  | none, .steps ([] :: _ :: _) => true
  | _, _ => false

/-- The normal form of the address. -/
def text (address : Address) : String :=
  String.ofList
    (address.scheme ++ [':'] ++
      (address.authority?.elim [] fun authority =>
        '/' :: '/' :: authority.text) ++
      (if address.isAmbiguous then ['/', '.'] else []) ++
      address.way.text ++
      (address.query?.elim [] ('?' :: ·)) ++
      (address.fragment?.elim [] ('#' :: ·)))

end Address

end ScheduledJobs
