import ScheduledJobs.Text.Hexadecimal

/-!
# The words of TOML

Blanks, line ends, comments, keys and strings. Each reader takes the characters
that are left and gives what it has read with the characters that follow.
-/

namespace ScheduledJobs.Document.Toml

open Text

def isSpace (character : Char) : Bool := character == ' ' || character == '\t'

def skipSpace (rest : List Char) : List Char := rest.dropWhile isSpace

def lineEnd? : List Char → Option (List Char)
  | '\n' :: rest => some rest
  | '\r' :: '\n' :: rest => some rest
  | _ => none

/-- Characters outside ASCII may stand in comments and strings. -/
def isExtended (character : Char) : Bool := 0x80 ≤ character.toNat

def isCommentCharacter (character : Char) : Bool :=
  character == '\t' || isExtended character ||
    (0x20 ≤ character.toNat && character.toNat ≤ 0x7E)

/-- Pass over a comment, if there is one. -/
def skipComment : List Char → List Char
  | '#' :: rest => rest.dropWhile isCommentCharacter
  | rest => rest

/-- Pass over at most `fuel` blanks, comments and line ends. -/
def skipLines : (fuel : Nat) → List Char → List Char
  | 0, rest => rest
  | fuel + 1, rest =>
      let here := skipSpace rest
      match lineEnd? (skipComment here) with
      | some next => skipLines fuel next
      | none => here

/-- Pass over blanks, comments and line ends. -/
def skipTrivia (rest : List Char) : List Char := skipLines rest.length rest

/-- The content of a string and what follows it. -/
abbrev StringResult := Option (List Char × List Char)

/-- Put characters in front of the content of a string. -/
def prepend (characters : List Char) (result : StringResult) : StringResult :=
  result.map fun (content, rest) => (characters ++ content, rest)

/-- The character that a letter after a backslash stands for. -/
def shortEscape? : Char → Option Char
  | 'b' => some '\x08'
  | 't' => some '\t'
  | 'n' => some '\n'
  | 'f' => some '\x0c'
  | 'r' => some '\r'
  | '"' => some '"'
  | '\\' => some '\\'
  | _ => none

def numberedCharacter? (digits : List Char) : Option Char := do
  let values ← digits.mapM Hexadecimal.digit?
  let number := values.foldl (fun number digit => number * 16 + digit) 0
  if number.isValidChar then some (Char.ofNat number) else none

/-- Characters that stand for themselves in a basic string. -/
def isBasicCharacter (character : Char) : Bool :=
  isCommentCharacter character && character != '"' && character != '\\'

/-- Characters that stand for themselves in a literal string. -/
def isLiteralCharacter (character : Char) : Bool :=
  isCommentCharacter character && character != '\''

/-- The inside of a basic string up to its closing quote. -/
def basicBody? : List Char → StringResult
  | [] => none
  | '"' :: rest => some ([], rest)
  | '\\' :: 'u' :: a :: b :: c :: d :: rest =>
      (numberedCharacter? [a, b, c, d]).bind fun character =>
        prepend [character] (basicBody? rest)
  | '\\' :: 'U' :: a :: b :: c :: d :: e :: f :: g :: h :: rest =>
      (numberedCharacter? [a, b, c, d, e, f, g, h]).bind fun character =>
        prepend [character] (basicBody? rest)
  | '\\' :: letter :: rest =>
      (shortEscape? letter).bind fun character =>
        prepend [character] (basicBody? rest)
  | character :: rest =>
      if isBasicCharacter character then
        prepend [character] (basicBody? rest)
      else none

/-- The inside of a literal string up to its closing quote. -/
def literalBody? : List Char → StringResult
  | [] => none
  | '\'' :: rest => some ([], rest)
  | character :: rest =>
      if isLiteralCharacter character then
        prepend [character] (literalBody? rest)
      else none

/-- The end of a string of several lines after a run of quotes: three of them
close it, and up to two in front of these are its own. -/
def closing? (quote : Char) (quotes : Nat) (rest : List Char) : StringResult :=
  if 3 ≤ quotes ∧ quotes ≤ 5 then
    some (List.replicate (quotes - 3) quote, rest)
  else none

/-- The inside of a basic string of several lines, after `quotes` quotes; when
`trimming`, blanks and line ends are passed over. -/
def basicLines? (trimming : Bool) (quotes : Nat) : List Char → StringResult
  | [] => closing? '"' quotes []
  | '"' :: rest => basicLines? false (quotes + 1) rest
  | character :: rest =>
      if 3 ≤ quotes then
        closing? '"' quotes (character :: rest)
      else
        prepend (List.replicate quotes '"') <|
          if character = '\\' then
            match rest with
            | 'u' :: a :: b :: c :: d :: after =>
                (numberedCharacter? [a, b, c, d]).bind fun character =>
                  prepend [character] (basicLines? false 0 after)
            | 'U' :: a :: b :: c :: d :: e :: f :: g :: h :: after =>
                (numberedCharacter? [a, b, c, d, e, f, g, h]).bind
                  fun character =>
                    prepend [character] (basicLines? false 0 after)
            | letter :: after =>
                match shortEscape? letter with
                | some character =>
                    prepend [character] (basicLines? false 0 after)
                | none =>
                    if (lineEnd? (skipSpace (letter :: after))).isSome then
                      basicLines? true 0 after
                    else none
            | [] => none
          else if character = '\n' then
            if trimming then basicLines? true 0 rest
            else prepend ['\n'] (basicLines? false 0 rest)
          else if character = '\r' then
            match rest with
            | '\n' :: after =>
                if trimming then basicLines? true 0 after
                else prepend ['\n'] (basicLines? false 0 after)
            | _ => none
          else if trimming && isSpace character then
            basicLines? true 0 rest
          else if isBasicCharacter character then
            prepend [character] (basicLines? false 0 rest)
          else none

/-- The inside of a literal string of several lines, after `quotes` quotes. -/
def literalLines? (quotes : Nat) : List Char → StringResult
  | [] => closing? '\'' quotes []
  | '\'' :: rest => literalLines? (quotes + 1) rest
  | character :: rest =>
      if 3 ≤ quotes then
        closing? '\'' quotes (character :: rest)
      else
        prepend (List.replicate quotes '\'') <|
          if character = '\n' then
            prepend ['\n'] (literalLines? 0 rest)
          else if character = '\r' then
            match rest with
            | '\n' :: after => prepend ['\n'] (literalLines? 0 after)
            | _ => none
          else if isLiteralCharacter character then
            prepend [character] (literalLines? 0 rest)
          else none

/-- A string of any kind; a line end right after three quotes is dropped. -/
def string? : List Char → StringResult
  | '"' :: '"' :: '"' :: rest =>
      basicLines? false 0 ((lineEnd? rest).getD rest)
  | '\'' :: '\'' :: '\'' :: rest =>
      literalLines? 0 ((lineEnd? rest).getD rest)
  | '"' :: rest => basicBody? rest
  | '\'' :: rest => literalBody? rest
  | _ => none

/-- Characters of a key without quotes. -/
def isKeyCharacter (character : Char) : Bool :=
  character.isAlphanum || character == '-' || character == '_'

/-- One part of a key, between blanks. -/
def keyPart? (rest : List Char) : Option (String × List Char) :=
  let part? : StringResult :=
    match skipSpace rest with
    | '"' :: quoted => basicBody? quoted
    | '\'' :: quoted => literalBody? quoted
    | bare =>
        match bare.takeWhile isKeyCharacter with
        | [] => none
        | characters => some (characters, bare.dropWhile isKeyCharacter)
  part?.map fun (characters, after) =>
    (String.ofList characters, skipSpace after)

/-- The parts of a key with points between them, at most `fuel` of them. -/
def keyParts? : (fuel : Nat) → List Char → Option (List String × List Char)
  | 0, _ => none
  | fuel + 1, rest => do
      let (first, rest) ← keyPart? rest
      match rest with
      | '.' :: rest =>
          let (others, rest) ← keyParts? fuel rest
          return (first :: others, rest)
      | rest => return ([first], rest)

/-- Greatest number of parts of a key. -/
def keyLimit : Nat := 79

/-- A key: the path to a table, and the name of an entry of it. -/
def key? (rest : List Char) : Option ((List String × String) × List Char) := do
  let (parts, rest) ← keyParts? keyLimit rest
  let name ← parts.getLast?
  return ((parts.dropLast, name), rest)

end ScheduledJobs.Document.Toml
