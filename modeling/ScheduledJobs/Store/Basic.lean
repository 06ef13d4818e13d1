import ScheduledJobs.Document.Form
import ScheduledJobs.Document.Json.Parser
import ScheduledJobs.Document.Json.Printer
import ScheduledJobs.Path
import ScheduledJobs.Directory

/-!
# A store of octets under keys

The value under a key is the content of a file whose name spells the key in
hexadecimal digits. A value is written to a temporary file first, which then
takes the name, so that no reader sees half of it.
-/

namespace ScheduledJobs.Store

open Document Text

/-- Why a value cannot be written or read. -/
inductive Failure where
  /-- The temporary file cannot be created. -/
  | create (key : List UInt8) (cause : FileError)
  /-- The temporary file cannot take the name of the key. -/
  | rename (key : List UInt8) (cause : FileError)
  /-- The octets under the key are not what is asked for. -/
  | decode (key : List UInt8)
  deriving DecidableEq

/-- The directory of a store while it is used through the path of its root:
the path to a file must not be too long either. -/
def opened (root : String) (directory : Directory) : Directory :=
  let taken := Utf8.length (Path.join root "").toList
  { directory with
    nameLimit := min Directory.longestName (Path.limit - taken) }

/-- The directory of a store that is not used any more. -/
def closed (directory : Directory) : Directory :=
  { directory with nameLimit := Directory.longestName }

/-- The name of the file that holds the value of a key. -/
def fileName (key : List UInt8) : String :=
  String.ofList (Hexadecimal.ofOctets key)

/-- The name of the file to which the value of a key is written first. -/
def temporaryName (key : List UInt8) : String := fileName key ++ ".tmp"

namespace Failure

/-- What has been attempted, in the store with the given root. -/
def attempt (root : String) : Failure → String
  | .create key _ => "create " ++ Path.join root (temporaryName key)
  | .rename key _ => "rename to " ++ Path.join root (fileName key)
  | .decode key =>
      "decode " ++ String.ofList (Utf8.decodeLossy key)

/-- Why the attempt has failed. -/
def cause : Failure → String
  | .create _ cause | .rename _ cause => cause.message
  | .decode _ => "unexpected content"

end Failure

/-- The steps by which a value is written in pieces. -/
def pieceSteps (key : List UInt8) (pieces : List (List UInt8)) :
    List Directory.Step :=
  .create (temporaryName key) ::
    (pieces.map (.append (temporaryName key)) ++
      [.flush (temporaryName key),
        .rename (temporaryName key) (fileName key)])

/-- The steps by which a value is written as one piece. -/
def writeSteps (key value : List UInt8) : List Directory.Step :=
  pieceSteps key [value]

/-- The value under a key. -/
def get? (directory : Directory) (key : List UInt8) : Option (List UInt8) :=
  directory.file? (fileName key)

/-- Put a value under a key; there is no file for an empty key. -/
def put (directory : Directory) (key value : List UInt8) :
    Except Failure Unit × Directory :=
  if key.isEmpty then
    (.error (.rename key .notDirectory), directory)
  else
    match directory.steps (writeSteps key value) with
    | (.ok (), written) => (.ok (), written)
    | (.error (.rename _ _, cause), left) => (.error (.rename key cause), left)
    | (.error (_, cause), left) => (.error (.create key cause), left)

/-- Remove the value under a key, and tell whether there was one. -/
def delete (directory : Directory) (key : List UInt8) : Bool × Directory :=
  if (get? directory key).isSome then (true, directory.erase (fileName key))
  else (false, directory)

/-- A key within a namespace. -/
def namespaced (space key : String) : List UInt8 :=
  Utf8.encode (space ++ ":" ++ key)

/-- The typed value under a key, stored as JSON. -/
def load {α : Type} (read : Reader α) (directory : Directory)
    (key : List UInt8) : Except Failure (Option α) :=
  match get? directory key with
  | none => .ok none
  | some octets =>
      match (Json.ofOctets? octets).map read with
      | some (.ok value) => .ok (some value)
      | _ => .error (.decode key)

/-- Put a document value under a key, as JSON. -/
def save (directory : Directory) (key : List UInt8) (value : Value) :
    Except Failure Unit × Directory :=
  put directory key (Utf8.encode (Json.render value))

end ScheduledJobs.Store
