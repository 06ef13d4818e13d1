import ScheduledJobs.Document.Form
import ScheduledJobs.IdentitySet

/-!
# Presence of a collection

A field that holds a collection can be left out, be given without members, or
be given with members, and the three are told apart.
-/

namespace ScheduledJobs

/-- A collection that may be missing or known to be empty. -/
inductive Presence (α : Type) where
  /-- The field is left out. -/
  | unset
  /-- The field is given and holds no members. -/
  | empty
  /-- The field is given and holds members. -/
  | value (members : α)
  deriving BEq, Inhabited

namespace Presence

variable {α : Type}

def isUnset : Presence α → Bool
  | .unset => true
  | _ => false

def isProvided (presence : Presence α) : Bool := !presence.isUnset

/-- The members, if there are any. -/
def members? : Presence α → Option α
  | .value members => some members
  | _ => none

variable [Identified α]

/-- A given set, which is empty or has members. -/
def provided (set : IdentitySet α) : Presence (IdentitySet α) :=
  if set.isEmpty then .empty else .value set

/-- A given set, where no set counts as an empty one. -/
def ofOption : Option (IdentitySet α) → Presence (IdentitySet α)
  | some set => provided set
  | none => .empty

/-- The items of a set that a document gives as a list or as null. -/
def read (item : Document.Reader α) :
    Document.Reader (Presence (IdentitySet α)) := fun value => do
  let items ← Document.Reader.nullable (Document.Reader.list item) value
  return ofOption (items.map IdentitySet.ofList)

/-- The field of a form that holds a set. -/
def field (name : String) (item : Document.Reader α) :
    Document.Form (Presence (IdentitySet α)) :=
  .defaulted name .unset (read item)

/-- The list of the members, null for a field that is left out. -/
def toValue (item : α → Document.Value) :
    Presence (IdentitySet α) → Document.Value
  | .unset => .null
  | .empty => .list []
  | .value set => .list (set.members.map item)

/-- The list of the members, unless the field is left out. -/
def toField (item : α → Document.Value) (presence : Presence (IdentitySet α)) :
    Option Document.Value :=
  if presence.isUnset then none else some (presence.toValue item)

end Presence

end ScheduledJobs
