import ScheduledJobs.Text.Caseless
import ScheduledJobs.Text.Utf8

/-!
# Schemes of addresses

A scheme is compared without regard to case with the octets at the start of an
address.
-/

namespace ScheduledJobs.Url

open Text

/-- Whether the first octets of the address spell the scheme in any case. -/
def hasScheme (scheme url : String) : Bool :=
  match Utf8.take? (Utf8.length scheme.toList) url.toList with
  | some start => foldCase start == foldCase scheme.toList
  | none => false

def secureScheme : String := "https://"

def plainScheme : String := "http://"

def isSecure (url : String) : Bool := hasScheme secureScheme url

/-- Whether the address has one of the two schemes and something after it. -/
def isWeb (url : String) : Bool :=
  [plainScheme, secureScheme].any fun scheme =>
    hasScheme scheme url &&
      Utf8.length scheme.toList < Utf8.length url.toList

end ScheduledJobs.Url
