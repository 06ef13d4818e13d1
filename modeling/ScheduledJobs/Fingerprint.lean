/-!
# Fingerprints of octets

A 64-bit fingerprint is taken up octet by octet: each octet is mixed into the
low bits, and the result is multiplied by a prime modulo 2^64.
-/

namespace ScheduledJobs.Fingerprint

/-- The fingerprint of no octets. -/
def basis : UInt64 := 0xCBF29CE484222325

/-- The factor of every step. -/
def prime : UInt64 := 0x100000001B3

/-- Take one more octet into a fingerprint. -/
def absorb (fingerprint : UInt64) (octet : UInt8) : UInt64 :=
  (fingerprint ^^^ octet.toUInt64) * prime

/-- The fingerprint of octets. -/
def ofOctets (octets : List UInt8) : UInt64 := octets.foldl absorb basis

theorem ofOctets_append (first second : List UInt8) :
    ofOctets (first ++ second) = second.foldl absorb (ofOctets first) :=
  List.foldl_append

end ScheduledJobs.Fingerprint
