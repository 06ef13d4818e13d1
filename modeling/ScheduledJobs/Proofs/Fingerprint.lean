import Mathlib.Logic.ExistsUnique
import Mathlib.Tactic.ByContra
import ScheduledJobs.Job.Schedule
import ScheduledJobs.Proofs.Text.Numerals
import ScheduledJobs.Service.Emulator

/-!
# Fingerprints of texts that differ once

Taking an octet into a fingerprint can be taken back, since the factor is odd
and so has an inverse modulo 2^64.
-/

namespace ScheduledJobs

open Text

section OnePlace

variable {α : Type} {first second : List α} {item other : α}

/-- Whether two lists have one length and different items at exactly one
place. -/
def DifferAtOnePlace (first second : List α) : Prop :=
  first.length = second.length ∧ ∃! place : Nat, first[place]? ≠ second[place]?

theorem not_differAtOnePlace_nil_left : ¬DifferAtOnePlace [] second := by
  rintro ⟨sameLength, place, differs, -⟩
  obtain rfl : second = [] := List.length_eq_zero_iff.mp sameLength.symm
  exact differs rfl

theorem not_differAtOnePlace_nil_right : ¬DifferAtOnePlace first [] := by
  rintro ⟨sameLength, place, differs, -⟩
  obtain rfl : first = [] := List.length_eq_zero_iff.mp sameLength
  exact differs rfl

theorem differAtOnePlace_cons_self :
    DifferAtOnePlace (item :: first) (item :: second) ↔
      DifferAtOnePlace first second := by
  refine and_congr Nat.succ_inj ⟨?_, ?_⟩
  · rintro ⟨place, differs, unique⟩
    cases place with
    | zero => exact absurd rfl differs
    | succ place =>
        exact ⟨place, differs, fun later laterDiffers =>
          Nat.succ_inj.mp (unique (later + 1) laterDiffers)⟩
  · rintro ⟨place, differs, unique⟩
    refine ⟨place + 1, differs, fun later laterDiffers => ?_⟩
    cases later with
    | zero => exact absurd rfl laterDiffers
    | succ later => exact congrArg Nat.succ (unique later laterDiffers)

theorem differAtOnePlace_cons_of_ne (different : item ≠ other) :
    DifferAtOnePlace (item :: first) (other :: second) ↔ first = second := by
  have differFirst : (item :: first)[0]? ≠ (other :: second)[0]? :=
    fun same => different (Option.some.inj same)
  constructor
  · rintro ⟨-, place, -, unique⟩
    have isFirst : 0 = place := unique 0 differFirst
    refine List.ext_getElem? fun later => ?_
    by_contra differs
    have isLater : later + 1 = place := unique (later + 1) differs
    omega
  · rintro rfl
    refine ⟨rfl, 0, differFirst, fun later differs => ?_⟩
    cases later with
    | zero => rfl
    | succ later => exact absurd rfl differs

instance decidableDifferAtOnePlace [DecidableEq α] :
    (first second : List α) → Decidable (DifferAtOnePlace first second)
  | [], _ => .isFalse not_differAtOnePlace_nil_left
  | _ :: _, [] => .isFalse not_differAtOnePlace_nil_right
  | item :: first, other :: second =>
      if same : item = other then
        have := decidableDifferAtOnePlace first second
        decidable_of_iff (DifferAtOnePlace first second)
          (by rw [same, differAtOnePlace_cons_self])
      else
        decidable_of_iff (first = second)
          (differAtOnePlace_cons_of_ne same).symm

end OnePlace

namespace Fingerprint

/-- The number that undoes the factor of a step. -/
def inverse : UInt64 := 0xCE965057AFF6957B

theorem prime_mul_inverse : prime * inverse = 1 := by decide

/-- The fingerprint into which the octet was taken. -/
def release (fingerprint : UInt64) (octet : UInt8) : UInt64 :=
  (fingerprint * inverse) ^^^ octet.toUInt64

theorem absorb_mul_inverse (fingerprint : UInt64) (octet : UInt8) :
    absorb fingerprint octet * inverse = fingerprint ^^^ octet.toUInt64 := by
  rw [absorb, UInt64.mul_assoc, prime_mul_inverse, UInt64.mul_one]

theorem release_absorb (fingerprint : UInt64) (octet : UInt8) :
    release (absorb fingerprint octet) octet = fingerprint := by
  rw [release, absorb_mul_inverse, UInt64.xor_assoc, UInt64.xor_self,
    UInt64.xor_zero]

theorem absorb_injective {first second : UInt64} {octet : UInt8}
    (same : absorb first octet = absorb second octet) : first = second := by
  rw [← release_absorb first octet, same, release_absorb]

/-- One fingerprint tells apart the octets that are taken into it. -/
theorem absorb_octet_injective {fingerprint : UInt64} {octet other : UInt8}
    (same : absorb fingerprint octet = absorb fingerprint other) :
    octet = other := by
  have mixed : fingerprint ^^^ octet.toUInt64 =
      fingerprint ^^^ other.toUInt64 := by
    rw [← absorb_mul_inverse, same, absorb_mul_inverse]
  exact UInt8.toUInt64_inj.mp ((UInt64.xor_right_inj fingerprint).mp mixed)

/-- Different fingerprints stay different while the same octets are taken into
both. -/
theorem foldl_absorb_injective (octets : List UInt8) {first second : UInt64}
    (same : octets.foldl absorb first = octets.foldl absorb second) :
    first = second := by
  induction octets generalizing first second with
  | nil => exact same
  | cons octet octets ih => exact absorb_injective (ih same)

/-- Octets that differ at one place lead from a fingerprint to different
ones. -/
theorem foldl_absorb_ne {first second : List UInt8}
    (differ : DifferAtOnePlace first second) (fingerprint : UInt64) :
    first.foldl absorb fingerprint ≠ second.foldl absorb fingerprint := by
  induction first generalizing second fingerprint with
  | nil => exact absurd differ not_differAtOnePlace_nil_left
  | cons octet first ih =>
      cases second with
      | nil => exact absurd differ not_differAtOnePlace_nil_right
      | cons other second =>
          by_cases same : octet = other
          · subst same
            exact ih (differAtOnePlace_cons_self.mp differ) _
          · obtain rfl := (differAtOnePlace_cons_of_ne same).mp differ
            intro equal
            exact same
              (absorb_octet_injective (foldl_absorb_injective first equal))

end Fingerprint

theorem Emulator.thumbprint_eq_iff {pfx other : String} :
    thumbprint pfx = thumbprint other ↔
      Fingerprint.ofOctets (Utf8.encode pfx) =
        Fingerprint.ofOctets (Utf8.encode other) := by
  constructor
  · intro same
    exact UInt64.toNat_inj.mp
      (Hexadecimal.capitals_injective (String.ofList_injective same))
  · intro same
    rw [thumbprint, thumbprint, same]

namespace Fingerprint

/-- Octets that differ at one place have different fingerprints.  So names of
days have different identities, and certificates different thumbprints, when
one octet is all that they differ in. -/
theorem ofOctets_ne_of_differAtOnePlace :
    (∀ first second : List UInt8, DifferAtOnePlace first second →
      ofOctets first ≠ ofOctets second) ∧
    (∀ first second : DayName,
      DifferAtOnePlace (Utf8.encode (LowerCase.lower first.name))
          (Utf8.encode (LowerCase.lower second.name)) →
        identity first ≠ identity second) ∧
    ∀ pfx other : String,
      DifferAtOnePlace (Utf8.encode pfx) (Utf8.encode other) →
        Emulator.thumbprint pfx ≠ Emulator.thumbprint other := by
  have ofOctetsNe (first second : List UInt8)
      (differ : DifferAtOnePlace first second) :
      ofOctets first ≠ ofOctets second :=
    foldl_absorb_ne differ basis
  refine ⟨ofOctetsNe, fun first second => ofOctetsNe _ _, ?_⟩
  intro pfx other differ same
  exact ofOctetsNe _ _ differ (Emulator.thumbprint_eq_iff.mp same)

/-- An octet of a letter beyond ASCII, one of a day and one of a
certificate. -/
theorem ofOctets_ne_of_differAtOnePlace_of_accent :
    ofOctets [0xC3, 0xA8, 0x21] ≠ ofOctets [0xC3, 0xA9, 0x21] ∧
      identity (DayName.mk "PIÈCE") ≠ identity (DayName.mk "Piéce") ∧
      Emulator.thumbprint "MIIblob" ≠ Emulator.thumbprint "MIIblub" := by
  obtain ⟨octets, days, certificates⟩ := ofOctets_ne_of_differAtOnePlace
  exact ⟨octets _ _ (by decide), days _ _ (by decide +kernel),
    certificates _ _ (by decide +kernel)⟩

end Fingerprint

end ScheduledJobs
