import ScheduledJobs.Job.Validation
import ScheduledJobs.Proofs.Text.LowerCase

/-!
# Addresses with a scheme

An address has a scheme exactly when its first characters spell it in any
case.
-/

namespace ScheduledJobs

open Text

theorem Text.Utf8.take?_append (first rest : List Char) :
    Utf8.take? (Utf8.length first) (first ++ rest) = some first := by
  induction first with
  | nil => simp [Utf8.take?]
  | cons character characters ih =>
      have positive := character.utf8Size_pos
      obtain ⟨size, isSize⟩ :
          ∃ size, Utf8.length (character :: characters) = size + 1 :=
        ⟨_, (Nat.sub_add_cancel (by rw [Utf8.length_cons]; omega)).symm⟩
      have left : size + 1 - character.utf8Size = Utf8.length characters := by
        rw [← isSize, Utf8.length_cons]
        omega
      have fits : character.utf8Size ≤ size + 1 := by
        rw [← isSize, Utf8.length_cons]
        omega
      rw [isSize, List.cons_append, Utf8.take?, if_pos fits, left, ih]
      rfl

theorem Text.Utf8.take?_eq_some {size : Nat} {characters first : List Char}
    (taken : Utf8.take? size characters = some first) :
    ∃ rest, characters = first ++ rest ∧ Utf8.length first = size := by
  induction size, characters using Utf8.take?.induct generalizing first with
  | case1 characters =>
      obtain rfl : [] = first := by simpa [Utf8.take?] using taken
      exact ⟨characters, rfl, rfl⟩
  | case2 size => simp [Utf8.take?] at taken
  | case3 size character rest fits ih =>
      rw [Utf8.take?, if_pos fits] at taken
      obtain ⟨others, isOthers, rfl⟩ := Option.map_eq_some_iff.mp taken
      obtain ⟨left, isRest, isLength⟩ := ih isOthers
      refine ⟨left, by rw [isRest, List.cons_append], ?_⟩
      rw [Utf8.length_cons, isLength]
      omega
  | case4 size character rest tooLong =>
      rw [Utf8.take?, if_neg tooLong] at taken
      cases taken

theorem Text.Utf8.length_of_isAscii {characters : List Char}
    (ascii : IsAscii characters) :
    Utf8.length characters = characters.length := by
  induction characters with
  | nil => rfl
  | cons character others ih =>
      have single : character.utf8Size = 1 := by
        have below := ascii character (by simp)
        have : character.val ≤ 0x7f := by
          rw [UInt32.le_iff_toNat_le]
          change character.val.toNat < 0x80 at below
          exact Nat.le_of_lt_succ below
        simp [Char.utf8Size, this]
      rw [Utf8.length_cons, single, List.length_cons,
        ih fun other member => ascii other (List.mem_cons_of_mem _ member)]
      omega

theorem Text.length_eq_of_foldCase_eq {first second : List Char}
    (same : foldCase first = foldCase second) :
    first.length = second.length := by
  have lengths := congrArg List.length same
  rwa [length_foldCase, length_foldCase] at lengths

theorem Text.take_append_of_foldCase_eq {start text : List Char}
    (spelled : foldCase start = foldCase text) (rest : List Char) :
    (start ++ rest).take text.length = start := by
  rw [← length_eq_of_foldCase_eq spelled, List.take_left]

/-- Texts that agree up to the case of ASCII letters fill the same number of
octets, if one of them is an ASCII text. -/
theorem Text.Utf8.length_eq_of_foldCase_eq {first second : List Char}
    (ascii : IsAscii second) (same : foldCase first = foldCase second) :
    Utf8.length first = Utf8.length second := by
  have firstAscii : IsAscii first := by
    rw [← isAscii_foldCase, same, isAscii_foldCase]
    exact ascii
  rw [length_of_isAscii firstAscii, length_of_isAscii ascii,
    Text.length_eq_of_foldCase_eq same]

theorem Text.Utf8.length_pos_iff {characters : List Char} :
    0 < Utf8.length characters ↔ characters ≠ [] := by
  cases characters with
  | nil => simp
  | cons character others =>
      have size := character.utf8Size_pos
      simp only [length_cons, ne_eq, reduceCtorEq, not_false_eq_true, iff_true]
      omega

namespace Url

/-- An address has a scheme of ASCII characters when the characters at its
start spell it, in any case. -/
theorem hasScheme_iff {scheme : String} (ascii : IsAscii scheme.toList)
    (url : String) :
    hasScheme scheme url = true ↔
      foldCase (url.toList.take scheme.toList.length) =
        foldCase scheme.toList := by
  constructor
  · intro has
    unfold hasScheme at has
    split at has
    · next start taken =>
        obtain ⟨rest, isUrl, -⟩ := Utf8.take?_eq_some taken
        have same : foldCase start = foldCase scheme.toList := by
          simpa using has
        rw [isUrl, take_append_of_foldCase_eq same, same]
    · cases has
  · intro spelled
    have size := Utf8.length_eq_of_foldCase_eq ascii spelled
    have taken := Utf8.take?_append
      (url.toList.take scheme.toList.length)
      (url.toList.drop scheme.toList.length)
    rw [List.take_append_drop] at taken
    rw [size] at taken
    simp only [hasScheme, taken, spelled, beq_self_eq_true]

/-- An address has a scheme of ASCII characters and goes on after it when it
can be divided into the two. -/
theorem hasScheme_and_lt_iff {scheme : String} (ascii : IsAscii scheme.toList)
    (url : String) :
    hasScheme scheme url = true ∧
        Utf8.length scheme.toList < Utf8.length url.toList ↔
      ∃ start rest, url.toList = start ++ rest ∧
        foldCase start = foldCase scheme.toList ∧ rest ≠ [] := by
  rw [hasScheme_iff ascii]
  constructor
  · rintro ⟨spelled, longer⟩
    refine ⟨_, _, (List.take_append_drop _ _).symm, spelled, ?_⟩
    have size := Utf8.length_eq_of_foldCase_eq ascii spelled
    rw [← List.take_append_drop scheme.toList.length url.toList,
      Utf8.length_append, size] at longer
    exact Utf8.length_pos_iff.mp (by omega)
  · rintro ⟨start, rest, isUrl, spelled, nonempty⟩
    have size := Utf8.length_eq_of_foldCase_eq ascii spelled
    have positive := Utf8.length_pos_iff.mpr nonempty
    rw [isUrl, take_append_of_foldCase_eq spelled, Utf8.length_append]
    exact ⟨spelled, by omega⟩

theorem hasScheme_append (scheme rest : String) :
    hasScheme scheme (scheme ++ rest) = true := by
  rw [hasScheme, String.toList_append, Utf8.take?_append]
  simp

/-- An address that begins with the scheme of encrypted requests leads
somewhere on the web. -/
theorem isWeb_secureScheme {rest : String} (nonempty : rest ≠ "") :
    isWeb (secureScheme ++ rest) = true := by
  have positive : 0 < Utf8.length rest.toList :=
    Utf8.length_pos_iff.mpr (by simpa using nonempty)
  simp [isWeb, hasScheme_append, positive]

theorem isWeb_host : isWeb "https://host" = true := by
  have text : "https://host" = secureScheme ++ "host" := by decide
  rw [text]
  exact isWeb_secureScheme (by decide)

end Url

/-- A job that visits a page, at a given place. -/
def Job.visit (resourceGroup collection name : String) : Job where
  name := name
  resourceGroup := resourceGroup
  collection := collection
  action := some {
    url := "https://host"
    method := "get"
    body := none
    headers := ∅
    credentials := none }

theorem Job.isValid_visit {resourceGroup collection name : String}
    (group : isBlankText resourceGroup = false)
    (inCollection : isBlankText collection = false)
    (validName : isValidName name = true) :
    (Job.visit resourceGroup collection name).isValid = true := by
  have method : isOneOf "get" allowedMethods = true := by decide
  simp [Job.isValid, Job.violations, Job.structureViolations,
    Job.fieldViolations, Job.visit, WebAction.violations, Retry.violations,
    Url.isWeb_host, method, group, inCollection, validName]

end ScheduledJobs
