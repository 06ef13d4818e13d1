import ScheduledJobs.Exchange.Outgoing
import ScheduledJobs.Proofs.Job.Domain
import ScheduledJobs.Proofs.Text.Octets

/-!
# Schemes in octets

Schemes are compared with octets at the start of an address, which need not end
where a character does.
-/

namespace ScheduledJobs

open Text

namespace Text.Utf8

/-- Lower the octet of an ASCII capital. -/
def foldOctet (octet : UInt8) : UInt8 :=
  if 0x41 ≤ octet ∧ octet ≤ 0x5A then octet + 0x20 else octet

theorem foldOctet_of_le {octet : UInt8} (beyond : 0x80 ≤ octet) :
    foldOctet octet = octet := by
  refine if_neg fun capital => ?_
  have least := UInt8.le_iff_toNat_le.mp beyond
  have greatest := UInt8.le_iff_toNat_le.mp capital.2
  simp only [UInt8.reduceToNat] at least greatest
  omega

theorem foldOctet_lt_iff {octet : UInt8} :
    foldOctet octet < 0x80 ↔ octet < 0x80 := by
  unfold foldOctet
  split
  · next capital =>
      have greatest := UInt8.le_iff_toNat_le.mp capital.2
      simp only [UInt8.lt_iff_toNat_lt, UInt8.toNat_add, UInt8.reduceToNat]
        at greatest ⊢
      omega
  · exact .rfl

theorem foldOctet_ofNat :
    ∀ code < 128, foldOctet (UInt8.ofNat code) =
      UInt8.ofNat (Char.ofNat code).toLower.toNat := by
  decide +kernel

theorem map_foldOctet_octets (characters : List Char) :
    (octets characters).map foldOctet = octets (foldCase characters) := by
  induction characters with
  | nil => rfl
  | cons character others ih =>
      rw [octets_cons, List.map_append, ih, foldCase_cons, octets_cons]
      congr 1
      by_cases ascii : character.toNat < 0x80
      · have folded := foldOctet_ofNat character.toNat ascii
        rw [Char.ofNat_toNat] at folded
        rw [utf8EncodeChar_of_ascii ascii,
          utf8EncodeChar_of_ascii (toNat_toLower_lt_iff.mpr ascii),
          List.map_singleton, folded]
      · have stays : character.toLower = character :=
          toLower_of_not_isCapital fun capital => ascii (by
            have bound := capital.2
            omega)
        have beyond : 0x80 ≤ character.toNat := Nat.not_lt.mp ascii
        have fixed : ∀ octet ∈ String.utf8EncodeChar character,
            foldOctet octet = id octet :=
          fun octet member => foldOctet_of_le
            (le_of_mem_utf8EncodeChar beyond member)
        rw [stays, List.map_congr_left fixed, List.map_id]

/-- A text can be cut after octets of ASCII characters: no other character has
such an octet. -/
theorem exists_append_of_octets {characters : List Char}
    {start rest : List UInt8} (divided : octets characters = start ++ rest)
    (ascii : ∀ octet ∈ start, octet < 0x80) :
    ∃ first others, characters = first ++ others ∧ octets first = start ∧
      octets others = rest := by
  induction start generalizing characters with
  | nil => exact ⟨[], characters, rfl, rfl, divided⟩
  | cons octet start ih =>
      obtain ⟨isAscii, areAscii⟩ := List.forall_mem_cons.mp ascii
      cases characters with
      | nil => simp at divided
      | cons character characters =>
          have single : character.toNat < 0x80 := by
            refine Nat.lt_of_not_le fun beyond => ?_
            obtain ⟨head, tail, isList⟩ := List.exists_cons_of_ne_nil
              (String.utf8EncodeChar_ne_nil (c := character))
            rw [octets_cons, isList, List.cons_append, List.cons_append,
              List.cons.injEq] at divided
            have member : octet ∈ String.utf8EncodeChar character := by
              rw [isList, ← divided.1]
              exact List.mem_cons_self
            have least := le_of_mem_utf8EncodeChar beyond member
            exact UInt8.not_lt.mpr least isAscii
          rw [octets_cons, utf8EncodeChar_of_ascii single,
            List.singleton_append, List.cons_append, List.cons.injEq]
            at divided
          obtain ⟨same, divided⟩ := divided
          obtain ⟨first, others, isAll, isStart, isRest⟩ :=
            ih divided areAscii
          refine ⟨character :: first, others, by rw [isAll, List.cons_append],
            ?_, isRest⟩
          rw [octets_cons, utf8EncodeChar_of_ascii single, isStart, same]
          rfl

end Text.Utf8

namespace Url

open Utf8

/-- Whether the octets of an address are those of a scheme, up to the case of
ASCII letters, and the rest after them. -/
def IsDivided (scheme url : String) (rest : List UInt8) : Prop :=
  ∃ start, encode url = start ++ rest ∧
    start.map foldOctet = (encode scheme).map foldOctet

def BeginsWith (scheme url : String) : Prop := ∃ rest, IsDivided scheme url rest

theorem encode_lt_of_isAscii {text : String} (ascii : IsAscii text.toList) :
    ∀ octet ∈ encode text, octet < 0x80 := by
  intro octet member
  rw [encode_eq_octets] at member
  obtain ⟨character, isIn, member⟩ := List.mem_flatMap.mp member
  have below := ascii character isIn
  rw [utf8EncodeChar_of_ascii below, List.mem_singleton] at member
  rw [member, UInt8.lt_iff_toNat_lt, UInt8.toNat_ofNat',
    Nat.mod_eq_of_lt (by omega)]
  exact below

/-- Where the octets of an address spell a scheme, its characters do. -/
theorem isDivided_iff {scheme : String} (ascii : IsAscii scheme.toList)
    {url : String} {rest : List UInt8} :
    IsDivided scheme url rest ↔
      ∃ first others, url.toList = first ++ others ∧
        foldCase first = foldCase scheme.toList ∧ octets others = rest := by
  constructor
  · rintro ⟨start, divided, spelled⟩
    have areAscii : ∀ octet ∈ start, octet < 0x80 := by
      intro octet member
      have folded := List.mem_map_of_mem (f := foldOctet) member
      rw [spelled] at folded
      obtain ⟨other, isOther, same⟩ := List.mem_map.mp folded
      rw [← foldOctet_lt_iff, ← same, foldOctet_lt_iff]
      exact encode_lt_of_isAscii ascii other isOther
    rw [encode_eq_octets] at divided
    obtain ⟨first, others, isUrl, rfl, isRest⟩ :=
      exists_append_of_octets divided areAscii
    rw [map_foldOctet_octets, encode_eq_octets, map_foldOctet_octets]
      at spelled
    exact ⟨first, others, isUrl, octets_injective spelled, isRest⟩
  · rintro ⟨first, others, isUrl, spelled, rfl⟩
    refine ⟨octets first, ?_, ?_⟩
    · rw [encode_eq_octets, isUrl, octets_append]
    · rw [map_foldOctet_octets, encode_eq_octets, map_foldOctet_octets,
        spelled]

theorem hasScheme_iff_beginsWith {scheme : String}
    (ascii : IsAscii scheme.toList) {url : String} :
    hasScheme scheme url = true ↔ BeginsWith scheme url := by
  rw [hasScheme_iff ascii]
  simp only [BeginsWith, isDivided_iff ascii]
  constructor
  · intro spelled
    exact ⟨_, _, _, (List.take_append_drop _ _).symm, spelled, rfl⟩
  · rintro ⟨rest, first, others, isUrl, spelled, -⟩
    rw [isUrl, take_append_of_foldCase_eq spelled, spelled]

theorem isAscii_plainScheme : IsAscii "http://".toList := by simp [IsAscii]

theorem isAscii_secureScheme : IsAscii "https://".toList := by simp [IsAscii]

/-- An address is one of the web when one of the schemes and at least one octet
after it make it up. -/
theorem isWeb_iff_isDivided {url : String} :
    isWeb url = true ↔ ∃ scheme ∈ ["http://", "https://"],
      ∃ rest, IsDivided scheme url rest ∧ rest ≠ [] := by
  rw [isWeb_iff]
  refine exists_congr fun scheme => and_congr_right fun isOne => ?_
  have ascii : IsAscii scheme.toList := by
    simp only [List.mem_cons, List.not_mem_nil, or_false] at isOne
    rcases isOne with rfl | rfl
    · exact isAscii_plainScheme
    · exact isAscii_secureScheme
  simp only [isDivided_iff ascii]
  constructor
  · rintro ⟨start, rest, isUrl, spelled, nonempty⟩
    exact ⟨_, ⟨start, rest, isUrl, spelled, rfl⟩,
      mt octets_eq_nil_iff.mp nonempty⟩
  · rintro ⟨_, ⟨start, rest, isUrl, spelled, rfl⟩, nonempty⟩
    exact ⟨start, rest, isUrl, spelled, mt octets_eq_nil_iff.mpr nonempty⟩

/-- No address has both schemes: they differ where the shorter one has its
colon. -/
theorem not_beginsWith_both {url : String} (plain : BeginsWith "http://" url) :
    ¬BeginsWith "https://" url := by
  intro secure
  rw [← hasScheme_iff_beginsWith isAscii_plainScheme,
    hasScheme_iff isAscii_plainScheme] at plain
  rw [← hasScheme_iff_beginsWith isAscii_secureScheme,
    hasScheme_iff isAscii_secureScheme] at secure
  have shorter := congrArg (List.take 7) secure
  rw [foldCase, ← List.map_take, List.take_take] at shorter
  exact absurd (plain.symm.trans shorter) (by decide)

theorem kindOf_eq_https_iff {url : String} :
    WebAction.kindOf url = .https ↔ BeginsWith "https://" url := by
  rw [← hasScheme_iff_beginsWith isAscii_secureScheme]
  change _ ↔ isSecure url = true
  unfold WebAction.kindOf
  split
  · next secure => simp [secure]
  · next notSecure => simp [notSecure]

theorem kindOf_eq_http_iff {url : String} :
    WebAction.kindOf url = .http ↔ ¬BeginsWith "https://" url := by
  rw [← kindOf_eq_https_iff]
  unfold WebAction.kindOf
  split <;> simp

/-- An address is accepted when it goes on after one of the two schemes, and it
has no other one.  Requests to it are of the kind that its scheme tells; to any
address they are encrypted just when it begins with the secure scheme. -/
theorem isWeb_and_kindOf (url : String) :
    (isWeb url = true ↔ ∃ scheme ∈ ["http://", "https://"],
      ∃ rest, IsDivided scheme url rest ∧ rest ≠ []) ∧
    (isWeb url = true →
      (BeginsWith "http://" url ∧ ¬BeginsWith "https://" url ∧
        WebAction.kindOf url = .http) ∨
      (BeginsWith "https://" url ∧ ¬BeginsWith "http://" url ∧
        WebAction.kindOf url = .https)) ∧
    (WebAction.kindOf url = .https ↔ BeginsWith "https://" url) := by
  refine ⟨isWeb_iff_isDivided, fun accepted => ?_, kindOf_eq_https_iff⟩
  obtain ⟨scheme, isOne, rest, divided, -⟩ := isWeb_iff_isDivided.mp accepted
  simp only [List.mem_cons, List.not_mem_nil, or_false] at isOne
  rcases isOne with rfl | rfl
  · have notSecure := not_beginsWith_both ⟨rest, divided⟩
    exact .inl ⟨⟨rest, divided⟩, notSecure, kindOf_eq_http_iff.mpr notSecure⟩
  · exact .inr ⟨⟨rest, divided⟩,
      fun plain => not_beginsWith_both plain ⟨rest, divided⟩,
      kindOf_eq_https_iff.mpr ⟨rest, divided⟩⟩

/-- An address in capital letters with a character of two octets after the
scheme, and one where such a character begins within the eighth octet. -/
theorem isWeb_and_kindOf_of_two :
    isWeb "HTTPS://\u00E9" = true ∧
      WebAction.kindOf "HTTPS://\u00E9" = .https ∧
      WebAction.kindOf "https:/\u00E9" ≠ .https := by
  have divided : IsDivided "https://" "HTTPS://\u00E9" [0xC3, 0xA9] :=
    ⟨encode "HTTPS://", by decide, by decide⟩
  have notSecure : ¬BeginsWith "https://" "https:/\u00E9" := by
    rw [← hasScheme_iff_beginsWith isAscii_secureScheme,
      hasScheme_iff isAscii_secureScheme]
    decide
  obtain ⟨accepts, kinds, -⟩ := isWeb_and_kindOf "HTTPS://\u00E9"
  have accepted := accepts.mpr ⟨_, by simp, _, divided, by simp⟩
  refine ⟨accepted, ?_, ?_⟩
  · rcases kinds accepted with ⟨-, notDivided, -⟩ | ⟨-, -, kind⟩
    · exact absurd ⟨_, divided⟩ notDivided
    · exact kind
  · exact fun kind => notSecure ((isWeb_and_kindOf _).2.2.mp kind)

end Url

end ScheduledJobs
