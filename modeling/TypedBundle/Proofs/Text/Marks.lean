import TypedBundle.Proofs.Manifest.LegalNames
import TypedBundle.Proofs.Text.Capital

/-!
# Capitals with marks

The upper case form of a letter consists of letters, but for a few letters it is a letter and
combining marks, which cannot stand in a name: the capital of `ǰ` is `J` with U+030C. So an accessor
has a legal name exactly if its property does not begin with one of those letters
(`Identifier.isLegal_accessor_append_iff`), and a keyword it never is.
-/

namespace TypedBundle.Text

/-- The letters whose capital takes combining marks. -/
def markedLetters : List Nat := [
  0x1f0, 0x390, 0x3b0, 0x1e96, 0x1e97, 0x1e98, 0x1e99, 0x1f50, 0x1f52, 0x1f54, 0x1f56, 0x1fb6,
  0x1fb7, 0x1fc6, 0x1fc7, 0x1fd2, 0x1fd3, 0x1fd6, 0x1fd7, 0x1fe2, 0x1fe3, 0x1fe4, 0x1fe6, 0x1fe7,
  0x1ff6, 0x1ff7]

/-- Whether one of the intervals holds all code points from the first to the last. -/
def Ranges.hasAll : Ranges → Nat → Nat → Bool
  | [], _, _ => false
  | (lo, hi) :: rest, first, last =>
    bif last.ble hi then lo.ble first else hi.blt first && Ranges.hasAll rest first last

/-- Ranges that have all code points between two have each of them. -/
lemma Ranges.has_of_hasAll {rs : Ranges} {first last n : Nat} (h : rs.hasAll first last)
    (hf : first ≤ n) (hl : n ≤ last) : rs.has n := by
  induction rs with
  | nil => cases h
  | cons r rest ih =>
    obtain ⟨lo, hi⟩ := r
    unfold hasAll at h
    unfold has
    cases hb : last.ble hi with
    | true =>
      rw [hb, cond_true, Nat.ble_eq] at h
      rw [Nat.ble_eq] at hb
      rw [if_pos (by omega)]
      exact decide_eq_true (by omega)
    | false =>
      rw [hb, cond_false, Bool.and_eq_true, Nat.blt_eq] at h
      rw [if_neg (by omega)]
      exact ih h.2

/-- Nearly every run leads into one interval of letters. -/
lemma hasAll_of_upperRuns : ∀ r ∈ upperRuns,
    alphabeticRanges.hasAll r.image (r.image + (r.last - r.first)) ∨
      ∀ k ∈ List.range (r.last - r.first + 1), k % r.step = 0 →
        alphabeticRanges.has (r.image + k) := by
  decide +kernel

/-- All runs lead to code points of characters. -/
lemma isValidChar_of_upperRuns : ∀ r ∈ upperRuns,
    r.image + (r.last - r.first) < 0xd800 ∨
      0xdfff < r.image ∧ r.image + (r.last - r.first) < 0x110000 := by
  decide +kernel

/-- The image of a code point on a run is a letter. -/
lemma isAlphabetic_image {r n k} (hr : r ∈ upperRuns) (h : CaseRun.image? r n = some k) :
    isAlphabetic (Char.ofNat k) := by
  unfold CaseRun.image? at h
  split at h
  · next hn =>
    cases h
    have hv : (r.image + (n - r.first)).isValidChar := by
      have := isValidChar_of_upperRuns r hr
      unfold Nat.isValidChar
      omega
    have hc : (Char.ofNat (r.image + (n - r.first))).toNat = r.image + (n - r.first) :=
      congrArg Char.toNat (dif_pos hv)
    unfold isAlphabetic
    rw [hc]
    obtain ha | ha := hasAll_of_upperRuns r hr
    · exact Ranges.has_of_hasAll ha (by omega) (by omega)
    · exact ha _ (List.mem_range.2 (by omega)) hn.2.2
  · cases h

/-- The letters with marks are not on a run. -/
lemma findSome?_of_mem_markedLetters :
    ∀ n ∈ markedLetters, upperRuns.findSome? (·.image? n) = none := by
  decide +kernel

/-- Of the expansions, those of the letters with marks have characters that stand in no name. -/
lemma upperExpansions_isPart : ∀ p ∈ upperExpansions,
    (p.2.all fun n => Identifier.isPart (Char.ofNat n)) = !markedLetters.contains p.1 := by
  decide +kernel

/-- Every letter with marks has an expansion. -/
lemma lookup_of_mem_markedLetters : ∀ n ∈ markedLetters, (upperExpansions.lookup n).isSome := by
  decide +kernel

/-- The upper case form of a character that can stand in a name consists of such characters, unless
it takes marks. -/
lemma forall_isPart_upper_iff {c : Char} (hc : Identifier.isPart c) :
    (∀ d ∈ upper c, Identifier.isPart d) ↔ c.toNat ∉ markedLetters := by
  unfold upper
  split
  · next n hs =>
    have hn : c.toNat ∉ markedLetters := by
      intro hm
      rw [findSome?_of_mem_markedLetters _ hm] at hs
      cases hs
    obtain ⟨r, hr, hi⟩ := List.exists_of_findSome?_eq_some hs
    refine iff_of_true ?_ hn
    intro d hd
    rw [List.mem_singleton.1 hd]
    simp [Identifier.isPart, isAlphanumeric, isAlphabetic_image hr hi]
  · next hs =>
    split
    · next ns hl =>
      obtain ⟨l₁, l₂, e, -⟩ := List.lookup_eq_some_iff.1 hl
      have hp := upperExpansions_isPart (c.toNat, ns) (by simp [e])
      rw [List.forall_mem_map, ← List.all_eq_true, hp]
      simp
    · next hl =>
      have hn : c.toNat ∉ markedLetters := by
        intro hm
        have := lookup_of_mem_markedLetters _ hm
        rw [hl] at this
        cases this
      exact iff_of_true (by simpa using hc) hn

end TypedBundle.Text

namespace TypedBundle.Identifier

open Text

/-- Whether the capital of the word takes combining marks. -/
def takesMark (word : String) : Bool :=
  word.toList.head?.any fun c => markedLetters.contains c.toNat

/-- The keywords go on in small Latin letters. -/
lemma isSmallLatin_of_keywords :
    ∀ word ∈ keywords, word.toList.tail.all fun c => IsSmallLatin c.toNat := by
  decide +kernel

section Accessors

variable {lead property ending : String} (hl : canBegin lead)

include hl

/-- The name of an accessor begins as its leading word does. -/
lemma exists_first_accessor_append :
    ∃ c, (accessor lead property ++ ending).toList.head? = some c ∧ isFirst c := by
  obtain ⟨⟨c, hc, hf⟩, -⟩ := canBegin_eq_true_iff.1 hl
  obtain ⟨rest, hr⟩ := List.head?_eq_some_iff.1 hc
  exact ⟨c, by simp [accessor, hr], hf⟩

variable (hp : isLegal property)

include hp

/-- The name of an accessor is no keyword. -/
lemma accessor_append_not_mem_keywords : accessor lead property ++ ending ∉ keywords := by
  intro hk
  exact accessor_append_ne (ne_empty_of_canBegin hl)
    (ne_empty_of_canBegin (canBegin_of_isLegal hp)) (isSmallLatin_of_keywords _ hk) rfl

/-- The name of an accessor is legal unless the capital of the property takes marks. -/
lemma isLegal_accessor_append_iff (he : ∀ c ∈ ending.toList, isPart c) :
    isLegal (accessor lead property ++ ending) ↔ ¬ takesMark property := by
  have hk : accessor lead property ++ ending ∉ keywords := accessor_append_not_mem_keywords hl hp
  have hprop := isPart_of_isLegal hp
  obtain ⟨c, rest, hc⟩ := exists_first_of_isLegal hp
  rw [hc, List.forall_mem_cons] at hprop
  have hm : takesMark property ↔ c.toNat ∈ markedLetters := by simp [takesMark, hc]
  have hcap : (capitalize property).toList = upper c ++ rest := by simp [capitalize, hc]
  unfold isLegal
  rw [hm, ← forall_isPart_upper_iff hprop.1, Bool.and_eq_true, canBegin_eq_true_iff]
  constructor
  · intro h d hd
    exact h.1.2 d (by simp [accessor, hcap, hd])
  · intro h
    refine ⟨⟨exists_first_accessor_append hl, ?_⟩, by simpa using hk⟩
    simp only [accessor, String.toList_append, List.forall_mem_append, hcap]
    exact ⟨⟨(canBegin_eq_true_iff.1 hl).2, h, hprop.2⟩, he⟩

end Accessors

end TypedBundle.Identifier
