import Mathlib.Tactic.Common
import Mathlib.Tactic.Lemma
import TypedBundle.Identifier

/-!
# Capital letters in accessor names

The upper case form of a character never begins with a small Latin letter. So the name of an
accessor has, somewhere after its first character, one that is no such letter, and cannot be a word
of small Latin letters such as `from` or `collect`.
-/

namespace TypedBundle.Text

/-- The code point is that of a small Latin letter. -/
def IsSmallLatin (n : Nat) : Prop := 'a'.toNat ≤ n ∧ n ≤ 'z'.toNat

instance (n : Nat) : Decidable (IsSmallLatin n) := inferInstanceAs (Decidable (_ ∧ _))

/-- A character made of a code point has it, or else is the null character. -/
lemma toNat_ofNat (n : Nat) : (Char.ofNat n).toNat = n ∨ (Char.ofNat n).toNat = 0 := by
  by_cases h : n.isValidChar
  · exact .inl (congrArg Char.toNat (dif_pos h))
  · exact .inr (congrArg Char.toNat (dif_neg h))

/-- A character made of a code point that is no small Latin letter is none. -/
lemma not_isSmallLatin_ofNat {n : Nat} (h : ¬ IsSmallLatin n) :
    ¬ IsSmallLatin (Char.ofNat n).toNat := by
  obtain e | e := toNat_ofNat n
  · rwa [e]
  · rw [e]
    decide

/-- No run leads to small Latin letters. -/
lemma image_of_upperRuns :
    ∀ r ∈ upperRuns, 'z'.toNat < r.image ∨ r.image + (r.last - r.first) < 'a'.toNat := by
  decide +kernel

/-- No expansion is empty or begins with a small Latin letter. -/
lemma head_of_upperExpansions :
    ∀ p ∈ upperExpansions, ∃ n ns, p.2 = n :: ns ∧ ¬ IsSmallLatin n := by
  have h : ∀ p ∈ upperExpansions, p.2.head?.any (fun n => decide (¬ IsSmallLatin n)) := by
    decide +kernel
  intro p hp
  have hp := h p hp
  cases e : p.2 with
  | nil => simp [e] at hp
  | cons n ns => exact ⟨n, ns, rfl, by simpa [e] using hp⟩

/-- The small Latin letters are on the first run. -/
lemma image?_of_isSmallLatin {n : Nat} (h : IsSmallLatin n) :
    upperRuns.findSome? (·.image? n) ≠ none := by
  unfold upperRuns
  rw [List.findSome?_cons]
  have hr : (⟨0x61, 0x7a, 1, 0x41⟩ : CaseRun).image? n = some (0x41 + (n - 0x61)) := by
    unfold IsSmallLatin at h
    unfold CaseRun.image?
    rw [if_pos ⟨h.1, h.2, Nat.mod_one _⟩]
  rw [hr]
  nofun

/-- The image of a code point on a run is no small Latin letter. -/
lemma not_isSmallLatin_image {r n k} (hr : r ∈ upperRuns) (h : CaseRun.image? r n = some k) :
    ¬ IsSmallLatin k := by
  unfold CaseRun.image? at h
  split at h
  · next hn =>
    cases h
    have hi := image_of_upperRuns r hr
    unfold IsSmallLatin
    omega
  · cases h

/-- The upper case form of a character begins with no small Latin letter. -/
lemma upper_eq_cons (c : Char) : ∃ d ds, upper c = d :: ds ∧ ¬ IsSmallLatin d.toNat := by
  unfold upper
  split
  · next n h =>
    obtain ⟨r, hr, hi⟩ := List.exists_of_findSome?_eq_some h
    exact ⟨_, [], rfl, not_isSmallLatin_ofNat (not_isSmallLatin_image hr hi)⟩
  · next h =>
    split
    · next ns hl =>
      obtain ⟨l₁, l₂, e, -⟩ := List.lookup_eq_some_iff.1 hl
      obtain ⟨n, rest, hns, hn⟩ := head_of_upperExpansions (c.toNat, ns) (by simp [e])
      exact ⟨_, rest.map Char.ofNat, by simp_all, not_isSmallLatin_ofNat hn⟩
    · exact ⟨c, [], rfl, fun hc => image?_of_isSmallLatin hc h⟩

end TypedBundle.Text

namespace TypedBundle.Identifier

open Text

/-- A capitalized word begins with no small Latin letter. -/
lemma capitalize_eq_cons {word : String} (h : word ≠ "") :
    ∃ d ds, (capitalize word).toList = d :: ds ∧ ¬ IsSmallLatin d.toNat := by
  unfold capitalize
  split
  · next e => exact (h (String.toList_eq_nil_iff.1 e)).elim
  · next c rest e =>
    obtain ⟨d, ds, hd, hs⟩ := upper_eq_cons c
    exact ⟨d, ds ++ rest, by simp [hd], hs⟩

/-- A word that goes on in small Latin letters is the name of no accessor, with or without an
ending. -/
lemma accessor_append_ne {lead property ending word : String} (hl : lead ≠ "")
    (hp : property ≠ "") (hw : word.toList.tail.all fun c => IsSmallLatin c.toNat) :
    accessor lead property ++ ending ≠ word := by
  rintro rfl
  rw [List.all_eq_true] at hw
  obtain ⟨d, ds, hd, hs⟩ := capitalize_eq_cons hp
  cases e : lead.toList with
  | nil => exact hl (String.toList_eq_nil_iff.1 e)
  | cons l ls =>
    apply hs
    apply of_decide_eq_true
    apply hw
    simp [accessor, e, hd]

/-- A word that goes on in small Latin letters is the name of no accessor. -/
lemma accessor_ne {lead property word : String} (hl : lead ≠ "") (hp : property ≠ "")
    (hw : word.toList.tail.all fun c => IsSmallLatin c.toNat) : accessor lead property ≠ word := by
  have h : accessor lead property ++ "" ≠ word := accessor_append_ne hl hp hw
  simpa using h

end TypedBundle.Identifier
