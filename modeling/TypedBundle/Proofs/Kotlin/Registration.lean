import TypedBundle.Kotlin.Source
import TypedBundle.Proofs.Kotlin.Scope
import TypedBundle.Proofs.Lookup

/-!
# Registered classes

The import table of a file as what it makes of the classes that the file mentions, one after the
other. Every simple name that is mentioned gets an owner, which is one of the classes that share it;
and an owner that the file does not see anyway is imported.
-/

namespace TypedBundle

/-- A new key is one more binding, and all else stays. -/
lemma Dict.insertPair_perm {α : Type} {k : String} {v : α} {ps : List (String × α)}
    (h : ps.lookup k = none) : (insertPair k v ps).Perm ((k, v) :: ps) := by
  induction ps with
  | nil => exact .refl _
  | cons p rest ih =>
    obtain ⟨j, w⟩ := p
    rw [lookup_pair] at h
    have hk : k ≠ j := by
      rintro rfl
      simp at h
    rw [if_neg hk] at h
    unfold insertPair
    rw [if_neg hk]
    split
    · exact .refl _
    · exact ((ih h).cons _).trans (.swap ..)

/-- The names of a set made from a list are those of the list. -/
lemma NameSet.mem_ofList {n : String} {ns : List String} :
    n ∈ (NameSet.ofList ns).toList ↔ n ∈ ns :=
  (NameSet.mem_foldl_insert n ns .empty).trans (by simp [NameSet.empty])

namespace Kotlin

/-- The classes that the function of a helper mentions. -/
def classNames : Helper → List String
  | .insert (.direct kind) | .extract (.direct kind) | .extractWithFallback kind =>
    kind.descriptor.names
  | .insert .object | .extract .object | .insert .objectList | .extract .objectList =>
    [Platform.parcelable]
  | .insert .serializable | .extract .serializable => [Platform.serializable]
  | .insert .enum | .extract .enum => []

/-- The classes that the file of a type mentions, in the order in which they are registered. -/
def mentioned (g : AccessorType) : List String :=
  Platform.bundle ::
    (((g.methods ++ g.companion).flatMap signatureTypes).flatMap TypeDescriptor.names ++
      g.helpers.flatMap classNames)

namespace Imports

variable {i : Imports} {ns : List String} {n : String}

/-- The table has an owner for the simple name of every class of the list, and the owners are
classes of the list. No simple name has two. -/
structure Covers (i : Imports) (ns : List String) : Prop where
  registered : ∀ n ∈ ns, ∃ owner, i.owners.find? (Name.simple n) = some owner
  owner : ∀ k n, i.owners.find? k = some n → Name.simple n = k ∧ n ∈ ns
  nodup : (i.owners.toList.map Prod.fst).Nodup

/-- The table without owners covers no classes. -/
lemma Covers.empty {package} : Covers { package } [] := by
  constructor
  · nofun
  · intro k n hk
    cases hk
  · exact List.nodup_nil

/-- One more class is covered once it is registered. -/
lemma Covers.addName (h : i.Covers ns) : (i.addName n).Covers (ns ++ [n]) := by
  unfold Imports.addName
  split
  · next hc =>
    constructor
    · intro m hm
      obtain hm | rfl := by simpa using hm
      · exact h.registered m hm
      · exact Option.isSome_iff_exists.1 hc
    · intro k m hk
      exact ⟨(h.owner k m hk).1, List.mem_append_left _ (h.owner k m hk).2⟩
    · exact h.nodup
  · next hc =>
    have hl : i.owners.find? (Name.simple n) = none := by simpa [Dict.contains] using hc
    constructor
    · intro m hm
      rw [Dict.find?_insert]
      by_cases hs : Name.simple m = Name.simple n
      · exact ⟨n, if_pos hs⟩
      · rw [if_neg hs]
        obtain hm | rfl := by simpa using hm
        · exact h.registered m hm
        · exact (hs rfl).elim
    · intro k m hk
      rw [Dict.find?_insert] at hk
      split at hk
      · next e =>
        cases hk
        exact ⟨e.symm, by simp⟩
      · exact ⟨(h.owner k m hk).1, List.mem_append_left _ (h.owner k m hk).2⟩
    · have hp := (Dict.insertPair_perm (v := n) hl).map Prod.fst
      rw [Dict.insert, hp.nodup_iff, List.map_cons, List.nodup_cons]
      refine ⟨?_, h.nodup⟩
      intro hm
      obtain ⟨p, hp, e⟩ := List.mem_map.1 hm
      exact List.lookup_eq_none_iff_ne.1 hl p hp e

/-- Registration keeps the package of the file. -/
@[simp] lemma package_addName : (i.addName n).package = i.package := by
  unfold Imports.addName
  split <;> rfl

/-- Classes in turn are covered, and the package of the file stays. -/
lemma covers_foldl {ns' : List String} (h : i.Covers ns) :
    (ns'.foldl Imports.addName i).Covers (ns ++ ns') ∧
      (ns'.foldl Imports.addName i).package = i.package := by
  induction ns' generalizing i ns with
  | nil => simpa using h
  | cons n rest ih =>
    obtain ⟨hc, hp⟩ := ih (h.addName (n := n))
    rw [List.foldl_cons]
    exact ⟨by simpa using hc, by rw [hp, package_addName]⟩

/-- A covered class is written by its simple name if it is the owner of that, and in full
otherwise. -/
lemma Covers.className_cases (h : i.Covers ns) (hn : n ∈ ns) :
    ∃ owner ∈ ns, i.owners.find? (Name.simple n) = some owner ∧ Name.simple owner = Name.simple n ∧
      i.className n = if owner = n then Name.simple n else n := by
  obtain ⟨owner, ho⟩ := h.registered n hn
  obtain ⟨hs, hm⟩ := h.owner _ _ ho
  refine ⟨owner, hm, ho, hs, ?_⟩
  unfold Imports.className
  rw [ho]

/-- The imports are the owners that the file does not see anyway. -/
lemma Covers.mem_imported_iff (h : i.Covers ns) :
    n ∈ i.imported ↔ i.owners.find? (Name.simple n) = some n ∧ ¬ i.isVisible n := by
  unfold imported
  rw [NameSet.mem_ofList, List.mem_filter, List.mem_map]
  constructor
  · rintro ⟨⟨⟨k, m⟩, hm, rfl⟩, hv⟩
    have hf : i.owners.find? k = some m := (List.lookup_eq_some_iff_mem h.nodup).2 hm
    rw [(h.owner k m hf).1]
    exact ⟨hf, by simpa using hv⟩
  · rintro ⟨ho, hv⟩
    exact ⟨⟨_, (List.lookup_eq_some_iff_mem h.nodup).1 ho, rfl⟩, by simpa using hv⟩

end Imports

/-- The table of a file comes from the classes that the file mentions. -/
lemma importsOf_eq (g : AccessorType) :
    importsOf g = (mentioned g).foldl Imports.addName { package := g.package } := by
  have ha : Imports.addHelper = fun i helper => (classNames helper).foldl Imports.addName i := by
    funext i helper
    rcases helper with (_ | _ | _ | _ | _) | (_ | _ | _ | _ | _) | _ <;> rfl
  unfold importsOf mentioned
  rw [List.foldl_cons, List.foldl_append, List.foldl_flatMap, List.foldl_flatMap, ha]
  rfl

/-- The table of a file covers the classes that the file mentions. -/
lemma covers_importsOf (g : AccessorType) :
    (importsOf g).Covers (mentioned g) ∧ (importsOf g).package = g.package := by
  rw [importsOf_eq]
  exact Imports.covers_foldl .empty

end Kotlin

end TypedBundle
