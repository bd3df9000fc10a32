import Mathlib.Data.List.Nodup
import Mathlib.Tactic.Lemma

/-!
# Lists with keys

What a search by key finds. If no key occurs twice, a lookup finds exactly the pairs of the list,
and the first item with the key of an item is that item.
-/

namespace List

variable {α β : Type}

/-- A lookup finds nothing if no pair has the key. -/
lemma lookup_eq_none_iff_ne [BEq α] [LawfulBEq α] {k : α} {ps : List (α × β)} :
    ps.lookup k = none ↔ ∀ p ∈ ps, p.1 ≠ k := by
  rw [List.lookup_eq_none_iff]
  simp only [bne_iff_ne, ne_comm]

/-- Under keys that occur once, a lookup finds the pairs of the list. -/
lemma lookup_eq_some_iff_mem [BEq α] [LawfulBEq α] {k : α} {v : β} {ps : List (α × β)}
    (hn : (ps.map Prod.fst).Nodup) : ps.lookup k = some v ↔ (k, v) ∈ ps := by
  induction ps with
  | nil => simp
  | cons p rest ih =>
    obtain ⟨j, w⟩ := p
    rw [List.map_cons, List.nodup_cons] at hn
    rw [List.lookup_cons, List.mem_cons]
    by_cases hk : k = j
    · subst hk
      have hnot : (k, v) ∉ rest := fun hm => hn.1 (List.mem_map.2 ⟨_, hm, rfl⟩)
      simp [hnot, eq_comm]
    · rw [beq_false_of_ne hk, ih hn.2]
      simp [hk]

/-- A lookup past the pairs of another key finds what it did, and nothing under that key. -/
lemma lookup_filter_ne [BEq α] [LawfulBEq α] {k j : α} {ps : List (α × β)} :
    (ps.filter fun p => p.1 != j).lookup k = if k == j then none else ps.lookup k := by
  induction ps with
  | nil => simp
  | cons p rest ih =>
    by_cases hp : p.1 = j
    · rw [List.filter_cons_of_neg (by simp [hp]), ih, List.lookup_cons]
      by_cases hk : k = j
      · simp [hk]
      · simp [hp, beq_false_of_ne hk]
    · rw [List.filter_cons_of_pos (by simp [hp]), List.lookup_cons, List.lookup_cons, ih]
      by_cases hk : k = p.1
      · subst hk
        simp [hp]
      · simp [beq_false_of_ne hk]

/-- Under keys that occur once, the first item with the key of an item is that item. -/
lemma find?_eq_some_of_nodup [BEq β] [LawfulBEq β] {f : α → β} {xs : List α} {x : α}
    (hn : (xs.map f).Nodup) (hx : x ∈ xs) : xs.find? (fun y => f y == f x) = some x := by
  induction xs with
  | nil => cases hx
  | cons z rest ih =>
    rw [List.map_cons, List.nodup_cons] at hn
    obtain rfl | hx := List.mem_cons.1 hx
    · exact List.find?_cons_of_pos (beq_self_eq_true _)
    · have hz : (f z == f x) = false :=
        beq_false_of_ne fun e => hn.1 (List.mem_map.2 ⟨x, hx, e.symm⟩)
      rw [List.find?_cons_of_neg (by simp [hz]), ih hn.2 hx]

/-- One more item keeps keys that occur once, if its own is new. -/
lemma nodup_map_concat {f : α → β} {xs : List α} {x : α} :
    ((xs ++ [x]).map f).Nodup ↔ (xs.map f).Nodup ∧ ∀ y ∈ xs, f y ≠ f x := by
  simp only [List.map_append, List.nodup_append, List.map_cons, List.map_nil, List.nodup_singleton,
    List.mem_singleton, true_and, List.forall_mem_map, forall_eq]

end List
