import Mathlib.Data.List.TakeWhile
import Mathlib.Tactic.Push
import TypedBundle.Identifier

/-!
# What a class name stands for

A name with dots stands for the class of that full name. A simple name stands for a class of the
nearest tier that has one: `simple?` looks it up. A class that is written by its simple name is
missed exactly if another one hides it, provided that it is in reach at all: `simple?_eq_some_iff`.
-/

namespace TypedBundle

namespace Name

variable {p n : String}

/-- A simple name has no dots. -/
lemma not_mem_simple : '.' ∉ (simple n).toList := by
  unfold simple
  rw [String.toList_ofList, List.mem_reverse]
  intro h
  have hall : (n.toList.reverse.takeWhile (· != '.')).all (· != '.') := List.all_takeWhile
  simpa using List.all_eq_true.1 hall _ h

/-- The characters of a name without dots, in any order, are no dots. -/
lemma forall_ne_of_not_mem (h : '.' ∉ n.toList) : ∀ c ∈ n.toList.reverse, c != '.' := by
  intro c hc
  rw [List.mem_reverse] at hc
  exact bne_iff_ne.2 fun e => h (e ▸ hc)

/-- A name without dots is simple and lies in the default package. -/
lemma simple_package_of_not_mem (h : '.' ∉ n.toList) : simple n = n ∧ package n = "" := by
  have ha := forall_ne_of_not_mem h
  have ht : n.toList.reverse.takeWhile (· != '.') = n.toList.reverse :=
    List.takeWhile_eq_self_iff.2 ha
  have hd : n.toList.reverse.dropWhile (· != '.') = [] := List.dropWhile_eq_nil_iff.2 ha
  unfold simple package
  rw [ht, hd, List.reverse_reverse, String.ofList_toList]
  exact ⟨rfl, rfl⟩

/-- A name in a package has both for its parts. -/
lemma simple_package_qualified (h : '.' ∉ n.toList) :
    simple (qualified p n) = n ∧ package (qualified p n) = p := by
  unfold qualified
  split
  · next hp =>
    rw [hp]
    exact simple_package_of_not_mem h
  · have hr : (p ++ "." ++ n).toList.reverse = n.toList.reverse ++ '.' :: p.toList.reverse := by
      simp
    have ha := forall_ne_of_not_mem h
    unfold simple package
    rw [hr, List.takeWhile_append_of_pos ha, List.dropWhile_append_of_pos ha,
      List.takeWhile_cons_of_neg (by simp), List.dropWhile_cons_of_neg (by simp), List.append_nil,
      List.reverse_reverse, String.ofList_toList, List.drop_one, List.tail_cons,
      List.reverse_reverse, String.ofList_toList]
    exact ⟨rfl, rfl⟩

end Name

namespace Kotlin

/-- The class that a simple name stands for: that of the first tier with a class of this name, if
there is only one. -/
def simple? (written : String) : List (List String) → Option String
  | [] => none
  | tier :: rest =>
    match tier.filter (Name.simple · = written) with
    | [] => simple? written rest
    | c :: others => if others.all (· == c) then some c else none

/-- The class that a name stands for. A name with dots stands for itself. -/
def denoted? (tiers : List (List String)) (written : String) : Option String :=
  if '.' ∈ written.toList then some written else simple? written tiers

/-- The one class hides the other: it shares the simple name, and stands in no later tier. -/
inductive Hides : List (List String) → String → String → Prop where
  | here {tier rest d c} :
    d ∈ tier →
    d ≠ c →
    Name.simple d = Name.simple c →
    Hides (tier :: rest) d c
  | there {tier rest d c} :
    c ∉ tier →
    Hides rest d c →
    Hides (tier :: rest) d c

/-- The class stands in some tier, or another one hides it. -/
def InReach (tiers : List (List String)) (c : String) : Prop :=
  (∃ tier ∈ tiers, c ∈ tier) ∨ ∃ d, Hides tiers d c

variable {tier : List String} {tiers rest : List (List String)} {c d : String}

/-- Past a tier without classes of the name nothing changes. -/
lemma hides_cons_of_forall_ne (h : ∀ d ∈ tier, Name.simple d ≠ Name.simple c) :
    Hides (tier :: rest) d c ↔ Hides rest d c := by
  constructor
  · intro hh
    cases hh with
    | here hd _ he => exact (h d hd he).elim
    | there _ hr => exact hr
  · exact fun hr => .there (fun hc => h c hc rfl) hr

/-- A class in reach is in reach past a tier without classes of its name. -/
lemma inReach_cons_of_forall_ne (h : ∀ d ∈ tier, Name.simple d ≠ Name.simple c) :
    InReach (tier :: rest) c ↔ InReach rest c := by
  have hc : c ∉ tier := fun hc => h c hc rfl
  unfold InReach
  simp only [hides_cons_of_forall_ne h, List.mem_cons, exists_eq_or_imp, hc, false_or]

/-- A class in reach is the one that its simple name stands for, unless another one hides it. -/
lemma simple?_eq_some_iff (h : InReach tiers c) :
    simple? (Name.simple c) tiers = some c ↔ ∀ d, ¬ Hides tiers d c := by
  induction tiers with
  | nil =>
    obtain ⟨_, ht, -⟩ | ⟨_, hd⟩ := h
    · cases ht
    · cases hd
  | cons tier rest ih =>
    unfold simple?
    cases hf : tier.filter (Name.simple · = Name.simple c) with
    | nil =>
      have hne : ∀ d ∈ tier, Name.simple d ≠ Name.simple c := by simpa using hf
      simp only [hides_cons_of_forall_ne hne]
      exact ih ((inReach_cons_of_forall_ne hne).1 h)
    | cons x others =>
      have hmem : ∀ d, d ∈ x :: others ↔ d ∈ tier ∧ Name.simple d = Name.simple c := by
        intro d
        rw [← hf]
        simp
      by_cases hall : ∀ d ∈ tier, Name.simple d = Name.simple c → d = c
      · -- the tier has no other class of the name
        have hx : ∀ d ∈ x :: others, d = c := fun d hd => hall d ((hmem d).1 hd).1 ((hmem d).1 hd).2
        obtain ⟨rfl, ho⟩ := List.forall_mem_cons.1 hx
        have hc := ((hmem x).1 List.mem_cons_self).1
        refine iff_of_true (if_pos (by simpa using ho)) fun d hd => ?_
        cases hd with
        | here hd hne he => exact hne (hall d hd he)
        | there hnot _ => exact hnot hc
      · push Not at hall
        obtain ⟨d, hd, he, hne⟩ := hall
        refine iff_of_false (fun h => ?_) fun h => h d (.here hd hne he)
        change (if others.all (· == x) then some x else none) = some c at h
        split at h
        · next ho =>
          obtain rfl : x = c := Option.some.inj h
          obtain rfl | hd := List.mem_cons.1 ((hmem d).2 ⟨hd, he⟩)
          · exact hne rfl
          · exact hne (by simpa using List.all_eq_true.1 ho d hd)
        · cases h

/-- A class that hides another stands in some tier and shares the simple name. -/
lemma Hides.exists_mem (h : Hides tiers d c) :
    (∃ tier ∈ tiers, d ∈ tier) ∧ d ≠ c ∧ Name.simple d = Name.simple c := by
  induction h with
  | here hd hne he => exact ⟨⟨_, List.mem_cons_self, hd⟩, hne, he⟩
  | there _ _ ih =>
    obtain ⟨⟨tier, ht, hd⟩, hne, he⟩ := ih
    exact ⟨⟨tier, List.mem_cons_of_mem _ ht, hd⟩, hne, he⟩

/-- A class that shares its simple name with one in some tier is in reach. -/
lemma InReach.of_simple_eq (ht : tier ∈ tiers) (hd : d ∈ tier)
    (he : Name.simple d = Name.simple c) : InReach tiers c := by
  induction tiers with
  | nil => cases ht
  | cons first rest ih =>
    by_cases hc : c ∈ first
    · exact .inl ⟨first, List.mem_cons_self, hc⟩
    · obtain rfl | ht := List.mem_cons.1 ht
      · exact .inr ⟨d, .here hd (fun e => hc (e ▸ hd)) he⟩
      · obtain ⟨t, ht, hct⟩ | ⟨d', hd'⟩ := ih ht
        · exact .inl ⟨t, List.mem_cons_of_mem _ ht, hct⟩
        · exact .inr ⟨d', .there hc hd'⟩

/-- A class in reach that is written in full or by its simple name is the one that is meant, unless
it is written without dots and another one hides it. -/
lemma denoted?_eq_some_iff {written} (hr : '.' ∉ written.toList → InReach tiers c)
    (hw : written = c ∨ written = Name.simple c) :
    denoted? tiers written = some c ↔
      '.' ∈ written.toList ∨ ∀ d, ¬ Hides tiers d c := by
  unfold denoted?
  by_cases hd : '.' ∈ written.toList
  · obtain rfl | rfl := hw
    · simp [hd]
    · exact (Name.not_mem_simple hd).elim
  · have hs : written = Name.simple c := by
      obtain rfl | rfl := hw
      · exact (Name.simple_package_of_not_mem hd).1.symm
      · rfl
    rw [if_neg hd]
    simp only [hd, false_or]
    rw [hs]
    exact simple?_eq_some_iff (hr hd)

end Kotlin

end TypedBundle
