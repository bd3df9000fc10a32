import Mathlib.Logic.Relation
import TypedBundle.Proofs.Lookup
import TypedBundle.Proofs.Type.Declarations

/-!
# Hierarchies

A class lies above another if steps from classes to their parents lead to it. The search for the
names above a class succeeds exactly if each parent on the way can be told and no way leads in a
circle (`ClassTable.exists_supertypes_iff`), and then it finds exactly these names
(`ClassTable.contains_supertypes`). A search that gives up on a circle names a class of that circle
(`ClassTable.cyclic_of_supertypes`).

The search keeps the classes that are free, which are those that are not on the way. All proofs are
inductions along its steps, and these are taken apart once, by `ClassTable.supertypesFrom_eq_ok` and
`ClassTable.supertypesFrom_eq_error`.
-/

namespace TypedBundle

open Relation

/-- The parents of a class are the class that it extends and its interfaces. -/
lemma ClassInfo.mem_parents {c : ClassInfo} {parent : String} :
    parent ∈ c.parents ↔ c.extended = some parent ∨ parent ∈ c.interfaces := by
  simp [parents]

namespace ClassTable

variable {t : ClassTable} {free ps : List String} {name x : String} {s found : NameSet}
  {climb : String → Except TypeError NameSet}

/-- The second class is directly above the first: its superclass or one of its interfaces. -/
def Extends (t : ClassTable) (name above : String) : Prop :=
  ∃ c parent, t.find? name = some c ∧ (c.extended = some parent ∨ parent ∈ c.interfaces) ∧
    t.qualify parent = .ok above

/-- Each name of a parent of the class stands for a class. -/
def Qualifies (t : ClassTable) (name : String) : Prop :=
  ∀ c parent, t.find? name = some c → (c.extended = some parent ∨ parent ∈ c.interfaces) →
    ∃ above, t.qualify parent = .ok above

/-- Everything above the class can be told, and no way up leads in a circle. -/
structure Sound (t : ClassTable) (name : String) : Prop where
  qualifies : ∀ k, ReflTransGen t.Extends name k → t.Qualifies k
  acyclic : ∀ k, ReflTransGen t.Extends name k → ¬ TransGen t.Extends k k

/-- The parents of a sound class are sound. -/
lemma Sound.of_extends {p} (h : t.Sound name) (hp : t.Extends name p) : t.Sound p where
  qualifies k hk := h.qualifies k (.head hp hk)
  acyclic k hk := h.acyclic k (.head hp hk)

/-- The classes of a table are those under its keys. -/
lemma isSome_find?_iff : (t.find? name).isSome ↔ name ∈ t.classes.keys := by
  unfold find? Dict.find? Dict.keys
  rw [Option.isSome_iff_ne_none, Ne, List.lookup_eq_none_iff_ne, List.mem_map]
  push Not
  rfl

/-- A name that qualifies is that of a class. -/
lemma isSome_of_qualify {written} (h : t.qualify written = .ok name) : (t.find? name).isSome := by
  unfold qualify at h
  split at h
  · next hc =>
    cases h
    exact hc
  · split at h
    · cases h
    · split at h
      · cases h
      · next only hf =>
        cases h
        rw [isSome_find?_iff]
        exact List.mem_of_mem_filter (hf ▸ List.mem_singleton_self name)
      · cases h

/-- A full name stands for its own class. -/
lemma qualify_of_isSome (h : (t.find? name).isSome) : t.qualify name = .ok name := if_pos h

/-- Names do not fail to qualify because of a circle. -/
lemma qualify_ne_cyclic {written} : t.qualify written ≠ .error (.cyclic x) := by
  intro h
  unfold qualify at h
  split at h
  · cases h
  · split at h
    · cases h
    · split at h <;> cases h

/-- What a class extends is a class. -/
lemma Extends.isSome {p} (h : t.Extends name p) : (t.find? p).isSome := by
  obtain ⟨c, parent, -, -, hq⟩ := h
  exact isSome_of_qualify hq

/-- What is above parents in turn, put to what was found before them. -/
def gather (t : ClassTable) (climb : String → Except TypeError NameSet) (found : NameSet)
    (ps : List String) : Except TypeError NameSet :=
  ps.foldlM (fun found parent => do
    let full ← t.qualify parent
    let above ← climb full
    return (found.union above).insert full) found

/-- One parent more: it is qualified, what is above it is added, and then it is. -/
lemma gather_cons {p} : t.gather climb found (p :: ps) = (do
    let full ← t.qualify p
    let above ← climb full
    t.gather climb ((found.union above).insert full) ps) := by
  simp [gather, List.foldlM_cons]

/-- Above a class is what its parents gather, if the class has not been met on the way. -/
lemma supertypesFrom_eq : t.supertypesFrom free name =
    match t.find? name with
    | none => .error (.unknownClass name)
    | some c =>
      if name ∈ free then t.gather (t.supertypesFrom (free.erase name)) {} c.parents
      else .error (.cyclic name) := by
  rw [supertypesFrom]
  cases t.find? name with
  | none => rfl
  | some c =>
    dsimp only
    split <;> rfl

/-- The names above parents are put together if each parent stands for a class and what is above
that can be told. -/
lemma exists_gather_iff : (∃ s, t.gather climb found ps = .ok s) ↔
    ∀ parent ∈ ps, ∃ full above, t.qualify parent = .ok full ∧ climb full = .ok above := by
  induction ps generalizing found with
  | nil => simp [gather]
  | cons p rest ih =>
    rw [gather_cons, List.forall_mem_cons]
    simp only [Except.bind_eq_ok]
    constructor
    · rintro ⟨s, full, hq, above, hc, h⟩
      exact ⟨⟨full, above, hq, hc⟩, ih.1 ⟨s, h⟩⟩
    · rintro ⟨⟨full, above, hq, hc⟩, h⟩
      obtain ⟨s, hs⟩ := ih.2 h
      exact ⟨s, full, hq, above, hc, hs⟩

/-- What is found are the parents and what is above them. -/
lemma contains_gather (h : t.gather climb found ps = .ok s) :
    s.contains x ↔ found.contains x ∨ ∃ parent ∈ ps, ∃ full above,
      t.qualify parent = .ok full ∧ climb full = .ok above ∧ (x = full ∨ above.contains x) := by
  induction ps generalizing found with
  | nil =>
    cases h
    simp
  | cons p rest ih =>
    rw [gather_cons] at h
    simp only [Except.bind_eq_ok] at h
    obtain ⟨full, hq, above, hc, h⟩ := h
    rw [ih h, NameSet.contains_insert, NameSet.contains_union]
    simp only [List.mem_cons, or_and_right, exists_or, exists_eq_left, hq, hc, Except.ok.injEq,
      exists_and_left, exists_eq_left']
    rw [or_left_comm, or_assoc]

/-- What is gathered is in order. -/
lemma pairwise_gather (h : t.gather climb found ps = .ok s)
    (hf : found.toList.Pairwise (· < ·)) : s.toList.Pairwise (· < ·) := by
  induction ps generalizing found with
  | nil =>
    cases h
    exact hf
  | cons p rest ih =>
    rw [gather_cons] at h
    simp only [Except.bind_eq_ok] at h
    obtain ⟨full, -, above, -, h⟩ := h
    apply ih h
    apply NameSet.pairwise_insertName
    exact NameSet.pairwise_union above hf

/-- Parents fail with one of them. -/
lemma exists_of_gather_error {e} (h : t.gather climb found ps = .error e) :
    ∃ parent ∈ ps, t.qualify parent = .error e ∨
      ∃ full, t.qualify parent = .ok full ∧ climb full = .error e := by
  induction ps generalizing found with
  | nil => cases h
  | cons p rest ih =>
    rw [gather_cons] at h
    simp only [Except.bind_eq_error] at h
    obtain hq | ⟨full, hq, hc | ⟨above, -, h⟩⟩ := h
    · exact ⟨p, List.mem_cons_self, .inl hq⟩
    · exact ⟨p, List.mem_cons_self, .inr ⟨full, hq, hc⟩⟩
    · obtain ⟨parent, hp, he⟩ := ih h
      exact ⟨parent, List.mem_cons_of_mem p hp, he⟩

/-- One step of a search that succeeds. -/
lemma supertypesFrom_eq_ok (h : t.supertypesFrom free name = .ok s) :
    name ∈ free ∧ (t.find? name).isSome ∧ t.Qualifies name ∧
      (∀ p, t.Extends name p → ∃ above, t.supertypesFrom (free.erase name) p = .ok above) ∧
      s.toList.Pairwise (· < ·) ∧
      ∀ x, s.contains x ↔ ∃ p above, t.Extends name p ∧
        t.supertypesFrom (free.erase name) p = .ok above ∧ (x = p ∨ above.contains x) := by
  rw [supertypesFrom_eq] at h
  split at h
  · cases h
  · next c hc =>
    split at h
    · next hf =>
      have hall := exists_gather_iff.1 ⟨s, h⟩
      simp only [ClassInfo.mem_parents] at hall
      refine ⟨hf, by rw [hc]; rfl, ?_, ?_, pairwise_gather h .nil, ?_⟩
      · intro c' parent hc' hp
        cases hc.symm.trans hc'
        obtain ⟨full, -, hq, -⟩ := hall parent hp
        exact ⟨full, hq⟩
      · rintro p ⟨c', parent, hc', hp, hq⟩
        cases hc.symm.trans hc'
        obtain ⟨full, above, hq', ha⟩ := hall parent hp
        cases hq.symm.trans hq'
        exact ⟨above, ha⟩
      · intro x
        rw [contains_gather h]
        simp only [ClassInfo.mem_parents]
        constructor
        · rintro (hx | ⟨parent, hp, full, above, hq, ha, hx⟩)
          · cases hx
          · exact ⟨full, above, ⟨c, parent, hc, hp, hq⟩, ha, hx⟩
        · rintro ⟨p, above, ⟨c', parent, hc', hp, hq⟩, ha, hx⟩
          cases hc.symm.trans hc'
          exact .inr ⟨parent, hp, p, above, hq, ha, hx⟩
    · cases h

/-- One step of a search that fails: the class is unknown, or on the way, or the name of a parent
stands for nothing, or the search from a parent fails. -/
lemma supertypesFrom_eq_error {e} (h : t.supertypesFrom free name = .error e) :
    (t.find? name = none ∧ e = .unknownClass name) ∨
      ((t.find? name).isSome ∧ name ∉ free ∧ e = .cyclic name) ∨
      (name ∈ free ∧ ∃ parent, t.qualify parent = .error e) ∨
      (name ∈ free ∧ ∃ p, t.Extends name p ∧ t.supertypesFrom (free.erase name) p = .error e) := by
  rw [supertypesFrom_eq] at h
  split at h
  · next hc =>
    cases h
    exact .inl ⟨hc, rfl⟩
  · next c hc =>
    split at h
    · next hf =>
      obtain ⟨parent, hp, hq | ⟨full, hq, hs⟩⟩ := exists_of_gather_error h
      · exact .inr (.inr (.inl ⟨hf, parent, hq⟩))
      · exact .inr (.inr (.inr
          ⟨hf, full, ⟨c, parent, hc, ClassInfo.mem_parents.1 hp, hq⟩, hs⟩))
    · next hf =>
      cases h
      exact .inr (.inl ⟨by rw [hc]; rfl, hf, rfl⟩)

/-- A search from a class on a circle does not succeed: it would go round until no class is free. -/
lemma not_transGen_of_supertypesFrom (h : t.supertypesFrom free name = .ok s) :
    ¬ TransGen t.Extends name name := by
  induction free, name using supertypesFrom.induct t generalizing s with
  | case1 free name hc =>
    obtain ⟨-, hs, -⟩ := supertypesFrom_eq_ok h
    simp [hc] at hs
  | case2 free name c hc hf ih =>
    obtain ⟨-, -, -, hall, -⟩ := supertypesFrom_eq_ok h
    intro hcirc
    obtain ⟨p, hp, hr⟩ := TransGen.head'_iff.1 hcirc
    obtain ⟨above, ha⟩ := hall p hp
    exact ih p ha (TransGen.tail' hr hp)
  | case3 free name c hc hf =>
    obtain ⟨hf', -⟩ := supertypesFrom_eq_ok h
    exact (hf hf').elim

/-- A search that succeeds shows that all is well above the class. -/
lemma sound_of_supertypesFrom (h : t.supertypesFrom free name = .ok s) : t.Sound name := by
  induction free, name using supertypesFrom.induct t generalizing s with
  | case1 free name hc =>
    obtain ⟨-, hs, -⟩ := supertypesFrom_eq_ok h
    simp [hc] at hs
  | case2 free name c hc hf ih =>
    obtain ⟨-, -, hq, hall, -⟩ := supertypesFrom_eq_ok h
    constructor
    · intro k hk
      obtain rfl | ⟨p, hp, hr⟩ := hk.cases_head
      · exact hq
      · obtain ⟨above, ha⟩ := hall p hp
        exact (ih p ha).qualifies k hr
    · intro k hk
      obtain rfl | ⟨p, hp, hr⟩ := hk.cases_head
      · exact not_transGen_of_supertypesFrom h
      · obtain ⟨above, ha⟩ := hall p hp
        exact (ih p ha).acyclic k hr
  | case3 free name c hc hf =>
    obtain ⟨hf', -⟩ := supertypesFrom_eq_ok h
    exact (hf hf').elim

/-- What a search finds is what lies above the class. -/
lemma contains_supertypesFrom (h : t.supertypesFrom free name = .ok s) :
    s.contains x ↔ TransGen t.Extends name x := by
  induction free, name using supertypesFrom.induct t generalizing s with
  | case1 free name hc =>
    obtain ⟨-, hs, -⟩ := supertypesFrom_eq_ok h
    simp [hc] at hs
  | case2 free name c hc hf ih =>
    obtain ⟨-, -, -, hall, -, hs⟩ := supertypesFrom_eq_ok h
    rw [hs]
    constructor
    · rintro ⟨p, above, hp, ha, rfl | hx⟩
      · exact .single hp
      · exact .head hp ((ih p ha).1 hx)
    · intro hx
      obtain ⟨p, hp, hr⟩ := TransGen.head'_iff.1 hx
      obtain ⟨above, ha⟩ := hall p hp
      refine ⟨p, above, hp, ha, ?_⟩
      obtain rfl | hr := reflTransGen_iff_eq_or_transGen.1 hr
      · exact .inl rfl
      · exact .inr ((ih p ha).2 hr)
  | case3 free name c hc hf =>
    obtain ⟨hf', -⟩ := supertypesFrom_eq_ok h
    exact (hf hf').elim

/-- If all is well above a class, and all of it is free, the search succeeds. -/
lemma Sound.exists_supertypesFrom (h : t.Sound name) (hn : (t.find? name).isSome)
    (hfree : ∀ k, ReflTransGen t.Extends name k → k ∈ free) :
    ∃ s, t.supertypesFrom free name = .ok s := by
  induction free, name using supertypesFrom.induct t with
  | case1 free name hc => simp [hc] at hn
  | case2 free name c hc hf ih =>
    rw [supertypesFrom_eq]
    simp only [hc, if_pos hf]
    rw [exists_gather_iff]
    intro parent hp
    rw [ClassInfo.mem_parents] at hp
    obtain ⟨full, hq⟩ := h.qualifies name .refl c parent hc hp
    have hext : t.Extends name full := ⟨c, parent, hc, hp, hq⟩
    have hfree' : ∀ k, ReflTransGen t.Extends full k → k ∈ free.erase name := by
      intro k hk
      have hne : k ≠ name := by
        rintro rfl
        exact h.acyclic k .refl (TransGen.head' hext hk)
      exact (List.mem_erase_of_ne hne).2 (hfree k (.head hext hk))
    obtain ⟨above, ha⟩ := ih full (h.of_extends hext) hext.isSome hfree'
    exact ⟨full, above, hq, ha⟩
  | case3 free name c hc hf => exact (hf (hfree name .refl)).elim

/-- A search that gives up on a circle names a class of one, if the classes that are not free are
below the class from which it goes on. -/
lemma cyclic_of_supertypesFrom (h : t.supertypesFrom free name = .error (.cyclic x))
    (hway : ∀ k, (t.find? k).isSome → k ∉ free → TransGen t.Extends k name) :
    ReflTransGen t.Extends name x ∧ TransGen t.Extends x x := by
  induction free, name using supertypesFrom.induct t with
  | case1 free name hc =>
    obtain ⟨-, e⟩ | ⟨hs, -⟩ | ⟨-, parent, hq⟩ | ⟨-, p, ⟨c, -, hs, -⟩, -⟩ :=
      supertypesFrom_eq_error h
    · cases e
    · simp [hc] at hs
    · exact (qualify_ne_cyclic hq).elim
    · simp [hc] at hs
  | case2 free name c hc hf ih =>
    obtain ⟨hs, -⟩ | ⟨-, hf', -⟩ | ⟨-, parent, hq⟩ | ⟨-, p, hp, he⟩ := supertypesFrom_eq_error h
    · simp [hc] at hs
    · exact (hf' hf).elim
    · exact (qualify_ne_cyclic hq).elim
    · have hway' : ∀ k, (t.find? k).isSome → k ∉ free.erase name → TransGen t.Extends k p := by
        intro k hk hkf
        by_cases hkn : k = name
        · subst hkn
          exact .single hp
        · rw [List.mem_erase_of_ne hkn] at hkf
          exact .tail (hway k hk hkf) hp
      obtain ⟨hr, hx⟩ := ih p he hway'
      exact ⟨.head hp hr, hx⟩
  | case3 free name c hc hf =>
    obtain ⟨hs, -⟩ | ⟨hs, hf', e⟩ | ⟨hf', -⟩ | ⟨hf', -⟩ := supertypesFrom_eq_error h
    · simp [hc] at hs
    · cases e
      exact ⟨.refl, hway _ hs hf'⟩
    · exact (hf hf').elim
    · exact (hf hf').elim

/-- The names above a class can be told exactly if it is known and all is well above it. -/
lemma exists_supertypes_iff :
    (∃ s, t.supertypes name = .ok s) ↔ (t.find? name).isSome ∧ t.Sound name := by
  constructor
  · rintro ⟨s, h⟩
    obtain ⟨-, hs, -⟩ := supertypesFrom_eq_ok h
    exact ⟨hs, sound_of_supertypesFrom h⟩
  · rintro ⟨hn, h⟩
    apply h.exists_supertypesFrom hn
    intro k hk
    rw [← isSome_find?_iff]
    obtain rfl | ⟨p, -, hp⟩ := hk.cases_tail
    · exact hn
    · exact hp.isSome

/-- The supertypes are what can be reached by extending. -/
lemma contains_supertypes (h : t.supertypes name = .ok s) :
    s.contains x ↔ TransGen t.Extends name x :=
  contains_supertypesFrom h

/-- A class that is reported to be cyclic can be reached, and it extends itself. -/
lemma cyclic_of_supertypes (h : t.supertypes name = .error (.cyclic x)) :
    ReflTransGen t.Extends name x ∧ TransGen t.Extends x x := by
  apply cyclic_of_supertypesFrom h
  intro k hk hkf
  exact (hkf (isSome_find?_iff.1 hk)).elim

/-- If the parents of a class can be told, so can its superclass. -/
lemma Qualifies.exists_mapM {c} (h : t.Qualifies name) (hc : t.find? name = some c) :
    ∃ superclass, c.extended.mapM t.qualify = .ok superclass := by
  cases he : c.extended with
  | none => exact ⟨none, rfl⟩
  | some parent =>
    obtain ⟨above, hq⟩ := h c parent hc (.inl he)
    exact ⟨some above, by simp [hq, Functor.map]⟩

/-- A superclass that is missing or ambiguous is no circle. -/
lemma mapM_qualify_ne_cyclic {o : Option String} : o.mapM t.qualify ≠ .error (.cyclic x) := by
  cases o with
  | none => nofun
  | some written => simp [Functor.map, qualify_ne_cyclic]

end ClassTable

mutual

/-- The names in a type as written. -/
def TypeExpr.names : TypeExpr → List String
  | ⟨name, arguments⟩ => name :: TypeExpr.namesAll arguments

/-- The names in several types as written. -/
def TypeExpr.namesAll : List TypeExpr → List String
  | [] => []
  | e :: rest => e.names ++ TypeExpr.namesAll rest

end

namespace ClassTable

variable {t : ClassTable} {x : String}

mutual

/-- A type that fails with a circle mentions a class below one. -/
theorem cyclic_of_describe : ∀ (e : TypeExpr), t.describe e = .error (.cyclic x) →
    ∃ w ∈ e.names, ∃ n, t.qualify w = .ok n ∧
      ReflTransGen t.Extends n x ∧ TransGen t.Extends x x
  | ⟨written, arguments⟩, h => by
    rw [describe, Except.bind_eq_error] at h
    obtain h | ⟨n, hq, h⟩ := h
    · exact (qualify_ne_cyclic h).elim
    · cases hc : t.find? n with
      | none =>
        rw [hc] at h
        cases h
      | some c =>
        simp only [hc] at h
        split at h
        · cases h
        · simp only [Except.bind_eq_error, Except.pure_ne_error, and_false, exists_false,
            or_false] at h
          obtain h | ⟨args, -, h | ⟨superclass, -, h⟩⟩ := h
          · obtain ⟨w, hw, hx⟩ := cyclic_of_describeAll arguments h
            exact ⟨w, List.mem_cons_of_mem _ hw, hx⟩
          · exact (mapM_qualify_ne_cyclic h).elim
          · exact ⟨written, List.mem_cons_self, n, hq, cyclic_of_supertypes h⟩

/-- Types that fail with a circle mention a class below one. -/
theorem cyclic_of_describeAll : ∀ (es : List TypeExpr), t.describeAll es = .error (.cyclic x) →
    ∃ w ∈ TypeExpr.namesAll es, ∃ n, t.qualify w = .ok n ∧
      ReflTransGen t.Extends n x ∧ TransGen t.Extends x x
  | [], h => by cases h
  | e :: rest, h => by
    simp only [describeAll, Except.bind_eq_error, Except.pure_ne_error, and_false, exists_false,
      or_false] at h
    obtain h | ⟨ty, -, h⟩ := h
    · obtain ⟨w, hw, hx⟩ := cyclic_of_describe e h
      exact ⟨w, List.mem_append_left _ hw, hx⟩
    · obtain ⟨w, hw, hx⟩ := cyclic_of_describeAll rest h
      exact ⟨w, List.mem_append_right _ hw, hx⟩

end

end ClassTable

end TypedBundle
