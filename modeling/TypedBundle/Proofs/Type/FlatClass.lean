import TypedBundle.Proofs.Type.Hierarchy

/-!
# Types of flat classes

A class is flat if nothing is above its parents. `ClassTable.describeText_eq_ok` says what a type
without arguments resolves to if its class is flat: the parents are all that is above it.
-/

namespace TypedBundle.ClassTable

/-- The table knows the class by the name as written, and nothing is above its parents. -/
def HasFlat (t : ClassTable) (written : String) (c : ClassInfo) : Prop :=
  (t.qualify written).toOption = some c.name ∧ t.find? c.name = some c ∧
    c.name ∈ t.classes.keys ∧
    ∀ p ∈ c.parents, (t.qualify p).toOption = some p ∧ p ∈ t.classes.keys.erase c.name ∧
      (t.find? p).map ClassInfo.parents = some []

instance (t : ClassTable) (written : String) (c : ClassInfo) : Decidable (t.HasFlat written c) :=
  inferInstanceAs (Decidable (_ ∧ _))

variable {t : ClassTable} {c : ClassInfo}

/-- Nothing is above a class without parents. -/
lemma supertypesFrom_eq_empty {free name} (hc : t.find? name = some c) (hf : name ∈ free)
    (hp : c.parents = []) : t.supertypesFrom free name = .ok {} := by
  rw [supertypesFrom_eq, hc]
  simp only [if_pos hf, hp]
  rfl

/-- Above a flat class are its parents. -/
lemma HasFlat.supertypes_eq {written} (h : t.HasFlat written c) :
    t.supertypes c.name = .ok (.ofList c.parents) := by
  obtain ⟨-, hc, hn, hp⟩ := h
  unfold supertypes
  rw [supertypesFrom_eq, hc]
  simp only [if_pos hn]
  unfold NameSet.ofList
  generalize c.parents = ps at hp
  change t.gather _ NameSet.empty ps = _
  generalize NameSet.empty = found
  -- what was found above earlier parents varies, so the induction is over all of it
  induction ps generalizing found with
  | nil => rfl
  | cons p rest ih =>
    obtain ⟨hq, hf, hl⟩ := hp p List.mem_cons_self
    obtain ⟨c', hc', hl⟩ := Option.map_eq_some_iff.1 hl
    rw [gather_cons, Except.eq_ok_of_toOption hq]
    change t.supertypesFrom (t.classes.keys.erase c.name) p >>= _ = _
    rw [supertypesFrom_eq_empty hc' hf hl]
    exact ih (fun q hm => hp q (List.mem_cons_of_mem _ hm)) _

/-- A type without arguments resolves to what the table knows of its class, if that is flat and
extends no other. -/
lemma describeText_eq_ok {source written} (hs : TypeExpr.parse source = .ok ⟨written, []⟩)
    (h : t.HasFlat written c) (hn : c.typeParameters = 0) (he : c.extended = none) :
    t.describeText source =
      .ok { name := c.name, supertypes := .ofList c.parents, constants := c.constants } := by
  have hd : t.describe ⟨written, []⟩ =
      .ok { name := c.name, supertypes := .ofList c.parents, constants := c.constants } := by
    have hsuper : c.extended.mapM t.qualify = .ok none := by
      rw [he]
      rfl
    exact describe_eq_ok.2 ⟨c.name, c, [], none, _, Except.eq_ok_of_toOption h.1, h.2.1, hn, rfl,
      hsuper, h.supertypes_eq, rfl⟩
  unfold describeText
  rw [hs]
  exact hd

end TypedBundle.ClassTable
