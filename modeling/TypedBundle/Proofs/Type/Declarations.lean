import Mathlib.Data.List.Nodup
import TypedBundle.Proofs.Fallible
import TypedBundle.Type.ClassTable

/-!
# Declared classes

What a class table knows after declarations: of classes that share a name the one declared last, and
otherwise what it knew before. So a table never forgets a name, and classes with names of their own
can be declared in any order.

The resolution of a type is taken apart once (`ClassTable.describe_eq_ok`). A type that a table
resolves names classes that it knows.
-/

namespace TypedBundle.ClassTable

variable {t : ClassTable}

/-- A declared class is found under its name, and all else as before. -/
lemma find?_declare {c : ClassInfo} {name : String} :
    (t.declare c).find? name = if name = c.name then some c else t.find? name :=
  Dict.find?_insert t.classes c.name name c

/-- After declarations the last class of a name is found, or else what was found before. -/
lemma find?_declareAll {cs : List ClassInfo} {name : String} :
    (t.declareAll cs).find? name =
      (cs.reverse.find? (·.name == name)).or (t.find? name) := by
  unfold declareAll
  induction cs generalizing t with
  | nil => rfl
  | cons c rest ih =>
    rw [List.foldl_cons, ih, find?_declare, List.reverse_cons, List.find?_append, Option.or_assoc]
    congr 1
    by_cases h : name = c.name
    · simp [h]
    · have hne : c.name ≠ name := fun e => h e.symm
      simp [h, hne]

/-- A name is known after declarations if it is that of a declared class or was known before. -/
lemma isSome_find?_declareAll {cs : List ClassInfo} {name : String} :
    ((t.declareAll cs).find? name).isSome ↔
      (∃ c ∈ cs, c.name = name) ∨ (t.find? name).isSome := by
  rw [find?_declareAll]
  simp [List.find?_isSome]

/-- Of two classes with different names it does not matter which is declared first. -/
lemma declare_comm {c c' : ClassInfo} (h : c.name ≠ c'.name) :
    (t.declare c).declare c' = (t.declare c').declare c := by
  unfold declare Dict.insert
  rw [Dict.insertPair_comm h]

/-- If no two classes share a name, the order of their declarations does not matter. -/
lemma declareAll_of_perm {cs cs' : List ClassInfo} (hn : (cs.map ClassInfo.name).Nodup)
    (hp : cs.Perm cs') : t.declareAll cs = t.declareAll cs' := by
  apply hp.foldl_eq'
  intro c hc c' hc' t
  by_cases he : c.name = c'.name
  · rw [List.inj_on_of_nodup_map hn hc hc' he]
  · exact declare_comm he

/-- How a type resolves: its class is known and takes as many arguments, these resolve, and the
names above the class can be told. -/
lemma describe_eq_ok {e ty} : t.describe e = .ok ty ↔
    ∃ n c args superclass above, t.qualify e.name = .ok n ∧ t.find? n = some c ∧
      c.typeParameters = e.arguments.length ∧ t.describeAll e.arguments = .ok args ∧
      c.extended.mapM t.qualify = .ok superclass ∧ t.supertypes n = .ok above ∧
      TypeDescriptor.mk n args superclass above c.constants = ty := by
  obtain ⟨written, arguments⟩ := e
  rw [describe, Except.bind_eq_ok]
  refine exists_congr fun n => ?_
  cases t.find? n with
  | none => simp [throw, throwThe, MonadExceptOf.throw]
  | some c =>
    by_cases hp : c.typeParameters = arguments.length
    · simp [hp, Functor.map]
    · simp [hp]

mutual

/-- A type that a table resolves names classes of the table. -/
theorem isSome_of_describe : ∀ (e : TypeExpr) {ty : TypeDescriptor}, t.describe e = .ok ty →
    ∀ n ∈ ty.names, (t.find? n).isSome
  | ⟨written, arguments⟩, ty, h => by
    obtain ⟨name, c, others, superclass, above, -, hf, -, ha, -, -, rfl⟩ := describe_eq_ok.1 h
    rw [TypeDescriptor.names, List.forall_mem_cons, hf]
    exact ⟨rfl, isSome_of_describeAll arguments ha⟩

/-- Types that a table resolves name classes of the table. -/
theorem isSome_of_describeAll : ∀ (es : List TypeExpr) {tys : List TypeDescriptor},
    t.describeAll es = .ok tys → ∀ n ∈ TypeDescriptor.namesAll tys, (t.find? n).isSome
  | [], tys, h => by
    cases h
    nofun
  | e :: rest, tys, h => by
    simp only [describeAll, Except.bind_eq_ok, Except.pure_eq_ok] at h
    obtain ⟨ty, he, others, hr, rfl⟩ := h
    rw [TypeDescriptor.namesAll, List.forall_mem_append]
    exact ⟨isSome_of_describe e he, isSome_of_describeAll rest hr⟩

end

/-- A type that is parsed and resolved names classes of the table. -/
lemma isSome_of_describeText {source ty} (h : t.describeText source = .ok ty) :
    ∀ n ∈ ty.names, (t.find? n).isSome := by
  rw [describeText, Except.bind_eq_ok] at h
  obtain ⟨e, -, h⟩ := h
  exact isSome_of_describe e h

end TypedBundle.ClassTable
