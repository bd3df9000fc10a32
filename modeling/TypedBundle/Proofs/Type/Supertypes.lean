import TypedBundle.Proofs.Type.Hierarchy

/-!
# Supertypes

The supertypes of a resolved type are the classes above its class (`ClassTable.supertypes_exact`).

The search for them keeps the classes that are not on the way, and has fewer of them at each step.
`ClassTable.Climbs` is the same search with the way itself, and nothing in it gets smaller. It comes
to an end all the same, from every class of every table, with what is found here
(`ClassTable.climbs_iff`).
-/

namespace TypedBundle

open Relation

namespace ClassTable

variable {t : ClassTable}

mutual

/-- A search for the names above a class, given the way to it, and how it ends. -/
inductive Climbs (t : ClassTable) : List String → String → Except TypeError NameSet → Prop where
  | circle {way name} :
    name ∈ way →
    Climbs t way name (.error (.cyclic name))
  | unknown {way name} :
    name ∉ way →
    t.find? name = none →
    Climbs t way name (.error (.unknownClass name))
  | known {way name c r} :
    name ∉ way →
    t.find? name = some c →
    ClimbsAll t (name :: way) {} c.parents r →
    Climbs t way name r

/-- A search through parents in turn, given what was found before them, and how it ends. -/
inductive ClimbsAll (t : ClassTable) :
    List String → NameSet → List String → Except TypeError NameSet → Prop where
  | done {way found} :
    ClimbsAll t way found [] (.ok found)
  | unresolved {way found parent rest e} :
    t.qualify parent = .error e →
    ClimbsAll t way found (parent :: rest) (.error e)
  | broken {way found parent rest full e} :
    t.qualify parent = .ok full →
    Climbs t way full (.error e) →
    ClimbsAll t way found (parent :: rest) (.error e)
  | next {way found parent rest full above r} :
    t.qualify parent = .ok full →
    Climbs t way full (.ok above) →
    ClimbsAll t way ((found.union above).insert full) rest r →
    ClimbsAll t way found (parent :: rest) r

end

variable {free way ps : List String} {name : String} {found : NameSet}
  {climb : String → Except TypeError NameSet} {r r' : Except TypeError NameSet}

/-- Above parents in turn the search finds what it finds above each. -/
lemma climbsAll_gather
    (h : ∀ full, (t.find? full).isSome → t.Climbs way full (climb full)) :
    t.ClimbsAll way found ps (t.gather climb found ps) := by
  induction ps generalizing found with
  | nil => exact .done
  | cons p rest ih =>
    rw [gather_cons]
    cases hq : t.qualify p with
    | error e => exact .unresolved hq
    | ok full =>
      have hc := h full (isSome_of_qualify hq)
      change t.ClimbsAll way found (p :: rest)
        (climb full >>= fun above => t.gather climb ((found.union above).insert full) rest)
      cases ha : climb full with
      | error e =>
        rw [ha] at hc
        exact .broken hq hc
      | ok above =>
        rw [ha] at hc
        exact .next hq hc ih

/-- A search ends with what is found from the classes that are not on the way. -/
lemma climbs_supertypesFrom (hn : free.Nodup)
    (hfree : ∀ k, (t.find? k).isSome → (k ∈ free ↔ k ∉ way))
    (hu : t.find? name = none → name ∉ way) :
    t.Climbs way name (t.supertypesFrom free name) := by
  induction free, name using supertypesFrom.induct t generalizing way with
  | case1 free name hc =>
    rw [supertypesFrom_eq, hc]
    exact .unknown (hu hc) hc
  | case2 free name c hc hf ih =>
    rw [supertypesFrom_eq, hc]
    simp only [if_pos hf]
    have hs : (t.find? name).isSome := by simp [hc]
    refine .known ((hfree name hs).1 hf) hc (climbsAll_gather ?_)
    intro full hfull
    apply ih full (hn.erase name)
    · intro k hk
      rw [hn.mem_erase_iff, hfree k hk, List.mem_cons, not_or]
    · intro hnone
      simp [hnone] at hfull
  | case3 free name c hc hf =>
    rw [supertypesFrom_eq, hc]
    simp only [if_neg hf]
    have hs : (t.find? name).isSome := by simp [hc]
    exact .circle (not_not.1 (mt (hfree name hs).2 hf))

/-- A search ends in one way only. -/
lemma Climbs.eq (h : t.Climbs way name r) : ∀ {r'}, t.Climbs way name r' → r = r' := by
  induction h using Climbs.rec
    (motive_2 := fun way found ps r _ => ∀ {r'}, t.ClimbsAll way found ps r' → r = r') with
  | circle hw =>
    intro r' h'
    cases h' with
    | circle => rfl
    | unknown hw' => exact (hw' hw).elim
    | known hw' => exact (hw' hw).elim
  | unknown hw hc =>
    intro r' h'
    cases h' with
    | circle hw' => exact (hw hw').elim
    | unknown => rfl
    | known _ hc' => cases hc.symm.trans hc'
  | known hw hc _ ih =>
    intro r' h'
    cases h' with
    | circle hw' => exact (hw hw').elim
    | unknown _ hc' => cases hc.symm.trans hc'
    | known _ hc' h' =>
      cases hc.symm.trans hc'
      exact ih h'
  | done h' =>
    cases h'
    rfl
  | unresolved hq h' =>
    cases h' with
    | unresolved hq' => exact congrArg _ (Except.error.inj (hq.symm.trans hq'))
    | broken hq' => cases hq.symm.trans hq'
    | next hq' => cases hq.symm.trans hq'
  | broken hq _ ih h' =>
    cases h' with
    | unresolved hq' => cases hq.symm.trans hq'
    | broken hq' h' =>
      cases hq.symm.trans hq'
      exact congrArg _ (Except.error.inj (ih h'))
    | next hq' h' =>
      cases hq.symm.trans hq'
      cases ih h'
  | next hq _ _ ih ihall h' =>
    cases h' with
    | unresolved hq' => cases hq.symm.trans hq'
    | broken hq' h' =>
      cases hq.symm.trans hq'
      cases ih h'
    | next hq' h' hall' =>
      cases hq.symm.trans hq'
      cases ih h'
      exact ihall hall'

/-- From no way at all, a search ends with what lies above the class. -/
lemma climbs_iff (hn : t.classes.keys.Nodup) :
    t.Climbs [] name r ↔ r = t.supertypes name := by
  have h : t.Climbs [] name (t.supertypes name) := by
    apply climbs_supertypesFrom hn
    · intro k hk
      simp [isSome_find?_iff.1 hk]
    · simp
  constructor
  · exact fun h' => h'.eq h
  · rintro rfl
    exact h

/-- Every table that declarations make has each of its names once. -/
lemma nodup_keys_declareAll {cs : List ClassInfo} :
    ((declareAll ⟨{}⟩ cs).classes.keys).Nodup := by
  have hp : ∀ t : ClassTable, t.classes.keys.Pairwise (· < ·) →
      (t.declareAll cs).classes.keys.Pairwise (· < ·) := by
    induction cs with
    | nil => exact fun _ h => h
    | cons c rest ih =>
      intro t h
      apply ih (t.declare c)
      unfold declare
      rw [Dict.keys_insert]
      exact NameSet.pairwise_insertName c.name h
  refine (hp ⟨{}⟩ .nil).imp ?_
  rintro a _ hlt rfl
  exact String.lt_irrefl a hlt

end ClassTable

/-- A type whose class and arguments resolve does so itself exactly if each name of a parent, of the
class and of all classes above it, stands for a class and no way up leads in a circle. Its
supertypes are then the classes above its class, each once, and that is none of them. A type that
fails with a circle names a class of one, above a class that the type mentions. The search behind
this, which knows only the way that it has come, always ends, and in one way. -/
theorem ClassTable.supertypes_exact (t : ClassTable) (e : TypeExpr) :
    (∀ n c args, t.qualify e.name = .ok n → t.find? n = some c →
      c.typeParameters = e.arguments.length → t.describeAll e.arguments = .ok args →
      ((∃ ty, t.describe e = .ok ty) ↔
        (∀ k, ReflTransGen t.Extends n k → t.Qualifies k) ∧
          ∀ k, ReflTransGen t.Extends n k → ¬ TransGen t.Extends k k)) ∧
    (∀ ty, t.describe e = .ok ty → t.qualify e.name = .ok ty.name ∧
      (∀ x, ty.supertypes.contains x ↔ TransGen t.Extends ty.name x) ∧
      ¬ ty.supertypes.contains ty.name ∧ ty.supertypes.toList.Pairwise (· < ·)) ∧
    (∀ x, t.describe e = .error (.cyclic x) → ∃ w ∈ e.names, ∃ n, t.qualify w = .ok n ∧
      ReflTransGen t.Extends n x ∧ TransGen t.Extends x x) ∧
    (t.classes.keys.Nodup → ∀ name r, t.Climbs [] name r ↔ r = t.supertypes name) := by
  refine ⟨?_, ?_, fun x => cyclic_of_describe e, fun hn name r => climbs_iff hn⟩
  · intro n c args hq hc hp ha
    constructor
    · rintro ⟨ty, h⟩
      obtain ⟨n', -, -, -, above, hq', -, -, -, -, hs, -⟩ := describe_eq_ok.1 h
      cases hq.symm.trans hq'
      obtain ⟨-, hsound⟩ := exists_supertypes_iff.1 ⟨above, hs⟩
      exact ⟨hsound.qualifies, hsound.acyclic⟩
    · rintro ⟨hqual, hacyc⟩
      obtain ⟨above, hs⟩ := exists_supertypes_iff.2 ⟨isSome_of_qualify hq, hqual, hacyc⟩
      obtain ⟨superclass, hsuper⟩ := (hqual n .refl).exists_mapM hc
      exact ⟨_, describe_eq_ok.2 ⟨n, c, args, superclass, above, hq, hc, hp, ha, hsuper, hs, rfl⟩⟩
  · intro ty h
    obtain ⟨n, c, args, superclass, above, hq, -, -, -, -, hs, rfl⟩ := describe_eq_ok.1 h
    obtain ⟨-, hsound⟩ := exists_supertypes_iff.1 ⟨above, hs⟩
    obtain ⟨-, -, -, -, hsorted, -⟩ := supertypesFrom_eq_ok hs
    refine ⟨hq, fun x => contains_supertypes hs, ?_, hsorted⟩
    rw [contains_supertypes hs]
    exact hsound.acyclic n .refl

namespace Kinship

/-- Classes with two ways up from one of them, and a circle of two others. -/
def table : ClassTable := .declareAll ⟨{}⟩ [
  { name := "kotlin.Enum", interfaces := ["Base"] },
  { name := "kotlin.collections.List", typeParameters := 1 },
  { name := "com.example.Base", kind := .interface },
  { name := "com.example.Named", kind := .interface, interfaces := ["Base"] },
  { name := "com.example.Color", kind := .enumeration, interfaces := ["Named"] },
  { name := "com.example.Hen", superclass := some "Egg" },
  { name := "com.example.Egg", superclass := some "Hen" }]

end Kinship

/-- What is above the class with two ways up is found once, and a list of the others is refused for
their circle. -/
theorem Kinship.supertypes_color :
    (∃ ty, Kinship.table.describe ⟨"Color", []⟩ = .ok ty ∧
      ty.supertypes.toList = ["com.example.Base", "com.example.Named", "kotlin.Enum"] ∧
      TransGen Kinship.table.Extends "com.example.Color" "com.example.Base" ∧
      ∀ k, ReflTransGen Kinship.table.Extends "com.example.Color" k → Kinship.table.Qualifies k) ∧
    Kinship.table.describe ⟨"List", [⟨"Hen", []⟩]⟩ = .error (.cyclic "com.example.Hen") ∧
    TransGen Kinship.table.Extends "com.example.Hen" "com.example.Hen" ∧
    Kinship.table.Climbs [] "com.example.Hen" (.error (.cyclic "com.example.Hen")) := by
  obtain ⟨hiff, hok, -, -⟩ := ClassTable.supertypes_exact Kinship.table ⟨"Color", []⟩
  obtain ⟨-, -, hcirc, hclimb⟩ := ClassTable.supertypes_exact Kinship.table ⟨"List", [⟨"Hen", []⟩]⟩
  have hcolor : ((Kinship.table.describe ⟨"Color", []⟩).toOption.map fun ty =>
      (ty.name, ty.supertypes.toList)) = some ("com.example.Color",
        ["com.example.Base", "com.example.Named", "kotlin.Enum"]) := by decide +kernel
  have hlist : Kinship.table.describe ⟨"List", [⟨"Hen", []⟩]⟩ =
      .error (.cyclic "com.example.Hen") :=
    (Except.map_eq_error (f := fun _ => ())).1 (by decide +kernel)
  obtain ⟨ty, hty, he⟩ := Option.map_eq_some_iff.1 hcolor
  obtain ⟨hname, hnames⟩ := Prod.mk.inj he
  have hty := Except.eq_ok_of_toOption hty
  obtain ⟨hq, hs, -, -⟩ := hok ty hty
  obtain ⟨-, -, -, -, -, hx⟩ := hcirc _ hlist
  refine ⟨⟨ty, hty, hnames, ?_, ?_⟩, hlist, hx, ?_⟩
  · rw [← hname, ← hs]
    simp [NameSet.contains, hnames]
  · rw [hname] at hq
    have hc : ∃ c, Kinship.table.find? "com.example.Color" = some c ∧ c.typeParameters = 0 := by
      decide +kernel
    obtain ⟨c, hc, hp⟩ := hc
    exact ((hiff _ c [] hq hc hp rfl).1 ⟨ty, hty⟩).1
  · rw [hclimb ClassTable.nodup_keys_declareAll]
    decide +kernel

end TypedBundle
