import TypedBundle.Instance.Codec
import TypedBundle.Proofs.Type.Supertypes

/-!
# Subtypes

A class is a subtype of itself and, if all is well above it, of every class above it
(`ClassTable.isSubtype_iff`). A class with a broken hierarchy is a subtype of nothing else, and so
what is below a class never breaks the order. A resolved type implements exactly the classes of
which its own class is a subtype, since both come from the same search.
-/

namespace TypedBundle

open Relation

namespace ClassTable

variable {t : ClassTable} {a b c : String}

/-- A class with something above it is in the table. -/
lemma isSome_of_transGen (h : TransGen t.Extends a b) : (t.find? a).isSome := by
  obtain ⟨p, ⟨c, parent, hc, -, -⟩, -⟩ := TransGen.head'_iff.1 h
  rw [hc]
  rfl

/-- A subtype is the class itself, or is below it and has nothing broken above it. -/
lemma isSubtype_iff : t.isSubtype a b ↔ a = b ∨ (t.Sound a ∧ TransGen t.Extends a b) := by
  unfold isSubtype
  rw [Bool.or_eq_true, beq_iff_eq]
  refine or_congr_right ?_
  cases hs : t.supertypes a with
  | error e =>
    constructor
    · nofun
    · rintro ⟨hsound, hab⟩
      obtain ⟨above, ha⟩ := exists_supertypes_iff.2 ⟨isSome_of_transGen hab, hsound⟩
      cases hs.symm.trans ha
  | ok above =>
    obtain ⟨-, hsound⟩ := exists_supertypes_iff.1 ⟨above, hs⟩
    rw [contains_supertypes hs]
    exact (and_iff_right hsound).symm

/-- Every class is a subtype of itself. -/
lemma isSubtype_refl : t.isSubtype a a := isSubtype_iff.2 (.inl rfl)

/-- A subtype of a subtype is a subtype. -/
lemma isSubtype_trans (hab : t.isSubtype a b) (hbc : t.isSubtype b c) : t.isSubtype a c := by
  rw [isSubtype_iff] at *
  obtain rfl | ⟨hsound, hab⟩ := hab
  · exact hbc
  · obtain rfl | ⟨-, hbc⟩ := hbc
    · exact .inr ⟨hsound, hab⟩
    · exact .inr ⟨hsound, hab.trans hbc⟩

/-- Classes that are subtypes of each other are the same, since no class is above itself. -/
lemma isSubtype_antisymm (hab : t.isSubtype a b) (hba : t.isSubtype b a) : a = b := by
  rw [isSubtype_iff] at *
  obtain rfl | ⟨hsound, hab⟩ := hab
  · rfl
  · obtain rfl | ⟨-, hba⟩ := hba
    · rfl
    -- a class below itself would be on a circle
    · exact (hsound.acyclic a .refl (hab.trans hba)).elim

/-- The type that is described implements what its class is a subtype of. -/
lemma implements_of_describe {e ty} (h : t.describe e = .ok ty) :
    ty.implements b = t.isSubtype ty.name b := by
  obtain ⟨n, cl, args, superclass, above, -, -, -, -, -, hs, rfl⟩ := describe_eq_ok.1 h
  unfold isSubtype TypeDescriptor.implements
  rw [hs]

end ClassTable

/-- A parcelable object is stored as it is, if its class is a subtype of the declared one. -/
lemma Strategy.encode_object_eq_ok {classes method ty v stored} :
    encode classes method ty .object v = .ok stored ↔
      ∃ o, v = .parcelable o ∧ classes.isSubtype o.className ty.name ∧ stored = v := by
  constructor
  · intro h
    cases v with
    | parcelable o =>
      by_cases ho : classes.isSubtype o.className ty.name
      · cases (if_pos ho).symm.trans h
        exact ⟨o, rfl, ho, rfl⟩
      · cases (if_neg ho).symm.trans h
    | _ => cases h
  · rintro ⟨o, rfl, ho, rfl⟩
    exact if_pos ho

/-- Whatever the table, being a subtype is a partial order on names, and a resolved type implements
exactly what its class is a subtype of. So an object that a parcelable member takes is taken by
every parcelable member whose class is above the one of the first. -/
theorem ClassTable.isSubtype_order (t : ClassTable) :
    (∀ a, t.isSubtype a a) ∧
    (∀ a b c, t.isSubtype a b → t.isSubtype b c → t.isSubtype a c) ∧
    (∀ a b, t.isSubtype a b → t.isSubtype b a → a = b) ∧
    (∀ e ty, t.describe e = .ok ty → ∀ n, ty.implements n = t.isSubtype ty.name n) ∧
    ∀ method method' A B v stored, Strategy.object.encode t method A v = .ok stored →
      t.isSubtype A.name B.name → Strategy.object.encode t method' B v = .ok stored := by
  refine ⟨fun a => isSubtype_refl, fun a b c => isSubtype_trans, fun a b => isSubtype_antisymm,
    fun e ty h n => implements_of_describe h, ?_⟩
  intro method method' A B v stored h hAB
  obtain ⟨o, rfl, ho, rfl⟩ := Strategy.encode_object_eq_ok.1 h
  exact Strategy.encode_object_eq_ok.2 ⟨o, rfl, isSubtype_trans ho hAB, rfl⟩

/-- An object of the enumeration is an object of the interfaces above it, and a class on a circle is
a subtype of itself alone. -/
theorem Kinship.isSubtype_color :
    Kinship.table.isSubtype "com.example.Color" "com.example.Base" ∧
    (∃ ty, Kinship.table.describe ⟨"Color", []⟩ = .ok ty ∧ ty.implements "com.example.Base") ∧
    Strategy.object.encode Kinship.table "setBase" (.named "com.example.Base")
      (.parcelable ⟨"com.example.Color", "red"⟩) = .ok (.parcelable ⟨"com.example.Color", "red"⟩) ∧
    Kinship.table.isSubtype "com.example.Hen" "com.example.Hen" ∧
    ¬ Kinship.table.isSubtype "com.example.Hen" "com.example.Egg" := by
  obtain ⟨hrefl, htrans, -, hdescribe, hencode⟩ := ClassTable.isSubtype_order Kinship.table
  have hnamed : Kinship.table.isSubtype "com.example.Color" "com.example.Named" := by
    decide +kernel
  have hbase : Kinship.table.isSubtype "com.example.Named" "com.example.Base" := by decide +kernel
  have hcolor : ((Kinship.table.describe ⟨"Color", []⟩).toOption.map TypeDescriptor.name) =
      some "com.example.Color" := by decide +kernel
  obtain ⟨ty, hty, hname⟩ := Option.map_eq_some_iff.1 hcolor
  have hty := Except.eq_ok_of_toOption hty
  refine ⟨htrans _ _ _ hnamed hbase, ⟨ty, hty, ?_⟩, ?_, hrefl _, by decide +kernel⟩
  · rw [hdescribe _ ty hty, hname]
    exact htrans _ _ _ hnamed hbase
  · exact hencode "setNamed" "setBase" (.named "com.example.Named") (.named "com.example.Base") _ _
      (if_pos hnamed) hbase

end TypedBundle
