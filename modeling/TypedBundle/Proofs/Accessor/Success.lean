import TypedBundle.Proofs.Accessor.Signatures

/-!
# When a type can be generated

A template yields a type exactly if its members are sound and no two of its instance methods share
a signature. Otherwise the error that comes out is the fault of the first member that cannot follow
those before it or, if there is none, that of the first method whose signature an earlier one has.
-/

namespace TypedBundle.Template

/-- Each method of the accessors has the signature that its member gives it. -/
lemma ownedSignatures_eq {t ms as}
    (h : List.Forall₂ (fun m a => Member.accessors t m = .ok a) ms as) :
    AccessorType.ownedSignatures as =
      ms.flatMap fun m => (m.signatures t).map (·, m.declaredName) := by
  induction h with
  | nil => rfl
  | @cons m a rest others ha _ ih =>
    unfold AccessorType.ownedSignatures at ih ⊢
    rw [List.flatMap_cons, List.flatMap_cons, ih, (Member.member_of_accessors ha).1,
      ← Member.signature_instanceMethods ha, List.map_map]
    rfl

/-- With the way out to the bundle, the accessors have the signatures of the template. -/
lemma allSignatures_eq {t : Template} {as}
    (h : List.Forall₂ (fun m a => Member.accessors t m = .ok a) t.members as) :
    AccessorType.allSignatures as = t.signatures := by
  unfold AccessorType.allSignatures
  rw [ownedSignatures_eq h]
  rfl

/-- The first step of generation gives every member its accessors. -/
lemma accessors_members_eq_ok {t : Template} {as} :
    t.accessors [] t.members = .ok as ↔
      t.Sound t.members ∧ List.Forall₂ (fun m a => Member.accessors t m = .ok a) t.members as := by
  have hb : Sound t [] := .nil
  exact accessors_eq_ok hb

/-- A template yields the type with the accessors of its members, if they are sound and their
signatures differ. -/
lemma generate_eq_ok {t : Template} {g} :
    t.generate = .ok g ↔
      (t.Sound t.members ∧ (t.signatures.map Prod.fst).Nodup) ∧
      ∃ as, List.Forall₂ (fun m a => Member.accessors t m = .ok a) t.members as ∧
        AccessorType.ofAccessors t as = g := by
  unfold generate
  simp only [Except.bind_eq_ok, accessors_members_eq_ok, AccessorType.assemble_eq_ok]
  constructor
  · rintro ⟨as, ⟨hs, hf⟩, hd, rfl⟩
    rw [allSignatures_eq hf] at hd
    exact ⟨⟨hs, hd⟩, as, hf, rfl⟩
  · rintro ⟨⟨hs, hd⟩, as, hf, rfl⟩
    rw [← allSignatures_eq hf] at hd
    exact ⟨as, ⟨hs, hf⟩, hd, rfl⟩

/-- Sound members all have accessors. -/
lemma Sound.exists_accessors {t ms} (h : Sound t ms) :
    ∃ as, List.Forall₂ (fun m a => Member.accessors t m = .ok a) ms as := by
  have ha : ∀ m ∈ ms, ∃ a, Member.accessors t m = .ok a := fun m hm =>
    Member.exists_accessors.2 ⟨h.storable m hm, h.reachable m hm⟩
  clear h
  induction ms with
  | nil => exact ⟨[], .nil⟩
  | cons m rest ih =>
    obtain ⟨a, hm⟩ := ha m (by simp)
    obtain ⟨others, ho⟩ := ih fun x hx => ha x (by simp [hx])
    exact ⟨a :: others, .cons hm ho⟩

/-- A template is refused for a member that cannot follow those before it, or else for a method
whose signature an earlier one has. -/
lemma generate_eq_error {t : Template} {e} :
    t.generate = .error e ↔
      (∃ before m after, t.members = before ++ m :: after ∧ t.Sound before ∧
        t.MemberFault before m e) ∨
      t.Sound t.members ∧ ∃ before x after, t.signatures = before ++ x :: after ∧
        (before.map Prod.fst).Nodup ∧ t.SignatureFault before x e := by
  unfold generate
  rw [Except.bind_eq_error]
  apply or_congr
  · have hb : Sound t [] := .nil
    exact accessors_eq_error hb
  · simp only [accessors_members_eq_ok, AccessorType.assemble_eq_error]
    constructor
    · rintro ⟨as, ⟨hs, hf⟩, h⟩
      rw [allSignatures_eq hf] at h
      exact ⟨hs, h⟩
    · rintro ⟨hs, h⟩
      obtain ⟨as, hf⟩ := hs.exists_accessors
      rw [← allSignatures_eq hf] at h
      exact ⟨as, ⟨hs, hf⟩, h⟩

/-- A type is generated exactly if keys are distinct, every type has a strategy, every default body
is in reach and no signature occurs twice; and otherwise the first fault in order comes out. -/
theorem generate_outcome (t : Template) :
    ((∃ g, t.generate = .ok g) ↔
      (t.members.map (Member.key t)).Nodup ∧ (∀ m ∈ t.members, m.IsStorable) ∧
      (∀ m ∈ t.members, m.IsReachable) ∧ (t.signatures.map Prod.fst).Nodup) ∧
    ∀ e, t.generate = .error e ↔
      (∃ before m after, t.members = before ++ m :: after ∧ t.Sound before ∧
        t.MemberFault before m e) ∨
      t.Sound t.members ∧ ∃ before x after, t.signatures = before ++ x :: after ∧
        (before.map Prod.fst).Nodup ∧ t.SignatureFault before x e := by
  refine ⟨?_, fun e => generate_eq_error⟩
  simp only [generate_eq_ok]
  constructor
  · rintro ⟨_, ⟨hs, hd⟩, -⟩
    exact ⟨hs.keys, hs.storable, hs.reachable, hd⟩
  · rintro ⟨hk, hst, hr, hd⟩
    have hs : t.Sound t.members := ⟨hk, hst, hr⟩
    obtain ⟨as, hf⟩ := hs.exists_accessors
    exact ⟨_, ⟨hs, hd⟩, as, hf, rfl⟩

end TypedBundle.Template
