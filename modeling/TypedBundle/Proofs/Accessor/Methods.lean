import TypedBundle.Proofs.Accessor.Success

/-!
# Methods of a generated type

What the instance methods of a generated type look like. `Template.Provides` lists the forms that
they can have: setters, getters and presence assertions of a member under its own key, strategy and
type, and the way out to the bundle. Later proofs take a method apart by its form and do not open
the synthesis again.
-/

namespace TypedBundle

namespace MemberAccessors

/-- The presence assertion on an instance. -/
def assertion (n : Naming) : Method where
  name := n.assertName
  returns := .assertion
  body := .assert n.key

/-- Instance methods are setters, getters and the presence assertion. -/
lemma mem_instanceMethods {a : MemberAccessors} {x} :
    x ∈ a.instanceMethods ↔ (x ∈ a.setters ∨ x ∈ a.getters) ∨ x = a.assert := by
  unfold instanceMethods
  rw [List.mem_append, List.mem_append, List.mem_singleton]

end MemberAccessors

/-- The instance methods that the members of a template give rise to. -/
inductive Template.Provides (t : Template) : Method → Prop where
  | setter {m s p} :
    m ∈ t.members →
    Strategy.ofDescriptor? m.declaredType = some s →
    p ∈ (Naming.ofMember t m).setterPrefixes →
    Provides t (MemberAccessors.setter m (Naming.ofMember t m) s
      (Identifier.accessor p (Naming.ofMember t m).property))
  | getter {m s name nullable fallback} :
    m ∈ t.members →
    Strategy.ofDescriptor? m.declaredType = some s →
    Provides t (MemberAccessors.getter m (Naming.ofMember t m) s name nullable fallback)
  | assertion {m} :
    m ∈ t.members →
    Provides t (MemberAccessors.assertion (Naming.ofMember t m))
  | collect :
    Provides t .collect

namespace Member

/-- The setters of a member bear its names. -/
lemma mem_setters {t m a x} (h : accessors t m = .ok a) :
    x ∈ a.setters ↔ ∃ p ∈ (Naming.ofMember t m).setterPrefixes,
      MemberAccessors.setter m (Naming.ofMember t m) a.strategy
        (Identifier.accessor p (Naming.ofMember t m).property) = x := by
  obtain ⟨s, d, -, -, rfl⟩ := accessors_eq_ok.1 h
  simp [MemberAccessors.ofParts, Naming.setterNames]

/-- The getters of a member read its entry, and the default that one falls back to is the
member's. -/
lemma getter_of_mem {t m a x} (h : accessors t m = .ok a) (hx : x ∈ a.getters) :
    ∃ name nullable fallback,
      x = MemberAccessors.getter m (Naming.ofMember t m) a.strategy name nullable fallback ∧
      ∀ call, fallback = .inlineDefault call ∨ fallback = .orDefault call →
        defaultCall? t m = .ok (some call) := by
  obtain ⟨s, d, -, hd, rfl⟩ := accessors_eq_ok.1 h
  obtain ⟨name, -, hx⟩ := List.mem_flatMap.1 hx
  unfold MemberAccessors.gettersNamed at hx
  cases hc : s.getterClass <;> cases d <;>
    simp only [hc, List.mem_cons, List.not_mem_nil, or_false] at hx
  case zeroDefault.none =>
    exact ⟨_, _, _, hx, by simp⟩
  case zeroDefault.some call =>
    exact ⟨_, _, _, hx, by simp [hd]⟩
  case fallbackCapable.none =>
    obtain rfl | rfl := hx
    · exact ⟨_, _, _, rfl, by simp⟩
    · exact ⟨_, _, _, rfl, by simp⟩
  case fallbackCapable.some call =>
    exact ⟨_, _, _, hx, by simp [hd]⟩
  case nullable.none =>
    obtain rfl | rfl := hx
    · exact ⟨_, _, _, rfl, by simp⟩
    · exact ⟨_, _, _, rfl, by simp⟩
  case nullable.some call =>
    obtain rfl | rfl | rfl := hx
    · exact ⟨_, _, _, rfl, by simp [hd]⟩
    · exact ⟨_, _, _, rfl, by simp⟩
    · exact ⟨_, _, _, rfl, by simp⟩

/-- The presence assertions of a member bear one name and assert its key. -/
lemma asserts_of_accessors {t m a} (h : accessors t m = .ok a) :
    a.assert = MemberAccessors.assertion (Naming.ofMember t m) ∧
      a.assertChain = { a.assert with body := .assertChain (m.key t) } := by
  obtain ⟨s, d, -, -, rfl⟩ := accessors_eq_ok.1 h
  exact ⟨rfl, rfl⟩

/-- Every instance method of a member has one of the forms. -/
lemma provides_of_mem {t : Template} {m a x} (h : accessors t m = .ok a) (hm : m ∈ t.members)
    (hx : x ∈ a.instanceMethods) : t.Provides x := by
  obtain ⟨-, -, hs⟩ := member_of_accessors h
  obtain (hx | hx) | rfl := MemberAccessors.mem_instanceMethods.1 hx
  · obtain ⟨p, hp, rfl⟩ := (mem_setters h).1 hx
    exact .setter hm hs hp
  · obtain ⟨name, nullable, fallback, rfl, -⟩ := getter_of_mem h hx
    exact .getter hm hs
  · rw [(asserts_of_accessors h).1]
    exact .assertion hm

end Member

namespace Template

/-- The accessors of all members are those that single members have. -/
lemma mem_accessors_iff {t ms as a}
    (h : List.Forall₂ (fun m a => Member.accessors t m = .ok a) ms as) :
    a ∈ as ↔ ∃ m ∈ ms, Member.accessors t m = .ok a := by
  induction h with
  | nil => simp
  | cons ha _ ih => simp [ih, ha, eq_comm]

/-- A generated type has the methods of its members and the way out to the bundle. -/
lemma mem_methods_iff {t : Template} {g x} (hg : t.generate = .ok g) :
    x ∈ g.methods ↔
      (∃ m ∈ t.members, ∃ a, m.accessors t = .ok a ∧ x ∈ a.instanceMethods) ∨ x = .collect := by
  obtain ⟨-, as, hf, rfl⟩ := generate_eq_ok.1 hg
  simp only [AccessorType.ofAccessors, List.mem_append, List.mem_flatMap, List.mem_singleton,
    mem_accessors_iff hf]
  constructor
  · rintro (⟨a, ⟨m, hm, ha⟩, hx⟩ | rfl)
    · exact .inl ⟨m, hm, a, ha, hx⟩
    · exact .inr rfl
  · rintro (⟨m, hm, a, ha, hx⟩ | rfl)
    · exact .inl ⟨a, ⟨m, hm, ha⟩, hx⟩
    · exact .inr rfl

/-- Every member of a template whose type is generated has accessors. -/
lemma exists_accessors_of_generate {t : Template} {g m} (hg : t.generate = .ok g)
    (hm : m ∈ t.members) : ∃ a, m.accessors t = .ok a := by
  have hs := (generate_eq_ok.1 hg).1.1
  exact Member.exists_accessors.2 ⟨hs.storable m hm, hs.reachable m hm⟩

/-- Every member has its presence assertion. -/
lemma assertion_mem_methods {t : Template} {g m} (hg : t.generate = .ok g) (hm : m ∈ t.members) :
    MemberAccessors.assertion (Naming.ofMember t m) ∈ g.methods := by
  obtain ⟨a, ha⟩ := exists_accessors_of_generate hg hm
  rw [← (Member.asserts_of_accessors ha).1]
  exact (mem_methods_iff hg).2
    (.inl ⟨m, hm, a, ha, MemberAccessors.mem_instanceMethods.2 (.inr rfl)⟩)

/-- Every instance method of a generated type has one of the forms. -/
lemma provides_of_mem_methods {t : Template} {g x} (hg : t.generate = .ok g)
    (hx : x ∈ g.methods) : t.Provides x := by
  obtain ⟨m, hm, a, ha, hx⟩ | rfl := (mem_methods_iff hg).1 hx
  · exact Member.provides_of_mem ha hm hx
  · exact .collect

/-- The methods of accessors have their signatures. -/
lemma signature_methods {t as} :
    (AccessorType.ofAccessors t as).methods.map Method.signature =
      (AccessorType.allSignatures as).map Prod.fst := by
  simp [AccessorType.ofAccessors, AccessorType.allSignatures, AccessorType.ownedSignatures,
    List.map_flatMap, Function.comp_def]

/-- No two instance methods of a generated type share a signature. -/
lemma signature_methods_nodup {t : Template} {g} (hg : t.generate = .ok g) :
    (g.methods.map Method.signature).Nodup := by
  obtain ⟨⟨-, hd⟩, as, hf, rfl⟩ := generate_eq_ok.1 hg
  rwa [signature_methods, allSignatures_eq hf]

end Template

end TypedBundle
