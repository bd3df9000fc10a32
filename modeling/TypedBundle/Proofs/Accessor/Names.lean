import TypedBundle.Proofs.Manifest.Scopes
import TypedBundle.Proofs.Text.Marks

/-!
# Names in a generated type

Where the names come from that stand in a generated type. A method is an accessor of a member, which
bears a leading word, the capitalized property and perhaps an ending (`Naming.Names`), or it is one
of the two that every type has. Parameters bear the name of a property, and the functions of default
bodies that of a member.
-/

namespace TypedBundle

/-- The endings of accessors' names. -/
def Naming.endings : List String := ["", "OrNull", "OrThrow"]

/-- Endings have characters that can stand in a name. -/
lemma Naming.isPart_of_mem_endings {ending} (h : ending ∈ endings) :
    ∀ c ∈ ending.toList, Identifier.isPart c := by
  have hnull : Identifier.isLegal "OrNull" := by decide
  have hthrow : Identifier.isLegal "OrThrow" := by decide
  unfold endings at h
  rw [List.mem_cons, List.mem_cons, List.mem_singleton] at h
  obtain rfl | rfl | rfl := h
  · nofun
  · exact Identifier.isPart_of_isLegal hnull
  · exact Identifier.isPart_of_isLegal hthrow

/-- The names that accessors can have. -/
inductive Naming.Names (n : Naming) : String → Prop where
  | intro {lead ending} :
    lead ∈ "has" :: (n.setterPrefixes ++ n.getterPrefixes) →
    ending ∈ endings →
    Names n (Identifier.accessor lead n.property ++ ending)

namespace Naming

variable {n : Naming} {name lead : String}

/-- An accessor can do without an ending. -/
lemma names_accessor (h : lead ∈ "has" :: (n.setterPrefixes ++ n.getterPrefixes)) :
    n.Names (Identifier.accessor lead n.property) := by
  have hn : n.Names (Identifier.accessor lead n.property ++ "") := .intro h (by decide)
  rwa [String.append_empty] at hn

/-- The words that begin the names of accessors can begin a name. -/
lemma Legal.canBegin (h : n.Legal) (hl : lead ∈ "has" :: (n.setterPrefixes ++ n.getterPrefixes)) :
    Identifier.canBegin lead := by
  have hhas : Identifier.canBegin "has" := by decide
  obtain rfl | hl := List.mem_cons.1 hl
  · exact hhas
  · obtain hl | hl := List.mem_append.1 hl
    · exact h.setterPrefixes _ hl
    · exact h.getterPrefixes _ hl

/-- The name of an accessor is no word of small Latin letters. -/
lemma Legal.ne_of_names (h : n.Legal) (hn : n.Names name) {word : String}
    (hw : word.toList.tail.all fun c => Text.IsSmallLatin c.toNat) : name ≠ word := by
  obtain ⟨hl, -⟩ := hn
  exact Identifier.accessor_append_ne (Identifier.ne_empty_of_canBegin (h.canBegin hl))
    (Identifier.ne_empty_of_canBegin (Identifier.canBegin_of_isLegal h.property)) hw

/-- The name of an accessor begins as a name does. -/
lemma Legal.exists_first_of_names (h : n.Legal) (hn : n.Names name) :
    ∃ c, name.toList.head? = some c ∧ Identifier.isFirst c := by
  obtain ⟨hl, -⟩ := hn
  exact Identifier.exists_first_accessor_append (h.canBegin hl)

/-- The name of an accessor is legal unless the capital of the property takes marks. -/
lemma Legal.isLegal_of_names_iff (h : n.Legal) (hn : n.Names name) :
    Identifier.isLegal name ↔ ¬ Identifier.takesMark n.property := by
  obtain ⟨hl, he⟩ := hn
  exact Identifier.isLegal_accessor_append_iff (h.canBegin hl) h.property (isPart_of_mem_endings he)

end Naming

namespace Member

variable {t : Template} {m : Member}

/-- The endings of getters' names are among those of accessors. -/
lemma mem_endings_of_getterSuffixes {suffix} (h : suffix ∈ m.getterSuffixes) :
    suffix ∈ Naming.endings := by
  unfold getterSuffixes at h
  unfold Naming.endings
  split at h <;> simp_all
  tauto

/-- The methods that a member gives rise to are named as its accessors. -/
lemma names_of_mem_signatures {s : Signature} (h : s ∈ m.signatures t) :
    (Naming.ofMember t m).Names s.1 := by
  unfold signatures at h
  simp only [List.mem_append, List.mem_map, List.mem_flatMap, List.mem_singleton] at h
  obtain (⟨_, hname, rfl⟩ | ⟨_, hname, suffix, hs, rfl⟩) | rfl := h
  · obtain ⟨lead, hl, rfl⟩ := List.mem_map.1 hname
    exact Naming.names_accessor (by simp [hl])
  · obtain ⟨lead, hl, rfl⟩ := List.mem_map.1 hname
    exact .intro (by simp [hl]) (mem_endings_of_getterSuffixes hs)
  · exact Naming.names_accessor (by simp)

end Member

/-- The methods of a generated type in all scopes. -/
def AccessorType.allMethods (g : AccessorType) : List Method :=
  g.methods ++ g.companion ++ g.assertMethods

/-- The default that the method falls back to. -/
def Body.default? : Body → Option DefaultCall
  | .load _ _ _ (.inlineDefault call) | .load _ _ _ (.orDefault call) => some call
  | _ => none

/-- What falls back to a default is a read. -/
lemma Body.default?_eq_some {body : Body} {call} :
    body.default? = some call ↔ ∃ key s ty fallback, body = .load key s ty fallback ∧
      (fallback = .inlineDefault call ∨ fallback = .orDefault call) := by
  constructor
  · intro h
    unfold default? at h
    split at h
    · cases h
      exact ⟨_, _, _, _, rfl, .inl rfl⟩
    · cases h
      exact ⟨_, _, _, _, rfl, .inr rfl⟩
    · cases h
  · rintro ⟨key, s, ty, fallback, rfl, rfl | rfl⟩ <;> rfl

namespace Template

variable {t : Template} {g : AccessorType} {x : Method}

/-- Besides the instance methods there are the entry points, which wrap a bundle or are those of
setters, and the assertions on the accumulator. -/
lemma mem_allMethods (hg : t.generate = .ok g) (hx : x ∈ g.allMethods) :
    x ∈ g.methods ∨ x = .fromBundle ∨
      (∃ y ∈ g.methods, ∃ key s param, y.body = .store key s param ∧
        x = { y with body := .entry y.name param }) ∨
      ∃ m ∈ t.members, x = { MemberAccessors.assertion (Naming.ofMember t m) with
        body := .assertChain (m.key t) } := by
  unfold AccessorType.allMethods at hx
  rw [List.mem_append, List.mem_append, companion_eq hg, List.mem_cons] at hx
  obtain (hx | rfl | hx) | hx := hx
  · exact .inl hx
  · exact .inr (.inl rfl)
  · obtain ⟨y, hy, he⟩ := List.mem_filterMap.1 hx
    obtain ⟨key, s, param, hb, rfl⟩ := Method.entry?_eq_some.1 he
    exact .inr (.inr (.inl ⟨y, hy, key, s, param, hb, rfl⟩))
  · obtain ⟨m, hm, a, ha, rfl⟩ := (mem_assertMethods_iff hg).1 hx
    obtain ⟨he, hc⟩ := Member.asserts_of_accessors ha
    exact .inr (.inr (.inr ⟨m, hm, by rw [hc, he]⟩))

/-- An instance method is an accessor of a member, or the way out to the bundle. -/
lemma names_of_mem_methods (hg : t.generate = .ok g) (hx : x ∈ g.methods) :
    (∃ m ∈ t.members, (Naming.ofMember t m).Names x.name) ∨ x = .collect := by
  obtain ⟨m, hm, a, ha, hx⟩ | rfl := (mem_methods_iff hg).1 hx
  · have hs : x.signature ∈ m.signatures t := by
      rw [← Member.signature_instanceMethods ha]
      exact List.mem_map_of_mem hx
    exact .inl ⟨m, hm, Member.names_of_mem_signatures hs⟩
  · exact .inr rfl

/-- A method is an accessor of a member, or one of the two that every type has. -/
lemma names_of_mem_allMethods (hg : t.generate = .ok g) (hx : x ∈ g.allMethods) :
    (∃ m ∈ t.members, (Naming.ofMember t m).Names x.name) ∨ x = .collect ∨ x = .fromBundle := by
  obtain hx | rfl | ⟨y, hy, key, s, param, hb, rfl⟩ | ⟨m, hm, rfl⟩ := mem_allMethods hg hx
  · exact (names_of_mem_methods hg hx).imp_right .inl
  · exact .inr (.inr rfl)
  · obtain hn | rfl := names_of_mem_methods hg hy
    · exact .inl hn
    · cases hb
  · exact .inl ⟨m, hm, Naming.names_accessor List.mem_cons_self⟩

/-- A parameter of an instance method bears the name of a property. -/
lemma property_of_mem_params (hg : t.generate = .ok g) (hx : x ∈ g.methods) {p}
    (hp : p ∈ x.params) : ∃ m ∈ t.members, p.name = (Naming.ofMember t m).property := by
  cases provides_of_mem_methods hg hx with
  | setter hm =>
    rw [List.mem_singleton.1 hp]
    exact ⟨_, hm, rfl⟩
  | getter | assertion | collect => cases hp

/-- A parameter bears the name of a property, or it is the bundle that is wrapped. -/
lemma name_of_mem_params (hg : t.generate = .ok g) (hx : x ∈ g.allMethods) {p} (hp : p ∈ x.params) :
    (∃ m ∈ t.members, p.name = (Naming.ofMember t m).property) ∨ p.name = "bundle" := by
  obtain hx | rfl | ⟨y, hy, key, s, param, -, rfl⟩ | ⟨m, hm, rfl⟩ := mem_allMethods hg hx
  · exact .inl (property_of_mem_params hg hx hp)
  · rw [List.mem_singleton.1 hp]
    exact .inr rfl
  · exact .inl (property_of_mem_params hg hy hp)
  · cases hp

/-- A default that a method falls back to is the function of a member. -/
lemma function_of_default? (hg : t.generate = .ok g) (hx : x ∈ g.allMethods) {call}
    (hc : x.body.default? = some call) : ∃ m ∈ t.members, call.function = m.declaredName := by
  obtain hx | rfl | ⟨y, -, key, s, param, -, rfl⟩ | ⟨m, -, rfl⟩ := mem_allMethods hg hx
  · obtain ⟨m, hm, a, ha, hx⟩ | rfl := (mem_methods_iff hg).1 hx
    · obtain (hx | hx) | rfl := MemberAccessors.mem_instanceMethods.1 hx
      · obtain ⟨p, -, rfl⟩ := (Member.mem_setters ha).1 hx
        cases hc
      · obtain ⟨name, nullable, fallback, rfl, hd⟩ := Member.getter_of_mem ha hx
        obtain ⟨_, _, _, _, hb, hf⟩ := Body.default?_eq_some.1 hc
        cases hb
        rw [(Member.defaultCall?_eq_some (hd call hf)).2]
        exact ⟨m, hm, rfl⟩
      · rw [(Member.asserts_of_accessors ha).1] at hc
        cases hc
    · cases hc
  · cases hc
  · cases hc
  · cases hc

end Template

end TypedBundle
