import TypedBundle.Proofs.Accessor.Methods
import TypedBundle.Proofs.Manifest.Outputs
import TypedBundle.Proofs.Text.Capital
import TypedBundle.Proofs.Type.FlatClass

/-!
# Signatures in all scopes

Only the signatures of instance methods are compared when a type is made. Those of the entry points
and of the accumulator's methods differ all the same: an entry point has the signature of its
setter, an assertion on the accumulator has that of the assertion on the instance, and no accessor
can be named like the entry point that wraps a bundle.
-/

namespace TypedBundle

/-- The static entry point of a setter; no other method has one. -/
def Method.entry? (x : Method) : Option Method :=
  match x.body with
  | .store _ _ param => some { x with body := .entry x.name param }
  | _ => none

/-- Only setters have an entry point, under the same signature. -/
lemma Method.entry?_eq_some {x e : Method} :
    x.entry? = some e ↔ ∃ key s param, x.body = .store key s param ∧
      { x with body := .entry x.name param } = e := by
  unfold entry?
  cases x.body <;> simp

/-- Entry points have the signatures of methods, in order. -/
lemma Method.signature_entries_sublist (xs : List Method) :
    ((xs.filterMap entry?).map signature).Sublist (xs.map signature) := by
  induction xs with
  | nil => exact .slnil
  | cons x rest ih =>
    rw [List.filterMap_cons, List.map_cons]
    cases he : x.entry? with
    | none => exact ih.cons _
    | some e =>
      obtain ⟨key, s, param, -, rfl⟩ := entry?_eq_some.1 he
      exact ih.cons_cons _

namespace Member

/-- The entry points of a member are those of its setters. -/
lemma entries_eq {t m a} (h : accessors t m = .ok a) :
    a.entries = a.instanceMethods.filterMap Method.entry? := by
  have hget : a.getters.filterMap Method.entry? = [] := by
    rw [List.filterMap_eq_nil_iff]
    intro x hx
    obtain ⟨name, nullable, fallback, rfl, -⟩ := getter_of_mem h hx
    rfl
  have hassert : a.assert.entry? = none := by
    rw [(asserts_of_accessors h).1]
    rfl
  have hset : a.setters.filterMap Method.entry? = a.entries := by
    obtain ⟨s, d, -, -, rfl⟩ := accessors_eq_ok.1 h
    simp only [MemberAccessors.ofParts]
    generalize (Naming.ofMember t m).setterNames = names
    induction names with
    | nil => rfl
    | cons name rest ih =>
      rw [List.map_cons, List.map_cons, ← ih]
      rfl
  unfold MemberAccessors.instanceMethods
  rw [List.filterMap_append, List.filterMap_append, hget, hset, List.filterMap_cons, hassert]
  simp

/-- The one instance method of a member that asserts is its presence assertion. -/
lemma eq_assert_of_mem {t m a x key} (h : accessors t m = .ok a) (hx : x ∈ a.instanceMethods)
    (hb : x.body = .assert key) : x = a.assert ∧ key = m.key t := by
  obtain (hx | hx) | rfl := MemberAccessors.mem_instanceMethods.1 hx
  · obtain ⟨p, -, rfl⟩ := (mem_setters h).1 hx
    cases hb
  · obtain ⟨name, nullable, fallback, rfl, -⟩ := getter_of_mem h hx
    cases hb
  · refine ⟨rfl, ?_⟩
    rw [(asserts_of_accessors h).1] at hb
    cases hb
    rfl

end Member

namespace Template

/-- The entry points of members are those of their setters. -/
lemma entries_eq {t ms as}
    (h : List.Forall₂ (fun m a => Member.accessors t m = .ok a) ms as) :
    as.flatMap (·.entries) =
      (as.flatMap MemberAccessors.instanceMethods).filterMap Method.entry? := by
  induction h with
  | nil => rfl
  | cons ha _ ih =>
    rw [List.flatMap_cons, List.flatMap_cons, List.filterMap_append, ih, Member.entries_eq ha]

/-- The entry points of a generated type are the one that wraps a bundle and those of the
setters. -/
lemma companion_eq {t : Template} {g} (hg : t.generate = .ok g) :
    g.companion = .fromBundle :: g.methods.filterMap Method.entry? := by
  obtain ⟨-, as, hf, rfl⟩ := generate_eq_ok.1 hg
  have hc : [Method.collect].filterMap Method.entry? = [] := rfl
  simp only [AccessorType.ofAccessors, entries_eq hf, List.filterMap_append, hc, List.append_nil]

/-- With legal names no setter is named like the entry point that wraps a bundle. -/
lemma Legal.setter_name_ne {t : Template} {x key s param} (ht : t.Legal) (hx : t.Provides x)
    (hb : x.body = .store key s param) : x.name ≠ "from" := by
  cases hx with
  | @setter m s p hm _ hp =>
    have hn := ht.naming hm
    -- the capital of the property cannot be one of the small letters after the `f`
    exact Identifier.accessor_ne (Identifier.ne_empty_of_canBegin (hn.setterPrefixes p hp))
      (Identifier.ne_empty_of_canBegin (Identifier.canBegin_of_isLegal hn.property)) (by decide)
  | getter => cases hb
  | assertion => cases hb
  | collect => cases hb

/-- With legal names no entry point of a setter is named like the one that wraps a bundle. -/
lemma Legal.entry_name_ne {t : Template} {g e} (ht : t.Legal) (hg : t.generate = .ok g)
    (he : e ∈ g.methods.filterMap Method.entry?) : e.name ≠ "from" := by
  obtain ⟨x, hx, hxe⟩ := List.mem_filterMap.1 he
  obtain ⟨key, s, param, hb, hn⟩ := Method.entry?_eq_some.1 hxe
  have hne := ht.setter_name_ne (provides_of_mem_methods hg hx) hb
  rwa [← hn]

/-- Assertions on the accumulator have signatures of assertions on an instance, in order. -/
lemma signature_assertChains_sublist {t ms as}
    (h : List.Forall₂ (fun m a => Member.accessors t m = .ok a) ms as) :
    ((as.map (·.assertChain)).map Method.signature).Sublist
      ((as.flatMap MemberAccessors.instanceMethods).map Method.signature) := by
  induction h with
  | nil => exact .slnil
  | @cons m a rest others hm _ ih =>
    have hs : a.assertChain.signature = a.assert.signature := by
      rw [(Member.asserts_of_accessors hm).2]
      rfl
    rw [List.map_cons, List.map_cons, List.flatMap_cons, List.map_append, hs]
    have ha : [a.assert.signature].Sublist (a.instanceMethods.map Method.signature) := by
      simp [MemberAccessors.instanceMethods]
    exact ha.append ih

/-- No two methods of the accumulator share a signature. -/
lemma signature_assertMethods_nodup {t : Template} {g} (hg : t.generate = .ok g) :
    (g.assertMethods.map Method.signature).Nodup := by
  have hn := signature_methods_nodup hg
  obtain ⟨-, as, hf, rfl⟩ := generate_eq_ok.1 hg
  rw [AccessorType.ofAccessors, List.map_append] at hn
  exact hn.of_append_left.sublist (signature_assertChains_sublist hf)

/-- The methods of the accumulator are the chained assertions of the members. -/
lemma mem_assertMethods_iff {t : Template} {g x} (hg : t.generate = .ok g) :
    x ∈ g.assertMethods ↔
      ∃ m ∈ t.members, ∃ a, m.accessors t = .ok a ∧ a.assertChain = x := by
  obtain ⟨-, as, hf, rfl⟩ := generate_eq_ok.1 hg
  simp only [AccessorType.ofAccessors, List.mem_map, mem_accessors_iff hf]
  constructor
  · rintro ⟨a, ⟨m, hm, ha⟩, rfl⟩
    exact ⟨m, hm, a, ha, rfl⟩
  · rintro ⟨m, hm, a, ha, rfl⟩
    exact ⟨a, ⟨m, hm, ha⟩, rfl⟩

/-- The accumulator has the assertion that an instance has, under its name and for its key. -/
lemma assertMethod?_eq {t : Template} {g x key} (hg : t.generate = .ok g) (hx : x ∈ g.methods)
    (hb : x.body = .assert key) :
    g.assertMethod? x.name = some { x with body := .assertChain key } := by
  -- assertions take no arguments, so that those with other signatures have other names
  have hparams : ∀ y ∈ g.assertMethods, y.signature = (y.name, []) := by
    intro y hy
    obtain ⟨m, -, a, ha, rfl⟩ := (mem_assertMethods_iff hg).1 hy
    obtain ⟨he, hc⟩ := Member.asserts_of_accessors ha
    rw [hc, he]
    rfl
  have hnames : (g.assertMethods.map Method.name).Nodup := by
    have hn := signature_assertMethods_nodup hg
    rw [List.map_congr_left hparams] at hn
    exact List.Nodup.of_map (·, ([] : List String)) (by rwa [List.map_map])
  have hmem : { x with body := .assertChain key } ∈ g.assertMethods := by
    obtain ⟨m, hm, a, ha, hx⟩ | rfl := (mem_methods_iff hg).1 hx
    · obtain ⟨rfl, rfl⟩ := Member.eq_assert_of_mem ha hx hb
      exact (mem_assertMethods_iff hg).2 ⟨m, hm, a, ha, (Member.asserts_of_accessors ha).2⟩
    · cases hb
  exact List.find?_eq_some_of_nodup hnames hmem

end Template

/-- In all three scopes of an output no two methods share a signature. Its entry points are the one
that wraps a bundle and those of the setters, which bear other names, and each of its assertions has
a counterpart on the accumulator. -/
theorem Manifest.output_signatures_nodup {m : Manifest} {g} (h : g ∈ m.generate.outputs) :
    (g.methods.map Method.signature).Nodup ∧
      (g.companion.map Method.signature).Nodup ∧
      (g.assertMethods.map Method.signature).Nodup ∧
      g.companion = .fromBundle :: g.methods.filterMap Method.entry? ∧
      (∀ e ∈ g.methods.filterMap Method.entry?, e.name ≠ "from") ∧
      ∀ x ∈ g.methods, ∀ key, x.body = .assert key →
        g.assertMethod? x.name = some { x with body := .assertChain key } := by
  obtain ⟨t, ht, hg⟩ := exists_template_of_mem_outputs h
  have hn := Template.signature_methods_nodup hg
  have hc := Template.companion_eq hg
  refine ⟨hn, ?_, Template.signature_assertMethods_nodup hg, hc, ?_, ?_⟩
  · rw [hc, List.map_cons, List.nodup_cons]
    constructor
    · intro hm
      obtain ⟨e, he, hs⟩ := List.mem_map.1 hm
      exact ht.entry_name_ne hg he (congrArg Prod.fst hs)
    · exact hn.sublist (Method.signature_entries_sublist g.methods)
  · intro e he
    exact ht.entry_name_ne hg he
  · intro x hx key hb
    exact Template.assertMethod?_eq hg hx hb

namespace Bags

/-- A template of two members whose setters share a name. -/
def declared : TemplateDecl where
  className := "com.example.BagInfo"
  annotation := some { name := "Bags" }
  functions := [
    { name := "aBag", returns := "Int", item := some {} },
    { name := "bag", returns := "String", item := some { setters := ["withA"] } }]

/-- The manifest that declares the template. -/
def manifest : Manifest where
  templates := [declared]

/-- The member that holds a number. -/
def number : Member where
  declaredName := "aBag"
  declaredType :=
    { name := "kotlin.Int", supertypes := ⟨["java.io.Serializable", "kotlin.Comparable"]⟩ }

/-- The member that holds a text. -/
def text : Member where
  declaredName := "bag"
  declaredType :=
    { name := "kotlin.String",
      supertypes := ⟨["java.io.Serializable", "kotlin.CharSequence", "kotlin.Comparable"]⟩ }
  setterPrefixes := ["withA"]

/-- The template with its types resolved. -/
def template : Template where
  className := "com.example.BagInfo"
  outputName := "Bags"
  members := [number, text]

/-- The type of the template. -/
def type : AccessorType :=
  .ofAccessors template [
    .ofParts number (.ofMember template number) (.direct .int) none,
    .ofParts text (.ofMember template text) (.direct .string) none]

/-- The class of numbers, as the platform has it. -/
def numberClass : ClassInfo where
  name := "kotlin.Int"
  interfaces := ["kotlin.Comparable", "java.io.Serializable"]

/-- The class of texts, as the platform has it. -/
def textClass : ClassInfo where
  name := "kotlin.String"
  interfaces := ["kotlin.CharSequence", "kotlin.Comparable", "java.io.Serializable"]

/-- The two classes are known, and the name of the type is free. -/
lemma classTable_manifest :
    (manifest.classTable.HasFlat "Int" numberClass ∧
      manifest.classTable.HasFlat "String" textClass) ∧
    manifest.nameError? [] template = none := by
  -- the class table is long, so one evaluation serves all parts
  decide +kernel

/-- The type of the number is as declared. -/
lemma describe_number : manifest.classTable.describeText "Int" = .ok number.declaredType :=
  ClassTable.describeText_eq_ok (by cbv) classTable_manifest.1.1 rfl rfl

/-- The type of the text is as declared. -/
lemma describe_text : manifest.classTable.describeText "String" = .ok text.declaredType :=
  ClassTable.describeText_eq_ok (by cbv) classTable_manifest.1.2 rfl rfl

/-- The function of the number declares its member. -/
lemma resolve_number :
    declared.functions[0].resolve manifest.classTable declared.className {} = .ok number := by
  have hl : Identifier.isLegal "aBag" := by decide +kernel
  unfold FunctionDecl.resolve
  simp only [declared, List.getElem_cons_zero, describe_number, hl]
  rfl

/-- The function of the text declares its member. -/
lemma resolve_text :
    declared.functions[1].resolve manifest.classTable declared.className { setters := ["withA"] } =
      .ok text := by
  have hl : Identifier.isLegal "bag" := by decide +kernel
  have hp : ["withA"].find? (!Identifier.canBegin ·) = none := by decide +kernel
  unfold FunctionDecl.resolve FunctionDecl.checkPrefixes
  simp only [declared, List.getElem_cons_succ, List.getElem_cons_zero, describe_text, hl, hp]
  rfl

/-- The template as declared resolves. -/
lemma resolve_declared : declared.resolve manifest.classTable = .ok template := by
  have ha : declared.checkedAnnotation = .ok { name := "Bags" } :=
    Except.eq_ok_of_toOption (by decide +kernel)
  have hm : TemplateDecl.resolveMembers manifest.classTable declared.className declared.functions =
      .ok [number, text] := by
    have hn := resolve_number
    have ht := resolve_text
    simp only [declared, List.getElem_cons_succ, List.getElem_cons_zero] at hn ht
    simp only [declared, TemplateDecl.resolveMembers, hn, ht]
    rfl
  unfold TemplateDecl.resolve
  rw [ha, hm]
  rfl

/-- The type of the template is generated. -/
lemma generate_template : template.generate = .ok type := by
  rw [Template.generate_eq_ok]
  refine ⟨⟨⟨by decide +kernel, ?_, ?_⟩, by decide +kernel⟩, _, .cons ?_ (.cons ?_ .nil), rfl⟩
  · unfold Member.IsStorable
    decide +kernel
  · unfold Member.IsReachable
    decide
  · exact Member.accessors_eq_ok.2 ⟨.direct .int, none, by decide +kernel, rfl, rfl⟩
  · exact Member.accessors_eq_ok.2 ⟨.direct .string, none, by decide +kernel, rfl, rfl⟩

/-- The manifest puts the type out. -/
lemma outputs_manifest : manifest.generate.outputs = [type] :=
  Manifest.outputs_of_single rfl resolve_declared classTable_manifest.2 generate_template

/-- The type is an output. -/
lemma mem_outputs : type ∈ manifest.generate.outputs := by
  rw [outputs_manifest]
  exact List.mem_singleton_self _

end Bags

/-- The two setters of one name differ in their signatures, and so do their entry points. -/
theorem Bags.signatures_nodup :
    Bags.type ∈ Bags.manifest.generate.outputs ∧
      (Bags.type.methods.map Method.signature).Nodup ∧
      (Bags.type.companion.map Method.signature).Nodup ∧
      (Bags.type.assertMethods.map Method.signature).Nodup := by
  obtain ⟨hm, hc, ha, -⟩ := Manifest.output_signatures_nodup Bags.mem_outputs
  exact ⟨Bags.mem_outputs, hm, hc, ha⟩

end TypedBundle
