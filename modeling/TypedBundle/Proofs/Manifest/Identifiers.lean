import TypedBundle.Proofs.Accessor.Names

/-!
# Identifiers in outputs

Whether the names in a generated type are legal. Those of parameters and of default bodies are, and
no method is named by a keyword. The name of an accessor is legal unless the capital of its property
takes combining marks (`Manifest.names_legal_iff`), and there are properties whose capital does
(`Jots.not_isLegal`).
-/

namespace TypedBundle

namespace Template.Legal

variable {t : Template} {g : AccessorType} {x : Method} (ht : t.Legal) (hg : t.generate = .ok g)

include ht hg

/-- The parameters of the methods of a resolved template have legal names. -/
lemma isLegal_param (hx : x ∈ g.allMethods) {p} (hp : p ∈ x.params) :
    Identifier.isLegal p.name := by
  have hbundle : Identifier.isLegal "bundle" := by decide
  obtain ⟨m, hm, e⟩ | e := name_of_mem_params hg hx hp
  · rw [e]
    exact (ht.naming hm).property
  · rwa [e]

/-- So have the functions that yield its defaults. -/
lemma isLegal_function (hx : x ∈ g.allMethods) {call} (hc : x.body.default? = some call) :
    Identifier.isLegal call.function := by
  obtain ⟨m, hm, e⟩ := function_of_default? hg hx hc
  rw [e]
  exact (ht.members m hm).declaredName

/-- A method has no keyword for its name, and the name begins as names do. -/
lemma name_not_mem_keywords (hx : x ∈ g.allMethods) :
    x.name ∉ Identifier.keywords ∧
      ∃ c, x.name.toList.head? = some c ∧ Identifier.isFirst c := by
  have hcollect : Identifier.isFirst 'c' := by decide
  have hfrom : Identifier.isFirst 'f' := by decide
  obtain ⟨m, hm, hn⟩ | rfl | rfl := names_of_mem_allMethods hg hx
  · have hl := ht.naming hm
    refine ⟨?_, hl.exists_first_of_names hn⟩
    intro hk
    exact hl.ne_of_names hn (Identifier.isSmallLatin_of_keywords _ hk) rfl
  · exact ⟨by decide, 'c', rfl, hcollect⟩
  · exact ⟨by decide, 'f', rfl, hfrom⟩

/-- The name of a method is legal unless it is that of an accessor whose capital takes marks. -/
lemma isLegal_name_iff (hx : x ∈ g.allMethods) :
    Identifier.isLegal x.name ↔ ∀ m ∈ t.members, (Naming.ofMember t m).Names x.name →
      ¬ Identifier.takesMark (Naming.ofMember t m).property := by
  constructor
  · intro h m hm hn
    exact ((ht.naming hm).isLegal_of_names_iff hn).1 h
  · intro h
    have hcollect : Identifier.isLegal "collect" := by decide
    have hfrom : Identifier.isLegal "from" := by decide
    obtain ⟨m, hm, hn⟩ | rfl | rfl := names_of_mem_allMethods hg hx
    · exact ((ht.naming hm).isLegal_of_names_iff hn).2 (h m hm hn)
    · exact hcollect
    · exact hfrom

/-- All methods have legal names unless the capital of some property takes marks. -/
lemma forall_isLegal_name_iff :
    (∀ x ∈ g.allMethods, Identifier.isLegal x.name) ↔
      ∀ m ∈ t.members, ¬ Identifier.takesMark (Naming.ofMember t m).property := by
  constructor
  · intro h m hm
    -- the presence assertion bears the property in its name
    have hx := assertion_mem_methods hg hm
    have hl := h _ (List.mem_append_left _ (List.mem_append_left _ hx))
    exact ((ht.naming hm).isLegal_of_names_iff (Naming.names_accessor List.mem_cons_self)).1 hl
  · intro h x hx
    exact (ht.isLegal_name_iff hg hx).2 fun m hm _ => h m hm

end Template.Legal

/-- In an output the names of parameters and default bodies are legal. No method has a keyword for
its name, and every name begins as names do. The name of a method is legal unless it is that of an
accessor whose property has a capital that takes marks, so all names are legal exactly if there is
no such property. -/
theorem Manifest.names_legal_iff {m : Manifest} {g} (h : g ∈ m.generate.outputs) :
    (∀ x ∈ g.allMethods,
      (∀ p ∈ x.params, Identifier.isLegal p.name) ∧
      (∀ call, x.body.default? = some call → Identifier.isLegal call.function) ∧
      x.name ∉ Identifier.keywords ∧
      ∃ c, x.name.toList.head? = some c ∧ Identifier.isFirst c) ∧
    ∃ d ∈ m.templates, ∃ t, d.resolve m.classTable = .ok t ∧ t.generate = .ok g ∧
      (∀ x ∈ g.allMethods,
        Identifier.isLegal x.name ↔ ∀ member ∈ t.members,
          (Naming.ofMember t member).Names x.name →
            ¬ Identifier.takesMark (Naming.ofMember t member).property) ∧
      ((∀ x ∈ g.allMethods, Identifier.isLegal x.name) ↔
        ∀ member ∈ t.members, ¬ Identifier.takesMark (Naming.ofMember t member).property) := by
  obtain ⟨d, hd, claimed, ho⟩ := exists_outcome_of_mem_outputs h
  obtain ⟨t, hr, hg⟩ := exists_template_of_outcome ho
  have ht : t.Legal := TemplateDecl.resolve_legal hr
  refine ⟨?_, d, hd, t, hr, hg, ?_, ht.forall_isLegal_name_iff hg⟩
  · intro x hx
    exact ⟨fun p hp => ht.isLegal_param hg hx hp, fun call hc => ht.isLegal_function hg hx hc,
      ht.name_not_mem_keywords hg hx⟩
  · intro x hx
    exact ht.isLegal_name_iff hg hx

/-- Among the two setters of one name, neither name is a keyword, and the parameters have legal
names. -/
theorem Bags.isLegal_params :
    Bags.type ∈ Bags.manifest.generate.outputs ∧
      ∀ x ∈ Bags.type.allMethods, x.name ∉ Identifier.keywords ∧
        ∀ p ∈ x.params, Identifier.isLegal p.name := by
  refine ⟨Bags.mem_outputs, fun x hx => ?_⟩
  obtain ⟨hp, -, hk, -⟩ := (Manifest.names_legal_iff Bags.mem_outputs).1 x hx
  exact ⟨hk, hp⟩

namespace Jots

/-- A template whose member has a capital with a mark. -/
def declared : TemplateDecl where
  className := "com.example.JotInfo"
  annotation := some { name := "Jots" }
  functions := [{ name := "ǰ", returns := "Int", item := some {} }]

/-- The manifest that declares the template. -/
def manifest : Manifest where
  templates := [declared]

/-- The member. -/
def member : Member where
  declaredName := "ǰ"
  declaredType := Bags.number.declaredType

/-- The template with its types resolved. -/
def template : Template where
  className := "com.example.JotInfo"
  outputName := "Jots"
  members := [member]

/-- The accessors of the member. -/
def accessors : MemberAccessors :=
  .ofParts member (.ofMember template member) (.direct .int) none

/-- The type of the template. -/
def type : AccessorType := .ofAccessors template [accessors]

/-- The name of the type is free. -/
lemma nameError?_template : manifest.nameError? [] template = none := by
  decide +kernel

/-- The function declares the member. -/
lemma resolve_member :
    declared.functions[0].resolve manifest.classTable declared.className {} = .ok member := by
  have hl : Identifier.isLegal "ǰ" := by decide
  have hd : manifest.classTable.describeText "Int" = .ok member.declaredType := Bags.describe_number
  unfold FunctionDecl.resolve
  simp only [declared, List.getElem_cons_zero, hd, hl]
  rfl

/-- The template as declared resolves. -/
lemma resolve_declared : declared.resolve manifest.classTable = .ok template := by
  have ha : declared.checkedAnnotation = .ok { name := "Jots" } :=
    Except.eq_ok_of_toOption (by decide)
  have hm : TemplateDecl.resolveMembers manifest.classTable declared.className declared.functions =
      .ok [member] := by
    have hm := resolve_member
    simp only [declared, List.getElem_cons_zero] at hm
    simp only [declared, TemplateDecl.resolveMembers, hm]
    rfl
  unfold TemplateDecl.resolve
  rw [ha, hm]
  rfl

/-- The type of the template is generated. -/
lemma generate_template : template.generate = .ok type := by
  rw [Template.generate_eq_ok]
  refine ⟨⟨⟨List.nodup_singleton _, ?_, ?_⟩, by decide⟩, _, .cons ?_ .nil, rfl⟩
  · unfold Member.IsStorable
    decide
  · unfold Member.IsReachable
    decide
  · exact Member.accessors_eq_ok.2 ⟨.direct .int, none, by decide, rfl, rfl⟩

end Jots

/-- The setter of `ǰ` has no legal name: the capital is `J` with a combining caron. -/
theorem Jots.not_isLegal :
    Jots.type ∈ Jots.manifest.generate.outputs ∧
      ¬ ∀ x ∈ Jots.type.allMethods, Identifier.isLegal x.name := by
  constructor
  · rw [Manifest.outputs_of_single rfl Jots.resolve_declared Jots.nameError?_template
      Jots.generate_template]
    exact List.mem_singleton_self _
  · decide

end TypedBundle
