import TypedBundle.Proofs.Instance.Step
import TypedBundle.Proofs.Kotlin.References
import TypedBundle.Proofs.Manifest.Outcomes
import TypedBundle.Proofs.Manifest.Scopes

/-!
# What the names in a file stand for

A file imports some of the classes that it names, and looks the others up among those that it sees:
`Manifest.scope`. A name without dots stands for the class that is meant exactly if no class in its
way shares its simple name. The import table keeps the classes that it registers apart from imports;
the type itself, the owner of its default bodies, its nested classes and the classes of the
language's library are written by their simple names whatever the table holds.
-/

namespace TypedBundle

/-- The class is one of the platform's. -/
def Platform.IsClass (name : String) : Prop := ∃ c ∈ classes, c.name = name

instance (name : String) : Decidable (Platform.IsClass name) :=
  inferInstanceAs (Decidable (∃ c ∈ Platform.classes, c.name = name))

/-- The types of kinds name classes of the platform. -/
lemma Kind.isClass_of_mem_names (kind : Kind) :
    ∀ n ∈ kind.descriptor.names, Platform.IsClass n := by
  -- the platform's classes are many, so one evaluation serves all kinds
  have h : ∀ kind ∈ all, ∀ n ∈ kind.descriptor.names, Platform.IsClass n := by decide +kernel
  have hk : kind ∈ all := by cases kind <;> simp [all]
  exact h kind hk

/-- Helpers name classes of the platform. -/
lemma Kotlin.isClass_of_mem_classNames (helper : Helper) :
    ∀ n ∈ classNames helper, Platform.IsClass n := by
  have hp : ∀ n ∈ [Platform.parcelable], Platform.IsClass n := by decide +kernel
  have hs : ∀ n ∈ [Platform.serializable], Platform.IsClass n := by decide +kernel
  rcases helper with (kind | _ | _ | _ | _) | (kind | _ | _ | _ | _) | kind
  · exact kind.isClass_of_mem_names
  · exact hp
  · nofun
  · exact hp
  · exact hs
  · exact kind.isClass_of_mem_names
  · exact hp
  · nofun
  · exact hp
  · exact hs
  · exact kind.isClass_of_mem_names

/-- The type of a member that a function declares names known classes. -/
lemma FunctionDecl.isSome_of_resolve {classes : ClassTable} {template f item m}
    (h : FunctionDecl.resolve classes template f item = .ok m) :
    ∀ n ∈ m.declaredType.names, (classes.find? n).isSome := by
  unfold resolve at h
  simp only [Except.bind_eq_ok] at h
  obtain ⟨-, -, -, -, -, -, -, -, -, -, h⟩ := h
  split at h
  · cases h
  · next hd =>
    cases h
    exact ClassTable.isSome_of_describeText hd

/-- The types of a resolved template's members name known classes. -/
lemma TemplateDecl.isSome_of_resolve {classes : ClassTable} {d t} (h : resolve classes d = .ok t) :
    ∀ m ∈ t.members, ∀ n ∈ m.declaredType.names, (classes.find? n).isSome := by
  intro m hm
  obtain ⟨f, -, item, -, hf⟩ := of_mem_members h hm
  exact FunctionDecl.isSome_of_resolve hf

namespace Template

variable {t : Template} {g : AccessorType} {x : Method}

/-- The signature of an instance method has the types of members, and what the method reads is of
one of these. -/
lemma Provides.type_of_mem (h : t.Provides x) :
    (∀ ty ∈ Kotlin.signatureTypes x, ∃ m ∈ t.members, m.declaredType = ty) ∧
      ∀ key s ty fallback, x.body = .load key s ty fallback → ty ∈ Kotlin.signatureTypes x := by
  cases h with
  | @setter m s p hm =>
    constructor
    · intro ty hty
      change ty ∈ [m.declaredType] at hty
      exact ⟨m, hm, (List.mem_singleton.1 hty).symm⟩
    · intro key s ty fallback hb
      cases hb
  | @getter m s name nullable fallback hm =>
    constructor
    · intro ty hty
      change ty ∈ [m.declaredType] at hty
      exact ⟨m, hm, (List.mem_singleton.1 hty).symm⟩
    · intro key s ty fallback hb
      cases hb
      exact List.mem_singleton_self m.declaredType
  | assertion =>
    constructor
    · intro ty hty
      cases hty
    · intro key s ty fallback hb
      cases hb
  | collect =>
    constructor
    · intro ty hty
      cases hty
    · intro key s ty fallback hb
      cases hb

/-- The default that a getter falls back to is one of the template's. -/
lemma owner_of_mem_methods (hg : t.generate = .ok g) (hx : x ∈ g.methods)
    {key s ty fallback call} (hb : x.body = .load key s ty fallback)
    (hc : fallback = .inlineDefault call ∨ fallback = .orDefault call) :
    call.owner = Name.simple g.template := by
  rw [(names_of_generate hg).2]
  obtain ⟨m, hm, a, ha, hx⟩ | rfl := (mem_methods_iff hg).1 hx
  · obtain (hx | hx) | rfl := MemberAccessors.mem_instanceMethods.1 hx
    · obtain ⟨p, -, rfl⟩ := (Member.mem_setters ha).1 hx
      cases hb
    · obtain ⟨name, nullable, fallback, rfl, hd⟩ := Member.getter_of_mem ha hx
      cases hb
      rw [(Member.defaultCall?_eq_some (hd call hc)).2]
      rfl
    · rw [(Member.asserts_of_accessors ha).1] at hb
      cases hb
  · cases hb

/-- The methods of the accumulator have no types in their signatures. -/
lemma signatureTypes_assertMethods (hg : t.generate = .ok g) (hx : x ∈ g.assertMethods) :
    Kotlin.signatureTypes x = [] := by
  obtain ⟨m, -, a, ha, rfl⟩ := (mem_assertMethods_iff hg).1 hx
  obtain ⟨he, hc⟩ := Member.asserts_of_accessors ha
  rw [hc, he]
  rfl

/-- The signature of an entry point has the types of members, or it is that of the container. -/
lemma type_of_mem_companion (hg : t.generate = .ok g) (hx : x ∈ g.companion) :
    ∀ ty ∈ Kotlin.signatureTypes x,
      (∃ m ∈ t.members, m.declaredType = ty) ∨ ty = .named Platform.bundle := by
  intro ty hty
  rw [companion_eq hg, List.mem_cons] at hx
  obtain rfl | hx := hx
  · change ty ∈ [.named Platform.bundle] at hty
    exact .inr (List.mem_singleton.1 hty)
  · obtain ⟨y, hy, he⟩ := List.mem_filterMap.1 hx
    obtain ⟨key, s, param, -, rfl⟩ := Method.entry?_eq_some.1 he
    exact .inl ((provides_of_mem_methods hg hy).type_of_mem.1 ty hty)

end Template

namespace Kotlin

variable {t : Template} {g : AccessorType}

/-- The types of signatures are mentioned. -/
lemma mem_mentioned_of_signatureTypes {x} (hx : x ∈ g.methods ++ g.companion) :
    ∀ ty ∈ signatureTypes x, ∀ n ∈ ty.names, n ∈ mentioned g := by
  intro ty hty n hn
  refine List.mem_cons_of_mem _ (List.mem_append_left _ (List.mem_flatMap.2 ⟨ty, ?_, hn⟩))
  exact List.mem_flatMap.2 ⟨x, hx, hty⟩

/-- The file of a generated type names nothing else than it mentions. -/
lemma mentions_of_generate (hg : t.generate = .ok g) {i config} :
    ∀ r ∈ Code.refsAll (AccessorFile.file g i config), Mentions g i r := by
  have hm : ∀ x ∈ g.methods, Closed g x := by
    intro x hx
    constructor
    · exact mem_mentioned_of_signatureTypes (List.mem_append_left _ hx)
    · exact (Template.provides_of_mem_methods hg hx).type_of_mem.2
    · intro key s ty fallback call hb hc
      exact Template.owner_of_mem_methods hg hx hb hc
  refine AccessorFile.mentions_file hm
    (fun x hx => mem_mentioned_of_signatureTypes (List.mem_append_right _ hx)) ?_
  intro x hx ty hty
  rw [Template.signatureTypes_assertMethods hg hx] at hty
  cases hty

/-- The classes that the file of a generated type mentions are those of the types of members, and
classes of the platform. -/
lemma of_mem_mentioned (hg : t.generate = .ok g) {n} (hn : n ∈ mentioned g) :
    (∃ m ∈ t.members, n ∈ m.declaredType.names) ∨ Platform.IsClass n := by
  have hb : Platform.IsClass Platform.bundle := by decide +kernel
  unfold mentioned at hn
  simp only [List.mem_cons, List.mem_append, List.mem_flatMap] at hn
  obtain rfl | ⟨ty, ⟨x, hx, hty⟩, hn⟩ | ⟨helper, -, hn⟩ := hn
  · exact .inr hb
  · obtain hx | hx := hx
    · obtain ⟨m, hm, rfl⟩ := (Template.provides_of_mem_methods hg hx).type_of_mem.1 ty hty
      exact .inl ⟨m, hm, hn⟩
    · obtain ⟨m, hm, rfl⟩ | rfl := Template.type_of_mem_companion hg hx ty hty
      · exact .inl ⟨m, hm, hn⟩
      · obtain rfl : n = Platform.bundle := by
          simpa [TypeDescriptor.named, TypeDescriptor.names, TypeDescriptor.namesAll] using hn
        exact .inr hb
  · exact .inr (isClass_of_mem_classNames helper n hn)

end Kotlin

namespace Manifest

variable {m : Manifest} {library : List String} {g : AccessorType}

/-- The classes that a file could name: the platform's, those of the manifest, the templates, the
generated types, and those of the language's library. -/
def nameable (m : Manifest) (library : List String) : List String :=
  Platform.classes.map (·.name) ++ m.classes.map (·.name) ++ m.templates.map (·.className) ++
    m.generate.outputs.map AccessorType.qualifiedName ++ library

/-- Where the file of a type looks a simple name up: among the nested classes, the imports, the
classes of its own package, and those of the packages that every file sees. -/
def scope (m : Manifest) (library : List String) (g : AccessorType) : List (List String) :=
  [Kotlin.nestedNames.map (Name.qualified g.qualifiedName),
   (Kotlin.importsOf g).imported,
   (m.nameable library).filter (Name.package · = g.package),
   (m.nameable library).filter (Name.package · ∈ Kotlin.implicitPackages)]

/-- The classes that the file of a type mentions, and those that it could look up. -/
def candidates (m : Manifest) (library : List String) (g : AccessorType) : List String :=
  Kotlin.mentioned g ++ (m.scope library g).flatten

/-- No two of the classes that the file mentions or could look up share a simple name. -/
def Distinguishes (m : Manifest) (library : List String) (g : AccessorType) : Prop :=
  ∀ c ∈ m.candidates library g, ∀ d ∈ m.candidates library g,
    Name.simple c = Name.simple d → c = d

/-- A candidate is mentioned, or it stands in the scope. -/
lemma mem_candidates {n} :
    n ∈ m.candidates library g ↔
      n ∈ Kotlin.mentioned g ∨ ∃ tier ∈ m.scope library g, n ∈ tier := by
  rw [candidates, List.mem_append, List.mem_flatten]

/-- A class of the package of a type is in the scope of its file. -/
lemma exists_scope_of_package {n} (hn : n ∈ m.nameable library) (hp : Name.package n = g.package) :
    ∃ tier ∈ m.scope library g, n ∈ tier :=
  ⟨(m.nameable library).filter (Name.package · = g.package), by simp [scope],
    List.mem_filter.2 ⟨hn, by simpa using hp⟩⟩

/-- A class of a package that every file sees is in the scope of the file. -/
lemma exists_scope_of_implicit {n} (hn : n ∈ m.nameable library)
    (hp : Name.package n ∈ Kotlin.implicitPackages) : ∃ tier ∈ m.scope library g, n ∈ tier :=
  ⟨(m.nameable library).filter (Name.package · ∈ Kotlin.implicitPackages), by simp [scope],
    List.mem_filter.2 ⟨hn, by simpa using hp⟩⟩

/-- An output comes from a template of the manifest that resolves. -/
lemma template_of_mem_outputs (hg : g ∈ m.generate.outputs) :
    ∃ d ∈ m.templates, ∃ t, d.resolve m.classTable = .ok t ∧ t.generate = .ok g ∧
      g.template = d.className := by
  obtain ⟨d, hd, claimed, ho⟩ := exists_outcome_of_mem_outputs hg
  obtain ⟨t, ht, hgen⟩ := exists_template_of_outcome ho
  rw [(Template.names_of_generate hgen).2, TemplateDecl.className_of_resolve ht]
  exact ⟨d, hd, t, ht, hgen, rfl⟩

/-- A class that a file mentions is known. -/
lemma mem_nameable_of_mentioned (hg : g ∈ m.generate.outputs) {n} (hn : n ∈ Kotlin.mentioned g) :
    n ∈ m.nameable library := by
  obtain ⟨d, -, t, ht, hgen, -⟩ := template_of_mem_outputs hg
  have hs : (m.classTable.find? n).isSome := by
    obtain ⟨mem, hm, hn⟩ | hc := Kotlin.of_mem_mentioned hgen hn
    · exact TemplateDecl.isSome_of_resolve ht mem hm n hn
    · exact isSome_find?_classTable.2 (.inr hc)
  have hk := isSome_find?_classTable.1 hs
  simp only [nameable, List.mem_append, List.mem_map]
  exact .inl (.inl (.inl hk.symm))

/-- A registered class that is written without dots is in reach: the owner of its simple name is
seen by the file. -/
lemma inReach_of_mentioned (hg : g ∈ m.generate.outputs) {n} (hn : n ∈ Kotlin.mentioned g) :
    Kotlin.InReach (m.scope library g) n := by
  obtain ⟨hc, hp⟩ := Kotlin.covers_importsOf g
  obtain ⟨owner, hm, ho, hs, -⟩ := hc.className_cases hn
  have hk : owner ∈ m.nameable library := mem_nameable_of_mentioned hg hm
  have ht : ∃ tier ∈ m.scope library g, owner ∈ tier := by
    by_cases hv : (Kotlin.importsOf g).isVisible owner
    · unfold Kotlin.Imports.isVisible at hv
      rw [hp, Bool.or_eq_true, beq_iff_eq, List.contains_iff_mem] at hv
      obtain hv | hv := hv
      · exact exists_scope_of_package hk hv
      · exact exists_scope_of_implicit hk hv
    · rw [← hs] at ho
      exact ⟨_, by simp [scope], hc.mem_imported_iff.2 ⟨ho, hv⟩⟩
  obtain ⟨tier, ht, hm⟩ := ht
  exact .of_simple_eq ht hm hs

/-- A registered class that shares its simple name with an import is written in full. -/
lemma className_of_imported {n d} (hn : n ∈ Kotlin.mentioned g)
    (hd : d ∈ (Kotlin.importsOf g).imported) (hne : d ≠ n) (hs : Name.simple d = Name.simple n) :
    (Kotlin.importsOf g).className n = n := by
  obtain ⟨hc, -⟩ := Kotlin.covers_importsOf g
  obtain ⟨owner, -, ho, -, hw⟩ := hc.className_cases hn
  obtain ⟨hf, -⟩ := hc.mem_imported_iff.1 hd
  rw [hs, ho] at hf
  cases hf
  rw [hw, if_neg hne]

/-- Only a nested class can hide an import. -/
lemma nested_of_hides {n d} (hn : n ∈ (Kotlin.importsOf g).imported)
    (h : Kotlin.Hides (m.scope library g) d n) :
    d ∈ Kotlin.nestedNames.map (Name.qualified g.qualifiedName) := by
  obtain ⟨hc, -⟩ := Kotlin.covers_importsOf g
  cases h with
  | here hd => exact hd
  | there _ h =>
    cases h with
    | here hd hne hs =>
      -- both own the simple name that they share
      have hon := (hc.mem_imported_iff.1 hn).1
      have hod := (hc.mem_imported_iff.1 hd).1
      rw [hs, hon] at hod
      exact (hne (Option.some.inj hod).symm).elim
    | there hnot => exact (hnot hn).elim

/-- A class that a file names is written in full or by its simple name. It is mentioned, or it
stands in the scope of the file. -/
lemma written_of_mentions (hg : g ∈ m.generate.outputs)
    (hl : ∀ n ∈ Kotlin.libraryNames, n ∈ library)
    {r} (h : Kotlin.Mentions g (Kotlin.importsOf g) r) :
    (r.written = r.meant ∨ r.written = Name.simple r.meant) ∧
      (r.meant ∈ Kotlin.mentioned g ∨ ∃ tier ∈ m.scope library g, r.meant ∈ tier) := by
  obtain ⟨decl, hdecl, t, ht, hgen, htemplate⟩ := template_of_mem_outputs hg
  obtain ⟨hc, -⟩ := Kotlin.covers_importsOf g
  cases h with
  | @registered n hn =>
    obtain ⟨owner, -, -, -, hw⟩ := hc.className_cases hn
    refine ⟨?_, .inl hn⟩
    rw [hw]
    split
    · exact .inr rfl
    · exact .inl rfl
  | self =>
    obtain ⟨hs, hp⟩ := Name.simple_package_qualified (p := g.package)
      (Identifier.not_mem_of_isLegal (isLegal_name_of_mem_outputs hg)).1
    have hk : g.qualifiedName ∈ m.nameable library := by
      simp only [nameable, List.mem_append, List.mem_map]
      exact .inl (.inr ⟨g, hg, rfl⟩)
    exact ⟨.inr hs.symm, .inr (exists_scope_of_package hk hp)⟩
  | owner =>
    have hk : g.template ∈ m.nameable library := by
      simp only [nameable, List.mem_append, List.mem_map]
      exact .inl (.inl (.inr ⟨decl, hdecl, htemplate.symm⟩))
    have hp : Name.package g.template = g.package := by
      obtain ⟨-, as, -, rfl⟩ := Template.generate_eq_ok.1 hgen
      rfl
    exact ⟨.inr rfl, .inr (exists_scope_of_package hk hp)⟩
  | @nested n hn =>
    have hd : ∀ n ∈ Kotlin.nestedNames, '.' ∉ n.toList := by decide
    obtain ⟨hs, -⟩ := Name.simple_package_qualified (p := g.qualifiedName) (hd n hn)
    exact ⟨.inr hs.symm, .inr ⟨_, List.mem_cons_self, List.mem_map_of_mem hn⟩⟩
  | @library n hn =>
    have hp : ∀ n ∈ Kotlin.libraryNames, Name.package n ∈ Kotlin.implicitPackages := by
      decide +kernel
    have hk : n ∈ m.nameable library := List.mem_append_right _ (hl n hn)
    exact ⟨.inr rfl, .inr (exists_scope_of_implicit hk (hp n hn))⟩

/-- The file of a generated type names the classes that it registers, the type itself, the owner of
its default bodies, its nested classes and classes of the library. A name with dots stands for the
class that is meant, and a name without dots does so exactly if no other class hides that. So all
names stand for what is meant, if no two of the classes that the file mentions or could look up
share a simple name. The import table keeps registered classes apart: one that shares its simple
name with an import is written in full, and only a nested class can hide an import. -/
theorem references_denote (hg : g ∈ m.generate.outputs)
    (hl : ∀ n ∈ Kotlin.libraryNames, n ∈ library) :
    (∀ config, ∀ r ∈ Kotlin.Code.refsAll (Kotlin.AccessorFile.file g (Kotlin.importsOf g) config),
      Kotlin.Mentions g (Kotlin.importsOf g) r ∧
        (Kotlin.denoted? (m.scope library g) r.written = some r.meant ↔
          '.' ∈ r.written.toList ∨ ∀ d, ¬ Kotlin.Hides (m.scope library g) d r.meant)) ∧
    (m.Distinguishes library g →
      ∀ config, ∀ r ∈ Kotlin.Code.refsAll (Kotlin.AccessorFile.file g (Kotlin.importsOf g) config),
        Kotlin.denoted? (m.scope library g) r.written = some r.meant) ∧
    (∀ n ∈ Kotlin.mentioned g, ∀ d ∈ (Kotlin.importsOf g).imported, d ≠ n →
      Name.simple d = Name.simple n → (Kotlin.importsOf g).className n = n) ∧
    ∀ n ∈ (Kotlin.importsOf g).imported, ∀ d, Kotlin.Hides (m.scope library g) d n →
      d ∈ Kotlin.nestedNames.map (Name.qualified g.qualifiedName) := by
  obtain ⟨-, -, t, -, hgen, -⟩ := template_of_mem_outputs hg
  have hall : ∀ config, ∀ r ∈ Kotlin.Code.refsAll
      (Kotlin.AccessorFile.file g (Kotlin.importsOf g) config),
      Kotlin.Mentions g (Kotlin.importsOf g) r ∧
        (Kotlin.denoted? (m.scope library g) r.written = some r.meant ↔
          '.' ∈ r.written.toList ∨ ∀ d, ¬ Kotlin.Hides (m.scope library g) d r.meant) := by
    intro config r hr
    have hr := Kotlin.mentions_of_generate hgen r hr
    obtain ⟨hw, hm⟩ := written_of_mentions hg hl hr
    refine ⟨hr, Kotlin.denoted?_eq_some_iff (fun _ => ?_) hw⟩
    obtain hm | hm := hm
    · exact inReach_of_mentioned hg hm
    · exact .inl hm
  refine ⟨hall, ?_, fun n hn d => className_of_imported hn, fun n hn d => nested_of_hides hn⟩
  intro hd config r hr
  obtain ⟨hmentions, hiff⟩ := hall config r hr
  refine hiff.2 (.inr fun d hh => ?_)
  obtain ⟨ht, hne, hs⟩ := hh.exists_mem
  have hmem : r.meant ∈ m.candidates library g :=
    mem_candidates.2 (written_of_mentions hg hl hmentions).2
  exact hne (hd d (mem_candidates.2 (.inr ht)) _ hmem hs)

end Manifest

namespace Single

variable {name : String}

/-- One template without functions. -/
def manifest (name : String) : Manifest where
  templates := [.bare "com.example.Info" name]

/-- The type of the template. -/
def type (name : String) : AccessorType := .bare "com.example.Info" name

/-- The class names in the file of the type. -/
def names (name : String) : List Kotlin.ClassRef :=
  Kotlin.Code.refsAll
    (Kotlin.AccessorFile.file (type name) (Kotlin.importsOf (type name)) (manifest name).config)

/-- The type is the one output, if its name will do. -/
lemma outputs_manifest (hn : Identifier.isLegal name)
    (hr : ¬ (manifest name).IsReserved
      (Template.bare "com.example.Info" name).outputQualifiedName) :
    (manifest name).generate.outputs = [type name] := by
  have h : ∀ p ∈ [("com.example.Info", name)], p.1 ≠ "" ∧ Identifier.isLegal p.2 ∧
      ¬ (manifest name).IsReserved (Template.bare p.1 p.2).outputQualifiedName :=
    List.forall_mem_singleton.2 ⟨by simp, hn, hr⟩
  exact Manifest.outputs_bare rfl h (List.nodup_singleton _)

/-- The type with a name of its own comes out. -/
lemma outputs_notes : (manifest "Notes").generate.outputs = [type "Notes"] := by
  apply outputs_manifest
  · decide +kernel
  · rw [Manifest.isReserved_iff]
    decide +kernel

/-- So does the type that is named like the container. -/
lemma outputs_bundle : (manifest "Bundle").generate.outputs = [type "Bundle"] := by
  apply outputs_manifest
  · decide +kernel
  · rw [Manifest.isReserved_iff]
    decide +kernel

/-- With a name of its own no two classes share a simple name. -/
lemma distinguishes_notes :
    (manifest "Notes").Distinguishes Kotlin.libraryNames (type "Notes") := by
  unfold Manifest.Distinguishes Manifest.candidates Manifest.scope Manifest.nameable
  rw [outputs_notes]
  -- the condition is symmetric, so half of the pairs will do
  suffices h : List.Pairwise (fun c d => Name.simple c = Name.simple d → c = d) _ from
    h.forall_of_forall_of_flip (fun _ _ _ => rfl) (h.imp fun hcd e => (hcd e.symm).symm)
  decide +kernel

end Single

/-- All names in the file of a type with a name of its own stand for what is meant. -/
theorem Single.denoted_notes :
    Single.type "Notes" ∈ (Single.manifest "Notes").generate.outputs ∧
      (∀ n ∈ Kotlin.libraryNames, n ∈ Kotlin.libraryNames) ∧
      (Single.manifest "Notes").Distinguishes Kotlin.libraryNames (Single.type "Notes") ∧
      ∀ r ∈ Single.names "Notes",
        Kotlin.denoted? ((Single.manifest "Notes").scope Kotlin.libraryNames (Single.type "Notes"))
          r.written = some r.meant := by
  have hm : Single.type "Notes" ∈ (Single.manifest "Notes").generate.outputs := by
    rw [Single.outputs_notes]
    exact List.mem_singleton_self _
  obtain ⟨-, h, -, -⟩ := Manifest.references_denote hm fun n hn => hn
  exact ⟨hm, fun n hn => hn, Single.distinguishes_notes, h Single.distinguishes_notes _⟩

/-- The name of a type that is named like the container stands for the container. -/
theorem Single.not_denoted_bundle :
    ⟨"Bundle", "com.example.Bundle"⟩ ∈ Single.names "Bundle" ∧
      Kotlin.denoted? ((Single.manifest "Bundle").scope Kotlin.libraryNames (Single.type "Bundle"))
        "Bundle" = some "android.os.Bundle" ∧
      ¬ ∀ r ∈ Single.names "Bundle",
        Kotlin.denoted? ((Single.manifest "Bundle").scope Kotlin.libraryNames
          (Single.type "Bundle")) r.written = some r.meant := by
  have hself : ⟨"Bundle", "com.example.Bundle"⟩ ∈ Single.names "Bundle" := by
    decide +kernel
  have hd : Kotlin.denoted? ((Single.manifest "Bundle").scope Kotlin.libraryNames
      (Single.type "Bundle")) "Bundle" = some "android.os.Bundle" := by
    unfold Manifest.scope Manifest.nameable
    rw [Single.outputs_bundle]
    decide +kernel
  refine ⟨hself, hd, fun h => ?_⟩
  have hs := h _ hself
  rw [hd] at hs
  exact absurd hs (by decide)

end TypedBundle
