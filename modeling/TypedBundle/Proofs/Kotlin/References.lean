import TypedBundle.Proofs.Kotlin.Registration

/-!
# Class names in a file

Which class names stand in the file of a generated type: those of registered classes, and besides
them the type itself, the owner of its default bodies, its nested classes and a few classes of the
language's own library. `mentions_file` walks through the file.
-/

namespace TypedBundle.Kotlin

/-- The classes that are nested in every generated type. -/
def nestedNames : List String := [accumulator, propertyNotFound, missingKey]

/-- The classes of the language's library that files name by themselves. -/
def libraryNames : List String :=
  [Platform.string, Platform.list, arrayList, TypeDescriptor.enumBase, illegalStateException,
    suppress]

/-- The ways in which the file of a type names a class. -/
inductive Mentions (g : AccessorType) (i : Imports) : ClassRef → Prop where
  | registered {n} :
    n ∈ mentioned g →
    Mentions g i ⟨i.className n, n⟩
  | self :
    Mentions g i ⟨g.name, g.qualifiedName⟩
  | owner :
    Mentions g i ⟨Name.simple g.template, g.template⟩
  | nested {n} :
    n ∈ nestedNames →
    Mentions g i ⟨n, Name.qualified g.qualifiedName n⟩
  | library {n} :
    n ∈ libraryNames →
    Mentions g i ⟨Name.simple n, n⟩

namespace Line

/-- All class names in the line have the property. -/
def All (P : ClassRef → Prop) (l : Line) : Prop := ∀ r ∈ l.refs, P r

variable {P : ClassRef → Prop}

/-- Plain text names no class. -/
@[simp] lemma all_ofText {s : String} : (ofText s).All P := by
  simp [All, ofText, refs, Part.ref?]

/-- The name of a class is all that it names. -/
@[simp] lemma all_ofRef {written meant : String} :
    (ofRef written meant).All P ↔ P ⟨written, meant⟩ := by
  simp [All, ofRef, refs, Part.ref?]

/-- A line names what its parts name. -/
@[simp] lemma all_append {a b : Line} : (a ++ b).All P ↔ a.All P ∧ b.All P := by
  have h : (a ++ b).refs = a.refs ++ b.refs := List.filterMap_append
  simp only [All, h, List.forall_mem_append]

/-- So does a line of others with separators between them. -/
@[simp] lemma all_separatedBy {separator : String} {ls : List Line} :
    (separatedBy separator ls).All P ↔ ∀ l ∈ ls, l.All P := by
  induction ls using separatedBy.induct with
  | case1 => simp [separatedBy, All, refs]
  | case2 l => simp [separatedBy]
  | case3 l rest hne ih => simp [separatedBy, ih]

end Line

namespace Code

/-- All class names in the piece have the property. -/
def All (P : ClassRef → Prop) (c : Code) : Prop := ∀ r ∈ c.refs, P r

variable {P : ClassRef → Prop}

/-- The class names in several pieces are those in each of them. -/
lemma mem_refsAll {cs : List Code} {r : ClassRef} : r ∈ refsAll cs ↔ ∃ c ∈ cs, r ∈ c.refs := by
  induction cs with
  | nil => simp [refsAll]
  | cons c rest ih => simp [refsAll, ih]

/-- A line as a piece names what it names. -/
@[simp] lemma all_line {l : Line} : (line l).All P ↔ l.All P := by
  simp [All, Line.All, refs]

/-- An empty line names nothing. -/
@[simp] lemma all_blank : blank.All P := by
  simp [All, refs]

/-- A block names what its head names and what is in it. -/
@[simp] lemma all_block {head : Line} {body : List Code} :
    (block head body).All P ↔ head.All P ∧ ∀ c ∈ body, c.All P := by
  simp only [All, Line.All, refs, List.forall_mem_append, mem_refsAll]
  constructor
  · rintro ⟨hh, hb⟩
    exact ⟨hh, fun c hc r hr => hb r ⟨c, hc, hr⟩⟩
  · rintro ⟨hh, hb⟩
    exact ⟨hh, fun r ⟨c, hc, hr⟩ => hb c hc r hr⟩

/-- The pieces of groups with empty lines between them are those of the groups. -/
@[simp] lemma forall_mem_separated {groups : List (List Code)} :
    (∀ c ∈ separated groups, c.All P) ↔ ∀ group ∈ groups, ∀ c ∈ group, c.All P := by
  induction groups using separated.induct with
  | case1 => simp [separated]
  | case2 group => simp [separated]
  | case3 group rest hne ih =>
    simp only [separated, List.forall_mem_append, List.forall_mem_cons, all_blank, ih, true_and]

end Code

section Types

variable {P : ClassRef → Prop} {i : Imports}

mutual

/-- The class names in a type are those of its classes. -/
theorem all_typeLine : ∀ ty : TypeDescriptor,
    (i.typeLine ty).All P ↔ ∀ n ∈ ty.names, P ⟨i.className n, n⟩
  | ⟨name, [], _, _, _⟩ => by
    simp [Imports.typeLine, Imports.classLine, TypeDescriptor.names, TypeDescriptor.namesAll]
  | ⟨name, first :: others, _, _, _⟩ => by
    simp only [Imports.typeLine, Imports.classLine, TypeDescriptor.names, TypeDescriptor.namesAll,
      Line.all_append, Line.all_ofRef, Line.all_ofText, and_true, all_typeLine first,
      all_typeLines others, List.forall_mem_cons, List.forall_mem_append, and_assoc]

/-- The class names in several types are those of their classes. -/
theorem all_typeLines : ∀ tys : List TypeDescriptor,
    (i.typeLines tys).All P ↔ ∀ n ∈ TypeDescriptor.namesAll tys, P ⟨i.className n, n⟩
  | [] => by simp [Imports.typeLines, TypeDescriptor.namesAll]
  | ty :: rest => by
    simp only [Imports.typeLines, TypeDescriptor.namesAll, Line.all_append, Line.all_ofText,
      true_and, all_typeLine ty, all_typeLines rest, List.forall_mem_append]

end

end Types

/-- What the body of a method mentions is what its signature does, and a default that it falls back
to is one of the template's. -/
structure Closed (g : AccessorType) (m : Method) : Prop where
  signature : ∀ ty ∈ signatureTypes m, ∀ n ∈ ty.names, n ∈ mentioned g
  type : ∀ key s ty fallback, m.body = .load key s ty fallback → ty ∈ signatureTypes m
  owner : ∀ key s ty fallback call, m.body = .load key s ty fallback →
    fallback = .inlineDefault call ∨ fallback = .orDefault call →
      call.owner = Name.simple g.template

namespace AccessorFile

variable {g : AccessorType} {i : Imports}

/-- The container is registered. -/
lemma mentions_bundle : (bundle i).All (Mentions g i) := by
  simp only [bundle, Imports.classLine, Line.all_ofRef]
  exact .registered List.mem_cons_self

/-- A file mentions its own type. -/
lemma mentions_self : (self g).All (Mentions g i) := by
  simp only [self, Line.all_ofRef]
  exact .self

/-- The types nested in it are among what it may mention. -/
lemma mentions_nested {n} (h : n ∈ nestedNames) : (nested g n).All (Mentions g i) := by
  simp only [nested, Line.all_ofRef]
  exact .nested h

/-- So are the classes of the library. -/
lemma mentions_library {n} (h : n ∈ libraryNames) : (library n).All (Mentions g i) := by
  simp only [library, Line.all_ofRef]
  exact .library h

/-- A type is mentioned if its classes are. -/
lemma mentions_type {ty : TypeDescriptor} (h : ∀ n ∈ ty.names, n ∈ mentioned g) :
    (i.typeLine ty).All (Mentions g i) := by
  rw [all_typeLine]
  exact fun n hn => .registered (h n hn)

/-- A default call mentions the template by its simple name. -/
lemma mentions_defaultCall {call : DefaultCall} (h : call.owner = Name.simple g.template) :
    (defaultCall g call).All (Mentions g i) := by
  simp only [defaultCall, Line.all_append, Line.all_ofRef, Line.all_ofText, and_true, h]
  exact .owner

/-- A type argument mentions the classes of its type. -/
lemma mentions_typeArgument {s ty} (h : ∀ n ∈ ty.names, n ∈ mentioned g) :
    (typeArgument i s ty).All (Mentions g i) := by
  have hsome : ∀ a : TypeDescriptor, (∀ n ∈ a.names, n ∈ mentioned g) →
      ("<" ++ i.typeLine a ++ ">" : Line).All (Mentions g i) := by
    intro a ha
    simp only [Line.all_append, Line.all_ofText, true_and, and_true]
    exact mentions_type ha
  unfold typeArgument
  cases s with
  | direct kind => simp
  | objectList =>
    obtain ⟨name, arguments, superclass, supertypes, constants⟩ := ty
    cases arguments with
    | nil => simp
    | cons first others =>
      refine hsome first fun n hn => h n ?_
      simp [TypeDescriptor.names, TypeDescriptor.namesAll, hn]
  | enum => exact hsome ty h
  | object => exact hsome ty h
  | serializable => exact hsome ty h

/-- A fallback names the template if it is one of its defaults. -/
lemma mentions_inlineFallback {s fallback value}
    (h : ∀ call, fallback = .inlineDefault call ∨ fallback = .orDefault call →
      call.owner = Name.simple g.template)
    (hv : inlineFallback? g s fallback = some value) : value.All (Mentions g i) := by
  unfold inlineFallback? at hv
  split at hv
  · obtain ⟨zero, -, rfl⟩ := Option.map_eq_some_iff.1 hv
    exact Line.all_ofText
  · next call =>
    cases hv
    exact mentions_defaultCall (h call (.inl rfl))
  · cases hv

/-- What follows a read mentions at most the owner of a default, or the exception of the file. -/
lemma mentions_afterRead {key fallback}
    (h : ∀ call, fallback = .inlineDefault call ∨ fallback = .orDefault call →
      call.owner = Name.simple g.template) :
    (afterRead g key fallback).All (Mentions g i) := by
  cases fallback with
  | inlineZero => exact Line.all_ofText
  | orNull => exact Line.all_ofText
  | inlineDefault call =>
    simp only [afterRead, Line.all_append, Line.all_ofText, true_and]
    exact mentions_defaultCall (h call (.inl rfl))
  | orDefault call =>
    simp only [afterRead, Line.all_append, Line.all_ofText, true_and]
    exact mentions_defaultCall (h call (.inr rfl))
  | orThrow =>
    simp only [afterRead, Line.all_append, Line.all_ofText, true_and, and_true]
    exact mentions_nested (by simp [nestedNames])

/-- The statement of a method mentions no more than the file. -/
lemma mentions_statement {m : Method} (h : Closed g m) : (statement g i m).All (Mentions g i) := by
  unfold statement
  split
  · simp
  · next key s ty fallback hb =>
    have hcall := fun call => h.owner key s ty fallback call hb
    have hty := h.signature ty (h.type key s ty fallback hb)
    dsimp only
    split
    · next value hv =>
      simp only [Line.all_append, Line.all_ofText, true_and, and_true]
      exact mentions_inlineFallback hcall hv
    · simp only [Line.all_append, Line.all_ofText, true_and, and_true]
      exact ⟨mentions_typeArgument hty, mentions_afterRead hcall⟩
  · simp only [Line.all_append, Line.all_ofText, true_and, and_true]
    exact mentions_nested (by simp [nestedNames])
  · simp
  · simp
  · simp only [Line.all_append, Line.all_ofText, true_and, and_true]
    exact ⟨mentions_self, mentions_bundle⟩
  · simp only [Line.all_append, Line.all_ofText, true_and, and_true]
    exact mentions_self

/-- A function mentions the classes of its signature and what its statement mentions. -/
lemma mentions_function {m : Method} {statement : Line}
    (h : ∀ ty ∈ signatureTypes m, ∀ n ∈ ty.names, n ∈ mentioned g)
    (hs : statement.All (Mentions g i)) : (function g i m statement).All (Mentions g i) := by
  have hp : ∀ l ∈ m.params.map (parameter i), l.All (Mentions g i) := by
    intro l hl
    obtain ⟨p, hp, rfl⟩ := List.mem_map.1 hl
    simp only [parameter, Line.all_append, Line.all_ofText, true_and]
    exact mentions_type (h p.type (List.mem_append_left _ (List.mem_map_of_mem hp)))
  have hr : (returns g i m.returns).All (Mentions g i) := by
    unfold signatureTypes at h
    unfold returns
    split
    · exact mentions_self
    · next ty nullable e =>
      rw [e] at h
      have ht := mentions_type (i := i) (h ty (by simp))
      split
      · simpa using ht
      · exact ht
    · exact mentions_nested (by simp [nestedNames])
    · exact mentions_bundle
  simp only [function, Code.all_block, Line.all_append, Line.all_ofText, Line.all_separatedBy,
    true_and, and_true, List.forall_mem_singleton, Code.all_line]
  exact ⟨⟨hp, hr⟩, hs⟩

/-- The classes of a helper are mentioned. -/
lemma mem_mentioned_of_helper {helper} (h : helper ∈ g.helpers) :
    ∀ n ∈ classNames helper, n ∈ mentioned g := by
  intro n hn
  unfold mentioned
  exact List.mem_cons_of_mem _ (List.mem_append_right _ (List.mem_flatMap.2 ⟨helper, h, hn⟩))

/-- A helper writes values of a type that is mentioned. -/
lemma mentions_insertion {s} (h : ∀ n ∈ classNames (.insert s), n ∈ mentioned g) :
    (insertion i s).1.All (Mentions g i) ∧ (insertion i s).2.All (Mentions g i) := by
  have hlist : (library Platform.list).All (Mentions g i) := mentions_library (by decide)
  have harray : (library arrayList).All (Mentions g i) := mentions_library (by decide)
  have henum : (library TypeDescriptor.enumBase).All (Mentions g i) := mentions_library (by decide)
  have hclass : ∀ n ∈ classNames (.insert s), (i.classLine n).All (Mentions g i) := fun n hn =>
    Line.all_ofRef.2 (.registered (h n hn))
  cases s with
  | direct kind =>
    have hk : (kindLine i kind).All (Mentions g i) := mentions_type h
    simp [insertion, hk]
  | objectList =>
    have hp : (parcelable i).All (Mentions g i) := hclass _ List.mem_cons_self
    simp [insertion, hlist, harray, hp]
  | enum => simp [insertion, henum]
  | object =>
    have hp : (parcelable i).All (Mentions g i) := hclass _ List.mem_cons_self
    simp [insertion, hp]
  | serializable =>
    have hs : (serializable i).All (Mentions g i) := hclass _ List.mem_cons_self
    simp [insertion, hs]

/-- A helper reads values of a type that is mentioned. -/
lemma mentions_extraction {s} (h : ∀ n ∈ classNames (.extract s), n ∈ mentioned g) :
    (extraction i s).1.All (Mentions g i) ∧ (extraction i s).2.1.All (Mentions g i) ∧
      (extraction i s).2.2.All (Mentions g i) := by
  have hlist : (library Platform.list).All (Mentions g i) := mentions_library (by decide)
  have henum : (library TypeDescriptor.enumBase).All (Mentions g i) := mentions_library (by decide)
  have hclass : ∀ n ∈ classNames (.extract s), (i.classLine n).All (Mentions g i) := fun n hn =>
    Line.all_ofRef.2 (.registered (h n hn))
  cases s with
  | direct kind =>
    have hk : (kindLine i kind).All (Mentions g i) := mentions_type h
    simp [extraction, hk]
  | objectList =>
    have hp : (parcelable i).All (Mentions g i) := hclass _ List.mem_cons_self
    simp [extraction, hlist, hp]
  | enum => simp [extraction, henum]
  | object =>
    have hp : (parcelable i).All (Mentions g i) := hclass _ List.mem_cons_self
    simp [extraction, hp]
  | serializable =>
    have hs : (serializable i).All (Mentions g i) := hclass _ List.mem_cons_self
    simp [extraction, hs]

/-- Before a helper stands nothing, or a class of the library. -/
lemma mentions_beforeHelper {helper : Helper} :
    ∀ c ∈ helperAnnotation helper, c.All (Mentions g i) := by
  have hsuppress : (library suppress).All (Mentions g i) := mentions_library (by decide)
  unfold helperAnnotation
  split
  · simp [hsuppress]
  · nofun

/-- The function of a helper names what is registered for it. -/
lemma mentions_helperFunction {helper : Helper} (h : helper ∈ g.helpers) :
    ∀ c ∈ helperFunction i helper, c.All (Mentions g i) := by
  have hm := mem_mentioned_of_helper h
  have hbundle : (bundle i).All (Mentions g i) := mentions_bundle
  have hstring : (library Platform.string).All (Mentions g i) := mentions_library (by decide)
  unfold helperFunction
  refine List.forall_mem_append.2 ⟨mentions_beforeHelper, ?_⟩
  cases helper with
  | insert s =>
    obtain ⟨hv, hc⟩ := mentions_insertion (i := i) hm
    simp [hbundle, hstring, hv, hc]
  | extract s =>
    obtain ⟨hl, hr, ht⟩ := mentions_extraction (i := i) hm
    simp [hbundle, hstring, hl, hr, ht]
  | extractWithFallback kind =>
    have hk : (kindLine i kind).All (Mentions g i) := mentions_type hm
    simp [hbundle, hstring, hk]

/-- The accumulator mentions the classes of its methods. -/
lemma mentions_assertClass
    (h : ∀ m ∈ g.assertMethods, ∀ ty ∈ signatureTypes m, ∀ n ∈ ty.names, n ∈ mentioned g) :
    (assertClass g i).All (Mentions g i) := by
  have hstring : (library Platform.string).All (Mentions g i) := mentions_library (by decide)
  have hassert : (nested g accumulator).All (Mentions g i) := mentions_nested (by decide)
  have hkey : (nested g missingKey).All (Mentions g i) := mentions_nested (by decide)
  have hf : ∀ m ∈ g.assertMethods, ∀ c ∈ assertFunction g i m, c.All (Mentions g i) := by
    intro m hm
    unfold assertFunction
    split
    · simpa using mentions_function (h m hm) (by simp)
    · simpa using mentions_function (h m hm) (by simp)
    · simp
  simp only [assertClass, Code.all_block, Code.all_line, Code.forall_mem_separated,
    List.forall_mem_append, List.forall_mem_map, List.forall_mem_cons, List.not_mem_nil,
    false_implies, implies_true, Line.all_append, Line.all_ofText, hstring, hassert, hkey, true_and,
    and_true]
  exact hf

/-- The companion mentions the classes of its methods and of the helpers. -/
lemma mentions_companionObject
    (h : ∀ m ∈ g.companion, ∀ ty ∈ signatureTypes m, ∀ n ∈ ty.names, n ∈ mentioned g) :
    (companionObject g i).All (Mentions g i) := by
  have hbundle : (bundle i).All (Mentions g i) := mentions_bundle
  have hf : ∀ m ∈ g.companion, ∀ c ∈ companionFunction g i m, c.All (Mentions g i) := by
    intro m hm
    unfold companionFunction
    split
    · next hb =>
      have hs : (statement g i m).All (Mentions g i) := by
        simp only [statement, hb, Line.all_append, Line.all_ofText, true_and, and_true]
        exact mentions_self
      simpa using mentions_function (h m hm) hs
    · next hb =>
      have hs : (statement g i m).All (Mentions g i) := by
        simp only [statement, hb, Line.all_append, Line.all_ofText, true_and, and_true]
        exact ⟨mentions_self, hbundle⟩
      simpa using mentions_function (h m hm) hs
    · simp
  simp only [companionObject, duplicateHelper, Code.all_block, Code.all_line,
    Code.forall_mem_separated, List.forall_mem_append, List.forall_mem_map, List.forall_mem_cons,
    List.not_mem_nil, false_implies, implies_true, Line.all_append, Line.all_ofText, hbundle,
    true_and, and_true]
  exact ⟨hf, fun helper => mentions_helperFunction⟩

/-- Every class name in the file of a type is one that the file mentions, if the methods of the type
are closed and the accumulator's need no classes. -/
lemma mentions_file {config : OutputConfig} (hm : ∀ m ∈ g.methods, Closed g m)
    (hc : ∀ m ∈ g.companion, ∀ ty ∈ signatureTypes m, ∀ n ∈ ty.names, n ∈ mentioned g)
    (ha : ∀ m ∈ g.assertMethods, ∀ ty ∈ signatureTypes m, ∀ n ∈ ty.names, n ∈ mentioned g) :
    ∀ r ∈ Code.refsAll (file g i config), Mentions g i r := by
  have hstring : (library Platform.string).All (Mentions g i) := mentions_library (by decide)
  have hstate : (library illegalStateException).All (Mentions g i) := mentions_library (by decide)
  have hf : ∀ m ∈ g.methods, (instanceFunction g i m).All (Mentions g i) := fun m hcm =>
    mentions_function (hm m hcm).signature (mentions_statement (hm m hcm))
  have hmain : (mainClass g i).All (Mentions g i) := by
    simp only [mainClass, exceptionClass, Code.all_block, Code.all_line, Code.all_blank,
      List.forall_mem_append, List.forall_mem_flatMap, List.forall_mem_cons, List.not_mem_nil,
      false_implies, implies_true, Line.all_append, Line.all_ofText, mentions_bundle, hstring,
      hstate, mentions_assertClass ha, mentions_companionObject hc, true_and, and_true]
    exact hf
  have hfile : ∀ c ∈ file g i config, c.All (Mentions g i) := by
    unfold file
    dsimp only
    simp only [List.forall_mem_append, List.forall_mem_singleton]
    refine ⟨⟨⟨?_, ?_⟩, ?_⟩, hmain⟩
    · split <;> simp
    · split <;> simp
    · split
      · simp
      · simp only [List.forall_mem_append, List.forall_mem_map, List.forall_mem_singleton,
          Code.all_line, Code.all_blank, Line.all_ofText, implies_true, and_self]
  intro r hr
  obtain ⟨c, hc, hr⟩ := Code.mem_refsAll.1 hr
  exact hfile c hc r hr

end AccessorFile

end TypedBundle.Kotlin
