import TypedBundle.Manifest.Resolution
import TypedBundle.Naming
import TypedBundle.Proofs.Fallible

/-!
# Legal names of resolved templates

Resolution lets only legal words through: the names of members and of the generated type are
legal, and the words before a property can begin a name. `TemplateDecl.resolve_legal` says so, and
`Template.Legal.naming` carries it over to the names that the accessors are made of.
-/

namespace TypedBundle

/-- A list without repetitions has the same items. -/
lemma mem_distinct {α : Type} [BEq α] [LawfulBEq α] {x : α} {xs : List α} :
    x ∈ distinct xs ↔ x ∈ xs := by
  induction xs with
  | nil => rfl
  | cons y rest ih =>
    rw [distinct, List.mem_cons, List.mem_cons, List.mem_filter, ih, bne_iff_ne]
    by_cases h : x = y <;> simp [h]

namespace Identifier

/-- A word that can begin a name is not empty. -/
lemma ne_empty_of_canBegin {word : String} (h : canBegin word) : word ≠ "" := by
  rintro rfl
  cases h

/-- A legal word can begin a name. -/
lemma canBegin_of_isLegal {word : String} (h : isLegal word) : canBegin word := by
  unfold isLegal at h
  rw [Bool.and_eq_true] at h
  exact h.1

/-- A legal name has a first character. -/
lemma exists_first_of_isLegal {word : String} (h : isLegal word) :
    ∃ c rest, word.toList = c :: rest := by
  have hw := canBegin_of_isLegal h
  unfold canBegin at hw
  cases hc : word.toList with
  | nil => simp [hc] at hw
  | cons c rest => exact ⟨c, rest, rfl⟩

/-- A name begins with a character that can and goes on in characters that can. -/
lemma canBegin_eq_true_iff {word : String} :
    canBegin word ↔
      (∃ c, word.toList.head? = some c ∧ isFirst c) ∧ ∀ c ∈ word.toList, isPart c := by
  have hf : ∀ c, isFirst c → isPart c := by
    intro c hc
    unfold isFirst at hc
    unfold isPart Text.isAlphanumeric
    grind
  unfold canBegin
  cases word.toList with
  | nil => simp
  | cons c rest =>
    simp only [Bool.and_eq_true, List.all_eq_true, List.head?_cons, Option.some.injEq,
      exists_eq_left', List.forall_mem_cons]
    exact ⟨fun h => ⟨h.1, hf c h.1, h.2⟩, fun h => ⟨h.1, h.2.2⟩⟩

/-- A legal name consists of characters that can stand in a name. -/
lemma isPart_of_isLegal {word : String} (h : isLegal word) : ∀ c ∈ word.toList, isPart c :=
  (canBegin_eq_true_iff.1 (canBegin_of_isLegal h)).2

/-- A legal name has no dots and no slashes. -/
lemma not_mem_of_isLegal {word : String} (h : isLegal word) :
    '.' ∉ word.toList ∧ '/' ∉ word.toList := by
  have hd : isPart '.' = false := by decide +kernel
  have hs : isPart '/' = false := by decide +kernel
  constructor
  · intro hc
    have := isPart_of_isLegal h _ hc
    rw [hd] at this
    cases this
  · intro hc
    have := isPart_of_isLegal h _ hc
    rw [hs] at this
    cases this

end Identifier

/-- The words before a property can begin a name, and the property is a legal name. -/
structure Naming.Legal (n : Naming) : Prop where
  property : Identifier.isLegal n.property
  setterPrefixes : ∀ p ∈ n.setterPrefixes, Identifier.canBegin p
  getterPrefixes : ∀ p ∈ n.getterPrefixes, Identifier.canBegin p

/-- The member's names are legal and its words before the property can begin a name. -/
structure Member.Legal (m : Member) : Prop where
  declaredName : Identifier.isLegal m.declaredName
  overrideName : m.overrideName = "" ∨ Identifier.isLegal m.overrideName
  setterPrefixes : ∀ p ∈ m.setterPrefixes, Identifier.canBegin p
  getterPrefixes : ∀ p ∈ m.getterPrefixes, Identifier.canBegin p

/-- The names of the generated type and of all members are legal, and so are the words before the
properties. -/
structure Template.Legal (t : Template) : Prop where
  outputName : Identifier.isLegal t.outputName
  setterPrefixes : ∀ p ∈ t.setterPrefixes, Identifier.canBegin p
  getterPrefixes : ∀ p ∈ t.getterPrefixes, Identifier.canBegin p
  members : ∀ m ∈ t.members, m.Legal

/-- A cascade has the words of one of its lists. -/
lemma Naming.forall_mem_cascade {P : String → Prop} {member template convention : List String}
    (hm : ∀ p ∈ member, P p) (ht : ∀ p ∈ template, P p) (hc : ∀ p ∈ convention, P p) :
    ∀ p ∈ cascade member template convention, P p := by
  intro p hp
  rw [cascade, mem_distinct] at hp
  split at hp
  · exact hm p hp
  · split at hp
    · exact ht p hp
    · exact hc p hp

/-- The accessors of a member of a template with legal names are made of legal names. -/
lemma Template.Legal.naming {t m} (h : Template.Legal t) (hm : m ∈ t.members) :
    (Naming.ofMember t m).Legal where
  property := by
    unfold Naming.ofMember
    split
    · exact (h.members m hm).declaredName
    · next hne => exact (h.members m hm).overrideName.resolve_left hne
  setterPrefixes := Naming.forall_mem_cascade (h.members m hm).setterPrefixes h.setterPrefixes
    (by decide +kernel)
  getterPrefixes := Naming.forall_mem_cascade (h.members m hm).getterPrefixes h.getterPrefixes
    (by decide +kernel)

/-- A requirement that is met says nothing else. -/
lemma require_eq_ok {ok e u} : require ok e = .ok u ↔ ok = true := by
  unfold require
  split <;> simp_all

/-- Words are let through if each of them can begin a name. -/
lemma FunctionDecl.checkPrefixes_eq_ok {fault words u} :
    checkPrefixes fault words = .ok u ↔ ∀ w ∈ words, Identifier.canBegin w := by
  unfold checkPrefixes
  split
  · next h => simpa using h
  · next w h =>
    have hw := List.find?_some h
    have hm := List.mem_of_find?_eq_some h
    exact ⟨nofun, fun hall => by simp [hall w hm] at hw⟩

/-- The member that a function declares has legal names. -/
lemma FunctionDecl.resolve_legal {classes template f item m}
    (h : FunctionDecl.resolve classes template f item = .ok m) : m.Legal := by
  unfold resolve at h
  simp only [Except.bind_eq_ok, require_eq_ok, checkPrefixes_eq_ok] at h
  obtain ⟨-, hname, -, hover, -, hset, -, hget, -, -, h⟩ := h
  split at h
  · cases h
  · cases h
    exact ⟨hname, by simpa using hover, hset, hget⟩

/-- Every member is declared by an annotated function. -/
lemma TemplateDecl.of_mem_resolveMembers {classes template fs ms}
    (h : resolveMembers classes template fs = .ok ms) {m} (hm : m ∈ ms) :
    ∃ f ∈ fs, ∃ item, f.item = some item ∧ f.resolve classes template item = .ok m := by
  induction fs generalizing ms with
  | nil =>
    cases h
    cases hm
  | cons f rest ih =>
    unfold resolveMembers at h
    split at h
    · obtain ⟨f', hf, hr⟩ := ih h hm
      exact ⟨f', List.mem_cons_of_mem _ hf, hr⟩
    · next item hi =>
      simp only [Except.bind_eq_ok, Except.pure_eq_ok] at h
      obtain ⟨first, hfirst, others, ho, rfl⟩ := h
      obtain rfl | hm := List.mem_cons.1 hm
      · exact ⟨f, List.mem_cons_self, item, hi, hfirst⟩
      · obtain ⟨f', hf, hr⟩ := ih ho hm
        exact ⟨f', List.mem_cons_of_mem _ hf, hr⟩

/-- Every member of a resolved template is declared by an annotated function. -/
lemma TemplateDecl.of_mem_members {classes d t} (h : resolve classes d = .ok t) {m}
    (hm : m ∈ t.members) :
    ∃ f ∈ d.functions, ∃ item, f.item = some item ∧
      f.resolve classes d.className item = .ok m := by
  unfold resolve at h
  simp only [Except.bind_eq_ok, Except.pure_eq_ok] at h
  obtain ⟨a, -, ms, hms, rfl⟩ := h
  exact of_mem_resolveMembers hms hm

/-- An annotation that will do names the generated type by a legal name, and its words before the
properties can begin a name. -/
lemma TemplateDecl.checkedAnnotation_legal {d a} (h : checkedAnnotation d = .ok a) :
    Identifier.isLegal a.name ∧ (∀ p ∈ a.setters, Identifier.canBegin p) ∧
      ∀ p ∈ a.getters, Identifier.canBegin p := by
  unfold checkedAnnotation at h
  rw [Except.bind_eq_ok] at h
  obtain ⟨-, -, h⟩ := h
  split at h
  · cases h
  · simp only [Except.bind_eq_ok, require_eq_ok, FunctionDecl.checkPrefixes_eq_ok,
      Except.pure_eq_ok] at h
    obtain ⟨-, -, -, hn, -, hs, -, hg, rfl⟩ := h
    exact ⟨hn, hs, hg⟩

/-- A resolved template has legal names. -/
lemma TemplateDecl.resolve_legal {classes d t} (h : resolve classes d = .ok t) : t.Legal := by
  have hms : ∀ m ∈ t.members, m.Legal := by
    intro m hm
    obtain ⟨f, -, item, -, hf⟩ := of_mem_members h hm
    exact FunctionDecl.resolve_legal hf
  unfold resolve at h
  simp only [Except.bind_eq_ok, Except.pure_eq_ok] at h
  obtain ⟨a, ha, ms, -, rfl⟩ := h
  obtain ⟨hn, hs, hg⟩ := checkedAnnotation_legal ha
  exact ⟨hn, hs, hg, hms⟩

end TypedBundle
