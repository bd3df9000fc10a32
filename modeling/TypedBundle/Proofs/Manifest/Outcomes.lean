import TypedBundle.Proofs.Accessor.Success
import TypedBundle.Proofs.Manifest.Outputs
import TypedBundle.Proofs.Type.Declarations

/-!
# Outcomes of a run

Each template has one outcome. What it is depends on the templates before it by no more than the
names of the types that came out of them: `Manifest.Settles` says so without the names that a run
takes note of, and `Manifest.settles_of_outcomes` that this is what a run does. So the names of the
outputs are distinct, none is that of a class or a template, and only a type that came out can keep
a later one of its name from coming out.
-/

namespace TypedBundle

/-- A requirement that is not met fails with its error. -/
lemma require_eq_error {ok e e'} : require ok e = .error e' ↔ ok = false ∧ e = e' := by
  unfold require
  split <;> simp_all

namespace FunctionDecl

/-- Words that are refused are refused for the reason given. -/
lemma checkPrefixes_eq_error {fault words e} (h : checkPrefixes fault words = .error e) :
    ∃ reason, e = fault reason := by
  unfold checkPrefixes at h
  split at h
  · cases h
  · cases h
    exact ⟨_, rfl⟩

/-- A function that declares no member is at fault itself. -/
lemma resolve_eq_error {classes template f item e}
    (h : resolve classes template f item = .error e) :
    ∃ reason, e = .inMember template f.name reason := by
  unfold resolve at h
  simp only [Except.bind_eq_error, require_eq_error] at h
  obtain ⟨-, rfl⟩ | ⟨-, -, ⟨-, rfl⟩ | ⟨-, -, h | ⟨-, -, h | ⟨-, -, ⟨-, rfl⟩ | ⟨-, -, h⟩⟩⟩⟩⟩ := h
  · exact ⟨_, rfl⟩
  · exact ⟨_, rfl⟩
  · exact checkPrefixes_eq_error h
  · exact checkPrefixes_eq_error h
  · exact ⟨_, rfl⟩
  · split at h
    · cases h
      exact ⟨_, rfl⟩
    · cases h

end FunctionDecl

namespace TemplateDecl

/-- The name that errors have for the template. -/
def shownName (d : TemplateDecl) : String :=
  if d.className = "" then "<unnamed>" else d.className

/-- A template whose annotation will do has a name, under which errors know it. -/
lemma shownName_eq_of_checked {d a} (h : checkedAnnotation d = .ok a) :
    shownName d = d.className := by
  unfold checkedAnnotation at h
  simp only [Except.bind_eq_ok, require_eq_ok] at h
  obtain ⟨-, hne, -⟩ := h
  exact if_neg (by simpa using hne)

/-- An annotation that will not do is a fault of the template as a whole. -/
lemma checkedAnnotation_eq_error {d e} (h : checkedAnnotation d = .error e) :
    ∃ reason, e = .inTemplate (shownName d) reason := by
  unfold checkedAnnotation at h
  simp only [Except.bind_eq_error, require_eq_error, require_eq_ok] at h
  obtain ⟨hc, rfl⟩ | ⟨-, hc, h⟩ := h
  · have hs : shownName d = "<unnamed>" := if_pos (by simpa using hc)
    exact ⟨_, by rw [hs]⟩
  · have hs : shownName d = d.className := if_neg (by simpa using hc)
    rw [hs]
    split at h
    · cases h
      exact ⟨_, rfl⟩
    · simp only [Except.bind_eq_error, require_eq_error, Except.pure_ne_error] at h
      obtain ⟨-, rfl⟩ | ⟨-, -, ⟨-, rfl⟩ | ⟨-, -, h | ⟨-, -, h | ⟨-, -, h⟩⟩⟩⟩ := h
      · exact ⟨_, rfl⟩
      · exact ⟨_, rfl⟩
      · exact FunctionDecl.checkPrefixes_eq_error h
      · exact FunctionDecl.checkPrefixes_eq_error h
      · exact h.elim

/-- Members that cannot be declared are the fault of an annotated function. -/
lemma resolveMembers_eq_error {classes template fs e}
    (h : resolveMembers classes template fs = .error e) :
    ∃ f ∈ fs, f.item.isSome ∧ ∃ reason, e = .inMember template f.name reason := by
  induction fs with
  | nil => cases h
  | cons f rest ih =>
    unfold resolveMembers at h
    split at h
    · obtain ⟨f', hf, hr⟩ := ih h
      exact ⟨f', List.mem_cons_of_mem _ hf, hr⟩
    · next item hi =>
      simp only [Except.bind_eq_error, Except.pure_ne_error] at h
      obtain h | ⟨m, -, h | ⟨-, -, h⟩⟩ := h
      · exact ⟨f, List.mem_cons_self, by simp [hi], FunctionDecl.resolve_eq_error h⟩
      · obtain ⟨f', hf, hr⟩ := ih h
        exact ⟨f', List.mem_cons_of_mem _ hf, hr⟩
      · exact h.elim

/-- A template that does not resolve is at fault itself, or an annotated function of it is. -/
lemma resolve_eq_error {classes d e} (h : resolve classes d = .error e) :
    (∃ reason, e = .inTemplate (shownName d) reason) ∨
      ∃ f ∈ d.functions, f.item.isSome ∧ ∃ reason, e = .inMember (shownName d) f.name reason := by
  unfold resolve at h
  simp only [Except.bind_eq_error, Except.pure_ne_error] at h
  obtain h | ⟨a, ha, h | ⟨-, -, h⟩⟩ := h
  · exact .inl (checkedAnnotation_eq_error h)
  · rw [shownName_eq_of_checked ha]
    exact .inr (resolveMembers_eq_error h)
  · exact h.elim

/-- A template keeps its name when it is resolved. -/
lemma className_of_resolve {classes d t} (h : resolve classes d = .ok t) :
    t.className = d.className := by
  unfold resolve at h
  simp only [Except.bind_eq_ok, Except.pure_eq_ok] at h
  obtain ⟨a, -, ms, -, rfl⟩ := h
  rfl

end TemplateDecl

namespace Template

/-- A generated type has the full name that its template gives it, and tells of its template. -/
lemma names_of_generate {t : Template} {g} (h : t.generate = .ok g) :
    g.qualifiedName = t.outputQualifiedName ∧ g.template = t.className := by
  obtain ⟨-, as, -, rfl⟩ := generate_eq_ok.1 h
  exact ⟨rfl, rfl⟩

/-- Whether a type can be generated has nothing to do with other types. -/
lemma generate_ne_duplicateOutput {t : Template} {template output previous} :
    t.generate ≠ .error (.duplicateOutput template output previous) := by
  intro h
  obtain ⟨_, _, _, -, -, hf⟩ | ⟨-, _, _, _, -, -, hf⟩ := generate_eq_error.1 h
  · cases hf
  · cases hf

end Template

namespace Manifest

variable {m : Manifest}

/-- The name is that of a known class or of a template. -/
def IsReserved (m : Manifest) (name : String) : Prop :=
  (m.classTable.find? name).isSome ∨ ∃ d ∈ m.templates, d.className = name

/-- The known classes are those of the manifest and those of the platform. -/
lemma isSome_find?_classTable {name} :
    (m.classTable.find? name).isSome ↔
      (∃ c ∈ m.classes, c.name = name) ∨ ∃ c ∈ Platform.classes, c.name = name := by
  unfold classTable ClassTable.platform
  rw [ClassTable.isSome_find?_declareAll, ClassTable.isSome_find?_declareAll]
  simp [ClassTable.find?, Dict.find?, EmptyCollection.emptyCollection, Dict.empty]

/-- The names of the platform's classes are reserved, and those of the manifest's classes and
templates. -/
lemma isReserved_iff {name} :
    m.IsReserved name ↔
      (∃ c ∈ m.classes, c.name = name) ∨ (∃ c ∈ Platform.classes, c.name = name) ∨
        ∃ d ∈ m.templates, d.className = name := by
  unfold IsReserved
  rw [isSome_find?_classTable, or_assoc]

/-- The names of the types that came out, in order, each with its template. -/
def successes (os : List (TemplateDecl × Claimed × Outcome)) : Claimed :=
  os.filterMap fun
    | (_, _, .ok g) => some (g.qualifiedName, g.template)
    | (_, _, .error _) => none

/-- What becomes of a template after others. Of these only the types that came out matter. -/
inductive Settles (m : Manifest) (before : List (TemplateDecl × Claimed × Outcome))
    (d : TemplateDecl) : Outcome → Prop where
  | unresolved {e} :
    d.resolve m.classTable = .error e →
    Settles m before d (.error e)
  | reserved {t} :
    d.resolve m.classTable = .ok t →
    m.IsReserved t.outputQualifiedName →
    Settles m before d (.error (.inTemplate t.className
      ("output type " ++ t.outputQualifiedName ++ " has the name of a declared class")))
  | taken {t previous} :
    d.resolve m.classTable = .ok t →
    ¬ m.IsReserved t.outputQualifiedName →
    (t.outputQualifiedName, previous) ∈ successes before →
    Settles m before d (.error (.duplicateOutput t.className t.outputQualifiedName previous))
  | generated {t} :
    d.resolve m.classTable = .ok t →
    ¬ m.IsReserved t.outputQualifiedName →
    (∀ p ∈ successes before, p.1 ≠ t.outputQualifiedName) →
    Settles m before d t.generate

/-- A type that came out has its name among the successes. -/
lemma mem_successes {os : List (TemplateDecl × Claimed × Outcome)} {p} :
    p ∈ successes os ↔
      ∃ d taken g, (d, taken, .ok g) ∈ os ∧ (g.qualifiedName, g.template) = p := by
  unfold successes
  rw [List.mem_filterMap]
  constructor
  · rintro ⟨⟨d, taken, o⟩, hx, h⟩
    cases o with
    | error e => cases h
    | ok g => exact ⟨d, taken, g, hx, Option.some.inj h⟩
  · rintro ⟨d, taken, g, hx, rfl⟩
    exact ⟨_, hx, rfl⟩

/-- The first of several outcomes adds its name if it is a type. -/
lemma successes_cons {d taken o} {os : List (TemplateDecl × Claimed × Outcome)} {claimed} :
    (successes os).reverse ++ claim claimed o =
      (successes ((d, taken, o) :: os)).reverse ++ claimed := by
  cases o with
  | error e => simp [successes, claim]
  | ok g => simp [successes, claim]

/-- A name will do if it is not reserved and not taken. -/
lemma nameError?_eq_none {claimed t} :
    m.nameError? claimed t = none ↔
      ¬ m.IsReserved t.outputQualifiedName ∧ claimed.lookup t.outputQualifiedName = none := by
  unfold nameError? IsReserved
  simp only [Bool.or_eq_true, List.any_eq_true, beq_iff_eq]
  split
  · next h => simp [h.symm]
  · next h => simp [or_comm.not.1 h]

/-- A name will not do if it is reserved, or else if it is taken. -/
lemma nameError?_eq_some {claimed t e} :
    m.nameError? claimed t = some e ↔
      (m.IsReserved t.outputQualifiedName ∧ .inTemplate t.className
        ("output type " ++ t.outputQualifiedName ++ " has the name of a declared class") = e) ∨
      (¬ m.IsReserved t.outputQualifiedName ∧ ∃ previous,
        claimed.lookup t.outputQualifiedName = some previous ∧
          .duplicateOutput t.className t.outputQualifiedName previous = e) := by
  unfold nameError? IsReserved
  simp only [Bool.or_eq_true, List.any_eq_true, beq_iff_eq]
  split
  · next h => simp [h.symm]
  · next h => simp [or_comm.not.1 h]

/-- A template that resolves is refused for its name or else generated. -/
lemma outcome_of_resolve {claimed d t} (h : d.resolve m.classTable = .ok t) :
    m.outcome claimed d = (m.nameError? claimed t).elim t.generate .error := by
  unfold outcome
  rw [h]
  cases he : m.nameError? claimed t with
  | some e => simp [he, bind, Except.bind, throw, throwThe, MonadExceptOf.throw]
  | none => simp [he, bind, Except.bind]

/-- A template that does not resolve has no other outcome. -/
lemma outcome_of_resolve_error {claimed d e} (h : d.resolve m.classTable = .error e) :
    m.outcome claimed d = .error e := by
  unfold outcome
  rw [h]
  rfl

/-- A type comes out of a template that resolves, if its name will do and it can be generated. -/
lemma outcome_eq_ok {claimed d g} :
    m.outcome claimed d = .ok g ↔
      ∃ t, d.resolve m.classTable = .ok t ∧ m.nameError? claimed t = none ∧ t.generate = .ok g := by
  cases hd : d.resolve m.classTable with
  | error e => simp [outcome_of_resolve_error hd]
  | ok t =>
    rw [outcome_of_resolve hd]
    cases he : m.nameError? claimed t with
    | some e => simp [he]
    | none => simp [he]

/-- What becomes of a template under the names of the types that came out before it. -/
lemma settles_of_outcome {before d claimed}
    (hc : ∀ p, p ∈ claimed ↔ p ∈ successes before) (hn : (claimed.map Prod.fst).Nodup) :
    m.Settles before d (m.outcome claimed d) := by
  cases hd : d.resolve m.classTable with
  | error e =>
    rw [outcome_of_resolve_error hd]
    exact .unresolved hd
  | ok t =>
    rw [outcome_of_resolve hd]
    cases he : m.nameError? claimed t with
    | some e =>
      obtain ⟨hr, rfl⟩ | ⟨hr, previous, hl, rfl⟩ := nameError?_eq_some.1 he
      · exact .reserved hd hr
      · rw [List.lookup_eq_some_iff_mem hn, hc] at hl
        exact .taken hd hr hl
    | none =>
      obtain ⟨hr, hl⟩ := nameError?_eq_none.1 he
      refine .generated hd hr fun p hp => ?_
      exact List.lookup_eq_none_iff_ne.1 hl p ((hc p).2 hp)

/-- One more outcome takes no name twice. -/
lemma nodup_claim {claimed d} (hn : (claimed.map Prod.fst).Nodup) :
    ((claim claimed (m.outcome claimed d)).map Prod.fst).Nodup := by
  cases ho : m.outcome claimed d with
  | error e => exact hn
  | ok g =>
    obtain ⟨t, -, he, hg⟩ := outcome_eq_ok.1 ho
    obtain ⟨-, hl⟩ := nameError?_eq_none.1 he
    rw [← (Template.names_of_generate hg).1] at hl
    refine List.nodup_cons.2 ⟨?_, hn⟩
    intro hm
    obtain ⟨p, hp, e⟩ := List.mem_map.1 hm
    exact List.lookup_eq_none_iff_ne.1 hl p hp e

/-- Outcomes in turn take no name twice. -/
lemma nodup_outcomesFrom {claimed ds} (hn : (claimed.map Prod.fst).Nodup) :
    (((successes (m.outcomesFrom claimed ds)).reverse ++ claimed).map Prod.fst).Nodup := by
  induction ds generalizing claimed with
  | nil => exact hn
  | cons d rest ih =>
    rw [outcomesFrom, ← successes_cons]
    exact ih (nodup_claim hn)

/-- Outcomes in turn belong to the templates in turn. -/
lemma map_fst_outcomesFrom {claimed ds} : (m.outcomesFrom claimed ds).map Prod.fst = ds := by
  induction ds generalizing claimed with
  | nil => rfl
  | cons d rest ih => rw [outcomesFrom, List.map_cons, ih]

/-- The names that are taken before an outcome are those of the types that came out before it. -/
lemma taken_of_outcomesFrom {claimed ds before d taken o after}
    (h : m.outcomesFrom claimed ds = before ++ (d, taken, o) :: after) :
    taken = (successes before).reverse ++ claimed ∧ o = m.outcome taken d := by
  induction ds generalizing claimed before with
  | nil => simp [outcomesFrom] at h
  | cons d' rest ih =>
    rw [outcomesFrom] at h
    cases before with
    | nil =>
      cases h
      exact ⟨rfl, rfl⟩
    | cons x before =>
      obtain ⟨rfl, hrest⟩ := List.cons.inj h
      rw [← successes_cons]
      exact ih hrest

/-- The names of the types that came out are distinct. -/
lemma nodup_successes : ((successes m.outcomes).map Prod.fst).Nodup := by
  have hn : (([] : Claimed).map Prod.fst).Nodup := List.nodup_nil
  have h : (((successes m.outcomes).reverse ++ []).map Prod.fst).Nodup := nodup_outcomesFrom hn
  rw [List.append_nil, List.map_reverse, List.nodup_reverse] at h
  exact h

/-- So are those of the types that came out before another outcome. -/
lemma nodup_successes_before {before x after} (h : m.outcomes = before ++ x :: after) :
    ((successes before).map Prod.fst).Nodup := by
  have hn := nodup_successes (m := m)
  rw [h, successes, List.filterMap_append, List.map_append] at hn
  exact hn.of_append_left

/-- The outputs are the types that came out. -/
lemma map_qualifiedName_outputs :
    m.generate.outputs.map AccessorType.qualifiedName = (successes m.outcomes).map Prod.fst := by
  unfold generate Generation.ofOutcomes successes
  generalize m.outcomes = os
  induction os with
  | nil => rfl
  | cons x rest ih =>
    obtain ⟨d, taken, o⟩ := x
    cases o with
    | error e => simpa using ih
    | ok g => simpa using ih

/-- What becomes of a template in a run. -/
lemma settles_of_outcomes {before d taken o after}
    (h : m.outcomes = before ++ (d, taken, o) :: after) : m.Settles before d o := by
  obtain ⟨ht, rfl⟩ := taken_of_outcomesFrom h
  rw [List.append_nil] at ht
  apply settles_of_outcome
  · simp [ht]
  · rw [ht, List.map_reverse, List.nodup_reverse]
    exact nodup_successes_before h

/-- A type that came out is that of a template of the manifest, under a name that is not
reserved. -/
lemma of_mem_outcomes {d taken g} (h : (d, taken, .ok g) ∈ m.outcomes) :
    ∃ t, d.resolve m.classTable = .ok t ∧ t.generate = .ok g ∧
      g.qualifiedName = t.outputQualifiedName ∧ g.template = d.className ∧
      ¬ m.IsReserved g.qualifiedName := by
  obtain ⟨-, ho⟩ := outcome_of_mem_outcomesFrom h
  obtain ⟨t, ht, he, hg⟩ := outcome_eq_ok.1 ho.symm
  obtain ⟨hn, hc⟩ := Template.names_of_generate hg
  rw [TemplateDecl.className_of_resolve ht] at hc
  refine ⟨t, ht, hg, hn, hc, ?_⟩
  rw [hn]
  exact (nameError?_eq_none.1 he).1

/-- An output is what became of some template. -/
lemma mem_outputs_iff {g} :
    g ∈ m.generate.outputs ↔ ∃ d taken, (d, taken, .ok g) ∈ m.outcomes := by
  unfold generate Generation.ofOutcomes
  simp only [List.mem_filterMap, List.mem_map]
  constructor
  · rintro ⟨_, ⟨⟨d, taken, o⟩, hx, rfl⟩, ho⟩
    cases o with
    | error e => cases ho
    | ok g' =>
      cases ho
      exact ⟨d, taken, hx⟩
  · rintro ⟨d, taken, hx⟩
    exact ⟨_, ⟨_, hx, rfl⟩, rfl⟩

/-- The names of the outputs are legal. -/
lemma isLegal_name_of_mem_outputs {g} (h : g ∈ m.generate.outputs) : Identifier.isLegal g.name := by
  obtain ⟨t, ht, hg⟩ := exists_template_of_mem_outputs h
  obtain ⟨-, as, -, rfl⟩ := Template.generate_eq_ok.1 hg
  exact ht.outputName

/-- A template that does not resolve is not refused for the name of its output. -/
lemma resolve_ne_duplicateOutput {classes} {d : TemplateDecl} {template output previous} :
    d.resolve classes ≠ .error (.duplicateOutput template output previous) := by
  intro h
  obtain ⟨_, h⟩ | ⟨_, -, -, _, h⟩ := TemplateDecl.resolve_eq_error h
  · cases h
  · cases h

/-- A template is refused for the name of its output exactly if it resolves, the name is not
reserved, and the name is among the successes. -/
lemma Settles.eq_duplicateOutput_iff {before d o template output previous}
    (h : m.Settles before d o) (hn : ((successes before).map Prod.fst).Nodup) :
    o = .error (.duplicateOutput template output previous) ↔
      d.className = template ∧ ¬ m.IsReserved output ∧
      (∃ t, d.resolve m.classTable = .ok t ∧ t.outputQualifiedName = output) ∧
      (output, previous) ∈ successes before := by
  cases h with
  | unresolved hd =>
    constructor
    · intro h
      cases h
      exact (resolve_ne_duplicateOutput hd).elim
    · rintro ⟨-, -, ⟨t, ht, -⟩, -⟩
      rw [hd] at ht
      cases ht
  | reserved hd hr =>
    constructor
    · nofun
    · rintro ⟨-, hnr, ⟨t, ht, rfl⟩, -⟩
      rw [hd] at ht
      cases ht
      exact (hnr hr).elim
  | @taken t previous' hd hr hp =>
    have hc := TemplateDecl.className_of_resolve hd
    constructor
    · intro h
      cases h
      exact ⟨hc.symm, hr, ⟨t, hd, rfl⟩, hp⟩
    · rintro ⟨rfl, -, ⟨t', ht, he⟩, hp'⟩
      obtain rfl : t = t' := Except.ok.inj (hd.symm.trans ht)
      -- the name is taken only once, so that both are the same template
      rw [← List.lookup_eq_some_iff_mem hn] at hp hp'
      rw [he, hp'] at hp
      rw [hc, he, Option.some.inj hp]
  | generated hd hr hne =>
    constructor
    · intro h
      exact (Template.generate_ne_duplicateOutput h).elim
    · rintro ⟨-, -, ⟨t', ht, he⟩, hp⟩
      obtain rfl := Except.ok.inj (hd.symm.trans ht)
      exact (hne _ hp he.symm).elim

end Manifest

/-- Each template has one outcome, in order, and outputs and failures are the outcomes of the two
kinds. The names of the outputs are distinct and none is that of a class or a template. A template
is refused for the name of its output exactly if it resolves, the name is not reserved, and an
earlier template has put it out; the error names that one. -/
theorem Manifest.output_names_unique (m : Manifest) :
    m.outcomes.map (·.1) = m.templates ∧
    m.generate.outputs =
      (m.outcomes.map (·.2.2)).filterMap (fun | .ok g => some g | .error _ => none) ∧
    m.generate.failures =
      (m.outcomes.map (·.2.2)).filterMap (fun | .ok _ => none | .error e => some e) ∧
    (m.generate.outputs.map AccessorType.qualifiedName).Nodup ∧
    (∀ g ∈ m.generate.outputs, ¬ m.IsReserved g.qualifiedName) ∧
    ∀ before d taken o after, m.outcomes = before ++ (d, taken, o) :: after →
      m.Settles before d o ∧
      (∀ g, o = .ok g → g.template = d.className ∧ ∃ t, d.resolve m.classTable = .ok t ∧
        g.qualifiedName = t.outputQualifiedName) ∧
      ∀ template output previous, o = .error (.duplicateOutput template output previous) ↔
        d.className = template ∧ ¬ m.IsReserved output ∧
        (∃ t, d.resolve m.classTable = .ok t ∧ t.outputQualifiedName = output) ∧
        ∃ d' taken' g, (d', taken', .ok g) ∈ before ∧ g.qualifiedName = output ∧
          d'.className = previous := by
  refine ⟨map_fst_outcomesFrom, rfl, rfl, ?_, ?_, ?_⟩
  · rw [map_qualifiedName_outputs]
    exact nodup_successes
  · intro g hg
    obtain ⟨d, taken, hd⟩ := mem_outputs_iff.1 hg
    obtain ⟨t, -, -, -, -, hr⟩ := of_mem_outcomes hd
    exact hr
  · intro before d taken o after h
    have hs := settles_of_outcomes h
    refine ⟨hs, ?_, ?_⟩
    · rintro g rfl
      have hx : (d, taken, .ok g) ∈ m.outcomes := by simp [h]
      obtain ⟨t, ht, -, hn, hc, -⟩ := of_mem_outcomes hx
      exact ⟨hc, t, ht, hn⟩
    · intro template output previous
      rw [hs.eq_duplicateOutput_iff (nodup_successes_before h), mem_successes]
      have he : ∀ d' taken' g, (d', taken', .ok g) ∈ before → g.template = d'.className := by
        intro d' taken' g hx
        have hx : (d', taken', .ok g) ∈ m.outcomes := by simp [h, hx]
        obtain ⟨-, -, -, -, hc, -⟩ := of_mem_outcomes hx
        exact hc
      constructor
      · rintro ⟨hd, hr, ht, d', taken', g, hx, e⟩
        cases e
        exact ⟨hd, hr, ht, d', taken', g, hx, rfl, (he d' taken' g hx).symm⟩
      · rintro ⟨hd, hr, ht, d', taken', g, hx, rfl, rfl⟩
        exact ⟨hd, hr, ht, d', taken', g, hx, by rw [he d' taken' g hx]⟩

/-- A template without functions, as declared. -/
def TemplateDecl.bare (className name : String) : TemplateDecl where
  className
  annotation := some { name }

/-- A template without members. -/
def Template.bare (className outputName : String) : Template where
  className
  outputName

/-- The type of a template without members. -/
def AccessorType.bare (className outputName : String) : AccessorType :=
  .ofAccessors (.bare className outputName) []

/-- A template without functions resolves if its names will do. -/
lemma TemplateDecl.resolve_bare {classes className name} (hc : className ≠ "")
    (hn : Identifier.isLegal name) :
    (bare className name).resolve classes = .ok (.bare className name) := by
  have hne : name ≠ "" := Identifier.ne_empty_of_canBegin (Identifier.canBegin_of_isLegal hn)
  have ha : checkedAnnotation (bare className name) = .ok { name } := by
    unfold checkedAnnotation
    simp [bare, require, hc, hne, hn, FunctionDecl.checkPrefixes, bind, Except.bind, pure,
      Except.pure]
  unfold resolve
  rw [ha]
  rfl

/-- A template without members yields a type. -/
lemma Template.generate_bare {className outputName} :
    (bare className outputName).generate = .ok (.bare className outputName) := by
  rw [generate_eq_ok]
  exact ⟨⟨.nil, List.nodup_singleton _⟩, [], .nil, rfl⟩

/-- What becomes of a template without functions whose name will do. -/
lemma Manifest.outcome_bare {m : Manifest} {claimed className name} (hc : className ≠ "")
    (hn : Identifier.isLegal name)
    (hr : ¬ m.IsReserved (Template.bare className name).outputQualifiedName)
    (hl : claimed.lookup (Template.bare className name).outputQualifiedName = none) :
    m.outcome claimed (.bare className name) = .ok (.bare className name) :=
  outcome_eq_ok.2
    ⟨_, TemplateDecl.resolve_bare hc hn, nameError?_eq_none.2 ⟨hr, hl⟩, Template.generate_bare⟩

/-- Templates without functions all yield their types, if the names will do and are distinct. -/
lemma Manifest.outcomesFrom_bare {m : Manifest} {claimed} {ts : List (String × String)}
    (h : ∀ p ∈ ts, p.1 ≠ "" ∧ Identifier.isLegal p.2 ∧
      ¬ m.IsReserved (Template.bare p.1 p.2).outputQualifiedName)
    (hn : (ts.map fun p => (Template.bare p.1 p.2).outputQualifiedName).Nodup)
    (hl : ∀ p ∈ ts, claimed.lookup (Template.bare p.1 p.2).outputQualifiedName = none) :
    (m.outcomesFrom claimed (ts.map fun p => .bare p.1 p.2)).map (·.2.2) =
      ts.map fun p => .ok (.bare p.1 p.2) := by
  induction ts generalizing claimed with
  | nil => rfl
  | cons p rest ih =>
    obtain ⟨⟨hc, hi, hr⟩, hrest⟩ := List.forall_mem_cons.1 h
    rw [List.map_cons, List.nodup_cons] at hn
    have ho := outcome_bare hc hi hr (hl p List.mem_cons_self)
    rw [List.map_cons, outcomesFrom, ho, List.map_cons, List.map_cons, ih hrest hn.2]
    -- the name that is taken now is none of those to come
    intro q hq
    have hne : (Template.bare q.1 q.2).outputQualifiedName ≠
        (Template.bare p.1 p.2).outputQualifiedName := fun e =>
      hn.1 (List.mem_map.2 ⟨q, hq, e⟩)
    have hb : (AccessorType.bare p.1 p.2).qualifiedName =
        (Template.bare p.1 p.2).outputQualifiedName := rfl
    rw [claim, List.lookup_cons, hb, beq_false_of_ne hne]
    exact hl q (List.mem_cons_of_mem _ hq)

/-- The outputs of templates without functions. -/
lemma Manifest.outputs_bare {m : Manifest} {ts : List (String × String)}
    (hm : m.templates = ts.map fun p => .bare p.1 p.2)
    (h : ∀ p ∈ ts, p.1 ≠ "" ∧ Identifier.isLegal p.2 ∧
      ¬ m.IsReserved (Template.bare p.1 p.2).outputQualifiedName)
    (hn : (ts.map fun p => (Template.bare p.1 p.2).outputQualifiedName).Nodup) :
    m.generate.outputs = ts.map fun p => .bare p.1 p.2 := by
  unfold generate outcomes
  rw [hm, outcomesFrom_bare h hn fun _ _ => rfl]
  simp [Generation.ofOutcomes, List.filterMap_map]

namespace Rivals

/-- Two templates in one package whose types have the same name. -/
def manifest : Manifest where
  templates := [.bare "com.example.First" "Shared", .bare "com.example.Second" "Shared"]

/-- The name of the types will do. -/
lemma not_isReserved : ¬ manifest.IsReserved "com.example.Shared" := by
  rw [Manifest.isReserved_iff]
  decide +kernel

end Rivals

/-- Of two templates that claim one name the first has it, and the second is refused. -/
theorem Rivals.outcomes_manifest :
    Rivals.manifest.outcomes =
      [(.bare "com.example.First" "Shared", [], .ok (.bare "com.example.First" "Shared")),
        (.bare "com.example.Second" "Shared", [("com.example.Shared", "com.example.First")],
          .error (.duplicateOutput "com.example.Second" "com.example.Shared"
            "com.example.First"))] := by
  have hl : Identifier.isLegal "Shared" := by decide +kernel
  have hq : (Template.bare "com.example.First" "Shared").outputQualifiedName =
      "com.example.Shared" := by decide +kernel
  have hq' : (Template.bare "com.example.Second" "Shared").outputQualifiedName =
      "com.example.Shared" := by decide +kernel
  have hfirst : manifest.outcome [] (.bare "com.example.First" "Shared") =
      .ok (.bare "com.example.First" "Shared") :=
    Manifest.outcome_bare (by decide) hl (by rw [hq]; exact not_isReserved) rfl
  have ho : manifest.outcomes =
      [(.bare "com.example.First" "Shared", [], .ok (.bare "com.example.First" "Shared")),
        (.bare "com.example.Second" "Shared", [("com.example.Shared", "com.example.First")],
          manifest.outcome [("com.example.Shared", "com.example.First")]
            (.bare "com.example.Second" "Shared"))] := by
    have hg : (AccessorType.bare "com.example.First" "Shared").qualifiedName =
        "com.example.Shared" := hq
    simp only [Manifest.outcomes, manifest, Manifest.outcomesFrom] at hfirst ⊢
    rw [hfirst, Manifest.claim, hg]
    rfl
  obtain ⟨-, -, -, -, -, h⟩ := Manifest.output_names_unique manifest
  obtain ⟨-, -, h⟩ := h [_] _ _ _ [] ho
  rw [ho, (h "com.example.Second" "com.example.Shared" "com.example.First").2
    ⟨rfl, not_isReserved, ⟨_, TemplateDecl.resolve_bare (by decide) hl, hq'⟩,
      _, _, _, List.mem_singleton_self _, hq, rfl⟩]

end TypedBundle
