import TypedBundle.Proofs.Manifest.Outcomes

/-!
# Independence of templates

What becomes of a template depends on the manifest by no more than the classes that it knows, the
names of its templates and the names that are taken. So a template that fails leaves no trace but
its name (`Manifest.failure_isolated`), and if no two templates claim one name for their types,
declarations can stand in any order (`Manifest.order_independent`).
-/

namespace TypedBundle.Manifest

/-- The manifests know the same classes and have templates of the same names. -/
structure Agrees (m m' : Manifest) : Prop where
  classTable : m.classTable = m'.classTable
  names : ∀ name, (∃ d ∈ m.templates, d.className = name) ↔ ∃ d ∈ m'.templates, d.className = name

variable {m m' : Manifest}

/-- Whether a name will do depends on the classes and the names of the templates. -/
lemma Agrees.nameError?_eq {claimed t} (h : m.Agrees m') :
    m.nameError? claimed t = m'.nameError? claimed t := by
  have hn : m.templates.any (·.className == t.outputQualifiedName) =
      m'.templates.any (·.className == t.outputQualifiedName) := by
    rw [Bool.eq_iff_iff]
    simpa using h.names t.outputQualifiedName
  simp only [nameError?, hn, h.classTable]

/-- Manifests that agree on what an outcome reads have the same outcome of a template. -/
lemma Agrees.outcome_eq {claimed d} (h : m.Agrees m') :
    m.outcome claimed d = m'.outcome claimed d := by
  unfold outcome
  simp only [h.classTable, h.nameError?_eq]

/-- So have they of templates in turn. -/
lemma Agrees.outcomesFrom_eq {claimed ds} (h : m.Agrees m') :
    m.outcomesFrom claimed ds = m'.outcomesFrom claimed ds := by
  induction ds generalizing claimed with
  | nil => rfl
  | cons d rest ih => rw [outcomesFrom, outcomesFrom, h.outcome_eq, ih]

/-- The manifest with another template at the position. -/
def replace (m : Manifest) (n : Nat) (d : TemplateDecl) : Manifest :=
  { m with templates := m.templates.set n d }

/-- The template stands at the position and fails there. -/
def FailsAt (m : Manifest) (n : Nat) (d : TemplateDecl) : Prop :=
  ∃ taken e, m.outcomes[n]? = some (d, taken, .error e)

/-- The names that are taken at a position do not depend on the template there. -/
lemma getElem?_outcomesFrom_set {claimed ds n d taken o d'}
    (h : (m.outcomesFrom claimed ds)[n]? = some (d, taken, o)) :
    (m.outcomesFrom claimed (ds.set n d'))[n]? = some (d', taken, m.outcome taken d') := by
  induction ds generalizing claimed n with
  | nil => cases h
  | cons d₀ rest ih =>
    cases n with
    | zero =>
      cases h
      rfl
    | succ n => exact ih h

/-- If a template fails, another one that fails in its place changes no other outcome. -/
lemma outcomesFrom_set {claimed ds n d taken e d' e'}
    (h : (m.outcomesFrom claimed ds)[n]? = some (d, taken, .error e))
    (h' : m.outcome taken d' = .error e') :
    m.outcomesFrom claimed (ds.set n d') =
      (m.outcomesFrom claimed ds).set n (d', taken, .error e') := by
  induction ds generalizing claimed n with
  | nil => cases h
  | cons d₀ rest ih =>
    cases n with
    | zero =>
      -- neither failure takes a name, so the rest runs under the same names
      obtain ⟨rfl, rfl, ho⟩ : d₀ = d ∧ claimed = taken ∧ m.outcome claimed d₀ = .error e := by
        simpa [outcomesFrom] using h
      rw [List.set_cons_zero, outcomesFrom, outcomesFrom, List.set_cons_zero, h', ho]
      rfl
    | succ n =>
      rw [List.set_cons_succ, outcomesFrom, outcomesFrom, List.set_cons_succ]
      rw [ih h]

/-- A template in the place of another one of its name changes no name. -/
lemma agrees_replace {n d d'} (hd : m.templates[n]? = some d) (hc : d'.className = d.className) :
    (m.replace n d').Agrees m where
  classTable := rfl
  names name := by
    have hn : (m.templates.set n d').map TemplateDecl.className =
        m.templates.map TemplateDecl.className := by
      obtain ⟨hlt, rfl⟩ := List.getElem?_eq_some_iff.1 hd
      rw [List.map_set, hc, ← List.map_set, List.set_getElem_self]
    simp only [← List.mem_map, replace, hn]

/-- A template that fails at a position is there. -/
lemma FailsAt.getElem? {n d} (h : m.FailsAt n d) : m.templates[n]? = some d := by
  obtain ⟨taken, e, h⟩ := h
  have hf : m.outcomes.map Prod.fst = m.templates := map_fst_outcomesFrom
  rw [← hf, List.getElem?_map, h]
  rfl

/-- If a template fails, another one that fails in its place changes the outcome there. -/
lemma FailsAt.outcomes_replace {n d d'} (h : m.FailsAt n d) (h' : (m.replace n d').FailsAt n d')
    (hc : d'.className = d.className) :
    ∃ taken e e', m.outcomes[n]? = some (d, taken, .error e) ∧
      (m.replace n d').outcomes = m.outcomes.set n (d', taken, .error e') := by
  have ha := agrees_replace h.getElem? hc
  have ho : (m.replace n d').outcomes = m.outcomesFrom [] (m.templates.set n d') :=
    ha.outcomesFrom_eq
  obtain ⟨taken, e, h⟩ := h
  obtain ⟨taken', e', h'⟩ := h'
  rw [ho, getElem?_outcomesFrom_set h] at h'
  obtain ⟨-, hp⟩ := Prod.mk.inj (Option.some.inj h')
  obtain ⟨-, he⟩ := Prod.mk.inj hp
  exact ⟨taken, e, e', h, ho.trans (outcomesFrom_set h he)⟩

end Manifest

/-- An error in the place of another one changes no output and no other failure. -/
lemma Generation.ofOutcomes_set {os : List Outcome} {n e} (e') (h : os[n]? = some (.error e)) :
    (ofOutcomes (os.set n (.error e'))).outputs = (ofOutcomes os).outputs ∧
    ∃ before after, (ofOutcomes os).failures = before ++ e :: after ∧
      (ofOutcomes (os.set n (.error e'))).failures = before ++ e' :: after := by
  obtain ⟨hlt, h⟩ := List.getElem?_eq_some_iff.1 h
  have hos : os = os.take n ++ .error e :: os.drop (n + 1) := by
    rw [← h, List.getElem_cons_drop, List.take_append_drop]
  -- both lists are the same around the error
  rw [List.set_eq_take_append_cons_drop, if_pos hlt]
  generalize os.take n = before at hos ⊢
  generalize os.drop (n + 1) = after at hos ⊢
  subst hos
  refine ⟨by simp [ofOutcomes], (ofOutcomes before).failures, (ofOutcomes after).failures, ?_, ?_⟩
  · simp [ofOutcomes]
  · simp [ofOutcomes]

/-- If a template fails, any other of its name that fails in its place leaves all outputs as they
are, and the outcomes of the other templates. Of the failures only the one at the place changes. -/
theorem Manifest.failure_isolated {m : Manifest} {n d d'} (h : m.FailsAt n d)
    (h' : (m.replace n d').FailsAt n d') (hc : d'.className = d.className) :
    (m.replace n d').generate.outputs = m.generate.outputs ∧
    (∀ k, k ≠ n → (m.replace n d').outcomes[k]? = m.outcomes[k]?) ∧
    ∃ taken e e', m.outcomes[n]? = some (d, taken, .error e) ∧
      (m.replace n d').outcomes[n]? = some (d', taken, .error e') ∧
      ∃ before after, m.generate.failures = before ++ e :: after ∧
        (m.replace n d').generate.failures = before ++ e' :: after := by
  obtain ⟨taken, e, e', hn, ho⟩ := h.outcomes_replace h' hc
  have hlt : n < m.outcomes.length := (List.getElem?_eq_some_iff.1 hn).1
  have he : (m.outcomes.map (·.2.2))[n]? = some (.error e) := by
    rw [List.getElem?_map, hn]
    rfl
  have hg : (m.replace n d').generate =
      .ofOutcomes ((m.outcomes.map (·.2.2)).set n (.error e')) := by
    rw [generate, ho, List.map_set]
  obtain ⟨hout, hfail⟩ := Generation.ofOutcomes_set e' he
  refine ⟨?_, ?_, taken, e, e', hn, ?_, ?_⟩
  · rw [hg, hout]
    rfl
  · intro k hk
    rw [ho, List.getElem?_set_ne hk.symm]
  · rw [ho, List.getElem?_set_self hlt]
  · rw [hg]
    exact hfail

namespace Manifest

variable {m : Manifest}

/-- Each template has its outcome at its own position. -/
lemma exists_getElem?_outcomes {n : Nat} {d} (h : m.templates[n]? = some d) :
    ∃ taken, m.outcomes[n]? = some (d, taken, m.outcome taken d) := by
  have hf : m.outcomes.map Prod.fst = m.templates := map_fst_outcomesFrom
  rw [← hf, List.getElem?_map] at h
  obtain ⟨⟨d', taken, o⟩, hn, rfl⟩ := Option.map_eq_some_iff.1 h
  obtain ⟨-, rfl⟩ := outcome_of_mem_outcomesFrom (List.mem_of_getElem? hn)
  exact ⟨taken, hn⟩

/-- A template that does not resolve fails wherever it stands. -/
lemma failsAt_of_resolve_error {n : Nat} {d e} (h : m.templates[n]? = some d)
    (hd : d.resolve m.classTable = .error e) : m.FailsAt n d := by
  obtain ⟨taken, hn⟩ := exists_getElem?_outcomes h
  rw [outcome_of_resolve_error hd] at hn
  exact ⟨taken, e, hn⟩

end Manifest

namespace Rivals

/-- A class that is not annotated as a template. -/
def draft : TemplateDecl where
  className := "com.example.Second"

/-- A third template after the two that claim one name. -/
def crowded : Manifest where
  templates := manifest.templates ++ [.bare "com.example.Third" "Other"]

/-- The second template fails, because its name is taken. -/
lemma failsAt_second : crowded.FailsAt 1 (.bare "com.example.Second" "Shared") := by
  have hl : Identifier.isLegal "Shared" := by decide +kernel
  -- the first template takes the name, which nothing else has
  have hq : (Template.bare "com.example.First" "Shared").outputQualifiedName =
      "com.example.Shared" := by decide +kernel
  have hq' : (Template.bare "com.example.Second" "Shared").outputQualifiedName =
      "com.example.Shared" := by decide +kernel
  have hr : ¬ crowded.IsReserved "com.example.Shared" := by
    rw [Manifest.isReserved_iff]
    decide +kernel
  have hfirst : crowded.outcome [] (.bare "com.example.First" "Shared") =
      .ok (.bare "com.example.First" "Shared") :=
    Manifest.outcome_bare (by decide) hl (by rwa [hq]) rfl
  have hn : crowded.outcomes[1]? = some (.bare "com.example.Second" "Shared", _, _) := rfl
  rw [hfirst, Manifest.claim] at hn
  rw [Manifest.outcome_of_resolve (TemplateDecl.resolve_bare (by decide) hl),
    Manifest.nameError?_eq_some.2 (.inr ⟨hq' ▸ hr, "com.example.First", ?_, rfl⟩)] at hn
  · exact ⟨_, _, hn⟩
  · rw [hq']
    exact List.lookup_cons_self

/-- The draft fails in the second place. -/
lemma failsAt_draft : (crowded.replace 1 draft).FailsAt 1 draft :=
  Manifest.failsAt_of_resolve_error rfl rfl

end Rivals

/-- Whether the second template claims a name that is taken or lacks its annotation, the outputs are
the same. -/
theorem Rivals.outputs_draft :
    Rivals.crowded.FailsAt 1 (.bare "com.example.Second" "Shared") ∧
      (Rivals.crowded.replace 1 Rivals.draft).FailsAt 1 Rivals.draft ∧
      Rivals.draft.className = (TemplateDecl.bare "com.example.Second" "Shared").className ∧
      (Rivals.crowded.replace 1 Rivals.draft).generate.outputs =
        Rivals.crowded.generate.outputs :=
  ⟨Rivals.failsAt_second, Rivals.failsAt_draft, rfl,
    (Manifest.failure_isolated Rivals.failsAt_second Rivals.failsAt_draft rfl).1⟩

namespace Manifest

variable {m m' : Manifest}

/-- No two templates that resolve give their types one full name. -/
def HasDistinctNames (m : Manifest) : Prop :=
  m.templates.Pairwise fun d d' => ∀ t t', d.resolve m.classTable = .ok t →
    d'.resolve m.classTable = .ok t' → t.outputQualifiedName ≠ t'.outputQualifiedName

/-- Names that are taken do not matter to a template whose type has another one. -/
lemma outcome_of_forall_ne {claimed d}
    (h : ∀ t, d.resolve m.classTable = .ok t → ∀ p ∈ claimed, p.1 ≠ t.outputQualifiedName) :
    m.outcome claimed d = m.outcome [] d := by
  cases hd : d.resolve m.classTable with
  | error e => rw [outcome_of_resolve_error hd, outcome_of_resolve_error hd]
  | ok t =>
    have hl : claimed.lookup t.outputQualifiedName = none :=
      List.lookup_eq_none_iff_ne.2 (h t hd)
    rw [outcome_of_resolve hd, outcome_of_resolve hd]
    simp only [nameError?, hl, List.lookup_nil]

/-- If no two templates that resolve claim one name, each becomes what it does on its own. -/
lemma map_outcomesFrom {claimed ds}
    (hp : ds.Pairwise fun d d' => ∀ t t', d.resolve m.classTable = .ok t →
      d'.resolve m.classTable = .ok t' → t.outputQualifiedName ≠ t'.outputQualifiedName)
    (h : ∀ d ∈ ds, ∀ t, d.resolve m.classTable = .ok t →
      ∀ p ∈ claimed, p.1 ≠ t.outputQualifiedName) :
    (m.outcomesFrom claimed ds).map (·.2.2) = ds.map (m.outcome []) := by
  induction ds generalizing claimed with
  | nil => rfl
  | cons d rest ih =>
    obtain ⟨hd, hrest⟩ := List.forall_mem_cons.1 h
    rw [List.pairwise_cons] at hp
    rw [outcomesFrom, List.map_cons, List.map_cons, ← outcome_of_forall_ne hd]
    congr 1
    apply ih hp.2
    -- the name that the first template takes is none of those to come
    intro d' hd' t' ht' p hpm
    cases ho : m.outcome claimed d with
    | error e =>
      rw [ho, claim] at hpm
      exact hrest d' hd' t' ht' p hpm
    | ok g =>
      rw [ho, claim] at hpm
      obtain rfl | hpm := List.mem_cons.1 hpm
      · obtain ⟨t, ht, -, hg⟩ := outcome_eq_ok.1 ho
        have hn : g.qualifiedName = t.outputQualifiedName := (Template.names_of_generate hg).1
        dsimp only
        rw [hn]
        exact hp.1 d' hd' t t' ht ht'
      · exact hrest d' hd' t' ht' p hpm

/-- If names are distinct, each template comes out as if it were alone. -/
lemma HasDistinctNames.map_outcomes (h : m.HasDistinctNames) :
    m.outcomes.map (·.2.2) = m.templates.map (m.outcome []) :=
  map_outcomesFrom h (by simp)

/-- Declarations in another order declare the same classes and templates of the same names. -/
lemma agrees_of_perm (hc : (m.classes.map ClassInfo.name).Nodup)
    (hp : m'.classes.Perm m.classes) (hq : m'.templates.Perm m.templates) : m'.Agrees m where
  classTable := (ClassTable.declareAll_of_perm hc hp.symm).symm
  names name := by simp only [hq.mem_iff]

/-- Names stay distinct in another order. -/
lemma HasDistinctNames.of_perm (h : m.HasDistinctNames) (ha : m'.Agrees m)
    (hq : m'.templates.Perm m.templates) : m'.HasDistinctNames := by
  unfold HasDistinctNames at h ⊢
  rw [ha.classTable]
  refine hq.symm.pairwise h ?_
  intro d d' hd t t' ht ht'
  exact (hd t' t ht' ht).symm

end Manifest

/-- Outcomes in another order have the same outputs and failures in another order. -/
lemma Generation.perm_ofOutcomes {os os' : List Outcome} (h : os.Perm os') :
    (ofOutcomes os).outputs.Perm (ofOutcomes os').outputs ∧
      (ofOutcomes os).failures.Perm (ofOutcomes os').failures :=
  ⟨h.filterMap _, h.filterMap _⟩

/-- If no two classes share a name, their order does not matter. If no two templates that resolve
claim one name, what becomes of each does not depend on the order of the templates: it is what
becomes of it on its own, at whatever position it stands. -/
theorem Manifest.order_independent {m m' : Manifest} (hc : (m.classes.map ClassInfo.name).Nodup)
    (hd : m.HasDistinctNames) (hp : m'.classes.Perm m.classes)
    (hq : m'.templates.Perm m.templates) :
    (m'.templates = m.templates → m'.generate = m.generate) ∧
    m.generate = .ofOutcomes (m.templates.map (m.outcome [])) ∧
    m'.generate = .ofOutcomes (m'.templates.map (m.outcome [])) ∧
    (∀ i j : Nat, m'.templates[i]? = m.templates[j]? →
      m'.outcomes[i]?.map (·.2.2) = m.outcomes[j]?.map (·.2.2)) ∧
    m'.generate.outputs.Perm m.generate.outputs ∧
    m'.generate.failures.Perm m.generate.failures := by
  have ha := agrees_of_perm hc hp hq
  have ho : m.outcomes.map (·.2.2) = m.templates.map (m.outcome []) := hd.map_outcomes
  have ho' : m'.outcomes.map (·.2.2) = m'.templates.map (m.outcome []) := by
    rw [(hd.of_perm ha hq).map_outcomes]
    exact List.map_congr_left fun d _ => ha.outcome_eq
  have hg : m.generate = .ofOutcomes (m.templates.map (m.outcome [])) := by rw [generate, ho]
  have hg' : m'.generate = .ofOutcomes (m'.templates.map (m.outcome [])) := by rw [generate, ho']
  refine ⟨?_, hg, hg', ?_, ?_⟩
  · intro ht
    rw [hg, hg', ht]
  · intro i j hij
    rw [← List.getElem?_map, ← List.getElem?_map, ho, ho', List.getElem?_map, List.getElem?_map,
      hij]
  · rw [hg, hg']
    exact Generation.perm_ofOutcomes (hq.map _)

namespace Rivals

/-- Two templates that are no rivals, with the draft between them, and two classes. -/
def settled : Manifest where
  classes := [{ name := "com.example.Child" }, { name := "com.example.Mode", kind := .enumeration }]
  templates := [.bare "com.example.First" "Left", draft, .bare "com.example.Third" "Right"]

/-- The same declarations in reverse. -/
def turned : Manifest where
  classes := settled.classes.reverse
  templates := settled.templates.reverse

/-- The templates that resolve claim different names. -/
lemma hasDistinctNames_settled : settled.HasDistinctNames := by
  have hl : Identifier.isLegal "Left" := by decide +kernel
  have hr : Identifier.isLegal "Right" := by decide +kernel
  have hd : ∀ t, draft.resolve settled.classTable ≠ .ok t := by
    rintro t ⟨⟩
  have hne : (Template.bare "com.example.First" "Left").outputQualifiedName ≠
      (Template.bare "com.example.Third" "Right").outputQualifiedName := by decide +kernel
  refine List.pairwise_cons.2 ⟨List.forall_mem_cons.2 ⟨?_, List.forall_mem_singleton.2 ?_⟩,
    List.pairwise_cons.2 ⟨List.forall_mem_singleton.2 ?_, List.pairwise_singleton _ _⟩⟩
  · exact fun t t' _ h => (hd t' h).elim
  · intro t t' h h'
    rw [TemplateDecl.resolve_bare (by decide) hl] at h
    rw [TemplateDecl.resolve_bare (by decide) hr] at h'
    cases h
    cases h'
    exact hne
  · exact fun t t' h => (hd t h).elim

end Rivals

/-- In reverse order the first template becomes at the end what it did at the start. -/
theorem Rivals.outcomes_turned :
    (Rivals.settled.classes.map ClassInfo.name).Nodup ∧ Rivals.settled.HasDistinctNames ∧
      Rivals.turned.classes.Perm Rivals.settled.classes ∧
      Rivals.turned.templates.Perm Rivals.settled.templates ∧
      Rivals.turned.outcomes[2]?.map (·.2.2) = Rivals.settled.outcomes[0]?.map (·.2.2) ∧
      Rivals.turned.generate.outputs.Perm Rivals.settled.generate.outputs := by
  have hn : (Rivals.settled.classes.map ClassInfo.name).Nodup := by decide
  have hd := Rivals.hasDistinctNames_settled
  have hp : Rivals.turned.classes.Perm Rivals.settled.classes := List.reverse_perm _
  have hq : Rivals.turned.templates.Perm Rivals.settled.templates := List.reverse_perm _
  obtain ⟨-, -, -, ho, hout, -⟩ := Manifest.order_independent hn hd hp hq
  exact ⟨hn, hd, hp, hq, ho 2 0 rfl, hout⟩

end TypedBundle
