import TypedBundle.Generation
import TypedBundle.Proofs.Manifest.LegalNames

/-!
# Where generated types come from

Every type that a run generates is that of a resolved template of the manifest, so what holds of
all templates with legal names holds of all outputs.
-/

namespace TypedBundle.Manifest

/-- What became of a template is what it does under the names taken before it. -/
lemma outcome_of_mem_outcomesFrom {m claimed d taken o ds}
    (h : (d, taken, o) ∈ outcomesFrom m claimed ds) : d ∈ ds ∧ o = m.outcome taken d := by
  induction ds generalizing claimed with
  | nil => cases h
  | cons d' rest ih =>
    rw [outcomesFrom] at h
    obtain h | h := List.mem_cons.1 h
    · cases h
      exact ⟨List.mem_cons_self, rfl⟩
    · exact ⟨List.mem_cons_of_mem _ (ih h).1, (ih h).2⟩

/-- An output is what became of a template. -/
lemma exists_outcome_of_mem_outputs {m : Manifest} {g} (h : g ∈ m.generate.outputs) :
    ∃ d ∈ m.templates, ∃ claimed, m.outcome claimed d = .ok g := by
  unfold generate Generation.ofOutcomes at h
  obtain ⟨o, ho, hg⟩ := List.mem_filterMap.1 h
  obtain ⟨⟨d, claimed, _⟩, hx, rfl⟩ := List.mem_map.1 ho
  obtain ⟨hd, rfl⟩ := outcome_of_mem_outcomesFrom hx
  split at hg
  · next e =>
    cases hg
    exact ⟨d, hd, claimed, e⟩
  · cases hg

/-- A template that comes out well resolves, and its type is generated. -/
lemma exists_template_of_outcome {m claimed d g} (h : outcome m claimed d = .ok g) :
    ∃ t, d.resolve m.classTable = .ok t ∧ t.generate = .ok g := by
  unfold outcome at h
  rw [Except.bind_eq_ok] at h
  obtain ⟨t, ht, h⟩ := h
  split at h
  · cases h
  · exact ⟨t, ht, h⟩

/-- An output is the type of a template with legal names. -/
lemma exists_template_of_mem_outputs {m : Manifest} {g} (h : g ∈ m.generate.outputs) :
    ∃ t : Template, t.Legal ∧ t.generate = .ok g := by
  obtain ⟨d, -, claimed, ho⟩ := exists_outcome_of_mem_outputs h
  obtain ⟨t, ht, hg⟩ := exists_template_of_outcome ho
  exact ⟨t, TemplateDecl.resolve_legal ht, hg⟩

/-- A lone template that resolves to a free name and generates a type puts it out. -/
lemma outputs_of_single {m : Manifest} {d t g} (hm : m.templates = [d])
    (ht : d.resolve m.classTable = .ok t) (hn : m.nameError? [] t = none)
    (hg : t.generate = .ok g) : m.generate.outputs = [g] := by
  have ho : m.outcome [] d = .ok g := by
    unfold outcome
    rw [Except.bind_eq_ok]
    refine ⟨t, ht, ?_⟩
    rw [hn]
    exact hg
  unfold generate outcomes Generation.ofOutcomes
  rw [hm, outcomesFrom, outcomesFrom, ho]
  rfl

end TypedBundle.Manifest
