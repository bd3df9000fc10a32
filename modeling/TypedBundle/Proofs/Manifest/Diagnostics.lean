import TypedBundle.Proofs.Diagnostics.Conservation
import TypedBundle.Proofs.Manifest.Failures

/-!
# Diagnostics of a run

What a sink keeps of a run tells of its outcomes faithfully (`Manifest.diagnostics_faithful`). The
layer and the sink ask for the same level, so that the sink keeps the diagnostics of the events in
order as far as they matter enough (`Sink.observeAll_records`). All events of a template but the
last are for debugging, and the last tells of its outcome.
-/

namespace TypedBundle

namespace Sink

variable {s : Sink}

/-- A sink asks for the level that has been set. -/
lemma isEnabled_setLevel {l l' : Level} :
    (s.setLevel l).isEnabled l' ↔ l' ≠ .off ∧ l.rank ≤ l'.rank :=
  isEnabled_iff

/-- The question of the layer has the same answer as that of the sink. -/
lemma observe_eq {e} : s.observe e = s.record e.diagnostic := by
  unfold observe record
  have hl : e.diagnostic.level = e.severity.level := rfl
  rw [hl]
  split <;> rfl

/-- Events are observed as their diagnostics are recorded. -/
lemma observeAll_eq {es} : s.observeAll es = s.recordAll (es.map Event.diagnostic) := by
  induction es generalizing s with
  | nil => rfl
  | cons e rest ih =>
    change (s.observe e).observeAll rest = (s.record e.diagnostic).recordAll _
    rw [ih, observe_eq]

/-- What is kept of recorded diagnostics is what the sink asks for, in order. -/
lemma recordAll_records {ds} :
    (s.recordAll ds).records = s.records ++ ds.filter fun d => s.isEnabled d.level := by
  induction ds generalizing s with
  | nil => simp [recordAll]
  | cons d rest ih =>
    change ((s.record d).recordAll rest).records = _
    rw [ih, List.filter_cons]
    unfold record
    split
    · exact List.append_assoc ..
    · rfl

/-- The diagnostics of events are kept in order, if their level is high enough. -/
lemma observeAll_records {es} : (s.observeAll es).records =
    s.records ++ (es.map Event.diagnostic).filter fun d => s.isEnabled d.level := by
  rw [observeAll_eq, recordAll_records]

end Sink

namespace Diagnostic

/-- The diagnostic tells that a type came out of the template of the name. -/
structure TellsSuccess (r : Diagnostic) (className : String) : Prop where
  level : r.level = .info
  message : r.message = "Generated type"
  template : r.template = some className
  member : r.member = none

/-- The diagnostic tells of the failure, which is one of the template of the name. -/
structure TellsFailure (r : Diagnostic) (e : GenerationError) (className : String) : Prop where
  template? : e.template? = some className
  level : r.level = .error
  message : r.message = e.message
  template : r.template = some className
  member : r.member = some (e.member?.getD "")
  location_member : ∀ member, e.member? = some member → member ≠ "" →
    r.location = className ++ "." ++ member
  location_template : e.member?.getD "" = "" → r.location = className

end Diagnostic

namespace Manifest

variable {m : Manifest}

/-- What an empty sink with the threshold keeps of a run. -/
def diagnostics (m : Manifest) (threshold : Level) : List Diagnostic :=
  ((Sink.setLevel {} threshold).observeAll m.events).records

/-- The diagnostics of a run are those of its reports that the level asks for. -/
lemma diagnostics_eq_filter {l} :
    m.diagnostics l = m.reports.filter fun r => (Sink.setLevel {} l).isEnabled r.level := by
  unfold diagnostics
  rw [Sink.observeAll_records]
  exact List.nil_append _

/-- Everything that resolution tells on its way is for debugging. -/
lemma severity_of_mem_resolutionEvents {d e} (h : e ∈ m.resolutionEvents d) :
    e.severity = .debug := by
  unfold resolutionEvents at h
  dsimp only at h
  split at h
  · cases h
  · rw [List.mem_append, List.mem_map] at h
    obtain ⟨f, -, rfl⟩ | h := h
    · rfl
    · split at h
      · rw [List.mem_singleton.1 h]
      · cases h

/-- So is everything that classification tells. -/
lemma severity_of_mem_classificationEvents {t e} (h : e ∈ classificationEvents t) :
    e.severity = .debug := by
  unfold classificationEvents at h
  obtain ⟨member, -, h⟩ := List.mem_filterMap.1 h
  obtain ⟨s, -, rfl⟩ := Option.map_eq_some_iff.1 h
  rfl

/-- Above the level for debugging, a sink keeps at most the last event of a template. -/
lemma filter_templateEvents {l : Level} (hl : Level.debug.rank < l.rank) {claimed d o} :
    ((m.templateEvents claimed d o).map Event.diagnostic).filter
        (fun r => (Sink.setLevel {} l).isEnabled r.level) =
      [(outcomeEvent d o).diagnostic].filter
        (fun r => (Sink.setLevel {} l).isEnabled r.level) := by
  have hdebug : ∀ e : Event, e.severity = .debug →
      ¬ (Sink.setLevel {} l).isEnabled e.diagnostic.level := by
    intro e he hk
    have hd : e.diagnostic.level = .debug := congrArg Severity.level he
    rw [hd, Sink.isEnabled_setLevel] at hk
    omega
  unfold templateEvents
  rw [List.map_append, List.filter_append, List.map_singleton, List.append_left_eq_self,
    List.filter_eq_nil_iff, List.forall_mem_map]
  intro e he
  apply hdebug
  obtain h | h := List.mem_append.1 he
  · exact severity_of_mem_resolutionEvents h
  · split at h
    · split at h
      · exact severity_of_mem_classificationEvents h
      · cases h
    · cases h

/-- Above that level, what a sink keeps tells of outcomes. -/
lemma diagnostics_eq {l : Level} (hl : Level.debug.rank < l.rank) :
    m.diagnostics l = (m.outcomes.map fun x => (outcomeEvent x.1 x.2.2).diagnostic).filter
      fun r => (Sink.setLevel {} l).isEnabled r.level := by
  rw [diagnostics_eq_filter]
  unfold reports events
  induction m.outcomes with
  | nil => rfl
  | cons x rest ih =>
    rw [List.flatMap_cons, List.map_append, List.filter_append, ih, filter_templateEvents hl,
      ← List.filter_append]
    rfl

/-- The event of a type that came out tells of its template. -/
lemma tellsSuccess {d g} (h : g.template = d.className) :
    (outcomeEvent d (.ok g)).diagnostic.TellsSuccess d.className :=
  ⟨rfl, rfl, congrArg some h, rfl⟩

/-- The event of a failure tells of it. -/
lemma tellsFailure {d e className} (h : e.template? = some className) :
    (outcomeEvent d (.error e)).diagnostic.TellsFailure e className := by
  have ht : (outcomeEvent d (.error e)).diagnostic.template = some className := by
    change some (e.template?.getD d.className) = _
    rw [h]
    rfl
  have hm : (outcomeEvent d (.error e)).diagnostic.member = some (e.member?.getD "") := rfl
  refine ⟨h, rfl, rfl, ht, hm, ?_, ?_⟩
  · intro member he hne
    unfold Diagnostic.location
    rw [ht, hm, he]
    exact if_neg hne
  · intro he
    unfold Diagnostic.location
    rw [ht, hm, he]
    rfl

/-- Above the level of information, only failures are kept of the outcomes. -/
lemma forall₂_failures {l : Level} (hinfo : Level.info.rank < l.rank)
    (herror : l.rank ≤ Level.error.rank) {os : List (TemplateDecl × Claimed × Outcome)}
    (hos : ∀ d claimed e, (d, claimed, .error e) ∈ os → ∃ className, e.template? = some className) :
    List.Forall₂ (fun e r => ∃ className, Diagnostic.TellsFailure r e className)
      (Generation.ofOutcomes (os.map (·.2.2))).failures
      ((os.map fun x => (outcomeEvent x.1 x.2.2).diagnostic).filter
        fun r => (Sink.setLevel {} l).isEnabled r.level) := by
  induction os with
  | nil => exact .nil
  | cons x rest ih =>
    obtain ⟨d, claimed, o⟩ := x
    have hrest := ih fun d claimed e he => hos d claimed e (List.mem_cons_of_mem _ he)
    rw [List.map_cons, List.map_cons, List.filter_cons]
    cases o with
    | ok g =>
      have hoff : ¬ (Sink.setLevel {} l).isEnabled (outcomeEvent d (.ok g)).diagnostic.level := by
        rw [Sink.isEnabled_setLevel]
        exact fun h => Nat.not_le_of_lt hinfo h.2
      rw [if_neg hoff]
      exact hrest
    | error e =>
      have hon : (Sink.setLevel {} l).isEnabled (outcomeEvent d (.error e)).diagnostic.level := by
        rw [Sink.isEnabled_setLevel]
        exact ⟨nofun, herror⟩
      obtain ⟨className, he⟩ := hos d claimed e List.mem_cons_self
      rw [if_pos hon]
      exact .cons ⟨className, tellsFailure he⟩ hrest

end Manifest

/-- A run is reported faithfully. From the level of information on, an empty sink keeps one
diagnostic for each template, in order, which tells that its type came out or of its failure. From
warnings on or for errors only, it keeps one for each failure, in order, which tells of it. -/
theorem Manifest.diagnostics_faithful (m : Manifest) :
    m.outcomes.map (·.1) = m.templates ∧
    List.Forall₂ (fun (d, _, o) r =>
      match o with
      | .ok _ => Diagnostic.TellsSuccess r d.className
      | .error e => ∃ className, r.TellsFailure e className) m.outcomes (m.diagnostics .info) ∧
    List.Forall₂ (fun e r => ∃ className, r.TellsFailure e className) m.generate.failures
      (m.diagnostics .warn) ∧
    List.Forall₂ (fun e r => ∃ className, r.TellsFailure e className) m.generate.failures
      (m.diagnostics .error) := by
  have hfail : ∀ d claimed e, (d, claimed, .error e) ∈ m.outcomes →
      ∃ className, e.template? = some className := by
    intro d claimed e h
    obtain ⟨-, ho⟩ := outcome_of_mem_outcomesFrom h
    exact ⟨_, (pointsAt_of_outcome ho.symm).template⟩
  refine ⟨map_fst_outcomesFrom, ?_, ?_, ?_⟩
  · rw [diagnostics_eq (by decide), List.filter_eq_self.2, List.forall₂_map_right_iff,
      List.forall₂_same]
    · rintro ⟨d, claimed, o⟩ hx
      cases o with
      | ok g =>
        obtain ⟨-, -, -, -, hg, -⟩ := of_mem_outcomes hx
        exact tellsSuccess hg
      | error e =>
        obtain ⟨className, he⟩ := hfail d claimed e hx
        exact ⟨className, tellsFailure he⟩
    · rw [List.forall_mem_map]
      rintro ⟨d, claimed, o⟩ -
      cases o with
      | ok g => rfl
      | error e => rfl
  · rw [diagnostics_eq (by decide)]
    exact forall₂_failures (by decide) (by decide) hfail
  · rw [diagnostics_eq (by decide)]
    exact forall₂_failures (by decide) (by decide) hfail

end TypedBundle
