import TypedBundle.Proofs.Accessor.Names
import TypedBundle.Proofs.Manifest.Outcomes

/-!
# Where failures point

The error of a template that fails names that template and, if it names a member, an annotated
function of the template (`Manifest.failures_located`). That takes an argument in one place. The
signature of the way out to the bundle is claimed for a member that no function declares, so that a
clash of it would point nowhere; but no accessor has that signature, whatever the legal names.
-/

namespace TypedBundle

/-- The error points at the declaration: it is about that template, and if it is about a member then
about one that an annotated function declares. -/
structure GenerationError.PointsAt (e : GenerationError) (d : TemplateDecl) : Prop where
  ne_manifest : ∀ reason, e ≠ .manifest reason
  template : e.template? = some d.shownName
  member : ∀ name, e.member? = some name → ∃ f ∈ d.functions, f.item.isSome ∧ f.name = name

/-- A fault of a template as a whole points at it. -/
lemma GenerationError.pointsAt_inTemplate {d : TemplateDecl} {reason} :
    (inTemplate d.shownName reason).PointsAt d :=
  ⟨nofun, rfl, nofun⟩

/-- A fault of an annotated function points at its template. -/
lemma GenerationError.pointsAt_inMember {d : TemplateDecl} {f reason} (hf : f ∈ d.functions)
    (hi : f.item.isSome) : (inMember d.shownName f.name reason).PointsAt d := by
  refine ⟨nofun, rfl, fun name hn => ?_⟩
  cases hn
  exact ⟨f, hf, hi, rfl⟩

/-- A member that a function declares bears the function's name. -/
lemma FunctionDecl.declaredName_of_resolve {classes template f item m}
    (h : FunctionDecl.resolve classes template f item = .ok m) : m.declaredName = f.name := by
  unfold resolve at h
  simp only [Except.bind_eq_ok] at h
  obtain ⟨-, -, -, -, -, -, -, -, -, -, h⟩ := h
  split at h
  · cases h
  · cases h
    rfl

namespace TemplateDecl

variable {classes : ClassTable} {d : TemplateDecl} {t : Template}

/-- A template that resolves has a name, under which errors know it. -/
lemma shownName_of_resolve (h : d.resolve classes = .ok t) : d.shownName = t.className := by
  rw [className_of_resolve h]
  unfold resolve at h
  rw [Except.bind_eq_ok] at h
  obtain ⟨a, ha, -⟩ := h
  exact shownName_eq_of_checked ha

/-- Every member of a resolved template bears the name of an annotated function. -/
lemma exists_function_of_mem_members (h : d.resolve classes = .ok t) {m} (hm : m ∈ t.members) :
    ∃ f ∈ d.functions, f.item.isSome ∧ f.name = m.declaredName := by
  obtain ⟨f, hf, item, hi, hr⟩ := of_mem_members h hm
  exact ⟨f, hf, Option.isSome_of_eq_some hi, (FunctionDecl.declaredName_of_resolve hr).symm⟩

/-- A template that does not resolve fails with an error that points at it. -/
lemma pointsAt_of_resolve {e} (h : d.resolve classes = .error e) : e.PointsAt d := by
  obtain ⟨reason, rfl⟩ | ⟨f, hf, hi, reason, rfl⟩ := resolve_eq_error h
  · exact GenerationError.pointsAt_inTemplate
  · exact GenerationError.pointsAt_inMember hf hi

end TemplateDecl

namespace Template

variable {t : Template}

/-- No method of a member has the signature of the way out to the bundle. -/
lemma Legal.signature_ne_collect (ht : t.Legal) {y : Signature × String}
    (hy : y ∈ t.members.flatMap fun m => (m.signatures t).map (·, m.declaredName)) :
    y.1 ≠ Method.collect.signature := by
  obtain ⟨m, hm, hy⟩ := List.mem_flatMap.1 hy
  obtain ⟨s, hs, rfl⟩ := List.mem_map.1 hy
  have hsmall : "collect".toList.tail.all fun c => Text.IsSmallLatin c.toNat := by decide
  have hne : s.1 ≠ "collect" :=
    (ht.naming hm).ne_of_names (Member.names_of_mem_signatures hs) hsmall
  exact fun he => hne (congrArg Prod.fst he)

/-- If a signature is taken then it is one of a member's. -/
lemma Legal.exists_member_of_signatureFault (ht : t.Legal) {before x after e}
    (hx : t.signatures = before ++ x :: after) (he : t.SignatureFault before x e) :
    ∃ m ∈ t.members, x.2 = m.declaredName := by
  obtain ⟨hb⟩ := he
  unfold signatures at hx
  obtain rfl | ⟨after, last, rfl⟩ := List.eq_nil_or_concat after
  · -- the signature of the way out is none of those before it
    obtain ⟨rfl, hlast⟩ := List.append_inj' hx rfl
    cases hlast
    exact (ht.signature_ne_collect hb rfl).elim
  · rw [List.concat_eq_append, ← List.cons_append, ← List.append_assoc] at hx
    obtain ⟨hfront, -⟩ := List.append_inj' hx rfl
    have hmem : x ∈ t.members.flatMap fun m => (m.signatures t).map (·, m.declaredName) := by
      rw [hfront]
      exact List.mem_append_right _ List.mem_cons_self
    obtain ⟨m, hm, hx⟩ := List.mem_flatMap.1 hmem
    obtain ⟨s, -, rfl⟩ := List.mem_map.1 hx
    exact ⟨m, hm, rfl⟩

/-- A type that cannot be generated is the fault of the template, and if of a member then of one
that the template has. -/
lemma Legal.of_generate_eq_error (ht : t.Legal) {e} (h : t.generate = .error e) :
    (∀ reason, e ≠ .manifest reason) ∧ e.template? = some t.className ∧
      ∀ name, e.member? = some name → ∃ m ∈ t.members, m.declaredName = name := by
  obtain ⟨before, m, after, hms, -, hf⟩ | ⟨-, before, x, after, hx, -, hf⟩ :=
    generate_eq_error.1 h
  · have hm : m ∈ t.members := by
      rw [hms]
      exact List.mem_append_right _ List.mem_cons_self
    have hmember : e.member? = some m.declaredName := by cases hf <;> rfl
    refine ⟨?_, ?_, fun name hn => ⟨m, hm, ?_⟩⟩
    · cases hf <;> nofun
    · cases hf <;> rfl
    · exact Option.some.inj (hmember.symm.trans hn)
  · obtain ⟨m, hm, hx⟩ := ht.exists_member_of_signatureFault hx hf
    cases hf
    exact ⟨nofun, rfl, fun name hn => ⟨m, hm, hx.symm.trans (Option.some.inj hn)⟩⟩

/-- Once the signatures of all members are taken, that of the way out can be taken. -/
lemma Legal.claim_collect (ht : t.Legal) {as taken}
    (ha : t.accessors [] t.members = .ok as)
    (hc : AccessorType.claimAll t [] as = .ok taken) :
    ∃ taken', AccessorType.claim t "collect" taken Method.collect = .ok taken' := by
  have hb : (([] : List (Signature × String)).map Prod.fst).Nodup := List.nodup_nil
  obtain ⟨-, hf⟩ := accessors_members_eq_ok.1 ha
  rw [AccessorType.claimAll_eq, ownedSignatures_eq hf] at hc
  obtain ⟨-, rfl⟩ := (AccessorType.foldlM_take_eq_ok hb).1 hc
  exact ⟨_, AccessorType.take_eq_ok (x := (Method.collect.signature, "collect")).2
    ⟨fun y hy => ht.signature_ne_collect hy, rfl⟩⟩

end Template

namespace Manifest

variable {m : Manifest}

/-- The templates that failed, in order. -/
def failed (os : List (TemplateDecl × Claimed × Outcome)) : List TemplateDecl :=
  os.filterMap fun
    | (_, _, .ok _) => none
    | (d, _, .error _) => some d

/-- A template that fails is the one that its error points at. -/
lemma pointsAt_of_outcome {claimed d e} (h : m.outcome claimed d = .error e) : e.PointsAt d := by
  cases hd : d.resolve m.classTable with
  | error e' =>
    rw [outcome_of_resolve_error hd] at h
    cases h
    exact TemplateDecl.pointsAt_of_resolve hd
  | ok t =>
    have hs := TemplateDecl.shownName_of_resolve hd
    rw [outcome_of_resolve hd] at h
    cases hn : m.nameError? claimed t with
    | some e' =>
      rw [hn] at h
      cases h
      obtain ⟨-, rfl⟩ | ⟨-, previous, -, rfl⟩ := nameError?_eq_some.1 hn
      · rw [← hs]
        exact GenerationError.pointsAt_inTemplate
      · exact ⟨nofun, congrArg some hs.symm, nofun⟩
    | none =>
      rw [hn] at h
      obtain ⟨hm, ht, hmember⟩ := (TemplateDecl.resolve_legal hd).of_generate_eq_error h
      refine ⟨hm, ?_, fun name hname => ?_⟩
      · rw [ht, hs]
      · obtain ⟨mem, hmem, rfl⟩ := hmember name hname
        exact TemplateDecl.exists_function_of_mem_members hd hmem

/-- The failures in turn point at the templates that failed in turn. -/
lemma forall₂_pointsAt {claimed ds} :
    List.Forall₂ GenerationError.PointsAt
      (Generation.ofOutcomes ((m.outcomesFrom claimed ds).map (·.2.2))).failures
      (failed (m.outcomesFrom claimed ds)) := by
  induction ds generalizing claimed with
  | nil => exact .nil
  | cons d rest ih =>
    unfold outcomesFrom
    cases ho : m.outcome claimed d with
    | ok g => exact ih
    | error e => exact .cons (pointsAt_of_outcome ho) ih

end Manifest

/-- Every template has one outcome, in order, and the failures are the errors of those that failed:
none is about the manifest, each is about the template that failed, under its name or as unnamed,
and about a member only if an annotated function of the template declares it. The way out to the
bundle clashes with no accessor of a template that resolves. -/
theorem Manifest.failures_located (m : Manifest) :
    m.outcomes.map (·.1) = m.templates ∧
    List.Forall₂ GenerationError.PointsAt m.generate.failures (failed m.outcomes) ∧
    ∀ d t, TemplateDecl.resolve m.classTable d = .ok t →
      ∀ as taken, t.accessors [] t.members = .ok as →
        AccessorType.claimAll t [] as = .ok taken →
        ∃ taken', AccessorType.claim t "collect" taken Method.collect = .ok taken' :=
  ⟨map_fst_outcomesFrom, forall₂_pointsAt, fun _ _ hd _ _ ha hc =>
    (TemplateDecl.resolve_legal hd).claim_collect ha hc⟩

namespace Bags

/-- A template without a name. -/
def nameless : TemplateDecl where
  className := ""

/-- The manifest that declares it after the template of two members. -/
def withNameless : Manifest where
  templates := [declared, nameless]

/-- The error of the template without a name. -/
def namelessError : GenerationError := .inTemplate "<unnamed>" "template class name is empty"

/-- A type comes out of the first template, and the second fails. -/
lemma outcomes_withNameless :
    withNameless.outcomes =
      [(declared, [], .ok type),
        (nameless, Manifest.claim [] (.ok type), .error namelessError)] := by
  have hn : withNameless.nameError? [] template = none := by decide +kernel
  have hd : withNameless.outcome [] declared = .ok type :=
    Manifest.outcome_eq_ok.2 ⟨template, resolve_declared, hn, generate_template⟩
  simp only [Manifest.outcomes, withNameless, Manifest.outcomesFrom] at hd ⊢
  rw [hd]
  rfl

end Bags

/-- The error of a template without a name points at it. The template of two members resolves, and
the way out clashes with none of their methods. -/
theorem Bags.nameless_located :
    namelessError ∈ withNameless.generate.failures ∧ namelessError.PointsAt nameless ∧
      declared.resolve withNameless.classTable = .ok template ∧
      ∃ as taken, template.accessors [] template.members = .ok as ∧
        AccessorType.claimAll template [] as = .ok taken ∧
        ∃ taken', AccessorType.claim template "collect" taken Method.collect = .ok taken' := by
  obtain ⟨-, hp, hc⟩ := Manifest.failures_located withNameless
  have hf : withNameless.generate.failures = [namelessError] := by
    rw [Manifest.generate, outcomes_withNameless]
    rfl
  rw [hf, outcomes_withNameless] at hp
  obtain ⟨hp, -⟩ := List.forall₂_cons.1 hp
  refine ⟨by simp [hf], hp, resolve_declared, ?_⟩
  obtain ⟨as, ha, hg⟩ := Except.bind_eq_ok.1 generate_template
  obtain ⟨taken, ht, -⟩ := Except.bind_eq_ok.1 hg
  exact ⟨as, taken, ha, ht, hc declared template resolve_declared as taken ha ht⟩

end TypedBundle
