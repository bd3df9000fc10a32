import TypedBundle.Proofs.Instance.Session

/-!
# Instances over copies

An instance over a copy of a bundle and the bundle itself go their own ways. After any actions the
bundle has what was written to it, and the bundle behind the instance has what the other one had
when the instance was made, with what has been written by way of the instance since
(`Session.copy_isolated`). Bundles inside them stay shared.

The reason is that which instances are over a bundle never changes once the bundle is there
(`writeTo?_run`). So the writes to a bundle can be told from the actions alone (`entries_run`).
-/

namespace TypedBundle

/-- Writes that are picked out of a list, one after the other. -/
lemma Write.applyAll_filterMap_cons {α : Type} {f : α → Option Write} {a as es} :
    applyAll ((a :: as).filterMap f) es = applyAll (as.filterMap f) (applyAll (f a).toList es) := by
  rw [List.filterMap_cons]
  cases f a <;> rfl

namespace Session

variable {s : Session} {b : Bundle} {i : Instance} {n : Nat}

/-- Actions after actions. -/
lemma run_append {as as'} : s.run (as ++ as') = (s.run as).run as' := List.foldl_append

/-- No run takes cells away. -/
lemma length_le_run (hs : s.Sound) (as : List Action) :
    s.world.heap.cells.length ≤ (s.run as).world.heap.cells.length :=
  hs.run_induction (Nat.le_refl _) (fun _ hs' h a => Nat.le_trans h (length_le_step hs' a)) as

/-- An action puts no instance over a bundle that is there, so what is a write to the bundle stays
the same. -/
lemma writeTo?_step (hs : s.Sound) (hb : b.index < s.world.heap.cells.length) (a : Action) :
    (s.step a).writeTo? b = s.writeTo? b := by
  funext a'
  cases a' with
  | invoke n call =>
    unfold writeTo?
    dsimp only
    obtain hi | ⟨i, hi, hn⟩ := instances_step hs a
    · rw [hi]
    · have hne : i.storage ≠ b := by
        rintro rfl
        exact Nat.not_lt_of_le hn.length_le hb
      -- the number means what it meant, unless it is that of the new instance
      obtain hlt | rfl | hgt := Nat.lt_trichotomy n s.instances.length
      · rw [hi, List.getElem?_append_left hlt]
      · rw [hi, List.getElem?_concat_length, List.getElem?_eq_none (Nat.le_refl _),
          Option.bind_some, if_neg hne]
        rfl
      · have hlen : (s.instances ++ [i]).length ≤ n := by
          rw [List.length_append]
          exact hgt
        rw [hi, List.getElem?_eq_none hlen, List.getElem?_eq_none (Nat.le_of_lt hgt)]
  | _ => rfl

/-- After a run an action writes what it would have written before it, if the bundle was there. -/
lemma writeTo?_run (hs : s.Sound) (hb : b.index < s.world.heap.cells.length) (as : List Action) :
    (s.run as).writeTo? b = s.writeTo? b := by
  -- that the bundle stays in the heap comes along
  refine (hs.run_induction (P := fun s' =>
    b.index < s'.world.heap.cells.length ∧ s'.writeTo? b = s.writeTo? b) ⟨hb, rfl⟩ ?_ as).2
  rintro s' hs' ⟨hlt, hw⟩ a
  exact ⟨Nat.lt_of_lt_of_le hlt (length_le_step hs' a), (writeTo?_step hs' hlt a).trans hw⟩

/-- After actions in turn a bundle has what they have written to it, in order. -/
lemma entries_run (hs : s.Sound) (hb : b.index < s.world.heap.cells.length) (as : List Action) :
    (s.run as).world.heap.entries b =
      Write.applyAll (as.filterMap (s.writeTo? b)) (s.world.heap.entries b) := by
  induction as generalizing s with
  | nil => rfl
  | cons a rest ih =>
    have hb' := Nat.lt_of_lt_of_le hb (length_le_step hs a)
    -- the other actions write to the bundle what they would write before the first
    rw [Write.applyAll_filterMap_cons, ← entries_step hs a hb, ← writeTo?_step hs hb a]
    exact ih (hs.step a) hb'

/-- An instance stays what it is. -/
lemma getElem?_instances_run (hs : s.Sound) (h : s.instances[n]? = some i) (as : List Action) :
    (s.run as).instances[n]? = some i := by
  refine hs.run_induction (P := fun s' => s'.instances[n]? = some i) h ?_ as
  intro s' hs' h' a
  obtain hi | ⟨j, hi, -⟩ := instances_step hs' a
  · rw [hi, h']
  · rw [hi, List.getElem?_append_left (List.getElem?_eq_some_iff.1 h').1, h']

/-- The writes to the bundle behind an instance are those by way of it, because no other instance is
over that bundle. -/
lemma writeTo?_storage (hs : s.Sound) (h : s.instances[n]? = some i) :
    s.writeTo? i.storage = Action.byWayOf n i := by
  funext a
  cases a with
  | invoke k call =>
    unfold writeTo? Action.byWayOf Action.calling Action.through
    dsimp only
    rw [Option.or_none]
    by_cases hk : k = n
    · subst hk
      rw [h, Option.bind_some, if_pos rfl, if_pos rfl]
    · rw [if_neg hk]
      cases hj : s.instances[k]? with
      | none => rfl
      | some j =>
        rw [Option.bind_some, if_neg]
        intro hst
        have hlt : k < (s.instances.map Instance.storage).length := by
          rw [List.length_map]
          exact (List.getElem?_eq_some_iff.1 hj).1
        refine hk ((List.getElem?_inj hlt hs.nodup).1 ?_)
        rw [List.getElem?_map, List.getElem?_map, hj, h, Option.map_some, Option.map_some, hst]
  | _ => rfl

/-- The writes to a bundle that is behind no instance are those through references to it. -/
lemma writeTo?_of_forall_ne (h : ∀ i ∈ s.instances, i.storage ≠ b) :
    s.writeTo? b = Action.through b := by
  funext a
  cases a with
  | invoke k call =>
    unfold writeTo? Action.through
    dsimp only
    cases hj : s.instances[k]? with
    | none => rfl
    | some j =>
      rw [Option.bind_some, if_neg (h j (List.mem_of_getElem? hj))]
  | _ => rfl

/-- An entry under a key that no action writes stays as it is. -/
lemma get?_run (hs : s.Sound) (hb : b.index < s.world.heap.cells.length) {as : List Action} {key}
    (h : ∀ w ∈ as.filterMap (s.writeTo? b), w.key ≠ key) :
    (s.run as).world.heap.get? b key = s.world.heap.get? b key := by
  unfold Heap.get?
  rw [entries_run hs hb as, Write.find?_applyAll_of_forall_ne h]

end Session

/-- The action makes an instance of the type over a copy of the bundle, at once or by the entry
point for that. -/
def Action.Copies (c : BoundType) (x : Bundle) (a : Action) : Prop :=
  a = .wrap c x ∨ a = .enter c "from" [.bundle x]

/-- The entry point of a generated type that takes a bundle makes an instance over a copy of it. -/
lemma BoundType.callStatic_from {c : BoundType} {t : Template} (hg : t.generate = .ok c.type)
    (w : World) (x : Bundle) : c.callStatic w "from" [.bundle x] = .ok (c.wrap w x) := by
  have hsel : c.select (c.type.companionNamed "from") "from" 1 = .ok .fromBundle := by
    refine select_eq_ok.2 ?_
    rw [Template.companion_eq hg]
    exact List.find?_cons_of_pos (by decide)
  unfold callStatic
  rw [List.length_singleton, hsel]
  rfl

/-- An instance of a generated type hands out the bundle behind it. -/
lemma Instance.invoke_collect {i : Instance} {t : Template} (hg : t.generate = .ok i.bound.type)
    (w : World) : i.invoke w "collect" [] = .ok (.container i.storage, w) := by
  have hm : Method.collect ∈ i.bound.type.methods := (Template.mem_methods_iff hg).2 (.inr rfl)
  exact (invoke_eq_run (instanceMethod_of_params_nil hg hm rfl)).trans rfl

/-- A copy has the entries of the bundle. -/
lemma BoundType.entries_wrap {c : BoundType} {w : World} {x : Bundle}
    (he : w.heap.entries .empty = {}) :
    (c.wrap w x).2.heap.entries (c.wrap w x).1.storage = w.heap.entries x := by
  unfold wrap
  rw [Heap.duplicate_eq_alloc he]
  exact (Heap.entries_alloc _ _ _ (Nat.le_refl _)).trans (if_pos rfl)

namespace Session

variable {s : Session} {c : BoundType} {t : Template} {x : Bundle} {a : Action}

/-- An action that makes an instance over a copy adds an instance of the type. The bundle behind it
is new and has the entries of the one that is copied. -/
lemma exists_of_copies (hs : s.Sound) (hg : t.generate = .ok c.type) (ha : a.Copies c x) :
    ∃ i : Instance, (s.step a).instances = s.instances ++ [i] ∧ i.bound = c ∧
      i.IsNew s.world.heap (s.step a).world.heap ∧
      (s.step a).world.heap.entries i.storage = s.world.heap.entries x := by
  have hstep : s.step a = ⟨(c.wrap s.world x).2, s.instances ++ [(c.wrap s.world x).1]⟩ := by
    obtain rfl | rfl := ha
    · rfl
    · unfold step
      dsimp only
      rw [BoundType.callStatic_from hg]
  rw [hstep]
  exact ⟨_, rfl, rfl, BoundType.isNew_wrap, BoundType.entries_wrap hs.entries_empty⟩

/-- A copy writes nothing. -/
lemma writeTo?_of_copies {b} (ha : a.Copies c x) : s.writeTo? b a = none := by
  obtain rfl | rfl := ha <;> rfl

end Session

/-- Whatever clients do, a bundle has what has been written to it: through references to it, if at
first no instance is over it. Each instance that is made over a copy of it is over a bundle of its
own, and hands that out. This bundle has the entries that the other one had when the instance was
made, changed by the writes by way of the instance and by nothing else. A bundle that was inside
stays inside both, the same one, until its entry is written. -/
theorem Session.copy_isolated {s : Session} (hs : s.Sound) {x : Bundle}
    (hx : x.index < s.world.heap.cells.length) (as : List Action) :
    (s.run as).world.heap.entries x =
      Write.applyAll (as.filterMap (s.writeTo? x)) (s.world.heap.entries x) ∧
    ((∀ i ∈ s.instances, i.storage ≠ x) → s.writeTo? x = Action.through x) ∧
    ((s.run as).instances.map Instance.storage).Nodup ∧
    ∀ before a after, as = before ++ a :: after →
      ∀ (c : BoundType) (t : Template), t.generate = .ok c.type → a.Copies c x →
        let n := (s.run before).instances.length
        ∃ i, (s.run as).instances[n]? = some i ∧ i.bound = c ∧ i.storage ≠ x ∧
          (∀ w, i.invoke w "collect" [] = .ok (.container i.storage, w)) ∧
          (s.run as).world.heap.entries i.storage =
            Write.applyAll (after.filterMap (Action.byWayOf n i))
              ((s.run before).world.heap.entries x) ∧
          ∀ key inner, (s.run before).world.heap.get? x key = some (.bundle inner) →
            ((∀ w ∈ after.filterMap (s.writeTo? x), w.key ≠ key) →
              (s.run as).world.heap.get? x key = some (.bundle inner)) ∧
            ((∀ w ∈ after.filterMap (Action.byWayOf n i), w.key ≠ key) →
              (s.run as).world.heap.get? i.storage key = some (.bundle inner)) := by
  refine ⟨entries_run hs hx as, writeTo?_of_forall_ne, (hs.run as).nodup, ?_⟩
  rintro before a after rfl c t hg ha
  dsimp only
  have hs₁ := hs.run before
  have hx₁ := Nat.lt_of_lt_of_le hx (length_le_run hs before)
  have hw := writeTo?_run hs hx before
  rw [run_append]
  -- of what came before, only the session matters in which the instance is made
  generalize s.run before = s₁ at hs₁ hx₁ hw ⊢
  obtain ⟨i, hi, rfl, hn, hent⟩ := exists_of_copies hs₁ hg ha
  have hs₂ := hs₁.step a
  have hget : (s₁.step a).instances[s₁.instances.length]? = some i := by
    rw [hi]
    exact List.getElem?_concat_length
  have hne : i.storage ≠ x := by
    rintro rfl
    exact Nat.not_lt_of_le hn.length_le hx₁
  have hway := writeTo?_storage hs₂ hget
  refine ⟨i, getElem?_instances_run hs₂ hget after, rfl, hne, Instance.invoke_collect hg, ?_, ?_⟩
  · rw [← hway, ← hent]
    exact entries_run hs₂ hn.lt_length after
  · intro key inner hin
    constructor
    · intro hk
      refine (get?_run hs₁ hx₁ ?_).trans hin
      rwa [hw, List.filterMap_cons_none (writeTo?_of_copies ha)]
    · rw [← hway]
      intro hk
      refine (get?_run hs₂ hn.lt_length hk).trans ?_
      unfold Heap.get?
      rw [hent]
      exact hin

namespace Settings

/-- A bundle that contains itself. -/
def knot : Bundle := ⟨1⟩

/-- The bundle has been made, and nothing is over it. -/
def knotted : Session := Session.start.run [.new, .put knot "self" (.bundle knot)]

/-- Makes an instance over a copy of the bundle. -/
def copying : Action := .enter bound "from" [.bundle knot]

/-- The instance that comes of it. -/
def copied : Instance := ⟨bound, ⟨2⟩⟩

/-- Writes to the bundle, by a call of the instance and to the copy. -/
def apart : List Action :=
  [.put knot "n" (.int 1), .invoke 0 (setTo "ON"), .put copied.storage "extra" (.boolean true),
    .duplicate knot]

/-- The first write is the one to the bundle. -/
lemma filterMap_through_apart : apart.filterMap (Action.through knot) = [.put "n" (.int 1)] := rfl

/-- The others are by way of the instance. -/
lemma filterMap_byWayOf_apart : apart.filterMap (Action.byWayOf 0 copied) =
    [.put modeAccessors.key (.string "ON"), .put "extra" (.boolean true)] := by
  have hw : copied.write? (setTo "ON") = some (.put modeAccessors.key (.string "ON")) := by
    have hm : copied.bound.instanceMethod (setTo "ON").name (setTo "ON").args.length =
        .ok setMode :=
      instanceMethod_setMode
    unfold Instance.write?
    rw [hm]
    rfl
  have hc : Action.byWayOf 0 copied (.invoke 0 (setTo "ON")) = copied.write? (setTo "ON") :=
    Option.or_none
  unfold apart
  rw [List.filterMap_cons_none rfl, List.filterMap_cons_some (hc.trans hw)]
  rfl

end Settings

/-- The bundle and the copy part, and both contain the bundle. -/
theorem Settings.entries_apart :
    Settings.knotted.Sound ∧
      Settings.knot.index < Settings.knotted.world.heap.cells.length ∧
      (∀ i ∈ Settings.knotted.instances, i.storage ≠ Settings.knot) ∧
      Settings.template.generate = .ok Settings.bound.type ∧
      Settings.copying.Copies Settings.bound Settings.knot ∧
      let h := (Settings.knotted.run (Settings.copying :: Settings.apart)).world.heap
      h.get? Settings.knot "n" = some (.int 1) ∧
      h.get? Settings.knot "self" = some (.bundle Settings.knot) ∧
      h.get? Settings.copied.storage "n" = none ∧
      h.get? Settings.copied.storage Settings.modeAccessors.key = some (.string "ON") ∧
      h.get? Settings.copied.storage "self" = some (.bundle Settings.knot) := by
  have hs : Settings.knotted.Sound := Session.sound_start.run _
  have hx : Settings.knot.index < Settings.knotted.world.heap.cells.length := by decide
  have hn : ∀ i ∈ Settings.knotted.instances, i.storage ≠ Settings.knot := nofun
  have hc : Settings.copying.Copies Settings.bound Settings.knot := .inr rfl
  have hg := Settings.generate_template
  obtain ⟨hent, hthrough, -, hcopy⟩ :=
    Session.copy_isolated hs hx (Settings.copying :: Settings.apart)
  obtain ⟨i, hi, -, -, -, hient, hinner⟩ := hcopy [] _ _ rfl _ _ hg hc
  obtain rfl : Settings.copied = i := Option.some.inj hi
  obtain ⟨hself, hself'⟩ := hinner "self" Settings.knot rfl
  rw [hthrough hn, List.filterMap_cons_none rfl, Settings.filterMap_through_apart] at hent
  rw [hthrough hn, Settings.filterMap_through_apart] at hself
  have hlen : (Settings.knotted.run []).instances.length = 0 := rfl
  rw [hlen, Settings.filterMap_byWayOf_apart] at hient hself'
  refine ⟨hs, hx, hn, hg, hc, ?_, hself (by decide), ?_, ?_, hself' (by decide)⟩
  · unfold Heap.get?
    rw [hent]
    rfl
  · unfold Heap.get?
    rw [hient]
    rfl
  · unfold Heap.get?
    rw [hient]
    rfl

end TypedBundle
