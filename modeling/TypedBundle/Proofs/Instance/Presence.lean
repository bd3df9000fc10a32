import TypedBundle.Proofs.Instance.WriteBack

/-!
# Presence assertions

A chain of presence assertions begins with an instance and goes on with the accumulator that this
answers, while clients do other things in between. The two know the same names and keys
(`Instance.has_eq_ok`, `Assertion.also_eq_ok`), so the chain gathers the keys of the members that it
names (`Chain.run_eq_ok`). The accumulator shares the bundle of the instance. What it finds is
decided when it is asked, and no call of a generated method takes an entry out
(`Manifest.presence_checked`).
-/

namespace TypedBundle

/-- A chain of presence assertions in the making, and what clients have done by then. -/
structure Chain where
  session : Session
  /-- The accumulator, once there is one. -/
  assertion : Option Assertion := none

namespace Chain

/-- The next name is asserted, or clients do something else. -/
inductive Event where
  | has (name : String)
  | act (a : Action)

namespace Event

/-- The name of the assertion that is called, if one is. -/
def name? : Event → Option String
  | has name => some name
  | act _ => none

/-- What clients do otherwise, if they do something else. -/
def action? : Event → Option Action
  | has _ => none
  | act a => some a

end Event

/-- The first name goes to the instance and the others go to the accumulator. -/
def step (i : Instance) (ch : Chain) : Event → Except Fault Chain
  | .has name =>
    match ch.assertion with
    | none =>
      let (r, world) := i.has ch.session.world name
      r.map fun a => ⟨{ ch.session with world }, some a⟩
    | some a => (a.also name).map fun a => { ch with assertion := some a }
  | .act a => .ok { ch with session := ch.session.step a }

/-- The chain after events in turn, if each name is one of the instance's. -/
def run (i : Instance) (ch : Chain) (es : List Event) : Except Fault Chain := es.foldlM (step i) ch

end Chain

namespace Template

variable {t : Template} {c : BoundType} {x : Method} {key name : String}

/-- A method that asserts is the presence assertion of a member. -/
lemma exists_member_of_assert {g} (hg : t.generate = .ok g) (hx : x ∈ g.methods)
    (hb : x.body = .assert key) :
    ∃ m ∈ t.members, (Naming.ofMember t m).assertName = x.name ∧ m.key t = key := by
  obtain ⟨m, hm, a, ha, hx⟩ | rfl := (mem_methods_iff hg).1 hx
  · obtain ⟨rfl, rfl⟩ := Member.eq_assert_of_mem ha hx hb
    rw [(Member.asserts_of_accessors ha).1]
    exact ⟨m, hm, rfl, rfl⟩
  · cases hb

end Template

/-- A method answers with an accumulator if it asserts. -/
lemma Instance.assert_of_run {i : Instance} {w w' x name args a}
    (h : i.run w x name args = .ok (.assertion a, w')) :
    ∃ key, x.body = .assert key ∧ ⟨i.bound, i.storage, [key]⟩ = a ∧ w' = w := by
  unfold run at h
  cases hb : x.body with
  | assert key =>
    rw [hb] at h
    cases h
    exact ⟨key, rfl, rfl, rfl⟩
  | store key s param =>
    rw [hb] at h
    dsimp only at h
    split at h
    · obtain ⟨_, -, h⟩ := Except.bind_eq_ok.1 h
      obtain ⟨_, -, h⟩ := Except.bind_eq_ok.1 h
      cases h
    · cases h
  | load key s ty fallback =>
    rw [hb] at h
    obtain ⟨_, -, h⟩ := Except.bind_eq_ok.1 h
    obtain ⟨_, -, h⟩ := Except.bind_eq_ok.1 h
    cases h
  | collect | assertChain key | entry setter param | wrap =>
    rw [hb] at h
    cases h

/-- The instance begins an accumulator with the key of the member whose presence the name asserts.
-/
lemma Instance.has_eq_ok {c : BoundType} {t : Template} {b w w' name a}
    (hg : t.generate = .ok c.type) :
    (mk c b).has w name = (.ok a, w') ↔
      (∃ m ∈ t.members, (Naming.ofMember t m).assertName = name ∧ ⟨c, b, [m.key t]⟩ = a) ∧
        w' = w := by
  constructor
  · intro h
    unfold has at h
    split at h
    · next hi =>
      cases h
      obtain ⟨x, hx, hr⟩ := invoke_eq_ok.1 hi
      obtain ⟨key, hb, rfl, rfl⟩ := assert_of_run hr
      obtain ⟨hmem, hn, -⟩ := BoundType.mem_of_instanceMethod hx
      obtain ⟨m, hm, hname, rfl⟩ := Template.exists_member_of_assert hg hmem hb
      exact ⟨⟨m, hm, hname.trans hn, rfl⟩, rfl⟩
    · cases h
    · cases h
  · rintro ⟨⟨m, hm, rfl, rfl⟩, rfl⟩
    have hx := Template.assertion_mem_methods hg hm
    have hi : (mk c b).invoke w' (Naming.ofMember t m).assertName [] =
        .ok (.assertion ⟨c, b, [m.key t]⟩, w') :=
      (invoke_eq_run (instanceMethod_of_params_nil (i := mk c b) hg hx rfl)).trans rfl
    unfold has
    rw [hi]

/-- The accumulator adds the key of the member whose presence the name asserts. -/
lemma Assertion.also_eq_ok {c : BoundType} {t : Template} {b keys name a}
    (hg : t.generate = .ok c.type) :
    (mk c b keys).also name = .ok a ↔
      ∃ m ∈ t.members, (Naming.ofMember t m).assertName = name ∧
        ⟨c, b, keys ++ [m.key t]⟩ = a := by
  constructor
  · intro h
    unfold also at h
    split at h
    · next x key hx =>
      obtain ⟨m, hm, a, ha, hxa⟩ :=
        (Template.mem_assertMethods_iff hg).1 (List.mem_of_find?_eq_some hx)
      have hn := List.find?_some (show c.type.assertMethods.find? (·.name == name) = _ from hx)
      rw [beq_iff_eq] at hn
      obtain ⟨he, hc⟩ := Member.asserts_of_accessors ha
      rw [hc, he] at hxa
      cases hxa
      cases h
      exact ⟨m, hm, hn, rfl⟩
    · cases h
  · rintro ⟨m, hm, rfl, rfl⟩
    have hx : c.type.assertMethod? (Naming.ofMember t m).assertName = some _ :=
      Template.assertMethod?_eq hg (Template.assertion_mem_methods hg hm) rfl
    unfold also
    rw [hx]
    rfl

/-- A key is present if there is an entry under it. -/
lemma Heap.containsKey_eq {h : Heap} {b key} : h.containsKey b key = (h.get? b key).isSome := rfl

namespace Assertion

variable {a : Assertion} {h : Heap} {e : Fault}

/-- The accumulator finds no fault if all its keys are there. -/
lemma check_eq_ok : a.check h = .ok () ↔ ∀ key ∈ a.keys, (h.get? a.storage key).isSome := by
  have hf : (∀ key ∈ a.keys, (h.get? a.storage key).isSome) ↔
      a.keys.find? (!h.containsKey a.storage ·) = none := by
    simp [Heap.containsKey_eq, Option.isSome_iff_ne_none]
  rw [hf]
  unfold check
  split <;> simp [*]

/-- Otherwise the fault is that of its first key that is not there. -/
lemma check_eq_error :
    a.check h = .error e ↔ ∃ before key after, a.keys = before ++ key :: after ∧
      (∀ k ∈ before, (h.get? a.storage k).isSome) ∧ h.get? a.storage key = none ∧
        .missingKey key = e := by
  have hf : ∀ key, a.keys.find? (!h.containsKey a.storage ·) = some key ↔
      h.get? a.storage key = none ∧ ∃ before after, a.keys = before ++ key :: after ∧
        ∀ k ∈ before, (h.get? a.storage k).isSome := by
    intro key
    rw [List.find?_eq_some_iff_append]
    simp [Heap.containsKey_eq]
  unfold check
  split
  · next key hk =>
    rw [Except.error.injEq]
    constructor
    · rintro rfl
      obtain ⟨hn, before, after, hks, hp⟩ := (hf key).1 hk
      exact ⟨before, key, after, hks, hp, hn, rfl⟩
    · rintro ⟨before, key', after, hks, hp, hn, rfl⟩
      have hk' := (hf key').2 ⟨hn, before, after, hks, hp⟩
      rw [Option.some.inj (hk.symm.trans hk')]
  · next hk =>
    refine ⟨nofun, ?_⟩
    rintro ⟨before, key, after, hks, hp, hn, -⟩
    have hk' := (hf key).2 ⟨hn, before, after, hks, hp⟩
    cases hk.symm.trans hk'

end Assertion

/-- No call takes an entry out. -/
lemma Instance.isSome_get?_after {i : Instance} {w : World} {key : String}
    (h : (w.heap.get? i.storage key).isSome) (call : Call) :
    ((i.after w call).heap.get? i.storage key).isSome := by
  unfold after
  split
  · next r w' hr =>
    cases leaves_of_invoke hr with
    | written hx hb hp hargs he hput =>
      obtain ⟨v, hv⟩ := Option.isSome_iff_exists.1 h
      rw [Heap.get?_put hput (Heap.index_lt_of_get? hv)]
      split
      · rfl
      · exact h
    | read hr hheap => rwa [hheap]
  · exact h

/-- The world after calls of instances over the bundle, of whatever types they are. -/
def Bundle.afterCalls (b : Bundle) (w : World) (calls : List (BoundType × Call)) : World :=
  calls.foldl (fun w call => (Instance.mk call.1 b).after w call.2) w

/-- Once an accumulator finds no fault, calls cannot bring one about. -/
lemma Assertion.check_afterCalls {a : Assertion} {w : World} (h : a.check w.heap = .ok ())
    (calls : List (BoundType × Call)) : a.check (a.storage.afterCalls w calls).heap = .ok () := by
  induction calls generalizing w with
  | nil => exact h
  | cons call rest ih =>
    apply ih
    rw [check_eq_ok] at h ⊢
    intro key hk
    exact Instance.isSome_get?_after (i := ⟨call.1, a.storage⟩) (h key hk) call.2

/-- The accumulator of the keys on the instance, which there is once there is a key. -/
def Instance.gathered (i : Instance) (keys : List String) : Option Assertion :=
  if keys = [] then none else some ⟨i.bound, i.storage, keys⟩

/-- One more assertion adds its key at the end. -/
lemma Instance.gathered_concat {i : Instance} {keys key} :
    i.gathered (keys ++ [key]) = some ⟨i.bound, i.storage, keys ++ [key]⟩ := by
  simp [gathered]

namespace Chain

variable {c : BoundType} {t : Template} {b : Bundle} {s : Session} {keys : List String} {ch : Chain}

/-- The next name is that of a member, whose key is gathered. -/
lemma step_has_eq_ok {name} (hg : t.generate = .ok c.type) :
    step ⟨c, b⟩ ⟨s, (Instance.mk c b).gathered keys⟩ (.has name) = .ok ch ↔
      ∃ m ∈ t.members, (Naming.ofMember t m).assertName = name ∧
        ⟨s, (Instance.mk c b).gathered (keys ++ [m.key t])⟩ = ch := by
  simp only [Instance.gathered_concat]
  by_cases hk : keys = []
  · subst hk
    have hs : step ⟨c, b⟩ ⟨s, (Instance.mk c b).gathered []⟩ (.has name) =
        ((Instance.mk c b).has s.world name).1.map fun a =>
          ⟨{ s with world := ((Instance.mk c b).has s.world name).2 }, some a⟩ := rfl
    rw [hs, Except.map_eq_ok]
    constructor
    · rintro ⟨a, ha, rfl⟩
      have hh : (Instance.mk c b).has s.world name =
          (.ok a, ((Instance.mk c b).has s.world name).2) := Prod.ext ha rfl
      obtain ⟨⟨m, hm, hn, rfl⟩, hw⟩ := (Instance.has_eq_ok hg).1 hh
      exact ⟨m, hm, hn, by rw [hw]; rfl⟩
    · rintro ⟨m, hm, hn, rfl⟩
      rw [(Instance.has_eq_ok hg).2 ⟨⟨m, hm, hn, rfl⟩, rfl⟩]
      exact ⟨_, rfl, rfl⟩
  · have hs : step ⟨c, b⟩ ⟨s, (Instance.mk c b).gathered keys⟩ (.has name) =
        ((Assertion.mk c b keys).also name).map fun a => ⟨s, some a⟩ := by
      simp only [step, Instance.gathered, if_neg hk]
    rw [hs, Except.map_eq_ok]
    simp only [Assertion.also_eq_ok hg]
    constructor
    · rintro ⟨a, ⟨m, hm, hn, rfl⟩, rfl⟩
      exact ⟨m, hm, hn, rfl⟩
    · rintro ⟨m, hm, hn, rfl⟩
      exact ⟨_, ⟨m, hm, hn, rfl⟩, rfl⟩

/-- The chain gathers the keys of the members that it names, in order, and clients do the rest. -/
lemma run_eq_ok (keys : List String) {es} (hg : t.generate = .ok c.type) :
    run ⟨c, b⟩ ⟨s, (Instance.mk c b).gathered keys⟩ es = .ok ch ↔
      ∃ ms : List Member, (∀ m ∈ ms, m ∈ t.members) ∧
        es.filterMap Event.name? = ms.map (fun m => (Naming.ofMember t m).assertName) ∧
        ⟨s.run (es.filterMap Event.action?),
          (Instance.mk c b).gathered (keys ++ ms.map (Member.key t))⟩ = ch := by
  induction es generalizing s keys with
  | nil =>
    constructor
    · intro h
      cases h
      exact ⟨[], nofun, rfl, by simp [Session.run]⟩
    · rintro ⟨ms, -, hn, rfl⟩
      obtain rfl := List.map_eq_nil_iff.1 hn.symm
      simp [run, Session.run]
  | cons e rest ih =>
    have hr : run ⟨c, b⟩ ⟨s, (Instance.mk c b).gathered keys⟩ (e :: rest) =
        (step ⟨c, b⟩ ⟨s, (Instance.mk c b).gathered keys⟩ e >>= fun ch => run ⟨c, b⟩ ch rest) :=
      List.foldlM_cons
    rw [hr]
    cases e with
    | act a => exact ih keys
    | has name =>
      simp only [Except.bind_eq_ok, step_has_eq_ok hg]
      constructor
      · rintro ⟨_, ⟨m, hm, rfl, rfl⟩, h⟩
        obtain ⟨ms, hms, hn, rfl⟩ := (ih _).1 h
        refine ⟨m :: ms, List.forall_mem_cons.2 ⟨hm, hms⟩, ?_, ?_⟩
        · rw [List.map_cons, ← hn]
          rfl
        · rw [List.map_cons, List.append_cons]
          rfl
      · rintro ⟨ms, hms, hn, rfl⟩
        obtain ⟨m, ms, rfl, rfl, hrest⟩ := List.map_eq_cons_iff.1 hn.symm
        obtain ⟨hm, hms⟩ := List.forall_mem_cons.1 hms
        refine ⟨_, ⟨m, hm, rfl, rfl⟩, (ih _).2 ⟨ms, hms, hrest.symm, ?_⟩⟩
        rw [List.map_cons, List.append_assoc]
        rfl

end Chain

/-- Presence assertions look at the bundle as it is. A chain on an instance of an output names
members of its template, and it gathers their keys in order, whatever clients do in between. Asked
at any time, it finds no fault if all those keys are there then, and else the fault of the first one
that is not. Once it finds none, no calls over the bundle change that. -/
theorem Manifest.presence_checked {man : Manifest} {c : BoundType}
    (hc : c.type ∈ man.generate.outputs) :
    ∃ d ∈ man.templates, ∃ t, d.resolve man.classTable = .ok t ∧ t.generate = .ok c.type ∧
      ∀ (b : Bundle) (s : Session) (es : List Chain.Event),
        (∀ ch, Chain.run ⟨c, b⟩ ⟨s, none⟩ es = .ok ch → ∃ ms : List Member,
          (∀ m ∈ ms, m ∈ t.members) ∧ es.filterMap Chain.Event.name? =
            ms.map (fun m => (Naming.ofMember t m).assertName)) ∧
        ∀ ms : List Member, (∀ m ∈ ms, m ∈ t.members) → ms ≠ [] →
          es.filterMap Chain.Event.name? = ms.map (fun m => (Naming.ofMember t m).assertName) →
          ∃ a : Assertion, Chain.run ⟨c, b⟩ ⟨s, none⟩ es =
              .ok ⟨s.run (es.filterMap Chain.Event.action?), some a⟩ ∧
            a.keys = ms.map (Member.key t) ∧
            (∀ h : Heap, a.check h = .ok () ↔ ∀ m ∈ ms, (h.get? b (m.key t)).isSome) ∧
            (∀ (h : Heap) e, a.check h = .error e ↔ ∃ before m after, ms = before ++ m :: after ∧
              (∀ m' ∈ before, (h.get? b (m'.key t)).isSome) ∧ h.get? b (m.key t) = none ∧
                .missingKey (m.key t) = e) ∧
            ∀ (w : World) calls, a.check w.heap = .ok () →
              a.check (b.afterCalls w calls).heap = .ok () := by
  obtain ⟨d, hd, claimed, ho⟩ := exists_outcome_of_mem_outputs hc
  obtain ⟨t, ht, hg⟩ := exists_template_of_outcome ho
  refine ⟨d, hd, t, ht, hg, fun b s es => ⟨fun ch h => ?_, fun ms hms hne hn => ?_⟩⟩
  · obtain ⟨ms, hms, hn, -⟩ := (Chain.run_eq_ok [] hg).1 h
    exact ⟨ms, hms, hn⟩
  · have hk : ms.map (Member.key t) ≠ [] := mt List.map_eq_nil_iff.1 hne
    refine ⟨⟨c, b, ms.map (Member.key t)⟩, ?_, rfl, fun h => ?_, fun h e => ?_,
      fun w calls hw => ?_⟩
    · have ha : (Instance.mk c b).gathered (ms.map (Member.key t)) = some _ := if_neg hk
      rw [← ha]
      exact (Chain.run_eq_ok [] hg).2 ⟨ms, hms, hn, rfl⟩
    · rw [Assertion.check_eq_ok, List.forall_mem_map]
    · rw [Assertion.check_eq_error]
      constructor
      · rintro ⟨before, key, after, hks, hp, hnone, rfl⟩
        obtain ⟨before, rest, rfl, rfl, hrest⟩ := List.map_eq_append_iff.1 hks
        obtain ⟨m, after, rfl, rfl, -⟩ := List.map_eq_cons_iff.1 hrest
        exact ⟨before, m, after, rfl, List.forall_mem_map.1 hp, hnone, rfl⟩
      · rintro ⟨before, m, after, rfl, hp, hnone, rfl⟩
        exact ⟨before.map (Member.key t), m.key t, after.map (Member.key t), List.map_append,
          List.forall_mem_map.2 hp, hnone, rfl⟩
    · exact Assertion.check_afterCalls hw calls

namespace Bags

/-- A chain over both members. The number is put into the bundle after its key has been gathered,
and there is no text. -/
def asserting : List Chain.Event :=
  [.has (Naming.ofMember template number).assertName,
    .act (.put ⟨1⟩ (number.key template) (.int 7)),
    .has (Naming.ofMember template text).assertName]

/-- A session with a new bundle. -/
def opened : Session := Session.start.step .new

end Bags

/-- The chain finds no text, and it does once there is one. -/
theorem Bags.check_asserting :
    Bags.bound.type ∈ Bags.manifest.generate.outputs ∧
      ∃ s a, Chain.run ⟨Bags.bound, ⟨1⟩⟩ ⟨Bags.opened, none⟩ Bags.asserting = .ok ⟨s, some a⟩ ∧
        a.check s.world.heap = .error (.missingKey "tag_bag") ∧
        a.check (s.step (.put ⟨1⟩ "tag_bag" (.string "x"))).world.heap = .ok () := by
  refine ⟨Bags.mem_outputs, ?_⟩
  obtain ⟨d, hd, t, ht, -, h⟩ := Manifest.presence_checked (c := Bags.bound) Bags.mem_outputs
  obtain rfl := List.mem_singleton.1 hd
  obtain rfl := Except.ok.inj (Bags.resolve_declared.symm.trans ht)
  obtain ⟨a, hr, -, hok, herr, -⟩ := (h ⟨1⟩ Bags.opened Bags.asserting).2
    [Bags.number, Bags.text] (by simp [Bags.template]) (List.cons_ne_nil _ _) rfl
  refine ⟨_, a, hr, (herr _ _).2 ⟨[Bags.number], Bags.text, [], rfl, ?_, ?_, ?_⟩, (hok _).2 ?_⟩
  all_goals decide +kernel

end TypedBundle
