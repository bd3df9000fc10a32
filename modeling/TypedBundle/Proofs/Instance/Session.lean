import TypedBundle.Proofs.Instance.Record

/-!
# Sessions

What clients can do with bundles and instances, in any order: make and copy bundles, write to them,
make instances and call them. A bundle changes by a write to it and by nothing else, and a write is
made through a reference to the bundle or by a call of an instance over it (`Session.entries_step`).
An instance is made over a bundle of its own. So no instance is ever over the empty bundle, which
stays empty, and no call is refused because of it (`Session.empty_bundle_unused`).
-/

namespace TypedBundle

/-- A change of one entry. -/
inductive Write where
  | put (key : String) (v : Value)
  | remove (key : String)

namespace Write

/-- The key whose entry is written. -/
def key : Write → String
  | put key _ => key
  | remove key => key

/-- The entries after the change. -/
def apply : Write → Entries → Entries
  | put key v, es => es.insert key v
  | remove key, es => es.erase key

/-- The entries after changes in turn. -/
def applyAll (ws : List Write) (es : Entries) : Entries := ws.foldl (fun es w => w.apply es) es

/-- A change leaves the entries under other keys as they are. -/
lemma find?_apply_of_ne {w : Write} {es key} (h : w.key ≠ key) :
    (w.apply es).find? key = es.find? key := by
  cases w with
  | put k v => exact (Dict.find?_insert es k key v).trans (if_neg h.symm)
  | remove k => exact (Dict.find?_erase es k key).trans (if_neg h.symm)

/-- Entries under keys that are not written stay as they are. -/
lemma find?_applyAll_of_forall_ne {ws : List Write} {es key} (h : ∀ w ∈ ws, w.key ≠ key) :
    (applyAll ws es).find? key = es.find? key := by
  induction ws generalizing es with
  | nil => rfl
  | cons w rest ih =>
    obtain ⟨hw, hrest⟩ := List.forall_mem_cons.1 h
    exact (ih hrest).trans (find?_apply_of_ne hw)

end Write

/-- Every bundle but the empty one is another cell than the first. -/
lemma Bundle.index_ne_zero {b : Bundle} (h : b ≠ .empty) : b.index ≠ 0 := fun e =>
  h (congrArg Bundle.mk e)

namespace Heap

variable {h h₁ : Heap} {b c : Bundle}

/-- The heap after a write, which the empty bundle refuses. -/
def write (h : Heap) (b : Bundle) (w : Write) : Heap :=
  match h.update b w.apply with
  | .ok h' => h'
  | .error _ => h

/-- A change shows in no other bundle. -/
lemma entries_update_of_ne {change} (hu : h.update b change = .ok h₁) (hc : c ≠ b) :
    h₁.entries c = h.entries c := by
  have hi : b.index ≠ c.index := fun e => hc (congrArg Bundle.mk e.symm)
  unfold update at hu
  split at hu
  · cases hu
  · cases hu
    unfold entries
    rw [List.getElem?_modify_ne _ _ hi]

/-- Putting a value in is the write of it. -/
lemma write_eq_of_put {key v} (hp : h.put b key v = .ok h₁) : h.write b (.put key v) = h₁ := by
  unfold write
  rw [show h.update b (Write.put key v).apply = .ok h₁ from hp]

/-- Writing makes no cells and takes none away. -/
lemma length_write {w} : (h.write b w).cells.length = h.cells.length := by
  unfold write
  split
  · next hu => exact length_update hu
  · rfl

/-- A write shows in the bundle and in no other one. -/
lemma entries_write {w} (hc : c.index < h.cells.length) :
    (h.write b w).entries c =
      if b = c ∧ c ≠ .empty then w.apply (h.entries c) else h.entries c := by
  by_cases hbc : b = c
  · subst hbc
    by_cases hb : b = .empty
    · -- the write is refused
      subst hb
      rw [if_neg fun hn => hn.2 rfl]
      rfl
    · obtain ⟨h', hu⟩ := h.exists_update w.apply (Bundle.index_ne_zero hb)
      unfold write
      rw [hu, if_pos ⟨rfl, hb⟩]
      exact (entries_update hu hc b).trans (if_pos rfl)
  · rw [if_neg fun hn => hbc hn.1]
    unfold write
    split
    · next hu => exact entries_update_of_ne hu (Ne.symm hbc)
    · rfl

/-- All bundles are still there with their entries, and there may be new ones. -/
structure Extends (h h' : Heap) : Prop where
  length_le : h.cells.length ≤ h'.cells.length
  entries_eq : ∀ b : Bundle, b.index < h.cells.length → h'.entries b = h.entries b

/-- Nothing has changed. -/
lemma Extends.refl : h.Extends h := ⟨Nat.le_refl _, fun _ _ => rfl⟩

/-- A new cell leaves the others as they are. -/
lemma extends_alloc {es} : h.Extends (h.alloc es).2 where
  length_le := by simp [alloc]
  entries_eq b hb := by
    rw [entries_alloc h es b (Nat.le_of_lt hb), if_neg]
    rintro rfl
    exact Nat.lt_irrefl _ hb

/-- So does a write to a cell that was not there at first. -/
lemma Extends.write {w} (he : h.Extends h₁) (hb : h.cells.length ≤ b.index) :
    h.Extends (h₁.write b w) where
  length_le := by
    rw [length_write]
    exact he.length_le
  entries_eq c hc := by
    have hne : b ≠ c := by
      rintro rfl
      exact Nat.not_lt_of_le hb hc
    rw [entries_write (Nat.lt_of_lt_of_le hc he.length_le), if_neg fun hn => hne hn.1,
      he.entries_eq c hc]

/-- A copy of a bundle is a new bundle with its entries, if the empty bundle has none. -/
lemma duplicate_eq_alloc (he : h.entries .empty = {}) : h.duplicate b = h.alloc (h.entries b) := by
  by_cases hb : b = .empty
  · subst hb
    rw [he]
    rfl
  · unfold duplicate
    rw [Bundle.isEmptySingleton_eq_false.2 (Bundle.index_ne_zero hb)]
    rfl

end Heap

namespace BoundType

variable {c : BoundType} {w : World}

/-- A default changes no bundle, or it is not at hand. -/
lemma default_cases (w : World) (call : DefaultCall) :
    (∃ r, default w call = .ok r ∧ r.2.heap = w.heap) ∨
      ∃ e, default w call = .error e ∧ e ≠ .immutableContainer := by
  unfold default
  split
  · exact .inl ⟨_, rfl, rfl⟩
  · exact .inr ⟨_, rfl, nofun⟩

/-- Falling back changes no bundle, and it never fails because of the empty bundle. -/
lemma fallBack_cases (w : World) (key : String) (s : Strategy) (read : Option Value)
    (fallback : Fallback) :
    (∃ r, fallBack w key s read fallback = .ok r ∧ r.2.heap = w.heap) ∨
      ∃ e, fallBack w key s read fallback = .error e ∧ e ≠ .immutableContainer := by
  cases fallback with
  | inlineZero => cases s <;> exact .inl ⟨_, rfl, rfl⟩
  | inlineDefault call =>
    obtain ⟨r, hd, hr⟩ | ⟨e, hd, he⟩ := default_cases w call
    · rw [fallBack, hd]
      exact .inl ⟨_, rfl, hr⟩
    · rw [fallBack, hd]
      exact .inr ⟨e, rfl, he⟩
  | orDefault call =>
    cases read with
    | some v => exact .inl ⟨_, rfl, rfl⟩
    | none =>
      obtain ⟨r, hd, hr⟩ | ⟨e, hd, he⟩ := default_cases w call
      · rw [fallBack, hd]
        exact .inl ⟨_, rfl, hr⟩
      · rw [fallBack, hd]
        exact .inr ⟨e, rfl, he⟩
  | orNull => exact .inl ⟨_, rfl, rfl⟩
  | orThrow =>
    cases read with
    | some v => exact .inl ⟨_, rfl, rfl⟩
    | none =>
      refine .inr ⟨.propertyNotFound key, rfl, ?_⟩
      rintro ⟨⟩

/-- Choosing a method never fails with `immutableContainer`: only names and arities matter. -/
lemma select_ne_immutable {candidates name arity} :
    c.select candidates name arity ≠ .error .immutableContainer := by
  unfold select unknown mismatch
  split
  · nofun
  · split <;> nofun

end BoundType

/-- Neither does reading what is stored, which writes nothing. -/
lemma Strategy.decode_ne_immutable {ty s stored} :
    decode ty s stored ≠ .error .immutableContainer := by
  unfold decode
  split
  · nofun
  · split
    · split <;> nofun
    · nofun

/-- What the method writes when it is run with the arguments: a setter that takes its argument
writes what it stores. -/
def Method.write? (classes : ClassTable) (x : Method) (name : String) (args : List Value) :
    Option Write :=
  match x.body, x.params, args with
  | .store key s _, p :: _, v :: _ =>
    (s.encode classes name p.type v).toOption.map (.put key)
  | _, _, _ => none

namespace Instance

variable {i : Instance} {w : World}

/-- What a call of the instance writes to its bundle. -/
def write? (i : Instance) (call : Call) : Option Write :=
  match i.bound.instanceMethod call.name call.args.length with
  | .ok x => x.write? i.bound.classes call.name call.args
  | .error _ => none

/-- Running a method on an instance that is not over the empty bundle writes what the method has to
write, and does nothing else to bundles. If it fails, it writes nothing, and it does not fail
because of the empty bundle. -/
lemma run_cases (w : World) (x : Method) (name : String) (args : List Value)
    (hi : i.storage.index ≠ 0) :
    (∃ r, i.run w x name args = .ok r ∧ r.2.heap =
        (x.write? i.bound.classes name args).elim w.heap (w.heap.write i.storage)) ∨
      ∃ e, i.run w x name args = .error e ∧ x.write? i.bound.classes name args = none ∧
        e ≠ .immutableContainer := by
  unfold run Method.write?
  cases x.body with
  | store key s param =>
    match x.params, args with
    | [], _ | _ :: _, [] => exact .inr ⟨_, rfl, rfl, nofun⟩
    | p :: _, v :: _ =>
      dsimp only
      -- the argument is refused before anything is written
      cases hs : s.encode i.bound.classes name p.type v with
      | error e =>
        refine .inr ⟨e, rfl, rfl, ?_⟩
        rintro rfl
        exact Strategy.encode_ne_immutable hs
      | ok stored =>
        obtain ⟨heap, hput⟩ := w.heap.exists_put key stored hi
        refine .inl ⟨(.receiver, { w with heap }), ?_, (Heap.write_eq_of_put hput).symm⟩
        change (w.heap.put i.storage key stored >>= _) = _
        rw [hput]
        rfl
  | load key s ty fallback =>
    dsimp only
    -- reading can fail, and so can the default
    cases hd : s.decode ty (w.heap.get? i.storage key) with
    | error e =>
      refine .inr ⟨e, rfl, rfl, ?_⟩
      rintro rfl
      exact Strategy.decode_ne_immutable hd
    | ok read =>
      obtain ⟨r, hf, hr⟩ | ⟨e, hf, he⟩ := BoundType.fallBack_cases w key s read fallback
      · refine .inl ⟨(.value r.1, r.2), ?_, hr⟩
        change (BoundType.fallBack w key s read fallback >>= _) = _
        rw [hf]
        rfl
      · refine .inr ⟨e, ?_, rfl, he⟩
        change (BoundType.fallBack w key s read fallback >>= _) = _
        rw [hf]
        rfl
  | assert key | collect => exact .inl ⟨_, rfl, rfl⟩
  | assertChain key | entry setter param | wrap => exact .inr ⟨_, rfl, rfl, nofun⟩

/-- A call on an instance that is not over the empty bundle writes what the method that it means has
to write, and does nothing else to bundles. -/
lemma heap_after {call} (hi : i.storage.index ≠ 0) :
    (i.after w call).heap = (i.write? call).elim w.heap (w.heap.write i.storage) := by
  unfold after write?
  cases hx : i.bound.instanceMethod call.name call.args.length with
  | error e =>
    unfold invoke
    rw [hx]
    rfl
  | ok x =>
    rw [invoke_eq_run hx]
    obtain ⟨r, hr, hheap⟩ | ⟨e, hr, hw, -⟩ := run_cases w x call.name call.args hi
    · rw [hr]
      exact hheap
    · dsimp only
      rw [hr, hw]
      rfl

/-- A call of an instance over any bundle but the empty one does not fail with
`immutableContainer`. -/
lemma invoke_ne_immutable {name args} (hi : i.storage.index ≠ 0) :
    i.invoke w name args ≠ .error .immutableContainer := by
  intro h
  obtain h | ⟨x, -, h⟩ := Except.bind_eq_error.1 h
  · exact BoundType.select_ne_immutable h
  · obtain ⟨r, hr, -⟩ | ⟨e, hr, -, he⟩ := run_cases w x name args hi
    · rw [hr] at h
      cases h
    · rw [hr] at h
      exact he (Except.error.inj h)

end Instance

/-- The instance is over a bundle that one heap has and the other has not yet. All other bundles are
the same. -/
structure Instance.IsNew (i : Instance) (h h' : Heap) : Prop where
  ext : h.Extends h'
  length_le : h.cells.length ≤ i.storage.index
  lt_length : i.storage.index < h'.cells.length

namespace BoundType

variable {c : BoundType} {w : World}

/-- An instance around a bundle is over a new copy of it. -/
lemma isNew_wrap {b} : (c.wrap w b).1.IsNew w.heap (c.wrap w b).2.heap := by
  obtain ⟨es, he⟩ := Heap.exists_duplicate_eq_alloc (h := w.heap) (b := b)
  unfold wrap
  rw [he]
  exact ⟨Heap.extends_alloc, Nat.le_refl _, Heap.index_alloc_lt⟩

/-- An instance over a new bundle is new, also after a call. -/
lemma isNew_fresh {call} :
    (c.fresh w).1.IsNew w.heap ((c.fresh w).1.after (c.fresh w).2 call).heap := by
  have hi : (c.fresh w).1.storage.index ≠ 0 := w.heap.index_alloc_ne {}
  have hlt : (c.fresh w).1.storage.index < (c.fresh w).2.heap.cells.length := Heap.index_alloc_lt
  have he : w.heap.Extends (c.fresh w).2.heap := Heap.extends_alloc
  rw [Instance.heap_after hi]
  -- what the call writes, it writes to the new bundle
  cases (c.fresh w).1.write? call with
  | none => exact ⟨he, Nat.le_refl _, hlt⟩
  | some wr => exact ⟨he.write (Nat.le_refl _), Nat.le_refl _, Heap.length_write.symm ▸ hlt⟩

/-- An instance that comes from an entry point is new. -/
lemma isNew_of_callStatic {name args i w'} (h : c.callStatic w name args = .ok (i, w')) :
    i.IsNew w.heap w'.heap := by
  obtain ⟨x, -, h⟩ := Except.bind_eq_ok.1 h
  cases hb : x.body with
  | wrap =>
    rw [hb] at h
    dsimp only at h
    split at h
    · cases h
      exact isNew_wrap
    · cases h
  | entry setter param =>
    rw [hb] at h
    obtain ⟨⟨r, w₁⟩, hr, h⟩ := Except.bind_eq_ok.1 h
    cases h
    -- the entry point is a call of the setter on an instance over a new bundle
    have ha : (c.fresh w).1.after (c.fresh w).2 ⟨setter, args⟩ = w' := by
      unfold Instance.after
      rw [show (c.fresh w).1.invoke (c.fresh w).2 setter args = .ok (r, w') from hr]
    rw [← ha]
    exact isNew_fresh
  | store key s param | load key s ty fallback | assert key | assertChain key | collect =>
    rw [hb] at h
    cases h

/-- Nor does a call of the companion, since what it makes is over a new bundle. -/
lemma callStatic_ne_immutable {name args} :
    c.callStatic w name args ≠ .error .immutableContainer := by
  intro h
  obtain h | ⟨x, -, h⟩ := Except.bind_eq_error.1 h
  · exact select_ne_immutable h
  · cases hb : x.body with
    | wrap =>
      rw [hb] at h
      dsimp only at h
      split at h <;> cases h
    | entry setter param =>
      rw [hb] at h
      obtain h | ⟨_, -, h⟩ := Except.bind_eq_error.1 h
      · exact Instance.invoke_ne_immutable (w.heap.index_alloc_ne {}) h
      · cases h
    | store key s param | load key s ty fallback | assert key | assertChain key | collect =>
      rw [hb] at h
      cases h

end BoundType

/-- Bundles and what is over them, as clients have made it: the instances are in order. -/
structure Session where
  world : World
  instances : List Instance := []

/-- What a client can do. It can refer to any bundle, also to the empty one, and any value can hold
such references. -/
inductive Action where
  /-- Makes a bundle. -/
  | new
  | duplicate (b : Bundle)
  | put (b : Bundle) (key : String) (v : Value)
  | remove (b : Bundle) (key : String)
  /-- Makes an instance over a copy of a bundle. -/
  | wrap (c : BoundType) (b : Bundle)
  /-- Calls an entry point, which makes an instance. -/
  | enter (c : BoundType) (name : String) (args : List Value)
  /-- Calls a method of the instance with the number. -/
  | invoke (n : Nat) (call : Call)
  /-- Puts other default bodies at hand. -/
  | provide (d : Defaults)

namespace Action

/-- The write that an action makes through a reference to the bundle. The empty one takes none. -/
def through (b : Bundle) : Action → Option Write
  | put b' key v => if b' = b ∧ b ≠ .empty then some (.put key v) else none
  | remove b' key => if b' = b ∧ b ≠ .empty then some (.remove key) else none
  | _ => none

/-- The write that an action makes by a call of the instance with the number. -/
def calling (n : Nat) (i : Instance) : Action → Option Write
  | invoke n' call => if n' = n then i.write? call else none
  | _ => none

/-- The write that an action makes by way of the instance with the number: by a call of it or
through a reference to the bundle behind it. -/
def byWayOf (n : Nat) (i : Instance) (a : Action) : Option Write :=
  (a.calling n i).or (a.through i.storage)

end Action

namespace Session

/-- The session after an action. One that fails changes nothing. -/
def step (s : Session) : Action → Session
  | .new => { s with world.heap := s.world.heap.new.2 }
  | .duplicate b => { s with world.heap := (s.world.heap.duplicate b).2 }
  | .put b key v =>
    match s.world.heap.put b key v with
    | .ok heap => { s with world.heap := heap }
    | .error _ => s
  | .remove b key =>
    match s.world.heap.remove b key with
    | .ok (_, heap) => { s with world.heap := heap }
    | .error _ => s
  | .wrap c b =>
    let (i, world) := c.wrap s.world b
    ⟨world, s.instances ++ [i]⟩
  | .enter c name args =>
    match c.callStatic s.world name args with
    | .ok (i, world) => ⟨world, s.instances ++ [i]⟩
    | .error _ => s
  | .invoke n call =>
    match s.instances[n]? with
    | some i => { s with world := i.after s.world call }
    | none => s
  | .provide d => { s with world.defaults := d }

/-- The session after actions in turn. -/
def run (s : Session) (as : List Action) : Session := as.foldl step s

/-- The empty bundle has no entries, and each instance is over a bundle of its own, which is another
one. -/
structure Sound (s : Session) : Prop where
  entries_empty : s.world.heap.entries .empty = {}
  backed : ∀ i ∈ s.instances, i.storage.index < s.world.heap.cells.length ∧ i.storage ≠ .empty
  nodup : (s.instances.map Instance.storage).Nodup

/-- The write that an action makes to the bundle: through a reference to it, or by a call of an
instance over it. -/
def writeTo? (s : Session) (b : Bundle) : Action → Option Write
  | .invoke n call =>
    s.instances[n]?.bind fun i => if i.storage = b then i.write? call else none
  | a => a.through b

variable {s : Session}

/-- What an action does to the bundles and the instances: it writes to one bundle, or it makes
bundles, perhaps with an instance over one of them. -/
lemma step_cases (hs : s.Sound) (a : Action) :
    (∃ b w, (∀ c, s.writeTo? c a = if b = c ∧ c ≠ .empty then some w else none) ∧
      (s.step a).world.heap = s.world.heap.write b w ∧ (s.step a).instances = s.instances) ∨
    ((∀ c, s.writeTo? c a = none) ∧ s.world.heap.Extends (s.step a).world.heap ∧
      ((s.step a).instances = s.instances ∨
        ∃ i : Instance, (s.step a).instances = s.instances ++ [i] ∧
          i.IsNew s.world.heap (s.step a).world.heap)) := by
  cases a with
  | new => exact .inr ⟨fun _ => rfl, Heap.extends_alloc, .inl rfl⟩
  | duplicate b =>
    refine .inr ⟨fun _ => rfl, ?_, .inl rfl⟩
    obtain ⟨es, he⟩ := Heap.exists_duplicate_eq_alloc (h := s.world.heap) (b := b)
    simp only [step, he]
    exact Heap.extends_alloc
  | put b key v =>
    refine .inl ⟨b, .put key v, fun _ => rfl, ?_, ?_⟩
    · unfold step Heap.write
      rw [show s.world.heap.update b (Write.put key v).apply = s.world.heap.put b key v from rfl]
      dsimp only
      cases s.world.heap.put b key v <;> rfl
    · unfold step
      dsimp only
      cases s.world.heap.put b key v <;> rfl
  | remove b key =>
    refine .inl ⟨b, .remove key, fun _ => rfl, ?_, ?_⟩
    · unfold step Heap.write Heap.remove Write.apply
      dsimp only
      cases s.world.heap.update b (·.erase key) <;> rfl
    · unfold step
      dsimp only
      cases s.world.heap.remove b key <;> rfl
  | wrap c b =>
    have hn : (c.wrap s.world b).1.IsNew s.world.heap (c.wrap s.world b).2.heap :=
      BoundType.isNew_wrap
    exact .inr ⟨fun _ => rfl, hn.ext, .inr ⟨_, rfl, hn⟩⟩
  | enter c name args =>
    refine .inr ⟨fun _ => rfl, ?_⟩
    unfold step
    dsimp only
    cases h : c.callStatic s.world name args with
    | error e => exact ⟨.refl, .inl rfl⟩
    | ok r =>
      have hn := BoundType.isNew_of_callStatic h
      exact ⟨hn.ext, .inr ⟨r.1, rfl, hn⟩⟩
  | invoke n call =>
    unfold step writeTo?
    dsimp only
    cases hn : s.instances[n]? with
    | none => exact .inr ⟨fun _ => rfl, .refl, .inl rfl⟩
    | some i =>
      -- here it matters that no instance is over the empty bundle
      obtain ⟨-, hne⟩ := hs.backed i (List.mem_of_getElem? hn)
      have hw : (i.after s.world call).heap = (i.write? call).elim _ _ :=
        Instance.heap_after (Bundle.index_ne_zero hne)
      cases hi : i.write? call with
      | none =>
        rw [hi] at hw
        refine .inr ⟨fun c => ?_, ?_, .inl rfl⟩
        · simp [hi]
        · dsimp only
          rw [hw]
          exact .refl
      | some w =>
        rw [hi] at hw
        refine .inl ⟨i.storage, w, fun c => ?_, hw, rfl⟩
        rw [Option.bind_some, hi]
        by_cases hc : i.storage = c
        · rw [if_pos hc, if_pos ⟨hc, hc ▸ hne⟩]
        · rw [if_neg hc, if_neg fun h => hc h.1]
  | provide d => exact .inr ⟨fun _ => rfl, .refl, .inl rfl⟩

/-- No action takes cells away. -/
lemma length_le_step (hs : s.Sound) (a : Action) :
    s.world.heap.cells.length ≤ (s.step a).world.heap.cells.length := by
  obtain ⟨b, w, -, hh, -⟩ | ⟨-, he, -⟩ := step_cases hs a
  · exact Nat.le_of_eq (hh ▸ Heap.length_write).symm
  · exact he.length_le

/-- A bundle changes by the write that an action makes to it, and by nothing else. -/
lemma entries_step (hs : s.Sound) (a : Action) {b : Bundle}
    (hb : b.index < s.world.heap.cells.length) :
    (s.step a).world.heap.entries b =
      Write.applyAll (s.writeTo? b a).toList (s.world.heap.entries b) := by
  obtain ⟨c, w, hw, hh, -⟩ | ⟨hw, he, -⟩ := step_cases hs a
  · rw [hh, Heap.entries_write hb, hw]
    split <;> rfl
  · rw [he.entries_eq b hb, hw]
    rfl

/-- An action leaves the instances as they are, except that there may be one more, over a bundle
that has not been there. -/
lemma instances_step (hs : s.Sound) (a : Action) :
    (s.step a).instances = s.instances ∨ ∃ i : Instance,
      (s.step a).instances = s.instances ++ [i] ∧
        i.IsNew s.world.heap (s.step a).world.heap := by
  obtain ⟨_, _, -, -, hi⟩ | ⟨-, -, hi⟩ := step_cases hs a
  · exact .inl hi
  · exact hi

/-- The first cell is there in every heap. -/
lemma index_empty_lt (h : Heap) : Bundle.empty.index < h.cells.length :=
  List.length_pos_iff.2 h.cells_ne

/-- No action writes to the empty bundle. -/
lemma Sound.writeTo?_empty (hs : s.Sound) (a : Action) : s.writeTo? .empty a = none := by
  obtain ⟨b, w, hw, -⟩ | ⟨hw, -⟩ := step_cases hs a
  · rw [hw, if_neg fun h => h.2 rfl]
  · exact hw _

/-- An action keeps the instances over bundles of their own and the empty bundle empty. -/
lemma Sound.step (hs : s.Sound) (a : Action) : (s.step a).Sound := by
  have he : (s.step a).world.heap.entries .empty = {} := by
    rw [entries_step hs a (index_empty_lt _), hs.writeTo?_empty a]
    exact hs.entries_empty
  have hle := length_le_step hs a
  obtain hi | ⟨i, hi, hn⟩ := instances_step hs a
  · refine ⟨he, ?_, ?_⟩
    · rw [hi]
      exact fun i hm => ⟨Nat.lt_of_lt_of_le (hs.backed i hm).1 hle, (hs.backed i hm).2⟩
    · rw [hi]
      exact hs.nodup
  · have hne : i.storage ≠ .empty := by
      intro h
      have hl := hn.length_le
      rw [h] at hl
      exact Nat.not_lt_of_le hl (index_empty_lt _)
    refine ⟨he, ?_, ?_⟩
    · rw [hi, List.forall_mem_append, List.forall_mem_singleton]
      exact ⟨fun j hm => ⟨Nat.lt_of_lt_of_le (hs.backed j hm).1 hle, (hs.backed j hm).2⟩,
        hn.lt_length, hne⟩
    · rw [hi, List.nodup_map_concat]
      -- a bundle that has not been there is none of those behind other instances
      refine ⟨hs.nodup, fun j hm h => ?_⟩
      have hl := hn.length_le
      rw [← h] at hl
      exact Nat.not_lt_of_le hl (hs.backed j hm).1

/-- What a sound session has and every action keeps, the session has after any actions. -/
lemma Sound.run_induction {P : Session → Prop} (hs : s.Sound) (h : P s)
    (hstep : ∀ s : Session, s.Sound → P s → ∀ a, P (s.step a)) (as : List Action) :
    P (s.run as) := by
  induction as generalizing s with
  | nil => exact h
  | cons a rest ih => exact ih (hs.step a) (hstep s hs h a)

/-- Whatever is done in a session, it stays sound. -/
lemma Sound.run (hs : s.Sound) (as : List Action) : (s.run as).Sound :=
  hs.run_induction hs (fun _ hs' _ a => hs'.step a) as

/-- Nobody has made anything yet. -/
def start : Session where
  world := {}

/-- A session starts with the empty bundle and without instances. -/
lemma sound_start : start.Sound := ⟨rfl, nofun, List.nodup_nil⟩

end Session

/-- Whatever clients do, the empty bundle stays empty and every other bundle can be written to. No
instance is over the empty bundle, and no call fails because of it, of whatever type it is. -/
theorem Session.empty_bundle_unused (as : List Action) :
    let s := start.run as
    s.world.heap.entries .empty = {} ∧
    (∀ b : Bundle, b.index < s.world.heap.cells.length → b ≠ .empty → ∀ key v,
      (∃ h, s.world.heap.put b key v = .ok h ∧ h.get? b key = some v) ∧
        ∃ h, s.world.heap.remove b key = .ok (s.world.heap.get? b key, h) ∧ h.get? b key = none) ∧
    (∀ i ∈ s.instances, i.storage ≠ .empty ∧
      ∀ name args, i.invoke s.world name args ≠ .error .immutableContainer) ∧
    ∀ (c : BoundType) name args, c.callStatic s.world name args ≠ .error .immutableContainer := by
  intro s
  have hs : s.Sound := sound_start.run as
  refine ⟨hs.entries_empty, ?_, ?_, ?_⟩
  · intro b hb hne key v
    constructor
    · obtain ⟨h, hput⟩ := s.world.heap.exists_put key v (Bundle.index_ne_zero hne)
      exact ⟨h, hput, by rw [Heap.get?_put hput hb, if_pos rfl]⟩
    · obtain ⟨h, hu⟩ := s.world.heap.exists_update (·.erase key) (Bundle.index_ne_zero hne)
      refine ⟨h, ?_, ?_⟩
      · unfold Heap.remove
        rw [hu]
        rfl
      · unfold Heap.get?
        rw [Heap.entries_update hu hb, if_pos rfl, Dict.find?_erase, if_pos rfl]
  · intro i hi
    obtain ⟨-, hne⟩ := hs.backed i hi
    exact ⟨hne, fun _ _ => Instance.invoke_ne_immutable (Bundle.index_ne_zero hne)⟩
  · intro c name args
    exact BoundType.callStatic_ne_immutable

end TypedBundle
