import TypedBundle.Proofs.Instance.Dispatch

/-!
# What one call does

A call that succeeds either stores the argument of a setter under the key of its member, or leaves
the heap alone. What a setter stores reads back as the argument, whatever the strategy. Getters ask
for default values, which changes nothing if the default bodies are pure.
-/

namespace TypedBundle

/-- What is stored for an argument reads back as the argument. -/
lemma Strategy.decode_encode {classes name ty s v stored}
    (h : encode classes name ty s v = .ok stored) : decode ty s (some stored) = .ok (some v) := by
  unfold encode at h
  split at h
  · next typeName constant =>
    split at h
    · cases h
    · next ht =>
      split at h
      · next hc =>
        cases h
        obtain rfl := not_not.1 ht
        simp only [decode, hc, if_true]
      · cases h
  · next hne =>
    split at h
    · next ha =>
      cases h
      unfold accepts at ha
      split at ha
      · simp only [decode, hasShape, ha, if_true]
      · rfl
      · rfl
      · rfl
      · cases ha
    · cases h

namespace Heap

/-- An entry that is put shows under its key, and other entries stay. -/
lemma get?_put {h h' : Heap} {b key v} (hp : h.put b key v = .ok h')
    (hb : b.index < h.cells.length) (key' : String) :
    h'.get? b key' = if key' = key then some v else h.get? b key' := by
  unfold get?
  rw [entries_update hp hb, if_pos rfl, Dict.find?_insert]

/-- A change makes no bundles. -/
lemma length_update {h h' : Heap} {b change} (hu : h.update b change = .ok h') :
    h'.cells.length = h.cells.length := by
  unfold update at hu
  split at hu
  · cases hu
  · cases hu
    exact List.length_modify _ _ _

/-- Putting an entry in makes no cells and takes none away. -/
lemma length_put {h h' : Heap} {b key v} (hp : h.put b key v = .ok h') :
    h'.cells.length = h.cells.length :=
  length_update hp

end Heap

/-- The default bodies of a template are at hand, and each always yields the same value. -/
structure Template.DefaultsPure (t : Template) (d : Defaults) : Prop where
  registered : ∀ m ∈ t.members, m.hasDefaultBody →
    (d.value? ⟨t.simpleName, m.declaredName⟩).isSome
  pure : ∀ m ∈ t.members, m.hasDefaultBody →
    ∀ b ∈ d.bodies, b.call = ⟨t.simpleName, m.declaredName⟩ → b.isPure

deriving instance ReflBEq, LawfulBEq for DefaultCall

/-- Asking for a pure default changes nothing. -/
lemma Defaults.advance_eq_self {d : Defaults} {call}
    (h : ∀ b ∈ d.bodies, b.call = call → b.isPure) : d.advance call = d := by
  have hb : ∀ b ∈ d.bodies, (if b.call == call then b.advance else b) = b := by
    intro b hm
    split
    · next hc =>
      have hp := h b hm (by simpa using hc)
      unfold DefaultBody.isPure at hp
      unfold DefaultBody.advance
      rw [List.isEmpty_iff.1 hp]
    · rfl
  unfold advance
  rw [List.map_congr_left hb, List.map_id']

namespace Template.DefaultsPure

variable {t : Template} {d : Defaults} {m : Member}

/-- The default of a member is at hand, and asking for it leaves the world as it is. -/
lemma exists_default {call} (h : t.DefaultsPure d) (hm : m ∈ t.members)
    (hc : m.defaultCall? t = .ok (some call)) :
    ∃ v, ∀ w : World, w.defaults = d → BoundType.default w call = .ok (v, w) := by
  obtain ⟨hb, rfl⟩ := Member.defaultCall?_eq_some hc
  obtain ⟨v, hv⟩ := Option.isSome_iff_exists.1 (h.registered m hm hb)
  refine ⟨v, ?_⟩
  rintro w rfl
  unfold BoundType.default
  rw [hv, Defaults.advance_eq_self (h.pure m hm hb)]

/-- A getter of a member leaves the world as it is and answers a value that is there. Otherwise what
it answers depends on the default bodies and on nothing else of the world. -/
lemma exists_fallBack {fallback} (key : String) (s : Strategy) (read : Option Value)
    (h : t.DefaultsPure d) (hm : m ∈ t.members)
    (hf : ∀ call, fallback = .inlineDefault call ∨ fallback = .orDefault call →
      m.defaultCall? t = .ok (some call)) :
    ∃ answer : Except Fault (Option Value),
      (∀ v, read = some v → answer = .ok (some v)) ∧
      ∀ w : World, w.defaults = d →
        BoundType.fallBack w key s read fallback = answer.map (·, w) := by
  cases fallback with
  | inlineZero =>
    cases s with
    | direct kind =>
      refine ⟨.ok (read.or (Value.zero? kind)), ?_, fun _ _ => rfl⟩
      rintro v rfl
      rfl
    | _ => exact ⟨.ok read, by simp, fun _ _ => rfl⟩
  | inlineDefault call =>
    obtain ⟨v, hv⟩ := h.exists_default hm (hf call (.inl rfl))
    refine ⟨.ok (some (read.getD v)), ?_, ?_⟩
    · rintro v' rfl
      rfl
    · intro w hw
      rw [BoundType.fallBack, hv w hw]
      rfl
  | orDefault call =>
    obtain ⟨v, hv⟩ := h.exists_default hm (hf call (.inr rfl))
    cases read with
    | some v' => exact ⟨.ok (some v'), by simp, fun _ _ => rfl⟩
    | none =>
      refine ⟨.ok (some v), by simp, fun w hw => ?_⟩
      rw [BoundType.fallBack, hv w hw]
      rfl
  | orNull => exact ⟨.ok read, by simp, fun _ _ => rfl⟩
  | orThrow =>
    cases read with
    | some v => exact ⟨.ok (some v), by simp, fun _ _ => rfl⟩
    | none => exact ⟨.error (.propertyNotFound key), by simp, fun _ _ => rfl⟩

end Template.DefaultsPure

/-- A call of an instance method. -/
structure Call where
  name : String
  args : List Value := []

namespace Instance

/-- What a call answers. -/
def answer (i : Instance) (w : World) (call : Call) : Except Fault Returned :=
  (i.invoke w call.name call.args).map Prod.fst

/-- The world after a call, which a call that fails leaves as it is. -/
def after (i : Instance) (w : World) (call : Call) : World :=
  match i.invoke w call.name call.args with
  | .ok (_, w') => w'
  | .error _ => w

/-- The call means one of the setters, hands the value to it and succeeds. -/
def Sets (i : Instance) (w : World) (a : MemberAccessors) (call : Call) (v : Value) : Prop :=
  call.args = [v] ∧ (∃ x ∈ a.setters, i.bound.instanceMethod call.name call.args.length = .ok x) ∧
    ∃ r, i.invoke w call.name call.args = .ok r

variable {i : Instance} {w : World} {t : Template} {m : Member} {a : MemberAccessors}

/-- A call of a setter stores what reads back as its argument under the key of the member. -/
lemma after_of_sets {call v} (ha : m.accessors t = .ok a) (h : i.Sets w a call v) :
    ∃ stored heap, a.strategy.decode m.declaredType (some stored) = .ok (some v) ∧
      w.heap.put i.storage a.key stored = .ok heap ∧ i.after w call = { w with heap } := by
  obtain ⟨hv, ⟨x, hx, hd⟩, r, hr⟩ := h
  obtain ⟨p, -, rfl⟩ := (Member.mem_setters ha).1 hx
  rw [(Member.member_of_accessors ha).2.1]
  have hrun := invoke_eq_run (w := w) hd
  rw [hr, hv, run_setter rfl rfl] at hrun
  obtain ⟨stored, he, hput⟩ := Except.bind_eq_ok.1 hrun.symm
  obtain ⟨heap, hput, hret⟩ := Except.bind_eq_ok.1 hput
  refine ⟨stored, heap, Strategy.decode_encode he, hput, ?_⟩
  unfold after
  rw [hr]
  cases hret
  rfl

/-- A method without parameters is the one that a call without arguments means. -/
lemma instanceMethod_of_params_nil {x : Method} (hg : t.generate = .ok i.bound.type)
    (hx : x ∈ i.bound.type.methods) (hp : x.params = []) :
    i.bound.instanceMethod x.name 0 = .ok x := by
  obtain ⟨y, hy⟩ := BoundType.exists_instanceMethod hx
  rw [hp, List.length_nil] at hy
  obtain ⟨hym, hn, hl⟩ := BoundType.mem_of_instanceMethod hy
  rwa [Template.eq_of_name_eq hg hym hx hn (List.eq_nil_of_length_eq_zero hl) hp] at hy

/-- A getter of a member leaves the world as it is. Its answer depends on what its entry reads as
and on the default bodies, and it is the value that is read if there is one. -/
lemma exists_run_getter {x d} (read : Except Fault (Option Value)) (hd : t.DefaultsPure d)
    (hm : m ∈ t.members) (ha : m.accessors t = .ok a) (hx : x ∈ a.getters) :
    ∃ answer : Except Fault Returned,
      (∀ v, read = .ok (some v) → answer = .ok (.value (some v))) ∧
      ∀ w : World, w.defaults = d →
        a.strategy.decode m.declaredType (w.heap.get? i.storage a.key) = read →
        ∀ name args, i.run w x name args = answer.map (·, w) := by
  obtain ⟨name, nullable, fallback, rfl, hf⟩ := Member.getter_of_mem ha hx
  have hrun : ∀ (w : World) name' args,
      i.run w (MemberAccessors.getter m (Naming.ofMember t m) a.strategy name nullable fallback)
        name' args = (do
          let read ← a.strategy.decode m.declaredType (w.heap.get? i.storage a.key)
          let r ← BoundType.fallBack w a.key a.strategy read fallback
          return (.value r.1, r.2)) := by
    intro w name' args
    rw [(Member.member_of_accessors ha).2.1]
    rfl
  cases read with
  | error e =>
    refine ⟨.error e, nofun, fun w hw hr name' args => ?_⟩
    rw [hrun, hr]
    rfl
  | ok read =>
    obtain ⟨answer, hsome, hfall⟩ :=
      Template.DefaultsPure.exists_fallBack a.key a.strategy read hd hm hf
    refine ⟨answer.map .value, ?_, fun w hw hr name' args => ?_⟩
    · intro v hv
      cases hv
      rw [hsome v rfl]
      rfl
    · rw [hrun, hr]
      change (BoundType.fallBack w a.key a.strategy read fallback >>= _) = _
      rw [hfall w hw]
      cases answer <;> rfl

/-- A call leaves the world as it is unless it means a setter of a member. -/
lemma after_eq_or_sets (hg : t.generate = .ok i.bound.type) (hd : t.DefaultsPure w.defaults)
    (call : Call) :
    i.after w call = w ∨
      ∃ m ∈ t.members, ∃ a, m.accessors t = .ok a ∧ ∃ v, i.Sets w a call v := by
  cases hr : i.invoke w call.name call.args with
  | error e =>
    left
    unfold after
    rw [hr]
  | ok r =>
    have hw : i.after w call = r.2 := by
      unfold after
      rw [hr]
    obtain ⟨x, hx, hrun⟩ := invoke_eq_ok.1 hr
    obtain ⟨hmem, -, hl⟩ := BoundType.mem_of_instanceMethod hx
    obtain ⟨m, hm, a, ha, hxa⟩ | rfl := (Template.mem_methods_iff hg).1 hmem
    · obtain (hset | hget) | rfl := MemberAccessors.mem_instanceMethods.1 hxa
      · right
        obtain ⟨p, -, rfl⟩ := (Member.mem_setters ha).1 hset
        obtain ⟨v, hv⟩ := List.length_eq_one_iff.1 hl.symm
        exact ⟨m, hm, a, ha, v, hv, ⟨_, hset, hx⟩, r, hr⟩
      · left
        obtain ⟨answer, -, hans⟩ := exists_run_getter (i := i) _ hd hm ha hget
        rw [hans w rfl rfl] at hrun
        obtain ⟨_, -, rfl⟩ := Except.map_eq_ok.1 hrun
        exact hw
      · left
        rw [(Member.asserts_of_accessors ha).1] at hrun
        cases hrun
        exact hw
    · left
      cases hrun
      exact hw

end Instance

end TypedBundle
