import TypedBundle.Proofs.Instance.Session

/-!
# Calls that fail

`Instance.invoke` gives a world only if the call succeeds. What a call that fails has done on its
way does not show in it, so here calls are taken step by step: `Instance.perform` is the same call
as an `Effect`, and what a step does stays done if a later one fails. The two agree because no step
changes anything before the last one that can fail (`Instance.settles_perform`). So calls are
atomic, and only setters write: one entry each, of the instance's own bundle
(`Template.calls_atomic`).
-/

namespace TypedBundle

/-- A computation that may change the world on its way. If it fails, what it has done stays done. -/
abbrev Effect := ExceptT Fault (StateM World)

namespace Effect

/-- The value under a key of a bundle. -/
def get? (b : Bundle) (key : String) : Effect (Option Value) := do
  return (← get).heap.get? b key

/-- Puts a value into a bundle. -/
def put (b : Bundle) (key : String) (v : Value) : Effect Unit := do
  let heap ← (← get).heap.put b key v
  modify fun w => { w with heap }

/-- Asks a default body for its value. -/
def default (call : DefaultCall) : Effect Value := do
  match (← get).defaults.value? call with
  | some v =>
    modify fun w => { w with defaults := w.defaults.advance call }
    return v
  | none => throw (.defaultUnavailable call.owner call.function)

/-- What a getter makes of what it has read. -/
def fallBack (key : String) (s : Strategy) (read : Option Value) :
    Fallback → Effect (Option Value)
  | .inlineZero =>
    match s with
    | .direct kind => return read.or (Value.zero? kind)
    | _ => return read
  | .inlineDefault call => do
    let v ← default call
    return some (read.getD v)
  | .orDefault call =>
    match read with
    | some v => return some v
    | none => do
      let v ← default call
      return some v
  | .orNull => return read
  | .orThrow =>
    match read with
    | some v => return some v
    | none => throw (.propertyNotFound key)

end Effect

/-- A call of the instance, step by step. -/
def Instance.perform (i : Instance) (name : String) (args : List Value) : Effect Returned := do
  let m ← i.bound.instanceMethod name args.length
  match m.body with
  | .store key s _ =>
    match m.params, args with
    | p :: _, v :: _ => do
      let stored ← s.encode i.bound.classes name p.type v
      Effect.put i.storage key stored
      return .receiver
    | _, _ => throw (mismatch name "setter has no parameter")
  | .load key s ty fallback => do
    let stored ← Effect.get? i.storage key
    let read ← s.decode ty stored
    let v ← Effect.fallBack key s read fallback
    return .value v
  | .assert key => return .assertion ⟨i.bound, i.storage, [key]⟩
  | .collect => return .container i.storage
  | .assertChain _ | .entry _ _ | .wrap => throw (i.bound.unknown name)

/-- A call of an entry point, step by step. -/
def BoundType.perform (c : BoundType) (name : String) (args : List Value) : Effect Instance := do
  let m ← c.select (c.type.companionNamed name) name args.length
  match m.body with
  | .wrap =>
    match args with
    | [.bundle b] => modifyGet fun w => c.wrap w b
    | _ => throw (mismatch name "expected a single Bundle argument")
  | .entry setter _ => do
    let i ← modifyGet c.fresh
    let _ ← i.perform setter args
    return i
  | _ => throw (c.unknown name)

namespace Effect

variable {α β : Type} {w : World}

/-- From the world on, the computation ends as the pure one says, and it changes nothing if it
fails. -/
def Settles (x : Effect α) (w : World) (r : Except Fault (α × World)) : Prop :=
  x.run w = match r with
    | .ok (a, w') => (.ok a, w')
    | .error e => (.error e, w)

/-- After a step that succeeds, the next goes on in the world that it left. -/
lemma run_bind_ok {x : Effect α} {f : α → Effect β} {a w'} (h : x.run w = (.ok a, w')) :
    (x >>= f).run w = (f a).run w' := by
  rw [ExceptT.run_bind]
  change StateT.bind x.run _ w = _
  unfold StateT.bind
  rw [h]
  rfl

/-- A step that fails ends the call, with the world as the step left it. -/
lemma run_bind_error {x : Effect α} {f : α → Effect β} {e w'} (h : x.run w = (.error e, w')) :
    (x >>= f).run w = (.error e, w') := by
  rw [ExceptT.run_bind]
  change StateT.bind x.run _ w = _
  unfold StateT.bind
  rw [h]
  rfl

/-- A check that succeeds leaves the world alone. -/
lemma run_lift_ok {a : α} {f : α → Effect β} :
    ((liftM (.ok a : Except Fault α) : Effect α) >>= f).run w = (f a).run w := rfl

/-- A check that fails ends the call with the world as it was. -/
lemma run_lift_error {e} {f : α → Effect β} :
    ((liftM (.error e : Except Fault α) : Effect α) >>= f).run w = (.error e, w) := rfl

namespace Settles

/-- An answer at hand settles. -/
lemma pure {a : α} : Settles (pure a) w (.ok (a, w)) := rfl

/-- So does a failure. -/
lemma throw {e} : Settles (throw e : Effect α) w (.error e) := rfl

/-- To look at the world changes nothing. -/
lemma get_bind {f : World → Effect β} {r} (h : Settles (f w) w r) : Settles (get >>= f) w r :=
  (run_bind_ok rfl).trans h

/-- Nor does a step that only may fail. -/
lemma lift_bind {x : Except Fault α} {f : α → Effect β} {g : α → Except Fault (β × World)}
    (h : ∀ a, x = .ok a → Settles (f a) w (g a)) : Settles (liftM x >>= f) w (x >>= g) := by
  cases x with
  | error e => exact run_bind_error rfl
  | ok a => exact (run_bind_ok rfl).trans (h a rfl)

/-- What comes after the last step that can fail may change anything. -/
lemma bind_pure {x : Effect α} {r} {f : α → β} (h : Settles x w r) :
    Settles (x >>= fun a => Pure.pure (f a)) w (r.map fun p => (f p.1, p.2)) := by
  unfold Settles at h ⊢
  cases r with
  | error e => exact run_bind_error h
  | ok p => exact run_bind_ok h

end Settles

variable {b : Bundle} {key : String} {s : Strategy} {read : Option Value}

/-- Writing an entry changes nothing if it fails. -/
lemma settles_put {v : Value} :
    Settles (put b key v) w ((w.heap.put b key v).map fun heap => ((), { w with heap })) := by
  refine .get_bind ?_
  cases w.heap.put b key v with
  | error e => rfl
  | ok heap => rfl

/-- Neither does asking for a default. -/
lemma settles_default {call} : Settles (default call) w (BoundType.default w call) := by
  unfold default BoundType.default
  refine .get_bind ?_
  cases w.defaults.value? call with
  | none => rfl
  | some v => rfl

/-- Nor does what a getter falls back on. -/
lemma settles_fallBack {f : Fallback} :
    Settles (fallBack key s read f) w (BoundType.fallBack w key s read f) := by
  cases f with
  | inlineZero => cases s <;> exact .pure
  | inlineDefault call => exact settles_default.bind_pure
  | orDefault call =>
    cases read with
    | some v => exact .pure
    | none => exact settles_default.bind_pure
  | orNull => exact .pure
  | orThrow =>
    cases read with
    | some v => exact .pure
    | none => exact .throw

end Effect

namespace Instance

variable {i : Instance} {w : World} {name : String} {args : List Value}

/-- Step by step a call ends as it does at once, and a call that fails has changed nothing. -/
lemma settles_perform : (i.perform name args).Settles w (i.invoke w name args) := by
  refine .lift_bind fun m hm => ?_
  unfold run
  cases m.body with
  | store key s param =>
    match m.params, args with
    | [], _ | _ :: _, [] => exact .throw
    | p :: _, v :: _ =>
      refine .lift_bind fun stored hs => ?_
      apply Eq.trans Effect.settles_put.bind_pure
      cases w.heap.put i.storage key stored <;> rfl
  | load key s ty fallback =>
    refine .get_bind ?_
    exact .lift_bind fun read hr => Effect.settles_fallBack.bind_pure
  | assert key | collect => exact .pure
  | assertChain key | entry setter param | wrap => exact .throw

/-- What a call leaves behind when it answers: a setter has put one entry, and other methods have
changed no bundle. -/
inductive Leaves (i : Instance) (w : World) (name : String) (args : List Value) :
    Returned → World → Prop where
  | written {x key s param p ps v vs stored heap} :
    i.bound.instanceMethod name args.length = .ok x →
    x.body = .store key s param →
    x.params = p :: ps →
    args = v :: vs →
    s.encode i.bound.classes name p.type v = .ok stored →
    w.heap.put i.storage key stored = .ok heap →
    Leaves i w name args .receiver { w with heap }
  | read {r w'} :
    r ≠ .receiver →
    w'.heap = w.heap →
    Leaves i w name args r w'

/-- A call that answers leaves behind what its method may. -/
lemma leaves_of_invoke {r w'} (h : i.invoke w name args = .ok (r, w')) :
    i.Leaves w name args r w' := by
  obtain ⟨x, hx, hr⟩ := invoke_eq_ok.1 h
  unfold run at hr
  split at hr
  · next hb =>
    split at hr
    · next hp =>
      obtain ⟨stored, he, hr⟩ := Except.bind_eq_ok.1 hr
      obtain ⟨heap, hput, hr⟩ := Except.bind_eq_ok.1 hr
      cases hr
      exact .written hx hb hp rfl he hput
    · cases hr
  · obtain ⟨read, -, hr⟩ := Except.bind_eq_ok.1 hr
    obtain ⟨⟨v, w₁⟩, hf, hr⟩ := Except.bind_eq_ok.1 hr
    cases hr
    refine .read nofun ?_
    obtain ⟨p, hp, hheap⟩ | ⟨e, he, -⟩ := BoundType.fallBack_cases w _ _ read _
    · cases hf.symm.trans hp
      exact hheap
    · cases hf.symm.trans he
  · cases hr
    exact .read nofun rfl
  · cases hr
    exact .read nofun rfl
  all_goals cases hr

end Instance

namespace BoundType

variable {c : BoundType} {w : World} {name : String} {args : List Value}

/-- Step by step an entry point ends as it does at once. If it fails it may leave a new bundle
behind, but all bundles that were there are as they were. -/
lemma run_perform {r w'} (h : (c.perform name args).run w = (r, w')) :
    c.callStatic w name args = r.map (·, w') ∧ w.heap.Extends w'.heap := by
  unfold perform at h
  unfold callStatic
  cases hx : c.select (c.type.companionNamed name) name args.length with
  | error e =>
    rw [hx, Effect.run_lift_error] at h
    cases h
    exact ⟨rfl, .refl⟩
  | ok x =>
    rw [hx, Effect.run_lift_ok] at h
    simp only [bind, Except.bind]
    cases hb : x.body with
    | wrap =>
      rw [hb] at h
      obtain _ | ⟨v, _ | ⟨_, _⟩⟩ := args
      · cases h
        exact ⟨rfl, .refl⟩
      · cases v with
        | bundle b =>
          cases h
          exact ⟨rfl, (isNew_wrap (c := c)).ext⟩
        | _ =>
          cases h
          exact ⟨rfl, .refl⟩
      · cases v <;> cases h <;> exact ⟨rfl, .refl⟩
    | entry setter param =>
      rw [hb] at h
      replace h : ((c.fresh w).1.perform setter args >>= fun _ => pure (c.fresh w).1).run
        (c.fresh w).2 = (r, w') := h
      change ((c.fresh w).1.invoke (c.fresh w).2 setter args >>= fun p => _) = _ ∧ _
      have hs : Effect.Settles ((c.fresh w).1.perform setter args) (c.fresh w).2 _ :=
        Instance.settles_perform
      have hn : (c.fresh w).1.IsNew w.heap
          ((c.fresh w).1.after (c.fresh w).2 ⟨setter, args⟩).heap := isNew_fresh
      unfold Instance.after at hn
      cases hi : (c.fresh w).1.invoke (c.fresh w).2 setter args with
      | error e =>
        rw [hi] at hs hn
        rw [Effect.run_bind_error hs] at h
        cases h
        exact ⟨rfl, hn.ext⟩
      | ok p =>
        rw [hi] at hs hn
        rw [Effect.run_bind_ok hs] at h
        cases h
        exact ⟨rfl, hn.ext⟩
    | store key s param | load key s ty fallback | assert key | assertChain key | collect =>
      rw [hb] at h
      cases h
      exact ⟨rfl, .refl⟩

end BoundType

/-- One entry of one bundle is written, and all other keys and bundles are as they were. -/
structure Heap.Puts (h h' : Heap) (b : Bundle) (key : String) (v : Value) : Prop where
  length_eq : h'.cells.length = h.cells.length
  others_eq : ∀ b' ≠ b, h'.entries b' = h.entries b'
  get?_eq : ∀ key', h'.get? b key' = if key' = key then some v else h.get? b key'

/-- A write to a bundle that exists puts the value under its key and changes nothing else. -/
lemma Heap.puts_of_put {h h' : Heap} {b key v} (hp : h.put b key v = .ok h')
    (hb : b.index < h.cells.length) : h.Puts h' b key v where
  length_eq := length_put hp
  others_eq _ hne := entries_update_of_ne hp hne
  get?_eq := get?_put hp hb

namespace Template

variable {t : Template} {c : BoundType}

/-- A method that stores is a setter of a member. -/
lemma exists_member_of_store {g x key s param} (hg : t.generate = .ok g) (hx : x ∈ g.methods)
    (hb : x.body = .store key s param) :
    ∃ m ∈ t.members, ∃ a, m.accessors t = .ok a ∧ x ∈ a.setters := by
  obtain ⟨m, hm, a, ha, hx⟩ | rfl := (mem_methods_iff hg).1 hx
  · refine ⟨m, hm, a, ha, ?_⟩
    obtain (hset | hget) | rfl := MemberAccessors.mem_instanceMethods.1 hx
    · exact hset
    · obtain ⟨_, _, _, rfl, -⟩ := Member.getter_of_mem ha hget
      cases hb
    · rw [(Member.asserts_of_accessors ha).1] at hb
      cases hb
  · cases hb

/-- What a call of an instance over the bundle may end with, and what may have changed then. A call
that fails has changed nothing, and one that reads has changed no bundle. A setter has written
what it stores, under the key of its member. -/
inductive CallEffect (t : Template) (c : BoundType) (b : Bundle) (w : World) (name : String)
    (args : List Value) : Except Fault Returned → World → Prop where
  | failed {e} : CallEffect t c b w name args (.error e) w
  | answered {r w'} :
    r ≠ .receiver →
    w'.heap = w.heap →
    CallEffect t c b w name args (.ok r) w'
  | written {m a x v stored heap} :
    m ∈ t.members →
    m.accessors t = .ok a →
    x ∈ a.setters →
    c.instanceMethod name args.length = .ok x →
    args = [v] →
    a.strategy.encode c.classes name m.declaredType v = .ok stored →
    (b.index < w.heap.cells.length → w.heap.Puts heap b (m.key t) stored) →
    CallEffect t c b w name args (.ok .receiver) { w with heap }

/-- What a call that answers has done, told by the members of the template. -/
lemma callEffect_of_invoke {b w name args r w'} (hg : t.generate = .ok c.type)
    (h : (Instance.mk c b).invoke w name args = .ok (r, w')) :
    t.CallEffect c b w name args (.ok r) w' := by
  cases Instance.leaves_of_invoke h with
  | @written x key s param p ps v vs stored heap hx hb hp hargs he hput =>
    obtain ⟨hm, -, hl⟩ := BoundType.mem_of_instanceMethod hx
    obtain ⟨m, hmem, a, ha, hset⟩ := exists_member_of_store hg hm hb
    obtain ⟨_, -, rfl⟩ := (Member.mem_setters ha).1 hset
    cases hb
    cases hp
    subst hargs
    -- a setter takes one argument
    obtain rfl : vs = [] := List.eq_nil_of_length_eq_zero (Nat.succ.inj hl).symm
    exact .written hmem ha hset hx rfl he (Heap.puts_of_put hput)
  | read hr hheap => exact .answered hr hheap

end Template

/-- Calls are atomic, and only setters write. Whatever the bundles hold, a call that is taken step
by step ends as it does at once, and has changed what such a call may change. An entry point that
fails has changed no bundle that was there, and neither has one that succeeds. -/
theorem Template.calls_atomic {t : Template} {c : BoundType} (hg : t.generate = .ok c.type)
    (w : World) (name : String) (args : List Value) :
    (∀ b r w', ((Instance.mk c b).perform name args).run w = (r, w') →
      (Instance.mk c b).invoke w name args = r.map (·, w') ∧
        t.CallEffect c b w name args r w') ∧
    ∀ r w', (c.perform name args).run w = (r, w') →
      c.callStatic w name args = r.map (·, w') ∧ w.heap.Extends w'.heap := by
  refine ⟨fun b r w' h => ?_, fun r w' h => BoundType.run_perform h⟩
  have hs : Effect.Settles ((Instance.mk c b).perform name args) w _ := Instance.settles_perform
  have hr := h.symm.trans hs
  cases hi : (Instance.mk c b).invoke w name args with
  | error e =>
    rw [hi] at hr
    cases hr
    exact ⟨rfl, .failed⟩
  | ok p =>
    rw [hi] at hr
    cases hr
    exact ⟨rfl, callEffect_of_invoke hg hi⟩

/-- The setter of the constant refuses one that the enumeration does not have, and has changed
nothing then. -/
theorem Settings.run_perform_unknown :
    Settings.template.generate = .ok Settings.bound.type ∧
      (Settings.opened.1.perform Settings.setMode.name [.enum "com.example.Mode" "DIM"]).run
          Settings.opened.2 =
        (.error (.invalidEnumConstant "com.example.Mode" "DIM"), Settings.opened.2) := by
  refine ⟨Settings.generate_template, ?_⟩
  have he : Settings.opened.1.invoke Settings.opened.2 Settings.setMode.name
      [.enum "com.example.Mode" "DIM"] =
        .error (.invalidEnumConstant "com.example.Mode" "DIM") := by
    rw [Instance.invoke_eq_run Settings.instanceMethod_setMode]
    rfl
  obtain ⟨r, w', hr⟩ : ∃ r w', (Settings.opened.1.perform Settings.setMode.name
      [.enum "com.example.Mode" "DIM"]).run Settings.opened.2 = (r, w') := ⟨_, _, rfl⟩
  obtain ⟨hi, hc⟩ := (Template.calls_atomic Settings.generate_template _ _ _).1 _ r w' hr
  rw [show Instance.mk Settings.bound _ = Settings.opened.1 from rfl, he] at hi
  cases r with
  | ok a => cases hi
  | error e =>
    cases hi
    cases hc
    exact hr

end TypedBundle
