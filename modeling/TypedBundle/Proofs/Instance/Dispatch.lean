import TypedBundle.Instance.Call
import TypedBundle.Proofs.Manifest.Scopes

/-!
# Which method a call means

A call picks the first method that has its name and takes as many arguments. Methods that differ in
nothing but the types of their parameters are told apart when the type is made and not when one of
them is called: the later of two setters of one name is never reached.
-/

namespace TypedBundle

namespace Method

/-- The method stores its argument. -/
def IsSetter (x : Method) : Prop := ∃ key s param, x.body = .store key s param

/-- Whether the method has the name and as many parameters as there are arguments. -/
def answers (name : String) (arity : Nat) (x : Method) : Bool :=
  x.name == name && x.params.length == arity

/-- Whether the method takes the arguments: there are as many as it has parameters and, if it is a
setter, the argument can be stored. -/
def takes (classes : ClassTable) (x : Method) (args : List Value) : Bool :=
  x.params.length == args.length &&
    match x.body, x.params, args with
    | .store _ s _, p :: _, v :: _ => (s.encode classes x.name p.type v).isOk
    | _, _, _ => true

/-- Some method before this one has its name and as many parameters. -/
def IsShadowed (before : List Method) (x : Method) : Prop :=
  ∃ y ∈ before, y.answers x.name x.params.length

/-- A method with the name and the number of parameters answers. -/
lemma answers_iff {name arity} {x : Method} :
    x.answers name arity ↔ x.name = name ∧ x.params.length = arity := by
  simp [answers]

/-- A method takes only as many arguments as it has parameters. -/
lemma length_of_takes {classes args} {x : Method} (h : x.takes classes args) :
    x.params.length = args.length := by
  unfold takes at h
  rw [Bool.and_eq_true] at h
  exact beq_iff_eq.1 h.1

/-- A setter takes an argument that can be stored. -/
lemma takes_setter {classes key s param p v} {x : Method} (hb : x.body = .store key s param)
    (hp : x.params = [p]) :
    x.takes classes [v] ↔ ∃ stored, s.encode classes x.name p.type v = .ok stored := by
  simp only [takes, hb, hp, List.length_singleton, beq_self_eq_true, Bool.true_and]
  cases s.encode classes x.name p.type v with
  | ok stored => simp [Except.isOk, Except.toBool]
  | error e => simp [Except.isOk, Except.toBool]

end Method

namespace BoundType

variable {c : BoundType}

/-- A call means the first method that answers. -/
lemma select_eq_ok {xs : List Method} {name arity x} :
    c.select (xs.filter (·.name == name)) name arity = .ok x ↔
      xs.find? (Method.answers name arity) = some x := by
  have he : (xs.filter (·.name == name)).find? (·.params.length == arity) =
      xs.find? (Method.answers name arity) := by
    rw [List.find?_filter]
    congr 1
    funext y
    rw [Bool.eq_iff_iff]
    simp [Method.answers]
  unfold select
  rw [he]
  split
  · next h => simp [h]
  · next h => split <;> simp [h]

/-- A call of an instance method means the first one that answers. -/
lemma instanceMethod_eq_ok {name arity x} :
    c.instanceMethod name arity = .ok x ↔
      c.type.methods.find? (Method.answers name arity) = some x :=
  select_eq_ok

/-- A call means an instance method that answers. -/
lemma mem_of_instanceMethod {name arity x} (h : c.instanceMethod name arity = .ok x) :
    x ∈ c.type.methods ∧ x.name = name ∧ x.params.length = arity := by
  rw [instanceMethod_eq_ok] at h
  exact ⟨List.mem_of_find?_eq_some h, Method.answers_iff.1 (List.find?_some h)⟩

/-- A call of an instance method with as many arguments as it has parameters means some method. -/
lemma exists_instanceMethod {x} (h : x ∈ c.type.methods) :
    ∃ y, c.instanceMethod x.name x.params.length = .ok y := by
  simp only [instanceMethod_eq_ok]
  rw [← Option.isSome_iff_exists, List.find?_isSome]
  exact ⟨x, h, Method.answers_iff.2 ⟨rfl, rfl⟩⟩

/-- A call means a method, or else one before it that answers as well. -/
lemma instanceMethod_cases {before x after} (h : c.type.methods = before ++ x :: after) :
    ¬ x.IsShadowed before ∧ c.instanceMethod x.name x.params.length = .ok x ∨
      ∃ y ∈ before, y.answers x.name x.params.length ∧
        c.instanceMethod x.name x.params.length = .ok y := by
  have hx : x.answers x.name x.params.length := Method.answers_iff.2 ⟨rfl, rfl⟩
  simp only [instanceMethod_eq_ok, h, List.find?_append]
  cases hf : before.find? (Method.answers x.name x.params.length) with
  | none =>
    refine .inl ⟨?_, by simp [hx]⟩
    rintro ⟨y, hy, ha⟩
    exact List.find?_eq_none.1 hf y hy ha
  | some y =>
    exact .inr ⟨y, List.mem_of_find?_eq_some hf, List.find?_some hf, rfl⟩

end BoundType

namespace Template

/-- Setters have one parameter and other instance methods have none. -/
lemma Provides.params_cases {t : Template} {x} (h : t.Provides x) :
    (x.IsSetter ∧ ∃ p, x.params = [p]) ∨ (¬ x.IsSetter ∧ x.params = []) := by
  cases h with
  | setter => exact .inl ⟨⟨_, _, _, rfl⟩, _, rfl⟩
  | getter => exact .inr ⟨nofun, rfl⟩
  | assertion => exact .inr ⟨nofun, rfl⟩
  | collect => exact .inr ⟨nofun, rfl⟩

/-- Methods without parameters differ in their names. -/
lemma eq_of_name_eq {t : Template} {g x y} (hg : t.generate = .ok g) (hx : x ∈ g.methods)
    (hy : y ∈ g.methods) (hn : x.name = y.name) (hpx : x.params = []) (hpy : y.params = []) :
    x = y := by
  apply List.inj_on_of_nodup_map (signature_methods_nodup hg) hx hy
  unfold Method.signature
  rw [hn, hpx, hpy]

/-- A setter has one parameter. -/
lemma exists_param {t : Template} {g x} (hg : t.generate = .ok g) (hx : x ∈ g.methods)
    (hs : x.IsSetter) : ∃ p, x.params = [p] := by
  obtain ⟨-, h⟩ | ⟨hn, -⟩ := (provides_of_mem_methods hg hx).params_cases
  · exact h
  · exact (hn hs).elim

/-- A setter takes only one argument. -/
lemma exists_arg {t : Template} {g x classes args} (hg : t.generate = .ok g) (hx : x ∈ g.methods)
    (hs : x.IsSetter) (ht : x.takes classes args) : ∃ p v, x.params = [p] ∧ args = [v] := by
  obtain ⟨p, hp⟩ := exists_param hg hx hs
  have hl := Method.length_of_takes ht
  rw [hp] at hl
  obtain ⟨v, hv⟩ := List.length_eq_one_iff.1 hl.symm
  exact ⟨p, v, hp, hv⟩

/-- A method with one parameter is a setter. -/
lemma isSetter_of_length {t : Template} {g x} (hg : t.generate = .ok g) (hx : x ∈ g.methods)
    (hl : x.params.length = 1) : x.IsSetter := by
  obtain ⟨hs, -⟩ | ⟨-, hp⟩ := (provides_of_mem_methods hg hx).params_cases
  · exact hs
  · rw [hp] at hl
    cases hl

/-- A method is shadowed exactly if it and one before it are setters of one name. -/
lemma isShadowed_iff {t : Template} {g before x after} (hg : t.generate = .ok g)
    (h : g.methods = before ++ x :: after) :
    x.IsShadowed before ↔ x.IsSetter ∧ ∃ y ∈ before, y.IsSetter ∧ y.name = x.name := by
  have hx : x ∈ g.methods := by simp [h]
  have hm : ∀ y ∈ before, y ∈ g.methods := fun y hy => by simp [h, hy]
  constructor
  · rintro ⟨y, hy, ha⟩
    obtain ⟨hn, hl⟩ := Method.answers_iff.1 ha
    obtain ⟨hs, p, hp⟩ | ⟨-, hp⟩ := (provides_of_mem_methods hg hx).params_cases
    · rw [hp] at hl
      exact ⟨hs, y, hy, isSetter_of_length hg (hm y hy) hl, hn⟩
    · rw [hp] at hl
      obtain rfl := eq_of_name_eq hg (hm y hy) hx hn (List.eq_nil_of_length_eq_zero hl) hp
      have hd := signature_methods_nodup hg
      rw [h, List.map_append, List.map_cons, List.nodup_append] at hd
      exact (hd.2.2 _ (List.mem_map_of_mem hy) _ List.mem_cons_self rfl).elim
  · rintro ⟨hs, y, hy, hys, hn⟩
    obtain ⟨p, hp⟩ := exists_param hg hx hs
    obtain ⟨q, hq⟩ := exists_param hg (hm y hy) hys
    exact ⟨y, hy, Method.answers_iff.2 ⟨hn, by rw [hp, hq]; rfl⟩⟩

end Template

/-- A refusal is never that of the empty bundle. -/
lemma Strategy.encode_ne_immutable {classes name ty s v} :
    encode classes name ty s v ≠ .error .immutableContainer := by
  unfold encode refusal mismatch
  split
  · split
    · nofun
    · split <;> nofun
  · split <;> nofun

/-- Only the empty bundle refuses an entry. -/
lemma Heap.put_eq_error {h : Heap} {b key v e} (hp : h.put b key v = .error e) :
    e = .immutableContainer := by
  unfold put update at hp
  split at hp
  · cases hp
    rfl
  · cases hp

/-- The empty bundle is the first cell. -/
lemma Bundle.isEmptySingleton_eq_false {b : Bundle} : b.isEmptySingleton = false ↔ b.index ≠ 0 :=
  beq_eq_false_iff_ne (α := Nat)

/-- Every other bundle can be changed. -/
lemma Heap.exists_update (h : Heap) {b} (change : Entries → Entries) (hb : b.index ≠ 0) :
    ∃ h', h.update b change = .ok h' := by
  unfold update
  rw [Bundle.isEmptySingleton_eq_false.2 hb]
  exact ⟨_, rfl⟩

/-- Any bundle but the empty one takes an entry. -/
lemma Heap.exists_put (h : Heap) {b} (key : String) (v : Value) (hb : b.index ≠ 0) :
    ∃ h', h.put b key v = .ok h' :=
  h.exists_update _ hb

/-- A new bundle is not the empty one. -/
lemma Heap.index_alloc_ne (h : Heap) (es : Entries) : (h.alloc es).1.index ≠ 0 := fun e =>
  h.cells_ne (List.eq_nil_of_length_eq_zero e)

namespace Instance

variable {i : Instance} {w : World}

/-- A setter stores what its argument becomes. -/
lemma run_setter {x : Method} {name key s param p v} (hb : x.body = .store key s param)
    (hp : x.params = [p]) :
    i.run w x name [v] = (do
      let stored ← s.encode i.bound.classes name p.type v
      let heap ← w.heap.put i.storage key stored
      return (.receiver, { w with heap })) := by
  unfold run
  rw [hb, hp]

/-- A setter succeeds on an argument that it takes, unless the instance is over the empty bundle. -/
lemma exists_run_setter {x : Method} {p v} (hs : x.IsSetter) (hp : x.params = [p])
    (ht : x.takes i.bound.classes [v]) (hi : i.storage.index ≠ 0) :
    ∃ w', i.run w x x.name [v] = .ok (.receiver, w') := by
  obtain ⟨key, s, param, hb⟩ := hs
  obtain ⟨stored, he⟩ := (Method.takes_setter hb hp).1 ht
  obtain ⟨heap, hput⟩ := w.heap.exists_put key stored hi
  refine ⟨{ w with heap }, ?_⟩
  rw [run_setter hb hp, he]
  change (w.heap.put i.storage key stored >>= _) = _
  rw [hput]
  rfl

/-- A setter that refuses an argument does something else than one that takes it. -/
lemma run_ne {x y : Method} {p p' v} (hx : x.IsSetter) (hy : y.IsSetter) (hpx : x.params = [p])
    (hpy : y.params = [p']) (hn : y.name = x.name) (htx : x.takes i.bound.classes [v])
    (hty : ¬ y.takes i.bound.classes [v]) : i.run w y x.name [v] ≠ i.run w x x.name [v] := by
  obtain ⟨key, s, param, hb⟩ := hx
  obtain ⟨key', s', param', hb'⟩ := hy
  rw [Method.takes_setter hb hpx] at htx
  rw [Method.takes_setter hb' hpy, ← Except.exists_error_iff, hn] at hty
  obtain ⟨stored, hs⟩ := htx
  obtain ⟨e, he⟩ := hty
  rw [run_setter hb hpx, run_setter hb' hpy, he]
  intro h
  replace h := Except.bind_eq_error.1 h.symm
  rw [hs] at h
  obtain h | ⟨_, -, h⟩ := h
  · cases h
  · obtain h | ⟨_, -, h⟩ := Except.bind_eq_error.1 h
    · rw [Heap.put_eq_error h] at he
      exact Strategy.encode_ne_immutable he
    · cases h

/-- A call runs the method that it means. -/
lemma invoke_eq_run {name args x} (h : i.bound.instanceMethod name args.length = .ok x) :
    i.invoke w name args = i.run w x name args := by
  unfold invoke
  rw [h]
  rfl

/-- A call that succeeds runs the method that it means. -/
lemma invoke_eq_ok {name args r} :
    i.invoke w name args = .ok r ↔
      ∃ x, i.bound.instanceMethod name args.length = .ok x ∧ i.run w x name args = .ok r :=
  Except.bind_eq_ok

/-- A call with one argument answers with the instance. -/
lemma eq_receiver_of_invoke {t : Template} {name v r} (hg : t.generate = .ok i.bound.type)
    (h : i.invoke w name [v] = .ok r) : r.1 = .receiver := by
  obtain ⟨x, hx, hr⟩ := invoke_eq_ok.1 h
  obtain ⟨hm, -, hl⟩ := BoundType.mem_of_instanceMethod hx
  have hs := Template.isSetter_of_length hg hm hl
  obtain ⟨p, hp⟩ := Template.exists_param hg hm hs
  obtain ⟨key, s, param, hb⟩ := hs
  rw [run_setter hb hp] at hr
  simp only [Except.bind_eq_ok, Except.pure_eq_ok] at hr
  obtain ⟨_, -, _, -, rfl⟩ := hr
  rfl

/-- A call runs the one method that takes the arguments unless that is shadowed. -/
lemma invoke_eq_run_iff {t : Template} {before x after args}
    (hg : t.generate = .ok i.bound.type) (h : i.bound.type.methods = before ++ x :: after)
    (ht : x.takes i.bound.classes args)
    (ho : ∀ y ∈ before ++ after, y.name = x.name → ¬ y.takes i.bound.classes args) :
    i.invoke w x.name args = i.run w x x.name args ↔ ¬ x.IsShadowed before := by
  have hl := Method.length_of_takes ht
  obtain ⟨hs, hi⟩ | ⟨y, hy, ha, hi⟩ := BoundType.instanceMethod_cases h
  · rw [hl] at hi
    exact ⟨fun _ => hs, fun _ => invoke_eq_run hi⟩
  · rw [hl] at hi
    -- the earlier method is run instead, and it is a setter that refuses the argument
    have hs : x.IsShadowed before := ⟨y, hy, ha⟩
    obtain ⟨hn, hly⟩ := Method.answers_iff.1 ha
    have hx : x ∈ i.bound.type.methods := by simp [h]
    have hym : y ∈ i.bound.type.methods := by simp [h, hy]
    obtain ⟨hxs, -⟩ := (Template.isShadowed_iff hg h).1 hs
    obtain ⟨p, v, hp, rfl⟩ := Template.exists_arg hg hx hxs ht
    have hys : y.IsSetter := Template.isSetter_of_length hg hym (by rw [hly, hp]; rfl)
    obtain ⟨p', hp'⟩ := Template.exists_param hg hym hys
    have hty := ho y (List.mem_append_left _ hy) hn
    rw [invoke_eq_run hi]
    exact ⟨fun e => (run_ne hxs hys hp hp' hn ht hty e).elim, fun hns => (hns hs).elim⟩

end Instance

namespace BoundType

/-- An instance over a new bundle. -/
def fresh (c : BoundType) (w : World) : Instance × World :=
  (⟨c, w.heap.new.1⟩, { w with heap := w.heap.new.2 })

/-- Entry points with one parameter are found where their setters are. -/
lemma find?_entries {xs : List Method} {name}
    (h : ∀ x ∈ xs, x.params.length = 1 → x.IsSetter) :
    (xs.filterMap Method.entry?).find? (Method.answers name 1) =
      (xs.find? (Method.answers name 1)).bind Method.entry? := by
  induction xs with
  | nil => rfl
  | cons x rest ih =>
    replace ih := ih fun y hy => h y (List.mem_cons_of_mem _ hy)
    rw [List.filterMap_cons]
    cases he : x.entry? with
    | none =>
      have hx : ¬ x.answers name 1 := by
        intro ha
        obtain ⟨key, s, param, hb⟩ := h x List.mem_cons_self (Method.answers_iff.1 ha).2
        have hne := Method.entry?_eq_some.2 ⟨key, s, param, hb, rfl⟩
        rw [he] at hne
        cases hne
      rw [List.find?_cons_of_neg hx]
      exact ih
    | some e =>
      obtain ⟨key, s, param, -, rfl⟩ := Method.entry?_eq_some.1 he
      by_cases ha : x.answers name 1
      · rw [List.find?_cons_of_pos ha, List.find?_cons_of_pos (by exact ha)]
        exact he.symm
      · rw [List.find?_cons_of_neg ha, List.find?_cons_of_neg (by exact ha)]
        exact ih

/-- The entry point of a setter calls the method that its name means on a new instance. -/
lemma callStatic_eq_invoke {c : BoundType} {t : Template} {w x v} (ht : t.Legal)
    (hg : t.generate = .ok c.type) (hx : x ∈ c.type.methods) (hs : x.IsSetter) :
    c.callStatic w x.name [v] = (do
      let (_, w') ← (c.fresh w).1.invoke (c.fresh w).2 x.name [v]
      return ((c.fresh w).1, w')) := by
  obtain ⟨p, hp⟩ := Template.exists_param hg hx hs
  -- the entry point that is found may be that of another setter, but it calls the same name
  obtain ⟨y, hy⟩ := exists_instanceMethod hx
  rw [hp, List.length_singleton] at hy
  obtain ⟨hym, hn, hly⟩ := mem_of_instanceMethod hy
  obtain ⟨key, s, param, hb⟩ := Template.isSetter_of_length hg hym hly
  obtain ⟨_, _, _, hbx⟩ := hs
  have hne : x.name ≠ "from" := ht.setter_name_ne (Template.provides_of_mem_methods hg hx) hbx
  have hsel : c.select (c.type.companionNamed x.name) x.name 1 =
      .ok { y with body := .entry y.name param } := by
    refine select_eq_ok.2 ?_
    have hfrom : ¬ Method.fromBundle.answers x.name 1 := fun h =>
      hne (Method.answers_iff.1 h).1.symm
    rw [Template.companion_eq hg, List.find?_cons_of_neg hfrom,
      find?_entries fun z hz => Template.isSetter_of_length hg hz, instanceMethod_eq_ok.1 hy]
    exact Method.entry?_eq_some.2 ⟨key, s, param, hb, rfl⟩
  unfold callStatic
  rw [List.length_singleton, hsel, ← hn]
  rfl

/-- The entry point of the one setter that takes the argument applies it to a new instance unless
the setter is shadowed. -/
lemma callStatic_eq_run_iff {c : BoundType} {t : Template} {w before x after args} (ht : t.Legal)
    (hg : t.generate = .ok c.type) (h : c.type.methods = before ++ x :: after) (hs : x.IsSetter)
    (hx : x.takes c.classes args)
    (ho : ∀ y ∈ before ++ after, y.name = x.name → ¬ y.takes c.classes args) :
    (∃ w', (c.fresh w).1.run (c.fresh w).2 x x.name args = .ok (.receiver, w') ∧
      c.callStatic w x.name args = .ok ((c.fresh w).1, w')) ↔ ¬ x.IsShadowed before := by
  have hm : x ∈ c.type.methods := by simp [h]
  obtain ⟨p, v, hp, rfl⟩ := Template.exists_arg hg hm hs hx
  obtain ⟨w', hr⟩ := Instance.exists_run_setter (i := (c.fresh w).1) (w := (c.fresh w).2) hs hp hx
    (w.heap.index_alloc_ne {})
  have hi := Instance.invoke_eq_run_iff (i := (c.fresh w).1) (w := (c.fresh w).2) hg h hx ho
  rw [callStatic_eq_invoke ht hg hm hs, ← hi, hr]
  constructor
  · rintro ⟨w'', hw, hc⟩
    obtain ⟨⟨r, w₁⟩, hv, hc⟩ := Except.bind_eq_ok.1 hc
    obtain rfl : r = .receiver := Instance.eq_receiver_of_invoke hg hv
    cases hw
    cases hc
    exact hv
  · intro he
    exact ⟨w', rfl, by rw [he]; rfl⟩

end BoundType

/-- If one instance method of an output takes the arguments, a call of its name runs it, and its
entry point applies it to a new instance, exactly if no setter before it has its name. -/
theorem Manifest.call_eq_run_iff {m : Manifest} {c : BoundType} {before x after args}
    (hc : c.type ∈ m.generate.outputs) (h : c.type.methods = before ++ x :: after)
    (hx : x.takes c.classes args)
    (ho : ∀ y ∈ before ++ after, y.name = x.name → ¬ y.takes c.classes args) :
    (∀ w b, (⟨c, b⟩ : Instance).invoke w x.name args = (⟨c, b⟩ : Instance).run w x x.name args ↔
      ¬ x.IsShadowed before) ∧
    (x.IsSetter → ∀ w, (∃ w', (c.fresh w).1.run (c.fresh w).2 x x.name args = .ok (.receiver, w') ∧
      c.callStatic w x.name args = .ok ((c.fresh w).1, w')) ↔ ¬ x.IsShadowed before) ∧
    (x.IsShadowed before ↔ x.IsSetter ∧ ∃ y ∈ before, y.IsSetter ∧ y.name = x.name) := by
  obtain ⟨t, ht, hg⟩ := exists_template_of_mem_outputs hc
  refine ⟨?_, ?_, Template.isShadowed_iff hg h⟩
  · intro w b
    exact Instance.invoke_eq_run_iff (i := ⟨c, b⟩) hg h hx ho
  · intro hs w
    exact BoundType.callStatic_eq_run_iff ht hg h hs hx ho

namespace Bags

/-- The type of the two members with the classes of its manifest. -/
def bound : BoundType where
  type := type
  classes := manifest.classTable

/-- The setter of the number. -/
def setNumber : Method :=
  MemberAccessors.setter number (.ofMember template number) (.direct .int)
    (Identifier.accessor "with" "aBag")

/-- The setter of the text. -/
def setText : Method :=
  MemberAccessors.setter text (.ofMember template text) (.direct .string)
    (Identifier.accessor "withA" "bag")

/-- The setter of the number comes first. -/
lemma methods_eq_setNumber : type.methods = [] ++ setNumber :: type.methods.drop 1 := rfl

/-- The setter of the text comes after the number's methods. -/
lemma methods_eq_setText :
    type.methods = type.methods.take 3 ++ setText :: type.methods.drop 4 := rfl

end Bags

/-- A number reaches its setter, by a call and by the entry point. -/
theorem Bags.call_setNumber :
    Bags.bound.type ∈ Bags.manifest.generate.outputs ∧
      Bags.setNumber.takes Bags.bound.classes [.int 7] ∧
      (∀ y ∈ [] ++ Bags.type.methods.drop 1, y.name = Bags.setNumber.name →
        ¬ y.takes Bags.bound.classes [.int 7]) ∧
      (⟨Bags.bound, ⟨1⟩⟩ : Instance).invoke {} Bags.setNumber.name [.int 7] =
        (⟨Bags.bound, ⟨1⟩⟩ : Instance).run {} Bags.setNumber Bags.setNumber.name [.int 7] ∧
      ∃ w', Bags.bound.callStatic {} Bags.setNumber.name [.int 7] =
        .ok ((Bags.bound.fresh {}).1, w') := by
  have hg : Bags.bound.type ∈ Bags.manifest.generate.outputs := Bags.mem_outputs
  have ht : Bags.setNumber.takes Bags.bound.classes [.int 7] := by decide +kernel
  have ho : ∀ y ∈ [] ++ Bags.type.methods.drop 1, y.name = Bags.setNumber.name →
      ¬ y.takes Bags.bound.classes [.int 7] := by decide +kernel
  have hs : ¬ Bags.setNumber.IsShadowed [] := by
    rintro ⟨y, hy, -⟩
    cases hy
  obtain ⟨hr, hc, -⟩ := Manifest.call_eq_run_iff hg Bags.methods_eq_setNumber ht ho
  obtain ⟨w', -, hw⟩ := (hc ⟨_, _, _, rfl⟩ {}).2 hs
  exact ⟨hg, ht, ho, (hr _ _).2 hs, w', hw⟩

/-- A text does not reach its setter, although no other method takes it. -/
theorem Bags.call_setText_ne :
    Bags.type ∈ Bags.manifest.generate.outputs ∧
      Bags.type.methods = Bags.type.methods.take 3 ++ Bags.setText :: Bags.type.methods.drop 4 ∧
      Bags.setText.takes Bags.bound.classes [.string "x"] ∧
      (∀ y ∈ Bags.type.methods.take 3 ++ Bags.type.methods.drop 4, y.name = Bags.setText.name →
        ¬ y.takes Bags.bound.classes [.string "x"]) ∧
      (∀ w b, (⟨Bags.bound, b⟩ : Instance).invoke w Bags.setText.name [.string "x"] ≠
        (⟨Bags.bound, b⟩ : Instance).run w Bags.setText Bags.setText.name [.string "x"]) ∧
      ∀ w, ¬ ∃ w', (Bags.bound.fresh w).1.run (Bags.bound.fresh w).2 Bags.setText Bags.setText.name
          [.string "x"] = .ok (.receiver, w') ∧
        Bags.bound.callStatic w Bags.setText.name [.string "x"] =
          .ok ((Bags.bound.fresh w).1, w') := by
  have hg := Bags.mem_outputs
  have ht : Bags.setText.takes Bags.bound.classes [.string "x"] := by decide +kernel
  have ho : ∀ y ∈ Bags.type.methods.take 3 ++ Bags.type.methods.drop 4,
      y.name = Bags.setText.name → ¬ y.takes Bags.bound.classes [.string "x"] := by decide +kernel
  have hs : Bags.setText.IsShadowed (Bags.type.methods.take 3) :=
    ⟨Bags.setNumber, List.mem_cons_self, by decide +kernel⟩
  refine ⟨hg, Bags.methods_eq_setText, ht, ho, ?_, ?_⟩
  · intro w b he
    exact (Instance.invoke_eq_run_iff (i := ⟨Bags.bound, b⟩) Bags.generate_template
      Bags.methods_eq_setText ht ho).1 he hs
  · intro w he
    obtain ⟨t, hl, ht'⟩ := Manifest.exists_template_of_mem_outputs hg
    exact (BoundType.callStatic_eq_run_iff (c := Bags.bound) hl ht' Bags.methods_eq_setText
      ⟨_, _, _, rfl⟩ ht ho).1 he hs

end TypedBundle
