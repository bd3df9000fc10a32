import Mathlib.Data.List.Induction
import TypedBundle.Proofs.Instance.Step

/-!
# Instances as records

An instance behaves like a record with one field for each member. After any calls, the getters of a
member answer the value that was handed last to one of its setters; before the first such call they
answer what they did at first, whatever has been stored for other members.
-/

namespace TypedBundle

/-- An instance as it is made from a world: over a copy of a bundle, or over a new one. -/
inductive BoundType.Opens (c : BoundType) (w₀ : World) : Instance → World → Prop where
  | wrapped (b : Bundle) : Opens c w₀ (c.wrap w₀ b).1 (c.wrap w₀ b).2
  | entered : Opens c w₀ (c.fresh w₀).1 (c.fresh w₀).2

namespace Heap

/-- A new bundle is in the heap. -/
lemma index_alloc_lt {h : Heap} {es} : (h.alloc es).1.index < (h.alloc es).2.cells.length := by
  simp [alloc]

/-- A copy of a bundle is a new bundle. -/
lemma exists_duplicate_eq_alloc {h : Heap} {b} : ∃ es, h.duplicate b = h.alloc es := by
  unfold duplicate
  split
  · exact ⟨{}, rfl⟩
  · exact ⟨_, rfl⟩

end Heap

/-- The bundle behind an instance is in the heap and not the empty one, and making the instance asks
for no default. -/
lemma BoundType.Opens.frame {c : BoundType} {w₀ i w} (h : c.Opens w₀ i w) :
    i.bound = c ∧ w.defaults = w₀.defaults ∧ i.storage.index < w.heap.cells.length ∧
      i.storage.index ≠ 0 := by
  cases h with
  | wrapped b =>
    obtain ⟨es, he⟩ := Heap.exists_duplicate_eq_alloc (h := w₀.heap) (b := b)
    refine ⟨rfl, rfl, ?_⟩
    unfold BoundType.wrap
    rw [he]
    exact ⟨Heap.index_alloc_lt, w₀.heap.index_alloc_ne es⟩
  | entered => exact ⟨rfl, rfl, Heap.index_alloc_lt, w₀.heap.index_alloc_ne {}⟩

/-- Members of a template that yields a type have keys of their own. -/
lemma Template.eq_of_key_eq {t : Template} {g x y} (hg : t.generate = .ok g)
    (hx : x ∈ t.members) (hy : y ∈ t.members) (e : x.key t = y.key t) : x = y :=
  (Template.generate_eq_ok.1 hg).1.1.eq_of_key_eq hx hy e

namespace Instance

/-- The world after calls in turn. -/
def afterAll (i : Instance) (w : World) (calls : List Call) : World := calls.foldl i.after w

/-- The value that the calls handed last to a setter, if there is one. -/
inductive LastSet (i : Instance) (w : World) (a : MemberAccessors) :
    List Call → Option Value → Prop where
  | start : LastSet i w a [] none
  | set {calls call v} :
    i.Sets (i.afterAll w calls) a call v →
    LastSet i w a (calls ++ [call]) (some v)
  | keep {calls call o} :
    LastSet i w a calls o →
    (∀ v, ¬ i.Sets (i.afterAll w calls) a call v) →
    LastSet i w a (calls ++ [call]) o

variable {i : Instance} {w : World} {t : Template} {m : Member} {a : MemberAccessors}

/-- One more call comes after the others. -/
lemma afterAll_concat {calls call} :
    i.afterAll w (calls ++ [call]) = i.after (i.afterAll w calls) call := by
  simp [afterAll]

/-- Some value was set last, or none was set. -/
lemma exists_lastSet (calls : List Call) : ∃ o, i.LastSet w a calls o := by
  induction calls using List.reverseRecOn with
  | nil => exact ⟨none, .start⟩
  | append_singleton calls call ih =>
    obtain ⟨o, ho⟩ := ih
    by_cases hs : ∃ v, i.Sets (i.afterAll w calls) a call v
    · obtain ⟨v, hv⟩ := hs
      exact ⟨some v, .set hv⟩
    · exact ⟨o, .keep ho fun v hv => hs ⟨v, hv⟩⟩

/-- A call changes no default bodies and makes no bundles. -/
lemma after_frame (hg : t.generate = .ok i.bound.type) (hd : t.DefaultsPure w.defaults)
    (call : Call) :
    (i.after w call).defaults = w.defaults ∧
      (i.after w call).heap.cells.length = w.heap.cells.length := by
  obtain h | ⟨m, -, a, ha, v, hs⟩ := after_eq_or_sets hg hd call
  · rw [h]
    exact ⟨rfl, rfl⟩
  · obtain ⟨stored, heap, -, hput, h⟩ := after_of_sets ha hs
    rw [h]
    exact ⟨rfl, Heap.length_put hput⟩

/-- Calls change no default bodies and make no bundles. -/
lemma afterAll_frame (hg : t.generate = .ok i.bound.type) (hd : t.DefaultsPure w.defaults)
    (calls : List Call) :
    (i.afterAll w calls).defaults = w.defaults ∧
      (i.afterAll w calls).heap.cells.length = w.heap.cells.length := by
  induction calls using List.reverseRecOn with
  | nil => exact ⟨rfl, rfl⟩
  | append_singleton calls call ih =>
    rw [afterAll_concat]
    obtain ⟨hdef, hlen⟩ := after_frame hg (ih.1.symm ▸ hd) call
    exact ⟨hdef.trans ih.1, hlen.trans ih.2⟩

/-- A call of a setter changes the entry of its member and no other. -/
lemma get?_after_of_sets {call v} (ha : m.accessors t = .ok a)
    (hi : i.storage.index < w.heap.cells.length) (h : i.Sets w a call v) :
    ∃ stored, a.strategy.decode m.declaredType (some stored) = .ok (some v) ∧
      ∀ key, (i.after w call).heap.get? i.storage key =
        if key = a.key then some stored else w.heap.get? i.storage key := by
  obtain ⟨stored, heap, hdec, hput, h⟩ := after_of_sets ha h
  refine ⟨stored, hdec, ?_⟩
  rw [h]
  exact Heap.get?_put hput hi

/-- A call of no setter of a member leaves its entry as it is. -/
lemma get?_after_of_not_sets {call} (hg : t.generate = .ok i.bound.type)
    (hd : t.DefaultsPure w.defaults) (hi : i.storage.index < w.heap.cells.length)
    (hm : m ∈ t.members) (ha : m.accessors t = .ok a) (h : ∀ v, ¬ i.Sets w a call v) :
    (i.after w call).heap.get? i.storage a.key = w.heap.get? i.storage a.key := by
  obtain he | ⟨m', hm', a', ha', v, hs⟩ := after_eq_or_sets hg hd call
  · rw [he]
  · obtain ⟨stored, -, hget⟩ := get?_after_of_sets ha' hi hs
    rw [hget, if_neg]
    intro hk
    -- one key means one member, and that member has been ruled out
    rw [(Member.member_of_accessors ha).2.1, (Member.member_of_accessors ha').2.1] at hk
    obtain rfl := Template.eq_of_key_eq hg hm hm' hk
    obtain rfl : a = a' := Except.ok.inj (ha.symm.trans ha')
    exact h v hs

/-- A call that means a setter of a member sets the argument if the setter takes it. -/
lemma sets_of_takes {x v} (ha : m.accessors t = .ok a) (hi : i.storage.index ≠ 0)
    (hx : x ∈ a.setters) (h : i.bound.instanceMethod x.name 1 = .ok x)
    (ht : x.takes i.bound.classes [v]) : i.Sets w a ⟨x.name, [v]⟩ v := by
  have hp : x.IsSetter ∧ ∃ p, x.params = [p] := by
    obtain ⟨p, -, rfl⟩ := (Member.mem_setters ha).1 hx
    exact ⟨⟨_, _, _, rfl⟩, _, rfl⟩
  obtain ⟨hs, p, hp⟩ := hp
  obtain ⟨w', hw⟩ := exists_run_setter (w := w) hs hp ht hi
  exact ⟨rfl, ⟨x, hx, h⟩, _, (invoke_eq_run h).trans hw⟩

/-- After calls the entry of a member reads as the value set last, or else as at first. -/
lemma decode_afterAll {calls o} (hg : t.generate = .ok i.bound.type)
    (hd : t.DefaultsPure w.defaults) (hi : i.storage.index < w.heap.cells.length)
    (hm : m ∈ t.members) (ha : m.accessors t = .ok a) (h : i.LastSet w a calls o) :
    a.strategy.decode m.declaredType ((i.afterAll w calls).heap.get? i.storage a.key) =
      o.elim (a.strategy.decode m.declaredType (w.heap.get? i.storage a.key))
        fun v => .ok (some v) := by
  induction h with
  | start => rfl
  | @set calls call v hs =>
    obtain ⟨-, hlen⟩ := afterAll_frame hg hd calls
    obtain ⟨stored, hdec, hget⟩ := get?_after_of_sets ha (hlen ▸ hi) hs
    rw [afterAll_concat, hget, if_pos rfl]
    exact hdec
  | @keep calls call o _ hn ih =>
    obtain ⟨hdef, hlen⟩ := afterAll_frame hg hd calls
    rw [afterAll_concat, get?_after_of_not_sets hg (hdef ▸ hd) (hlen ▸ hi) hm ha hn]
    exact ih

/-- What a getter answers depends on what its entry reads as and on the default bodies, and is the
value that is read if there is one. -/
lemma exists_answer {x d read} (hg : t.generate = .ok i.bound.type) (hd : t.DefaultsPure d)
    (hm : m ∈ t.members) (ha : m.accessors t = .ok a) (hx : x ∈ a.getters) :
    ∃ answer : Except Fault Returned,
      (∀ v, read = .ok (some v) → answer = .ok (.value (some v))) ∧
      ∀ w : World, w.defaults = d →
        a.strategy.decode m.declaredType (w.heap.get? i.storage a.key) = read →
        i.answer w ⟨x.name, []⟩ = answer := by
  obtain ⟨answer, hsome, hrun⟩ := exists_run_getter (i := i) read hd hm ha hx
  refine ⟨answer, hsome, fun w hw hr => ?_⟩
  have hmem : x ∈ i.bound.type.methods := by
    refine (Template.mem_methods_iff hg).2 (.inl ⟨m, hm, a, ha, ?_⟩)
    exact MemberAccessors.mem_instanceMethods.2 (.inl (.inr hx))
  have hp : x.params = [] := by
    obtain ⟨name, nullable, fallback, rfl, -⟩ := Member.getter_of_mem ha hx
    rfl
  unfold Instance.answer
  rw [invoke_eq_run (instanceMethod_of_params_nil hg hmem hp), hrun w hw hr]
  cases answer <;> rfl

end Instance

/-- After any calls on an instance just made, every getter of a member answers the value that was
handed last to one of its setters, or else what it answered at first. A setter that a call means and
that takes the argument succeeds. It changes the entry of its member and no other, and members have
entries of their own. -/
theorem Template.instance_is_record {t : Template} {c : BoundType} {w₀ i w m}
    (hg : t.generate = .ok c.type) (ho : c.Opens w₀ i w) (hd : t.DefaultsPure w₀.defaults)
    (hm : m ∈ t.members) (calls : List Call) :
    ∃ a, m.accessors t = .ok a ∧
      (∀ x ∈ a.setters, ∀ v, c.instanceMethod x.name 1 = .ok x → x.takes c.classes [v] →
        i.Sets (i.afterAll w calls) a ⟨x.name, [v]⟩ v) ∧
      (∀ call v, i.Sets (i.afterAll w calls) a call v →
        ∃ stored, a.strategy.decode m.declaredType (some stored) = .ok (some v) ∧
          ∀ key, (i.after (i.afterAll w calls) call).heap.get? i.storage key =
            if key = m.key t then some stored else (i.afterAll w calls).heap.get? i.storage key) ∧
      (∀ m' ∈ t.members, m'.key t = m.key t → m' = m) ∧
      (∃ o, i.LastSet w a calls o) ∧
      ∀ o, i.LastSet w a calls o → ∀ x ∈ a.getters,
        i.answer (i.afterAll w calls) ⟨x.name, []⟩ =
          o.elim (i.answer w ⟨x.name, []⟩) fun v => .ok (.value (some v)) := by
  obtain ⟨rfl, hdef, hi, hne⟩ := ho.frame
  rw [← hdef] at hd
  have hs := (generate_eq_ok.1 hg).1.1
  obtain ⟨a, ha⟩ := Member.exists_accessors.2 ⟨hs.storable m hm, hs.reachable m hm⟩
  obtain ⟨hdef', hlen⟩ := Instance.afterAll_frame hg hd calls
  refine ⟨a, ha, ?_, ?_, ?_, Instance.exists_lastSet calls, ?_⟩
  · intro x hx v hx' ht
    exact Instance.sets_of_takes ha hne hx hx' ht
  · intro call v hset
    rw [← (Member.member_of_accessors ha).2.1]
    exact Instance.get?_after_of_sets ha (hlen ▸ hi) hset
  · intro m' hm' hk
    exact eq_of_key_eq hg hm' hm hk
  · intro o hlast x hx
    have hread := Instance.decode_afterAll hg hd hi hm ha hlast
    obtain ⟨answer, hsome, hans⟩ := Instance.exists_answer hg hd hm ha hx
    rw [hans _ hdef' hread]
    cases o with
    | none =>
      -- the entry still reads as at first, so the same getter gives the same answer
      exact (hans w rfl rfl).symm
    | some v => exact hsome v rfl

namespace Settings

/-- The member that holds an enumeration's constant. -/
def mode : Member where
  declaredName := "mode"
  declaredType :=
    { name := "com.example.Mode", superclass := some TypeDescriptor.enumBase,
      supertypes := ⟨["java.io.Serializable", "kotlin.Comparable", "kotlin.Enum"]⟩,
      constants := ["OFF", "ON"] }

/-- The member that holds a number, with a default body. -/
def level : Member where
  declaredName := "level"
  declaredType := Bags.number.declaredType
  hasDefaultBody := true
  scope := .companion

/-- The template of the two members. -/
def template : Template where
  className := "com.example.SettingsInfo"
  outputName := "Settings"
  members := [mode, level]

/-- The accessors of the constant. -/
def modeAccessors : MemberAccessors :=
  .ofParts mode (.ofMember template mode) .enum none

/-- The accessors of the number. -/
def levelAccessors : MemberAccessors :=
  .ofParts level (.ofMember template level) (.direct .int) (some ⟨"SettingsInfo", "level"⟩)

/-- The type of the template. -/
def bound : BoundType where
  type := .ofAccessors template [modeAccessors, levelAccessors]

/-- A world in which the default body is at hand. -/
def world : World where
  defaults := ⟨[{ call := ⟨"SettingsInfo", "level"⟩, next := .int 3 }]⟩

/-- The setter of the constant. -/
def setMode : Method :=
  MemberAccessors.setter mode (.ofMember template mode) .enum (Identifier.accessor "with" "mode")

/-- The constant has its accessors. -/
lemma accessors_mode : mode.accessors template = .ok modeAccessors :=
  Member.accessors_eq_ok.2 ⟨.enum, none, by decide +kernel, rfl, rfl⟩

/-- The number has its accessors. -/
lemma accessors_level : level.accessors template = .ok levelAccessors :=
  Member.accessors_eq_ok.2
    ⟨.direct .int, _, by decide +kernel, Except.eq_ok_of_toOption (by decide +kernel), rfl⟩

/-- The type of the template is generated. -/
lemma generate_template : template.generate = .ok bound.type := by
  rw [Template.generate_eq_ok]
  refine ⟨⟨⟨by decide +kernel, ?_, ?_⟩, by decide +kernel⟩, _,
    .cons accessors_mode (.cons accessors_level .nil), rfl⟩
  · unfold Member.IsStorable
    decide +kernel
  · unfold Member.IsReachable
    decide

/-- The default body is pure. -/
lemma defaultsPure_world : template.DefaultsPure world.defaults where
  registered := by decide +kernel
  pure := by decide +kernel

/-- An instance over a new bundle, and the world after it is made. -/
def opened : Instance × World := bound.fresh world

/-- The call that sets a constant. -/
def setTo (constant : String) : Call :=
  ⟨setMode.name, [.enum mode.declaredType.name constant]⟩

/-- A call of the name means the setter. -/
lemma instanceMethod_setMode : bound.instanceMethod setMode.name 1 = .ok setMode := by
  have hm : bound.type.methods = [] ++ setMode :: bound.type.methods.drop 1 := rfl
  obtain ⟨-, h⟩ | ⟨y, hy, -⟩ := BoundType.instanceMethod_cases hm
  · exact h
  · cases hy

/-- In every world the call sets the constant. -/
lemma sets_setTo (w : World) :
    opened.1.Sets w modeAccessors (setTo "ON") (.enum mode.declaredType.name "ON") := by
  have ht : setMode.takes bound.classes [.enum mode.declaredType.name "ON"] := by decide +kernel
  exact Instance.sets_of_takes accessors_mode (world.heap.index_alloc_ne {})
    List.mem_cons_self instanceMethod_setMode ht

end Settings

/-- Of two constants that are set one after the other, the getter answers the second. -/
theorem Settings.answer_mode :
    Settings.template.generate = .ok Settings.bound.type ∧
      Settings.template.DefaultsPure Settings.world.defaults ∧
      Settings.opened.1.answer
          (Settings.opened.1.afterAll Settings.opened.2
            [Settings.setTo "OFF", Settings.setTo "ON"])
          ⟨Identifier.accessor "get" "mode" ++ "OrThrow", []⟩ =
        .ok (.value (some (.enum "com.example.Mode" "ON"))) := by
  obtain ⟨a, ha, -, -, -, -, h⟩ := Template.instance_is_record Settings.generate_template .entered
    Settings.defaultsPure_world List.mem_cons_self [Settings.setTo "OFF", Settings.setTo "ON"]
  obtain rfl : Settings.modeAccessors = a :=
    Except.ok.inj (Settings.accessors_mode.symm.trans ha)
  have hl : Settings.opened.1.LastSet Settings.opened.2 Settings.modeAccessors
      ([Settings.setTo "OFF"] ++ [Settings.setTo "ON"]) _ := .set (Settings.sets_setTo _)
  exact ⟨Settings.generate_template, Settings.defaultsPure_world,
    h _ hl _ (List.mem_cons_of_mem _ List.mem_cons_self)⟩

end TypedBundle
