import TypedBundle.Proofs.Instance.Renaming

/-!
# Getters of a member

What the getters of one member have to do with each other. A member has the same getters under each
of its leading words, one for each way to answer for an entry that is absent
(`Member.mem_getters_iff`). They all read the entry alike and differ only in what they do when it
reads as null (`Instance.answer_getter`). So they tell the same story (`Template.getters_agree`).
-/

namespace TypedBundle

namespace Fallback

/-- Whether a getter with the fallback may answer null. -/
def isNullable : Fallback → Bool
  | orNull => true
  | _ => false

/-- The fallback of a nullable getter. -/
lemma variant_eq_null {f : Fallback} : f.variant = .null ↔ f = .orNull := by
  cases f <;> simp [variant]

/-- The fallback of a throwing getter. -/
lemma variant_eq_throw {f : Fallback} : f.variant = .throw ↔ f = .orThrow := by
  cases f <;> simp [variant]

/-- The fallbacks of a getter with a default. -/
lemma variant_eq_default {f : Fallback} :
    f.variant = .default ↔ ∃ call, f = .inlineDefault call ∨ f = .orDefault call := by
  cases f <;> simp [variant]

end Fallback

/-- What a getter's name ends in. The getter that answers null has the plain name unless a default
takes that. -/
def Variant.suffix (hasDefault : Bool) : Variant → String
  | .null => if hasDefault then "OrNull" else ""
  | .throw => "OrThrow"
  | _ => ""

/-- The getters of one plain name, one for each fallback. -/
lemma MemberAccessors.gettersNamed_eq {m n s d name} :
    gettersNamed m n s d name = (s.getterClass.fallbacks d).map fun f =>
      getter m n s (name ++ f.variant.suffix d.isSome) f.isNullable f := by
  unfold gettersNamed
  cases s.getterClass <;> cases d <;>
    simp [GetterClass.fallbacks, Fallback.variant, Fallback.isNullable, Variant.suffix]

namespace GetterClass

variable {c : GetterClass} {d : Option DefaultCall} {call : DefaultCall}

/-- Null and the fault for an absent entry are answered in the same classes. -/
lemma orNull_mem_iff : .orNull ∈ c.fallbacks d ↔ .orThrow ∈ c.fallbacks d := by
  cases c <;> cases d <;> simp [fallbacks]

/-- The default that is fallen back to is the one of the member. -/
lemma eq_some_of_mem {f} (h : f ∈ c.fallbacks d)
    (hf : f = .inlineDefault call ∨ f = .orDefault call) : d = some call := by
  obtain rfl | rfl := hf <;> cases c <;> cases d <;> simp_all [fallbacks]

/-- A default that is handed over with the read stands alone. -/
lemma orNull_not_mem (h : .inlineDefault call ∈ c.fallbacks d) : .orNull ∉ c.fallbacks d := by
  cases c <;> cases d <;> simp_all [fallbacks]

end GetterClass

namespace Member

variable {t : Template} {m : Member} {a : MemberAccessors} {x : Method}

/-- The getters of a member are those of its plain names. -/
lemma mem_getters_iff (h : accessors t m = .ok a) :
    x ∈ a.getters ↔ ∃ d, defaultCall? t m = .ok d ∧
      ∃ plain ∈ (Naming.ofMember t m).getterNames, ∃ f ∈ a.strategy.getterClass.fallbacks d,
        MemberAccessors.getter m (Naming.ofMember t m) a.strategy
          (plain ++ f.variant.suffix m.hasDefaultBody) f.isNullable f = x := by
  obtain ⟨s, d, -, hd, rfl⟩ := accessors_eq_ok.1 h
  simp only [MemberAccessors.ofParts, List.mem_flatMap, MemberAccessors.gettersNamed_eq,
    List.mem_map, hd, Except.ok.injEq, exists_eq_left', isSome_of_defaultCall? hd]

/-- A getter of a member has a fallback that the member's class allows, and it reads the entry and
may answer null accordingly. -/
lemma exists_fallback (h : accessors t m = .ok a) (hx : x ∈ a.getters) :
    ∃ d f, defaultCall? t m = .ok d ∧ f ∈ a.strategy.getterClass.fallbacks d ∧
      x.returns = .value m.declaredType f.isNullable ∧
      x.body = .load (m.key t) a.strategy m.declaredType f := by
  obtain ⟨d, hd, _, -, f, hf, rfl⟩ := (mem_getters_iff h).1 hx
  exact ⟨d, f, hd, hf, rfl, rfl⟩

/-- The default that a getter of a member falls back to is that of its default body. -/
lemma eq_of_fallback {c : GetterClass} {d f call} (hd : defaultCall? t m = .ok d)
    (h : f ∈ c.fallbacks d) (hf : f = .inlineDefault call ∨ f = .orDefault call) :
    m.hasDefaultBody ∧ call = ⟨t.simpleName, m.declaredName⟩ := by
  rw [GetterClass.eq_some_of_mem h hf] at hd
  exact defaultCall?_eq_some hd

/-- The ways in which the getters of a member answer are those of its class. -/
lemma exists_variant_iff {way} (h : accessors t m = .ok a) :
    (∃ x ∈ a.getters, x.variant? = some way) ↔
      ∃ d, defaultCall? t m = .ok d ∧
        ∃ f ∈ a.strategy.getterClass.fallbacks d, f.variant = way := by
  constructor
  · rintro ⟨x, hx, hv⟩
    obtain ⟨d, f, hd, hf, -, hb⟩ := exists_fallback h hx
    rw [Method.variant?, hb] at hv
    exact ⟨d, hd, f, hf, Option.some.inj hv⟩
  · rintro ⟨d, hd, f, hf, rfl⟩
    obtain ⟨x, hx, hb⟩ := (exists_getter_iff h).2 ⟨d, hd, List.mem_map_of_mem hf⟩
    exact ⟨x, hx, by rw [Method.variant?, hb]⟩

/-- A member has a getter that answers null if it has one that throws. -/
lemma exists_null_iff_exists_throw (h : accessors t m = .ok a) :
    (∃ x ∈ a.getters, x.variant? = some .null) ↔ ∃ x ∈ a.getters, x.variant? = some .throw := by
  simp only [exists_variant_iff h, Fallback.variant_eq_null, Fallback.variant_eq_throw,
    exists_eq_right, GetterClass.orNull_mem_iff]

end Member

namespace Strategy

variable {ty : TypeDescriptor} {s : Strategy} {stored : Option Value}

/-- An entry cannot be read if it is a text under an enumeration that has no constant of the
name. -/
lemma decode_eq_error_iff {e} :
    decode ty s stored = .error e ↔ s = .enum ∧ ∃ constant, stored = some (.string constant) ∧
      constant ∉ ty.constants ∧ .invalidEnumConstant ty.name constant = e := by
  unfold decode
  split
  · simp
  · split
    · split <;> simp_all
    · next hne =>
      refine ⟨nofun, ?_⟩
      rintro ⟨rfl, constant, hv, -⟩
      exact (hne constant rfl (Option.some.inj hv)).elim

end Strategy

/-- The value of a default body, if it is at hand. -/
def Defaults.get (d : Defaults) (call : DefaultCall) : Except Fault Value :=
  match d.value? call with
  | some v => .ok v
  | none => .error (.defaultUnavailable call.owner call.function)

/-- What a getter answers, given what its entry reads as. -/
def Fallback.answer (d : Defaults) (key : String) (s : Strategy) (read : Option Value) :
    Fallback → Except Fault (Option Value)
  | .inlineZero =>
    match s with
    | .direct kind => .ok (read.or (Value.zero? kind))
    | _ => .ok read
  | .inlineDefault call => (d.get call).map fun v => some (read.getD v)
  | .orDefault call => read.elim ((d.get call).map some) fun v => .ok (some v)
  | .orNull => .ok read
  | .orThrow => read.elim (.error (.propertyNotFound key)) fun v => .ok (some v)

namespace BoundType

variable {w w' : World} {key : String} {s : Strategy} {read : Option Value} {f : Fallback}

/-- A default body is asked for its value, and it moves on. -/
lemma default_eq {call} :
    default w call =
      (w.defaults.get call).map (·, { w with defaults := w.defaults.advance call }) := by
  unfold default Defaults.get
  cases w.defaults.value? call <;> rfl

/-- Apart from the world, falling back gives the answer. -/
lemma map_fst_fallBack :
    (fallBack w key s read f).map Prod.fst = f.answer w.defaults key s read := by
  cases f with
  | inlineZero => cases s <;> rfl
  | inlineDefault call =>
    rw [fallBack, default_eq, Fallback.answer]
    cases w.defaults.get call <;> rfl
  | orDefault call =>
    cases read with
    | some v => rfl
    | none =>
      rw [fallBack, default_eq, Fallback.answer]
      cases w.defaults.get call <;> rfl
  | orNull => rfl
  | orThrow => cases read <;> rfl

/-- Falling back leaves the world as it is if the default is pure. -/
lemma world_fallBack {r} (h : fallBack w key s read f = .ok (r, w'))
    (hp : ∀ call, f = .inlineDefault call ∨ f = .orDefault call →
      ∀ b ∈ w.defaults.bodies, b.call = call → b.isPure) : w' = w := by
  have hd : ∀ {call v w'}, (f = .inlineDefault call ∨ f = .orDefault call) →
      default w call = .ok (v, w') → w' = w := by
    intro call v w' hf hd
    rw [default_eq, Defaults.advance_eq_self (hp call hf)] at hd
    obtain ⟨_, -, hd⟩ := Except.map_eq_ok.1 hd
    exact (Prod.mk.inj hd).2.symm
  cases f with
  | inlineZero => cases s <;> cases h <;> rfl
  | inlineDefault call =>
    obtain ⟨⟨v, w₁⟩, hv, h⟩ := Except.bind_eq_ok.1 h
    cases h
    exact hd (.inl rfl) hv
  | orDefault call =>
    cases read with
    | some v =>
      cases h
      rfl
    | none =>
      obtain ⟨⟨v, w₁⟩, hv, h⟩ := Except.bind_eq_ok.1 h
      cases h
      exact hd (.inr rfl) hv
  | orNull =>
    cases h
    rfl
  | orThrow =>
    cases read with
    | some v =>
      cases h
      rfl
    | none => cases h

end BoundType

namespace Instance

variable {c : BoundType} {t : Template} {m : Member} {a : MemberAccessors} {x : Method} {w : World}
  {b : Bundle}

/-- What the entry of the member reads as. -/
def read (i : Instance) (w : World) (t : Template) (m : Member) (s : Strategy) :
    Except Fault (Option Value) :=
  s.decode m.declaredType (w.heap.get? i.storage (m.key t))

/-- A getter of a member reads its entry and falls back. -/
lemma invoke_getter_eq {s f} (hg : t.generate = .ok c.type) (hm : m ∈ t.members)
    (ha : m.accessors t = .ok a) (hx : x ∈ a.getters)
    (hb : x.body = .load (m.key t) s m.declaredType f) :
    (mk c b).invoke w x.name [] = (do
      let read ← (mk c b).read w t m s
      let r ← BoundType.fallBack w (m.key t) s read f
      return (.value r.1, r.2)) := by
  rw [invoke_getter hg hm ha hx]
  unfold run
  rw [hb]
  rfl

/-- What a getter of a member answers follows from what its entry reads as. -/
lemma answer_getter {s f} (hg : t.generate = .ok c.type) (hm : m ∈ t.members)
    (ha : m.accessors t = .ok a) (hx : x ∈ a.getters)
    (hb : x.body = .load (m.key t) s m.declaredType f) :
    (mk c b).answer w ⟨x.name, []⟩ = ((mk c b).read w t m s >>=
      f.answer w.defaults (m.key t) s).map .value := by
  unfold answer
  rw [invoke_getter_eq hg hm ha hx hb]
  cases (mk c b).read w t m s with
  | error e => rfl
  | ok read =>
    change Except.map _ (BoundType.fallBack _ _ _ _ _ >>= _) = (f.answer _ _ _ read).map _
    rw [← BoundType.map_fst_fallBack]
    cases BoundType.fallBack w (m.key t) s read f <;> rfl

/-- A getter of a member leaves the world as it is if the default of the member is pure. -/
lemma after_getter (hg : t.generate = .ok c.type) (hm : m ∈ t.members)
    (ha : m.accessors t = .ok a) (hx : x ∈ a.getters)
    (hp : ∀ d ∈ w.defaults.bodies, d.call = ⟨t.simpleName, m.declaredName⟩ → d.isPure) :
    (mk c b).after w ⟨x.name, []⟩ = w := by
  obtain ⟨d, f, hd, hf, -, hb⟩ := Member.exists_fallback ha hx
  unfold after
  split
  · next r w' hr =>
    rw [invoke_getter_eq hg hm ha hx hb] at hr
    obtain ⟨read, -, hr⟩ := Except.bind_eq_ok.1 hr
    obtain ⟨⟨v, w₁⟩, hfall, hr⟩ := Except.bind_eq_ok.1 hr
    cases hr
    refine BoundType.world_fallBack hfall fun call hc => ?_
    obtain ⟨-, rfl⟩ := Member.eq_of_fallback hd hf hc
    exact hp
  · rfl

/-- The answer of a getter that throws, beside that of one that answers null. -/
structure ThrowsFor (key : String) (orNull orThrow : Except Fault Returned) : Prop where
  value : ∀ v, orThrow = .ok (.value (some v)) ↔ orNull = .ok (.value (some v))
  missing : orThrow = .error (.propertyNotFound key) ↔ orNull = .ok (.value none)
  invalid : ∀ type constant, orThrow = .error (.invalidEnumConstant type constant) ↔
    orNull = .error (.invalidEnumConstant type constant)

/-- The answer of a getter that has a default, beside that of one that answers null. -/
structure DefaultsFor (default : Except Fault Value) (orNull orDefault : Except Fault Returned) :
    Prop where
  value : ∀ v, orNull = .ok (.value (some v)) → orDefault = .ok (.value (some v))
  missing : orNull = .ok (.value none) → orDefault = default.map (.value ∘ some)
  fault : ∀ e, orNull = .error e → orDefault = .error e

namespace ThrowsFor

variable {key : String} {v : Value}

/-- A constant that the enumeration lacks is a fault either way. -/
lemma invalid_invalid {type constant} :
    ThrowsFor key (.error (.invalidEnumConstant type constant))
      (.error (.invalidEnumConstant type constant)) := by
  constructor <;> simp

/-- Where the nullable getter has null, the throwing one fails with the key. -/
lemma null_missing : ThrowsFor key (.ok (.value none)) (.error (.propertyNotFound key)) := by
  constructor <;> simp

/-- A value is a value either way. -/
lemma value_value : ThrowsFor key (.ok (.value (some v))) (.ok (.value (some v))) := by
  constructor <;> simp

end ThrowsFor

namespace DefaultsFor

variable {default : Except Fault Value} {v : Value} {e : Fault}

/-- A fault is a fault with a default, too. -/
lemma fault_fault : DefaultsFor default (.error e) (.error e) := by
  constructor <;> simp

/-- Where the nullable getter has null, the other has its default. -/
lemma null_default : DefaultsFor default (.ok (.value none)) ((default.map some).map .value) := by
  cases default <;> constructor <;> simp [Except.map]

/-- A value is not replaced by a default. -/
lemma value_value : DefaultsFor default (.ok (.value (some v))) (.ok (.value (some v))) := by
  constructor <;> simp

end DefaultsFor

variable {y : Method}

/-- The getters of a member that answer null and those that throw agree. -/
lemma throwsFor_of_variant (hg : t.generate = .ok c.type) (hm : m ∈ t.members)
    (ha : m.accessors t = .ok a) (hx : x ∈ a.getters) (hy : y ∈ a.getters)
    (hvx : x.variant? = some .null) (hvy : y.variant? = some .throw) :
    ThrowsFor (m.key t) ((mk c b).answer w ⟨x.name, []⟩) ((mk c b).answer w ⟨y.name, []⟩) := by
  obtain ⟨-, f, -, -, -, hbx⟩ := Member.exists_fallback ha hx
  obtain ⟨-, f', -, -, -, hby⟩ := Member.exists_fallback ha hy
  rw [Method.variant?, hbx] at hvx
  rw [Method.variant?, hby] at hvy
  obtain rfl := Fallback.variant_eq_null.1 (Option.some.inj hvx)
  obtain rfl := Fallback.variant_eq_throw.1 (Option.some.inj hvy)
  rw [answer_getter hg hm ha hx hbx, answer_getter hg hm ha hy hby]
  cases hr : (mk c b).read w t m a.strategy with
  | error e =>
    obtain ⟨-, constant, -, -, rfl⟩ := Strategy.decode_eq_error_iff.1 hr
    exact .invalid_invalid
  | ok r =>
    cases r with
    | none => exact .null_missing
    | some v => exact .value_value

/-- The getters of a member that answer null and those that have a default agree. -/
lemma defaultsFor_of_variant (hg : t.generate = .ok c.type) (hm : m ∈ t.members)
    (ha : m.accessors t = .ok a) (hx : x ∈ a.getters) (hy : y ∈ a.getters)
    (hvx : x.variant? = some .null) (hvy : y.variant? = some .default) :
    DefaultsFor (w.defaults.get ⟨t.simpleName, m.declaredName⟩)
      ((mk c b).answer w ⟨x.name, []⟩) ((mk c b).answer w ⟨y.name, []⟩) := by
  obtain ⟨d, f, hd, hf, -, hbx⟩ := Member.exists_fallback ha hx
  obtain ⟨d', f', hd', hf', -, hby⟩ := Member.exists_fallback ha hy
  obtain rfl := Except.ok.inj (hd.symm.trans hd')
  rw [Method.variant?, hbx] at hvx
  obtain rfl := Fallback.variant_eq_null.1 (Option.some.inj hvx)
  rw [Method.variant?, hby] at hvy
  obtain ⟨call, hcall⟩ := Fallback.variant_eq_default.1 (Option.some.inj hvy)
  obtain ⟨-, rfl⟩ := Member.eq_of_fallback hd hf' hcall
  -- a default that is handed over leaves no room for a getter that answers null
  obtain rfl := hcall.resolve_left fun h => GetterClass.orNull_not_mem (h ▸ hf') hf
  rw [answer_getter hg hm ha hx hbx, answer_getter hg hm ha hy hby]
  cases (mk c b).read w t m a.strategy with
  | error e => exact .fault_fault
  | ok r =>
    cases r with
    | none => exact .null_default
    | some v => exact .value_value

end Instance

/-- All getters of a member tell the same story. Each of its plain names has the same getters, told
apart by what follows the name, and a getter that answers null comes together with one that throws.
If the default body is pure, no getter changes anything. Getters of the same way then answer the
same under all names. Where one answers null, the one that throws names the key of the member, and
the one that has a default answers that. Otherwise they answer the same value or fail alike. -/
theorem Template.getters_agree {t : Template} {c : BoundType} {m : Member}
    (hg : t.generate = .ok c.type) (hm : m ∈ t.members) :
    ∃ a, m.accessors t = .ok a ∧
      (∀ x ∈ a.getters, ∃ way, x.variant? = some way ∧
        (∃ plain ∈ (Naming.ofMember t m).getterNames,
          x.name = plain ++ way.suffix m.hasDefaultBody) ∧
        ∀ plain ∈ (Naming.ofMember t m).getterNames, ∃ y ∈ a.getters,
          y.variant? = some way ∧ y.name = plain ++ way.suffix m.hasDefaultBody) ∧
      ((∃ x ∈ a.getters, x.variant? = some .null) ↔ ∃ x ∈ a.getters, x.variant? = some .throw) ∧
      ∀ (w : World) (b : Bundle),
        (∀ d ∈ w.defaults.bodies, d.call = ⟨t.simpleName, m.declaredName⟩ → d.isPure) →
        (∀ x ∈ a.getters, (Instance.mk c b).after w ⟨x.name, []⟩ = w) ∧
        (∀ x ∈ a.getters, ∀ y ∈ a.getters, x.variant? = y.variant? →
          (Instance.mk c b).answer w ⟨x.name, []⟩ = (Instance.mk c b).answer w ⟨y.name, []⟩) ∧
        ∀ x ∈ a.getters, x.variant? = some .null →
          (∀ y ∈ a.getters, y.variant? = some .throw →
            Instance.ThrowsFor (m.key t) ((Instance.mk c b).answer w ⟨x.name, []⟩)
              ((Instance.mk c b).answer w ⟨y.name, []⟩)) ∧
          ∀ y ∈ a.getters, y.variant? = some .default →
            Instance.DefaultsFor (w.defaults.get ⟨t.simpleName, m.declaredName⟩)
              ((Instance.mk c b).answer w ⟨x.name, []⟩)
              ((Instance.mk c b).answer w ⟨y.name, []⟩) := by
  have hs := (generate_eq_ok.1 hg).1.1
  obtain ⟨a, ha⟩ := Member.exists_accessors.2 ⟨hs.storable m hm, hs.reachable m hm⟩
  refine ⟨a, ha, ?_, ?_, fun w b hp => ⟨?_, ?_, ?_⟩⟩
  · intro x hx
    obtain ⟨d, hd, plain, hplain, f, hf, rfl⟩ := (Member.mem_getters_iff ha).1 hx
    refine ⟨f.variant, rfl, ⟨plain, hplain, rfl⟩, fun plain' hplain' => ?_⟩
    exact ⟨_, (Member.mem_getters_iff ha).2 ⟨d, hd, plain', hplain', f, hf, rfl⟩, rfl, rfl⟩
  · exact Member.exists_null_iff_exists_throw ha
  · intro x hx
    exact Instance.after_getter hg hm ha hx hp
  · intro x hx y hy hv
    have e := Member.body_eq_of_variant_eq ha hx ⟨y, hy, rfl⟩ hv
    obtain ⟨_, f, -, -, -, hb⟩ := Member.exists_fallback ha hx
    rw [Instance.answer_getter hg hm ha hx hb, Instance.answer_getter hg hm ha hy (e ▸ hb)]
  · intro x hx hvx
    exact ⟨fun y hy hvy => Instance.throwsFor_of_variant hg hm ha hx hy hvx hvy,
      fun y hy hvy => Instance.defaultsFor_of_variant hg hm ha hx hy hvx hvy⟩

namespace Settings

/-- The getter of the constant that answers null. -/
def getMode : Method :=
  MemberAccessors.getter mode (.ofMember template mode) .enum (Identifier.accessor "get" "mode")
    true .orNull

/-- The getter of the constant that throws. -/
def getModeOrThrow : Method :=
  MemberAccessors.getter mode (.ofMember template mode) .enum
    (Identifier.accessor "get" "mode" ++ "OrThrow") false .orThrow

/-- There is a nullable getter of the mode. -/
lemma getMode_mem : getMode ∈ modeAccessors.getters := List.mem_cons_self

/-- There is a throwing getter of the mode. -/
lemma getModeOrThrow_mem : getModeOrThrow ∈ modeAccessors.getters :=
  List.mem_cons_of_mem _ List.mem_cons_self

end Settings

/-- On a new bundle there is no constant, so one getter answers null and the other one throws. -/
theorem Settings.getModeOrThrow_absent :
    Settings.template.generate = .ok Settings.bound.type ∧
      Settings.mode ∈ Settings.template.members ∧
      Settings.opened.1.answer Settings.opened.2 ⟨Settings.getMode.name, []⟩ =
        .ok (.value none) ∧
      Settings.opened.1.answer Settings.opened.2 ⟨Settings.getModeOrThrow.name, []⟩ =
        .error (.propertyNotFound (Settings.mode.key Settings.template)) := by
  have hm : Settings.mode ∈ Settings.template.members := List.mem_cons_self
  have hnull : Settings.opened.1.answer Settings.opened.2 ⟨Settings.getMode.name, []⟩ =
      .ok (.value none) :=
    Instance.answer_getter Settings.generate_template hm Settings.accessors_mode
      Settings.getMode_mem rfl
  obtain ⟨a, ha, -, -, h⟩ := Template.getters_agree Settings.generate_template hm
  obtain rfl := Except.ok.inj (Settings.accessors_mode.symm.trans ha)
  obtain ⟨-, -, h⟩ := h Settings.opened.2 Settings.opened.1.storage (by decide +kernel)
  obtain ⟨hthrow, -⟩ := h _ Settings.getMode_mem rfl
  exact ⟨Settings.generate_template, hm, hnull,
    (hthrow _ Settings.getModeOrThrow_mem rfl).missing.2 hnull⟩

end TypedBundle
