import TypedBundle.Proofs.Instance.Getters

/-!
# Nullability of getters

Whether a getter may answer null is declared when it is made, from the class of its member and from
whether there is a default. Whether it does is decided by what is stored, the fallback and the zero
value of the kind. The two fit, whatever has been put under the key and whatever default bodies are
at hand (`Template.nullability_sound`).
-/

namespace TypedBundle

namespace Strategy

variable {ty : TypeDescriptor} {s : Strategy} {stored : Option Value}

/-- Nothing is stored, or something of another shape. -/
inductive ReadsNull (s : Strategy) : Option Value → Prop where
  | absent : ReadsNull s none
  | misshapen {v} : ¬ s.hasShape v → ReadsNull s (some v)

/-- An entry reads as null if it is absent or has another shape. -/
lemma decode_eq_none_iff : decode ty s stored = .ok none ↔ s.ReadsNull stored := by
  constructor
  · intro h
    unfold decode at h
    split at h
    · exact .absent
    · split at h
      · split at h <;> cases h
      · split at h
        · cases h
        · next hs => exact .misshapen hs
  · intro h
    cases h with
    | absent => rfl
    | @misshapen v hs =>
      unfold decode
      split
      · rfl
      · next e =>
        cases e
        split
        · exact (hs rfl).elim
        · rw [if_neg hs]

/-- If a zero value is handed over with the read, the kind has one. -/
lemma exists_zero {d} (h : .inlineZero ∈ s.getterClass.fallbacks d) :
    ∃ kind z, s = .direct kind ∧ Value.zero? kind = some z := by
  have hc : s.getterClass = .zeroDefault := by
    cases hs : s.getterClass <;> cases d <;> simp_all [GetterClass.fallbacks]
  cases s with
  | direct kind => cases kind <;> first | exact ⟨_, _, rfl, rfl⟩ | cases hc
  | _ => cases hc

end Strategy

/-- A default is not to be had if no body is at hand for it. -/
lemma Defaults.get_eq_error {d : Defaults} {call e} :
    d.get call = .error e ↔
      d.value? call = none ∧ .defaultUnavailable call.owner call.function = e := by
  unfold get
  split <;> simp [*]

namespace Fallback

variable {f : Fallback} {d : Defaults} {key : String} {s : Strategy} {read : Option Value}

/-- Exactly the getters that fall back on null are declared nullable. -/
lemma isNullable_iff : f.isNullable ↔ f = .orNull := by
  cases f <;> simp [isNullable]

/-- Only a getter that may answer null does. -/
lemma answer_ne_none {call} (hf : f ∈ s.getterClass.fallbacks call) (hn : f.isNullable = false) :
    f.answer d key s read ≠ .ok none := by
  cases f with
  | inlineZero =>
    obtain ⟨kind, z, rfl, hz⟩ := Strategy.exists_zero hf
    change Except.ok (read.or (Value.zero? kind)) ≠ _
    rw [hz]
    cases read <;> nofun
  | inlineDefault c =>
    intro h
    obtain ⟨_, -, h⟩ := Except.map_eq_ok.1 h
    cases h
  | orDefault c =>
    cases read with
    | some v => nofun
    | none =>
      intro h
      obtain ⟨_, -, h⟩ := Except.map_eq_ok.1 h
      cases h
  | orNull => cases hn
  | orThrow => cases read <;> nofun

/-- Falling back fails for a getter that throws, on null, or for one whose default is not at
hand. -/
lemma answer_eq_error {e} (h : f.answer d key s read = .error e) :
    (f = .orThrow ∧ read = none ∧ e = .propertyNotFound key) ∨
      ∃ call, (f = .inlineDefault call ∨ f = .orDefault call) ∧ d.value? call = none ∧
        e = .defaultUnavailable call.owner call.function := by
  cases f with
  | inlineZero => cases s <;> cases h
  | inlineDefault call =>
    obtain ⟨hv, rfl⟩ := Defaults.get_eq_error.1 (Except.map_eq_error.1 h)
    exact .inr ⟨call, .inl rfl, hv, rfl⟩
  | orDefault call =>
    cases read with
    | some v => cases h
    | none =>
      obtain ⟨hv, rfl⟩ := Defaults.get_eq_error.1 (Except.map_eq_error.1 h)
      exact .inr ⟨call, .inr rfl, hv, rfl⟩
  | orNull => cases h
  | orThrow =>
    cases read with
    | some v => cases h
    | none =>
      cases h
      exact .inl ⟨rfl, rfl, rfl⟩

end Fallback

/-- The fault of a getter of the member, by its way. A getter that throws finds nothing that it can
read, a default is not at hand, or an enumeration has no constant of the stored name. -/
inductive Template.GetterFault (t : Template) (m : Member) (s : Strategy) (d : Defaults)
    (stored : Option Value) : Variant → Fault → Prop where
  | notFound :
    s.ReadsNull stored →
    GetterFault t m s d stored .throw (.propertyNotFound (m.key t))
  | unavailable :
    m.hasDefaultBody →
    d.value? ⟨t.simpleName, m.declaredName⟩ = none →
    GetterFault t m s d stored .default (.defaultUnavailable t.simpleName m.declaredName)
  | invalid {way constant} :
    s = .enum →
    stored = some (.string constant) →
    constant ∉ m.declaredType.constants →
    GetterFault t m s d stored way (.invalidEnumConstant m.declaredType.name constant)

/-- A method that answers a value is a getter of a member. -/
lemma Template.exists_member_of_returns {t : Template} {g x ty nullable}
    (hg : t.generate = .ok g) (hx : x ∈ g.methods) (hr : x.returns = .value ty nullable) :
    ∃ m ∈ t.members, ∃ a, m.accessors t = .ok a ∧ x ∈ a.getters := by
  obtain ⟨m, hm, a, ha, hx⟩ | rfl := (mem_methods_iff hg).1 hx
  · refine ⟨m, hm, a, ha, ?_⟩
    obtain (hset | hget) | rfl := MemberAccessors.mem_instanceMethods.1 hx
    · obtain ⟨p, -, rfl⟩ := (Member.mem_setters ha).1 hset
      cases hr
    · exact hget
    · rw [(Member.asserts_of_accessors ha).1] at hr
      cases hr
  · cases hr

namespace Instance

variable {c : BoundType} {t : Template} {m : Member} {a : MemberAccessors} {x : Method} {w : World}
  {b : Bundle} {e : Fault}

/-- A getter of a member answers a value or null, or it has one of the faults of its way. -/
lemma answer_getter_cases (hg : t.generate = .ok c.type) (hm : m ∈ t.members)
    (ha : m.accessors t = .ok a) (hx : x ∈ a.getters) :
    (∃ o, (mk c b).answer w ⟨x.name, []⟩ = .ok (.value o)) ∨
      ∃ e way, (mk c b).answer w ⟨x.name, []⟩ = .error e ∧ x.variant? = some way ∧
        t.GetterFault m a.strategy w.defaults (w.heap.get? b (m.key t)) way e := by
  obtain ⟨d, f, hd, hf, -, hb⟩ := Member.exists_fallback ha hx
  have hv : x.variant? = some f.variant := by rw [Method.variant?, hb]
  rw [answer_getter hg hm ha hx hb, hv]
  cases hr : (mk c b).read w t m a.strategy with
  | error e =>
    obtain ⟨hs, constant, hstored, hc, rfl⟩ := Strategy.decode_eq_error_iff.1 hr
    exact .inr ⟨_, _, rfl, rfl, .invalid hs hstored hc⟩
  | ok read =>
    have hbind : (.ok read >>= fun r => f.answer w.defaults (m.key t) a.strategy r) =
        f.answer w.defaults (m.key t) a.strategy read := rfl
    rw [hbind]
    cases he : f.answer w.defaults (m.key t) a.strategy read with
    | ok o => exact .inl ⟨o, rfl⟩
    | error e =>
      refine .inr ⟨e, _, rfl, rfl, ?_⟩
      obtain ⟨rfl, rfl, rfl⟩ | ⟨call, hcall, hval, rfl⟩ := Fallback.answer_eq_error he
      · exact .notFound (Strategy.decode_eq_none_iff.1 hr)
      · rw [Fallback.variant_eq_default.2 ⟨call, hcall⟩]
        obtain ⟨hbody, rfl⟩ := Member.eq_of_fallback hd hf hcall
        exact .unavailable hbody hval

/-- A getter of a member answers null if what it reads makes its fallback answer null. -/
lemma answer_getter_eq_null {s f} (hg : t.generate = .ok c.type) (hm : m ∈ t.members)
    (ha : m.accessors t = .ok a) (hx : x ∈ a.getters)
    (hb : x.body = .load (m.key t) s m.declaredType f) :
    (mk c b).answer w ⟨x.name, []⟩ = .ok (.value none) ↔
      ∃ r, (mk c b).read w t m s = .ok r ∧ f.answer w.defaults (m.key t) s r = .ok none := by
  rw [answer_getter hg hm ha hx hb, Except.map_eq_ok, ← Except.bind_eq_ok]
  constructor
  · rintro ⟨o, ho, e⟩
    cases e
    exact ho
  · exact fun h => ⟨none, h, rfl⟩

end Instance

/-- Getters tell the truth about null. Whatever is stored and whatever default bodies are at hand, a
method that answers a value is a getter of a member. It answers or has one of the faults of its way.
It never answers null unless it is declared to, and then it does exactly if the entry is absent or
has another shape than the member's. -/
theorem Template.nullability_sound {t : Template} {c : BoundType} {x ty nullable}
    (hg : t.generate = .ok c.type) (hx : x ∈ c.type.methods)
    (hr : x.returns = .value ty nullable) :
    ∃ m ∈ t.members, ∃ a, m.accessors t = .ok a ∧ x ∈ a.getters ∧ ∀ (w : World) (b : Bundle),
      ((∃ o, (Instance.mk c b).answer w ⟨x.name, []⟩ = .ok (.value o)) ∨
        ∃ e way, (Instance.mk c b).answer w ⟨x.name, []⟩ = .error e ∧ x.variant? = some way ∧
          t.GetterFault m a.strategy w.defaults (w.heap.get? b (m.key t)) way e) ∧
      (nullable = false → (Instance.mk c b).answer w ⟨x.name, []⟩ ≠ .ok (.value none)) ∧
      (nullable = true → ((Instance.mk c b).answer w ⟨x.name, []⟩ = .ok (.value none) ↔
        a.strategy.ReadsNull (w.heap.get? b (m.key t)))) := by
  obtain ⟨m, hm, a, ha, hx⟩ := exists_member_of_returns hg hx hr
  refine ⟨m, hm, a, ha, hx, fun w b => ⟨Instance.answer_getter_cases hg hm ha hx, ?_⟩⟩
  obtain ⟨d, f, -, hf, hret, hb⟩ := Member.exists_fallback ha hx
  obtain rfl : nullable = f.isNullable := by
    rw [hr] at hret
    exact (Returns.value.inj hret).2
  rw [Ne, Instance.answer_getter_eq_null hg hm ha hx hb]
  refine ⟨fun hn => ?_, fun hn => ?_⟩
  · rintro ⟨r, -, h⟩
    exact Fallback.answer_ne_none hf hn h
  · obtain rfl := Fallback.isNullable_iff.1 hn
    rw [← Strategy.decode_eq_none_iff]
    constructor
    · rintro ⟨r, hread, h⟩
      cases h
      exact hread
    · exact fun h => ⟨none, h, rfl⟩

/-- The getter of the constant that is declared to answer null does so when there is a number in its
place. -/
theorem Settings.getMode_misshapen :
    Settings.template.generate = .ok Settings.bound.type ∧
      Settings.getMode ∈ Settings.bound.type.methods ∧
      Settings.getMode.returns = .value Settings.mode.declaredType true ∧
      ∀ (w : World) (b : Bundle),
        w.heap.get? b (Settings.mode.key Settings.template) = some (.int 1) →
          (Instance.mk Settings.bound b).answer w ⟨Settings.getMode.name, []⟩ =
            .ok (.value none) := by
  have hx : Settings.getMode ∈ Settings.bound.type.methods :=
    List.mem_cons_of_mem _ List.mem_cons_self
  refine ⟨Settings.generate_template, hx, rfl, fun w b hb => ?_⟩
  obtain ⟨m, hm, a, ha, hget, h⟩ := Template.nullability_sound Settings.generate_template hx rfl
  -- the getter reads the key of one member only
  obtain ⟨_, _, -, -, -, hbody⟩ := Member.exists_fallback ha hget
  have hk : Settings.mode.key Settings.template = m.key Settings.template := (Body.load.inj hbody).1
  obtain rfl := Template.eq_of_key_eq Settings.generate_template List.mem_cons_self hm hk
  obtain rfl := Except.ok.inj (Settings.accessors_mode.symm.trans ha)
  obtain ⟨-, -, hnull⟩ := h w b
  refine (hnull rfl).2 ?_
  rw [hb]
  exact .misshapen nofun

end TypedBundle
