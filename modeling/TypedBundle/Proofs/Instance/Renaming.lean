import Mathlib.Data.List.Forall2
import TypedBundle.Proofs.Instance.Record

/-!
# Renaming accessors

How the accessors of a member are named says nothing about what they do. What is stored under which
key, and what is read, follows from the declared name, the type, the default body and the override
of the key. So if two templates agree in these (`Template.Renames`), the types that they yield can
read each other's bundles.
-/

namespace TypedBundle

/-- The members declare the same entry. The names of their accessors may differ. -/
structure Member.SameEntry (m m' : Member) : Prop where
  declaredName : m.declaredName = m'.declaredName
  declaredType : m.declaredType = m'.declaredType
  hasDefaultBody : m.hasDefaultBody = m'.hasDefaultBody
  scope : m.scope = m'.scope
  overrideKey : m.overrideKey = m'.overrideKey

/-- The templates are of one class and declare the same entries. The names of accessors, the leading
words that the templates set and the names of the types may differ. -/
structure Template.Renames (t t' : Template) : Prop where
  className : t.className = t'.className
  members : List.Forall₂ Member.SameEntry t.members t'.members

/-- A way in which a getter answers for an entry that is absent. -/
inductive Variant where
  | zero
  | default
  | null
  | throw
  deriving Repr, DecidableEq

/-- The way of a fallback. A default is one, whether it is handed over with the read or asked for
when the read gives null. -/
def Fallback.variant : Fallback → Variant
  | .inlineZero => .zero
  | .inlineDefault _ => .default
  | .orDefault _ => .default
  | .orNull => .null
  | .orThrow => .throw

/-- The way of a getter. -/
def Method.variant? (x : Method) : Option Variant :=
  match x.body with
  | .load _ _ _ fallback => some fallback.variant
  | _ => none

/-- No other setter of the type has the setter's name. -/
def AccessorType.HasOnlySetter (g : AccessorType) (x : Method) : Prop :=
  ∀ y ∈ g.methods, y.IsSetter → y.name = x.name → y = x

namespace GetterClass

/-- What the getters of one name fall back to. -/
def fallbacks : GetterClass → Option DefaultCall → List Fallback
  | zeroDefault, none => [.inlineZero]
  | zeroDefault, some call => [.inlineDefault call]
  | fallbackCapable, some call => [.inlineDefault call]
  | fallbackCapable, none => [.orNull, .orThrow]
  | nullable, none => [.orNull, .orThrow]
  | nullable, some call => [.orDefault call, .orNull, .orThrow]

/-- No two of them answer in the same way. -/
lemma nodup_variants_fallbacks (c : GetterClass) (d : Option DefaultCall) :
    ((c.fallbacks d).map Fallback.variant).Nodup := by
  cases c <;> cases d <;> simp [fallbacks, Fallback.variant]

end GetterClass

namespace Naming

/-- Of lists of leading words one is taken that is not empty. -/
lemma cascade_ne_nil {member template convention} (h : convention ≠ []) :
    cascade member template convention ≠ [] := by
  have hd : ∀ {words : List String}, words ≠ [] → distinct words ≠ [] := by
    intro words hw
    cases words with
    | nil => exact (hw rfl).elim
    | cons word rest => simp [distinct]
  apply hd
  split
  · simp_all
  · split <;> simp_all

/-- Every member has a getter of some name. -/
lemma getterNames_ne_nil {t m} : (ofMember t m).getterNames ≠ [] := by
  unfold getterNames
  rw [Ne, List.map_eq_nil_iff]
  exact cascade_ne_nil (by simp [conventionalGetters])

end Naming

namespace MemberAccessors

/-- The getters of one name read the entry and fall back to what their class allows. -/
lemma map_body_gettersNamed {m n s d name} :
    (gettersNamed m n s d name).map Method.body =
      (s.getterClass.fallbacks d).map (.load n.key s m.declaredType) := by
  unfold gettersNamed
  cases s.getterClass <;> cases d <;> rfl

end MemberAccessors

namespace Member

/-- What the getters of a member do, whatever their names. -/
lemma exists_getter_iff {t m a b} (h : accessors t m = .ok a) :
    (∃ x ∈ a.getters, x.body = b) ↔
      ∃ d, defaultCall? t m = .ok d ∧
        b ∈ (a.strategy.getterClass.fallbacks d).map (.load a.key a.strategy m.declaredType) := by
  obtain ⟨s, d, -, hd, rfl⟩ := accessors_eq_ok.1 h
  have hb : ∀ name, (∃ x ∈ MemberAccessors.gettersNamed m (.ofMember t m) s d name, x.body = b) ↔
      b ∈ (s.getterClass.fallbacks d).map (.load (Naming.ofMember t m).key s m.declaredType) := by
    intro name
    rw [← MemberAccessors.map_body_gettersNamed, List.mem_map]
  constructor
  · rintro ⟨x, hx, e⟩
    obtain ⟨name, -, hx⟩ := List.mem_flatMap.1 hx
    exact ⟨d, hd, (hb name).1 ⟨x, hx, e⟩⟩
  · rintro ⟨d', hd', hm⟩
    obtain rfl := Except.ok.inj (hd.symm.trans hd')
    obtain ⟨name, hname⟩ :=
      List.exists_mem_of_ne_nil _ (Naming.getterNames_ne_nil (t := t) (m := m))
    obtain ⟨x, hx, e⟩ := (hb name).2 hm
    exact ⟨x, List.mem_flatMap.2 ⟨name, hname, hx⟩, e⟩

/-- Getters of a member that answer in the same way do the same. -/
lemma body_eq_of_variant_eq {t m a} {x y : Method} (h : accessors t m = .ok a)
    (hx : x ∈ a.getters) (hy : ∃ z ∈ a.getters, z.body = y.body)
    (hv : x.variant? = y.variant?) : x.body = y.body := by
  obtain ⟨d, hd, hmx⟩ := (exists_getter_iff h).1 ⟨x, hx, rfl⟩
  obtain ⟨d', hd', hmy⟩ := (exists_getter_iff h).1 hy
  obtain rfl := Except.ok.inj (hd.symm.trans hd')
  obtain ⟨f, hf, ex⟩ := List.mem_map.1 hmx
  obtain ⟨f', hf', ey⟩ := List.mem_map.1 hmy
  unfold Method.variant? at hv
  rw [← ex, ← ey] at hv ⊢
  rw [List.inj_on_of_nodup_map (GetterClass.nodup_variants_fallbacks _ d) hf hf'
    (Option.some.inj hv)]

end Member

namespace Template.Renames

variable {t t' : Template} {m m' : Member} {a a' : MemberAccessors}

/-- Members in the same place declare the same entry. -/
lemma sameEntry (h : t.Renames t') (hm : (m, m') ∈ t.members.zip t'.members) : m.SameEntry m' :=
  (List.forall₂_iff_zip.1 h.members).2 hm

/-- Renaming keeps the call of a default body. -/
lemma defaultCall?_eq (h : t.Renames t') (hs : m.SameEntry m') :
    m.defaultCall? t = m'.defaultCall? t' := by
  unfold Member.defaultCall? Template.simpleName
  rw [hs.hasDefaultBody, hs.scope, hs.declaredName, h.className]

/-- Renaming keeps the key and the strategy of a member. -/
lemma key_strategy_eq (hs : m.SameEntry m') (ha : m.accessors t = .ok a)
    (ha' : m'.accessors t' = .ok a') : a.key = a'.key ∧ a.strategy = a'.strategy := by
  obtain ⟨-, hk, hst⟩ := Member.member_of_accessors ha
  obtain ⟨-, hk', hst'⟩ := Member.member_of_accessors ha'
  constructor
  · rw [hk, hk']
    unfold Member.key Naming.ofMember
    rw [hs.declaredName, hs.overrideKey]
  · rw [hs.declaredType, hst'] at hst
    exact (Option.some.inj hst).symm

/-- Renaming keeps what the getters of a member do. -/
lemma exists_getter_iff (h : t.Renames t') (hs : m.SameEntry m') (ha : m.accessors t = .ok a)
    (ha' : m'.accessors t' = .ok a') {b} :
    (∃ x ∈ a.getters, x.body = b) ↔ ∃ x' ∈ a'.getters, x'.body = b := by
  obtain ⟨hk, hst⟩ := key_strategy_eq hs ha ha'
  rw [Member.exists_getter_iff ha, Member.exists_getter_iff ha', h.defaultCall?_eq hs, hk, hst,
    hs.declaredType]

end Template.Renames

/-- What is stored does not depend on the name of the setter. -/
lemma Strategy.encode_eq_ok_iff {classes name name' ty s v stored} :
    encode classes name ty s v = .ok stored ↔
      encode classes name' ty s v = .ok stored := by
  unfold encode
  split
  · split
    · simp
    · rfl
  · split <;> simp

namespace Instance

variable {c c' : BoundType} {t t' : Template} {m m' : Member} {a a' : MemberAccessors}

/-- A setter is the one that a call with one argument means if no other has its name. -/
lemma instanceMethod_of_hasOnlySetter {x : Method} (hg : t.generate = .ok c.type)
    (hx : x ∈ c.type.methods) (hs : x.IsSetter) (ho : c.type.HasOnlySetter x) :
    c.instanceMethod x.name 1 = .ok x := by
  obtain ⟨p, hp⟩ := Template.exists_param hg hx hs
  obtain ⟨y, hy⟩ := BoundType.exists_instanceMethod hx
  rw [hp, List.length_singleton] at hy
  obtain ⟨hym, hn, hl⟩ := BoundType.mem_of_instanceMethod hy
  rwa [ho y hym (Template.isSetter_of_length hg hym hl) hn] at hy

/-- A getter of a member reads its entry and answers as it falls back, whatever its name. -/
lemma invoke_getter {x w b} (hg : t.generate = .ok c.type) (hm : m ∈ t.members)
    (ha : m.accessors t = .ok a) (hx : x ∈ a.getters) :
    (mk c b).invoke w x.name [] = (mk c b).run w x x.name [] := by
  have hxm : x ∈ c.type.methods := (Template.mem_methods_iff hg).2
    (.inl ⟨m, hm, a, ha, MemberAccessors.mem_instanceMethods.2 (.inl (.inr hx))⟩)
  obtain ⟨_, _, _, rfl, -⟩ := Member.getter_of_mem ha hx
  exact invoke_eq_run (instanceMethod_of_params_nil hg hxm rfl)

/-- Getters with the same body answer the same of a bundle. -/
lemma run_getter_eq {x x' : Method} {w b name name'} (ha : m.accessors t = .ok a)
    (hx : x ∈ a.getters) (e : x.body = x'.body) :
    (mk c b).run w x name [] = (mk c' b).run w x' name' [] := by
  obtain ⟨_, _, _, rfl, -⟩ := Member.getter_of_mem ha hx
  unfold run
  rw [← e]
  rfl

/-- A call of a setter succeeds if its argument can be stored, and stores it under the key of the
member, provided that no other setter has its name. -/
lemma invoke_setter_eq_ok {x w b v r} (hg : t.generate = .ok c.type) (hm : m ∈ t.members)
    (ha : m.accessors t = .ok a) (hx : x ∈ a.setters) (ho : c.type.HasOnlySetter x) :
    (mk c b).invoke w x.name [v] = .ok r ↔
      ∃ stored, a.strategy.encode c.classes x.name m.declaredType v = .ok stored ∧
        ∃ heap, w.heap.put b a.key stored = .ok heap ∧ (.receiver, { w with heap }) = r := by
  have hxm : x ∈ c.type.methods := (Template.mem_methods_iff hg).2
    (.inl ⟨m, hm, a, ha, MemberAccessors.mem_instanceMethods.2 (.inl (.inl hx))⟩)
  have hk := (Member.member_of_accessors ha).2.1
  obtain ⟨p, -, rfl⟩ := (Member.mem_setters ha).1 hx
  rw [invoke_eq_run (instanceMethod_of_hasOnlySetter hg hxm ⟨_, _, _, rfl⟩ ho),
    run_setter rfl rfl, hk]
  simp only [Except.bind_eq_ok, Except.pure_eq_ok]
  rfl

end Instance

/-- Renaming keeps what a call of a setter does. -/
lemma Template.Renames.invoke_setter_eq_ok_iff {t t' : Template} {c c' : BoundType} {m m' a a' x x'}
    {w : World} {b : Bundle} {v r} (h : t.Renames t') (hg : t.generate = .ok c.type)
    (hg' : t'.generate = .ok c'.type) (hc : c.classes = c'.classes)
    (hm : (m, m') ∈ t.members.zip t'.members) (ha : m.accessors t = .ok a)
    (ha' : m'.accessors t' = .ok a') (hx : x ∈ a.setters) (hx' : x' ∈ a'.setters)
    (ho : c.type.HasOnlySetter x) (ho' : c'.type.HasOnlySetter x') :
    (Instance.mk c b).invoke w x.name [v] = .ok r ↔
      (Instance.mk c' b).invoke w x'.name [v] = .ok r := by
  have hs := h.sameEntry hm
  obtain ⟨hmt, hmt'⟩ := List.of_mem_zip hm
  obtain ⟨hk, hst⟩ := key_strategy_eq hs ha ha'
  rw [Instance.invoke_setter_eq_ok hg hmt ha hx ho,
    Instance.invoke_setter_eq_ok hg' hmt' ha' hx' ho', ← hc, ← hk, ← hst, ← hs.declaredType]
  exact exists_congr fun stored => and_congr_left fun _ => Strategy.encode_eq_ok_iff

/-- If two templates declare the same entries under different names, the types that they yield read
and write each other's bundles. The getters of a member answer in the same ways in both types, and
those that answer in one way give the same result or error on every bundle. Setters of the member
store the same under its key, or refuse the argument both, if neither shares its name with another
setter. -/
theorem Template.Renames.accessors_agree {t t' : Template} {c c' : BoundType} {m m' : Member}
    (h : t.Renames t') (hg : t.generate = .ok c.type) (hg' : t'.generate = .ok c'.type)
    (hc : c.classes = c'.classes) (hm : (m, m') ∈ t.members.zip t'.members) :
    ∃ a a', m.accessors t = .ok a ∧ m'.accessors t' = .ok a' ∧
      (∀ way, (∃ x ∈ a.getters, x.variant? = some way) ↔
        ∃ x' ∈ a'.getters, x'.variant? = some way) ∧
      (∀ x ∈ a.getters, ∀ x' ∈ a'.getters, x.variant? = x'.variant? → ∀ w b,
        (Instance.mk c b).invoke w x.name [] = (Instance.mk c' b).invoke w x'.name []) ∧
      ∀ x ∈ a.setters, ∀ x' ∈ a'.setters, c.type.HasOnlySetter x → c'.type.HasOnlySetter x' →
        ∀ w b v,
          (∃ stored heap, w.heap.put b (m.key t) stored = .ok heap ∧
            (Instance.mk c b).invoke w x.name [v] = .ok (.receiver, { w with heap }) ∧
            (Instance.mk c' b).invoke w x'.name [v] = .ok (.receiver, { w with heap })) ∨
          (∃ e e', (Instance.mk c b).invoke w x.name [v] = .error e ∧
            (Instance.mk c' b).invoke w x'.name [v] = .error e') := by
  have hs := h.sameEntry hm
  obtain ⟨hmt, hmt'⟩ := List.of_mem_zip hm
  have hsound := (generate_eq_ok.1 hg).1.1
  have hsound' := (generate_eq_ok.1 hg').1.1
  obtain ⟨a, ha⟩ := Member.exists_accessors.2 ⟨hsound.storable m hmt, hsound.reachable m hmt⟩
  obtain ⟨a', ha'⟩ :=
    Member.exists_accessors.2 ⟨hsound'.storable m' hmt', hsound'.reachable m' hmt'⟩
  obtain ⟨hk, hst⟩ := key_strategy_eq hs ha ha'
  refine ⟨a, a', ha, ha', ?_, ?_, ?_⟩
  · intro way
    constructor
    · rintro ⟨x, hx, hv⟩
      obtain ⟨x', hx', e⟩ := (h.exists_getter_iff hs ha ha').1 ⟨x, hx, rfl⟩
      exact ⟨x', hx', by rw [← hv, Method.variant?, Method.variant?, e]⟩
    · rintro ⟨x', hx', hv⟩
      obtain ⟨x, hx, e⟩ := (h.exists_getter_iff hs ha ha').2 ⟨x', hx', rfl⟩
      exact ⟨x, hx, by rw [← hv, Method.variant?, Method.variant?, e]⟩
  · intro x hx x' hx' hv w b
    have e : x.body = x'.body := Member.body_eq_of_variant_eq ha hx
      ((h.exists_getter_iff hs ha ha').2 ⟨x', hx', rfl⟩) hv
    rw [Instance.invoke_getter hg hmt ha hx, Instance.invoke_getter hg' hmt' ha' hx',
      Instance.run_getter_eq ha hx e]
  · intro x hx x' hx' ho ho' w b v
    have hiff := fun r => h.invoke_setter_eq_ok_iff (w := w) (b := b) (v := v) (r := r) hg hg' hc hm
      ha ha' hx hx' ho ho'
    cases hr : (Instance.mk c b).invoke w x.name [v] with
    | error e =>
      obtain ⟨e', he'⟩ : ∃ e', (Instance.mk c' b).invoke w x'.name [v] = .error e' := by
        rw [Except.exists_error_iff]
        rintro ⟨r, hr'⟩
        cases hr.symm.trans ((hiff r).2 hr')
      exact .inr ⟨e, e', rfl, he'⟩
    | ok r =>
      have hr' := (hiff r).1 hr
      obtain ⟨stored, -, heap, hp, rfl⟩ := (Instance.invoke_setter_eq_ok hg hmt ha hx ho).1 hr
      rw [(Member.member_of_accessors ha).2.1] at hp
      exact .inl ⟨stored, heap, hp, rfl, hr'⟩

namespace Settings

/-- The member that holds an enumeration's constant, with accessors of other names. -/
def theMode : Member := { mode with overrideName := "theMode", setterPrefixes := ["put"] }

/-- The template of the two members under other names. -/
def renamed : Template :=
  { template with outputName := "Options", getterPrefixes := ["read"], members := [theMode, level] }

/-- The accessors of the constant under other names. -/
def theModeAccessors : MemberAccessors :=
  .ofParts theMode (.ofMember renamed theMode) .enum none

/-- The accessors of the number under other names. -/
def levelAccessorsRenamed : MemberAccessors :=
  .ofParts level (.ofMember renamed level) (.direct .int) (some ⟨"SettingsInfo", "level"⟩)

/-- The type of the template under other names. -/
def boundRenamed : BoundType where
  type := .ofAccessors renamed [theModeAccessors, levelAccessorsRenamed]

/-- The templates declare the same entries. -/
lemma renames_renamed : template.Renames renamed where
  className := rfl
  members := .cons ⟨rfl, rfl, rfl, rfl, rfl⟩ (.cons ⟨rfl, rfl, rfl, rfl, rfl⟩ .nil)

/-- The constant has its accessors under other names. -/
lemma accessors_theMode : theMode.accessors renamed = .ok theModeAccessors :=
  Member.accessors_eq_ok.2 ⟨.enum, none, by decide +kernel, rfl, rfl⟩

/-- The type of the template under other names is generated. -/
lemma generate_renamed : renamed.generate = .ok boundRenamed.type := by
  have hl : level.accessors renamed = .ok levelAccessorsRenamed := Member.accessors_eq_ok.2
    ⟨.direct .int, _, by decide +kernel, Except.eq_ok_of_toOption (by decide +kernel), rfl⟩
  rw [Template.generate_eq_ok]
  refine ⟨⟨⟨by decide +kernel, ?_, ?_⟩, by decide +kernel⟩, _,
    .cons accessors_theMode (.cons hl .nil), rfl⟩
  · unfold Member.IsStorable
    decide +kernel
  · unfold Member.IsReachable
    decide

end Settings

/-- The getter that throws answers the same under its other name. -/
theorem Settings.invoke_readTheMode :
    Settings.template.Renames Settings.renamed ∧
      Settings.template.generate = .ok Settings.bound.type ∧
      Settings.renamed.generate = .ok Settings.boundRenamed.type ∧
      ∀ w b,
        (Instance.mk Settings.bound b).invoke w (Identifier.accessor "get" "mode" ++ "OrThrow") [] =
          (Instance.mk Settings.boundRenamed b).invoke w
            (Identifier.accessor "read" "theMode" ++ "OrThrow") [] := by
  have hm : (Settings.mode, Settings.theMode) ∈
      Settings.template.members.zip Settings.renamed.members := List.mem_cons_self
  obtain ⟨a, a', ha, ha', -, hget, -⟩ := Template.Renames.accessors_agree Settings.renames_renamed
    Settings.generate_template Settings.generate_renamed rfl hm
  obtain rfl := Except.ok.inj (Settings.accessors_mode.symm.trans ha)
  obtain rfl := Except.ok.inj (Settings.accessors_theMode.symm.trans ha')
  refine ⟨Settings.renames_renamed, Settings.generate_template, Settings.generate_renamed, ?_⟩
  exact hget _ (List.mem_cons_of_mem _ List.mem_cons_self) _
    (List.mem_cons_of_mem _ List.mem_cons_self) rfl

end TypedBundle
