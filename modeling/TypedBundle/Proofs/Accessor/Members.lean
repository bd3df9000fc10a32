import TypedBundle.Accessor.AccessorType
import TypedBundle.Proofs.Fallible
import TypedBundle.Proofs.Lookup

/-!
# Members with accessors

A member has accessors if some strategy stores its type and its default body, if it has one, is in
reach. Members have accessors together if no two of them share a key as well: they are sound.
`Template.accessors_eq_ok` says so, and `Template.accessors_eq_error` says that otherwise the error
is the fault of the first member at which the members so far stop being sound.
-/

namespace TypedBundle

/-- A list of parcelable objects has a class of elements. -/
lemma Strategy.exists_element {ty} (h : ofDescriptor? ty = some .objectList) :
    ∃ element, ty.arguments.head? = some element := by
  unfold ofDescriptor? at h
  cases hk : Kind.ofDescriptor? ty with
  | some kind =>
    rw [hk] at h
    cases h
  | none =>
    rw [hk, Option.map_none, Option.none_or] at h
    unfold ofCapability? at h
    split at h
    · next hl =>
      obtain ⟨element, he, -⟩ := (Option.any_eq_true ..).1 hl.2
      exact ⟨element, he⟩
    · split at h
      · cases h
      · split at h
        · cases h
        · split at h <;> cases h

namespace Member

/-- The key of the member's entry. -/
def key (t : Template) (m : Member) : String := (Naming.ofMember t m).key

/-- Some strategy stores the values of the member's type. -/
def IsStorable (m : Member) : Prop := (Strategy.ofDescriptor? m.declaredType).isSome

/-- The default body, if there is one, can be called without an instance of the template. -/
def IsReachable (m : Member) : Prop := m.hasDefaultBody → m.scope = .companion

/-- The accessors of the member on its own. -/
def accessors (t : Template) (m : Member) : Except GenerationError MemberAccessors := do
  let s ← m.strategy t
  MemberAccessors.synthesize t m (Naming.ofMember t m) s

/-- The strategy of a member is that of its type. -/
lemma strategy_eq_ok {t m s} :
    strategy t m = .ok s ↔ Strategy.ofDescriptor? m.declaredType = some s := by
  unfold strategy
  split <;> simp [*]

/-- A member without a strategy is refused for its type. -/
lemma strategy_eq_error {t m e} :
    strategy t m = .error e ↔
      ¬ m.IsStorable ∧ .unsupportedType t.className m.declaredName m.declaredType.display = e := by
  unfold strategy IsStorable
  split <;> simp [*]

/-- A default body out of reach is refused. -/
lemma defaultCall?_eq_error {t m e} :
    defaultCall? t m = .error e ↔
      ¬ m.IsReachable ∧ .defaultNotReachable t.className m.declaredName = e := by
  unfold defaultCall? IsReachable
  split
  · simp_all
  · split <;> simp_all

/-- A default that a getter falls back to is that of a member with a default body. -/
lemma defaultCall?_eq_some {t m call} (h : defaultCall? t m = .ok (some call)) :
    m.hasDefaultBody ∧ call = ⟨t.simpleName, m.declaredName⟩ := by
  unfold defaultCall? at h
  split at h
  · cases h
  · next hb =>
    split at h
    · cases h
    · cases h
      exact ⟨by simpa using hb, rfl⟩

/-- The accessors are made of the member's names, its strategy and its default. -/
lemma accessors_eq_ok {t m a} :
    accessors t m = .ok a ↔
      ∃ s d, Strategy.ofDescriptor? m.declaredType = some s ∧ defaultCall? t m = .ok d ∧
        MemberAccessors.ofParts m (Naming.ofMember t m) s d = a := by
  simp [accessors, MemberAccessors.synthesize, strategy_eq_ok]

/-- A member without accessors is refused for its type, or else for its default body. -/
lemma accessors_eq_error {t m e} :
    accessors t m = .error e ↔
      (¬ m.IsStorable ∧ .unsupportedType t.className m.declaredName m.declaredType.display = e) ∨
      (m.IsStorable ∧ ¬ m.IsReachable ∧ .defaultNotReachable t.className m.declaredName = e) := by
  simp [accessors, MemberAccessors.synthesize, strategy_eq_error, defaultCall?_eq_error,
    strategy_eq_ok, IsStorable, Option.isSome_iff_exists]

/-- A member has accessors if it is storable and reachable. -/
lemma exists_accessors {t m} : (∃ a, accessors t m = .ok a) ↔ m.IsStorable ∧ m.IsReachable := by
  rw [← not_iff_not, ← Except.exists_error_iff]
  simp only [accessors_eq_error]
  by_cases hs : m.IsStorable <;> by_cases hr : m.IsReachable <;> simp [hs, hr]

end Member

namespace Template

/-- The members have accessors together. -/
structure Sound (t : Template) (ms : List Member) : Prop where
  keys : (ms.map (Member.key t)).Nodup
  storable : ∀ m ∈ ms, m.IsStorable
  reachable : ∀ m ∈ ms, m.IsReachable

/-- The fault of a member that follows others. A key in use comes first, then a type without a
strategy, then a default body out of reach. -/
inductive MemberFault (t : Template) (before : List Member) (m : Member) :
    GenerationError → Prop where
  | duplicateKey {first} :
    first ∈ before →
    first.key t = m.key t →
    MemberFault t before m
      (.duplicateKey t.className (m.key t) first.declaredName m.declaredName)
  | unsupportedType :
    (∀ first ∈ before, first.key t ≠ m.key t) →
    ¬ m.IsStorable →
    MemberFault t before m
      (.unsupportedType t.className m.declaredName m.declaredType.display)
  | defaultNotReachable :
    (∀ first ∈ before, first.key t ≠ m.key t) →
    m.IsStorable →
    ¬ m.IsReachable →
    MemberFault t before m (.defaultNotReachable t.className m.declaredName)

/-- No members are sound. -/
lemma Sound.nil {t} : Sound t [] := ⟨List.nodup_nil, nofun, nofun⟩

/-- Sound members stay sound with one more that has accessors and a key of its own. -/
lemma sound_concat {t before m} :
    Sound t (before ++ [m]) ↔
      Sound t before ∧ (∀ first ∈ before, first.key t ≠ m.key t) ∧ ∃ a, m.accessors t = .ok a := by
  rw [Member.exists_accessors]
  constructor
  · rintro ⟨hk, hs, hr⟩
    obtain ⟨hk, hne⟩ := List.nodup_map_concat.1 hk
    exact ⟨⟨hk, fun x hx => hs x (by simp [hx]), fun x hx => hr x (by simp [hx])⟩, hne,
      hs m (by simp), hr m (by simp)⟩
  · rintro ⟨⟨hk, hs, hr⟩, hne, hsm, hrm⟩
    refine ⟨List.nodup_map_concat.2 ⟨hk, hne⟩, ?_, ?_⟩
    · intro x hx
      obtain hx | rfl := by simpa using hx
      · exact hs x hx
      · exact hsm
    · intro x hx
      obtain hx | rfl := by simpa using hx
      · exact hr x hx
      · exact hrm

/-- Of sound members only one has a key. -/
lemma Sound.eq_of_key_eq {t ms x y} (h : Sound t ms) (hx : x ∈ ms) (hy : y ∈ ms)
    (e : x.key t = y.key t) : x = y :=
  List.inj_on_of_nodup_map h.keys hx hy e

/-- Members that begin sound members are sound. -/
lemma Sound.of_append {t before after} (h : Sound t (before ++ after)) : Sound t before where
  keys := by
    have hk := h.keys
    rw [List.map_append] at hk
    exact hk.of_append_left
  storable m hm := h.storable m (List.mem_append_left _ hm)
  reachable m hm := h.reachable m (List.mem_append_left _ hm)

/-- The keys that earlier members use, the latest first. -/
def usedKeys (t : Template) (before : List Member) : List (String × String) :=
  (before.map fun m => (m.key t, m.declaredName)).reverse

/-- One more member puts its key in use. -/
lemma usedKeys_concat {t before} {m : Member} :
    usedKeys t (before ++ [m]) = (m.key t, m.declaredName) :: usedKeys t before := by
  simp [usedKeys]

/-- A key is not in use if no earlier member has it. -/
lemma lookup_usedKeys_eq_none {t before key} :
    (usedKeys t before).lookup key = none ↔ ∀ first ∈ before, first.key t ≠ key := by
  rw [List.lookup_eq_none_iff_ne]
  simp [usedKeys]

/-- A key in use leads to the earlier member that has it. -/
lemma lookup_usedKeys_eq_some {t before key name} (hb : Sound t before) :
    (usedKeys t before).lookup key = some name ↔
      ∃ first ∈ before, first.key t = key ∧ first.declaredName = name := by
  have hn : ((usedKeys t before).map Prod.fst).Nodup := by
    simpa [usedKeys, Function.comp_def] using hb.keys
  rw [List.lookup_eq_some_iff_mem hn]
  simp [usedKeys]

/-- The first member is checked for its key, then for its accessors, and then the others follow. -/
lemma accessors_cons {t used m rest} :
    accessors t used (m :: rest) =
      match used.lookup (m.key t) with
      | some first => .error (.duplicateKey t.className (m.key t) first m.declaredName)
      | none => do
        let a ← m.accessors t
        let others ← accessors t ((m.key t, m.declaredName) :: used) rest
        return a :: others := by
  rw [accessors]
  unfold Member.key
  cases List.lookup (Naming.ofMember t m).key used with
  | some first => rfl
  | none => simp only [Member.accessors, bind_assoc]

/-- Members have accessors if the first one has, under a key of its own, and the others have. -/
lemma accessors_cons_eq_ok {t before m rest as} (hb : Sound t before) :
    accessors t (usedKeys t before) (m :: rest) = .ok as ↔
      Sound t (before ++ [m]) ∧ ∃ a others, m.accessors t = .ok a ∧
        accessors t (usedKeys t (before ++ [m])) rest = .ok others ∧ a :: others = as := by
  rw [accessors_cons, sound_concat, usedKeys_concat]
  split
  · next first hl =>
    obtain ⟨x, hx, e, -⟩ := (lookup_usedKeys_eq_some hb).1 hl
    exact ⟨nofun, fun h => (h.1.2.1 x hx e).elim⟩
  · next hl =>
    have hne := lookup_usedKeys_eq_none.1 hl
    simp only [Except.bind_eq_ok, Except.pure_eq_ok]
    constructor
    · rintro ⟨a, ha, others, ho, rfl⟩
      exact ⟨⟨hb, hne, a, ha⟩, a, others, ha, ho, rfl⟩
    · rintro ⟨-, a, others, ha, ho, rfl⟩
      exact ⟨a, ha, others, ho, rfl⟩

/-- Members fail with the fault of the first one, or else with that of the others. -/
lemma accessors_cons_eq_error {t before m rest e} (hb : Sound t before) :
    accessors t (usedKeys t before) (m :: rest) = .error e ↔
      MemberFault t before m e ∨ Sound t (before ++ [m]) ∧
        accessors t (usedKeys t (before ++ [m])) rest = .error e := by
  rw [accessors_cons, sound_concat, usedKeys_concat]
  split
  · next name hl =>
    obtain ⟨x, hx, ek, rfl⟩ := (lookup_usedKeys_eq_some hb).1 hl
    constructor
    · intro h
      cases h
      exact .inl (.duplicateKey hx ek)
    · rintro (hf | h)
      · cases hf with
        | @duplicateKey first hf ek' =>
          rw [hb.eq_of_key_eq hf hx (ek'.trans ek.symm)]
        | unsupportedType hne => exact (hne x hx ek).elim
        | defaultNotReachable hne => exact (hne x hx ek).elim
      · exact (h.1.2.1 x hx ek).elim
  · next hl =>
    have hne := lookup_usedKeys_eq_none.1 hl
    simp only [Except.bind_eq_error, Except.pure_ne_error, Member.accessors_eq_error]
    constructor
    · rintro ((⟨hs, rfl⟩ | ⟨hs, hr, rfl⟩) | ⟨a, ha, ho | ⟨_, -, h⟩⟩)
      · exact .inl (.unsupportedType hne hs)
      · exact .inl (.defaultNotReachable hne hs hr)
      · exact .inr ⟨⟨hb, hne, a, ha⟩, ho⟩
      · exact h.elim
    · rintro (hf | ⟨⟨-, -, a, ha⟩, ho⟩)
      · cases hf with
        | duplicateKey hf ek => exact (hne _ hf ek).elim
        | unsupportedType _ hs => exact .inl (.inl ⟨hs, rfl⟩)
        | defaultNotReachable _ hs hr => exact .inl (.inr ⟨hs, hr, rfl⟩)
      · exact .inr ⟨a, ha, .inl ho⟩

/-- Members have accessors together if they are sound, and then each has those of its own. -/
lemma accessors_eq_ok {t before ms as} (hb : Sound t before) :
    accessors t (usedKeys t before) ms = .ok as ↔
      Sound t (before ++ ms) ∧ List.Forall₂ (fun m a => Member.accessors t m = .ok a) ms as := by
  induction ms generalizing before as with
  | nil => simp [accessors, hb, eq_comm]
  | cons m rest ih =>
    rw [accessors_cons_eq_ok hb]
    constructor
    · rintro ⟨hm, a, others, ha, ho, rfl⟩
      obtain ⟨hs, hf⟩ := (ih hm).1 ho
      exact ⟨by simpa using hs, .cons ha hf⟩
    · rintro ⟨hs, hf⟩
      obtain @⟨⟩ | @⟨_, a, _, others, ha, ho⟩ := hf
      rw [List.append_cons] at hs
      have hm := hs.of_append
      exact ⟨hm, a, others, ha, (ih hm).2 ⟨hs, ho⟩, rfl⟩

/-- Members fail with the fault of the first one that cannot follow those before it. -/
lemma accessors_eq_error {t before ms e} (hb : Sound t before) :
    accessors t (usedKeys t before) ms = .error e ↔
      ∃ earlier m later, ms = earlier ++ m :: later ∧ Sound t (before ++ earlier) ∧
        MemberFault t (before ++ earlier) m e := by
  -- each step moves one member over to those before, which stay sound
  induction ms generalizing before with
  | nil => simp [accessors]
  | cons m rest ih =>
    rw [accessors_cons_eq_error hb]
    constructor
    · rintro (hf | ⟨hm, ho⟩)
      · exact ⟨[], m, rest, rfl, by simpa using hb, by simpa using hf⟩
      · obtain ⟨earlier, m', later, rfl, hs, hf⟩ := (ih hm).1 ho
        exact ⟨m :: earlier, m', later, rfl, by simpa using hs, by simpa using hf⟩
    · rintro ⟨earlier, m', later, e', hs, hf⟩
      cases earlier with
      | nil =>
        cases e'
        exact .inl (by simpa using hf)
      | cons x earlier =>
        cases e'
        rw [List.append_cons] at hs hf
        exact .inr ⟨hs.of_append, (ih hs.of_append).2 ⟨earlier, m', later, rfl, hs, hf⟩⟩

end Template

end TypedBundle
