import TypedBundle.Proofs.Accessor.Members

/-!
# Signatures of instance methods

The signatures of the instance methods of a type follow from its template: one for each name of a
setter, one for each name of a getter and what may follow it, one for the presence assertion of
each member, and that of the way out to the bundle. `AccessorType.assemble_eq_ok` and
`AccessorType.assemble_eq_error` say that the type is made if no signature occurs twice, and that
otherwise the error is that of the first method whose signature is taken.
-/

namespace TypedBundle

/-- A method's name and the displayed types of its parameters. -/
abbrev Signature := String × List String

namespace Member

/-- What can follow the plain name of a getter. -/
def getterSuffixes (m : Member) : List String :=
  match (Strategy.ofDescriptor? m.declaredType).map Strategy.getterClass, m.hasDefaultBody with
  | some .zeroDefault, _ => [""]
  | some .fallbackCapable, true => [""]
  | some .nullable, true => ["", "OrNull", "OrThrow"]
  | _, _ => ["", "OrThrow"]

/-- The signatures of the member's setters, getters and presence assertion. -/
def signatures (t : Template) (m : Member) : List Signature :=
  let n := Naming.ofMember t m
  n.setterNames.map (·, [m.declaredType.display]) ++
    n.getterNames.flatMap (fun name => m.getterSuffixes.map fun suffix => (name ++ suffix, [])) ++
    [(n.assertName, [])]

/-- The accessors of a member bear its name, and have its key and the strategy for its type. -/
lemma member_of_accessors {t m a} (h : accessors t m = .ok a) :
    a.member = m.declaredName ∧ a.key = m.key t ∧
      Strategy.ofDescriptor? m.declaredType = some a.strategy := by
  obtain ⟨s, d, hs, -, rfl⟩ := accessors_eq_ok.1 h
  exact ⟨rfl, rfl, hs⟩

/-- A member has a default to call if it has a default body. -/
lemma isSome_of_defaultCall? {t m d} (h : defaultCall? t m = .ok d) :
    d.isSome = m.hasDefaultBody := by
  unfold defaultCall? at h
  split at h
  · cases h
    simp_all
  · split at h
    · cases h
    · cases h
      simp_all

/-- The getters of a plain name take no arguments and differ in what follows the name. -/
lemma signature_gettersNamed {m n s d} (hs : Strategy.ofDescriptor? m.declaredType = some s)
    (hd : d.isSome = m.hasDefaultBody) (name : String) :
    (MemberAccessors.gettersNamed m n s d name).map Method.signature =
      m.getterSuffixes.map fun suffix => (name ++ suffix, []) := by
  unfold getterSuffixes MemberAccessors.gettersNamed
  rw [hs, Option.map_some]
  cases hc : s.getterClass <;> cases d <;> cases hb : m.hasDefaultBody <;> rw [hb] at hd <;>
    simp_all [MemberAccessors.getter, Method.signature]

/-- The instance methods of a member have the signatures that the template gives them. -/
lemma signature_instanceMethods {t m a} (h : accessors t m = .ok a) :
    a.instanceMethods.map Method.signature = m.signatures t := by
  obtain ⟨s, d, hs, hd, rfl⟩ := accessors_eq_ok.1 h
  have hg := signature_gettersNamed (n := Naming.ofMember t m) hs (isSome_of_defaultCall? hd)
  simp only [MemberAccessors.instanceMethods, MemberAccessors.ofParts, signatures, List.map_append,
    List.map_map, List.map_flatMap, hg]
  rfl

end Member

namespace Template

/-- The signatures of all instance methods in order, each with the member it belongs to. The way
out to the bundle stands for a member of its own. -/
def signatures (t : Template) : List (Signature × String) :=
  t.members.flatMap (fun m => (m.signatures t).map (·, m.declaredName)) ++
    [(Method.collect.signature, "collect")]

/-- The fault of a method that follows others: its signature is taken. -/
inductive SignatureFault (t : Template) (before : List (Signature × String))
    (x : Signature × String) : GenerationError → Prop where
  | clash {owner} :
    (x.1, owner) ∈ before →
    SignatureFault t before x (.resolution t.className (some x.2)
      ("generated method " ++ x.1.1 ++ " clashes with one generated for " ++ owner))

end Template

namespace AccessorType

/-- The signatures of the members' instance methods in order, each with its member. -/
def ownedSignatures (as : List MemberAccessors) : List (Signature × String) :=
  as.flatMap fun a => a.instanceMethods.map fun m => (m.signature, a.member)

/-- The same with the way out to the bundle. -/
def allSignatures (as : List MemberAccessors) : List (Signature × String) :=
  ownedSignatures as ++ [(Method.collect.signature, "collect")]

/-- Takes a signature for a member, unless it is taken. -/
def take (t : Template) (taken : Claims) (x : Signature × String) :
    Except GenerationError Claims :=
  match taken.lookup x.1 with
  | some owner => .error (.resolution t.className (some x.2)
      ("generated method " ++ x.1.1 ++ " clashes with one generated for " ++ owner))
  | none => .ok (x :: taken)

/-- To take the signatures of the methods member by member is to take all of them in order. -/
lemma claimAll_eq {t taken as} :
    claimAll t taken as = (ownedSignatures as).foldlM (take t) taken := by
  unfold claimAll ownedSignatures
  induction as generalizing taken with
  | nil => rfl
  | cons a rest ih =>
    rw [List.foldlM_cons, List.flatMap_cons, List.foldlM_append]
    simp only [ih, List.foldlM_map]
    rfl

/-- A signature can be taken if no earlier method has it. -/
lemma take_eq_ok {t taken x} {before : List (Signature × String)} :
    take t before.reverse x = .ok taken ↔
      (∀ y ∈ before, y.1 ≠ x.1) ∧ (before ++ [x]).reverse = taken := by
  have hn : before.reverse.lookup x.1 = none ↔ ∀ y ∈ before, y.1 ≠ x.1 := by
    rw [List.lookup_eq_none_iff_ne]
    simp only [List.mem_reverse]
  unfold take
  split
  · next owner hl =>
    refine ⟨nofun, fun h => ?_⟩
    rw [hn.2 h.1] at hl
    cases hl
  · next hl =>
    rw [Except.ok.injEq, List.reverse_concat]
    exact ⟨fun h => ⟨hn.1 hl, h⟩, fun h => h.2⟩

/-- A signature that cannot be taken is that of an earlier method. -/
lemma take_eq_error {t x e} {before : List (Signature × String)}
    (hb : (before.map Prod.fst).Nodup) :
    take t before.reverse x = .error e ↔ Template.SignatureFault t before x e := by
  have hn : (before.reverse.map Prod.fst).Nodup := by simpa using hb
  unfold take
  split
  · next owner hl =>
    rw [List.lookup_eq_some_iff_mem hn, List.mem_reverse] at hl
    constructor
    · intro h
      cases h
      exact .clash hl
    · intro h
      obtain ⟨hl'⟩ := h
      have e := List.inj_on_of_nodup_map hb hl hl' rfl
      cases e
      rfl
  · next hl =>
    refine ⟨nofun, fun h => ?_⟩
    obtain ⟨ho⟩ := h
    exact (List.lookup_eq_none_iff_ne.1 hl _ (List.mem_reverse.2 ho) rfl).elim

/-- Signatures can be taken in order if none occurs twice, and then all of them are taken. -/
lemma foldlM_take_eq_ok {t xs taken} {before : List (Signature × String)}
    (hb : (before.map Prod.fst).Nodup) :
    xs.foldlM (take t) before.reverse = .ok taken ↔
      ((before ++ xs).map Prod.fst).Nodup ∧ (before ++ xs).reverse = taken := by
  induction xs generalizing before with
  | nil =>
    rw [List.foldlM_nil, List.append_nil, Except.pure_eq_ok, and_iff_right hb]
  | cons x rest ih =>
    have hcons : before ++ x :: rest = before ++ [x] ++ rest := List.append_cons ..
    simp only [List.foldlM_cons, Except.bind_eq_ok, take_eq_ok, hcons]
    constructor
    · rintro ⟨_, ⟨hx, rfl⟩, h⟩
      exact (ih (List.nodup_map_concat.2 ⟨hb, hx⟩)).1 h
    · rintro ⟨hn, ht⟩
      have hx : ((before ++ [x]).map Prod.fst).Nodup := by
        rw [List.map_append] at hn
        exact hn.of_append_left
      exact ⟨_, ⟨(List.nodup_map_concat.1 hx).2, rfl⟩, (ih hx).2 ⟨hn, ht⟩⟩

/-- Signatures fail with the fault of the first that occurs among those before it. -/
lemma foldlM_take_eq_error {t xs e} {before : List (Signature × String)}
    (hb : (before.map Prod.fst).Nodup) :
    xs.foldlM (take t) before.reverse = .error e ↔
      ∃ earlier x later, xs = earlier ++ x :: later ∧ ((before ++ earlier).map Prod.fst).Nodup ∧
        Template.SignatureFault t (before ++ earlier) x e := by
  -- what is taken are the signatures before, the latest first
  induction xs generalizing before with
  | nil => simp
  | cons x rest ih =>
    simp only [List.foldlM_cons, Except.bind_eq_error, take_eq_ok, take_eq_error hb]
    constructor
    · rintro (hf | ⟨_, ⟨hx, rfl⟩, h⟩)
      · exact ⟨[], x, rest, rfl, by simpa using hb, by simpa using hf⟩
      · obtain ⟨earlier, y, later, rfl, hn, hf⟩ := (ih (List.nodup_map_concat.2 ⟨hb, hx⟩)).1 h
        exact ⟨x :: earlier, y, later, rfl, by simpa using hn, by simpa using hf⟩
    · rintro ⟨earlier, y, later, e', hn, hf⟩
      cases earlier with
      | nil =>
        cases e'
        exact .inl (by simpa using hf)
      | cons z earlier =>
        cases e'
        rw [List.append_cons] at hn hf
        have hx : ((before ++ [x]).map Prod.fst).Nodup := by
          rw [List.map_append] at hn
          exact hn.of_append_left
        exact .inr ⟨_, ⟨(List.nodup_map_concat.1 hx).2, rfl⟩,
          (ih hx).2 ⟨earlier, y, later, rfl, hn, hf⟩⟩

/-- The type is made once the signatures of all methods are taken in order. -/
lemma assemble_eq {t as} :
    assemble t as = ((allSignatures as).foldlM (take t) []).map fun _ => ofAccessors t as := by
  unfold allSignatures
  rw [List.foldlM_append, ← claimAll_eq]
  unfold assemble
  cases claimAll t [] as with
  | error e => rfl
  | ok taken =>
    have hc : claim t "collect" taken Method.collect =
        take t taken (Method.collect.signature, "collect") := rfl
    change (Functor.discard (claim t "collect" taken Method.collect) >>= _) =
      Except.map _ (List.foldlM (take t) taken _)
    rw [hc, List.foldlM_cons]
    cases take t taken (Method.collect.signature, "collect") <;> rfl

/-- The type is made if no signature occurs twice. -/
lemma assemble_eq_ok {t as g} :
    assemble t as = .ok g ↔
      ((allSignatures as).map Prod.fst).Nodup ∧ ofAccessors t as = g := by
  have hb : (([] : List (Signature × String)).map Prod.fst).Nodup := List.nodup_nil
  have hf : ∀ taken, (allSignatures as).foldlM (take t) [] = .ok taken ↔
      ((allSignatures as).map Prod.fst).Nodup ∧ (allSignatures as).reverse = taken :=
    fun _ => foldlM_take_eq_ok hb
  simp only [assemble_eq, Except.map_eq_ok, hf, and_assoc, exists_and_left, exists_eq_left']

/-- The type is refused for the first method whose signature an earlier one has. -/
lemma assemble_eq_error {t as e} :
    assemble t as = .error e ↔
      ∃ before x after, allSignatures as = before ++ x :: after ∧
        (before.map Prod.fst).Nodup ∧ Template.SignatureFault t before x e := by
  rw [assemble_eq, Except.map_eq_error]
  have hb : (([] : List (Signature × String)).map Prod.fst).Nodup := List.nodup_nil
  exact foldlM_take_eq_error hb

end AccessorType

end TypedBundle
