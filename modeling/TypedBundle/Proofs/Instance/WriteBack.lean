import TypedBundle.Proofs.Instance.Atomicity
import TypedBundle.Proofs.Instance.Nullability

/-!
# Writing back what was read

What a getter has read can be handed to a setter of the same member. If the setter takes it, it
stores what was there before (`Strategy.encode_eq_ok_of_decode`), so the call changes nothing.
Objects are read whatever their class, but a setter takes those of the declared class only. So an
object of another class, which someone else has put under the key, can be read and not written back
(`Parcels.refused_stranger`); all other values can (`Template.write_back`).
-/

namespace TypedBundle

namespace Strategy

/-- As far as parcelable objects are stored, those of the value are of the class that the type
declares for them. -/
def Admits (classes : ClassTable) (ty : TypeDescriptor) : Strategy → Value → Prop
  | objectList, .parcelableList os =>
    ∀ element, ty.arguments.head? = some element →
      ∀ o ∈ os, classes.isSubtype o.className element.name
  | object, .parcelable o => classes.isSubtype o.className ty.name
  | _, _ => True

/-- What is read of what is stored: a constant of its name, and everything else as it is. -/
inductive Reads (ty : TypeDescriptor) : Strategy → Value → Value → Prop where
  | constant {name} :
    name ∈ ty.constants →
    Reads ty .enum (.string name) (.enum ty.name name)
  | same {s v} :
    s ≠ .enum →
    s.hasShape v →
    Reads ty s v v

variable {classes : ClassTable} {name : String} {ty : TypeDescriptor} {s : Strategy}
  {stored v : Value}

/-- Whatever decodes is read so. -/
lemma reads_of_decode (h : decode ty s (some stored) = .ok (some v)) : Reads ty s stored v := by
  unfold decode at h
  dsimp only at h
  split at h
  · next name =>
    split at h
    · next hc =>
      cases h
      exact .constant (List.contains_iff_mem.1 hc)
    · cases h
  · next hne =>
    split at h
    · next hs =>
      cases h
      refine .same ?_ hs
      -- the shape of a constant is a text, which has been looked at before
      rintro rfl
      cases stored <;> simp_all [hasShape]
    · cases h

/-- A value of the shape that the strategy stores is taken if its objects are of the declared class.
-/
lemma accepts_iff_admits (hs : ofDescriptor? ty = some s) (hv : s.hasShape v) (hn : s ≠ .enum) :
    s.accepts classes ty v ↔ s.Admits classes ty v := by
  cases s with
  | direct kind => exact iff_of_true hv trivial
  | objectList =>
    obtain ⟨element, he⟩ := exists_element hs
    cases v <;> simp_all [hasShape, Admits, accepts]
  | enum => exact (hn rfl).elim
  | object => cases v <;> simp_all [hasShape, Admits, accepts]
  | serializable => cases v <;> simp_all [hasShape, Admits, accepts]

/-- A value that has been read is stored as it was, if its objects are of the declared class. -/
lemma encode_eq_ok_of_decode (hs : ofDescriptor? ty = some s)
    (hd : decode ty s (some stored) = .ok (some v)) (ha : s.Admits classes ty v) :
    encode classes name ty s v = .ok stored := by
  cases reads_of_decode hd with
  | constant hc =>
    unfold encode
    simp [hc]
  | same hn hv =>
    unfold encode
    split
    · exact (hn rfl).elim
    · rw [if_pos ((accepts_iff_admits hs hv hn).2 ha)]

/-- A value that has been read is refused if not all of its objects are of the declared class. -/
lemma encode_eq_error_of_decode (hs : ofDescriptor? ty = some s)
    (hd : decode ty s (some stored) = .ok (some v)) (ha : ¬ s.Admits classes ty v) :
    encode classes name ty s v = .error (refusal name ty v) := by
  cases reads_of_decode hd with
  | constant hc => exact (ha trivial).elim
  | same hn hv =>
    unfold encode
    split
    · exact (hn rfl).elim
    · rw [if_neg (mt (accepts_iff_admits hs hv hn).1 ha)]

end Strategy

namespace Heap

variable {h h' : Heap} {b : Bundle} {key : String} {v : Value}

/-- Only a bundle that is there has entries. -/
lemma index_lt_of_get? (hv : h.get? b key = some v) : b.index < h.cells.length := by
  by_contra hn
  unfold get? entries at hv
  rw [List.getElem?_eq_none (Nat.le_of_not_lt hn)] at hv
  cases hv

/-- Nothing shows of a value that is written where it is already. -/
lemma Puts.get?_eq_of_get? (hp : h.Puts h' b key v) (hv : h.get? b key = some v) (b' : Bundle)
    (key' : String) : h'.get? b' key' = h.get? b' key' := by
  by_cases hb : b' = b
  · subst hb
    rw [hp.get?_eq]
    split
    · next hk => rw [hk, hv]
    · rfl
  · unfold get?
    rw [hp.others_eq b' hb]

end Heap

namespace Instance

variable {c : BoundType} {t : Template} {m : Member} {a : MemberAccessors} {x : Method} {w : World}
  {b : Bundle} {v : Value}

/-- What is read is what the getters answer that answer null or throw. -/
lemma answer_getter_of_read (hg : t.generate = .ok c.type) (hm : m ∈ t.members)
    (ha : m.accessors t = .ok a) (hx : x ∈ a.getters)
    (hv : x.variant? = some .null ∨ x.variant? = some .throw)
    (hr : (mk c b).read w t m a.strategy = .ok (some v)) :
    (mk c b).answer w ⟨x.name, []⟩ = .ok (.value (some v)) := by
  obtain ⟨d, f, -, -, -, hb⟩ := Member.exists_fallback ha hx
  rw [answer_getter hg hm ha hx hb, hr]
  rw [Method.variant?, hb, Option.some_inj, Option.some_inj, Fallback.variant_eq_null,
    Fallback.variant_eq_throw] at hv
  obtain rfl | rfl := hv <;> rfl

/-- A call that means a setter of the member stores what the argument becomes. -/
lemma invoke_setter (ha : m.accessors t = .ok a) (hx : x ∈ a.setters)
    (hd : c.instanceMethod x.name 1 = .ok x) :
    (mk c b).invoke w x.name [v] = (do
      let stored ← a.strategy.encode c.classes x.name m.declaredType v
      let heap ← w.heap.put b (m.key t) stored
      return (.receiver, { w with heap })) := by
  rw [invoke_eq_run hd]
  obtain ⟨_, -, rfl⟩ := (Member.mem_setters ha).1 hx
  rw [run_setter rfl rfl]
  rfl

/-- A setter that is called with what has been read changes nothing that shows. -/
lemma get?_after_setter {stored} (ha : m.accessors t = .ok a) (hx : x ∈ a.setters)
    (hd : c.instanceMethod x.name 1 = .ok x) (hs : w.heap.get? b (m.key t) = some stored)
    (he : ∀ stored', a.strategy.encode c.classes x.name m.declaredType v = .ok stored' →
      stored' = stored) (b' : Bundle) (key : String) :
    ((mk c b).after w ⟨x.name, [v]⟩).heap.get? b' key = w.heap.get? b' key := by
  unfold after
  split
  · next r w' hr =>
    rw [invoke_setter ha hx hd] at hr
    obtain ⟨stored', he', hr⟩ := Except.bind_eq_ok.1 hr
    obtain ⟨heap, hput, hr⟩ := Except.bind_eq_ok.1 hr
    cases hr
    obtain rfl := he stored' he'
    exact (Heap.puts_of_put hput (Heap.index_lt_of_get? hs)).get?_eq_of_get? hs b' key
  · rfl

end Instance

/-- What has been read can be written back, unless it holds an object that is not of the class that
the member declares for it. It is then stored as it was, and otherwise it is refused. In neither
case does a setter of the member change anything that shows in a bundle. -/
theorem Template.write_back {t : Template} {c : BoundType} {m : Member}
    (hg : t.generate = .ok c.type) (hm : m ∈ t.members) :
    ∃ a, m.accessors t = .ok a ∧ ∀ (w : World) (b : Bundle) (stored v : Value),
      w.heap.get? b (m.key t) = some stored →
      a.strategy.decode m.declaredType (some stored) = .ok (some v) →
      (∀ x ∈ a.getters, x.variant? = some .null ∨ x.variant? = some .throw →
        (Instance.mk c b).answer w ⟨x.name, []⟩ = .ok (.value (some v))) ∧
      (∀ name, (a.strategy.Admits c.classes m.declaredType v →
          a.strategy.encode c.classes name m.declaredType v = .ok stored) ∧
        (¬ a.strategy.Admits c.classes m.declaredType v →
          a.strategy.encode c.classes name m.declaredType v =
            .error (Strategy.refusal name m.declaredType v))) ∧
      ∀ x ∈ a.setters, c.instanceMethod x.name 1 = .ok x →
        (a.strategy.Admits c.classes m.declaredType v → b ≠ .empty →
          ∃ w', (Instance.mk c b).invoke w x.name [v] = .ok (.receiver, w')) ∧
        (¬ a.strategy.Admits c.classes m.declaredType v →
          (Instance.mk c b).invoke w x.name [v] =
            .error (Strategy.refusal x.name m.declaredType v)) ∧
        ∀ b' key, ((Instance.mk c b).after w ⟨x.name, [v]⟩).heap.get? b' key =
          w.heap.get? b' key := by
  have hsound := (generate_eq_ok.1 hg).1.1
  obtain ⟨a, ha⟩ := Member.exists_accessors.2 ⟨hsound.storable m hm, hsound.reachable m hm⟩
  refine ⟨a, ha, fun w b stored v hstored hd => ?_⟩
  have hs := (Member.member_of_accessors ha).2.2
  have hok : ∀ name, a.strategy.Admits c.classes m.declaredType v →
      a.strategy.encode c.classes name m.declaredType v = .ok stored :=
    fun name => Strategy.encode_eq_ok_of_decode hs hd
  have herr : ∀ name, ¬ a.strategy.Admits c.classes m.declaredType v →
      a.strategy.encode c.classes name m.declaredType v =
        .error (Strategy.refusal name m.declaredType v) :=
    fun name => Strategy.encode_eq_error_of_decode hs hd
  refine ⟨fun x hx hv => ?_, fun name => ⟨hok name, herr name⟩, fun x hx hmeans => ⟨?_, ?_, ?_⟩⟩
  · refine Instance.answer_getter_of_read hg hm ha hx hv ?_
    unfold Instance.read
    rw [hstored]
    exact hd
  · intro hadm hb
    obtain ⟨heap, hput⟩ := w.heap.exists_put (m.key t) stored (Bundle.index_ne_zero hb)
    refine ⟨{ w with heap }, ?_⟩
    rw [Instance.invoke_setter ha hx hmeans, hok x.name hadm]
    change (w.heap.put b (m.key t) stored >>= _) = _
    rw [hput]
    rfl
  · intro hadm
    rw [Instance.invoke_setter ha hx hmeans, herr x.name hadm]
    rfl
  · refine Instance.get?_after_setter ha hx hmeans hstored fun stored' he => ?_
    by_cases hadm : a.strategy.Admits c.classes m.declaredType v
    · rw [hok x.name hadm] at he
      exact (Except.ok.inj he).symm
    · rw [herr x.name hadm] at he
      cases he

/-- A bundle that holds the name of a constant under the key of the member. -/
def Settings.stored : World where
  heap := ⟨[{}, ⟨[(mode.key template, .string "ON")]⟩], List.cons_ne_nil _ _⟩

/-- A constant is stored by name, read as a constant and stored by the same name again. -/
theorem Settings.encode_mode :
    Settings.template.generate = .ok Settings.bound.type ∧
      Settings.stored.heap.get? ⟨1⟩ (Settings.mode.key Settings.template) = some (.string "ON") ∧
      Strategy.decode Settings.mode.declaredType .enum (some (.string "ON")) =
        .ok (some (.enum "com.example.Mode" "ON")) ∧
      (Instance.mk Settings.bound ⟨1⟩).answer Settings.stored ⟨Settings.getMode.name, []⟩ =
        .ok (.value (some (.enum "com.example.Mode" "ON"))) ∧
      ∀ b' key, ((Instance.mk Settings.bound ⟨1⟩).after Settings.stored
        ⟨Settings.setMode.name, [.enum "com.example.Mode" "ON"]⟩).heap.get? b' key =
          Settings.stored.heap.get? b' key := by
  obtain ⟨a, ha, h⟩ := Template.write_back (m := Settings.mode) Settings.generate_template
    List.mem_cons_self
  obtain rfl := Except.ok.inj (Settings.accessors_mode.symm.trans ha)
  have hs : Settings.stored.heap.get? ⟨1⟩ (Settings.mode.key Settings.template) =
      some (.string "ON") := by decide +kernel
  obtain ⟨hget, -, hset⟩ := h Settings.stored ⟨1⟩ _ _ hs rfl
  refine ⟨Settings.generate_template, hs, rfl, ?_, ?_⟩
  · exact hget _ Settings.getMode_mem (.inl rfl)
  · exact (hset _ List.mem_cons_self Settings.instanceMethod_setMode).2.2

namespace Parcels

/-- The member that holds an object of a class. -/
def child : Member where
  declaredName := "child"
  declaredType := { name := "com.example.Child", supertypes := ⟨[Platform.parcelable]⟩ }

/-- The template of the member. -/
def template : Template where
  className := "com.example.ParcelInfo"
  outputName := "Parcels"
  members := [child]

/-- The accessors of the object. -/
def accessors : MemberAccessors :=
  .ofParts child (.ofMember template child) .object none

/-- Two classes of parcelable objects, neither of which is above the other. -/
def classes : ClassTable :=
  .declareAll ⟨{}⟩ [
    { name := Platform.parcelable, kind := .interface },
    { name := "com.example.Child", interfaces := [Platform.parcelable] },
    { name := "com.example.Stranger", interfaces := [Platform.parcelable] }]

/-- The type of the template. -/
def bound : BoundType where
  type := .ofAccessors template [accessors]
  classes := classes

/-- An object of another class. -/
def stranger : Value := .parcelable ⟨"com.example.Stranger", "1"⟩

/-- A bundle that holds the object under the key of the member. -/
def world : World where
  heap := ⟨[{}, ⟨[(child.key template, stranger)]⟩], List.cons_ne_nil _ _⟩

/-- The setter of the object. -/
def setChild : Method :=
  MemberAccessors.setter child (.ofMember template child) .object
    (Identifier.accessor "with" "child")

/-- The getter of the object that answers null. -/
def getChild : Method :=
  MemberAccessors.getter child (.ofMember template child) .object
    (Identifier.accessor "get" "child") true .orNull

/-- The accessors of the member. -/
lemma accessors_child : child.accessors template = .ok accessors :=
  Member.accessors_eq_ok.2 ⟨.object, none, by decide +kernel, rfl, rfl⟩

/-- The template generates the type. -/
lemma generate_template : template.generate = .ok bound.type := by
  rw [Template.generate_eq_ok]
  refine ⟨⟨⟨by decide +kernel, ?_, ?_⟩, by decide +kernel⟩, _, .cons accessors_child .nil, rfl⟩
  · unfold Member.IsStorable
    decide +kernel
  · unfold Member.IsReachable
    decide

end Parcels

/-- An object of another class is read, and it is refused when it is written back. -/
theorem Parcels.refused_stranger :
    Parcels.template.generate = .ok Parcels.bound.type ∧
      Parcels.child ∈ Parcels.template.members ∧
      Parcels.child.accessors Parcels.template = .ok Parcels.accessors ∧
      Parcels.accessors.strategy.decode Parcels.child.declaredType
          (Parcels.world.heap.get? ⟨1⟩ (Parcels.child.key Parcels.template)) =
        .ok (some Parcels.stranger) ∧
      (Instance.mk Parcels.bound ⟨1⟩).answer Parcels.world ⟨Parcels.getChild.name, []⟩ =
        .ok (.value (some Parcels.stranger)) ∧
      (¬ ∃ stored, Parcels.accessors.strategy.encode Parcels.bound.classes Parcels.setChild.name
        Parcels.child.declaredType Parcels.stranger = .ok stored) ∧
      (Instance.mk Parcels.bound ⟨1⟩).answer Parcels.world
          ⟨Parcels.setChild.name, [Parcels.stranger]⟩ =
        .error (Strategy.refusal Parcels.setChild.name Parcels.child.declaredType
          Parcels.stranger) := by
  have hm : Parcels.child ∈ Parcels.template.members := List.mem_cons_self
  have hr : (Instance.mk Parcels.bound ⟨1⟩).read Parcels.world Parcels.template Parcels.child
      Parcels.accessors.strategy = .ok (some Parcels.stranger) := rfl
  have he : Parcels.accessors.strategy.encode Parcels.bound.classes Parcels.setChild.name
      Parcels.child.declaredType Parcels.stranger =
        .error (Strategy.refusal Parcels.setChild.name Parcels.child.declaredType
          Parcels.stranger) := by decide +kernel
  have hmeans : Parcels.bound.instanceMethod Parcels.setChild.name 1 = .ok Parcels.setChild :=
    BoundType.instanceMethod_eq_ok.2 (List.find?_cons_of_pos (by decide +kernel))
  refine ⟨Parcels.generate_template, hm, Parcels.accessors_child, hr, ?_, ?_, ?_⟩
  · exact Instance.answer_getter_of_read Parcels.generate_template hm Parcels.accessors_child
      List.mem_cons_self (.inl rfl) hr
  · rw [he]
    rintro ⟨stored, h⟩
    cases h
  · have hi := Instance.invoke_setter (b := ⟨1⟩) (w := Parcels.world) (v := Parcels.stranger)
      (x := Parcels.setChild) Parcels.accessors_child List.mem_cons_self hmeans
    unfold Instance.answer
    rw [hi, he]
    rfl

end TypedBundle
