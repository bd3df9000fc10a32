import Mathlib.Tactic.Lemma
import TypedBundle.Command.Commands

/-!
# What commands do to files

A command on the machine in memory prints and reports on its way. What it gives and what becomes of
the files does not depend on that: `Machine.Runs` leaves it out. Generating sources writes them in
turn, and its result tells of the templates that failed.
-/

namespace TypedBundle

open Command

namespace Machine

variable {α β : Type} {t t₁ t₂ : FileTree} {manifest? : String → Option Manifest}

/-- Whatever has been printed and reported, the command gives the result and turns the one file tree
into the other. -/
def Runs (x : Run (StateM Machine) α) (t : FileTree) (r : Except String α) (t' : FileTree) : Prop :=
  ∀ s : Machine, s.tree = t → ∃ s', x.run s = (r, s') ∧ s'.tree = t'

/-- A step hands its result and the machine to the next. -/
lemma run_bind {x : Run (StateM Machine) α} {f : α → Run (StateM Machine) β} {s a s'}
    (h : x.run s = (.ok a, s')) : (x >>= f).run s = (f a).run s' := by
  rw [ExceptT.run_bind]
  change StateT.bind x.run _ s = _
  unfold StateT.bind
  rw [h]
  rfl

namespace Runs

/-- A result at hand. -/
lemma pure {a : α} : Runs (pure a) t (.ok a) t := fun s h => ⟨s, rfl, h⟩

/-- One step after another. -/
lemma bind {x : Run (StateM Machine) α} {f : α → Run (StateM Machine) β} {a r}
    (hx : Runs x t (.ok a) t₁) (hf : Runs (f a) t₁ r t₂) : Runs (x >>= f) t r t₂ := by
  intro s hs
  obtain ⟨s₁, h₁, hs₁⟩ := hx s hs
  rw [run_bind h₁]
  exact hf s₁ hs₁

/-- A step outside, whose result depends on no more than the files. -/
lemma lift {x : StateM Machine α} {a}
    (h : ∀ s : Machine, s.tree = t → ∃ s', x.run s = (a, s') ∧ s'.tree = t₁) :
    Runs (liftM x) t (.ok a) t₁ := by
  intro s hs
  obtain ⟨s', hx, hs'⟩ := h s hs
  refine ⟨s', ?_, hs'⟩
  change StateT.map Except.ok x s = _
  unfold StateT.map
  rw [show x s = (a, s') from hx]
  rfl

/-- A change of the files that can be made is made. -/
lemma change {f : FileTree → Option FileTree} (h : f t = some t₁) :
    Runs (liftM (change f)) t (.ok true) t₁ := by
  apply lift
  rintro s rfl
  refine ⟨{ s with tree := t₁ }, ?_, rfl⟩
  simp [Machine.change, h]
  rfl

/-- A directory that can be made is made. -/
lemma makeDirectories {path} (h : t.makeDirectories path = some t₁) :
    Runs (liftM ((system manifest?).makeDirectories path)) t (.ok true) t₁ :=
  change (f := (·.makeDirectories path)) h

/-- A file that can be written is written. -/
lemma write {path text} (h : t.write path text = some t₁) :
    Runs (liftM ((system manifest?).write path text)) t (.ok true) t₁ :=
  change (f := (·.write path text)) h

/-- Printing leaves the files alone. -/
lemma print {text} : Runs (liftM ((system manifest?).print text)) t (.ok ()) t :=
  lift fun _ hs => ⟨_, rfl, hs⟩

/-- So does taking note of events. -/
lemma report {es} : Runs (liftM ((system manifest?).report es)) t (.ok ()) t :=
  lift fun _ hs => ⟨_, rfl, hs⟩

/-- A file is read as it is. -/
lemma read {path} : Runs (liftM ((system manifest?).read path)) t (.ok (t.read? path)) t :=
  lift fun s hs => ⟨s, by rw [← hs]; rfl, hs⟩

/-- What follows the count of warnings, if it does not depend on the count. -/
lemma warningCount_bind {f : Nat → Run (StateM Machine) β} {r}
    (hf : ∀ n, Runs (f n) t r t₁) : Runs (liftM (system manifest?).warningCount >>= f) t r t₁ := by
  intro s hs
  have h : (liftM (system manifest?).warningCount : Run (StateM Machine) Nat).run s =
      (.ok (s.sink.count .warn), s) := rfl
  rw [run_bind h]
  exact hf _ s hs

/-- Printing lines leaves the files alone. -/
lemma forIn_print {paths : List String} {line : String → String} :
    Runs (forIn paths PUnit.unit fun path _ => do
      liftM ((system manifest?).print (line path))
      Pure.pure (.yield PUnit.unit)) t (.ok PUnit.unit) t := by
  induction paths with
  | nil => exact pure
  | cons path rest ih =>
    rw [List.forIn_cons, bind_assoc]
    exact bind print ih

end Runs

end Machine

namespace Command

open Machine

/-- The files after the sources of types are written in turn, if every write is accepted. -/
def writeAll (output : String) (config : OutputConfig) (t : FileTree) :
    List AccessorType → Option FileTree
  | [] => some t
  | g :: rest => do
    let t ← t.makeDirectories (packageDirectory output g)
    let t ← t.write (sourcePath output config g) (Kotlin.source g config)
    writeAll output config t rest

variable {t t₁ t₂ : FileTree} {output : String} {config : OutputConfig}
  {manifest? : String → Option Manifest}

/-- Sources are written in turn, and their paths are given. -/
lemma runs_writeSources {gs : List AccessorType} (h : writeAll output config t gs = some t₁) :
    Runs (gs.mapM (writeSource (system manifest?) output config)) t
      (.ok (gs.map (sourcePath output config))) t₁ := by
  induction gs generalizing t with
  | nil =>
    cases h
    exact .pure
  | cons g rest ih =>
    obtain ⟨t', hd, h⟩ := Option.bind_eq_some_iff.1 h
    obtain ⟨t'', hw, h⟩ := Option.bind_eq_some_iff.1 h
    have hg : Runs (writeSource (system manifest?) output config g) t
        (.ok (sourcePath output config g)) t'' :=
      .bind (.makeDirectories hd) (.bind (.write hw) .pure)
    rw [List.mapM_cons]
    exact .bind hg (.bind (ih h) .pure)

/-- A manifest that can be read and holds is loaded. -/
lemma runs_load {input source m} (hr : t.read? input = some source)
    (hm : manifest? source = some m) : Runs (load (system manifest?) input) t (.ok m) t := by
  have hm : (system manifest?).manifest? source = some m := hm
  unfold load
  refine .bind .read ?_
  simp only [hr, hm]
  exact .pure

/-- The command ends with the summary of the templates that failed, if there is one. -/
lemma runs_ensureSuccess {α : Type} {g : Generation} {a : α} :
    Runs (do ensureSuccess g; return a) t (g.failureSummary?.elim (.ok a) .error) t := by
  unfold ensureSuccess
  cases g.failureSummary? with
  | none => exact .bind .pure .pure
  | some summary => exact fun s hs => ⟨s, rfl, hs⟩

/-- If every write is accepted, generating writes the sources of all types. It gives their paths
unless a template failed. -/
lemma runs_generate {input source m} (hr : t.read? input = some source)
    (hm : manifest? source = some m)
    (hw : writeAll output m.config t m.generate.outputs = some t₁) :
    Runs (generate (system manifest?) input output) t
      (m.generate.failureSummary?.elim
        (.ok (m.generate.outputs.map (sourcePath output m.config))) .error) t₁ := by
  unfold generate
  refine .bind .print (.bind (runs_load hr hm) (.bind (.bind .report .pure) ?_))
  refine .bind (runs_writeSources hw) (.bind .forIn_print (.warningCount_bind fun n => ?_))
  exact .bind .print runs_ensureSuccess

end Command

end TypedBundle
