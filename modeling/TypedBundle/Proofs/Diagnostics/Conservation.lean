import Mathlib.Algebra.BigOperators.Group.List.Basic
import Mathlib.Algebra.Ring.Nat
import Mathlib.Tactic.Common
import TypedBundle.Diagnostics.Sink

/-!
# Conservation of diagnostics

Clients share a sink, and what they ask of it is done in some order. A call that takes diagnostics
out takes all of them, and a call that puts one in puts it behind the others
(`Sink.taken_append_records`). So what drains answered and clears discarded, and then what is still
held, are the diagnostics that mattered enough when they were recorded, in that order and each once
(`Sink.records_conserved`).
-/

namespace TypedBundle

/-- A level can be told from its rank. -/
lemma Level.ofRank_rank (l : Level) : ofRank l.rank = l := by
  cases l <;> rfl

namespace Sink

/-- What a client can ask of a sink. -/
inductive Operation where
  | record (d : Diagnostic)
  | setLevel (l : Level)
  | drain
  | clear
  | diagnostics
  | level
  | isEnabled (l : Level)
  | count (l : Level)

/-- What a sink answers. -/
inductive Answer where
  | done
  | diagnostics (ds : List Diagnostic)
  | level (l : Level)
  | enabled (b : Bool)
  | count (n : Nat)

/-- Does at once what is asked. -/
def perform (s : Sink) : Operation → Answer × Sink
  | .record d => (.done, s.record d)
  | .setLevel l => (.done, s.setLevel l)
  | .drain => (.diagnostics s.drain.1, s.drain.2)
  | .clear => (.done, s.clear)
  | .diagnostics => (.diagnostics s.records, s)
  | .level => (.level s.threshold, s)
  | .isEnabled l => (.enabled (s.isEnabled l), s)
  | .count l => (.count (s.count l), s)

/-- The diagnostic that is offered, if one is. -/
def Operation.recorded? : Operation → Option Diagnostic
  | record d => some d
  | _ => none

/-- The level that is set, if one is. -/
def Operation.level? : Operation → Option Level
  | setLevel l => some l
  | _ => none

/-- A call of a client. -/
structure Call (ι : Type) where
  client : ι
  operation : Operation

/-- A call that has been made, with the sink that it met and the answer. -/
structure Made (ι : Type) extends Call ι where
  met : Sink
  answer : Answer

variable {ι : Type}

/-- What the call took out of the sink: a drain answers it, and a clear discards it. -/
def Made.taken (m : Made ι) : List Diagnostic :=
  match m.operation, m.answer with
  | .drain, .diagnostics ds => ds
  | .clear, _ => m.met.records
  | _, _ => []

/-- The call as the sink meets it. -/
def make (s : Sink) (c : Call ι) : Made ι :=
  { c with met := s, answer := (s.perform c.operation).1 }

/-- Calls made in turn, each on the sink that the one before it left. -/
def history (s : Sink) : List (Call ι) → List (Made ι)
  | [] => []
  | c :: cs => s.make c :: (s.perform c.operation).2.history cs

/-- The sink after calls in turn. -/
def after (s : Sink) (cs : List (Call ι)) : Sink :=
  cs.foldl (fun s c => (s.perform c.operation).2) s

/-- The calls are those of the clients' programs, each in its order. -/
def Interleaves [DecidableEq ι] (programs : ι → List Operation) (cs : List (Call ι)) : Prop :=
  ∀ i, (cs.filter (·.client = i)).map Call.operation = programs i

/-- The threshold after calls: the level that was set last, or that of a new sink. -/
def inForce (cs : List (Call ι)) : Level :=
  (cs.filterMap (·.operation.level?)).getLast?.getD .warn

/-- Whether a diagnostic of the level is kept under the threshold. -/
def Matters (threshold l : Level) : Prop := l ≠ .off ∧ threshold.rank ≤ l.rank

instance {threshold l : Level} : Decidable (Matters threshold l) :=
  inferInstanceAs (Decidable (_ ∧ _))

/-- The diagnostic that the call offers, with its client. -/
def Call.recorded? (c : Call ι) : Option (ι × Diagnostic) :=
  c.operation.recorded?.map (c.client, ·)

/-- The diagnostic that the call adds to the sink, if it matters under the threshold. -/
def Call.kept? (threshold : Level) (c : Call ι) : Option (ι × Diagnostic) :=
  c.recorded?.filter (Matters threshold ·.2.level)

/-- The diagnostics that are recorded after some calls and matter when they are. -/
def keptAfter (before : List (Call ι)) : List (Call ι) → List (ι × Diagnostic)
  | [] => []
  | c :: cs => (c.kept? (inForce before)).toList ++ keptAfter (before ++ [c]) cs

/-- What holds of the sink after calls in turn, if it was new before. -/
structure Conserved (cs : List (Call ι)) : Prop where
  taken_append : (history {} cs).flatMap Made.taken ++ (after {} cs).records =
    (keptAfter [] cs).map Prod.snd
  threshold_eq : Level.ofRank (after {} cs).threshold.rank = inForce cs
  sum_count : (Level.all.map (after {} cs).count).sum = (after {} cs).records.length

variable {s : Sink} {c : Call ι} {cs before : List (Call ι)}

/-- The level that a sink asks for is the condition that a diagnostic matters. -/
lemma isEnabled_iff {l} : s.isEnabled l ↔ Matters s.threshold l := by
  have hoff : l != .off ↔ l ≠ .off := by cases l <;> decide
  unfold isEnabled Matters
  rw [Bool.and_eq_true, hoff]
  exact and_congr_right' decide_eq_true_iff

/-- One more call leaves the threshold in force unless it sets one. -/
lemma inForce_concat : inForce (before ++ [c]) = c.operation.level?.getD (inForce before) := by
  unfold inForce
  rw [List.filterMap_append]
  cases h : c.operation.level? <;> simp [h]

/-- A call changes the threshold if it sets one. -/
lemma threshold_perform {o : Operation} :
    (s.perform o).2.threshold = o.level?.getD s.threshold := by
  cases o with
  | record d =>
    change (s.record d).threshold = s.threshold
    unfold record
    split <;> rfl
  | _ => rfl

/-- A call keeps the threshold the one that was set last. -/
lemma threshold_perform_eq_inForce (hs : s.threshold = inForce before) :
    (s.perform c.operation).2.threshold = inForce (before ++ [c]) := by
  rw [threshold_perform, inForce_concat, hs]

/-- What a call takes out and what it leaves are what was held and what it adds. -/
lemma taken_append_records (s : Sink) (c : Call ι) :
    (s.make c).taken ++ (s.perform c.operation).2.records =
      s.records ++ (c.kept? s.threshold).toList.map Prod.snd := by
  obtain ⟨i, o⟩ := c
  cases o with
  | record d =>
    have hk : (⟨i, .record d⟩ : Call ι).kept? s.threshold =
        if Matters s.threshold d.level then some (i, d) else none := by
      simp [Call.kept?, Call.recorded?, Operation.recorded?, Option.filter]
    change (s.record d).records = _
    unfold record
    by_cases hd : Matters s.threshold d.level
    · rw [hk, if_pos (isEnabled_iff.2 hd), if_pos hd]
      rfl
    · rw [hk, if_neg (isEnabled_iff.not.2 hd), if_neg hd]
      exact (List.append_nil _).symm
  | drain | clear => rfl
  | setLevel l | diagnostics | level | isEnabled l | count l => exact (List.append_nil _).symm

/-- What calls take out and what they leave are what was held and what mattered when it was
recorded. -/
lemma flatMap_taken_append_records (hs : s.threshold = inForce before) :
    (s.history cs).flatMap Made.taken ++ (s.after cs).records =
      s.records ++ (keptAfter before cs).map Prod.snd := by
  induction cs generalizing s before with
  | nil => exact (List.append_nil _).symm
  | cons c cs ih =>
    have hc : (s.perform c.operation).2.threshold = inForce (before ++ [c]) :=
      threshold_perform_eq_inForce hs
    calc ((s.make c).taken ++ ((s.perform c.operation).2.history cs).flatMap Made.taken) ++
          ((s.perform c.operation).2.after cs).records
        = ((s.make c).taken ++ (s.perform c.operation).2.records) ++
            (keptAfter (before ++ [c]) cs).map Prod.snd := by
          rw [List.append_assoc, ih hc, List.append_assoc]
      _ = s.records ++ (keptAfter before (c :: cs)).map Prod.snd := by
          rw [taken_append_records, hs, List.append_assoc, keptAfter, List.map_append]

/-- After calls in turn the threshold is the one that was set last. -/
lemma threshold_after (hs : s.threshold = inForce before) :
    (s.after cs).threshold = inForce (before ++ cs) := by
  induction cs generalizing s before with
  | nil => simpa [after] using hs
  | cons c cs ih =>
    rw [List.append_cons]
    exact ih (threshold_perform_eq_inForce hs)

/-- Each diagnostic has one level. -/
lemma sum_countP_level (ds : List Diagnostic) :
    (Level.all.map fun l => ds.countP (·.level == l)).sum = ds.length := by
  induction ds with
  | nil => rfl
  | cons d ds ih =>
    have hd : (Level.all.map fun l => if d.level == l then 1 else 0).sum = 1 := by
      cases d.level <;> rfl
    simp only [List.countP_cons, List.sum_map_add, ih, hd, List.length_cons]

/-- Calls in turn conserve what is recorded. -/
lemma conserved (cs : List (Call ι)) : Conserved cs where
  taken_append := flatMap_taken_append_records rfl
  threshold_eq := by
    have ht : (after {} cs).threshold = inForce ([] ++ cs) := threshold_after rfl
    rw [Level.ofRank_rank, ht, List.nil_append]
  sum_count := sum_countP_level _

/-- What is kept was recorded, in the same order. -/
lemma keptAfter_sublist : (keptAfter before cs).Sublist (cs.filterMap Call.recorded?) := by
  induction cs generalizing before with
  | nil => exact .slnil
  | cons c cs ih =>
    rw [List.filterMap_cons, keptAfter, Call.kept?]
    cases c.recorded? with
    | none => exact ih
    | some r =>
      rw [Option.filter]
      split
      · exact ih.cons_cons _
      · exact ih.cons _

/-- A client offers what its program says. -/
lemma map_filter_recorded [DecidableEq ι] (cs : List (Call ι)) (i : ι) :
    ((cs.filterMap Call.recorded?).filter (·.1 = i)).map Prod.snd =
      ((cs.filter (·.client = i)).map Call.operation).filterMap Operation.recorded? := by
  induction cs with
  | nil => rfl
  | cons c cs ih =>
    obtain ⟨j, o⟩ := c
    cases ho : o.recorded? <;> by_cases hj : j = i <;>
      simp [Call.recorded?, ho, hj, ih]

/-- At every point of every run in which clients share a new sink, what has been drained or cleared
so far and what is held are together what was recorded and mattered under the threshold in force, in
the order of recording, and so the diagnostics of each client in the order of its program. The
numbers of held diagnostics by level make up the number of all. -/
theorem records_conserved [DecidableEq ι] {programs : ι → List Operation}
    (h : Interleaves programs cs) (n : Nat) :
    Conserved (cs.take n) ∧
    ∀ i, (((keptAfter [] (cs.take n)).filter (·.1 = i)).map Prod.snd).Sublist
      ((programs i).filterMap Operation.recorded?) := by
  refine ⟨conserved _, fun i => ?_⟩
  rw [← h i, ← map_filter_recorded]
  exact ((keptAfter_sublist.trans ((List.take_sublist n cs).filterMap _)).filter _).map _

namespace Shared

/-- A diagnostic of the level. -/
def note (level : Level) (message : String) : Diagnostic := { level, target := "shared", message }

/-- One client drains what it has recorded, while the other raises the threshold and clears. -/
def programs : Bool → List Operation
  | false => [.record (note .warn "a"), .drain, .record (note .warn "c"), .record (note .error "e")]
  | true =>
    [.record (note .info "b"), .setLevel .error, .record (note .error "d"), .clear,
      .record (note .off "f"), .count .error]

/-- One of the orders in which the calls can be made. -/
def calls : List (Call Bool) :=
  [⟨false, .record (note .warn "a")⟩, ⟨true, .record (note .info "b")⟩, ⟨false, .drain⟩,
    ⟨true, .setLevel .error⟩, ⟨false, .record (note .warn "c")⟩, ⟨true, .record (note .error "d")⟩,
    ⟨true, .clear⟩, ⟨false, .record (note .error "e")⟩, ⟨true, .record (note .off "f")⟩,
    ⟨true, .count .error⟩]

/-- One of the three that matter is drained, one is cleared, and one is held. -/
theorem kept_calls : Interleaves programs calls ∧
    [note .warn "a", note .error "d"] ++ [note .error "e"] =
      (keptAfter [] calls).map Prod.snd := by
  have hi : Interleaves programs calls := by
    intro i
    cases i <;> rfl
  exact ⟨hi, (records_conserved hi 10).1.taken_append⟩

end Shared

end Sink

end TypedBundle
