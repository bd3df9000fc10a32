import Mathlib.Data.Finset.Card
import Mathlib.Data.Finset.Prod
import Mathlib.Logic.Relation
import TypedBundle.Bundle.Heap
import TypedBundle.Proofs.Instance.Session

/-!
# When a comparison ends

Comparing two bundles asks whether bundles in them are equal, if everything before these is
(`Heap.Nests`). There is an answer unless that leads back to a pair that is being compared already
(`Heap.comparison_ends_iff`): a comparison that has no answer at some depth goes down a path of that
length, and a path that is longer than there are pairs of cells meets a pair twice. Only bundles
with self-containing bundles in them can be compared in a circle, and if both are, they can
(`Mirrors.not_ends`).
-/

namespace TypedBundle

namespace Value

/-- Values compare as bundles do if they are bundles, and otherwise no bundle matters. -/
lemma equalWith_cases (v w : Value) :
    (∃ c d, v = .bundle c ∧ w = .bundle d) ∨ ∃ r, ∀ same, equalWith same v w = some r := by
  cases v with
  | bundle c =>
    cases w with
    | bundle d => exact .inl ⟨c, d, rfl, rfl⟩
    | _ => exact .inr ⟨_, fun _ => rfl⟩
  | float | double | floatArray | doubleArray => cases w <;> exact .inr ⟨_, fun _ => rfl⟩
  | _ => exact .inr ⟨_, fun _ => rfl⟩

/-- An answer about values stays if the answers about bundles do. -/
lemma equalWith_mono {same same' : Bundle → Bundle → Option Bool} {v w : Value} {r : Bool}
    (hs : ∀ a b r, same a b = some r → same' a b = some r) (h : equalWith same v w = some r) :
    equalWith same' v w = some r := by
  obtain ⟨c, d, rfl, rfl⟩ | ⟨r', hr⟩ := equalWith_cases v w
  · exact hs c d r h
  · rw [hr] at h ⊢
    exact h

/-- Values that do not compare are bundles that do not. -/
lemma equalWith_eq_none {same : Bundle → Bundle → Option Bool} {v w : Value} :
    equalWith same v w = none ↔ ∃ c d, v = .bundle c ∧ w = .bundle d ∧ same c d = none := by
  constructor
  · intro h
    obtain ⟨c, d, rfl, rfl⟩ | ⟨r, hr⟩ := equalWith_cases v w
    · exact ⟨c, d, rfl, rfl, h⟩
    · rw [hr] at h
      cases h
  · rintro ⟨c, d, rfl, rfl, h⟩
    exact h

end Value

namespace Heap

/-- The comparison of the bundles has an answer after finitely many nested comparisons. -/
def Ends (h : Heap) (a b : Bundle) : Prop := ∃ depth r, h.equalWithin depth a b = some r

/-- The entries are equal in pairs. -/
def Agree (h : Heap) (as bs : List (String × Value)) : Prop :=
  ∃ depth, equalPairs (Value.equalWith (h.equalWithin depth)) as bs = some true

/-- Comparing the first two bundles asks whether the other two are equal. -/
inductive Nests (h : Heap) : Bundle × Bundle → Bundle × Bundle → Prop where
  | intro {a b c d key before before' after after'} :
    a ≠ b →
    (h.entries a).toList.length = (h.entries b).toList.length →
    (h.entries a).toList = before ++ (key, .bundle c) :: after →
    (h.entries b).toList = before' ++ (key, .bundle d) :: after' →
    h.Agree before before' →
    Nests h (a, b) (c, d)

/-- Comparing the bundles leads to a comparison that asks for itself. -/
def Circles (h : Heap) (a b : Bundle) : Prop :=
  ∃ p, Relation.ReflTransGen h.Nests (a, b) p ∧ Relation.TransGen h.Nests p p

/-- The second bundle is the value of an entry of the first. -/
def Contains (h : Heap) (a c : Bundle) : Prop := ∃ key, (key, .bundle c) ∈ (h.entries a).toList

/-- There is a bundle within reach that contains itself, maybe by way of others. -/
def HoldsCycle (h : Heap) (a : Bundle) : Prop :=
  ∃ c, Relation.ReflTransGen h.Contains a c ∧ Relation.TransGen h.Contains c c

section EqualPairs

variable {same same' : Value → Value → Option Bool} {as bs before before' : List (String × Value)}
  {k k' : String} {v w : Value} {r : Bool}

/-- Values under one key are compared, and then, if they are equal, the rest. -/
lemma equalPairs_cons : equalPairs same ((k, v) :: as) ((k, w) :: bs) =
    (same v w).bind fun r => if r then equalPairs same as bs else some false := by
  rw [equalPairs, if_pos rfl]
  match same v w with
  | none | some true | some false => rfl

/-- Entries under different keys are not equal. -/
lemma equalPairs_cons_of_ne (hk : k ≠ k') :
    equalPairs same ((k, v) :: as) ((k', w) :: bs) = some false :=
  if_neg hk

/-- After entries that agree the comparison goes on. -/
lemma equalPairs_append (h : equalPairs same before before' = some true) :
    equalPairs same (before ++ as) (before' ++ bs) = equalPairs same as bs := by
  fun_induction equalPairs same before before' with
  | case1 => rfl
  | case2 v ps k w qs hv ih =>
    rw [List.cons_append, List.cons_append, equalPairs_cons, hv]
    exact ih h
  | case3 v ps k w qs hv => exact (hv h).elim
  | case4 | case5 => cases h

/-- An answer about entries stays if the answers about values do. -/
lemma equalPairs_mono (hs : ∀ v w r, same v w = some r → same' v w = some r)
    (h : equalPairs same as bs = some r) : equalPairs same' as bs = some r := by
  fun_induction equalPairs same as bs with
  | case1 => exact h
  | case2 v ps k w qs hv ih =>
    rw [equalPairs_cons, hs v w true hv]
    exact ih h
  | case3 v ps k w qs hv =>
    rw [equalPairs_cons, hs v w r h]
    cases r with
    | false => rfl
    | true => exact (hv h).elim
  | case4 k v ps k' w qs hk => exact (equalPairs_cons_of_ne hk).trans h
  | case5 as bs h0 h1 =>
    match as, bs with
    | [], [] => exact (h0 rfl rfl).elim
    | [], _ :: _ | _ :: _, [] => exact h
    | (k, v) :: ps, (k', w) :: qs => exact (h1 k v ps k' w qs rfl rfl).elim

/-- Entries that do not compare are alike up to the first values that do not. -/
lemma equalPairs_eq_none (h : equalPairs same as bs = none) :
    ∃ before before' k v w after after', as = before ++ (k, v) :: after ∧
      bs = before' ++ (k, w) :: after' ∧ equalPairs same before before' = some true ∧
      same v w = none := by
  fun_induction equalPairs same as bs with
  | case2 v ps k w qs hv ih =>
    obtain ⟨before, before', j, x, y, after, after', rfl, rfl, hb, hxy⟩ := ih h
    refine ⟨(k, v) :: before, (k, w) :: before', j, x, y, after, after', rfl, rfl, ?_, hxy⟩
    rw [equalPairs_cons, hv]
    exact hb
  | case3 v ps k w qs hv => exact ⟨[], [], k, v, w, ps, qs, rfl, rfl, rfl, h⟩
  | case1 | case4 | case5 => cases h

/-- What agrees in some way agrees in another one if the two do not contradict each other and there
is an answer. -/
lemma equalPairs_eq_true_of_append
    (hs : ∀ v w r r', same v w = some r → same' v w = some r' → r = r')
    (hb : equalPairs same' before before' = some true)
    (h : equalPairs same (before ++ as) (before' ++ bs) = some r) :
    equalPairs same before before' = some true := by
  fun_induction equalPairs same' before before' with
  | case1 => rfl
  | case2 v ps k w qs hv ih =>
    rw [List.cons_append, List.cons_append, equalPairs_cons] at h
    obtain ⟨x, hx, h⟩ := Option.bind_eq_some_iff.1 h
    obtain rfl := hs v w x true hx hv
    rw [equalPairs_cons, hx]
    exact ih hb h
  | case3 v ps k w qs hv => exact (hv hb).elim
  | case4 | case5 => cases hb

/-- Entries that agree are as many on either side. -/
lemma length_eq_of_equalPairs (h : equalPairs same as bs = some true) : as.length = bs.length := by
  fun_induction equalPairs same as bs with
  | case1 => rfl
  | case2 v ps k w qs hv ih => simpa using ih h
  | case3 v ps k w qs hv => exact (hv h).elim
  | case4 | case5 => cases h

end EqualPairs

variable {h : Heap} {a b c d : Bundle} {p q : Bundle × Bundle} {n m : Nat} {r r' : Bool}

/-- A bundle equals itself at every depth. -/
lemma equalWithin_self : h.equalWithin (n + 1) a a = some true := if_pos rfl

/-- An answer stays the same at a greater depth. The induction is on the depth, since a comparison
asks for others at a lesser one. -/
lemma equalWithin_mono (hr : h.equalWithin n a b = some r) (hnm : n ≤ m) :
    h.equalWithin m a b = some r := by
  induction n generalizing m a b r with
  | zero => cases hr
  | succ n ih =>
    obtain ⟨m, rfl⟩ := Nat.exists_eq_add_of_le' (Nat.le_trans (Nat.succ_pos n) hnm)
    have hle : n ≤ m := Nat.le_of_succ_le_succ hnm
    rw [equalWithin] at hr ⊢
    split at hr
    · next hab => rwa [if_pos hab]
    · next hab =>
      rw [if_neg hab]
      dsimp only at hr ⊢
      split at hr
      · next hl => rwa [if_pos hl]
      · next hl =>
        rw [if_neg hl]
        exact equalPairs_mono (fun v w r => Value.equalWith_mono fun a b r hr => ih hr hle) hr

/-- There is one answer at most, at whatever depth. -/
lemma equalWithin_unique (hr : h.equalWithin n a b = some r) (hr' : h.equalWithin m a b = some r') :
    r = r' := by
  have hn := equalWithin_mono hr (Nat.le_max_left n m)
  have hm := equalWithin_mono hr' (Nat.le_max_right n m)
  exact Option.some.inj (hn.symm.trans hm)

/-- A comparison that lacks an answer asks for one that lacks it too. -/
lemma exists_nests (hn : h.equalWithin (n + 1) a b = none) :
    ∃ q, h.Nests (a, b) q ∧ h.equalWithin n q.1 q.2 = none := by
  rw [equalWithin] at hn
  split at hn
  · cases hn
  · next hab =>
    dsimp only at hn
    split at hn
    · cases hn
    · next hl =>
      obtain ⟨before, before', k, v, w, after, after', ha, hb, hag, hvw⟩ := equalPairs_eq_none hn
      obtain ⟨c, d, rfl, rfl, hcd⟩ := Value.equalWith_eq_none.1 hvw
      exact ⟨(c, d), .intro hab (not_not.1 hl) ha hb ⟨n, hag⟩, hcd⟩

/-- A comparison that has an answer had one for what it asks. -/
lemma Nests.exists_answer (hpq : h.Nests p q) (hr : h.equalWithin (n + 1) p.1 p.2 = some r) :
    ∃ r', h.equalWithin n q.1 q.2 = some r' := by
  obtain @⟨a, b, c, d, k, before, before', after, after', hab, hl, ha, hb, depth, hag⟩ := hpq
  rw [equalWithin, if_neg hab] at hr
  dsimp only at hr
  rw [if_neg (not_not.2 hl), ha, hb] at hr
  -- the entries before the two bundles agree at this depth, too
  have hs : ∀ v w r r', Value.equalWith (h.equalWithin n) v w = some r →
      Value.equalWith (h.equalWithin depth) v w = some r' → r = r' := by
    intro v w r r' hv hv'
    obtain ⟨c, d, rfl, rfl⟩ | ⟨x, hx⟩ := Value.equalWith_cases v w
    · exact equalWithin_unique hv hv'
    · rw [hx] at hv hv'
      exact Option.some.inj (hv.symm.trans hv')
  rw [equalPairs_append (equalPairs_eq_true_of_append hs hag hr), equalPairs_cons] at hr
  obtain ⟨r', hr', -⟩ := Option.bind_eq_some_iff.1 hr
  exact ⟨r', hr'⟩

/-- What is asked for on the way has an answer at a lesser depth. -/
lemma exists_lt_of_transGen (hpq : Relation.TransGen h.Nests p q)
    (hr : h.equalWithin n p.1 p.2 = some r) : ∃ m < n, ∃ r', h.equalWithin m q.1 q.2 = some r' := by
  induction hpq using Relation.TransGen.head_induction_on generalizing n r with
  | single hpq =>
    cases n with
    | zero => cases hr
    | succ n => exact ⟨n, Nat.lt_succ_self n, hpq.exists_answer hr⟩
  | head hpq _ ih =>
    cases n with
    | zero => cases hr
    | succ n =>
      obtain ⟨r', hr'⟩ := hpq.exists_answer hr
      obtain ⟨m, hm, hq⟩ := ih hr'
      exact ⟨m, Nat.lt_succ_of_lt hm, hq⟩

/-- A comparison that asks for itself has no answer at any depth. -/
lemma eq_none_of_transGen (hp : Relation.TransGen h.Nests p p) (n : Nat) :
    h.equalWithin n p.1 p.2 = none := by
  induction n using Nat.strong_induction_on with
  | _ n ih =>
    by_contra hn
    obtain ⟨r, hr⟩ := Option.ne_none_iff_exists'.1 hn
    obtain ⟨m, hm, r', hr'⟩ := exists_lt_of_transGen hp hr
    rw [ih m hm] at hr'
    cases hr'

/-- A comparison that leads to a circle has no answer at any depth. -/
lemma Circles.eq_none (hc : h.Circles a b) (n : Nat) : h.equalWithin n a b = none := by
  obtain ⟨p, hap, hp⟩ := hc
  obtain rfl | hap := Relation.reflTransGen_iff_eq_or_transGen.1 hap
  · exact eq_none_of_transGen hp n
  · by_contra hn
    obtain ⟨r, hr⟩ := Option.ne_none_iff_exists'.1 hn
    obtain ⟨m, -, r', hr'⟩ := exists_lt_of_transGen hap hr
    rw [eq_none_of_transGen hp m] at hr'
    cases hr'

/-- Only bundles that exist have entries. -/
lemma index_lt_of_entries {x es es'} (he : (h.entries a).toList = es ++ x :: es') :
    a.index < h.cells.length := by
  by_contra hn
  have hnone : h.entries a = {} := by
    unfold entries
    rw [List.getElem?_eq_none (Nat.le_of_not_lt hn)]
    rfl
  rw [hnone] at he
  exact List.append_ne_nil_of_right_ne_nil es (List.cons_ne_nil x es') he.symm

/-- So both bundles exist when their comparison asks for another. -/
lemma Nests.index_lt (hpq : h.Nests p q) :
    p.1.index < h.cells.length ∧ p.2.index < h.cells.length := by
  obtain ⟨-, -, ha, hb, -⟩ := hpq
  exact ⟨index_lt_of_entries ha, index_lt_of_entries hb⟩

/-- Without an answer within the depth the comparison goes down as far. -/
lemma exists_path (hn : h.equalWithin n a b = none) :
    ∃ f : Nat → Bundle × Bundle, f 0 = (a, b) ∧ ∀ i < n, h.Nests (f i) (f (i + 1)) := by
  induction n generalizing a b with
  | zero => exact ⟨fun _ => (a, b), rfl, nofun⟩
  | succ n ih =>
    obtain ⟨⟨c, d⟩, hq, hn⟩ := exists_nests hn
    obtain ⟨f, hf, hstep⟩ := ih hn
    refine ⟨fun i => i.casesOn (a, b) f, rfl, fun i hi => ?_⟩
    cases i with
    | zero =>
      rw [← hf] at hq
      exact hq
    | succ i => exact hstep i (Nat.lt_of_succ_lt_succ hi)

/-- A path goes from each of its pairs to the later ones. -/
lemma transGen_of_path {f : Nat → Bundle × Bundle} (hf : ∀ i < n, h.Nests (f i) (f (i + 1)))
    {i j : Nat} (hij : i < j) (hj : j ≤ n) : Relation.TransGen h.Nests (f i) (f j) := by
  induction j, hij using Nat.le_induction with
  | base => exact .single (hf i hj)
  | succ j hij ih => exact (ih (Nat.le_of_succ_le hj)).tail (hf j hj)

/-- A path of more pairs than there are pairs of cells meets one of them twice. -/
lemma exists_eq_of_path {f : Nat → Bundle × Bundle}
    (hf : ∀ i < h.comparisonDepth, h.Nests (f i) (f (i + 1))) :
    ∃ i j, i < j ∧ j ≤ h.comparisonDepth ∧ f i = f j := by
  let s := Finset.range h.comparisonDepth
  let cells := Finset.range h.cells.length
  have hcard : (cells ×ˢ cells).card < s.card := by
    simp [s, cells, comparisonDepth]
  have hmaps : Set.MapsTo (fun i => ((f i).1.index, (f i).2.index)) s
      (cells ×ˢ cells : Finset (Nat × Nat)) := by
    intro i hi
    have hi := (hf i (Finset.mem_range.1 hi)).index_lt
    simpa [cells] using hi
  obtain ⟨i, hi, j, hj, hij, he⟩ := Finset.exists_ne_map_eq_of_card_lt_of_maps_to hcard hmaps
  have he : f i = f j :=
    Prod.ext (congrArg Bundle.mk (Prod.ext_iff.1 he).1) (congrArg Bundle.mk (Prod.ext_iff.1 he).2)
  obtain hlt | hlt := Nat.lt_or_gt_of_ne hij
  · exact ⟨i, j, hlt, Nat.le_of_lt (Finset.mem_range.1 hj), he⟩
  · exact ⟨j, i, hlt, Nat.le_of_lt (Finset.mem_range.1 hi), he.symm⟩

/-- A comparison without an answer within the bound goes in a circle. -/
lemma circles_of_eq_none (hn : h.equalWithin h.comparisonDepth a b = none) : h.Circles a b := by
  obtain ⟨f, h0, hf⟩ := exists_path hn
  obtain ⟨i, j, hij, hj, he⟩ := exists_eq_of_path hf
  have hcircle := transGen_of_path hf hij hj
  rw [← he] at hcircle
  refine ⟨f i, ?_, hcircle⟩
  rw [← h0]
  obtain rfl | hi := Nat.eq_zero_or_pos i
  · exact .refl
  · exact (transGen_of_path hf hi (Nat.le_trans (Nat.le_of_lt hij) hj)).to_reflTransGen

/-- At the bound only circles lack an answer. -/
lemma equal?_eq_none : h.equal? a b = none ↔ h.Circles a b :=
  ⟨circles_of_eq_none, fun hc => hc.eq_none _⟩

/-- A comparison ends unless it leads to a circle. -/
lemma ends_iff : h.Ends a b ↔ ¬ h.Circles a b := by
  constructor
  · rintro ⟨n, r, hr⟩ hc
    rw [hc.eq_none] at hr
    cases hr
  · intro hc
    obtain ⟨r, hr⟩ := Option.ne_none_iff_exists'.1 (equal?_eq_none.not.2 hc)
    exact ⟨_, r, hr⟩

/-- The bound is deep enough for every comparison that ends. -/
lemma equal?_eq_some : h.equal? a b = some r ↔ ∃ depth, h.equalWithin depth a b = some r := by
  constructor
  · exact fun hr => ⟨_, hr⟩
  · rintro ⟨n, hr⟩
    obtain ⟨r', hr'⟩ := Option.ne_none_iff_exists'.1 (equal?_eq_none.not.2 (ends_iff.1 ⟨n, r, hr⟩))
    rw [hr', equalWithin_unique hr' hr]

/-- The two bundles that are asked for are in the two that are compared. -/
lemma Nests.contains (hpq : h.Nests p q) : h.Contains p.1 q.1 ∧ h.Contains p.2 q.2 := by
  obtain @⟨a, b, c, d, k, before, before', after, after', -, -, ha, hb, -⟩ := hpq
  exact ⟨⟨k, by simp [ha]⟩, ⟨k, by simp [hb]⟩⟩

/-- Both bundles of a circle have a bundle in them that contains itself. -/
lemma Circles.holdsCycle (hc : h.Circles a b) : h.HoldsCycle a ∧ h.HoldsCycle b := by
  obtain ⟨p, hap, hp⟩ := hc
  exact ⟨⟨p.1, hap.lift Prod.fst fun _ _ hpq => hpq.contains.1,
      hp.lift Prod.fst fun _ _ hpq => hpq.contains.1⟩,
    ⟨p.2, hap.lift Prod.snd fun _ _ hpq => hpq.contains.2,
      hp.lift Prod.snd fun _ _ hpq => hpq.contains.2⟩⟩

/-- Bundles that hold the same are compared without a circle, as a bundle and its copy are. -/
lemma ends_of_entries_eq (he : h.entries a = h.entries b) : h.Ends a b := by
  by_contra hn
  have hnone : h.equalWithin 2 a b = none := by
    by_contra hr
    obtain ⟨r, hr⟩ := Option.ne_none_iff_exists'.1 hr
    exact hn ⟨2, r, hr⟩
  obtain ⟨q, hq, hnone⟩ := exists_nests hnone
  obtain @⟨_, _, c, d, k, before, before', after, after', -, -, ha, hb, depth, hag⟩ := hq
  rw [he, hb] at ha
  obtain ⟨-, hcd⟩ := List.append_inj ha (length_eq_of_equalPairs hag).symm
  obtain ⟨hcd, -⟩ := List.cons.inj hcd
  cases hcd
  cases equalWithin_self.symm.trans hnone

/-- A comparison of bundles has an answer after finitely many nested comparisons unless it leads to
one that asks for itself, and if it has one then within the bound. A comparison of values lacks an
answer only if they are bundles. A circle needs a bundle that contains itself on either side, and
there is none between a bundle and another one with the same entries. -/
theorem comparison_ends_iff (h : Heap) (a b : Bundle) :
    (h.Ends a b ↔ ¬ h.Circles a b) ∧
    (∀ r, h.equal? a b = some r ↔ ∃ depth, h.equalWithin depth a b = some r) ∧
    (∀ v w, h.equalValues? v w = none ↔ ∃ c d, v = .bundle c ∧ w = .bundle d ∧ h.Circles c d) ∧
    (h.Circles a b → h.HoldsCycle a ∧ h.HoldsCycle b) ∧
    (h.entries a = h.entries b → h.Ends a b) := by
  refine ⟨ends_iff, fun _ => equal?_eq_some, fun v w => ?_, Circles.holdsCycle, ends_of_entries_eq⟩
  unfold equalValues?
  simp only [Value.equalWith_eq_none, equal?_eq_none]

end Heap

namespace Mirrors

/-- Two bundles, each of which contains itself. -/
def heap : Heap :=
  (Session.start.run
    [.new, .new, .put ⟨1⟩ "self" (.bundle ⟨1⟩), .put ⟨2⟩ "self" (.bundle ⟨2⟩)]).world.heap

/-- Comparing them asks whether they are equal. -/
lemma circles : heap.Circles ⟨1⟩ ⟨2⟩ := by
  have hself : heap.Nests (⟨1⟩, ⟨2⟩) (⟨1⟩, ⟨2⟩) :=
    @Heap.Nests.intro heap ⟨1⟩ ⟨2⟩ ⟨1⟩ ⟨2⟩ "self" [] [] [] [] (by decide) rfl rfl rfl ⟨0, rfl⟩
  exact ⟨_, .refl, .single hself⟩

end Mirrors

/-- Their comparison has no answer, at whatever depth. -/
theorem Mirrors.not_ends : ¬ Mirrors.heap.Ends ⟨1⟩ ⟨2⟩ := by
  rw [Heap.ends_iff]
  exact not_not.2 Mirrors.circles

end TypedBundle
