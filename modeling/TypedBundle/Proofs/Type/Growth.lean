import TypedBundle.Proofs.Kotlin.Scope
import TypedBundle.Proofs.Type.Supertypes

/-!
# One more class

What becomes of the types of a table when a class is declared that it does not have. The new class
can be meant only by its own names, so a lookup of any other name, or of a name that a class has in
full, ends as before. A lookup of its simple name that succeeded has two classes to choose from.

`Shift` says this of two computations, one on each table. It holds of single lookups
(`ClassTable.shift_qualify`) and is kept when one computation follows another (`Shift.bind`), so it
holds of the search for the names above a class and of the resolution of types, which do nothing but
lookups on the way.
-/

namespace TypedBundle

open Relation

namespace Name

variable {n w : String}

/-- A dotted name ends in a word without dots if that is its simple name. -/
lemma endsIn_iff (hw : '.' ∉ w.toList) : endsIn n w ↔ '.' ∈ n.toList ∧ simple n = w := by
  unfold endsIn
  rw [List.isSuffixOf_iff_suffix]
  constructor
  · rintro ⟨front, he⟩
    have hr : n.toList.reverse = w.toList.reverse ++ '.' :: front.reverse := by simp [← he]
    refine ⟨by simp [← he], ?_⟩
    unfold simple
    rw [hr, List.takeWhile_append_of_pos (forall_ne_of_not_mem hw),
      List.takeWhile_cons_of_neg (by simp), List.append_nil, List.reverse_reverse,
      String.ofList_toList]
  · rintro ⟨hn, rfl⟩
    have hsplit := List.takeWhile_append_dropWhile (p := (· != '.')) (l := n.toList.reverse)
    have hhead := List.head?_dropWhile_not (· != '.') n.toList.reverse
    cases hd : n.toList.reverse.dropWhile (· != '.') with
    | nil =>
      rw [List.dropWhile_eq_nil_iff] at hd
      simpa using hd '.' (List.mem_reverse.2 hn)
    | cons c rest =>
      rw [hd] at hsplit hhead
      obtain rfl : c = '.' := by simpa using hhead
      refine ⟨rest.reverse, ?_⟩
      unfold simple
      rw [String.toList_ofList]
      simpa using congrArg List.reverse hsplit

end Name

namespace NameSet

variable {n : String} {ns : List String} {p : String → Bool}

/-- Inserting a name that a filter drops does not change what the filter keeps. -/
lemma filter_insertName_of_neg (hp : ¬ p n) : (insertName n ns).filter p = ns.filter p := by
  induction ns with
  | nil => simp [insertName, hp]
  | cons m rest ih =>
    unfold insertName
    split
    · rw [List.filter_cons_of_neg hp]
    · split
      · rfl
      · rw [List.filter_cons, List.filter_cons, ih]

/-- A new name is inserted among the others. -/
lemma perm_insertName (hn : n ∉ ns) : (insertName n ns).Perm (n :: ns) := by
  induction ns with
  | nil => exact .refl _
  | cons m rest ih =>
    rw [List.mem_cons, not_or] at hn
    unfold insertName
    split
    · exact .refl _
    · rw [if_neg hn.1]
      exact ((ih hn.2).cons m).trans (.swap ..)

end NameSet

/-- What becomes of a computation when the table grows. If `P` holds then it looks up a name that
the new class can be meant by; so it is ambiguous if it succeeded. Otherwise it ends as before. -/
structure Shift {α : Type} (s : String) (P : Prop) (x x' : Except TypeError α) : Prop where
  same : ¬ P → x' = x
  ambiguous : P → ∀ a, x = .ok a → x' = .error (.ambiguous s)

namespace Shift

variable {α β : Type} {s : String} {P Q : Prop} {x x' : Except TypeError α}

/-- A computation that does not depend on the table shifts under no condition. -/
lemma refl (x : Except TypeError α) : Shift s False x x := ⟨fun _ => rfl, False.elim⟩

/-- A computation that fails shifts under a condition if it stays the same without it. -/
lemma of_error {e} (hx : x = .error e) (h : ¬ P → x' = x) : Shift s P x x' :=
  ⟨h, fun _ _ ha => nomatch hx.symm.trans ha⟩

/-- Only of a computation that succeeds it matters exactly what it looks up. -/
lemma congr (h : Shift s P x x') (hPQ : P → Q) (hQP : (∃ a, x = .ok a) → Q → P) : Shift s Q x x' :=
  ⟨fun hq => h.same (mt hPQ hq), fun hq a ha => h.ambiguous (hQP ⟨a, ha⟩ hq) a ha⟩

/-- Steps shift one after the other: under the condition of the first, or under that of the next
where the first succeeds. -/
lemma bind {Q : α → Prop} {f f' : α → Except TypeError β} (h : Shift s P x x')
    (hf : ∀ a, x = .ok a → Shift s (Q a) (f a) (f' a)) :
    Shift s (P ∨ ∃ a, x = .ok a ∧ Q a) (x >>= f) (x' >>= f') := by
  constructor
  · intro hn
    rw [not_or] at hn
    rw [h.same hn.1]
    cases hx : x with
    | error e => rfl
    | ok a => exact (hf a hx).same fun hq => hn.2 ⟨a, hx, hq⟩
  · intro hor b hb
    obtain ⟨a, hx, hfa⟩ := Except.bind_eq_ok.1 hb
    by_cases hP : P
    · rw [h.ambiguous hP a hx]
      rfl
    · obtain ⟨a', hx', hq⟩ := hor.resolve_left hP
      obtain rfl := Except.ok.inj (hx.symm.trans hx')
      rw [h.same hP, hx]
      exact (hf a hx).ambiguous hq b hfa

end Shift

namespace ClassTable

variable {t : ClassTable} {c : ClassInfo} {name w : String}

/-- The new class can be meant by the name: it is one of its own, and no class has it in full. -/
def Captures (t : ClassTable) (c : ClassInfo) (w : String) : Prop :=
  (w = c.name ∨ w = Name.simple c.name) ∧ t.find? w = none

/-- The name is that of a parent, of the class or of one above it. -/
def NamesParent (t : ClassTable) (name w : String) : Prop :=
  ∃ k, ReflTransGen t.Extends name k ∧ ∃ c, t.find? k = some c ∧ w ∈ c.parents

/-- To resolve what is written, the name is looked up: it is written itself, or it is that of a
parent of a class reached from one that is written. -/
def LooksUp (t : ClassTable) (written : List String) (w : String) : Prop :=
  w ∈ written ∨ ∃ v ∈ written, ∃ n, t.qualify v = .ok n ∧ t.NamesParent n w

/-- A class that was there is found as before. -/
lemma find?_declare_of_isSome (hn : t.find? c.name = none) (h : (t.find? w).isSome) :
    (t.declare c).find? w = t.find? w := by
  rw [find?_declare, if_neg]
  rintro rfl
  simp [hn] at h

/-- The new class is one more key. -/
lemma keys_declare : (t.declare c).classes.keys = NameSet.insertName c.name t.classes.keys :=
  Dict.keys_insert ..

/-- A name without a dot that names no class itself is looked for among the last parts of names. -/
lemma qualify_of_not_mem (h : t.find? w = none) (hw : '.' ∉ w.toList) :
    t.qualify w = match t.classes.keys.filter (Name.endsIn · w) with
      | [] => .error (.unknownClass w)
      | [only] => .ok only
      | _ => .error (.ambiguous w) := by
  have hc : ¬ t.classes.contains w := by
    change ¬ (t.find? w).isSome
    simp [h]
  have hd : ¬ w.toList.contains '.' := by simpa using hw
  unfold qualify
  exact (if_neg hc).trans (if_neg hd)

/-- A dotted name that is not that of a class is unknown. -/
lemma qualify_of_mem (h : t.find? w = none) (hw : '.' ∈ w.toList) :
    t.qualify w = .error (.unknownClass w) := by
  have hc : ¬ t.classes.contains w := by
    change ¬ (t.find? w).isSome
    simp [h]
  have hd : w.toList.contains '.' := by simpa using hw
  unfold qualify
  rw [if_neg hc, if_pos hd]

/-- A lookup shifts if it is for a name that the new class can be meant by. -/
lemma shift_qualify (hd : '.' ∈ c.name.toList) (hn : t.find? c.name = none) (w : String) :
    Shift (Name.simple c.name) (t.Captures c w) (t.qualify w) ((t.declare c).qualify w) := by
  by_cases hw : (t.find? w).isSome
  · have hw' : ((t.declare c).find? w).isSome := by rwa [find?_declare_of_isSome hn hw]
    refine ⟨fun _ => by rw [qualify_of_isSome hw, qualify_of_isSome hw'], fun hc => ?_⟩
    simp [hc.2] at hw
  · rw [Option.not_isSome_iff_eq_none] at hw
    by_cases hdot : '.' ∈ w.toList
    · refine .of_error (qualify_of_mem hw hdot) fun hc => ?_
      have hw' : (t.declare c).find? w = none := by
        rw [find?_declare, if_neg fun e => hc ⟨.inl e, hw⟩, hw]
      rw [qualify_of_mem hw hdot, qualify_of_mem hw' hdot]
    · have hne : w ≠ c.name := fun e => hdot (e ▸ hd)
      have hw' : (t.declare c).find? w = none := by rw [find?_declare, if_neg hne, hw]
      rw [qualify_of_not_mem hw hdot, qualify_of_not_mem hw' hdot, keys_declare]
      constructor
      · intro hc
        have he : ¬ Name.endsIn c.name w := fun h =>
          hc ⟨.inr ((Name.endsIn_iff hdot).1 h).2.symm, hw⟩
        rw [NameSet.filter_insertName_of_neg (p := (Name.endsIn · w)) he]
      · rintro ⟨hs, -⟩ a ha
        obtain rfl := hs.resolve_left hne
        -- one class ends in the name already, and the new one makes them two
        have hc : c.name ∉ t.classes.keys := fun h => by simpa [hn] using isSome_find?_iff.2 h
        have he : Name.endsIn c.name (Name.simple c.name) := (Name.endsIn_iff hdot).2 ⟨hd, rfl⟩
        have hp := (NameSet.perm_insertName hc).filter (Name.endsIn · (Name.simple c.name))
        rw [List.filter_cons_of_pos (p := (Name.endsIn · (Name.simple c.name))) he] at hp
        split at ha
        · cases ha
        · next only hf =>
          rw [hf] at hp
          obtain ⟨x, y, hxy⟩ := List.length_eq_two.1 hp.length_eq
          rw [hxy]
        · cases ha

/-- The search above parents shifts with the lookups of their names and the searches from them. -/
lemma shift_gather {climb climb' : String → Except TypeError NameSet} {P : String → Prop}
    (hd : '.' ∈ c.name.toList) (hn : t.find? c.name = none)
    (hc : ∀ full, (t.find? full).isSome →
      Shift (Name.simple c.name) (P full) (climb full) (climb' full))
    (ps : List String) (found : NameSet) :
    Shift (Name.simple c.name)
      (∃ p ∈ ps, t.Captures c p ∨ ∃ full, t.qualify p = .ok full ∧ P full)
      (t.gather climb found ps) ((t.declare c).gather climb' found ps) := by
  induction ps generalizing found with
  | nil =>
    exact (Shift.refl _).congr False.elim (by simp)
  | cons p rest ih =>
    rw [gather_cons, gather_cons]
    refine ((shift_qualify hd hn p).bind fun full hq =>
      (hc full (isSome_of_qualify hq)).bind fun above _ => ih _).congr ?_ ?_
    · rintro (h | ⟨full, hq, h | ⟨above, -, h⟩⟩)
      · exact ⟨p, List.mem_cons_self, .inl h⟩
      · exact ⟨p, List.mem_cons_self, .inr ⟨full, hq, h⟩⟩
      · obtain ⟨p', hp', h⟩ := h
        exact ⟨p', List.mem_cons_of_mem p hp', h⟩
    · rintro ⟨s, hs⟩ ⟨p', hp', h⟩
      obtain ⟨full, hq, hs⟩ := Except.bind_eq_ok.1 hs
      obtain ⟨above, ha, -⟩ := Except.bind_eq_ok.1 hs
      obtain rfl | hp' := List.mem_cons.1 hp'
      · obtain h | ⟨full', hq', h⟩ := h
        · exact .inl h
        · obtain rfl := Except.ok.inj (hq.symm.trans hq')
          exact .inr ⟨full, hq, .inl h⟩
      · exact .inr ⟨full, hq, .inr ⟨above, ha, p', hp', h⟩⟩

/-- The names of parents above a class are those of its own and those above these. -/
lemma namesParent_iff {info} (hc : t.find? name = some info) : t.NamesParent name w ↔
    ∃ p ∈ info.parents, w = p ∨ ∃ full, t.qualify p = .ok full ∧ t.NamesParent full w := by
  constructor
  · rintro ⟨k, hk, c, hck, hw⟩
    obtain rfl | ⟨full, ⟨c', p, hc', hp, hq⟩, hk⟩ := hk.cases_head
    · cases hc.symm.trans hck
      exact ⟨w, hw, .inl rfl⟩
    · cases hc.symm.trans hc'
      exact ⟨p, ClassInfo.mem_parents.2 hp, .inr ⟨full, hq, k, hk, c, hck, hw⟩⟩
  · rintro ⟨p, hp, rfl | ⟨full, hq, k, hk, c, hck, hw⟩⟩
    · exact ⟨name, .refl, info, hc, hp⟩
    · exact ⟨k, .head ⟨info, p, hc, ClassInfo.mem_parents.1 hp, hq⟩ hk, c, hck, hw⟩

/-- The search above a class shifts with the lookups of the parents above it. -/
lemma shift_supertypesFrom (hd : '.' ∈ c.name.toList) (hn : t.find? c.name = none)
    {free free' : List String} (hp : free'.Perm (c.name :: free)) (hs : (t.find? name).isSome) :
    Shift (Name.simple c.name) (∃ w, t.NamesParent name w ∧ t.Captures c w)
      (t.supertypesFrom free name) ((t.declare c).supertypesFrom free' name) := by
  induction free, name using supertypesFrom.induct t generalizing free' with
  | case1 free name hc => simp [hc] at hs
  | case2 free name info hc hf ih =>
    have hne : c.name ≠ name := by
      rintro rfl
      simp [hn] at hs
    have hf' : name ∈ free' := hp.mem_iff.2 (List.mem_cons_of_mem _ hf)
    have hperm : (free'.erase name).Perm (c.name :: free.erase name) := by
      rw [← List.erase_cons_tail (by simpa using hne)]
      exact hp.erase name
    rw [supertypesFrom_eq, supertypesFrom_eq, find?_declare_of_isSome hn hs, hc]
    simp only [if_pos hf, if_pos hf']
    refine (shift_gather hd hn (fun full hfull => ih full hperm hfull) _ _).congr ?_ ?_
    · rintro ⟨p, hmem, h | ⟨full, hq, w, hw, h⟩⟩
      · exact ⟨p, (namesParent_iff hc).2 ⟨p, hmem, .inl rfl⟩, h⟩
      · exact ⟨w, (namesParent_iff hc).2 ⟨p, hmem, .inr ⟨full, hq, hw⟩⟩, h⟩
    · rintro - ⟨w, hw, h⟩
      obtain ⟨p, hmem, rfl | ⟨full, hq, hw⟩⟩ := (namesParent_iff hc).1 hw
      · exact ⟨w, hmem, .inl h⟩
      · exact ⟨p, hmem, .inr ⟨full, hq, w, hw, h⟩⟩
  | case3 free name info hc hf =>
    have hne : name ≠ c.name := by
      rintro rfl
      simp [hn] at hs
    have hf' : name ∉ free' := by
      rw [hp.mem_iff, List.mem_cons, not_or]
      exact ⟨hne, hf⟩
    rw [supertypesFrom_eq, supertypesFrom_eq, find?_declare_of_isSome hn hs, hc]
    simp only [if_neg hf, if_neg hf']
    exact .of_error rfl fun _ => rfl

/-- The supertypes of a class shift with the names of parents above it. -/
lemma shift_supertypes (hd : '.' ∈ c.name.toList) (hn : t.find? c.name = none)
    (hs : (t.find? name).isSome) :
    Shift (Name.simple c.name) (∃ w, t.NamesParent name w ∧ t.Captures c w)
      (t.supertypes name) ((t.declare c).supertypes name) := by
  apply shift_supertypesFrom hd hn _ hs
  rw [keys_declare]
  exact NameSet.perm_insertName fun h => by simpa [hn] using isSome_find?_iff.2 h

/-- The superclass shifts with the lookup of its name. -/
lemma shift_mapM (hd : '.' ∈ c.name.toList) (hn : t.find? c.name = none) (o : Option String) :
    Shift (Name.simple c.name) (∃ w, o = some w ∧ t.Captures c w)
      (o.mapM t.qualify) (o.mapM (t.declare c).qualify) := by
  cases o with
  | none => exact (Shift.refl _).congr False.elim (by simp)
  | some w =>
    have hmap : ∀ t : ClassTable, (some w).mapM t.qualify = do return some (← t.qualify w) := by
      intro t
      simp only [Option.mapM_some]
      cases t.qualify w <;> rfl
    rw [hmap, hmap]
    refine ((shift_qualify hd hn w).bind fun _ _ => Shift.refl _).congr ?_ ?_
    · rintro (h | ⟨_, -, h⟩)
      · exact ⟨w, rfl, h⟩
      · exact h.elim
    · rintro - ⟨w', hw', h⟩
      cases hw'
      exact .inl h

/-- Looking up names means looking up the first, the parents above it, and the others. -/
lemma looksUp_cons {v : String} {written : List String} : t.LooksUp (v :: written) w ↔
    w = v ∨ (∃ n, t.qualify v = .ok n ∧ t.NamesParent n w) ∨ t.LooksUp written w := by
  unfold LooksUp
  rw [List.mem_cons, List.exists_mem_cons_iff, or_assoc]
  exact or_congr_right or_left_comm

/-- Names of two lists are looked up in either. -/
lemma looksUp_append {written written' : List String} :
    t.LooksUp (written ++ written') w ↔ t.LooksUp written w ∨ t.LooksUp written' w := by
  unfold LooksUp
  simp only [List.mem_append, or_and_right, exists_or]
  exact or_or_or_comm

mutual

/-- Resolving a type shifts with the lookups that it takes. -/
theorem shift_describe (hd : '.' ∈ c.name.toList) (hn : t.find? c.name = none) :
    ∀ e : TypeExpr, Shift (Name.simple c.name) (∃ w, t.LooksUp e.names w ∧ t.Captures c w)
      (t.describe e) ((t.declare c).describe e)
  | ⟨written, arguments⟩ => by
    rw [describe, describe]
    refine ((shift_qualify hd hn written).bind (Q := fun n =>
      (∃ w, t.LooksUp (TypeExpr.namesAll arguments) w ∧ t.Captures c w) ∨
        ∃ w, t.NamesParent n w ∧ t.Captures c w) fun n hq => ?_).congr ?_ ?_
    · have hs := isSome_of_qualify hq
      obtain ⟨info, hi⟩ := Option.isSome_iff_exists.1 hs
      simp only [find?_declare_of_isSome hn hs, hi]
      split
      · exact .of_error rfl fun _ => rfl
      · refine ((shift_describeAll hd hn arguments).bind fun args _ =>
          (shift_mapM hd hn info.extended).bind fun superclass _ =>
            (shift_supertypes hd hn hs).bind fun above _ => Shift.refl _).congr ?_ ?_
        · rintro (h | ⟨_, -, ⟨w, hw, hc⟩ | ⟨_, -, h | ⟨_, -, h⟩⟩⟩)
          · exact .inl h
          · have hmem : w ∈ info.parents := ClassInfo.mem_parents.2 (.inl hw)
            exact .inr ⟨w, (namesParent_iff hi).2 ⟨w, hmem, .inl rfl⟩, hc⟩
          · exact .inr h
          · exact h.elim
        · rintro ⟨ty, hty⟩ h
          obtain ⟨args, hargs, hty⟩ := Except.bind_eq_ok.1 hty
          obtain ⟨superclass, hsuper, -⟩ := Except.bind_eq_ok.1 hty
          exact h.imp id fun h => ⟨args, hargs, .inr ⟨superclass, hsuper, .inl h⟩⟩
    · rw [TypeExpr.names]
      rintro (hc | ⟨n, hq, ⟨w, hw, hc⟩ | ⟨w, hw, hc⟩⟩)
      · exact ⟨written, looksUp_cons.2 (.inl rfl), hc⟩
      · exact ⟨w, looksUp_cons.2 (.inr (.inr hw)), hc⟩
      · exact ⟨w, looksUp_cons.2 (.inr (.inl ⟨n, hq, hw⟩)), hc⟩
    · rw [TypeExpr.names]
      rintro ⟨ty, hty⟩ ⟨w, hw, hc⟩
      obtain ⟨n, hq, -⟩ := Except.bind_eq_ok.1 hty
      obtain rfl | ⟨n', hq', hw⟩ | hw := looksUp_cons.1 hw
      · exact .inl hc
      · obtain rfl := Except.ok.inj (hq.symm.trans hq')
        exact .inr ⟨n, hq, .inr ⟨w, hw, hc⟩⟩
      · exact .inr ⟨n, hq, .inl ⟨w, hw, hc⟩⟩

/-- The arguments of a type shift one after the other. -/
theorem shift_describeAll (hd : '.' ∈ c.name.toList) (hn : t.find? c.name = none) :
    ∀ es : List TypeExpr,
      Shift (Name.simple c.name) (∃ w, t.LooksUp (TypeExpr.namesAll es) w ∧ t.Captures c w)
        (t.describeAll es) ((t.declare c).describeAll es)
  | [] => by
    refine (Shift.refl _).congr False.elim ?_
    rintro - ⟨w, hw | ⟨v, hv, -⟩, -⟩
    · cases hw
    · cases hv
  | e :: rest => by
    rw [describeAll, describeAll]
    refine ((shift_describe hd hn e).bind fun ty _ =>
      (shift_describeAll hd hn rest).bind fun others _ => Shift.refl _).congr ?_ ?_
    · rintro (⟨w, hw, hc⟩ | ⟨ty, -, ⟨w, hw, hc⟩ | ⟨_, -, h⟩⟩)
      · exact ⟨w, looksUp_append.2 (.inl hw), hc⟩
      · exact ⟨w, looksUp_append.2 (.inr hw), hc⟩
      · exact h.elim
    · rintro ⟨tys, htys⟩ ⟨w, hw, hc⟩
      obtain ⟨ty, hty, -⟩ := Except.bind_eq_ok.1 htys
      obtain hw | hw := looksUp_append.1 hw
      · exact .inl ⟨w, hw, hc⟩
      · exact .inr ⟨ty, hty, .inl ⟨w, hw, hc⟩⟩

end

end ClassTable

/-- After a class with a package is declared that the table does not have, a type that resolved
resolves to the same type, or else its resolution is ambiguous. It is ambiguous exactly if a name is
looked up by which the new class can be meant. A type all of whose lookups are for full names of the
table resolves, or fails to, as before. -/
theorem ClassTable.describe_declare {t : ClassTable} {c : ClassInfo} (hd : '.' ∈ c.name.toList)
    (hn : t.find? c.name = none) :
    (∀ e ty, t.describe e = .ok ty →
      ((t.declare c).describe e = .ok ty ∨
        (t.declare c).describe e = .error (.ambiguous (Name.simple c.name))) ∧
      ((t.declare c).describe e = .error (.ambiguous (Name.simple c.name)) ↔
        ∃ w, t.LooksUp e.names w ∧ t.Captures c w)) ∧
    ∀ e, (∀ w, t.LooksUp e.names w → (t.find? w).isSome) →
      (t.declare c).describe e = t.describe e := by
  refine ⟨fun e ty h => ?_, fun e h => (shift_describe hd hn e).same ?_⟩
  · by_cases hw : ∃ w, t.LooksUp e.names w ∧ t.Captures c w
    · have he := (shift_describe hd hn e).ambiguous hw ty h
      exact ⟨.inr he, fun _ => hw, fun _ => he⟩
    · have he := ((shift_describe hd hn e).same hw).trans h
      refine ⟨.inl he, fun ha => ?_, fun h => (hw h).elim⟩
      cases he.symm.trans ha
  · rintro ⟨w, hw, -, hnone⟩
    simpa [hnone] using h w hw

/-- A second class of a parent's simple name makes a type below that parent ambiguous, and leaves
the type of the parent itself as it was. -/
theorem Kinship.describe_declare_base :
    let other : ClassInfo := { name := "org.other.Base" }
    ('.' ∈ other.name.toList ∧ Kinship.table.find? other.name = none) ∧
    (∃ ty, Kinship.table.describe ⟨"Color", []⟩ = .ok ty) ∧
    (Kinship.table.declare other).describe ⟨"Color", []⟩ = .error (.ambiguous "Base") ∧
    (∀ w, Kinship.table.LooksUp ["com.example.Base"] w → (Kinship.table.find? w).isSome) ∧
    (Kinship.table.declare other).describe ⟨"com.example.Base", []⟩ =
      Kinship.table.describe ⟨"com.example.Base", []⟩ := by
  intro other
  have hd : '.' ∈ other.name.toList := by decide
  have hn : Kinship.table.find? other.name = none := by decide +kernel
  obtain ⟨hok, hsame⟩ := ClassTable.describe_declare hd hn
  have hcolor : (Kinship.table.describe ⟨"Color", []⟩).toOption.isSome := by decide +kernel
  obtain ⟨ty, hty⟩ := Option.isSome_iff_exists.1 hcolor
  have hty := Except.eq_ok_of_toOption hty
  have hfull : ∀ w, Kinship.table.LooksUp ["com.example.Base"] w →
      (Kinship.table.find? w).isSome := by
    intro w hw
    have hbase : (Kinship.table.find? "com.example.Base").isSome := by decide +kernel
    obtain rfl | ⟨n, hq, hw⟩ | ⟨⟨⟩⟩ | ⟨_, ⟨⟩, _⟩ := ClassTable.looksUp_cons.1 hw
    · exact hbase
    · obtain rfl := Except.ok.inj ((ClassTable.qualify_of_isSome hbase).symm.trans hq)
      have hp : (Kinship.table.find? "com.example.Base").map ClassInfo.parents = some [] := by
        decide +kernel
      obtain ⟨info, hi, hp⟩ := Option.map_eq_some_iff.1 hp
      obtain ⟨p, hmem, -⟩ := (ClassTable.namesParent_iff hi).1 hw
      rw [hp] at hmem
      cases hmem
  have hnamed : Kinship.table.NamesParent "com.example.Color" "Base" := by
    refine ⟨"com.example.Named", .single ?_, by decide +kernel⟩
    have h : ∃ c, Kinship.table.find? "com.example.Color" = some c ∧ "Named" ∈ c.interfaces := by
      decide +kernel
    obtain ⟨c, hc, hmem⟩ := h
    have hq : (Kinship.table.qualify "Named").toOption = some "com.example.Named" := by
      decide +kernel
    exact ⟨c, "Named", hc, .inr hmem, Except.eq_ok_of_toOption hq⟩
  have hlooks : Kinship.table.LooksUp ["Color"] "Base" := by
    have hq : (Kinship.table.qualify "Color").toOption = some "com.example.Color" := by
      decide +kernel
    exact ClassTable.looksUp_cons.2 (.inr (.inl ⟨_, Except.eq_ok_of_toOption hq, hnamed⟩))
  have hsimple : Name.simple other.name = "Base" := by decide
  have hambiguous := (hok _ ty hty).2.2 ⟨"Base", hlooks, .inr hsimple.symm, by decide +kernel⟩
  rw [hsimple] at hambiguous
  exact ⟨⟨hd, hn⟩, ⟨ty, hty⟩, hambiguous, hfull, hsame _ hfull⟩

end TypedBundle
