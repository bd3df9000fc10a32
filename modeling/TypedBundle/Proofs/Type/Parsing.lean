import TypedBundle.Proofs.Type.Grammar

/-!
# Parsing types

The reader accepts exactly the texts of the grammar, each as the one expression that it spells
(`TypeExpr.parse_exact`).

What a reading step takes is a text of the grammar, and it stops at a question mark only if there is
one (`TypeExpr.tells`, by induction on the length of the text). In the other direction a text of the
grammar with question marks is read up to its first mark (`TypeExpr.reads_of_spells`, by induction
on how it is spelled), which for a text without marks is all of it.
-/

namespace TypedBundle.TypeExpr

open Text (Blank)

variable {α : Type} {cs rest lead gap tail nm : List Char} {name : String} {e : TypeExpr}

/-- What reading a name yields, without the bound on what is left. -/
def nameStep (cs : List Char) : Except Stop (String × List Char) :=
  (scanName cs).map fun r => (r.1, r.2.1)

/-- What reading a type yields, without that bound. -/
def typeStep (cs : List Char) : Except Stop (TypeExpr × List Char) :=
  (scan cs).map fun r => (r.1, r.2.1)

/-- What reading arguments yields, without that bound. -/
def argumentsStep (cs : List Char) : Except Stop (List TypeExpr × List Char) :=
  (scanArguments cs).map fun r => (r.1, r.2.1)

/-- A name is read up to what cannot be part of it, and white space around it is passed over. -/
lemma nameStep_eq : nameStep cs =
    let start := cs.dropWhile Text.isBlank
    if isName (start.takeWhile isNameChar) then
      .ok (String.ofList (start.takeWhile isNameChar),
        (start.dropWhile isNameChar).dropWhile Text.isBlank)
    else .error .malformed := by
  unfold nameStep scanName
  dsimp only
  split <;> rfl

/-- A type is a name, and arguments if an angle bracket follows. -/
lemma typeStep_eq : typeStep cs =
    match nameStep cs with
    | .error e => .error e
    | .ok (name, '<' :: inner) =>
      (argumentsStep inner).map fun r => (⟨name, r.1⟩, r.2)
    | .ok (name, rest) => .ok (⟨name, []⟩, rest) := by
  unfold typeStep nameStep
  rw [scan]
  cases scanName cs with
  | error e => rfl
  | ok r =>
    obtain ⟨name, rest, hr⟩ := r
    cases rest with
    | nil => rfl
    | cons c inner =>
      by_cases hc : c = '<'
      · subst hc
        cases h : scanArguments inner <;> simp [argumentsStep, Except.map, h]
      · simp [Except.map, hc]

/-- Arguments are types with commas between them, up to the closing bracket. -/
lemma argumentsStep_eq : argumentsStep cs =
    match typeStep cs with
    | .error e => .error e
    | .ok (first, ',' :: rest) =>
      (argumentsStep rest).map fun r => (first :: r.1, r.2)
    | .ok (first, '>' :: rest) => .ok ([first], rest.dropWhile Text.isBlank)
    | .ok (_, '?' :: _) => .error .nullable
    | .ok _ => .error .malformed := by
  rw [argumentsStep, typeStep, scanArguments]
  cases scan cs with
  | error e => rfl
  | ok r =>
    obtain ⟨first, rest, hr⟩ := r
    cases rest with
    | nil => rfl
    | cons c rest =>
      by_cases hc : c = ','
      · subst hc
        cases h : scanArguments rest <;> simp [argumentsStep, Except.map, h]
      · by_cases hg : c = '>'
        · subst hg
          rfl
        · by_cases hq : c = '?'
          · subst hq
            rfl
          · simp [Except.map, hc, hg, hq]

/-- A bracket after a name begins arguments. -/
lemma typeStep_bracket (h : nameStep cs = .ok (name, '<' :: rest)) :
    typeStep cs = (argumentsStep rest).map fun r => (⟨name, r.1⟩, r.2) := by
  rw [typeStep_eq, h]
  rfl

/-- A comma after an argument leads to the next. -/
lemma argumentsStep_comma (h : typeStep cs = .ok (e, ',' :: rest)) :
    argumentsStep cs = (argumentsStep rest).map fun r => (e :: r.1, r.2) := by
  rw [argumentsStep_eq, h]
  rfl

/-- A closing bracket after an argument ends the list. -/
lemma argumentsStep_close (h : typeStep cs = .ok (e, '>' :: rest)) :
    argumentsStep cs = .ok ([e], rest.dropWhile Text.isBlank) := by
  rw [argumentsStep_eq, h]
  rfl

/-- A question mark after an argument marks it as nullable, which is refused. -/
lemma argumentsStep_mark (h : typeStep cs = .ok (e, '?' :: rest)) :
    argumentsStep cs = .error .nullable := by
  rw [argumentsStep_eq, h]
  rfl

/-- The arguments fail where the first of them does. -/
lemma argumentsStep_error {stop} (h : typeStep cs = .error stop) :
    argumentsStep cs = .error stop := by
  rw [argumentsStep_eq, h]

/-- What a step of the reader tells of a text: what it takes of it, or that it holds a question
mark. -/
def Tells (Takes : List Char → α → Prop) (cs : List Char) :
    Except Stop (α × List Char) → Prop
  | .ok (a, rest) => ∃ taken, cs = taken ++ rest ∧ Takes taken a
  | .error .nullable => '?' ∈ cs
  | .error .malformed => True

/-- What a step tells of the rest of a text it tells of the text, if it goes on from there. -/
lemma Tells.map {β : Type} {P : List Char → α → Prop} {P' : List Char → β → Prop} {f : α → β}
    {front x} (h : Tells P cs x) (hP : ∀ taken a, P taken a → P' (front ++ taken) (f a)) :
    Tells P' (front ++ cs) (x.map fun r => (f r.1, r.2)) := by
  cases x with
  | error stop =>
    cases stop with
    | malformed => trivial
    | nullable => exact List.mem_append_right front h
  | ok r =>
    obtain ⟨taken, rfl, hp⟩ := h
    exact ⟨front ++ taken, (List.append_assoc ..).symm, hP taken r.1 hp⟩

/-- The text is types with commas between them, a closing bracket and white space. -/
def Closes (cs : List Char) (es : List TypeExpr) : Prop :=
  ∃ inner tail, cs = inner ++ '>' :: tail ∧ SpellsAll Blank inner es ∧ ∀ c ∈ tail, Blank c

/-- A name that has been read stands between white space. -/
lemma exists_of_nameStep (h : nameStep cs = .ok (name, rest)) :
    ∃ lead nm gap, cs = lead ++ (nm ++ (gap ++ rest)) ∧ (∀ c ∈ lead, Blank c) ∧ IsNameText nm ∧
      (∀ c ∈ gap, Blank c) ∧ String.ofList nm = name := by
  rw [nameStep_eq] at h
  dsimp only at h
  split at h
  · next hn =>
    cases h
    refine ⟨cs.takeWhile Text.isBlank, (cs.dropWhile Text.isBlank).takeWhile isNameChar,
      ((cs.dropWhile Text.isBlank).dropWhile isNameChar).takeWhile Text.isBlank, ?_,
      fun c => List.mem_takeWhile_imp, isNameText_iff.2 ⟨hn, fun c => List.mem_takeWhile_imp⟩,
      fun c => List.mem_takeWhile_imp, rfl⟩
    rw [List.takeWhile_append_dropWhile, List.takeWhile_append_dropWhile,
      List.takeWhile_append_dropWhile]
  · cases h

/-- No name is refused as nullable. -/
lemma nameStep_ne_nullable : nameStep cs ≠ .error .nullable := by
  rw [nameStep_eq]
  dsimp only
  split <;> nofun

/-- A step that reads a type takes a text of the grammar, if steps that read its arguments do. -/
lemma tells_typeStep (ih : ∀ inner : List Char, inner.length < cs.length →
      Tells Closes inner (argumentsStep inner)) :
    Tells (Spells Blank) cs (typeStep cs) := by
  rw [typeStep_eq]
  cases hs : nameStep cs with
  | error stop =>
    cases stop with
    | malformed => trivial
    | nullable => exact (nameStep_ne_nullable hs).elim
  | ok r =>
    obtain ⟨name, rest⟩ := r
    obtain ⟨lead, nm, gap, rfl, hl, hn, hg, rfl⟩ := exists_of_nameStep hs
    split
    · next h => cases h
    · next inner h =>
      cases h
      have hfront : lead ++ (nm ++ (gap ++ '<' :: inner)) =
          (lead ++ (nm ++ (gap ++ ['<']))) ++ inner := by simp
      rw [hfront]
      refine (ih inner (by simp; omega)).map ?_
      rintro _ es ⟨inner, tail, rfl, hes, ht⟩
      have h := Spells.generic hl hn hg hes ht
      simpa using h
    · next h =>
      cases h
      exact ⟨_, by simp, Spells.bare hl hn hg⟩

/-- A step that reads arguments takes them with the bracket that closes them. -/
lemma tells_argumentsStep (hscan : Tells (Spells Blank) cs (typeStep cs))
    (ih : ∀ rest : List Char, rest.length < cs.length →
      Tells Closes rest (argumentsStep rest)) :
    Tells Closes cs (argumentsStep cs) := by
  rw [argumentsStep_eq]
  cases hs : typeStep cs with
  | error stop =>
    rw [hs] at hscan
    cases stop with
    | malformed => trivial
    | nullable => exact hscan
  | ok r =>
    rw [hs] at hscan
    obtain ⟨first, rest⟩ := r
    obtain ⟨taken, rfl, hf⟩ := hscan
    split
    · next h => cases h
    · next rest h =>
      cases h
      have hfront : taken ++ ',' :: rest = (taken ++ [',']) ++ rest := by simp
      rw [hfront]
      refine (ih rest (by simp; omega)).map ?_
      rintro _ es ⟨inner, tail, rfl, hes, ht⟩
      exact ⟨_, tail, by simp, .cons hf hes, ht⟩
    · next rest h =>
      cases h
      refine ⟨taken ++ '>' :: rest.takeWhile Text.isBlank, ?_, taken, _, rfl, .one hf,
        fun c => List.mem_takeWhile_imp⟩
      simp [List.takeWhile_append_dropWhile]
    · next h =>
      cases h
      simp [Tells]
    · trivial

/-- What reads types tells what the grammar says, and so does what reads arguments. The induction is
on the length of the text, since a type is read inside each. -/
lemma tells (cs : List Char) : Tells (Spells Blank) cs (typeStep cs) ∧
    Tells Closes cs (argumentsStep cs) := by
  induction hn : cs.length using Nat.strong_induction_on generalizing cs with
  | _ n ih =>
    subst hn
    have ih' : ∀ inner : List Char, inner.length < cs.length →
        Tells Closes inner (argumentsStep inner) := fun inner hi => (ih _ hi inner rfl).2
    have hscan := tells_typeStep ih'
    exact ⟨hscan, tells_argumentsStep hscan ih'⟩

/-- The text does not go on with white space or with a name. -/
def Stops (rest : List Char) : Prop := ∀ c ∈ rest.head?, ¬ Blank c ∧ ¬ isNameChar c

/-- A name is read with the white space around it, up to what stops it. -/
lemma nameStep_append (hl : ∀ c ∈ lead, Blank c) (hn : IsNameText nm) (hg : ∀ c ∈ gap, Blank c)
    (hr : Stops rest) :
    nameStep (lead ++ (nm ++ (gap ++ rest))) = .ok (String.ofList nm, rest) := by
  obtain ⟨hname, hchars⟩ := isNameText_iff.1 hn
  have hgap : ∀ c ∈ (gap ++ rest).head?, ¬ isNameChar c := by
    cases gap with
    | nil => exact fun c hc => (hr c hc).2
    | cons d ds =>
      intro c hc hcn
      cases hc
      exact not_blank_of_isNameChar hcn (hg _ List.mem_cons_self)
  have htake : (nm ++ (gap ++ rest)).takeWhile isNameChar = nm := by
    rw [List.takeWhile_append_of_pos hchars]
    cases h : gap ++ rest with
    | nil => simp
    | cons c cs =>
      rw [h] at hgap
      rw [List.takeWhile_cons_of_neg (hgap c rfl), List.append_nil]
  have hdrop : (nm ++ (gap ++ rest)).dropWhile isNameChar = gap ++ rest := by
    have hall := List.takeWhile_append_dropWhile (p := isNameChar) (l := nm ++ (gap ++ rest))
    rw [htake] at hall
    exact List.append_cancel_left hall
  rw [nameStep_eq, Text.dropWhile_isBlank_append hl hn.head_append]
  dsimp only
  rw [htake, if_pos hname, hdrop, Text.dropWhile_isBlank_append hg fun c hc => (hr c hc).1]

/-- The text is at its end or goes on with what can follow an argument. -/
def Ends (rest : List Char) : Prop := ∀ c ∈ rest.head?, c = ',' ∨ c = '>'

/-- Neither white space nor a part of a name goes on with what is before it. -/
lemma stops_cons {c : Char} (hc : ¬ Blank c ∧ ¬ isNameChar c) : Stops (c :: rest) := by
  intro d hd
  cases hd
  exact hc

/-- The end of a type ends its last name. -/
lemma Ends.stops (h : Ends rest) : Stops rest := by
  intro c hc
  obtain rfl | rfl := h c hc
  · decide +kernel
  · decide +kernel

/-- What ends a type opens no arguments. -/
lemma Ends.head_ne (h : Ends rest) : rest.head? ≠ some '<' := by
  intro he
  obtain hc | hc := h _ he <;> cases hc

/-- A name without arguments is read up to what stops it. -/
lemma typeStep_bare (hl : ∀ c ∈ lead, Blank c) (hn : IsNameText nm) (hg : ∀ c ∈ gap, Blank c)
    (hr : Stops rest) (hne : rest.head? ≠ some '<') :
    typeStep (lead ++ (nm ++ (gap ++ rest))) = .ok (⟨String.ofList nm, []⟩, rest) := by
  rw [typeStep_eq, nameStep_append hl hn hg hr]
  cases rest with
  | nil => rfl
  | cons c rest =>
    have hc : c ≠ '<' := fun e => hne (congrArg some e)
    simp [hc]

/-- After a name and an opening bracket the arguments are read. -/
lemma typeStep_generic {inner} (hl : ∀ c ∈ lead, Blank c) (hn : IsNameText nm)
    (hg : ∀ c ∈ gap, Blank c) :
    typeStep (lead ++ (nm ++ (gap ++ '<' :: inner))) =
      (argumentsStep inner).map fun r => (⟨String.ofList nm, r.1⟩, r.2) := by
  have hb : Stops ('<' :: inner) := stops_cons (by decide +kernel)
  exact typeStep_bracket (nameStep_append hl hn hg hb)

/-- How a type with marks is read in front of a text. The first mark is inside the type and ends the
reading, or it is after the type and left over. -/
inductive Reads (cs rest : List Char) (e : TypeExpr) : Prop where
  | whole :
    '?' ∉ cs →
    typeStep (cs ++ rest) = .ok (e, rest) →
    Reads cs rest e
  | inside :
    '?' ∈ cs →
    typeStep (cs ++ rest) = .error .nullable →
    Reads cs rest e
  | after {marks} :
    ('?' :: marks) <:+ cs →
    (∀ c ∈ marks, Marked c) →
    typeStep (cs ++ rest) = .ok (e, '?' :: (marks ++ rest)) →
    Reads cs rest e

/-- How arguments with marks are read up to the closing bracket. -/
inductive ReadsAll (cs rest : List Char) (es : List TypeExpr) : Prop where
  | whole :
    '?' ∉ cs →
    argumentsStep (cs ++ '>' :: rest) = .ok (es, rest.dropWhile Text.isBlank) →
    ReadsAll cs rest es
  | inside :
    '?' ∈ cs →
    argumentsStep (cs ++ '>' :: rest) = .error .nullable →
    ReadsAll cs rest es

/-- White space is no question mark. -/
lemma not_mem_of_blank (h : ∀ c ∈ cs, Blank c) : '?' ∉ cs := by
  intro hm
  have hq : ¬ Blank '?' := by decide
  exact hq (h _ hm)

/-- There is no question mark in a name. -/
lemma IsNameText.not_mem (h : IsNameText nm) : '?' ∉ nm := by
  intro hm
  have hq : ¬ isNameChar '?' := by decide +kernel
  exact hq ((isNameText_iff.1 h).2 _ hm)

/-- What follows a type is white space, up to the first mark if there is one. -/
lemma tail_cases (h : ∀ c ∈ tail, Marked c) : (∀ c ∈ tail, Blank c) ∨
    ∃ gap marks, tail = gap ++ '?' :: marks ∧ (∀ c ∈ gap, Blank c) ∧ ∀ c ∈ marks, Marked c := by
  by_cases hq : '?' ∈ tail
  · obtain ⟨gap, marks, rfl, hg⟩ := List.eq_append_cons_of_mem hq
    refine .inr ⟨gap, marks, rfl, ?_, fun c hc => h c (by simp [hc])⟩
    intro c hc
    obtain hb | rfl := h c (by simp [hc])
    · exact hb
    · exact (hg hc).elim
  · refine .inl fun c hc => ?_
    obtain hb | rfl := h c hc
    · exact hb
    · exact (hq hc).elim

/-- A question mark ends a name. -/
lemma stops_mark : Stops ('?' :: rest) := stops_cons (by decide +kernel)

/-- A type with marks is read up to its first mark. -/
theorem reads_of_spells (h : Spells Marked cs e) : ∀ rest, Ends rest → Reads cs rest e := by
  induction h using Spells.rec
    (motive_2 := fun cs es _ => ∀ rest, ReadsAll cs rest es) with
  | @bare lead nm tail hl hn ht =>
    intro rest hr
    obtain hb | ⟨gap, marks, rfl, hg, hm⟩ := tail_cases ht
    · refine .whole ?_ ?_
      · simp [not_mem_of_blank hl, hn.not_mem, not_mem_of_blank hb]
      · simpa using typeStep_bare hl hn hb hr.stops hr.head_ne
    · refine .after ⟨lead ++ (nm ++ gap), by simp⟩ hm ?_
      have hstops : Stops ('?' :: (marks ++ rest)) := stops_mark
      simpa using typeStep_bare hl hn hg hstops (by simp)
  | @generic lead nm gap inner es tail hl hn hg _ ht ih =>
    intro rest hr
    have hscan : typeStep (lead ++ (nm ++ (gap ++ '<' :: (inner ++ '>' :: tail))) ++ rest) =
        (argumentsStep (inner ++ '>' :: (tail ++ rest))).map
          fun r => (⟨String.ofList nm, r.1⟩, r.2) := by
      rw [← typeStep_generic hl hn hg]
      simp
    cases ih (tail ++ rest) with
    | inside hq hi =>
      refine .inside (by simp [hq]) ?_
      rw [hscan, hi]
      rfl
    | whole hq hi =>
      obtain hb | ⟨gap', marks, rfl, hg', hm⟩ := tail_cases ht
      · refine .whole ?_ ?_
        · simp [not_mem_of_blank hl, hn.not_mem, not_mem_of_blank hg, hq, not_mem_of_blank hb]
        · rw [hscan, hi, Text.dropWhile_isBlank_append hb fun c hc => (hr.stops c hc).1]
          rfl
      · refine .after ⟨lead ++ (nm ++ (gap ++ '<' :: (inner ++ '>' :: gap'))), by simp⟩ hm ?_
        rw [hscan, hi, List.append_assoc, List.cons_append,
          Text.dropWhile_isBlank_append hg' fun c hc => (stops_mark c hc).1]
        rfl
  | @one cs e _ ih rest =>
    have hr : Ends ('>' :: rest) := fun c hc => .inr (Option.some.inj hc).symm
    cases ih _ hr with
    | whole hq hs => exact .whole hq (argumentsStep_close hs)
    | inside hq hs => exact .inside hq (argumentsStep_error hs)
    | after hm _ hs => exact .inside (hm.subset List.mem_cons_self) (argumentsStep_mark hs)
  | @cons cs e inner es _ _ ih ihall rest =>
    have hr : Ends (',' :: (inner ++ '>' :: rest)) := fun c hc => .inl (Option.some.inj hc).symm
    have hassoc : cs ++ ',' :: inner ++ '>' :: rest = cs ++ ',' :: (inner ++ '>' :: rest) := by
      simp
    cases ih _ hr with
    | whole hq hs =>
      have hargs : argumentsStep (cs ++ ',' :: inner ++ '>' :: rest) =
          (argumentsStep (inner ++ '>' :: rest)).map fun r => (e :: r.1, r.2) := by
        rw [hassoc]
        exact argumentsStep_comma hs
      cases ihall rest with
      | whole hqs hi =>
        refine .whole (by simp [hq, hqs]) ?_
        rw [hargs, hi]
        rfl
      | inside hqs hi =>
        refine .inside (by simp [hqs]) ?_
        rw [hargs, hi]
        rfl
    | inside hq hs =>
      refine .inside (by simp [hq]) ?_
      rw [hassoc]
      exact argumentsStep_error hs
    | after hm _ hs =>
      refine .inside (List.mem_append_left _ (hm.subset List.mem_cons_self)) ?_
      rw [hassoc]
      exact argumentsStep_mark hs

/-- A text of the grammar is one of each wider grammar. -/
lemma Spells.mono {After After' : Char → Prop} (h : Spells After cs e)
    (hA : ∀ c, After c → After' c) : Spells After' cs e := by
  induction h using Spells.rec (motive_2 := fun cs es _ => SpellsAll After' cs es) with
  | bare hl hn ht => exact .bare hl hn fun c hc => hA c (ht c hc)
  | generic hl hn hg _ ht ih => exact .generic hl hn hg ih fun c hc => hA c (ht c hc)
  | one _ ih => exact .one ih
  | cons _ _ ih ihall => exact .cons ih ihall

/-- The texts of types have no question marks. -/
lemma Spells.not_mem (h : Spells Blank cs e) : '?' ∉ cs := by
  induction h using Spells.rec (motive_2 := fun cs _ _ => '?' ∉ cs) with
  | bare hl hn ht => simp [not_mem_of_blank hl, hn.not_mem, not_mem_of_blank ht]
  | generic hl hn hg _ ht ih =>
    simp [not_mem_of_blank hl, hn.not_mem, not_mem_of_blank hg, ih, not_mem_of_blank ht]
  | one _ ih => exact ih
  | cons _ _ ih ihall => simp [ih, ihall]

/-- The whole text is read as one type, with nothing left over. -/
lemma read_eq : read cs =
    if cs.getLast? = some '?' then .error .nullable
    else match typeStep cs with
      | .error stop => .error stop
      | .ok (e, []) => .ok e
      | .ok _ => .error .malformed := by
  unfold read typeStep
  split
  · next hq => rw [if_pos hq]
  · next hq =>
    rw [if_neg hq]
    cases scan cs with
    | error stop => rfl
    | ok r =>
      obtain ⟨e, rest, hr⟩ := r
      cases rest <;> rfl

/-- A text of the grammar is read as what it spells. -/
lemma read_of_spells (h : Spells Blank cs e) : read cs = .ok e := by
  have hq := h.not_mem
  have hlast : cs.getLast? ≠ some '?' := fun hl => hq (List.mem_of_getLast? hl)
  have hends : Ends [] := nofun
  rw [read_eq, if_neg hlast]
  cases reads_of_spells (h.mono fun c => .inl) [] hends with
  | whole _ hs =>
    rw [List.append_nil] at hs
    rw [hs]
  | inside hm => exact (hq hm).elim
  | after hm => exact (hq (hm.subset List.mem_cons_self)).elim

/-- A text that is read is one of the grammar. -/
lemma spells_of_read (h : read cs = .ok e) : Spells Blank cs e := by
  have ht := (tells cs).1
  rw [read_eq] at h
  split at h
  · cases h
  · cases hs : typeStep cs with
    | error stop =>
      rw [hs] at h
      cases h
    | ok r =>
      obtain ⟨e', rest⟩ := r
      rw [hs] at h ht
      cases rest with
      | cons => cases h
      | nil =>
        cases h
        obtain ⟨taken, rfl, hsp⟩ := ht
        rwa [List.append_nil]

/-- A text with a mark is refused for it, if no white space is behind its last mark. -/
lemma read_of_marked (h : Spells Marked cs e) (hq : '?' ∈ cs)
    (hlast : ∀ c ∈ cs.getLast?, ¬ Blank c) : read cs = .error .nullable := by
  have hends : Ends [] := nofun
  rw [read_eq]
  split
  · rfl
  · next hne =>
    cases reads_of_spells h [] hends with
    | whole hn => exact (hn hq).elim
    | inside _ hs =>
      rw [List.append_nil] at hs
      rw [hs]
    | @after marks hm hmarks =>
      obtain ⟨front, rfl⟩ := hm
      have hend : (front ++ '?' :: marks).getLast? = some (marks.getLast?.getD '?') := by
        simp [List.getLast?_append, List.getLast?_cons]
      rw [hend] at hne hlast
      cases hl : marks.getLast? with
      | none => simp [hl] at hne
      | some c =>
        rw [hl] at hne hlast
        obtain hb | rfl := hmarks c (List.mem_of_getLast? hl)
        · exact (hlast c rfl hb).elim
        · exact (hne rfl).elim

/-- A text without a question mark is not refused for one. -/
lemma read_ne_nullable (hq : '?' ∉ cs) : read cs ≠ .error .nullable := by
  have ht := (tells cs).1
  intro h
  rw [read_eq] at h
  split at h
  · next hl => exact hq (List.mem_of_getLast? hl)
  · cases hs : typeStep cs with
    | error stop =>
      rw [hs] at h ht
      cases h
      exact hq ht
    | ok r =>
      obtain ⟨e', rest⟩ := r
      rw [hs] at h
      cases rest <;> cases h

/-- Parsing is exact. A text is a type if the grammar derives it when the white space around it is
taken off, and then it is the expression it spells, so each expression is read back from each way to
print it. A text with question marks after types is nullable, and any other text without one is
malformed. -/
theorem parse_exact (source : String) :
    let cs := Text.trimChars source.toList
    (∀ e, parse source = .ok e ↔ Spells Blank cs e) ∧
    (∀ e : TypeExpr, e.Legal → Spaced e.tokens source.toList → parse source = .ok e) ∧
    (∀ e, Spells Marked source.toList e → '?' ∈ source.toList →
      parse source = .error (.nullable (String.ofList cs))) ∧
    ((∀ e, ¬ Spells Blank source.toList e) → '?' ∉ source.toList →
      parse source = .error (.malformed (String.ofList cs))) := by
  intro cs
  have hq : ¬ Blank '?' := by decide
  have hread : ∀ e, parse source = .ok e ↔ read cs = .ok e := by
    intro e
    unfold parse
    dsimp only
    split
    · next he => rw [he]; simp
    · next he => rw [he]; simp
    · next he => rw [he]; simp
  have hok : ∀ e, parse source = .ok e ↔ Spells Blank cs e := by
    intro e
    rw [hread]
    exact ⟨spells_of_read, read_of_spells⟩
  have htrim : ∀ e, Spells Blank cs e ↔ Spells Blank source.toList e :=
    fun e => spells_trimChars fun c hc => hc
  refine ⟨hok, ?_, ?_, ?_⟩
  · intro e hl hs
    rw [hok, htrim]
    exact spells_of_spaced e hl hs
  · intro e hs hm
    have hr : read cs = .error .nullable :=
      read_of_marked hs.trim ((Text.mem_trimChars hq).2 hm) fun c => Text.not_blank_of_getLast?
    unfold parse
    dsimp only
    rw [hr]
  · intro hno hm
    unfold parse
    dsimp only
    cases hr : read cs with
    | ok e => exact (hno e ((htrim e).1 (spells_of_read hr))).elim
    | error stop =>
      cases stop with
      | malformed => rfl
      | nullable => exact (read_ne_nullable (fun h => hm ((Text.mem_trimChars hq).1 h)) hr).elim

/-- A pair with white space between its tokens is read back, one with a mark inside is nullable, and
the empty text is malformed. -/
theorem parse_pair :
    parse "P < a.B ,\tC>\n" = .ok ⟨"P", [⟨"a.B", []⟩, ⟨"C", []⟩]⟩ ∧
    parse "P<A ?, B>" = .error (.nullable "P<A ?, B>") ∧
    parse "" = .error (.malformed "") := by
  have hnil : ∀ c ∈ ([] : List Char), Blank c := nofun
  have hspace : ∀ c ∈ [' '], Blank c := List.forall_mem_singleton.2 (by decide)
  refine ⟨(parse_exact _).2.1 _ ?_ ?_,
    (parse_exact "P<A ?, B>").2.2.1 ⟨"P", [⟨"A", []⟩, ⟨"B", []⟩]⟩ ?_ (by decide),
    (parse_exact "").2.2.2 ?_ (by decide)⟩
  · simp only [Legal, LegalAll, and_true]
    decide +kernel
  · have htab : ∀ c ∈ ['\t'], Blank c := List.forall_mem_singleton.2 (by decide)
    have hline : ∀ c ∈ ['\n'], Blank c := List.forall_mem_singleton.2 (by decide)
    have h : Spaced [['P'], ['<'], ['a', '.', 'B'], [','], ['C'], ['>']]
        ['P', ' ', '<', ' ', 'a', '.', 'B', ' ', ',', '\t', 'C', '>', '\n'] :=
      .next hnil (.next hspace (.next hspace (.next hspace (.next htab (.next hnil
        (.done hline))))))
    simpa [tokens, tokensAll] using h
  · have hp : IsNameText ['P'] := by decide +kernel
    have ha : IsNameText ['A'] := by decide +kernel
    have hb : IsNameText ['B'] := by decide +kernel
    have hmark : ∀ c ∈ [' ', '?'], Marked c :=
      List.forall_mem_cons.2 ⟨by decide, List.forall_mem_singleton.2 (by decide)⟩
    have hend : ∀ c ∈ ([] : List Char), Marked c := nofun
    have hargs : SpellsAll Marked ['A', ' ', '?', ',', ' ', 'B']
        [⟨String.ofList ['A'], []⟩, ⟨String.ofList ['B'], []⟩] :=
      .cons (.bare hnil ha hmark) (.one (.bare hspace hb hend))
    simpa using Spells.generic hnil hp hnil hargs hend
  · have hne {cs e} (h : Spells Blank cs e) : cs ≠ [] := by
      cases h with
      | bare _ hn => simp [hn.ne_nil]
      | generic => simp
    exact fun e h => hne h rfl

end TypedBundle.TypeExpr
