import Mathlib.Data.List.DropRight
import TypedBundle.Command.FileTree
import TypedBundle.Proofs.Lookup

/-!
# Where paths lead

The place that a path leads to can be told from the path, whatever stands in the tree:
`FileTree.target`. A tree only says whether a path leads anywhere. So the places of files that are
written one after the other can be told from their paths alone.
-/

namespace TypedBundle.FileTree

/-- The place one name away from another. -/
def descend (p : Place) (name : String) : Place :=
  if name = "" ∨ name = "." then p else if name = ".." then p.dropLast else p ++ [name]

/-- The path starts at the root. -/
def IsAbsolute (path : String) : Prop := path.toList.head? = some '/'

instance (path : String) : Decidable (IsAbsolute path) := inferInstanceAs (Decidable (_ = _))

/-- The place that a path names, whatever stands on the way. The empty path names the working
directory. -/
def target (t : FileTree) (path : String) : Place :=
  (names path).foldl descend (if IsAbsolute path then [] else t.workingDirectory)

/-- The names in a path that lead on. -/
def steps (path : String) : List String := (names path).filter fun name => name ≠ "" ∧ name ≠ "."

/-- A way from one place to another: first up, then down. -/
structure Way where
  up : Nat := 0
  down : Place := []

namespace Way

/-- The place at the end of the way from another. Nothing is above the root. -/
def target (w : Way) (p : Place) : Place := p.rdrop w.up ++ w.down

/-- The way with one more name. -/
def next (w : Way) (name : String) : Way :=
  if name = "" ∨ name = "." then w
  else if name = ".." then
    if w.down = [] then { w with up := w.up + 1 } else { w with down := w.down.dropLast }
  else { w with down := w.down ++ [name] }

/-- The way that names make. -/
def ofNames (names : List String) : Way := names.foldl next {}

end Way

section Names

/-- The names of two paths with a slash between them. -/
lemma names_append_slash (a b : String) : names (a ++ "/" ++ b) = names a ++ names b := by
  simp [names, List.splitOn_append_cons_self]

/-- What stands before a text without the separator goes to its first part. -/
lemma splitOn_append_of_not_mem {xs ys : List Char} (h : '/' ∉ xs) :
    (xs ++ ys).splitOn '/' = (ys.splitOn '/').modifyHead (xs ++ ·) := by
  induction xs with
  | nil =>
    rw [List.nil_append]
    cases ys.splitOn '/' <;> rfl
  | cons x rest ih =>
    rw [List.mem_cons, not_or] at h
    rw [List.cons_append, List.splitOn_cons_eq_if_modifyHead, if_neg (by simpa using Ne.symm h.1),
      ih h.2]
    cases ys.splitOn '/' <;> rfl

/-- A text without a slash makes the first name of a path longer. -/
lemma names_append {a b : String} (h : '/' ∉ a.toList) :
    names (a ++ b) = (names b).modifyHead (a ++ ·) := by
  unfold names
  rw [String.toList_append, splitOn_append_of_not_mem h]
  cases b.toList.splitOn '/' with
  | nil => rfl
  | cons name rest => simp

/-- A path has some name, be it empty. -/
lemma exists_names (path : String) : ∃ name rest, names path = name :: rest := by
  cases h : names path with
  | nil => simp [names, List.splitOn_ne_nil] at h
  | cons name rest => exact ⟨name, rest, rfl⟩

/-- What stands in a part of a text stands in the text. -/
lemma mem_of_mem_splitOn {xs part : List Char} {x c} (hp : part ∈ xs.splitOn x) (hc : c ∈ part) :
    c ∈ xs := by
  induction xs generalizing part with
  | nil =>
    obtain rfl : part = [] := by simpa using hp
    exact hc
  | cons y rest ih =>
    rw [List.splitOn_cons_eq_if_modifyHead] at hp
    split at hp
    · obtain rfl | hp := List.mem_cons.1 hp
      · cases hc
      · exact List.mem_cons_of_mem _ (ih hp hc)
    · cases hr : rest.splitOn x with
      | nil => exact (List.splitOn_ne_nil _ _ hr).elim
      | cons first others =>
        rw [hr, List.modifyHead_cons] at hp
        rw [hr] at ih
        obtain rfl | hp := List.mem_cons.1 hp
        · obtain rfl | hc := List.mem_cons.1 hc
          · exact List.mem_cons_self
          · exact List.mem_cons_of_mem _ (ih List.mem_cons_self hc)
        · exact List.mem_cons_of_mem _ (ih (List.mem_cons_of_mem _ hp) hc)

/-- The characters of a name in a path are characters of the path. -/
lemma mem_of_mem_names {path name c} (hn : name ∈ names path) (hc : c ∈ name.toList) :
    c ∈ path.toList := by
  obtain ⟨part, hp, rfl⟩ := List.mem_map.1 hn
  rw [String.toList_ofList] at hc
  exact mem_of_mem_splitOn hp hc

/-- The first name is empty if the path is, or if it starts at the root. -/
lemma names_eq_empty_cons {path} :
    (∃ rest, names path = "" :: rest) ↔ path = "" ∨ IsAbsolute path := by
  have he : path = "" ↔ path.toList = [] := by simp
  rw [he]
  unfold names IsAbsolute
  cases path.toList with
  | nil => simp [String.ofList_nil]
  | cons c rest =>
    rw [List.splitOn_cons_eq_if_modifyHead]
    by_cases hc : c = '/'
    · simp [hc]
    · cases hr : rest.splitOn '/' with
      | nil => exact (List.splitOn_ne_nil _ _ hr).elim
      | cons name others => simp [hc]

end Names

section Descent

variable {t : FileTree} {p q : Place}

/-- An empty name stays. -/
@[simp] lemma descend_empty : descend p "" = p := by simp [descend]

/-- At the end of a way a name leads where the way with that name leads. -/
lemma descend_target {w : Way} {name} : descend (w.target p) name = (w.next name).target p := by
  unfold descend Way.next
  split
  · rfl
  · split
    · split
      · next hd =>
        have hdrop : (p.rdrop w.up).dropLast = p.rdrop (w.up + 1) := by
          unfold List.rdrop
          rw [List.dropLast_eq_take, List.take_take, List.length_take]
          congr 1
          omega
        simp [Way.target, hd, hdrop]
      · next hd => exact List.dropLast_append_of_ne_nil hd
    · exact List.append_assoc ..

/-- Names lead where the way that they make leads. -/
lemma foldl_descend_eq_target {ns : List String} :
    ns.foldl descend p = (Way.ofNames ns).target p := by
  have h : ∀ w : Way, ns.foldl descend (w.target p) = (ns.foldl Way.next w).target p := by
    induction ns with
    | nil => exact fun _ => rfl
    | cons name rest ih =>
      intro w
      rw [List.foldl_cons, descend_target]
      exact ih _
  have hstart : (Way.target {} p) = p := by simp [Way.target]
  have hp := h {}
  rwa [hstart] at hp

/-- Names that do not lead up make a way down. -/
lemma ofNames_eq {ns : List String} (h : ".." ∉ ns) :
    Way.ofNames ns = { down := ns.filter fun name => name ≠ "" ∧ name ≠ "." } := by
  have hw : ∀ w : Way, ns.foldl Way.next w =
      { w with down := w.down ++ ns.filter fun name => name ≠ "" ∧ name ≠ "." } := by
    induction ns with
    | nil => simp
    | cons name rest ih =>
      intro w
      rw [List.mem_cons, not_or] at h
      rw [List.foldl_cons, ih h.2]
      unfold Way.next
      by_cases hn : name = "" ∨ name = "."
      · obtain rfl | rfl := hn <;> simp
      · rw [if_neg hn, if_neg (Ne.symm h.1)]
        rw [not_or] at hn
        simp [hn]
  exact hw {}

/-- They are added one after the other to where the way starts. -/
lemma foldl_descend {ns : List String} (h : ".." ∉ ns) :
    ns.foldl descend p = p ++ ns.filter fun name => name ≠ "" ∧ name ≠ "." := by
  rw [foldl_descend_eq_target, ofNames_eq h]
  simp [Way.target]

/-- A step leads where the name says, if it leads anywhere. -/
lemma descend_of_step {name} (h : t.step p name = some q) : descend p name = q := by
  unfold step at h
  unfold descend
  grind

/-- So do several steps. -/
lemma foldl_descend_of_follow {ns} (h : t.follow p ns = some q) : ns.foldl descend p = q := by
  induction ns generalizing p with
  | nil => exact Option.some.inj h
  | cons name rest ih =>
    obtain ⟨p', hp, hr⟩ := Option.bind_eq_some_iff.1 h
    rw [List.foldl_cons, descend_of_step hp]
    exact ih hr

/-- The names after the start lead on to the place that the path names. -/
lemma foldl_descend_start {path} (h : path ≠ "") :
    (t.start path).2.foldl descend (t.start path).1 = t.target path := by
  unfold start target
  by_cases ha : IsAbsolute path
  · obtain ⟨rest, hr⟩ := names_eq_empty_cons.2 (.inr ha)
    simp [hr, ha]
  · obtain ⟨name, rest, hr⟩ := exists_names path
    have hn : name ≠ "" := by
      rintro rfl
      exact not_or.2 ⟨h, ha⟩ (names_eq_empty_cons.1 ⟨rest, hr⟩)
    rw [hr, if_neg ha]
    split
    · next e => cases e; exact (hn rfl).elim
    · rfl

/-- A path that leads anywhere leads to the place that it names. -/
lemma target_of_place? {path} (hp : path ≠ "") (h : t.place? path = some p) :
    t.target path = p := by
  unfold place? at h
  obtain ⟨-, -, h⟩ := Option.bind_eq_some_iff.1 h
  rw [← foldl_descend_start hp]
  exact foldl_descend_of_follow h

end Descent

section Join

variable {t : FileTree}

/-- A path that starts at the root leads to its own place after any other. -/
lemma target_join_of_isAbsolute {base path} (h : IsAbsolute path) :
    t.target (join base path) = (names path).foldl descend [] := by
  have hj : join base path = path := if_pos h
  rw [hj, target, if_pos h]

/-- Any other path leads on from the place of the one before it. -/
lemma target_join {base path} (h : ¬ IsAbsolute path) :
    t.target (join base path) = (names path).foldl descend (t.target base) := by
  have hj : join base path =
      if base = "" ∨ base.toList.getLast? = some '/' then base ++ path else base ++ "/" ++ path :=
    if_neg h
  rw [hj]
  by_cases hb : base = ""
  · subst hb
    have he : t.target "" = t.workingDirectory := by simp [target, names, IsAbsolute]
    rw [if_pos (.inl rfl), String.empty_append, he, target, if_neg h]
  · have ha : ∀ rest, IsAbsolute (base ++ rest) ↔ IsAbsolute base := by
      intro rest
      unfold IsAbsolute
      rw [String.toList_append]
      cases hc : base.toList with
      | nil => exact (hb (by simpa using hc)).elim
      | cons c cs => rfl
    by_cases hl : base.toList.getLast? = some '/'
    · -- the slash at the end of the first path is the one between the two
      obtain ⟨b, rfl⟩ : ∃ b, base = b ++ "/" := by
        obtain ⟨cs, hcs⟩ := List.getLast?_eq_some_iff.1 hl
        exact ⟨String.ofList cs, by rw [← String.toList_inj]; simp [hcs]⟩
      have hs : names (b ++ "/") = names b ++ [""] := by
        have := names_append_slash b ""
        simpa [names] using this
      rw [if_pos (.inr hl)]
      simp only [target, ha, names_append_slash, hs, List.foldl_append, List.foldl_cons,
        List.foldl_nil, descend_empty]
    · rw [if_neg (not_or.2 ⟨hb, hl⟩), String.append_assoc]
      simp only [target, ha]
      rw [← String.append_assoc, names_append_slash, List.foldl_append]

end Join

section Effects

variable {t t' : FileTree}

/-- Making the directories on a way keeps the files. -/
lemma makeSteps_frame {p ns} (h : t.makeSteps p ns = some t') :
    t'.workingDirectory = t.workingDirectory ∧ t'.files = t.files := by
  induction ns generalizing t p with
  | nil =>
    cases h
    exact ⟨rfl, rfl⟩
  | cons name rest ih =>
    obtain ⟨q, -, h⟩ := Option.bind_eq_some_iff.1 h
    split at h
    · cases h
    · split at h
      · exact ih h
      · exact ih (t := { t with directories := t.directories ++ [q] }) h

/-- Making directories keeps the files. -/
lemma makeDirectories_frame {path} (h : t.makeDirectories path = some t') :
    t'.workingDirectory = t.workingDirectory ∧ t'.files = t.files := by
  unfold makeDirectories at h
  by_cases hp : path = ""
  · rw [if_pos hp] at h
    cases h
    exact ⟨rfl, rfl⟩
  · rw [if_neg hp] at h
    obtain ⟨-, -, h⟩ := Option.bind_eq_some_iff.1 h
    generalize t.start path = start at h
    obtain ⟨p, ns⟩ := start
    dsimp only at h
    split at h
    · obtain ⟨t₁, h₁, h⟩ := Option.bind_eq_some_iff.1 h
      obtain ⟨-, -, rfl⟩ := Option.map_eq_some_iff.1 h
      exact makeSteps_frame h₁
    · exact makeSteps_frame h

/-- Writing a file puts its text at the place that the path names, and keeps the others. -/
lemma write_frame {path text} (h : t.write path text = some t') :
    t'.workingDirectory = t.workingDirectory ∧
      ∀ p, t'.files.lookup p = if p = t.target path then some text else t.files.lookup p := by
  obtain ⟨_, hg, h⟩ := Option.bind_eq_some_iff.1 h
  obtain ⟨q, hq, h⟩ := Option.bind_eq_some_iff.1 h
  have hp : path ≠ "" := by
    rintro rfl
    have hn : isName ((names "").getLast?.getD "") = false := by simp [names, isName]
    rw [hn] at hg
    cases hg
  rw [target_of_place? hp hq]
  split at h
  · cases h
  · cases h
    refine ⟨rfl, fun p => ?_⟩
    rw [List.lookup_append, List.lookup_filter_ne, List.lookup_cons]
    by_cases hpq : p = q
    · simp [hpq]
    · simp [hpq, beq_false_of_ne hpq]

end Effects

end TypedBundle.FileTree
