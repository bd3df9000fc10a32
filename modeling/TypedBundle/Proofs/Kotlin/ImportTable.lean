import TypedBundle.Proofs.Kotlin.Registration

/-!
# The import table

Registrations in turn, of single classes or of all those in a type, give a simple name to the first
class that comes with it (`Imports.find?_foldl_addName`). All else about the table follows: its
imports, how it writes the registered classes, and that no later registration changes how these are
written (`Imports.registrations_consistent`).
-/

namespace TypedBundle

namespace Name

variable {n m : String}

/-- A class outside the default package has a name with dots. -/
lemma mem_of_package_ne (h : package n ≠ "") : '.' ∈ n.toList := by
  by_contra hn
  exact h (simple_package_of_not_mem hn).2

/-- Its name is no simple name. -/
lemma ne_simple_of_package_ne (h : package n ≠ "") : n ≠ simple m := by
  intro e
  have hm := mem_of_package_ne h
  rw [e] at hm
  exact not_mem_simple hm

end Name

namespace NameSet

variable {ns : List String}

/-- A set made from a list is kept in increasing order. -/
lemma pairwise_ofList : (ofList ns).toList.Pairwise (· < ·) := by
  have hs : ∀ s : NameSet, s.toList.Pairwise (· < ·) →
      (ns.foldl insert s).toList.Pairwise (· < ·) := by
    induction ns with
    | nil => exact fun _ h => h
    | cons n rest ih => exact fun s h => ih _ (pairwise_insertName n h)
  exact hs empty List.Pairwise.nil

/-- If no name of the list occurs twice, then the set is the list in another order. -/
lemma ofList_perm (h : ns.Nodup) : (ofList ns).toList.Perm ns := by
  have hn : (ofList ns).toList.Nodup := pairwise_ofList.imp fun hlt => String.ne_of_lt hlt
  exact (List.perm_ext_iff_of_nodup hn h).2 fun _ => mem_ofList

end NameSet

namespace Kotlin

/-- A call that registers a class, or all classes in a type. -/
inductive Registration where
  | name (n : String)
  | type (ty : TypeDescriptor)

/-- The classes that the call registers, in order. -/
def Registration.names : Registration → List String
  | name n => [n]
  | type ty => ty.names

/-- The class is the first of the list with its simple name. -/
def IsFirst (ns : List String) (n : String) : Prop :=
  ∃ before after, ns = before ++ n :: after ∧ ∀ m ∈ before, Name.simple m ≠ Name.simple n

/-- The first name of a list with some simple name is the one that is found. -/
lemma isFirst_iff {ns n} :
    IsFirst ns n ↔ ns.find? (Name.simple · == Name.simple n) = some n := by
  rw [List.find?_eq_some_iff_append]
  simp [IsFirst]

namespace Imports

variable {i j : Imports} {ns : List String} {n : String}

/-- Registers what the call says. -/
def register (i : Imports) : Registration → Imports
  | .name n => i.addName n
  | .type ty => i.add ty

/-- The table of a file in the package after calls in turn. -/
def ofRegistrations (package : String) (rs : List Registration) : Imports :=
  rs.foldl register { package }

/-- What the table is to make of the classes that are registered with it in turn. -/
structure Consistent (package : String) (ns : List String) (i : Imports) : Prop where
  lines_eq : i.lines = i.imported.map ("import " ++ ·)
  sorted : i.imported.Pairwise (· < ·)
  imported_perm : i.imported.Perm ((i.owners.toList.map Prod.snd).filter (!i.isVisible ·))
  simple_nodup : (i.imported.map Name.simple).Nodup
  className_inj : ∀ n ∈ ns, ∀ m ∈ ns, n ≠ m → i.className n ≠ i.className m
  short_iff : ∀ n ∈ ns, i.className n = Name.simple n ↔ IsFirst ns n
  full : ∀ n ∈ ns, ¬ IsFirst ns n → i.className n = n
  in_reach : ∀ n ∈ ns, i.className n = Name.simple n →
    Name.package n = package ∨ Name.package n ∈ implicitPackages ∨ "import " ++ n ∈ i.lines
  used : ∀ line ∈ i.lines, ∃ n ∈ ns, line = "import " ++ n ∧ i.className n = Name.simple n

/-- The calls register their classes in turn. -/
lemma ofRegistrations_eq {package rs} :
    ofRegistrations package rs = (rs.flatMap Registration.names).foldl addName { package } := by
  have hr : register = fun i r => r.names.foldl addName i := by
    funext i r
    cases r <;> rfl
  rw [List.foldl_flatMap, ofRegistrations, hr]

/-- A simple name belongs to its owner from before or else to the first class that comes with it. -/
lemma find?_foldl_addName {k} :
    (ns.foldl addName i).owners.find? k =
      (i.owners.find? k).or (ns.find? (Name.simple · == k)) := by
  induction ns generalizing i with
  | nil => simp
  | cons n rest ih =>
    rw [List.foldl_cons, ih, List.find?_cons]
    unfold addName Dict.contains
    by_cases hk : Name.simple n = k
    · subst hk
      cases ho : i.owners.find? (Name.simple n) with
      | some owner => simp [ho]
      | none => simp [Dict.find?_insert]
    · rw [beq_false_of_ne hk]
      split
      · rfl
      · rw [Dict.find?_insert, if_neg (Ne.symm hk)]

/-- The owner of a registered class's simple name is the first class that came with it. -/
lemma find?_ofRegistrations (package : String) {rs k} :
    (ofRegistrations package rs).owners.find? k =
      (rs.flatMap Registration.names).find? (Name.simple · == k) := by
  rw [ofRegistrations_eq, find?_foldl_addName]
  rfl

/-- A table covers the classes that are registered with it, and keeps the package of its file. -/
lemma covers_ofRegistrations (package : String) (rs : List Registration) :
    (ofRegistrations package rs).Covers (rs.flatMap Registration.names) ∧
      (ofRegistrations package rs).package = package := by
  rw [ofRegistrations_eq]
  exact covers_foldl .empty

/-- The owners of a table that covers classes are distinct. -/
lemma Covers.nodup_owners (h : i.Covers ns) : (i.owners.toList.map Prod.snd).Nodup := by
  -- the keys are distinct, and each is the simple name of its owner
  have hk : (i.owners.toList.map Prod.snd).map Name.simple = i.owners.toList.map Prod.fst := by
    rw [List.map_map, List.map_inj_left]
    rintro ⟨k, m⟩ hm
    exact (h.owner k m ((List.lookup_eq_some_iff_mem h.nodup).2 hm)).1
  have hn := h.nodup
  rw [← hk] at hn
  exact hn.of_map _

/-- Imports are sorted and are no other than the owners that the file does not see anyway. -/
lemma Covers.imported_perm (h : i.Covers ns) :
    i.imported.Perm ((i.owners.toList.map Prod.snd).filter (!i.isVisible ·)) :=
  NameSet.ofList_perm (h.nodup_owners.filter _)

/-- No two imports share a simple name. -/
lemma Covers.nodup_simple (h : i.Covers ns) : (i.imported.map Name.simple).Nodup := by
  have hn : i.imported.Nodup :=
    NameSet.pairwise_ofList.imp fun hlt => String.ne_of_lt hlt
  rw [List.nodup_map_iff_inj_on hn]
  intro n hn m hm hs
  obtain ⟨ho, -⟩ := h.mem_imported_iff.1 hn
  obtain ⟨ho', -⟩ := h.mem_imported_iff.1 hm
  rw [hs, ho'] at ho
  exact (Option.some.inj ho).symm

/-- A line of the table imports a class. -/
lemma import_mem_lines_iff : "import " ++ n ∈ i.lines ↔ n ∈ i.imported := by
  unfold lines
  rw [List.mem_map]
  constructor
  · rintro ⟨m, hm, e⟩
    rwa [← (String.append_right_inj _).1 e]
  · exact fun hn => ⟨n, hn, rfl⟩

/-- Of two covered classes, if they are written alike then they are one class. -/
lemma Covers.eq_of_className_eq (h : i.Covers ns) (hp : ∀ n ∈ ns, Name.package n ≠ "") {m}
    (hn : n ∈ ns) (hm : m ∈ ns) (he : i.className n = i.className m) : n = m := by
  obtain ⟨owner, -, ho, hs, hc⟩ := h.className_cases hn
  obtain ⟨owner', -, ho', hs', hc'⟩ := h.className_cases hm
  rw [hc, hc'] at he
  split at he
  · next hown =>
    split at he
    · next hown' =>
      rw [he, ho'] at ho
      rw [← hown, ← hown', Option.some.inj ho]
    · exact (Name.ne_simple_of_package_ne (hp m hm) he.symm).elim
  · split at he
    · exact (Name.ne_simple_of_package_ne (hp n hn) he).elim
    · exact he

mutual

/-- A type is written alike with two tables if its classes are. -/
lemma typeLine_congr : ∀ {ty : TypeDescriptor},
    (∀ n ∈ ty.names, i.className n = j.className n) → i.typeLine ty = j.typeLine ty
  | ⟨name, [], _, _, _⟩, h => by
    have hn : i.className name = j.className name := h name List.mem_cons_self
    simp only [typeLine, classLine, hn]
  | ⟨name, first :: others, _, _, _⟩, h => by
    obtain ⟨hn, h⟩ := List.forall_mem_cons.1 h
    obtain ⟨hf, ho⟩ := List.forall_mem_append.1 h
    simp only [typeLine, classLine, hn, typeLine_congr hf, typeLines_congr ho]

/-- So are types in turn. -/
lemma typeLines_congr : ∀ {tys : List TypeDescriptor},
    (∀ n ∈ TypeDescriptor.namesAll tys, i.className n = j.className n) →
      i.typeLines tys = j.typeLines tys
  | [], _ => rfl
  | ty :: rest, h => by
    obtain ⟨ht, hr⟩ := List.forall_mem_append.1 h
    simp only [typeLines, typeLine_congr ht, typeLines_congr hr]

end

/-- A registered class is written short if it was the first with its simple name, and otherwise in
full. -/
lemma className_ofRegistrations (package : String) {rs} (hn : n ∈ rs.flatMap Registration.names) :
    (IsFirst (rs.flatMap Registration.names) n →
      (ofRegistrations package rs).className n = Name.simple n) ∧
    (¬ IsFirst (rs.flatMap Registration.names) n →
      (ofRegistrations package rs).className n = n) := by
  obtain ⟨owner, -, ho, -, hc⟩ :=
    (covers_ofRegistrations package rs).1.className_cases hn
  rw [find?_ofRegistrations] at ho
  rw [isFirst_iff, ho, hc]
  constructor
  · intro h
    exact if_pos (Option.some.inj h)
  · intro h
    exact if_neg fun e => h (congrArg some e)

/-- A registered class keeps its spelling, whatever is registered later. -/
lemma className_append {package rs later} (hn : n ∈ rs.flatMap Registration.names) :
    (ofRegistrations package (rs ++ later)).className n =
      (ofRegistrations package rs).className n := by
  obtain ⟨owner, -, ho, -, -⟩ :=
    (covers_ofRegistrations package rs).1.className_cases hn
  have hl : (ofRegistrations package (rs ++ later)).owners.find? (Name.simple n) = some owner := by
    rw [find?_ofRegistrations] at ho ⊢
    rw [List.flatMap_append, List.find?_append, ho]
    rfl
  unfold className
  rw [ho, hl]

/-- The table makes of the registered classes what it should. -/
lemma consistent_ofRegistrations {package rs}
    (h : ∀ n ∈ rs.flatMap Registration.names, Name.package n ≠ "") :
    Consistent package (rs.flatMap Registration.names) (ofRegistrations package rs) := by
  obtain ⟨hc, hp⟩ := covers_ofRegistrations package rs
  have hshort : ∀ n ∈ rs.flatMap Registration.names,
      (ofRegistrations package rs).className n = Name.simple n ↔
        IsFirst (rs.flatMap Registration.names) n := by
    intro n hn
    obtain ⟨hs, hf⟩ := className_ofRegistrations package hn
    refine ⟨fun he => ?_, hs⟩
    by_contra hfirst
    exact Name.ne_simple_of_package_ne (h n hn) ((hf hfirst).symm.trans he)
  refine ⟨rfl, NameSet.pairwise_ofList, hc.imported_perm, hc.nodup_simple, ?_, hshort, ?_, ?_, ?_⟩
  · intro n hn m hm hne he
    exact hne (hc.eq_of_className_eq h hn hm he)
  · intro n hn
    exact (className_ofRegistrations package hn).2
  · intro n hn hs
    rw [hshort n hn, isFirst_iff, ← find?_ofRegistrations package] at hs
    rw [import_mem_lines_iff, hc.mem_imported_iff]
    by_cases hv : (ofRegistrations package rs).isVisible n
    · unfold isVisible at hv
      rw [hp, Bool.or_eq_true, beq_iff_eq, List.contains_iff_mem] at hv
      exact hv.imp_right .inl
    · exact .inr (.inr ⟨hs, hv⟩)
  · intro line hl
    obtain ⟨n, hn, rfl⟩ := List.mem_map.1 hl
    obtain ⟨ho, -⟩ := hc.mem_imported_iff.1 hn
    have hm := (hc.owner _ _ ho).2
    rw [find?_ofRegistrations, ← isFirst_iff] at ho
    exact ⟨n, hm, rfl, (hshort n hm).2 ho⟩

/-- Whatever classes outside the default package are registered, one by one or with the types that
name them, the table is consistent: sorted, one import for a simple name, no two classes written
alike, and a class written short exactly if it came first with its simple name, when it is in reach.
Later registrations change neither how a registered class is written nor a type of such classes. -/
theorem registrations_consistent (package : String) {rs}
    (h : ∀ n ∈ rs.flatMap Registration.names, Name.package n ≠ "") :
    Consistent package (rs.flatMap Registration.names) (ofRegistrations package rs) ∧
    ∀ later,
      (∀ n ∈ rs.flatMap Registration.names,
        (ofRegistrations package (rs ++ later)).className n =
          (ofRegistrations package rs).className n) ∧
      ∀ ty : TypeDescriptor, (∀ n ∈ ty.names, n ∈ rs.flatMap Registration.names) →
        (ofRegistrations package (rs ++ later)).typeName ty =
          (ofRegistrations package rs).typeName ty := by
  refine ⟨consistent_ofRegistrations h, fun later => ⟨fun n => className_append, ?_⟩⟩
  intro ty hty
  unfold typeName
  rw [typeLine_congr fun n hn => className_append (hty n hn)]

/-- Two classes that share a simple name, and a list whose argument comes with one more. -/
def items : List Registration :=
  [.name "com.first.Item", .name "com.second.Item",
    .type { name := "kotlin.collections.List", arguments := [{ name := "com.third.Child" }] }]

/-- The first of the two is imported and written short, the second in full, also after one more
class of that simple name. -/
theorem items_consistent :
    (∀ n ∈ items.flatMap Registration.names, Name.package n ≠ "") ∧
      (ofRegistrations "com.example" items).className "com.first.Item" = "Item" ∧
      "import com.first.Item" ∈ (ofRegistrations "com.example" items).lines ∧
      (ofRegistrations "com.example" (items ++ [.name "com.example.Item"])).className
        "com.second.Item" = "com.second.Item" := by
  have hp : ∀ n ∈ items.flatMap Registration.names, Name.package n ≠ "" := by decide
  obtain ⟨hc, hl⟩ := registrations_consistent "com.example" hp
  have hm : "com.first.Item" ∈ items.flatMap Registration.names := by decide
  have hm' : "com.second.Item" ∈ items.flatMap Registration.names := by decide
  have hfirst : IsFirst (items.flatMap Registration.names) "com.first.Item" := ⟨[], _, rfl, nofun⟩
  have hsecond : ¬ IsFirst (items.flatMap Registration.names) "com.second.Item" := by
    rw [isFirst_iff]
    decide
  have hs := (hc.short_iff _ hm).2 hfirst
  have hn : Name.simple "com.first.Item" = "Item" := by decide
  refine ⟨hp, hs.trans hn, ?_, ?_⟩
  · obtain hi | hi | hi := hc.in_reach _ hm hs
    · exact absurd hi (by decide)
    · exact absurd hi (by decide)
    · exact hi
  · rw [(hl _).1 _ hm', hc.full _ hm' hsecond]

end Imports

end Kotlin

end TypedBundle
