/-!
# Dictionaries and name sets

Finite maps and finite sets of texts, kept as lists with increasing keys. Texts are ordered by
code point. Two dictionaries with the same bindings are the same list, so nothing remembers the
order in which the bindings came in.
-/

namespace TypedBundle

/-- A finite map from texts, as pairs with increasing keys. -/
structure Dict (α : Type) where
  toList : List (String × α)
  deriving Repr, BEq, DecidableEq

namespace Dict

variable {α : Type}

/-- The dictionary without bindings. -/
def empty : Dict α := ⟨[]⟩

instance : EmptyCollection (Dict α) := ⟨empty⟩

instance : Inhabited (Dict α) := ⟨empty⟩

/-- Binds the key in an ordered list of pairs, in place of an older binding if there is one. -/
def insertPair (k : String) (v : α) : List (String × α) → List (String × α)
  | [] => [(k, v)]
  | (k', v') :: rest =>
    if k < k' then (k, v) :: (k', v') :: rest
    else if k = k' then (k, v) :: rest
    else (k', v') :: insertPair k v rest

/-- The first pair decides, if it has the key. -/
theorem lookup_pair (k j : String) (w : α) (ps : List (String × α)) :
    ((j, w) :: ps).lookup k = if k = j then some w else ps.lookup k := by
  rw [List.lookup_cons]
  by_cases h : k = j
  · simp [h]
  · rw [beq_false_of_ne h, if_neg h]

/-- The inserted pair is found under its key, and all others under theirs. -/
theorem lookup_insertPair (k k' : String) (v : α) (ps : List (String × α)) :
    (insertPair k v ps).lookup k' = if k' = k then some v else ps.lookup k' := by
  induction ps with
  | nil => simp [insertPair, lookup_pair]
  | cons p rest ih =>
    obtain ⟨j, w⟩ := p
    unfold insertPair
    split
    · rw [lookup_pair]
    · split
      · next hj =>
        subst hj
        simp only [lookup_pair]
        split <;> rfl
      · next hj =>
        simp only [lookup_pair, ih]
        by_cases h : k' = j
        · have hk : j ≠ k := fun e => hj e.symm
          simp [h, hk]
        · simp [h]

/-- Of two keys it does not matter which is bound first. -/
theorem insertPair_comm {k k' : String} (h : k ≠ k') (v v' : α) (ps : List (String × α)) :
    insertPair k v (insertPair k' v' ps) = insertPair k' v' (insertPair k v ps) := by
  induction ps with
  | nil => grind [insertPair]
  | cons p rest ih =>
    -- each of the keys comes before the first pair, at it or after it
    grind [insertPair]

/-- Binds the key to the value, in place of an older binding if there is one. -/
def insert (d : Dict α) (k : String) (v : α) : Dict α := ⟨insertPair k v d.toList⟩

/-- The value bound to the key. -/
def find? (d : Dict α) (k : String) : Option α := d.toList.lookup k

/-- Whether the key is bound. -/
def contains (d : Dict α) (k : String) : Bool := (d.find? k).isSome

/-- The dictionary without the key. -/
def erase (d : Dict α) (k : String) : Dict α := ⟨d.toList.filter fun p => p.1 != k⟩

/-- What was inserted is found under its key, and all else as before. -/
theorem find?_insert (d : Dict α) (k k' : String) (v : α) :
    (d.insert k v).find? k' = if k' = k then some v else d.find? k' :=
  lookup_insertPair k k' v d.toList

/-- What was erased is not found, and all else as before. -/
theorem find?_erase (d : Dict α) (k k' : String) :
    (d.erase k).find? k' = if k' = k then none else d.find? k' := by
  obtain ⟨ps⟩ := d
  simp only [erase, find?]
  induction ps with
  | nil => simp
  | cons p rest ih =>
    obtain ⟨j, w⟩ := p
    rw [List.filter_cons, lookup_pair]
    by_cases hj : j = k
    · subst hj
      simp only [bne_self_eq_false, Bool.false_eq_true, if_false, ih]
      split <;> rfl
    · simp only [bne_iff_ne, ne_eq, hj, not_false_eq_true, if_true, lookup_pair, ih]
      by_cases h : k' = j
      · simp [h, hj]
      · simp [h]

/-- The keys, in increasing order. -/
def keys (d : Dict α) : List String := d.toList.map (·.1)

/-- The number of bindings. -/
def size (d : Dict α) : Nat := d.toList.length

/-- The bindings of a list of pairs; of two with one key the later wins. -/
def ofList (ps : List (String × α)) : Dict α :=
  ps.foldl (fun d p => d.insert p.1 p.2) empty

end Dict

/-- A finite set of texts, in increasing order. -/
structure NameSet where
  toList : List String
  deriving Repr, BEq, DecidableEq

namespace NameSet

/-- The set without elements. -/
def empty : NameSet := ⟨[]⟩

instance : EmptyCollection NameSet := ⟨empty⟩

instance : Inhabited NameSet := ⟨empty⟩

/-- Adds a name to an ordered list, unless it is there. -/
def insertName (n : String) : List String → List String
  | [] => [n]
  | m :: rest =>
    if n < m then n :: m :: rest
    else if n = m then m :: rest
    else m :: insertName n rest

/-- Adds a name. -/
def insert (s : NameSet) (n : String) : NameSet := ⟨insertName n s.toList⟩

/-- Whether the name is in the set. -/
def contains (s : NameSet) (n : String) : Bool := s.toList.contains n

/-- An inserted name is in the list, with the others. -/
theorem mem_insertName (n m : String) (ns : List String) :
    m ∈ insertName n ns ↔ m = n ∨ m ∈ ns := by
  induction ns with
  | nil => simp [insertName]
  | cons x rest ih =>
    unfold insertName
    split
    · simp
    · split
      · next hx => subst hx; simp
      · simp only [List.mem_cons, ih]
        exact or_left_comm

/-- A set holds what was inserted and what it held before. -/
theorem contains_insert (s : NameSet) (n m : String) :
    (s.insert n).contains m ↔ m = n ∨ s.contains m := by
  simp [insert, contains, mem_insertName]

/-- The names of both sets. -/
def union (s t : NameSet) : NameSet := t.toList.foldl insert s

/-- The set of the names of a list. -/
def ofList (ns : List String) : NameSet := ns.foldl insert empty

/-- Names that are inserted in turn are in the set, with those that it held. -/
theorem mem_foldl_insert (n : String) (ns : List String) (s : NameSet) :
    n ∈ (ns.foldl insert s).toList ↔ n ∈ s.toList ∨ n ∈ ns := by
  induction ns generalizing s with
  | nil => simp
  | cons m rest ih =>
    rw [List.foldl_cons, ih, insert, mem_insertName, List.mem_cons, or_comm (a := n = m), or_assoc]

/-- A union has the names of both sets. -/
theorem contains_union (s t : NameSet) (n : String) :
    (s.union t).contains n ↔ s.contains n ∨ t.contains n := by
  simp [union, contains, mem_foldl_insert]

/-- An increasing list stays so when a name is added. -/
theorem pairwise_insertName (n : String) {ns : List String} (h : ns.Pairwise (· < ·)) :
    (insertName n ns).Pairwise (· < ·) := by
  induction ns with
  | nil => exact List.pairwise_singleton _ _
  | cons m rest ih =>
    obtain ⟨hm, hr⟩ := List.pairwise_cons.1 h
    unfold insertName
    split
    · next hlt =>
      refine List.pairwise_cons.2 ⟨?_, h⟩
      intro x hx
      obtain rfl | hx := List.mem_cons.1 hx
      · exact hlt
      · exact String.lt_trans hlt (hm x hx)
    · split
      · exact h
      · next hnlt hne =>
        refine List.pairwise_cons.2 ⟨?_, ih hr⟩
        intro x hx
        obtain rfl | hx := (mem_insertName ..).1 hx
        · exact Std.lt_of_le_of_ne hnlt (Ne.symm hne)
        · exact hm x hx

/-- A union is in order if the first set is. -/
theorem pairwise_union {s : NameSet} (t : NameSet) (h : s.toList.Pairwise (· < ·)) :
    (s.union t).toList.Pairwise (· < ·) := by
  unfold union
  induction t.toList generalizing s with
  | nil => exact h
  | cons n rest ih => exact ih (pairwise_insertName n h)

end NameSet

/-- The keys change as a set of names does. -/
theorem Dict.keys_insert {α : Type} (d : Dict α) (k : String) (v : α) :
    (d.insert k v).keys = NameSet.insertName k d.keys := by
  unfold Dict.insert Dict.keys
  induction d.toList with
  | nil => rfl
  | cons p rest ih =>
    rw [insertPair, List.map_cons, NameSet.insertName]
    split
    · rfl
    · split
      · next h => rw [List.map_cons, h]
      · rw [List.map_cons, ih]

end TypedBundle
