import TypedBundle.Proofs.Accessor.Names
import TypedBundle.Proofs.Kotlin.Denotation
import TypedBundle.Proofs.Kotlin.Reading

/-!
# Names in Kotlin text

Identifiers are names to a reader of Kotlin text, and so are the names of accessors, even those that
are no legal identifiers. Class names that are made of identifiers are plain text.
-/

namespace TypedBundle

namespace Identifier

open Kotlin

/-- What can stand in a name can stand in a word. -/
lemma isWord_of_isPart {c : Char} (h : isPart c) : isWord c := by
  have hall : ∀ n ∈ List.range 128, isPart (Char.ofNat n) → isWord (Char.ofNat n) := by
    decide +kernel
  by_cases hc : c.toNat < 128
  · have hw := hall c.toNat (List.mem_range.2 hc)
    rw [Char.ofNat_toNat] at hw
    exact hw h
  · simp [isWord, Nat.le_of_not_lt hc]

/-- The upper case form of a character that can stand in a name can stand in a word. -/
lemma isWord_upper {c : Char} (h : isPart c) : ∀ d ∈ Text.upper c, isWord d := by
  have hexp : ∀ p ∈ Text.upperExpansions, ∀ n ∈ p.2, isWord (Char.ofNat n) := by decide +kernel
  unfold Text.upper
  split
  · next n hs =>
    obtain ⟨r, hr, hi⟩ := List.exists_of_findSome?_eq_some hs
    intro d hd
    rw [List.mem_singleton.1 hd]
    apply isWord_of_isPart
    simp [isPart, Text.isAlphanumeric, Text.isAlphabetic_image hr hi]
  · split
    · next ns hl =>
      obtain ⟨l₁, l₂, e, -⟩ := List.lookup_eq_some_iff.1 hl
      rw [List.forall_mem_map]
      exact hexp (c.toNat, ns) (by simp [e])
    · intro d hd
      rw [List.mem_singleton.1 hd]
      exact isWord_of_isPart h

/-- The words that declare something are keywords. -/
lemma not_mem_declaringWords {w : String} (h : w ∉ keywords) : w ∉ declaringWords := by
  have hk : ∀ w ∈ declaringWords, w ∈ keywords := by decide
  exact fun hw => h (hk w hw)

/-- A legal identifier is a name. -/
lemma isName_of_isLegal {w : String} (h : isLegal w) : isName w := by
  have hp := isPart_of_isLegal h
  have hne := ne_empty_of_canBegin (canBegin_of_isLegal h)
  have hk : w ∉ declaringWords := by
    apply not_mem_declaringWords
    unfold isLegal at h
    rw [Bool.and_eq_true] at h
    simpa using h.2
  unfold isName
  simp only [Bool.and_eq_true, bne_iff_ne, List.all_eq_true]
  exact ⟨⟨hne, fun c hc => isWord_of_isPart (hp c hc)⟩, by simpa using hk⟩

/-- The name of an accessor is a name, even where it is not legal. -/
lemma isName_accessor_append {lead property ending : String} (hl : canBegin lead)
    (hp : isLegal property) (he : ∀ c ∈ ending.toList, isPart c) :
    isName (accessor lead property ++ ending) := by
  have hk : accessor lead property ++ ending ∉ declaringWords :=
    not_mem_declaringWords (accessor_append_not_mem_keywords hl hp)
  have hprop := isPart_of_isLegal hp
  have hne : accessor lead property ++ ending ≠ "" := by
    intro e
    obtain ⟨c, hc, -⟩ : ∃ c, (accessor lead property ++ ending).toList.head? = some c ∧ isFirst c :=
      exists_first_accessor_append hl
    simp [e] at hc
  have hcap : ∀ d ∈ (capitalize property).toList, isWord d := by
    unfold capitalize
    split
    · simp
    · next c rest e =>
      rw [e, List.forall_mem_cons] at hprop
      rw [String.toList_ofList, List.forall_mem_append]
      exact ⟨isWord_upper hprop.1, fun d hd => isWord_of_isPart (hprop.2 d hd)⟩
  unfold isName
  simp only [Bool.and_eq_true, bne_iff_ne, List.all_eq_true]
  refine ⟨⟨hne, ?_⟩, by simpa using hk⟩
  simp only [accessor, String.toList_append, List.forall_mem_append]
  exact ⟨⟨fun d hd => isWord_of_isPart ((canBegin_eq_true_iff.1 hl).2 d hd), hcap⟩,
    fun d hd => isWord_of_isPart (he d hd)⟩

end Identifier

/-- The name of an accessor is a name. -/
lemma Naming.Legal.isName_of_names {n : Naming} {name} (h : n.Legal) (hn : n.Names name) :
    Kotlin.isName name := by
  obtain ⟨hl, he⟩ := hn
  exact Identifier.isName_accessor_append (h.canBegin hl) h.property (isPart_of_mem_endings he)

/-- The name consists of legal identifiers with dots between them. -/
inductive Name.Dotted : String → Prop where
  | identifier {n} :
    Identifier.isLegal n →
    Dotted n
  | dot {p n} :
    Dotted p →
    Identifier.isLegal n →
    Dotted (p ++ "." ++ n)

namespace Name

variable {n p : String}

/-- A dotted name is not empty. -/
lemma Dotted.ne_empty (h : Dotted n) : n ≠ "" := by
  cases h with
  | identifier hn => exact Identifier.ne_empty_of_canBegin (Identifier.canBegin_of_isLegal hn)
  | dot =>
    intro e
    simpa using congrArg String.toList e

/-- Besides dots there are only characters in it that can stand in a name. -/
lemma Dotted.isPart (h : Dotted n) : ∀ c ∈ n.toList, Identifier.isPart c ∨ c = '.' := by
  induction h with
  | identifier hn => exact fun c hc => .inl (Identifier.isPart_of_isLegal hn c hc)
  | dot _ hn ih =>
    rw [String.toList_append, String.toList_append, List.forall_mem_append, List.forall_mem_append]
    exact ⟨⟨ih, fun c hc => .inr (by simpa using hc)⟩,
      fun c hc => .inl (Identifier.isPart_of_isLegal hn c hc)⟩

/-- A dotted name is an identifier, or it is one in a package with a dotted name. -/
lemma Dotted.simple_package (h : Dotted n) :
    Identifier.isLegal (simple n) ∧ (package n = "" ∨ Dotted (package n)) := by
  cases h with
  | identifier hn =>
    obtain ⟨hs, hp⟩ := simple_package_of_not_mem (Identifier.not_mem_of_isLegal hn).1
    rw [hs, hp]
    exact ⟨hn, .inl rfl⟩
  | @dot p n hp hn =>
    have hq : qualified p n = p ++ "." ++ n := if_neg hp.ne_empty
    obtain ⟨hs, hpack⟩ := simple_package_qualified (p := p) (Identifier.not_mem_of_isLegal hn).1
    rw [hq] at hs hpack
    rw [hs, hpack]
    exact ⟨hn, .inr hp⟩

end Name

namespace Kotlin

/-- A legal identifier is plain text. -/
lemma isPlain_of_isLegal {n} (h : Identifier.isLegal n) : isPlain n :=
  isPlain_of_isName (Identifier.isName_of_isLegal h)

/-- A dotted name is plain text. -/
lemma isPlain_of_dotted {n} (h : Name.Dotted n) : isPlain n := by
  induction h with
  | identifier hn => exact isPlain_of_isLegal hn
  | @dot p n _ hn ih =>
    have hdot : isPlain ("." ++ n) := isPlain_after (by decide +kernel) (isPlain_of_isLegal hn)
    rw [String.append_assoc]
    exact isPlain_before ih ⟨hdot, startsApart_append (by decide +kernel)⟩

/-- The class is plain text, written short or in full. -/
structure IsClassName (n : String) : Prop where
  full : isPlain n
  short : isPlain (Name.simple n)

/-- Classes with dotted names are. -/
lemma IsClassName.of_dotted {n} (h : Name.Dotted n) : IsClassName n :=
  ⟨isPlain_of_dotted h, isPlain_of_isLegal h.simple_package.1⟩

/-- So are the classes of the platform. -/
lemma IsClassName.of_platform {n} (h : Platform.IsClass n) : IsClassName n := by
  have hall : ∀ c ∈ Platform.classes, isPlain c.name ∧ isPlain (Name.simple c.name) := by
    decide +kernel
  obtain ⟨c, hc, rfl⟩ := h
  exact ⟨(hall c hc).1, (hall c hc).2⟩

end Kotlin

end TypedBundle
