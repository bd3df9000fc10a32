import Mathlib.Data.List.TakeWhile
import Mathlib.Tactic.Lemma
import TypedBundle.Type.Expr

/-!
# The grammar of types

Which texts are types, and of which expressions, said without a reader:

    Type := WS* Name After* | WS* Name WS* '<' Type (',' Type)* '>' After*

What may come after a type is white space (`Blank`), or also question marks (`Marked`) in the
grammar of types that may be nullable. Nothing that can follow a name can be part of one, so that a
name is as long as it can be. `Spaced` prints an expression as its tokens with any white space
around them, and that is a text of the grammar (`spells_of_spaced`).
-/

namespace TypedBundle

namespace Text

/-- The character is white space. -/
def Blank (c : Char) : Prop := isBlank c

instance : DecidablePred Blank := fun c => inferInstanceAs (Decidable (isBlank c = true))

/-- A code point that ranges have is in one of them. -/
lemma Ranges.exists_of_has {rs : Ranges} {n : Nat} (h : rs.has n) :
    ∃ r ∈ rs, r.1 ≤ n ∧ n ≤ r.2 := by
  induction rs with
  | nil => cases h
  | cons r rest ih =>
    obtain ⟨lo, hi⟩ := r
    unfold has at h
    split at h
    · next hn => exact ⟨(lo, hi), List.mem_cons_self, of_decide_eq_true h, hn⟩
    · obtain ⟨r, hr, hb⟩ := ih h
      exact ⟨r, List.mem_cons_of_mem _ hr, hb⟩

/-- No white space is a letter or a number. -/
lemma Blank.not_isAlphanumeric {c : Char} (h : Blank c) : ¬ isAlphanumeric c := by
  have hall : ∀ r ∈ blankRanges, ∀ k < r.2 + 1 - r.1,
      ¬ (alphabeticRanges.has (r.1 + k) || numericRanges.has (r.1 + k)) := by decide +kernel
  obtain ⟨r, hr, hlo, hhi⟩ := Ranges.exists_of_has h
  have hk := hall r hr (c.toNat - r.1) (by omega)
  rwa [Nat.add_sub_cancel' hlo] at hk

variable {lead core tail cs : List Char}

/-- Without white space at the start nothing is dropped. -/
lemma dropWhile_isBlank_eq_self (hc : ∀ c ∈ core.head?, ¬ Blank c) :
    core.dropWhile isBlank = core := by
  cases core with
  | nil => rfl
  | cons c rest => exact List.dropWhile_cons_of_neg (hc c rfl)

/-- White space at the start is dropped, up to where there is none. -/
lemma dropWhile_isBlank_append (hl : ∀ c ∈ lead, Blank c) (hc : ∀ c ∈ core.head?, ¬ Blank c) :
    (lead ++ core).dropWhile isBlank = core := by
  rw [List.dropWhile_append_of_pos hl, dropWhile_isBlank_eq_self hc]

/-- Trimming takes the white space in front, and as much as it can behind. -/
lemma trimChars_append (hl : ∀ c ∈ lead, Blank c) (hne : core ≠ [])
    (hh : ∀ c ∈ core.head?, ¬ Blank c) (ht : ∀ c ∈ core.getLast?, ¬ Blank c) :
    trimChars (lead ++ (core ++ tail)) = core ++ (tail.reverse.dropWhile isBlank).reverse := by
  have hh' : ∀ c ∈ (core ++ tail).head?, ¬ Blank c := by
    cases core with
    | nil => exact (hne rfl).elim
    | cons c rest => exact hh
  have ht' : ∀ c ∈ core.reverse.head?, ¬ Blank c := by rwa [List.head?_reverse]
  unfold trimChars
  rw [dropWhile_isBlank_append hl hh', List.reverse_append, List.dropWhile_append]
  split
  · next he =>
    rw [dropWhile_isBlank_eq_self ht', List.reverse_reverse, List.isEmpty_iff.1 he,
      List.reverse_nil, List.append_nil]
  · rw [List.reverse_append, List.reverse_reverse]

/-- A text is its trimmed form with white space around it. -/
lemma exists_trimChars (cs : List Char) : ∃ lead tail, cs = lead ++ (trimChars cs ++ tail) ∧
    (∀ c ∈ lead, Blank c) ∧ ∀ c ∈ tail, Blank c := by
  refine ⟨cs.takeWhile isBlank, ((cs.dropWhile isBlank).reverse.takeWhile isBlank).reverse,
    ?_, ?_, ?_⟩
  · unfold trimChars
    rw [← List.reverse_append, List.takeWhile_append_dropWhile, List.reverse_reverse,
      List.takeWhile_append_dropWhile]
  · exact fun c => List.mem_takeWhile_imp
  · intro c hc
    exact List.mem_takeWhile_imp (List.mem_reverse.1 hc)

/-- Trimming takes away white space only. -/
lemma mem_trimChars {c} (hc : ¬ Blank c) : c ∈ trimChars cs ↔ c ∈ cs := by
  obtain ⟨lead, tail, he, hl, ht⟩ := exists_trimChars cs
  constructor
  · intro h
    rw [he]
    exact List.mem_append_right _ (List.mem_append_left _ h)
  · intro h
    rw [he, List.mem_append, List.mem_append] at h
    obtain h | h | h := h
    · exact (hc (hl c h)).elim
    · exact h
    · exact (hc (ht c h)).elim

/-- A trimmed text does not end in white space. -/
lemma not_blank_of_getLast? {c} (h : (trimChars cs).getLast? = some c) : ¬ Blank c := by
  unfold trimChars at h
  rw [List.getLast?_reverse] at h
  have := List.head?_dropWhile_not isBlank (cs.dropWhile isBlank).reverse
  rw [h] at this
  simpa [Blank] using this

end Text

namespace TypeExpr

open Text (Blank)

/-- The character may follow a type that may be nullable. -/
def Marked (c : Char) : Prop := Blank c ∨ c = '?'

instance : DecidablePred Marked := fun c => inferInstanceAs (Decidable (Blank c ∨ c = '?'))

/-- The text is a class name: a run of letters, numbers, underscores and dots, with each dot inside
it and alone. -/
structure IsNameText (cs : List Char) : Prop where
  ne_nil : cs ≠ []
  chars : ∀ c ∈ cs, Text.isAlphanumeric c ∨ c = '_' ∨ c = '.'
  head : cs.head? ≠ some '.'
  last : cs.getLast? ≠ some '.'
  dots : ¬ ['.', '.'] <:+: cs

mutual

/-- The text is a type, and the expression is what it says. -/
inductive Spells (After : Char → Prop) : List Char → TypeExpr → Prop where
  | bare {lead name tail} :
    (∀ c ∈ lead, Blank c) →
    IsNameText name →
    (∀ c ∈ tail, After c) →
    Spells After (lead ++ (name ++ tail)) ⟨String.ofList name, []⟩
  | generic {lead name gap inner arguments tail} :
    (∀ c ∈ lead, Blank c) →
    IsNameText name →
    (∀ c ∈ gap, Blank c) →
    SpellsAll After inner arguments →
    (∀ c ∈ tail, After c) →
    Spells After (lead ++ (name ++ (gap ++ '<' :: (inner ++ '>' :: tail))))
      ⟨String.ofList name, arguments⟩

/-- The text is types with commas between them. -/
inductive SpellsAll (After : Char → Prop) : List Char → List TypeExpr → Prop where
  | one {cs e} :
    Spells After cs e →
    SpellsAll After cs [e]
  | cons {cs e rest es} :
    Spells After cs e →
    SpellsAll After rest es →
    SpellsAll After (cs ++ ',' :: rest) (e :: es)

end

variable {cs name rest lead tail : List Char} {e : TypeExpr} {After : Char → Prop}

/-- The parts of a name: letters, numbers, the underscore and the dot. -/
lemma isNameChar_iff {c : Char} :
    isNameChar c ↔ Text.isAlphanumeric c ∨ c = '_' ∨ c = '.' := by
  simp [isNameChar, or_assoc]

/-- Two dots in a row are found. -/
lemma hasDoubleDot_iff : hasDoubleDot cs ↔ ['.', '.'] <:+: cs := by
  induction cs using hasDoubleDot.induct with
  | case1 rest => exact ⟨fun _ => ⟨[], rest, rfl⟩, fun _ => rfl⟩
  | case2 c rest hne ih =>
    rw [hasDoubleDot, ih, List.infix_cons_iff]
    · refine (or_iff_right ?_).symm
      rintro ⟨rest', h⟩
      cases h
      exact hne rest' rfl rfl
    · exact hne
  | case3 => simp [hasDoubleDot]

/-- A run of name characters is a name if it passes the test for names. -/
lemma isNameText_iff : IsNameText cs ↔ isName cs ∧ ∀ c ∈ cs, isNameChar c := by
  unfold isName
  simp only [Bool.and_eq_true, Bool.not_eq_true', List.isEmpty_eq_false_iff, bne_iff_ne,
    isNameChar_iff]
  rw [← Bool.not_eq_true, hasDoubleDot_iff]
  constructor
  · rintro ⟨hne, hc, hh, hl, hd⟩
    exact ⟨⟨⟨⟨hne, hh⟩, hl⟩, hd⟩, hc⟩
  · rintro ⟨⟨⟨⟨hne, hh⟩, hl⟩, hd⟩, hc⟩
    exact ⟨hne, hc, hh, hl, hd⟩

instance : Decidable (IsNameText cs) :=
  decidable_of_iff (isName cs ∧ cs.all isNameChar) (by rw [isNameText_iff, List.all_eq_true])

/-- No name character is white space. -/
lemma not_blank_of_isNameChar {c : Char} (h : isNameChar c) : ¬ Blank c := by
  obtain h | rfl | rfl := isNameChar_iff.1 h
  · exact fun hb => hb.not_isAlphanumeric h
  · decide
  · decide

/-- There is no white space in a name. -/
lemma IsNameText.not_blank (h : IsNameText name) : ∀ c ∈ name, ¬ Blank c :=
  fun c hc => not_blank_of_isNameChar ((isNameText_iff.1 h).2 c hc)

/-- A name does not begin with white space, whatever follows it. -/
lemma IsNameText.head_append (h : IsNameText name) : ∀ c ∈ (name ++ rest).head?, ¬ Blank c := by
  intro c hc
  cases name with
  | nil => exact (h.ne_nil rfl).elim
  | cons d ds =>
    cases hc
    exact h.not_blank _ List.mem_cons_self

/-- White space around a type is part of it, if it may follow one. -/
lemma Spells.pad (h : Spells After cs e) (hA : ∀ c, Blank c → After c)
    (hl : ∀ c ∈ lead, Blank c) (ht : ∀ c ∈ tail, Blank c) :
    Spells After (lead ++ (cs ++ tail)) e := by
  have hlead {lead'} (hl' : ∀ c ∈ lead', Blank c) : ∀ c ∈ lead ++ lead', Blank c :=
    List.forall_mem_append.2 ⟨hl, hl'⟩
  have htail {tail'} (ht' : ∀ c ∈ tail', After c) : ∀ c ∈ tail' ++ tail, After c :=
    List.forall_mem_append.2 ⟨ht', fun c hc => hA c (ht c hc)⟩
  cases h with
  | bare hl' hn ht' => simpa using Spells.bare (hlead hl') hn (htail ht')
  | generic hl' hn hg hi ht' => simpa using Spells.generic (hlead hl') hn hg hi (htail ht')

/-- A type stays one when it is trimmed. -/
lemma Spells.trim (h : Spells After cs e) : Spells After (Text.trimChars cs) e := by
  have hsub : ∀ {tail : List Char}, (∀ c ∈ tail, After c) →
      ∀ c ∈ (tail.reverse.dropWhile Text.isBlank).reverse, After c := by
    intro tail ht c hc
    apply ht
    exact List.mem_reverse.1 ((List.dropWhile_sublist _).subset (List.mem_reverse.1 hc))
  have hnil : ∀ c ∈ ([] : List Char), Blank c := nofun
  cases h with
  | @bare lead name tail hl hn ht =>
    have hlast : ∀ c ∈ name.getLast?, ¬ Blank c :=
      fun c hc => hn.not_blank c (List.mem_of_getLast? hc)
    have hhead : ∀ c ∈ (name ++ []).head?, ¬ Blank c := hn.head_append
    rw [List.append_nil] at hhead
    rw [Text.trimChars_append hl hn.ne_nil hhead hlast]
    exact Spells.bare hnil hn (hsub ht)
  | @generic lead name gap inner arguments tail hl hn hg hi ht =>
    have hcore : name ++ (gap ++ '<' :: (inner ++ '>' :: tail)) =
        (name ++ (gap ++ '<' :: (inner ++ ['>']))) ++ tail := by simp
    have hlast : ∀ c ∈ (name ++ (gap ++ '<' :: (inner ++ ['>']))).getLast?, ¬ Blank c := by
      intro c hc
      simp only [List.getLast?_append, List.getLast?_cons, List.getLast?_nil, Option.getD_none,
        Option.some_or, Option.getD_some, Option.mem_some] at hc
      subst hc
      decide
    rw [hcore, Text.trimChars_append hl (by simp) hn.head_append hlast]
    simpa using Spells.generic hnil hn hg hi (hsub ht)

/-- White space around a text does not matter for what it spells. -/
lemma spells_trimChars (hA : ∀ c, Blank c → After c) :
    Spells After (Text.trimChars cs) e ↔ Spells After cs e := by
  constructor
  · intro h
    obtain ⟨lead, tail, he, hl, ht⟩ := Text.exists_trimChars cs
    rw [he]
    exact h.pad hA hl ht
  · exact Spells.trim

mutual

/-- Each name in the expression is a class name. -/
def Legal : TypeExpr → Prop
  | ⟨name, arguments⟩ => IsNameText name.toList ∧ LegalAll arguments

/-- Each name in the expressions is a class name. -/
def LegalAll : List TypeExpr → Prop
  | [] => True
  | e :: rest => e.Legal ∧ LegalAll rest

end

mutual

/-- The names, brackets and commas that print the expression. -/
def tokens : TypeExpr → List (List Char)
  | ⟨name, []⟩ => [name.toList]
  | ⟨name, e :: rest⟩ => name.toList :: ['<'] :: (tokensAll (e :: rest) ++ [['>']])

/-- The tokens of several expressions, with commas between them. -/
def tokensAll : List TypeExpr → List (List Char)
  | [] => []
  | [e] => e.tokens
  | e :: e' :: rest => e.tokens ++ [','] :: tokensAll (e' :: rest)

end

/-- The text is the tokens with any white space before, between and after them. -/
inductive Spaced : List (List Char) → List Char → Prop where
  | done {gap} :
    (∀ c ∈ gap, Blank c) →
    Spaced [] gap
  | next {gap token tokens cs} :
    (∀ c ∈ gap, Blank c) →
    Spaced tokens cs →
    Spaced (token :: tokens) (gap ++ (token ++ cs))

/-- The tokens of a text can be split at any of them. -/
lemma Spaced.split {ts ts' : List (List Char)} {token} (h : Spaced (ts ++ token :: ts') cs) :
    ∃ before after, cs = before ++ (token ++ after) ∧ Spaced ts before ∧ Spaced ts' after := by
  induction ts generalizing cs with
  | nil =>
    cases h with
    | @next gap _ _ after hg h => exact ⟨gap, after, rfl, .done hg, h⟩
  | cons token' rest ih =>
    cases h with
    | @next gap _ _ cs' hg h =>
      obtain ⟨before, after, rfl, hb, ha⟩ := ih h
      exact ⟨gap ++ (token' ++ before), after, by simp, .next hg hb, ha⟩

mutual

/-- A printed expression is a text of the grammar. -/
theorem spells_of_spaced : ∀ (e : TypeExpr), e.Legal → ∀ {cs}, Spaced e.tokens cs →
    Spells Blank cs e
  | ⟨name, []⟩, hl, cs, h => by
    rw [tokens] at h
    cases h with
    | next hg h =>
      cases h with
      | done ht => simpa using Spells.bare hg hl.1 ht
  | ⟨name, e :: rest⟩, hl, cs, h => by
    rw [tokens] at h
    cases h with
    | next hlead h =>
      cases h with
      | next hgap h =>
        obtain ⟨inner, tail, rfl, hi, ht⟩ := Spaced.split h
        cases ht with
        | done ht =>
          have hall := spellsAll_of_spaced (e :: rest) (by simp) hl.2 hi
          simpa using Spells.generic hlead hl.1 hgap hall ht

/-- So are printed expressions with commas between them. -/
theorem spellsAll_of_spaced : ∀ (es : List TypeExpr), es ≠ [] → LegalAll es →
    ∀ {cs}, Spaced (tokensAll es) cs → SpellsAll Blank cs es
  | [], hne, _, _, _ => (hne rfl).elim
  | [e], _, hl, cs, h => .one (spells_of_spaced e hl.1 (by rwa [tokensAll] at h))
  | e :: e' :: rest, _, hl, cs, h => by
    rw [tokensAll] at h
    obtain ⟨before, after, rfl, hb, ha⟩ := Spaced.split h
    exact .cons (spells_of_spaced e hl.1 hb) (spellsAll_of_spaced (e' :: rest) (by simp) hl.2 ha)

end

end TypeExpr

end TypedBundle
