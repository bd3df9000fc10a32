import TypedBundle.Proofs.Kotlin.Phrases

/-!
# String literals

A literal that is written for a text is read back as that text, and the reader stops where the
literal ends, whatever is written after it (`leadingLiteral?_literal_append`). So the characters of
a text neither end its literal nor start a template, and no two texts share a literal. Keys of
entries come into a file in this way only: functions of methods that differ in their keys differ in
literals in fixed places (`holdsKey_functionsText`), and so they do differ (`HoldsKey.injective`).
-/

namespace TypedBundle

namespace Body

/-- The key of the entry that the body touches. -/
def key? : Body → Option String
  | store key .. | load key .. | assert key | assertChain key => some key
  | entry .. | wrap | collect => none

/-- The body on the entry of another key. -/
def withKey (key : String) : Body → Body
  | store _ s param => store key s param
  | load _ s ty fallback => load key s ty fallback
  | assert _ => assert key
  | assertChain _ => assertChain key
  | body => body

end Body

/-- The method on the entry of another key. -/
def Method.withKey (x : Method) (key : String) : Method := { x with body := x.body.withKey key }

/-- A method is on the entry of its own key. -/
lemma Method.withKey_eq_self {x : Method} {key : String} (h : x.body.key? = some key) :
    x.withKey key = x := by
  obtain ⟨name, params, result, body⟩ := x
  cases body <;> cases h <;> rfl

namespace Kotlin

/-- Reads on to the end of a string literal: what the literal stands for, and what is after it. -/
def Mode.literal? (m : Mode) : List Char → Option (List Piece × List Char)
  | [] => none
  | c :: cs =>
    match m.step c with
    | some ([], m') => m'.literal? cs
    | some (.literal content :: _, _) => some (content, cs)
    | _ => none

/-- Reads the string literal that the text begins with. -/
def leadingLiteral? : List Char → Option (List Piece × List Char)
  | '"' :: cs => Mode.quote.literal? cs
  | _ => none

namespace Mode

variable {m m' : Mode} {a b : List Char}

/-- Where no token ends, the reader goes on after what it has read. -/
lemma literal?_append (h : m.read a = some ([], m')) : m.literal? (a ++ b) = m'.literal? b := by
  induction a generalizing m with
  | nil =>
    cases h
    rfl
  | cons c cs ih =>
    obtain ⟨ts, m₁, us, hs, hr, he⟩ := read_cons_eq_some.1 h
    obtain ⟨rfl, rfl⟩ := List.append_eq_nil_iff.1 he
    rw [List.cons_append, literal?, hs]
    exact ih hr

/-- The characters of a text are read up to the quote that ends its literal. -/
lemma literal?_flatMap_escape {cs r : List Char} :
    quote.literal? (cs.flatMap escape ++ '"' :: r) = some (cs.map .char, r) := by
  cases cs with
  | nil => rfl
  | cons c cs =>
    have hr : quote.read ((c :: cs).flatMap escape) = some ([], string ((c :: cs).map .char)) := by
      rw [List.flatMap_cons, read_quote_escape, ← List.flatMap_cons]
      exact read_flatMap_escape
    rw [literal?_append hr]
    rfl

end Mode

variable {s t : String} {r r' : List Char}

/-- A literal is its characters, escaped, between quotes. -/
lemma toList_literal : (literal s).toList = '"' :: (s.toList.flatMap escape ++ ['"']) := by
  simp [literal]

/-- A literal is read back as its text, and nothing after it is read. -/
lemma leadingLiteral?_literal_append :
    leadingLiteral? ((literal s).toList ++ r) = some (s.toList.map .char, r) := by
  rw [toList_literal, List.cons_append, List.append_assoc]
  exact Mode.literal?_flatMap_escape

/-- No two texts share a literal, and no literal begins with another one. -/
lemma literal_append_inj (h : (literal s).toList ++ r = (literal t).toList ++ r') :
    s = t ∧ r = r' := by
  have hread := congrArg leadingLiteral? h
  rw [leadingLiteral?_literal_append, leadingLiteral?_literal_append] at hread
  obtain ⟨hs, hr⟩ := Prod.ext_iff.1 (Option.some.inj hread)
  have hinj : Function.Injective Piece.char := fun _ _ => Piece.char.inj
  exact ⟨String.toList_inj.1 (List.map_injective_iff.2 hinj hs), hr⟩

/-- A literal stands on one line. -/
lemma ne_of_mem_literal {c : Char} (h : c ∈ (literal s).toList) : c ≠ '\n' ∧ c ≠ '\r' := by
  have hescape : ∀ d, ∀ c ∈ escape d, c ≠ '\n' ∧ c ≠ '\r' := by
    intro d
    unfold escape
    split
    case h_7 hn hr _ =>
      intro c hc
      cases List.mem_singleton.1 hc
      exact ⟨hn, hr⟩
    all_goals simp
  rw [toList_literal, List.mem_cons, List.mem_append, List.mem_singleton, List.mem_flatMap] at h
  obtain rfl | ⟨d, -, hd⟩ | rfl := h
  · decide
  · exact hescape d c hd
  · decide

namespace AccessorFile

variable {g : AccessorType} {i : Imports} {unit : String} {depth : Nat}

/-- The functions of a method, on the type and on the accumulator, as they are written. -/
def functionsText (g : AccessorType) (i : Imports) (unit : String) (depth : Nat) (x : Method) :
    String :=
  Code.renderAll unit depth (instanceFunction g i x :: assertFunction g i x)

/-- A text with a key in it: the places of the key are fixed, and there it stands as its literal. -/
def HoldsKey (text : String → String) : Prop :=
  ∃ before pieces, pieces ≠ [] ∧
    ∀ key, text key = before ++ String.join (pieces.map (literal key ++ ·))

namespace HoldsKey

variable {text text' : String → String}

/-- A literal in fixed text. -/
lemma single (before after : String) : HoldsKey fun key => before ++ literal key ++ after :=
  ⟨before, [after], List.cons_ne_nil _ _, fun key => by simp [String.append_assoc]⟩

/-- Fixed text may follow. -/
lemma append_fixed (h : HoldsKey text) (rest : String) : HoldsKey fun key => text key ++ rest := by
  obtain ⟨before, pieces, hne, h⟩ := h
  obtain rfl | ⟨init, last, rfl⟩ := pieces.eq_nil_or_concat
  · exact (hne rfl).elim
  · refine ⟨before, init ++ [last ++ rest], by simp, fun key => ?_⟩
    simp [h, String.append_assoc]

/-- Two texts with the key in them, one after the other. -/
lemma append (h : HoldsKey text) (h' : HoldsKey text') :
    HoldsKey fun key => text key ++ text' key := by
  obtain ⟨before', pieces', -, h'⟩ := h'
  obtain ⟨before, pieces, hne, h⟩ := h.append_fixed before'
  refine ⟨before, pieces ++ pieces', by simp [hne], fun key => ?_⟩
  dsimp only at h ⊢
  rw [h', ← String.append_assoc, h, List.map_append, String.join_append, String.append_assoc]

/-- Fixed text may stand before. -/
lemma fixed_append (lead : String) (h : HoldsKey text) : HoldsKey fun key => lead ++ text key := by
  obtain ⟨before, pieces, hne, h⟩ := h
  exact ⟨lead ++ before, pieces, hne, fun key => by simp only [h, String.append_assoc]⟩

/-- Different keys make different texts: the first place of the key tells. -/
lemma injective (h : HoldsKey text) : Function.Injective text := by
  obtain ⟨before, pieces, hne, h⟩ := h
  obtain ⟨first, others, rfl⟩ := List.exists_cons_of_ne_nil hne
  intro key key' he
  have hl := congrArg String.toList ((h key).symm.trans (he.trans (h key')))
  simp only [List.map_cons, String.join_cons, String.append_assoc, String.toList_append] at hl
  exact (literal_append_inj (List.append_cancel_left hl)).1

end HoldsKey

/-- A function has the key in it if its statement has. -/
lemma holdsKey_render {x : Method} {l : String → Line} (h : HoldsKey fun key => (l key).text) :
    HoldsKey fun key => (function g i (x.withKey key) (l key)).render unit depth := by
  -- the key is in no signature
  have hk : ∀ key l, function g i (x.withKey key) l = function g i x l := fun _ _ => rfl
  obtain ⟨head, hf⟩ : ∃ head, ∀ l, function g i x l = .block head [.line l] := ⟨_, fun _ => rfl⟩
  let lead := Code.indentation unit depth ++ head.text ++ " \x7b\n" ++
    Code.indentation unit (depth + 1)
  let rest := "\n" ++ Code.indentation unit depth ++ "\x7d\n"
  convert (h.fixed_append lead).append_fixed rest using 2 with key
  simp [hk, hf, lead, rest, Code.render, Code.renderAll, String.append_assoc]

/-- A read has the key in it, and again where it throws. -/
lemma holdsKey_read (g : AccessorType) (lead : String) (fallback : Fallback) :
    HoldsKey fun key => lead ++ "(" ++ literal key ++ ")" ++ (afterRead g key fallback).text := by
  have hr : HoldsKey fun key => lead ++ "(" ++ literal key ++ ")" := .single ..
  cases fallback with
  | orThrow =>
    have ht : HoldsKey fun key => " ?: throw PropertyNotFoundException(" ++ literal key ++ ")" :=
      .single ..
    convert hr.append ht using 3 with key
    simp [afterRead, nested, propertyNotFound, ← String.toList_inj]
  | orDefault call | inlineDefault call | orNull | inlineZero => exact hr.append_fixed _

/-- The statement of a setter has the key in it. -/
lemma holdsKey_store {x : Method} {k strategy param} (hb : x.body = .store k strategy param) :
    HoldsKey fun key => (statement g i (x.withKey key)).text := by
  have hs := HoldsKey.single
    ("return apply \x7b this.bundle." ++ (Helper.insert strategy).name ++ "(")
    (", " ++ param ++ ") \x7d")
  convert hs using 2 with key
  simp [statement, Method.withKey, Body.withKey, hb, String.append_assoc]

/-- The statement of a getter has the key in it. -/
lemma holdsKey_load {x : Method} {k strategy ty fallback}
    (hb : x.body = .load k strategy ty fallback) :
    HoldsKey fun key => (statement g i (x.withKey key)).text := by
  -- which helper is called does not depend on the key
  have hh : ∀ key, Helper.ofBody? (.load key strategy ty fallback) =
      Helper.ofBody? (.load k strategy ty fallback) := by
    intro key
    cases strategy <;> cases fallback <;> rfl
  let lead : String :=
    "return bundle." ++ ((Helper.ofBody? (.load k strategy ty fallback)).map Helper.name).getD ""
  cases hf : inlineFallback? g strategy fallback with
  | some value =>
    convert HoldsKey.single (lead ++ "(") (", " ++ value.text ++ ")") using 2 with key
    simp [lead, statement, Method.withKey, Body.withKey, hb, hf, hh, String.append_assoc]
  | none =>
    have hr := holdsKey_read g (lead ++ (typeArgument i strategy ty).text) fallback
    convert hr using 2 with key
    simp [lead, statement, Method.withKey, Body.withKey, hb, hf, hh, String.append_assoc]

/-- The functions of a method that touches an entry have the key in them. -/
lemma holdsKey_functionsText {x : Method} (h : x.body.key? = some s) :
    HoldsKey fun key => functionsText g i unit depth (x.withKey key) := by
  have hadd : HoldsKey fun key => ("return add(" ++ literal key ++ ")" : Line).text := by
    simpa using HoldsKey.single "return add(" ")"
  have hassert : HoldsKey fun key => (function g i (x.withKey key)
      ("return add(" ++ literal key ++ ")" : Line)).render unit depth := holdsKey_render hadd
  have hstatement : (HoldsKey fun key => (statement g i (x.withKey key)).text) →
      HoldsKey fun key => (instanceFunction g i (x.withKey key)).render unit depth :=
    fun hs => holdsKey_render hs
  cases hb : x.body with
  | store k strategy param =>
    convert hstatement (holdsKey_store hb) using 2 with key
    simp [functionsText, instanceFunction, assertFunction, Method.withKey, Body.withKey, hb,
      Code.renderAll]
  | load k strategy ty fallback =>
    convert hstatement (holdsKey_load hb) using 2 with key
    simp [functionsText, instanceFunction, assertFunction, Method.withKey, Body.withKey, hb,
      Code.renderAll]
  | assertChain k =>
    convert hassert.append hassert using 2 with key
    simp [functionsText, instanceFunction, assertFunction, statement, Method.withKey, Body.withKey,
      hb, Code.renderAll]
  | assert k =>
    -- on the type there is only a call of the accumulator, where the key is
    convert hassert.fixed_append ((instanceFunction g i x).render unit depth) using 2 with key
    simp [functionsText, instanceFunction, assertFunction, statement, Method.withKey, Body.withKey,
      hb, Code.renderAll, function]
  | entry setter param | wrap | collect =>
    rw [hb] at h
    cases h

end AccessorFile

open AccessorFile in
/-- The literal of a text is read as that text and no further, whatever comes after it, with no
template in it and on one line. So no two texts share a literal and none begins with another. The
functions of a method that touches an entry have the key in them as its literal only, so that they
are different for different keys. -/
theorem literals_inert (s : String) :
    (∀ r, leadingLiteral? ((literal s).toList ++ r) = some (s.toList.map .char, r)) ∧
    (∀ t r r', (literal s).toList ++ r = (literal t).toList ++ r' → s = t ∧ r = r') ∧
    (∀ c ∈ (literal s).toList, c ≠ '\n' ∧ c ≠ '\r') ∧
    ∀ g i unit depth (x : Method), x.body.key? = some s →
      x.withKey s = x ∧ (HoldsKey fun key => functionsText g i unit depth (x.withKey key)) ∧
        Function.Injective fun key => functionsText g i unit depth (x.withKey key) := by
  refine ⟨fun _ => leadingLiteral?_literal_append, fun _ _ _ => literal_append_inj,
    fun _ => ne_of_mem_literal, fun g i unit depth x hx => ?_⟩
  have hk : HoldsKey fun key => functionsText g i unit depth (x.withKey key) :=
    holdsKey_functionsText hx
  exact ⟨Method.withKey_eq_self hx, hk, hk.injective⟩

/-- A backslash before the closing quote escapes that quote, unless it is escaped itself. -/
example : leadingLiteral? ((literal "$a\\").toList ++ ['"']) =
      some ([.char '$', .char 'a', .char '\\'], ['"']) ∧
    leadingLiteral? "\"$a\\\"".toList = none ∧
    leadingLiteral? "\"$a\"".toList = some ([.template, .char 'a'], []) := by
  decide

end Kotlin

end TypedBundle
