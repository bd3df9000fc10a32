import Mathlib.Tactic.Common
import Mathlib.Tactic.Lemma
import TypedBundle.Kotlin.Code

/-!
# Tokens of Kotlin text

How Kotlin reads text into words, signs and literals. The reader goes by one character at a time and
knows no more than the mode it is in, so that a text is read as its parts are, one after the other
(`Mode.read_append`). It takes the part of the language that files are written in: no raw strings,
no block comments, no names in back quotes and no expressions within literals, which it refuses.
-/

namespace TypedBundle.Kotlin

/-- A piece of what a string literal stands for. -/
inductive Piece where
  | char (c : Char)
  /-- A dollar sign that starts a template. -/
  | template
  deriving DecidableEq

/-- A token. -/
inductive Token where
  | word (w : String)
  | sign (c : Char)
  /-- A string literal, by what it stands for. -/
  | literal (content : List Piece)
  /-- A character literal, as it is written. -/
  | character (content : List Char)
  deriving DecidableEq

/-- Whether the character can stand in a word. What is not among the first 128 characters can. -/
def isWord (c : Char) : Bool := c.isAlphanum || c == '_' || 128 ≤ c.toNat

/-- Whether the character is blank. -/
def isBlank (c : Char) : Bool := c == ' ' || c == '\t' || c == '\n' || c == '\r'

/-- What the reader is in the middle of. -/
inductive Mode where
  /-- In code, after the characters of a word that may go on. -/
  | code (word : List Char)
  /-- In code, after an empty string literal. -/
  | empty
  /-- After a slash. -/
  | slash
  | comment
  /-- After the quote that begins a string literal. -/
  | quote
  | string (content : List Piece)
  /-- After a backslash in a string literal. -/
  | stringEscape (content : List Piece)
  /-- After a dollar sign in a string literal. -/
  | stringDollar (content : List Piece)
  | character (content : List Char)
  /-- After a backslash in a character literal. -/
  | characterEscape (content : List Char)
  deriving DecidableEq

namespace Mode

/-- The word of the characters, if there are any. -/
def word? (cs : List Char) : List Token := if cs = [] then [] else [.word (String.ofList cs)]

/-- Reads a character that stands in no word. -/
def readSign (c : Char) : Option (List Token × Mode) :=
  if isBlank c then some ([], code [])
  else if c = '"' then some ([], quote)
  else if c = '\'' then some ([], character [])
  else if c = '/' then some ([], slash)
  else if c = '`' then none
  else some ([.sign c], code [])

/-- Reads a character of a string literal. -/
def readString (content : List Piece) (c : Char) : Option (List Token × Mode) :=
  if c = '"' then some ([.literal content], code [])
  else if c = '\\' then some ([], stringEscape content)
  else if c = '$' then some ([], stringDollar (content ++ [.template]))
  else if c = '\n' ∨ c = '\r' then none
  else some ([], string (content ++ [.char c]))

/-- The character that a backslash and this one stand for. -/
def unescape? : Char → Option Char
  | '"' => some '"'
  | '\\' => some '\\'
  | '$' => some '$'
  | 'n' => some '\n'
  | 'r' => some '\r'
  | 't' => some '\t'
  | _ => none

/-- Reads one character: the tokens that end with or before it, and the mode after it. -/
def step : Mode → Char → Option (List Token × Mode)
  | code w, c =>
    if isWord c then some ([], code (w ++ [c]))
    else (readSign c).map fun (ts, m) => (word? w ++ ts, m)
  | empty, c => if c = '"' then none else if isWord c then some ([], code [c]) else readSign c
  | slash, c => if c = '/' then some ([], comment) else none
  | comment, c => some ([], if c = '\n' then code [] else comment)
  | quote, c => if c = '"' then some ([.literal []], empty) else readString [] c
  | string content, c => readString content c
  | stringEscape content, c => (unescape? c).map fun d => ([], string (content ++ [.char d]))
  | stringDollar content, c => if c = '\x7b' then none else readString content c
  | character content, c =>
    if c = '\'' then some ([.character content], code [])
    else if c = '\\' then some ([], characterEscape content)
    else if c = '\n' ∨ c = '\r' then none
    else some ([], character (content ++ [c]))
  | characterEscape content, c =>
    if c = '\n' ∨ c = '\r' then none else some ([], character (content ++ ['\\', c]))

/-- Reads characters in turn. -/
def read (m : Mode) : List Char → Option (List Token × Mode)
  | [] => some ([], m)
  | c :: cs =>
    (m.step c).bind fun (ts, m') => (m'.read cs).map fun (us, m'') => (ts ++ us, m'')

/-- The tokens that end with the text. A text does not end within a literal or a comment. -/
def end? : Mode → Option (List Token)
  | code w => some (word? w)
  | empty => some []
  | _ => none

end Mode

/-- The tokens of a text. -/
def tokens? (s : String) : Option (List Token) :=
  ((Mode.code []).read s.toList).bind fun (ts, m) => m.end?.map (ts ++ ·)

namespace Mode

variable {m m' m'' : Mode} {a b w : List Char} {ts us : List Token} {c : Char}

/-- Reading one character more: the step that it makes, and what is read after that. -/
lemma read_cons_eq_some :
    m.read (c :: a) = some (ts, m'') ↔
      ∃ us m' vs, m.step c = some (us, m') ∧ m'.read a = some (vs, m'') ∧ us ++ vs = ts := by
  simp [read, Option.bind_eq_some_iff]

/-- Two texts in turn are read one after the other. -/
lemma read_append (ha : m.read a = some (ts, m')) (hb : m'.read b = some (us, m'')) :
    m.read (a ++ b) = some (ts ++ us, m'') := by
  induction a generalizing m ts with
  | nil =>
    cases ha
    exact hb
  | cons c cs ih =>
    obtain ⟨ts₁, m₁, ts₂, hs, hr, rfl⟩ := read_cons_eq_some.1 ha
    exact read_cons_eq_some.2 ⟨ts₁, m₁, ts₂ ++ us, hs, ih hr, (List.append_assoc ..).symm⟩

/-- The characters of a word go on with it. -/
lemma read_word (h : ∀ c ∈ a, isWord c) : (code w).read a = some ([], code (w ++ a)) := by
  induction a generalizing w with
  | nil => simp [read]
  | cons c cs ih =>
    obtain ⟨hc, hcs⟩ := List.forall_mem_cons.1 h
    simp [read, step, hc, ih hcs]

/-- Whether the character ends a word, or an empty literal. -/
def isSeparator (c : Char) : Bool := !isWord c && c != '"'

/-- What ends before a separator is read before it. -/
lemma read_of_isSeparator (hc : isSeparator c) (hm : m.end? = some us)
    (h : (code []).read (c :: a) = some (ts, m')) : m.read (c :: a) = some (us ++ ts, m') := by
  unfold isSeparator at hc
  simp only [Bool.and_eq_true, Bool.not_eq_true', bne_iff_ne] at hc
  have hs : ∀ n vs, end? n = some vs → n.step c = (readSign c).map fun p => (vs ++ p.1, p.2) := by
    intro n vs hn
    cases n with
    | code w =>
      cases hn
      simp [step, hc.1]
    | empty =>
      cases hn
      simp [step, hc]
    | _ => cases hn
  obtain ⟨ts₁, m₁, ts₂, hstep, hr, rfl⟩ := read_cons_eq_some.1 h
  rw [hs _ [] rfl] at hstep
  obtain ⟨⟨ts₁, m₁⟩, hsign, he⟩ := Option.map_eq_some_iff.1 hstep
  cases he
  exact read_cons_eq_some.2 ⟨us ++ ts₁, m₁, ts₂, by rw [hs m us hm, hsign]; rfl, hr, by simp⟩

/-- A character that is escaped stands for itself. -/
lemma read_escape {content : List Piece} :
    (string content).read (escape c) = some ([], string (content ++ [.char c])) := by
  by_cases hq : c = '"'
  · subst hq; rfl
  by_cases hb : c = '\\'
  · subst hb; rfl
  by_cases hd : c = '$'
  · subst hd; rfl
  by_cases hn : c = '\n'
  · subst hn; rfl
  by_cases hr : c = '\r'
  · subst hr; rfl
  by_cases ht : c = '\t'
  · subst ht; rfl
  simp [escape, read, step, readString, hq, hb, hd, hn, hr]

/-- So do characters in turn. -/
lemma read_flatMap_escape {content : List Piece} :
    (string content).read (a.flatMap escape) = some ([], string (content ++ a.map .char)) := by
  induction a generalizing content with
  | nil => simp [read]
  | cons c cs ih =>
    have hc : (string content).read (escape c) = some ([], string (content ++ [.char c])) :=
      read_escape
    simpa using read_append hc ih

/-- No escaped character begins with a quote, so that the first one is read as the others are. -/
lemma read_quote_escape : quote.read (escape c ++ b) = (string []).read (escape c ++ b) := by
  obtain ⟨d, ds, he, hd⟩ : ∃ d ds, escape c = d :: ds ∧ d ≠ '"' := by
    unfold escape
    split
    case h_7 hq _ _ _ _ _ => exact ⟨c, [], rfl, hq⟩
    all_goals exact ⟨_, _, rfl, by decide⟩
  rw [he, List.cons_append]
  simp [read, step, hd]

/-- The characters of a literal are read as a token that stands for its text. -/
lemma read_literal {s : String} :
    ∃ m, (code []).read (literal s).toList = some ([.literal (s.toList.map .char)], m) ∧
      m.end? = some [] := by
  have hl : (literal s).toList = '"' :: (s.toList.flatMap escape ++ ['"']) := by simp [literal]
  rw [hl]
  cases s.toList with
  | nil => exact ⟨empty, rfl, rfl⟩
  | cons c cs =>
    refine ⟨code [], ?_, rfl⟩
    have hs : (string []).read ((c :: cs).flatMap escape ++ ['"']) =
        some ([] ++ [.literal ((c :: cs).map .char)], code []) :=
      read_append read_flatMap_escape rfl
    have hq : (code []).step '"' = some ([], quote) := rfl
    rw [List.flatMap_cons, List.append_assoc, ← read_quote_escape] at hs
    rw [List.flatMap_cons, List.append_assoc, read, hq]
    simp [hs]

/-- A comment goes on until the line ends. -/
lemma read_comment (h : '\n' ∉ a) : comment.read a = some ([], comment) := by
  induction a with
  | nil => rfl
  | cons c cs ih =>
    rw [List.mem_cons, not_or] at h
    simp [read, step, Ne.symm h.1, ih h.2]

end Mode

open Mode

variable {a b s : String} {ts us : List Token}

/-- Whether what has been read ends with the text, whatever follows. -/
def endsApart (s : String) : Bool :=
  ((code []).read s.toList).any fun p => p.2 = code []

/-- Whether what has been read before ends where the text begins. -/
def startsApart (s : String) : Bool := s.toList.head?.all isSeparator

/-- A text begins as its first part does. -/
lemma startsApart_append (h : a.toList.head?.any isSeparator) : startsApart (a ++ b) := by
  unfold startsApart
  cases ha : a.toList with
  | nil => simp [ha] at h
  | cons c cs => simpa [ha] using h

/-- If the first part can be empty, the text can begin as the second does. -/
lemma startsApart_append_of_both (ha : startsApart a) (hb : startsApart b) :
    startsApart (a ++ b) := by
  unfold startsApart at ha hb ⊢
  cases ha' : a.toList with
  | nil => simpa [ha'] using hb
  | cons c cs => simpa [ha'] using ha

/-- The tokens of a text are those that are read, and the one that its end completes. -/
lemma tokens?_eq_some :
    tokens? s = some ts ↔ ∃ us m ends,
      (code []).read s.toList = some (us, m) ∧ m.end? = some ends ∧ us ++ ends = ts := by
  simp [tokens?, Option.bind_eq_some_iff]

/-- A text ends apart if nothing is left open behind its last token. -/
lemma endsApart_iff : endsApart s ↔ ∃ ts, (code []).read s.toList = some (ts, code []) := by
  simp [endsApart, Option.any_eq_true]

/-- Text that ends apart may follow such text. -/
lemma endsApart_append (ha : endsApart a) (hb : endsApart b) : endsApart (a ++ b) := by
  rw [endsApart_iff] at ha hb ⊢
  obtain ⟨ts, ha⟩ := ha
  obtain ⟨us, hb⟩ := hb
  exact ⟨ts ++ us, by rw [String.toList_append, read_append ha hb]⟩

/-- Before a text that stands apart the tokens of the text before it end. -/
lemma read_append_of_separator {m : Mode} (ha : tokens? a = some ts)
    (hb : (code []).read b.toList = some (us, m)) (h : b.toList.head?.any isSeparator) :
    (code []).read (a ++ b).toList = some (ts ++ us, m) := by
  obtain ⟨ts, m', ends, hr, he, rfl⟩ := tokens?_eq_some.1 ha
  rw [String.toList_append]
  cases hc : b.toList with
  | nil => simp [hc] at h
  | cons c cs =>
    rw [hc] at h hb
    rw [List.append_assoc]
    exact read_append hr (read_of_isSeparator h he hb)

/-- What has been read ends with the text after it, if that stands apart. -/
lemma endsApart_append_of_separator (ha : tokens? a = some ts) (hb : endsApart b)
    (h : b.toList.head?.any isSeparator) : endsApart (a ++ b) := by
  rw [endsApart_iff] at hb ⊢
  obtain ⟨us, hb⟩ := hb
  exact ⟨ts ++ us, read_append_of_separator ha hb h⟩

/-- Two texts that stand apart have the tokens of both. -/
lemma tokens?_append (ha : tokens? a = some ts) (hb : tokens? b = some us)
    (h : endsApart a ∨ startsApart b) : tokens? (a ++ b) = some (ts ++ us) := by
  obtain ⟨us, m, ends, hr, he, rfl⟩ := tokens?_eq_some.1 hb
  rw [← List.append_assoc]
  obtain h | h := h
  · obtain ⟨vs, hv⟩ := endsApart_iff.1 h
    have ht : vs = ts := by simpa [tokens?, hv, end?, word?] using ha
    rw [ht] at hv
    exact tokens?_eq_some.2
      ⟨_, m, ends, by rw [String.toList_append, read_append hv hr], he, rfl⟩
  · by_cases hne : b = ""
    · subst hne
      cases hr
      cases he
      simpa [word?] using ha
    · have hs : b.toList.head?.any isSeparator := by
        unfold startsApart at h
        cases hc : b.toList with
        | nil => exact (hne (String.toList_eq_nil_iff.1 hc)).elim
        | cons c cs => simpa [hc] using h
      exact tokens?_eq_some.2 ⟨_, m, ends, read_append_of_separator ha hr hs, he, rfl⟩

/-- A text whose characters can stand in words is a word. -/
lemma tokens?_word (hne : s ≠ "") (h : ∀ c ∈ s.toList, isWord c) :
    tokens? s = some [.word s] := by
  have hl : s.toList ≠ [] := String.toList_eq_nil_iff.not.2 hne
  simp [tokens?, read_word h, end?, word?, hl]

/-- A literal is one token, which stands for the text that it is made from. -/
lemma tokens?_literal : tokens? (literal s) = some [.literal (s.toList.map .char)] := by
  obtain ⟨m, hr, he⟩ := read_literal (s := s)
  simp [tokens?, hr, he]

end TypedBundle.Kotlin
