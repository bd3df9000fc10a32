import TypedBundle.Kotlin.Code
import TypedBundle.Proofs.Kotlin.Tokens

/-!
# Reading Kotlin text

What a text declares and how its brackets nest. The reader goes by one token at a time and remembers
the brackets that are open. It takes note of each function, with the types and functions that it
stands in. A text that leaves the open brackets as they were can be read by itself
(`Moves`), and texts that stand apart one after the other (`Reads.append`).
-/

namespace TypedBundle.Kotlin

/-- The brackets that nest. -/
inductive Bracket where
  | paren
  | brace
  deriving DecidableEq

/-- What the text between two braces is the body of. -/
inductive Owner where
  | type (name : String)
  | companion
  | function (name : String)
  deriving DecidableEq

/-- What is to come. -/
inductive Pending where
  /-- At most the body of what has been declared. -/
  | body (owner : Option Owner)
  /-- The name of a type. -/
  | typeName
  /-- The name of a function, which is the last word before its parameters. -/
  | functionName (last : String)
  deriving DecidableEq

/-- The words that declare something. -/
def declaringWords : List String := ["class", "object", "fun"]

namespace Pending

/-- What is to come after a word that declares nothing. -/
def name : Pending → String → Pending
  | body owner, _ => body owner
  | typeName, w => body (some (.type w))
  | functionName _, w => functionName w

/-- What is to come after a word. -/
def word (p : Pending) (w : String) : Pending :=
  if w = "class" then typeName
  else if w = "object" then body (some .companion)
  else if w = "fun" then functionName ""
  else p.name w

end Pending

/-- A bracket that is open. -/
structure Opened where
  bracket : Bracket
  /-- What it is the body of. -/
  owner : Option Owner
  /-- What is to come after it. -/
  after : Pending
  deriving DecidableEq

/-- The owners of open brackets, the outermost first. -/
def owners (opened : List Opened) : List Owner := (opened.filterMap Opened.owner).reverse

/-- What has been read. -/
structure Reading where
  /-- The open brackets, the innermost first. -/
  opened : List Opened := []
  pending : Pending := .body none
  /-- The functions in order, each with what it stands in. -/
  functions : List (List Owner × String) := []
  deriving DecidableEq

namespace Reading

/-- Reads an opening bracket. -/
def enter (r : Reading) (b : Bracket) : Reading :=
  match b, r.pending with
  | .paren, .functionName f =>
    { opened := ⟨.paren, none, .body (some (.function f))⟩ :: r.opened
      functions := r.functions ++ [(owners r.opened, f)] }
  | .brace, .body owner =>
    { opened := ⟨.brace, owner, .body none⟩ :: r.opened
      functions := r.functions }
  | b, p =>
    { opened := ⟨b, none, p⟩ :: r.opened
      functions := r.functions }

/-- Reads a closing bracket. It closes the innermost one, which has to be of its kind. -/
def leave? (r : Reading) (b : Bracket) : Option Reading :=
  match r.opened with
  | o :: rest => if o.bracket = b then some { r with opened := rest, pending := o.after } else none
  | [] => none

/-- Reads a token. -/
def step (r : Reading) : Token → Option Reading
  | .word w => some { r with pending := r.pending.word w }
  | .sign c =>
    if c = '(' then some (r.enter .paren)
    else if c = ')' then r.leave? .paren
    else if c = '\x7b' then some (r.enter .brace)
    else if c = '\x7d' then r.leave? .brace
    else some r
  | .literal _ | .character _ => some r

/-- Reads tokens in turn. -/
def run (r : Reading) (ts : List Token) : Option Reading := ts.foldlM step r

/-- Without tokens nothing is read. -/
@[simp] lemma run_nil {r : Reading} : r.run [] = some r := rfl

/-- Tokens are read one after the other. -/
lemma run_append {r : Reading} {ts us} : r.run (ts ++ us) = (r.run ts).bind (·.run us) :=
  List.foldlM_append

end Reading

/-- What has been read at the end of the text. -/
def read? (s : String) : Option Reading := (tokens? s).bind (Reading.run {})

/-- The functions with what they stand in, when all of that stands in more. -/
def within (outer : List Owner) (fs : List (List Owner × String)) : List (List Owner × String) :=
  fs.map fun f => (outer ++ f.1, f.2)

/-- Of no functions none are placed inside. -/
@[simp] lemma within_nil {outer} : within outer [] = [] := rfl

/-- Functions are placed inside one after the other. -/
@[simp] lemma within_append {outer fs gs} :
    within outer (fs ++ gs) = within outer fs ++ within outer gs :=
  List.map_append

/-- The tokens lead from what was to come to what is to come, and declare functions. The brackets
that were open stay so. -/
def Moves (p : Pending) (ts : List Token) (fs : List (List Owner × String)) (p' : Pending) : Prop :=
  ∀ opened functions, Reading.run ⟨opened, p, functions⟩ ts =
    some ⟨opened, p', functions ++ within (owners opened) fs⟩

namespace Reading

variable {r r' : Reading} {outer : List Opened} {functions : List (List Owner × String)}

/-- The same reading in the midst of another one. -/
def under (outer : List Opened) (functions : List (List Owner × String)) (r : Reading) : Reading :=
  ⟨r.opened ++ outer, r.pending, functions ++ within (owners outer) r.functions⟩

/-- In the midst of another reading a bracket is opened as by itself. -/
lemma enter_under {b} : (r.under outer functions).enter b = (r.enter b).under outer functions := by
  obtain ⟨opened, p, fs⟩ := r
  cases b <;> cases p <;> simp [enter, under, owners, within]

/-- A bracket that is closed by itself is closed there, too. -/
lemma leave?_under {b} (h : r.leave? b = some r') :
    (r.under outer functions).leave? b = some (r'.under outer functions) := by
  obtain ⟨opened, p, fs⟩ := r
  unfold leave? at h ⊢
  cases opened with
  | nil => cases h
  | cons o rest =>
    dsimp only at h
    split at h
    · next hb =>
      cases h
      simp [under, hb]
    · cases h

/-- Brackets that were open before are out of reach. -/
lemma step_under {t} (h : r.step t = some r') :
    (r.under outer functions).step t = some (r'.under outer functions) := by
  cases t with
  | word w =>
    cases h
    rfl
  | sign c =>
    simp only [step] at h ⊢
    split_ifs at h ⊢
    · cases h
      exact congrArg some enter_under
    · exact leave?_under h
    · cases h
      exact congrArg some enter_under
    · exact leave?_under h
    · cases h
      rfl
  | literal | character =>
    cases h
    rfl

/-- Tokens that are read by themselves are read in the same way in the midst of another reading. -/
lemma run_under {ts} (h : r.run ts = some r') :
    (r.under outer functions).run ts = some (r'.under outer functions) := by
  induction ts generalizing r with
  | nil =>
    cases h
    rfl
  | cons t rest ih =>
    unfold run at h ih ⊢
    rw [List.foldlM_cons] at h ⊢
    obtain ⟨r₁, hs, hr⟩ := Option.bind_eq_some_iff.1 h
    exact Option.bind_eq_some_iff.2 ⟨_, step_under hs, ih hr⟩

end Reading

namespace Moves

variable {p p' p'' : Pending} {ts us : List Token} {fs gs : List (List Owner × String)}
  {owner : Option Owner}

/-- Tokens that can be read by themselves are read so among others. -/
lemma of_run (h : Reading.run ⟨[], p, []⟩ ts = some ⟨[], p', fs⟩) : Moves p ts fs p' := by
  intro opened functions
  have hu : ((⟨[], p, []⟩ : Reading).under opened functions).run ts =
      some ((⟨[], p', fs⟩ : Reading).under opened functions) := Reading.run_under h
  simpa [Reading.under] using hu

/-- No tokens leave everything as it is. -/
lemma nil : Moves p [] [] p := by simp [Moves]

/-- Tokens after tokens, with what both declare. -/
lemma append (h : Moves p ts fs p') (h' : Moves p' us gs p'') :
    Moves p (ts ++ us) (fs ++ gs) p'' := by
  intro opened functions
  rw [Reading.run_append, h, Option.bind_some, h', within_append, List.append_assoc]

/-- What stands between braces is in the body of what was declared. -/
lemma brace (h : Moves (.body none) ts fs p) :
    Moves (.body owner) ([.sign '\x7b'] ++ ts ++ [.sign '\x7d']) (within owner.toList fs)
      (.body none) := by
  intro opened functions
  have ho : Reading.run ⟨opened, .body owner, functions⟩ [.sign '\x7b'] =
      some ⟨⟨.brace, owner, .body none⟩ :: opened, .body none, functions⟩ := rfl
  rw [Reading.run_append, Reading.run_append, ho, Option.bind_some, h, Option.bind_some]
  have hw : within (owners (⟨.brace, owner, .body none⟩ :: opened)) fs =
      within (owners opened) (within owner.toList fs) := by
    cases owner <;> simp [within, owners]
  rw [hw]
  rfl

/-- What stands between parentheses leaves what is to come as it was. -/
lemma paren (h : Moves (.body none) ts fs p) :
    Moves (.body owner) ([.sign '('] ++ ts ++ [.sign ')']) fs (.body owner) := by
  intro opened functions
  have ho : Reading.run ⟨opened, .body owner, functions⟩ [.sign '('] =
      some ⟨⟨.paren, none, .body owner⟩ :: opened, .body none, functions⟩ := rfl
  rw [Reading.run_append, Reading.run_append, ho, Option.bind_some, h, Option.bind_some]
  rfl

/-- The parentheses after the name of a function make it one. -/
lemma parameters {f} (h : Moves (.body none) ts [] p) :
    Moves (.functionName f) ([.sign '('] ++ ts ++ [.sign ')']) [([], f)]
      (.body (some (.function f))) := by
  intro opened functions
  have ho : Reading.run ⟨opened, .functionName f, functions⟩ [.sign '('] =
      some ⟨⟨.paren, none, .body (some (.function f))⟩ :: opened, .body none,
        functions ++ [(owners opened, f)]⟩ := rfl
  rw [Reading.run_append, Reading.run_append, ho, Option.bind_some, h, Option.bind_some]
  simp [Reading.run, Reading.step, Reading.leave?, within]

end Moves

/-- Whether the token neither declares anything nor is a bracket. -/
def Token.isPlain : Token → Bool
  | word w => !declaringWords.contains w
  | sign c => c != '(' && c != ')' && c != '\x7b' && c != '\x7d'
  | literal _ | character _ => true

/-- Whether the text is read as tokens that neither declare anything nor are brackets. -/
def isPlain (s : String) : Bool := (tokens? s).any (·.all Token.isPlain)

/-- Whether the word can name a type or a function: it does not declare one. -/
def isName (s : String) : Bool :=
  s != "" && s.toList.all isWord && !declaringWords.contains s

namespace Moves

variable {t : Token} {ts : List Token} {owner : Option Owner}

/-- A token that moves nothing on its own declares nothing. -/
lemma of_step {p p' : Pending}
    (h : ∀ opened functions, Reading.step ⟨opened, p, functions⟩ t = some ⟨opened, p', functions⟩) :
    Moves p [t] [] p' := by
  intro opened functions
  simp [Reading.run, h]

/-- A word that declares nothing is a name. -/
lemma of_word {p : Pending} {w : String} (h : w ∉ declaringWords) :
    Moves p [.word w] [] (p.name w) := by
  refine of_step fun _ _ => ?_
  simp_all [declaringWords, Reading.step, Pending.word]

/-- A plain token declares nothing. It can at most be the name of what has been declared. -/
lemma of_isPlain_token {p : Pending} (h : t.isPlain) :
    Moves p [t] [] p ∨ ∃ w, Moves p [t] [] (p.name w) := by
  cases t with
  | word w => exact .inr ⟨w, of_word (by simpa [Token.isPlain] using h)⟩
  | sign c =>
    have hc : ((c ≠ '(' ∧ c ≠ ')') ∧ c ≠ '\x7b') ∧ c ≠ '\x7d' := by simpa [Token.isPlain] using h
    exact .inl (of_step fun _ _ => by simp [Reading.step, hc])
  | literal | character => exact .inl (of_step fun _ _ => rfl)

/-- So do plain tokens in turn. -/
lemma of_isPlain (h : ts.all Token.isPlain) : Moves (.body owner) ts [] (.body owner) := by
  induction ts with
  | nil => exact nil
  | cons t rest ih =>
    rw [List.all_cons, Bool.and_eq_true] at h
    obtain ht | ⟨w, ht⟩ := of_isPlain_token (p := .body owner) h.1
    · exact ht.append (ih h.2)
    · exact ht.append (ih h.2)

/-- Before the name of a function they end with another word that could be it. -/
lemma exists_of_isPlain {f : String} (h : ts.all Token.isPlain) :
    ∃ f', Moves (.functionName f) ts [] (.functionName f') := by
  induction ts generalizing f with
  | nil => exact ⟨f, nil⟩
  | cons t rest ih =>
    rw [List.all_cons, Bool.and_eq_true] at h
    obtain ht | ⟨w, ht⟩ := of_isPlain_token (p := .functionName f) h.1
    · obtain ⟨f', hr⟩ := ih h.2
      exact ⟨f', ht.append hr⟩
    · obtain ⟨f', hr⟩ := ih h.2
      exact ⟨f', ht.append hr⟩

end Moves

/-- A name is the one token of its text. -/
lemma tokens?_of_isName {w} (h : isName w) : tokens? w = some [.word w] ∧ w ∉ declaringWords := by
  unfold isName at h
  simp only [Bool.and_eq_true, bne_iff_ne, List.all_eq_true] at h
  exact ⟨tokens?_word h.1.1 h.1.2, by simpa using h.2⟩

/-- A name is plain text: it has neither brackets nor words that declare. -/
lemma isPlain_of_isName {w} (h : isName w) : isPlain w := by
  obtain ⟨ht, hd⟩ := tokens?_of_isName h
  simpa [isPlain, ht, Token.isPlain] using hd

/-- So is a string literal, whatever is in it. -/
lemma isPlain_literal {s} : isPlain (literal s) := by
  simp [isPlain, tokens?_literal, Token.isPlain]

/-- Plain texts make a plain text, if no token goes across the seam. -/
lemma isPlain_append {a b} (ha : isPlain a) (hb : isPlain b) (h : endsApart a ∨ startsApart b) :
    isPlain (a ++ b) := by
  unfold isPlain at ha hb ⊢
  rw [Option.any_eq_true] at ha hb
  obtain ⟨ts, hts, ha⟩ := ha
  obtain ⟨us, hus, hb⟩ := hb
  rw [tokens?_append hts hus h, Option.any_some, List.all_append, ha, hb]
  rfl

/-- Plain text after a text that ends apart. -/
lemma isPlain_after {a b} (ha : isPlain a ∧ endsApart a) (hb : isPlain b) : isPlain (a ++ b) :=
  isPlain_append ha.1 hb (.inl ha.2)

/-- Plain text before a text that starts apart. -/
lemma isPlain_before {a b} (ha : isPlain a) (hb : isPlain b ∧ startsApart b) : isPlain (a ++ b) :=
  isPlain_append ha hb.1 (.inr hb.2)

/-- Plain text ends with a text after it that stands apart. -/
lemma endsApart_of_isPlain {a b} (ha : isPlain a)
    (hb : b.toList.head?.any Mode.isSeparator ∧ endsApart b) : endsApart (a ++ b) := by
  unfold isPlain at ha
  rw [Option.any_eq_true] at ha
  obtain ⟨ts, hts, -⟩ := ha
  exact endsApart_append_of_separator hts hb.2 hb.1

/-- The text leads from what was to come to what is to come, and declares functions. -/
def Reads (p : Pending) (s : String) (fs : List (List Owner × String)) (p' : Pending) : Prop :=
  ∃ ts, tokens? s = some ts ∧ Moves p ts fs p'

namespace Reads

variable {p p' p'' : Pending} {a b s : String} {fs gs : List (List Owner × String)}
  {owner : Option Owner}

/-- A text after a text, if no token goes across the seam. -/
lemma append (ha : Reads p a fs p') (hb : Reads p' b gs p'') (h : endsApart a ∨ startsApart b) :
    Reads p (a ++ b) (fs ++ gs) p'' := by
  obtain ⟨ts, hts, ha⟩ := ha
  obtain ⟨us, hus, hb⟩ := hb
  exact ⟨ts ++ us, tokens?_append hts hus h, ha.append hb⟩

/-- A plain text declares nothing. -/
lemma of_isPlain (h : isPlain s) : Reads (.body owner) s [] (.body owner) := by
  unfold isPlain at h
  rw [Option.any_eq_true] at h
  obtain ⟨ts, hts, h⟩ := h
  exact ⟨ts, hts, .of_isPlain h⟩

/-- Before the name of a function it ends with another word that could be it. -/
lemma exists_of_isPlain {f : String} (h : isPlain s) :
    ∃ f', Reads (.functionName f) s [] (.functionName f') := by
  unfold isPlain at h
  rw [Option.any_eq_true] at h
  obtain ⟨ts, hts, h⟩ := h
  obtain ⟨f', hm⟩ := Moves.exists_of_isPlain h
  exact ⟨f', ts, hts, hm⟩

/-- A text that can be read by itself is read so among others. -/
lemma of_run (h : (tokens? s).bind (Reading.run ⟨[], p, []⟩) = some ⟨[], p', fs⟩) :
    Reads p s fs p' := by
  obtain ⟨ts, hts, hr⟩ := Option.bind_eq_some_iff.1 h
  exact ⟨ts, hts, .of_run hr⟩

/-- A name is that of what has been declared, if its name is to come. -/
lemma name {w} (h : isName w) : Reads p w [] (p.name w) := by
  obtain ⟨ht, hd⟩ := tokens?_of_isName h
  exact ⟨_, ht, .of_word hd⟩

/-- Text in brackets has the tokens between those of the brackets. -/
lemma tokens?_brackets {l r c d ts} (hl : endsApart l) (hr : startsApart r)
    (htl : tokens? l = some [.sign c]) (htr : tokens? r = some [.sign d])
    (h : tokens? s = some ts) :
    tokens? (l ++ s ++ r) = some ([.sign c] ++ ts ++ [.sign d]) :=
  tokens?_append (tokens?_append htl h (.inl hl)) htr (.inr hr)

/-- A brace stands apart from what is before it. -/
lemma startsApart_brace : startsApart ("\x7b" ++ s ++ "\x7d") :=
  String.append_assoc .. ▸ startsApart_append (by decide)

/-- So does a parenthesis. -/
lemma startsApart_paren : startsApart ("(" ++ s ++ ")") :=
  String.append_assoc .. ▸ startsApart_append (by decide)

/-- What is declared between braces is declared inside their owner. -/
lemma brace (h : Reads (.body none) s fs p) :
    Reads (.body owner) ("\x7b" ++ s ++ "\x7d") (within owner.toList fs) (.body none) := by
  obtain ⟨ts, hts, h⟩ := h
  exact ⟨_, tokens?_brackets (by decide) (by decide) (by decide)
    (by decide) hts, h.brace⟩

/-- What is declared between parentheses is declared where these stand. -/
lemma paren (h : Reads (.body none) s fs p) :
    Reads (.body owner) ("(" ++ s ++ ")") fs (.body owner) := by
  obtain ⟨ts, hts, h⟩ := h
  exact ⟨_, tokens?_brackets (by decide) (by decide) (by decide)
    (by decide) hts, h.paren⟩

/-- A name and parentheses after it declare a function, whose body may follow. -/
lemma parameters {f} (h : Reads (.body none) s [] p) :
    Reads (.functionName f) ("(" ++ s ++ ")") [([], f)] (.body (some (.function f))) := by
  obtain ⟨ts, hts, h⟩ := h
  exact ⟨_, tokens?_brackets (by decide) (by decide) (by decide)
    (by decide) hts, h.parameters⟩

end Reads

/-- Whole lines are read so. -/
structure ReadsLines (p : Pending) (s : String) (fs : List (List Owner × String)) (p' : Pending) :
    Prop where
  reads : Reads p s fs p'
  endsApart : Kotlin.endsApart s

namespace ReadsLines

variable {p p' p'' : Pending} {a b s : String} {fs gs : List (List Owner × String)}

/-- Without lines nothing is declared. -/
lemma nil : ReadsLines p "" [] p :=
  ⟨⟨[], rfl, .nil⟩, rfl⟩

/-- Lines after lines. -/
lemma append (ha : ReadsLines p a fs p') (hb : ReadsLines p' b gs p'') :
    ReadsLines p (a ++ b) (fs ++ gs) p'' :=
  ⟨ha.reads.append hb.reads (.inl ha.endsApart), endsApart_append ha.endsApart hb.endsApart⟩

/-- A text is a line once it is broken. -/
lemma of_reads (h : Reads p s fs p') : ReadsLines p (s ++ "\n") fs p' := by
  obtain ⟨ts, hts, hm⟩ := h
  have hn : Reads p' "\n" [] p' := ⟨[], by decide, .nil⟩
  have hs : Reads p s fs p' := ⟨ts, hts, hm⟩
  have h := hs.append hn (.inr (by decide))
  rw [List.append_nil] at h
  exact ⟨h, endsApart_append_of_separator hts (by decide) (by decide)⟩

end ReadsLines

/-- The end of a line that is empty. -/
lemma ReadsLines.newline {p} : ReadsLines p "\n" [] p :=
  ⟨⟨[], by decide, .nil⟩, by decide⟩

/-- The text consists of spaces. -/
def IsSpace (s : String) : Prop := ∀ c ∈ s.toList, c = ' '

/-- A text that leaves the reader as it was is read as nothing. -/
lemma ReadsLines.of_read {s p} (h : (Mode.code []).read s.toList = some ([], .code [])) :
    ReadsLines p s [] p := by
  refine ⟨⟨[], ?_, .nil⟩, endsApart_iff.2 ⟨[], h⟩⟩
  rw [tokens?, h]
  rfl

/-- Spaces are read as nothing. -/
lemma ReadsLines.of_isSpace {s p} (h : IsSpace s) : ReadsLines p s [] p := by
  apply of_read
  unfold IsSpace at h
  generalize s.toList = cs at h
  induction cs with
  | nil => rfl
  | cons c cs ih =>
    obtain ⟨rfl, hcs⟩ := List.forall_mem_cons.1 h
    exact Mode.read_cons_eq_some.2 ⟨[], .code [], [], by decide, ih hcs, rfl⟩

/-- A comment is read as nothing, with the end of its line. -/
lemma ReadsLines.comment {s p} (h : '\n' ∉ s.toList) : ReadsLines p ("//" ++ s ++ "\n") [] p := by
  have hr : (Mode.code []).read ("//" ++ s ++ "\n").toList = some ([], .code []) := by
    have hs : (Mode.code []).read "//".toList = some ([], .comment) := by decide
    have hn : Mode.comment.read "\n".toList = some ([], .code []) := by decide
    rw [String.toList_append, String.toList_append]
    exact Mode.read_append (Mode.read_append hs (Mode.read_comment h)) hn
  exact .of_read hr

namespace Code

variable {unit : String} {depth : Nat} {p p' p'' : Pending} {c : Code} {cs ds : List Code}
  {l head : Line} {fs gs : List (List Owner × String)} {owner : Option Owner}

/-- Indentation is space. -/
lemma isSpace_indentation (h : IsSpace unit) (depth : Nat) : IsSpace (indentation unit depth) := by
  unfold indentation IsSpace
  simp only [String.toList_join, List.mem_flatMap, List.mem_replicate]
  rintro c ⟨_, ⟨-, rfl⟩, hc⟩
  exact h c hc

/-- At every depth the piece is read so. -/
def Reads (p : Pending) (c : Code) (fs : List (List Owner × String)) (p' : Pending) : Prop :=
  ∀ unit depth, IsSpace unit → ReadsLines p (render unit depth c) fs p'

/-- At every depth the pieces are read so. -/
def ReadsAll (p : Pending) (cs : List Code) (fs : List (List Owner × String)) (p' : Pending) :
    Prop :=
  ∀ unit depth, IsSpace unit → ReadsLines p (renderAll unit depth cs) fs p'

/-- A line is read as its text. -/
lemma reads_line (h : Kotlin.Reads p l.text fs p') : Reads p (line l) fs p' := by
  intro unit depth hu
  have hi := ReadsLines.of_isSpace (p := p) (isSpace_indentation hu depth)
  rw [render, String.append_assoc]
  exact hi.append (.of_reads h)

/-- A comment to the end of its line declares nothing. -/
lemma reads_comment {s : String} (h : '\n' ∉ s.toList) (hl : l.text = "//" ++ s) :
    Reads p (line l) [] p := by
  intro unit depth hu
  have hi := ReadsLines.of_isSpace (p := p) (isSpace_indentation hu depth)
  rw [render, hl, String.append_assoc]
  exact hi.append (.comment h)

/-- Nor does an empty line. -/
lemma reads_blank : Reads p blank [] p := fun _ _ _ => .newline

/-- What the pieces of a block declare is in the body of what its head declares. -/
lemma reads_block (hh : Kotlin.Reads p head.text fs (.body owner))
    (hb : ReadsAll (.body none) cs gs p') :
    Reads p (block head cs) (fs ++ within owner.toList gs) (.body none) := by
  intro unit depth hu
  have hi := fun p => ReadsLines.of_isSpace (p := p) (isSpace_indentation hu depth)
  have hs : Kotlin.Reads (.body owner) " " [] (.body owner) := ⟨[], by decide, .nil⟩
  have hhead := hh.append hs (.inr (by decide))
  have hbody : Kotlin.Reads (.body owner) _ (within owner.toList ([] ++ gs ++ [])) (.body none) :=
    .brace ((ReadsLines.newline.append (hb unit (depth + 1) hu)).append (hi p')).reads
  have h := (hi p).append (.of_reads (hhead.append hbody (.inr Kotlin.Reads.startsApart_brace)))
  have he : render unit depth (block head cs) =
      indentation unit depth ++ (head.text ++ " " ++
        ("\x7b" ++ ("\n" ++ renderAll unit (depth + 1) cs ++ indentation unit depth) ++ "\x7d") ++
        "\n") := by
    simp [render, ← String.toList_inj]
  simpa [he] using h

/-- Without pieces nothing is declared. -/
lemma readsAll_nil : ReadsAll p [] [] p := fun _ _ _ => .nil

/-- One piece and those after it. -/
lemma readsAll_cons (hc : Reads p c fs p') (hcs : ReadsAll p' cs gs p'') :
    ReadsAll p (c :: cs) (fs ++ gs) p'' :=
  fun unit depth hu => (hc unit depth hu).append (hcs unit depth hu)

/-- The texts of pieces stand one after the other. -/
lemma renderAll_append : renderAll unit depth (cs ++ ds) =
    renderAll unit depth cs ++ renderAll unit depth ds := by
  induction cs with
  | nil => simp [renderAll]
  | cons c rest ih => simp [renderAll, ih, String.append_assoc]

/-- Pieces after pieces. -/
lemma readsAll_append (hcs : ReadsAll p cs fs p') (hds : ReadsAll p' ds gs p'') :
    ReadsAll p (cs ++ ds) (fs ++ gs) p'' := by
  intro unit depth hu
  rw [renderAll_append]
  exact (hcs unit depth hu).append (hds unit depth hu)

/-- One piece is read as by itself. -/
lemma readsAll_singleton (h : Reads p c fs p') : ReadsAll p [c] fs p' := by
  simpa using readsAll_cons h readsAll_nil

/-- Pieces that declare one function for each item declare them in order. -/
lemma readsAll_flatMap {α : Type} {xs : List α} {f : α → List Code}
    {declared : α → List Owner × String} (h : ∀ x ∈ xs, ReadsAll p (f x) [declared x] p) :
    ReadsAll p (xs.flatMap f) (xs.map declared) p := by
  induction xs with
  | nil => exact readsAll_nil
  | cons x rest ih =>
    obtain ⟨hx, hrest⟩ := List.forall_mem_cons.1 h
    exact readsAll_append hx (ih hrest)

/-- The groups of pieces are read one by one, and declare functions in turn. -/
inductive ReadsGroups (p : Pending) : List (List Code) → List (List Owner × String) → Prop where
  | nil : ReadsGroups p [] []
  | cons {group rest fs gs} :
    ReadsAll p group fs p →
    ReadsGroups p rest gs →
    ReadsGroups p (group :: rest) (fs ++ gs)

namespace ReadsGroups

variable {groups others : List (List Code)}

/-- Groups after groups. -/
lemma append (h : ReadsGroups p groups fs) (h' : ReadsGroups p others gs) :
    ReadsGroups p (groups ++ others) (fs ++ gs) := by
  induction h with
  | nil => exact h'
  | cons hg _ ih =>
    rw [List.append_assoc]
    exact .cons hg ih

/-- Groups that declare one function for each item declare them in order. -/
lemma map {α : Type} {xs : List α} {f : α → List Code} {declared : α → List Owner × String}
    (h : ∀ x ∈ xs, ReadsAll p (f x) [declared x] p) :
    ReadsGroups p (xs.map f) (xs.map declared) := by
  induction xs with
  | nil => exact .nil
  | cons x rest ih =>
    obtain ⟨hx, hrest⟩ := List.forall_mem_cons.1 h
    exact .cons hx (ih hrest)

/-- Empty lines between the groups declare nothing. -/
lemma separated (h : ReadsGroups p groups fs) : ReadsAll p (separated groups) fs p := by
  induction h with
  | nil => exact readsAll_nil
  | @cons group rest fs gs hg hr ih =>
    cases hr with
    | nil => simpa [Code.separated] using hg
    | cons =>
      have h := readsAll_append hg (readsAll_cons reads_blank ih)
      simpa [Code.separated] using h

end ReadsGroups

end Code

end TypedBundle.Kotlin
