import TypedBundle.Proofs.Kotlin.HelperCalls
import TypedBundle.Proofs.Kotlin.Names

/-!
# Phrases of a file

The lines that files of generated types are made of, as a reader of Kotlin text reads them. Types
are plain text, statements leave no bracket open and declare nothing (`Inert`), and the head of a
function declares it (`reads_functionHead`).
-/

namespace TypedBundle.Kotlin

/-- The name of a class is written as it says. -/
@[simp] lemma Line.text_ofRef {written meant : String} :
    (Line.ofRef written meant).text = written := by
  simp [Line.ofRef, Line.text, Part.written]

/-- The text leaves no bracket open and declares nothing. -/
def Inert (s : String) : Prop := Reads (.body none) s [] (.body none)

namespace Inert

variable {a b s name : String}

/-- Plain text is inert. -/
lemma of_isPlain (h : isPlain s) : Inert s := Reads.of_isPlain h

/-- Inert texts make an inert text, if no token goes across the seam. -/
lemma append (ha : Inert a) (hb : Inert b) (h : endsApart a ∨ startsApart b) : Inert (a ++ b) :=
  Reads.append ha hb h

/-- Inert text is inert in parentheses, too. -/
lemma paren (h : Inert s) : Inert ("(" ++ s ++ ")") := Reads.paren h

/-- So it is in braces. -/
lemma brace (h : Inert s) : Inert ("\x7b" ++ s ++ "\x7d") := Reads.brace h

/-- A call of what is plain text. -/
lemma call (hn : isPlain name) (h : Inert s) : Inert (name ++ ("(" ++ s ++ ")")) :=
  (of_isPlain hn).append h.paren (.inr Reads.startsApart_paren)

/-- A text that can be read by itself. -/
lemma of_run (h : (tokens? s).bind (Reading.run {}) = some {}) : Inert s := Reads.of_run h

end Inert

/-- The head of a function declares it, whatever stands before and after its name. -/
lemma reads_functionHead {lead before name params after : String}
    (hl : Reads (.body none) lead [] (.functionName "")) (hle : endsApart lead)
    (hb : isPlain before) (hbe : endsApart before) (hn : isName name) (hp : Inert params)
    (ha : isPlain after) (has : startsApart after) :
    Reads (.body none) (lead ++ (before ++ (name ++ (("(" ++ params ++ ")") ++ after))))
      [([], name)] (.body (some (.function name))) := by
  obtain ⟨f, hf⟩ := Reads.exists_of_isPlain (f := "") hb
  have hparams := (Reads.parameters (f := name) hp).append (Reads.of_isPlain ha) (.inr has)
  have hname := (Reads.name (p := .functionName f) hn).append hparams
    (.inr (startsApart_append_of_both Reads.startsApart_paren has))
  exact hl.append (hf.append hname (.inl hbe)) (.inl hle)

section Types

variable {i : Imports} {n : String}

/-- A class is plain text in every file. -/
lemma isPlain_className (h : IsClassName n) : isPlain (i.className n) := by
  unfold Imports.className
  split
  · split
    · exact h.short
    · exact h.full
  · split
    · exact h.short
    · exact h.full

/-- Type arguments stand apart from what is before them. -/
lemma startsApart_typeLines {tys : List TypeDescriptor} :
    startsApart (i.typeLines tys).text := by
  cases tys with
  | nil => rfl
  | cons ty rest =>
    simp only [Imports.typeLines, Line.text_append, Line.text_ofText, String.append_assoc]
    exact startsApart_append (by decide)

mutual

/-- A type is plain text if its classes are. -/
lemma isPlain_typeLine : ∀ {ty : TypeDescriptor}, (∀ n ∈ ty.names, IsClassName n) →
    isPlain (i.typeLine ty).text
  | ⟨name, [], _, _, _⟩, h => by
    have hn : isPlain (i.className name) := isPlain_className (h name List.mem_cons_self)
    simpa [Imports.typeLine, Imports.classLine] using hn
  | ⟨name, first :: others, _, _, _⟩, h => by
    obtain ⟨hn, h⟩ := List.forall_mem_cons.1 h
    obtain ⟨hf, ho⟩ := List.forall_mem_append.1 h
    have hclose : startsApart ">" := by decide
    have hty : isPlain (i.typeLine first).text := isPlain_typeLine hf
    have htys : isPlain (i.typeLines others).text := isPlain_typeLines ho
    have hothers := isPlain_before htys (b := ">") (by decide)
    have hfirst := isPlain_before hty
      ⟨hothers, startsApart_append_of_both startsApart_typeLines hclose⟩
    have hopen := isPlain_after (a := "<") (by decide) hfirst
    simp only [Imports.typeLine, Imports.classLine, Line.text_append, Line.text_ofText,
      Line.text_ofRef, String.append_assoc]
    exact isPlain_before (isPlain_className hn) ⟨hopen, startsApart_append (by decide)⟩

/-- So are types in turn. -/
lemma isPlain_typeLines : ∀ {tys : List TypeDescriptor},
    (∀ n ∈ TypeDescriptor.namesAll tys, IsClassName n) → isPlain (i.typeLines tys).text
  | [], _ => by
    have hnone : isPlain "" := by decide
    exact hnone
  | ty :: rest, h => by
    obtain ⟨ht, hr⟩ := List.forall_mem_append.1 h
    have hrest : isPlain (i.typeLines rest).text := isPlain_typeLines hr
    have hfirst : isPlain (i.typeLine ty).text := isPlain_typeLine ht
    have hty := isPlain_before hfirst ⟨hrest, startsApart_typeLines⟩
    simp only [Imports.typeLines, Line.text_append, Line.text_ofText, String.append_assoc]
    exact isPlain_after (by decide) hty

end

end Types

/-- A name that goes on with the label of a strategy is one unless it declares something. -/
lemma isName_append_label {lead : String} (h : isName lead)
    (hd : ∀ s ∈ Strategy.all, lead ++ s.label ∉ declaringWords) (s : Strategy) :
    isName (lead ++ s.label) := by
  have hall : ∀ s ∈ Strategy.all, s.label.toList.all isWord := by decide +kernel
  have hl := hall s s.mem_all
  unfold isName at h ⊢
  simp only [Bool.and_eq_true, bne_iff_ne] at h ⊢
  refine ⟨⟨?_, ?_⟩, by simpa using hd s s.mem_all⟩
  · intro e
    rw [String.append_eq_empty_iff] at e
    exact h.1.1 e.1
  · rw [String.toList_append, List.all_append, h.1.2, hl]
    rfl

/-- The names in a method can be read. -/
structure Legible (x : Method) : Prop where
  name : isName x.name
  params : ∀ p ∈ x.params, isName p.name
  types : ∀ ty ∈ signatureTypes x, ∀ n ∈ ty.names, IsClassName n
  store : ∀ key s param, x.body = .store key s param → isName param
  load : ∀ key s ty fallback, x.body = .load key s ty fallback → ty ∈ signatureTypes x
  default : ∀ call, x.body.default? = some call → isPlain call.owner ∧ isName call.function
  entry : ∀ setter param, x.body = .entry setter param → isName setter ∧ isName param

namespace AccessorFile

variable {g : AccessorType} {i : Imports} {x : Method}

/-- The name of the container is plain text. -/
lemma isPlain_bundle : isPlain (bundle i).text := by
  have hb : Platform.IsClass Platform.bundle := by decide
  simpa [bundle, Imports.classLine] using isPlain_className (i := i) (.of_platform hb)

/-- The call of a default body leaves no bracket open. -/
lemma inert_defaultCall {call : DefaultCall} (ho : isPlain call.owner) (hf : isName call.function) :
    Inert (defaultCall g call).text := by
  have hdot : isPlain ("." ++ call.function) :=
    isPlain_after (by decide) (isPlain_of_isName hf)
  have hname := isPlain_before ho ⟨hdot, startsApart_append (by decide)⟩
  have he : (defaultCall g call).text =
      call.owner ++ ("." ++ call.function) ++ ("(" ++ "" ++ ")") := by
    simp [defaultCall, ← String.toList_inj]
  rw [he]
  exact .call hname (.of_run (by decide))

/-- A parameter is plain text. -/
lemma isPlain_parameter {p : Param} (hn : isName p.name) (ht : ∀ n ∈ p.type.names, IsClassName n) :
    isPlain (parameter i p).text := by
  have hty := isPlain_after (a := ": ") (by decide) (isPlain_typeLine (i := i) ht)
  simp only [parameter, Line.text_append, Line.text_ofText, String.append_assoc]
  exact isPlain_before (isPlain_of_isName hn) ⟨hty, startsApart_append (by decide)⟩

/-- Texts with commas between them are plain text if each of them is. -/
lemma isPlain_separatedBy {ls : List Line} (h : ∀ l ∈ ls, isPlain l.text) :
    isPlain (Line.separatedBy ", " ls).text := by
  induction ls using Line.separatedBy.induct with
  | case1 => decide
  | case2 l => exact h l (List.mem_singleton_self l)
  | case3 l rest hne ih =>
    obtain ⟨hl, hrest⟩ := List.forall_mem_cons.1 h
    have hr := isPlain_after (a := ", ") (by decide) (ih hrest)
    rw [Line.separatedBy]
    · simp only [Line.text_append, Line.text_ofText, String.append_assoc]
      exact isPlain_before hl ⟨hr, startsApart_append (by decide)⟩
    · exact hne

/-- The head of a method's function declares it. -/
lemma reads_head (hx : Legible x) {result : Line} (hr : isPlain result.text) :
    Reads (.body none)
      (("fun " ++ x.name ++ "(") ++ .separatedBy ", " (x.params.map (parameter i)) ++ "): " ++
        result : Line).text
      [([], x.name)] (.body (some (.function x.name))) := by
  have hp : Inert (Line.separatedBy ", " (x.params.map (parameter i))).text := by
    apply Inert.of_isPlain
    apply isPlain_separatedBy
    rw [List.forall_mem_map]
    intro p hp
    refine isPlain_parameter (hx.params p hp) (hx.types _ ?_)
    exact List.mem_append_left _ (List.mem_map_of_mem hp)
  have hafter := isPlain_after (a := ": ") (by decide) hr
  have hlead : Reads (.body none) "fun " [] (.functionName "") := .of_run (by decide)
  have hnone : isPlain "" := by decide
  have h := reads_functionHead hlead (by decide) hnone (by decide) hx.name hp hafter
    (startsApart_append (by decide))
  have he : (("fun " ++ x.name ++ "(") ++ .separatedBy ", " (x.params.map (parameter i)) ++
      "): " ++ result : Line).text = "fun " ++ ("" ++ (x.name ++ (("(" ++
        (Line.separatedBy ", " (x.params.map (parameter i))).text ++ ")") ++
          (": " ++ result.text)))) := by
    simp [← String.toList_inj]
  rwa [he]

/-- What a method returns is plain text. -/
lemma isPlain_returns (hg : isName g.name) (hx : Legible x) :
    isPlain (returns g i x.returns).text := by
  cases hr : x.returns with
  | receiver => simpa [returns, self] using isPlain_of_isName hg
  | value ty nullable =>
    have hty : isPlain (i.typeLine ty).text := by
      refine isPlain_typeLine (hx.types ty ?_)
      simp [signatureTypes, hr]
    cases nullable with
    | true => simpa [returns] using isPlain_before hty (b := "?") (by decide)
    | false => simpa [returns] using hty
  | assertion =>
    have ha : isPlain accumulator := by decide
    simpa [returns, nested] using ha
  | container => exact isPlain_bundle

/-- A helper's name can be read. -/
lemma isName_helper (h : Helper) : isName h.name := by
  have hinsert : ∀ s ∈ Strategy.all, "insert" ++ s.label ∉ declaringWords := by decide +kernel
  have hextract : ∀ s ∈ Strategy.all, "extract" ++ s.label ∉ declaringWords := by decide +kernel
  cases h with
  | insert s => exact isName_append_label (by decide) hinsert s
  | extract s => exact isName_append_label (by decide) hextract s
  | extractWithFallback kind => exact isName_append_label (by decide) hextract (.direct kind)

/-- The type argument of a read is plain text. -/
lemma isPlain_typeArgument {s : Strategy} {ty : TypeDescriptor}
    (h : ∀ n ∈ ty.names, IsClassName n) :
    isPlain (typeArgument i s ty).text ∧ startsApart (typeArgument i s ty).text := by
  have hsome : ∀ a : TypeDescriptor, (∀ n ∈ a.names, IsClassName n) →
      isPlain ("<" ++ i.typeLine a ++ ">" : Line).text ∧
        startsApart ("<" ++ i.typeLine a ++ ">" : Line).text := by
    intro a ha
    have hty : isPlain (i.typeLine a).text := isPlain_typeLine ha
    have hclose := isPlain_before hty (b := ">") (by decide)
    simp only [Line.text_append, Line.text_ofText, String.append_assoc]
    exact ⟨isPlain_after (by decide) hclose, startsApart_append (by decide)⟩
  have hnone : isPlain (Line.ofText "").text ∧ startsApart (Line.ofText "").text := by
    decide
  unfold typeArgument
  cases s with
  | direct kind => exact hnone
  | objectList =>
    obtain ⟨name, arguments, _, _, _⟩ := ty
    cases arguments with
    | nil => exact hnone
    | cons first others =>
      have hfirst : ∀ n ∈ first.names, IsClassName n := fun n hn =>
        h n (List.mem_cons_of_mem _ (List.mem_append_left _ hn))
      exact hsome first hfirst
  | enum | object | serializable => exact hsome ty h

/-- What follows a read leaves no bracket open. -/
lemma inert_afterRead {key fallback}
    (h : ∀ call, fallback = .inlineDefault call ∨ fallback = .orDefault call →
      isPlain call.owner ∧ isName call.function) :
    Inert (afterRead g key fallback).text ∧ startsApart (afterRead g key fallback).text := by
  have hnone : Inert (Line.ofText "").text ∧ startsApart (Line.ofText "").text :=
    ⟨.of_run (by decide), by decide⟩
  have hcall : ∀ call : DefaultCall, isPlain call.owner ∧ isName call.function →
      Inert (" ?: " ++ defaultCall g call : Line).text ∧
        startsApart (" ?: " ++ defaultCall g call : Line).text := by
    intro call hc
    have hd : Inert (defaultCall g call).text := inert_defaultCall hc.1 hc.2
    simp only [Line.text_append, Line.text_ofText]
    exact ⟨.append (.of_run (by decide)) hd (.inl (by decide)),
      startsApart_append (by decide)⟩
  cases fallback with
  | orThrow =>
    have ht : Inert (" ?: throw PropertyNotFoundException" ++ ("(" ++ literal key ++ ")")) :=
      .call (by decide) (.of_isPlain isPlain_literal)
    have he : (afterRead g key .orThrow).text =
        " ?: throw PropertyNotFoundException" ++ ("(" ++ literal key ++ ")") := by
      simp [afterRead, nested, propertyNotFound]
    rw [he]
    exact ⟨ht, startsApart_append (by decide)⟩
  | orDefault call => exact hcall call (h call (.inr rfl))
  | inlineDefault call => exact hcall call (h call (.inl rfl))
  | orNull | inlineZero => exact hnone

/-- A fallback that is handed over leaves no bracket open. -/
lemma inert_inlineFallback {s : Strategy} {fallback : Fallback} {value : Line}
    (h : ∀ call, fallback = .inlineDefault call ∨ fallback = .orDefault call →
      isPlain call.owner ∧ isName call.function)
    (hv : inlineFallback? g s fallback = some value) : Inert value.text := by
  have hz : ∀ kind ∈ Kind.all, ∀ z ∈ kind.zeroLiteral?, isPlain z := by decide
  unfold inlineFallback? at hv
  split at hv
  · next kind =>
    obtain ⟨z, hz', rfl⟩ := Option.map_eq_some_iff.1 hv
    rw [Line.text_ofText]
    refine .of_isPlain (hz kind ?_ z hz')
    cases kind <;> simp [Kind.all]
  · next call =>
    cases hv
    obtain ⟨ho, hf⟩ := h call (.inl rfl)
    exact inert_defaultCall ho hf
  · cases hv

/-- The statement of a setter. -/
lemma inert_store {helper key param : String} (hh : isPlain helper) (hp : isPlain param) :
    Inert ("return apply \x7b this.bundle." ++ helper ++ "(" ++ literal key ++ ", " ++ param ++
      ") \x7d") := by
  have harg := isPlain_after (a := ", ") (by decide) hp
  have hargs := isPlain_before (isPlain_literal (s := key))
    ⟨harg, startsApart_append (by decide)⟩
  have hname := isPlain_after (a := " this.bundle.") (by decide) hh
  have hcall := (Inert.call hname (.of_isPlain hargs)).append (b := " ")
    (.of_run (by decide)) (.inr (by decide))
  have h := Inert.append (a := "return apply ") (.of_run (by decide)) hcall.brace
    (.inl (by decide))
  convert h using 1
  simp [← String.toList_inj]

/-- The statement of a getter that hands over what to fall back to. -/
lemma inert_load_inline {helper key : String} {value : Line} (hh : isPlain helper)
    (hv : Inert value.text) :
    Inert (("return bundle." ++ helper ++ "(" ++ literal key ++ ", ") ++ value ++
      ")" : Line).text := by
  have hkey : Inert (literal key) := .of_isPlain isPlain_literal
  have harg := Inert.append (a := ", ") (.of_run (by decide)) hv (.inl (by decide))
  have hargs := hkey.append harg (.inr (startsApart_append (by decide)))
  have hname := isPlain_after (a := "return bundle.") (by decide) hh
  convert Inert.call hname hargs using 1
  simp [← String.toList_inj]

/-- The statement of another getter. -/
lemma inert_load {helper key : String} {typeArgument after : Line} (hh : isPlain helper)
    (ht : isPlain typeArgument.text ∧ startsApart typeArgument.text)
    (ha : Inert after.text ∧ startsApart after.text) :
    Inert (("return bundle." ++ helper) ++ typeArgument ++ ("(" ++ literal key ++ ")") ++
      after : Line).text := by
  have hname := isPlain_after (a := "return bundle.") (by decide) (isPlain_before hh ht)
  have hkey : Inert (literal key) := .of_isPlain isPlain_literal
  convert (Inert.call hname hkey).append ha.1 (.inr ha.2) using 1
  simp [← String.toList_inj]

/-- The statement of an entry point that calls a setter on an instance over a new bundle. -/
lemma inert_entry {setter param : String} (hg : isName g.name) (hs : isName setter)
    (hp : isName param) :
    Inert ("return " ++ self g ++ "(" ++ bundle i ++
      ("())." ++ setter ++ "(" ++ param ++ ")") : Line).text := by
  have hself := isPlain_after (a := "return ") (by decide) (isPlain_of_isName hg)
  have hinstance := Inert.call hself (.call (isPlain_bundle (i := i)) (.of_run (s := "") rfl))
  have hname := isPlain_after (a := ".") (by decide) (isPlain_of_isName hs)
  have hcall := Inert.call hname (.of_isPlain (isPlain_of_isName hp))
  have hdot : startsApart ("." ++ setter ++ ("(" ++ param ++ ")")) := by
    rw [String.append_assoc]
    exact startsApart_append (by decide)
  convert hinstance.append hcall (.inr hdot) using 1
  simp [self, ← String.toList_inj]

/-- The statement of the entry point that wraps a copy. -/
lemma inert_wrap {param : String} (hg : isName g.name) (hp : isName param) :
    Inert ("return " ++ self g ++ ("(" ++ param ++ ".duplicate())") : Line).text := by
  have hself := isPlain_after (a := "return ") (by decide) (isPlain_of_isName hg)
  have hcopy := Inert.append (.of_isPlain (isPlain_of_isName hp)) (b := ".duplicate()")
    (.of_run (by decide)) (.inr (by decide))
  convert Inert.call hself hcopy using 1
  simp [self, ← String.toList_inj]

/-- The statement of a presence assertion. -/
lemma inert_assert {name : String} (hn : isName name) :
    Inert ("return " ++ nested g accumulator ++ ("()." ++ name ++ "()") : Line).text := by
  have hcall := Inert.call (isPlain_of_isName hn) (.of_run (s := "") rfl)
  have h := Inert.append (a := "return Assert().") (.of_run (by decide)) hcall
    (.inl (by decide))
  convert h using 1
  simp [nested, accumulator, ← String.toList_inj]

/-- The statement of a presence assertion on the accumulator. -/
lemma inert_assertChain {key : String} : Inert ("return add(" ++ literal key ++ ")") := by
  have hname : isPlain "return add" := by decide
  convert Inert.call hname (.of_isPlain (isPlain_literal (s := key))) using 1
  simp [← String.toList_inj]

/-- The statement of a method leaves no bracket open and declares nothing. -/
lemma inert_statement (hg : isName g.name) (hx : Legible x) : Inert (statement g i x).text := by
  unfold statement
  cases hb : x.body with
  | store key s param =>
    have hh : isPlain (Helper.insert s).name := isPlain_of_isName (isName_helper _)
    simpa using inert_store hh (isPlain_of_isName (hx.store key s param hb))
  | load key s ty fallback =>
    have hd : ∀ call, fallback = .inlineDefault call ∨ fallback = .orDefault call →
        isPlain call.owner ∧ isName call.function := by
      rintro call (rfl | rfl)
      · exact hx.default call (by rw [hb]; rfl)
      · exact hx.default call (by rw [hb]; rfl)
    have hh : isPlain (((Helper.ofBody? (.load key s ty fallback)).map Helper.name).getD "") := by
      cases Helper.ofBody? (.load key s ty fallback) with
      | none => exact (by decide : isPlain "")
      | some h => exact isPlain_of_isName (isName_helper h)
    dsimp only
    split
    · next value hv => exact inert_load_inline hh (inert_inlineFallback hd hv)
    · exact inert_load hh (isPlain_typeArgument (hx.types ty (hx.load key s ty fallback hb)))
        (inert_afterRead hd)
  | assert key => exact inert_assert hx.name
  | assertChain key => simpa using inert_assertChain
  | entry setter param =>
    obtain ⟨hs, hp⟩ := hx.entry setter param hb
    exact inert_entry hg hs hp
  | wrap =>
    refine inert_wrap hg ?_
    cases hp : x.params with
    | nil => exact (by decide : isName "bundle")
    | cons p rest => exact hx.params p (by simp [hp])
  | collect => exact .of_run (s := "return bundle") (by decide)

end AccessorFile

end TypedBundle.Kotlin
