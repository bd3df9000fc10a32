import TypedBundle.Proofs.Kotlin.Phrases

/-!
# Declarations in a file

The functions and classes that the file of a generated type is made of, as a reader of Kotlin text
reads them. Each function is read as one of its name (`reads_function`, `readsAll_helperFunction`),
the accumulator and the companion object as what stands in them, and what the class declares
follows (`readsAll_classBody`).
-/

namespace TypedBundle.Kotlin

/-- A function of one statement that declares nothing is read as its head is. -/
lemma Code.reads_function {head statement : Line} {name : String}
    (hh : Kotlin.Reads (.body none) head.text [([], name)] (.body (some (.function name))))
    (hs : Inert statement.text) :
    Code.Reads (.body none) (.block head [.line statement]) [([], name)] (.body none) := by
  have h := Code.reads_block hh (Code.readsAll_singleton (Code.reads_line hs))
  simpa using h

/-- A class of the language's library that files name is plain text. -/
lemma isPlain_library {n} (h : n ∈ libraryNames) : isPlain (AccessorFile.library n).text := by
  have hall : ∀ n ∈ libraryNames, isPlain (Name.simple n) := by decide +kernel
  simpa [AccessorFile.library] using hall n h

namespace HelperHead

variable {i : Imports} {d : HelperHead} {h : Helper} {s : Strategy}

/-- What the head of a helper is made of can be read. -/
structure Legible (d : HelperHead) : Prop where
  name : isName d.name
  typeParameter : ∀ p, d.typeParameter = some p → isPlain p.text
  params : ∀ p ∈ d.params, isPlain p.1 ∧ isPlain p.2.text
  result : ∀ r, d.result = some r → isPlain r.text

/-- What a helper is generic over, as it stands before the receiver. -/
def generics (d : HelperHead) : String :=
  match d.typeParameter with
  | some p => "<" ++ (p.text ++ "> ")
  | none => ""

/-- What a helper returns, as it stands after the parameters. -/
def returned (d : HelperHead) : String :=
  match d.result with
  | some r => ": " ++ r.text
  | none => ""

/-- The parameters of a helper, without the parentheses. -/
def parameters (d : HelperHead) : Line :=
  .separatedBy ", " (d.params.map fun p => (p.1 ++ ": ") ++ p.2)

/-- The text of the head, part by part, so that each can be read. -/
lemma text_line : (d.line i).text =
    (if d.isInline then "private inline fun " else "private fun ") ++
      ((d.generics ++ ((AccessorFile.bundle i).text ++ ".")) ++
        (d.name ++ (("(" ++ d.parameters.text ++ ")") ++ d.returned))) := by
  obtain ⟨name, isInline, typeParameter, params, result⟩ := d
  cases isInline <;> cases typeParameter <;> cases result <;>
    simp [line, generics, returned, parameters, ← String.toList_inj]

/-- The receiver of a helper is plain text. -/
lemma isPlain_receiver :
    isPlain ((AccessorFile.bundle i).text ++ ".") ∧
      endsApart ((AccessorFile.bundle i).text ++ ".") :=
  ⟨isPlain_before AccessorFile.isPlain_bundle (by decide),
    endsApart_of_isPlain AccessorFile.isPlain_bundle (by decide)⟩

namespace Legible

/-- Type parameters are plain text, and stand apart from what follows. -/
lemma isPlain_generics (hd : d.Legible) : isPlain d.generics ∧ endsApart d.generics := by
  unfold generics
  cases ht : d.typeParameter with
  | none => decide
  | some p =>
    have hp := isPlain_before (hd.typeParameter p ht) (b := "> ") (by decide)
    have he := endsApart_of_isPlain (hd.typeParameter p ht) (b := "> ") (by decide)
    exact ⟨isPlain_after (by decide) hp, endsApart_append (by decide) he⟩

/-- So are the parameters. -/
lemma isPlain_parameters (hd : d.Legible) : isPlain d.parameters.text := by
  apply AccessorFile.isPlain_separatedBy
  rw [List.forall_mem_map]
  intro p hp
  obtain ⟨hn, ht⟩ := hd.params p hp
  have hty := isPlain_after (a := ": ") (by decide) ht
  simp only [Line.text_append, Line.text_ofText, String.append_assoc]
  exact isPlain_before hn ⟨hty, startsApart_append (by decide)⟩

/-- So is the type of the result, which stands apart from what is before it. -/
lemma isPlain_returned (hd : d.Legible) : isPlain d.returned ∧ startsApart d.returned := by
  unfold returned
  cases hr : d.result with
  | none => decide
  | some r =>
    exact ⟨isPlain_after (by decide) (hd.result r hr), startsApart_append (by decide)⟩

/-- The head of a helper declares it. -/
lemma reads_line (hd : d.Legible) :
    Reads (.body none) (d.line i).text [([], d.name)] (.body (some (.function d.name))) := by
  have hlead : ∀ b : Bool, ∃ lead, (if b then "private inline fun " else "private fun ") = lead ∧
      Reads (.body none) lead [] (.functionName "") ∧ endsApart lead := by
    intro b
    cases b
    · exact ⟨"private fun ", rfl, .of_run (by decide), by decide⟩
    · exact ⟨"private inline fun ", rfl, .of_run (by decide), by decide⟩
  obtain ⟨lead, hlead, hl, hle⟩ := hlead d.isInline
  obtain ⟨hg, hge⟩ := hd.isPlain_generics
  obtain ⟨hb, hbe⟩ := isPlain_receiver (i := i)
  obtain ⟨hr, hrs⟩ := hd.isPlain_returned
  rw [text_line, hlead]
  exact reads_functionHead hl hle (isPlain_after ⟨hg, hge⟩ hb) (endsApart_append hge hbe) hd.name
    (.of_isPlain hd.isPlain_parameters) hr hrs

end Legible

/-- The types that helpers name are plain text. -/
lemma isPlain_platform : isPlain (AccessorFile.parcelable i).text ∧
    isPlain (AccessorFile.serializable i).text ∧
    ∀ kind, isPlain (AccessorFile.kindLine i kind).text := by
  have hp : Platform.IsClass Platform.parcelable := by decide +kernel
  have hs : Platform.IsClass Platform.serializable := by decide +kernel
  refine ⟨?_, ?_, fun kind => ?_⟩
  · simpa [AccessorFile.parcelable, Imports.classLine] using isPlain_className (.of_platform hp)
  · simpa [AccessorFile.serializable, Imports.classLine] using isPlain_className (.of_platform hs)
  · exact isPlain_typeLine fun n hn => .of_platform (kind.isClass_of_mem_names n hn)

/-- What a helper writes is of a type that is plain text. -/
lemma isPlain_insertion : isPlain (AccessorFile.insertion i s).1.text := by
  obtain ⟨hp, hs, hk⟩ := isPlain_platform (i := i)
  cases s with
  | direct kind => exact hk kind
  | objectList =>
    have hl : isPlain (AccessorFile.library Platform.list).text := isPlain_library (by decide)
    have hclose := isPlain_before hp (b := ">") (by decide)
    have hopen := isPlain_after (a := "<") (by decide) hclose
    simp only [AccessorFile.insertion, Line.text_append, Line.text_ofText, String.append_assoc]
    exact isPlain_before hl ⟨hopen, startsApart_append (by decide)⟩
  | enum => exact isPlain_before (isPlain_library (by decide)) (b := "<*>") (by decide)
  | object => exact hp
  | serializable => exact hs

/-- What a helper reads is of a type that is plain text. -/
lemma isPlain_extraction : isPlain (AccessorFile.extraction i s).2.1.text := by
  obtain ⟨-, -, hk⟩ := isPlain_platform (i := i)
  have ht : isPlain "T?" := by decide
  cases s with
  | direct kind =>
    simpa [AccessorFile.extraction] using isPlain_before (hk kind) (b := "?") (by decide)
  | objectList =>
    have hl : isPlain (AccessorFile.library Platform.list).text := isPlain_library (by decide)
    simpa [AccessorFile.extraction] using isPlain_before hl (b := "<T>?") (by decide)
  | enum | object | serializable => simpa [AccessorFile.extraction] using ht

/-- What a helper is generic over is plain text. -/
lemma isPlain_typeParameter {p} (h : typeParameter? i s = some p) : isPlain p.text := by
  obtain ⟨hp, hs, -⟩ := isPlain_platform (i := i)
  cases s with
  | direct kind => cases h
  | objectList | object =>
    cases h
    simpa using isPlain_after (a := "T : ") (by decide) hp
  | enum =>
    cases h
    have hb : isPlain (AccessorFile.library TypeDescriptor.enumBase).text :=
      isPlain_library (by decide)
    have he := isPlain_before hb (b := "<T>") (by decide)
    simpa [String.append_assoc] using isPlain_after (a := "reified T : ") (by decide) he
  | serializable =>
    cases h
    simpa using isPlain_after (a := "T : ") (by decide) hs

/-- The head of a helper can be read. -/
lemma legible_ofHelper : (ofHelper i h).Legible := by
  have hkey : isPlain "key" ∧ isPlain (AccessorFile.library Platform.string).text :=
    ⟨by decide, isPlain_library (by decide)⟩
  have hvalue : isPlain "value" := by decide
  have hfallback : isPlain "fallback" := by decide
  cases h with
  | insert s =>
    refine ⟨AccessorFile.isName_helper (.insert s), nofun, ?_, nofun⟩
    exact List.forall_mem_cons.2
      ⟨hkey, List.forall_mem_singleton.2 ⟨hvalue, isPlain_insertion⟩⟩
  | extract s =>
    refine ⟨AccessorFile.isName_helper (.extract s), fun _ => isPlain_typeParameter,
      List.forall_mem_singleton.2 hkey, ?_⟩
    rintro _ ⟨⟩
    exact isPlain_extraction
  | extractWithFallback kind =>
    refine ⟨AccessorFile.isName_helper (.extractWithFallback kind), nofun, ?_, ?_⟩
    · exact List.forall_mem_cons.2
        ⟨hkey, List.forall_mem_singleton.2 ⟨hfallback, isPlain_platform.2.2 kind⟩⟩
    · rintro _ ⟨⟩
      exact isPlain_platform.2.2 kind

/-- The statement of a helper for a kind is a call. -/
lemma inert_kindStatement (kind : Kind) {arguments : String} (h : Inert arguments) :
    Inert ("put" ++ kind.label ++ ("(" ++ arguments ++ ")")) ∧
      Inert ("return get" ++ kind.label ++ ("(" ++ arguments ++ ")")) := by
  have hput : ∀ s ∈ Strategy.all, "put" ++ s.label ∉ declaringWords := by decide +kernel
  have hget : ∀ s ∈ Strategy.all, "get" ++ s.label ∉ declaringWords := by decide +kernel
  have hput' : isName ("put" ++ kind.label) := isName_append_label (by decide) hput (.direct kind)
  have hget' : isName ("get" ++ kind.label) := isName_append_label (by decide) hget (.direct kind)
  have hreturn := isPlain_after (a := "return ") (by decide) (isPlain_of_isName hget')
  refine ⟨.call (isPlain_of_isName hput') h, ?_⟩
  convert Inert.call hreturn h using 1
  simp [← String.toList_inj]

/-- The statement of a helper leaves no bracket open and declares nothing. -/
lemma inert_statement : Inert (statement i h).text := by
  have hkey : Inert "key" := .of_run (by decide)
  have hvalue : Inert "key, value" := .of_run (by decide)
  have hfallback : Inert "key, fallback" := .of_run (by decide)
  have hother : ∀ h ∈ [Helper.insert .objectList, .insert .enum, .insert .object,
      .insert .serializable, .extract .objectList, .extract .enum, .extract .object,
      .extract .serializable],
      (tokens? (statement { package := "" } h).text).bind (Reading.run {}) = some {} := by
    decide +kernel
  -- it names no class that a file would import, so it is the same in all files
  have he : (statement i h).text = (statement { package := "" } h).text := by
    rcases h with (_ | _ | _ | _ | _) | (_ | _ | _ | _ | _) | _ <;> rfl
  rw [he]
  rcases h with (kind | _ | _ | _ | _) | (kind | _ | _ | _ | _) | kind
  case insert.direct =>
    convert (inert_kindStatement kind hvalue).1 using 1
    simp [statement, AccessorFile.insertion]
  case extract.direct =>
    convert (inert_kindStatement kind hkey).2 using 1
    simp [statement, AccessorFile.extraction]
  case extractWithFallback =>
    convert (inert_kindStatement kind hfallback).2 using 1
    simp [statement]
  all_goals exact .of_run (hother _ (by simp))

end HelperHead

namespace AccessorFile

variable {g : AccessorType} {i : Imports} {x : Method}

/-- A helper is read as the function of its name. -/
lemma readsAll_helperFunction {h : Helper} :
    Code.ReadsAll (.body none) (helperFunction i h) [([], h.name)] (.body none) := by
  obtain ⟨before, l, hf, hb, hl⟩ := HelperHead.exists_helperFunction (i := i) (h := h)
  have hn : (HelperHead.ofHelper i h).name = h.name := by cases h <;> rfl
  have hhead := HelperHead.legible_ofHelper.reads_line (d := HelperHead.ofHelper i h) (i := i)
  rw [← hl, hn] at hhead
  have hbefore : Code.ReadsAll (.body none) before [] (.body none) := by
    obtain rfl | rfl := hb
    · exact Code.readsAll_nil
    · exact Code.readsAll_singleton (Code.reads_line (.of_run (by decide)))
  rw [hf]
  exact Code.readsAll_append hbefore
    (Code.readsAll_singleton (Code.reads_function hhead HelperHead.inert_statement))

/-- So is the function that copies a bundle. -/
lemma reads_duplicateHelper :
    Code.Reads (.body none) (duplicateHelper i) [([], "duplicate")] (.body none) := by
  have hb : isPlain (bundle i).text := isPlain_bundle
  obtain ⟨hr, hre⟩ := HelperHead.isPlain_receiver (i := i)
  have hlead : Reads (.body none) "private fun " [] (.functionName "") := .of_run (by decide)
  have hname : isName "duplicate" := by decide
  have hreturns := isPlain_after (a := ": ") (by decide) hb
  have hhead := reads_functionHead hlead (by decide) hr hre hname (.of_run (s := "") rfl) hreturns
    (startsApart_append (by decide))
  have hempty := isPlain_after (a := "this === ") (by decide)
    (isPlain_before hb (b := ".EMPTY") (by decide))
  have hreturn : isPlain "return if " := by decide
  have hcondition := Inert.call hreturn (.of_isPlain hempty)
  have hnew := Inert.call (isPlain_after (a := " ") (by decide) hb) (.of_run (s := "") rfl)
  have hcopy := Inert.append (a := " else clone() as ") (.of_run (by decide))
    (.of_isPlain hb) (.inl (by decide))
  have hresult := hnew.append hcopy (.inr (startsApart_append (by decide)))
  rw [String.append_assoc, String.append_assoc] at hresult
  have hstatement := hcondition.append hresult (.inr (startsApart_append (by decide)))
  apply Code.reads_function
  · convert hhead using 1
    simp [← String.toList_inj]
  · convert hstatement using 1
    simp [← String.toList_inj]

/-- The function of a method is read as one of its name. -/
lemma reads_function {statement : Line} (hg : isName g.name) (hx : Legible x)
    (hs : Inert statement.text) :
    Code.Reads (.body none) (function g i x statement) [([], x.name)] (.body none) :=
  Code.reads_function (reads_head hx (isPlain_returns hg hx)) hs

/-- What the accumulator declares: what collects keys, a function for each method, and what throws
if a key is absent. -/
lemma reads_assertClass (hg : isName g.name)
    (hm : ∀ x ∈ g.assertMethods, Legible x ∧ ∃ key, x.body = .assertChain key) :
    Code.Reads (.body none) (assertClass g i)
      (("add" :: g.assertMethods.map (·.name) ++ ["assert"]).map fun f => ([.type accumulator], f))
      (.body none) := by
  have hkeys : Code.ReadsAll (.body none)
      [.line ("private val keys = mutableListOf<" ++ library Platform.string ++ ">()")] []
      (.body none) :=
    Code.readsAll_singleton (Code.reads_line (.of_run (by decide)))
  have hadd : Code.ReadsAll (.body none)
      [.line ("private fun add(key: " ++ library Platform.string ++ "): " ++
        nested g accumulator ++ " = apply \x7b keys.add(key) \x7d")] [([], "add")]
      (.body none) := by
    have h : Reads (.body none) ("private fun add(key: " ++ Name.simple Platform.string ++ "): " ++
        accumulator ++ " = apply \x7b keys.add(key) \x7d") [([], "add")] (.body none) :=
      .of_run (by decide)
    exact Code.readsAll_singleton (Code.reads_line (by simpa [library, nested] using h))
  have hmethods : Code.ReadsGroups (.body none) (g.assertMethods.map (assertFunction g i))
      (g.assertMethods.map fun x => ([], x.name)) := by
    apply Code.ReadsGroups.map
    intro x hx
    obtain ⟨hl, key, hb⟩ := hm x hx
    have hf : assertFunction g i x = [function g i x ("return add(" ++ literal key ++ ")")] := by
      simp only [assertFunction, hb]
    rw [hf]
    refine Code.readsAll_singleton (reads_function hg hl ?_)
    simpa using inert_assertChain
  have hassert : Code.Reads (.body none)
      (.block "fun assert()"
        [.line "val present = bundle.keySet()",
          .line ("keys.firstOrNull \x7b it !in present \x7d?.let \x7b throw " ++
            nested g missingKey ++ "(it) \x7d")]) [([], "assert")] (.body none) := by
    have hhead : Reads (.body none) (Line.ofText "fun assert()").text [([], "assert")]
        (.body (some (.function "assert"))) := .of_run (by decide)
    have hpresent :
        Code.Reads (.body none) (.line "val present = bundle.keySet()") [] (.body none) :=
      Code.reads_line (.of_run (by decide))
    have hthrow : Inert ("keys.firstOrNull \x7b it !in present \x7d?.let \x7b throw " ++
        nested g missingKey ++ "(it) \x7d" : Line).text := by
      have h : Inert ("keys.firstOrNull \x7b it !in present \x7d?.let \x7b throw " ++ missingKey ++
        "(it) \x7d") := .of_run (by decide +kernel)
      simpa [nested] using h
    exact Code.reads_block hhead
      (Code.readsAll_cons hpresent (Code.readsAll_singleton (Code.reads_line hthrow)))
  have hhead : Reads (.body none) (Line.ofText ("inner class " ++ accumulator)).text []
      (.body (some (.type accumulator))) := .of_run (by decide)
  have hfirst := Code.ReadsGroups.cons hkeys (.cons hadd .nil)
  have hlast := Code.ReadsGroups.cons (Code.readsAll_singleton hassert) .nil
  have h : Code.Reads (.body none) (assertClass g i) _ (.body none) :=
    Code.reads_block hhead ((hfirst.append hmethods).append hlast).separated
  simpa [within, Function.comp_def] using h

/-- What the companion object declares: the entry points, what copies a bundle, and the helpers. -/
lemma reads_companionObject (hg : isName g.name)
    (hm : ∀ x ∈ g.companion, Legible x ∧
      companionFunction g i x = [function g i x (statement g i x)]) :
    Code.Reads (.body (some (.type missingKey))) (companionObject g i)
      ((g.companion.map (·.name) ++ ["duplicate"] ++ g.helpers.map (·.name)).map
        fun f => ([.companion], f))
      (.body none) := by
  have hmethods : Code.ReadsGroups (.body none) (g.companion.map (companionFunction g i))
      (g.companion.map fun x => ([], x.name)) := by
    apply Code.ReadsGroups.map
    intro x hx
    obtain ⟨hl, hf⟩ := hm x hx
    rw [hf]
    exact Code.readsAll_singleton (reads_function hg hl (inert_statement hg hl))
  have hhelpers : Code.ReadsGroups (.body none) (g.helpers.map (helperFunction i))
      (g.helpers.map fun h => ([], h.name)) := by
    apply Code.ReadsGroups.map
    exact fun h _ => readsAll_helperFunction
  have hcopy :=
    Code.ReadsGroups.cons (Code.readsAll_singleton (reads_duplicateHelper (i := i))) .nil
  have hhead : Reads (.body (some (.type missingKey))) (Line.ofText "companion object").text []
      (.body (some .companion)) := .of_run (by decide)
  have h : Code.Reads (.body (some (.type missingKey))) (companionObject g i) _ (.body none) :=
    Code.reads_block hhead ((hmethods.append hcopy).append hhelpers).separated
  simpa [within, Function.comp_def] using h

/-- The head of the class. -/
def classHead (g : AccessorType) (i : Imports) : Line :=
  let modifier : String := match g.visibility with
    | .public => ""
    | .internal => "internal "
  (modifier ++ "class " ++ g.name ++ " private constructor(private val bundle: ") ++ bundle i ++ ")"

/-- What stands in the class. -/
def classBody (g : AccessorType) (i : Imports) : List Code :=
  g.methods.flatMap (fun m => [.blank, instanceFunction g i m]) ++
    [.blank, assertClass g i,
     .blank, exceptionClass propertyNotFound "Property $key not found",
     .blank, exceptionClass missingKey "$key not found",
     .blank, companionObject g i]

/-- The main class is one block. -/
lemma mainClass_eq : mainClass g i = .block (classHead g i) (classBody g i) := rfl

/-- The functions that stand in the class, in the accumulator and in the companion object, each with
what it stands in. -/
def declared (g : AccessorType) : List (List Owner × String) :=
  g.methods.map (fun x => ([], x.name)) ++
    ("add" :: g.assertMethods.map (·.name) ++ ["assert"]).map (fun f => ([.type accumulator], f)) ++
    (g.companion.map (·.name) ++ ["duplicate"] ++ g.helpers.map (·.name)).map
      fun f => ([.companion], f)

/-- The head of the class declares the type. -/
lemma reads_classHead (hg : isName g.name) :
    Reads (.body none) (classHead g i).text [] (.body (some (.type g.name))) := by
  have hlead : ∃ lead, (match g.visibility with | .public => "" | .internal => "internal ") ++
      "class " = lead ∧ Reads (.body none) lead [] .typeName ∧ endsApart lead := by
    cases g.visibility
    · exact ⟨_, rfl, .of_run (by decide), by decide⟩
    · exact ⟨_, rfl, .of_run (by decide), by decide⟩
  obtain ⟨lead, he, hl, hle⟩ := hlead
  have hb := isPlain_after (a := "private val bundle: ") (by decide) (isPlain_bundle (i := i))
  have hconstructor : Reads (.body (some (.type g.name))) " private constructor" []
      (.body (some (.type g.name))) := .of_isPlain (by decide)
  have hparams := hconstructor.append (.paren (.of_isPlain hb)) (.inr Reads.startsApart_paren)
  have hname := (Reads.name (p := .typeName) hg).append hparams
    (.inr (startsApart_append (by decide)))
  have ht : (classHead g i).text = lead ++ (g.name ++ (" private constructor" ++
      ("(" ++ ("private val bundle: " ++ (bundle i).text) ++ ")"))) := by
    rw [← he]
    simp [classHead, ← String.toList_inj]
  rw [ht]
  exact hl.append hname (.inl hle)

/-- All that the file of a type is made of can be read, and its functions are those of methods. -/
structure Clear (g : AccessorType) : Prop where
  name : isName g.name
  package : g.package = "" ∨ isPlain g.package
  template : '\n' ∉ g.template.toList
  mentioned : ∀ n ∈ mentioned g, IsClassName n
  methods : ∀ x ∈ g.allMethods, Legible x
  assertMethods : ∀ x ∈ g.assertMethods, ∃ key, x.body = .assertChain key
  companion : ∀ i, ∀ x ∈ g.companion,
    companionFunction g i x = [function g i x (statement g i x)]

/-- What the class declares. -/
lemma readsAll_classBody (hg : Clear g) :
    Code.ReadsAll (.body none) (classBody g i) (declared g) (.body none) := by
  have hx := hg.methods
  unfold AccessorType.allMethods at hx
  rw [List.forall_mem_append, List.forall_mem_append] at hx
  obtain ⟨⟨hmethods, hcompanion⟩, hassert⟩ := hx
  have hfunctions : Code.ReadsAll (.body none)
      (g.methods.flatMap fun m => [.blank, instanceFunction g i m])
      (g.methods.map fun x => ([], x.name)) (.body none) := by
    apply Code.readsAll_flatMap
    intro x hx
    have hs : Inert (statement g i x).text := inert_statement hg.name (hmethods x hx)
    exact Code.readsAll_cons Code.reads_blank
      (Code.readsAll_singleton (reads_function hg.name (hmethods x hx) hs))
  have hproperty : Code.Reads (.body none)
      (exceptionClass propertyNotFound "Property $key not found") []
      (.body (some (.type propertyNotFound))) := Code.reads_line (.of_run (by decide +kernel))
  have hkey : Code.Reads (.body (some (.type propertyNotFound)))
      (exceptionClass missingKey "$key not found") []
      (.body (some (.type missingKey))) := Code.reads_line (.of_run (by decide +kernel))
  have hasserts := reads_assertClass (i := i) hg.name fun x hx =>
    ⟨hassert x hx, hg.assertMethods x hx⟩
  have hobject := reads_companionObject (i := i) hg.name fun x hx =>
    ⟨hcompanion x hx, hg.companion i x hx⟩
  have h : Code.ReadsAll (.body none) (classBody g i) _ (.body none) :=
    Code.readsAll_append hfunctions <|
    Code.readsAll_cons Code.reads_blank <| Code.readsAll_cons hasserts <|
    Code.readsAll_cons Code.reads_blank <| Code.readsAll_cons hproperty <|
    Code.readsAll_cons Code.reads_blank <| Code.readsAll_cons hkey <|
    Code.readsAll_cons Code.reads_blank <| Code.readsAll_singleton hobject
  simpa [declared] using h

end AccessorFile

end TypedBundle.Kotlin
