import TypedBundle.Proofs.Kotlin.Declarations

/-!
# How sources nest

A source consists of lines that declare nothing (`AccessorFile.front`) and the class. Reading it
gives the functions of the generated type in order, each in its place, and the last line closes the
brace that the class opens (`Manifest.sources_nest`).
-/

namespace TypedBundle

namespace Kotlin

section Text

variable {p : Pending} {s : String} {fs : List (List Owner × String)} {owner : Option Owner}

/-- What is read of a text by itself. -/
lemma Reads.read?_eq (h : Reads (.body none) s fs p) :
    read? s = some { pending := p, functions := fs } := by
  obtain ⟨ts, hts, hm⟩ := h
  have hr := hm [] []
  simpa [read?, hts, owners, within] using hr

/-- What is read of a text up to the last line, which closes a brace, and of all of it. -/
lemma read?_braced {header body : String} (hh : Reads (.body none) header [] (.body owner))
    (hb : ReadsLines (.body none) body fs (.body none)) :
    read? (header ++ " \x7b\n" ++ body) =
        some { opened := [⟨.brace, owner, .body none⟩], functions := within owner.toList fs } ∧
      read? (header ++ " \x7b\n" ++ body ++ "\x7d\n") =
        some { functions := within owner.toList fs } := by
  obtain ⟨ts, hts, hm⟩ := hh
  obtain ⟨⟨us, hus, hn⟩, -⟩ := hb
  have hopen : tokens? (header ++ " \x7b\n") = some (ts ++ [.sign '\x7b']) :=
    tokens?_append hts (by decide) (.inr (by decide))
  have hopene : endsApart (header ++ " \x7b\n") :=
    endsApart_append_of_separator hts (by decide) (by decide)
  have hfront := tokens?_append hopen hus (.inl hopene)
  have hall : tokens? (header ++ " \x7b\n" ++ body ++ "\x7d\n") =
      some (ts ++ [.sign '\x7b'] ++ us ++ [.sign '\x7d']) :=
    tokens?_append hfront (by decide) (.inr (by decide))
  have hheader : Reading.run {} ts = some { pending := .body owner } := by simpa using hm [] []
  have henter : Reading.run { pending := .body owner } [.sign '\x7b'] =
      some { opened := [⟨.brace, owner, .body none⟩] } := rfl
  have hbody : Reading.run { opened := [⟨.brace, owner, .body none⟩] } us =
      some { opened := [⟨.brace, owner, .body none⟩], functions := within owner.toList fs } := by
    have ho : owners [⟨.brace, owner, .body none⟩] = owner.toList := by cases owner <;> rfl
    simpa [ho] using hn [⟨.brace, owner, .body none⟩] []
  have hrun : Reading.run {} (ts ++ [.sign '\x7b'] ++ us) =
      some { opened := [⟨.brace, owner, .body none⟩], functions := within owner.toList fs } := by
    rw [Reading.run_append, Reading.run_append, hheader, Option.bind_some, henter,
      Option.bind_some, hbody]
  constructor
  · rw [read?, hfront, Option.bind_some, hrun]
  · rw [read?, hall, Option.bind_some, Reading.run_append, hrun]
    rfl

namespace Code

/-- Lines that declare nothing. -/
lemma readsAll_lines {ls : List String} (h : ∀ s ∈ ls, Inert s) :
    ReadsAll (.body none) (ls.map fun s => line (.ofText s)) [] (.body none) := by
  induction ls with
  | nil => exact readsAll_nil
  | cons s rest ih =>
    obtain ⟨hs, hrest⟩ := List.forall_mem_cons.1 h
    have ht : Kotlin.Reads (.body none) (Line.ofText s).text [] (.body none) := by
      rw [Line.text_ofText]
      exact hs
    exact readsAll_cons (reads_line ht) (ih hrest)

/-- A piece ends with the end of a line. -/
lemma exists_render_eq (unit : String) (depth : Nat) (c : Code) :
    ∃ s, render unit depth c = s ++ "\n" := by
  cases c with
  | line l => exact ⟨_, rfl⟩
  | blank => exact ⟨"", rfl⟩
  | block head body =>
    refine ⟨indentation unit depth ++ head.text ++ " \x7b\n" ++ renderAll unit (depth + 1) body ++
      indentation unit depth ++ "\x7d", ?_⟩
    simp [render, ← String.toList_inj]

/-- So do pieces in turn, if there are any. -/
lemma exists_renderAll_eq (unit : String) (depth : Nat) {cs : List Code} (h : cs ≠ []) :
    ∃ s, renderAll unit depth cs = s ++ "\n" := by
  induction cs with
  | nil => exact (h rfl).elim
  | cons c rest ih =>
    cases rest with
    | nil =>
      obtain ⟨s, hs⟩ := exists_render_eq unit depth c
      exact ⟨s, by rw [renderAll, renderAll, hs, String.append_empty]⟩
    | cons d rest =>
      obtain ⟨s, hs⟩ := ih (List.cons_ne_nil d rest)
      exact ⟨render unit depth c ++ s, by rw [renderAll, hs, String.append_assoc]⟩

end Code

end Text

namespace AccessorFile

variable {g : AccessorType} {i : Imports} {config : OutputConfig}

/-- What stands before the class. -/
def front (g : AccessorType) (i : Imports) (config : OutputConfig) : List Code :=
  let header :=
    if config.emitHeader then
      [.line ("// Generated by bunch from " ++ g.template ++ ". Do not edit."), .blank]
    else []
  let package := if g.package = "" then [] else [.line ("package " ++ g.package), .blank]
  let imports := match i.lines with
    | [] => []
    | lines => lines.map (fun line => .line line) ++ [.blank]
  header ++ package ++ imports

/-- A file is what stands before the class, and the class. -/
lemma file_eq : file g i config = front g i config ++ [mainClass g i] := rfl

/-- The file up to the brace of the class, what stands within, and the last line. -/
lemma source_eq :
    source g config =
      (Code.renderAll config.indentUnit 0 (front g (importsOf g) config) ++
        (classHead g (importsOf g)).text) ++ " \x7b\n" ++
          Code.renderAll config.indentUnit 1 (classBody g (importsOf g)) ++ "\x7d\n" := by
  unfold source
  rw [file_eq, Code.renderAll_append, mainClass_eq]
  simp [Code.renderAll, Code.render, Code.indentation, ← String.toList_inj]

/-- What stands before the class declares nothing. -/
lemma readsAll_front (config : OutputConfig) (hg : Clear g) (hi : ∀ n ∈ i.imported, isPlain n) :
    Code.ReadsAll (.body none) (front g i config) [] (.body none) := by
  have hheader : Code.ReadsAll (.body none)
      (if config.emitHeader then
        [.line ("// Generated by bunch from " ++ g.template ++ ". Do not edit."), .blank]
      else []) [] (.body none) := by
    have hc : Code.Reads (.body none)
        (.line ("// Generated by bunch from " ++ g.template ++ ". Do not edit.")) []
        (.body none) := by
      apply Code.reads_comment (s := " Generated by bunch from " ++ g.template ++ ". Do not edit.")
      · simpa using hg.template
      · simp [← String.toList_inj]
    split
    · exact Code.readsAll_cons hc (Code.readsAll_singleton Code.reads_blank)
    · exact Code.readsAll_nil
  have hpackage : Code.ReadsAll (.body none)
      (if g.package = "" then [] else [.line ("package " ++ g.package), .blank]) []
      (.body none) := by
    split
    · exact Code.readsAll_nil
    · next hne =>
      have hp : Inert ("package " ++ g.package : Line).text := by
        rw [Line.text_append, Line.text_ofText, Line.text_ofText]
        exact .of_isPlain (isPlain_after (by decide) (hg.package.resolve_left hne))
      exact Code.readsAll_cons (Code.reads_line hp) (Code.readsAll_singleton Code.reads_blank)
  have hlines : ∀ s ∈ i.lines, Inert s := by
    unfold Imports.lines
    rw [List.forall_mem_map]
    intro n hn
    exact .of_isPlain (isPlain_after (by decide) (hi n hn))
  have himports : Code.ReadsAll (.body none)
      (match i.lines with
        | [] => []
        | lines => lines.map (fun line => .line line) ++ [.blank]) [] (.body none) := by
    split
    · exact Code.readsAll_nil
    · exact Code.readsAll_append (Code.readsAll_lines hlines)
        (Code.readsAll_singleton Code.reads_blank)
  exact Code.readsAll_append (Code.readsAll_append hheader hpackage) himports

end AccessorFile

end Kotlin

namespace Template

open Kotlin

variable {t : Template} {g : AccessorType} {x : Method}

/-- The names of methods can be read. -/
lemma isName_of_mem_allMethods (ht : t.Legal) (hg : t.generate = .ok g) (hx : x ∈ g.allMethods) :
    isName x.name := by
  obtain ⟨m, hm, hn⟩ | rfl | rfl := names_of_mem_allMethods hg hx
  · exact (ht.naming hm).isName_of_names hn
  · decide
  · decide

/-- Instance methods can be read if the classes that the file mentions can, and its template. -/
lemma legible_of_mem_methods (ht : t.Legal) (hg : t.generate = .ok g)
    (hn : ∀ n ∈ mentioned g, IsClassName n) (ho : isPlain (Name.simple g.template))
    (hx : x ∈ g.methods) : Legible x := by
  have hall : x ∈ g.allMethods := List.mem_append_left _ (List.mem_append_left _ hx)
  have hp := provides_of_mem_methods hg hx
  refine ⟨isName_of_mem_allMethods ht hg hall, ?_, ?_, ?_, hp.type_of_mem.2, ?_, ?_⟩
  · intro p hp
    obtain ⟨m, hm, e⟩ := property_of_mem_params hg hx hp
    rw [e]
    exact Identifier.isName_of_isLegal (ht.naming hm).property
  · intro ty hty n hmem
    exact hn n (mem_mentioned_of_signatureTypes (List.mem_append_left _ hx) ty hty n hmem)
  · intro key s param hb
    cases hp with
    | setter hm =>
      cases hb
      exact Identifier.isName_of_isLegal (ht.naming hm).property
    | getter | assertion | collect => cases hb
  · intro call hc
    obtain ⟨m, hm, hf⟩ := function_of_default? hg hall hc
    obtain ⟨key, s, ty, fallback, hb, hd⟩ := Body.default?_eq_some.1 hc
    rw [owner_of_mem_methods hg hx hb hd, hf]
    exact ⟨ho, Identifier.isName_of_isLegal (ht.members m hm).declaredName⟩
  · intro setter param hb
    cases hp with
    | setter | getter | assertion | collect => cases hb

/-- So can all methods. -/
lemma legible_of_mem_allMethods (ht : t.Legal) (hg : t.generate = .ok g)
    (hn : ∀ n ∈ mentioned g, IsClassName n) (ho : isPlain (Name.simple g.template))
    (hx : x ∈ g.allMethods) : Legible x := by
  have hname := isName_of_mem_allMethods ht hg hx
  obtain hx | rfl | ⟨y, hy, key, s, param, hb, rfl⟩ | ⟨m, hm, rfl⟩ := mem_allMethods hg hx
  · exact legible_of_mem_methods ht hg hn ho hx
  · have hb : Platform.IsClass Platform.bundle := by decide
    refine ⟨hname, ?_, ?_, nofun, nofun, nofun, nofun⟩
    · exact List.forall_mem_singleton.2 (by decide)
    · refine List.forall_mem_singleton.2 (List.forall_mem_singleton.2 ?_)
      exact .of_platform hb
  · have hl := legible_of_mem_methods ht hg hn ho hy
    refine ⟨hname, hl.params, hl.types, nofun, nofun, nofun, ?_⟩
    rintro _ _ ⟨⟩
    exact ⟨hl.name, hl.store key s param hb⟩
  · have hl := legible_of_mem_methods ht hg hn ho (assertion_mem_methods hg hm)
    exact ⟨hname, hl.params, hl.types, nofun, nofun, nofun, nofun⟩

/-- So can all that the file of a type is made of. -/
lemma clear_of_generate (ht : t.Legal) (hg : t.generate = .ok g)
    (hn : ∀ n ∈ mentioned g, IsClassName n) (hd : Name.Dotted g.template) :
    AccessorFile.Clear g := by
  obtain ⟨hs, hp⟩ := hd.simple_package
  have hname : g.name = t.outputName := by
    obtain ⟨-, as, -, rfl⟩ := generate_eq_ok.1 hg
    rfl
  have hpackage : g.package = Name.package g.template := by
    obtain ⟨-, as, -, rfl⟩ := generate_eq_ok.1 hg
    rfl
  refine ⟨?_, ?_, ?_, hn, ?_, ?_, ?_⟩
  · rw [hname]
    exact Identifier.isName_of_isLegal ht.outputName
  · rw [hpackage]
    exact hp.imp_right isPlain_of_dotted
  · intro hc
    have hnot : ¬ (Identifier.isPart '\n' ∨ '\n' = '.') := by decide
    exact hnot (hd.isPart _ hc)
  · exact fun x hx => legible_of_mem_allMethods ht hg hn (isPlain_of_isLegal hs) hx
  · intro x hx
    obtain ⟨m, -, a, ha, rfl⟩ := (mem_assertMethods_iff hg).1 hx
    exact ⟨_, congrArg Method.body (Member.asserts_of_accessors ha).2⟩
  · exact fun i x hx => companionFunction_eq hg hx

end Template

namespace Manifest

open Kotlin AccessorFile

variable {m : Manifest} {g : AccessorType}

/-- The classes that a file mentions have dotted names if those of the manifest do. -/
lemma isClassName_of_mentioned (hc : ∀ c ∈ m.classes, Name.Dotted c.name)
    (hg : g ∈ m.generate.outputs) : ∀ n ∈ mentioned g, IsClassName n := by
  intro n hn
  obtain ⟨d, -, t, ht, hgen, -⟩ := template_of_mem_outputs hg
  obtain ⟨mem, hm, hn⟩ | hp := of_mem_mentioned hgen hn
  · have hs := TemplateDecl.isSome_of_resolve ht mem hm n hn
    obtain ⟨c, hcm, rfl⟩ | hp := isSome_find?_classTable.1 hs
    · exact .of_dotted (hc c hcm)
    · exact .of_platform hp
  · exact .of_platform hp

/-- In a manifest with dotted names all that the file of a type is made of can be read. -/
lemma clear_of_mem_outputs (hc : ∀ c ∈ m.classes, Name.Dotted c.name)
    (ht : ∀ d ∈ m.templates, Name.Dotted d.className) (hg : g ∈ m.generate.outputs) : Clear g := by
  obtain ⟨d, hd, t, hr, hgen, htemplate⟩ := template_of_mem_outputs hg
  refine Template.clear_of_generate (TemplateDecl.resolve_legal hr) hgen
    (isClassName_of_mentioned hc hg) ?_
  rw [htemplate]
  exact ht d hd

/-- If the names of classes and templates are dotted, then the source of every generated type is a
header that declares the class, a body in braces, and a last line that closes the brace of the
class. All brackets in the body are closed in it, and the functions that it declares are those of
the type's methods in order: the instance methods, within the accumulator those that it has, and
within the companion object the entry points, the one that copies a bundle, and the helpers. -/
theorem sources_nest (hc : ∀ c ∈ m.classes, Name.Dotted c.name)
    (ht : ∀ d ∈ m.templates, Name.Dotted d.className) (hg : g ∈ m.generate.outputs)
    (config : OutputConfig) :
    ∃ header body,
      source g config = header ++ " \x7b\n" ++ (body ++ "\n") ++ "\x7d\n" ∧
      read? header = some { pending := .body (some (.type g.name)) } ∧
      read? (body ++ "\n") = some { functions := declared g } ∧
      read? (header ++ " \x7b\n" ++ (body ++ "\n")) =
        some { opened := [⟨.brace, some (.type g.name), .body none⟩],
               functions := within [.type g.name] (declared g) } ∧
      read? (source g config) = some { functions := within [.type g.name] (declared g) } := by
  have hclear := clear_of_mem_outputs hc ht hg
  have hi : ∀ n ∈ (importsOf g).imported, isPlain n := by
    intro n hn
    obtain ⟨hcovers, -⟩ := covers_importsOf g
    obtain ⟨ho, -⟩ := hcovers.mem_imported_iff.1 hn
    exact (hclear.mentioned n (hcovers.owner _ n ho).2).full
  have hunit : IsSpace config.indentUnit := by
    intro c hmem
    rw [OutputConfig.indentUnit, String.toList_ofList] at hmem
    exact List.eq_of_mem_replicate hmem
  have hfront := readsAll_front config hclear hi config.indentUnit 0 hunit
  have hheader := hfront.reads.append (reads_classHead (i := importsOf g) hclear.name)
    (.inl hfront.endsApart)
  have hbody := readsAll_classBody (i := importsOf g) hclear config.indentUnit 1 hunit
  have hne : classBody g (importsOf g) ≠ [] := by simp [classBody]
  obtain ⟨body, he⟩ := Code.exists_renderAll_eq config.indentUnit 1 hne
  rw [he] at hbody
  obtain ⟨hopen, hclosed⟩ := read?_braced hheader hbody
  rw [source_eq, he]
  exact ⟨_, body, rfl, hheader.read?_eq, hbody.reads.read?_eq, hopen, hclosed⟩

end Manifest

/-- In the source of a type with two members the companion object declares eight functions. -/
theorem Bags.source_nests :
    (∀ c ∈ Bags.manifest.classes, Name.Dotted c.name) ∧
      (∀ d ∈ Bags.manifest.templates, Name.Dotted d.className) ∧
      Bags.type ∈ Bags.manifest.generate.outputs ∧
      ∃ fs, Kotlin.read? (Kotlin.source Bags.type {}) = some { functions := fs } ∧
        (fs.filter (·.1 = [.type "Bags", .companion])).map Prod.snd =
          ["from", "withABag", "withABag", "duplicate", "insertInt", "insertString",
            "extractString", "extractInt"] := by
  have hc : ∀ c ∈ Bags.manifest.classes, Name.Dotted c.name := nofun
  have hd : Name.Dotted ("com" ++ "." ++ "example" ++ "." ++ "BagInfo") :=
    .dot (.dot (.identifier (by decide)) (by decide +kernel)) (by decide +kernel)
  have ht : ∀ d ∈ Bags.manifest.templates, Name.Dotted d.className := List.forall_mem_singleton.2 hd
  obtain ⟨header, body, -, -, -, -, hr⟩ := Manifest.sources_nest hc ht Bags.mem_outputs {}
  exact ⟨hc, ht, Bags.mem_outputs, _, hr, by decide⟩

end TypedBundle
