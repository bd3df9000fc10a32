import TypedBundle.Proofs.Instance.Getters
import TypedBundle.Proofs.Kotlin.References

/-!
# Calls of helpers

Setters and getters call private functions of the companion object. Which of them are declared
follows from the bodies of methods, and what is handed to them is decided when a call is written: a
fallback is handed over if the strategy has a kind and there is something to hand over. That the two
fit is an invariant of the members' accessors (`exists_calls_load`): a getter hands something over
only if its kind takes a fallback, a zero value has a literal, and a list of objects has a class of
elements.
-/

namespace TypedBundle

deriving instance ReflBEq, LawfulBEq for Kind
deriving instance ReflBEq, LawfulBEq for Strategy
deriving instance ReflBEq, LawfulBEq for Helper

/-- No strategy is left out. -/
lemma Strategy.mem_all (s : Strategy) : s ∈ all := by
  have hk : ∀ kind : Kind, kind ∈ Kind.all := by
    intro kind
    cases kind <;> simp [Kind.all]
  cases s <;> simp [all, hk]

/-- Strategies have labels of their own. -/
lemma Strategy.label_injective : Function.Injective label := by
  have hn : (all.map label).Nodup := by decide +kernel
  exact fun s s' h => List.inj_on_of_nodup_map hn (mem_all s) (mem_all s') h

/-- No helper is left out. -/
lemma Helper.mem_all (h : Helper) : h ∈ all := by
  cases h with
  | insert s | extract s => simp [all, s.mem_all]
  | extractWithFallback kind => cases kind <;> simp [all, Kind.all]

/-- The helpers of methods are those that their bodies call. -/
lemma Helper.mem_usedBy {methods : List Method} {h : Helper} :
    h ∈ usedBy methods ↔ ∃ x ∈ methods, ofBody? x.body = some h := by
  simp [usedBy, mem_all]

namespace Kotlin

namespace Line

/-- A text without class names is written as it is. -/
@[simp] lemma text_ofText {s : String} : (ofText s).text = s := by
  simp [ofText, text, Part.written]

/-- Parts of a line are written one after the other. -/
@[simp] lemma text_append {a b : Line} : (a ++ b).text = a.text ++ b.text := by
  have h : (a ++ b).parts = a.parts ++ b.parts := rfl
  simp [text, h]

end Line

namespace Code

/-- The head and the body of a block. -/
def block? : Code → Option (Line × List Code)
  | .block head body => some (head, body)
  | .line _ | .blank => none

/-- The blocks of a file or of the body of a block. -/
def blocks (cs : List Code) : List (Line × List Code) := cs.filterMap block?

/-- The blocks of pieces are those of each in turn. -/
@[simp] lemma blocks_append {cs ds : List Code} : blocks (cs ++ ds) = blocks cs ++ blocks ds :=
  List.filterMap_append

/-- Empty lines between groups are no blocks. -/
@[simp] lemma blocks_separated {groups : List (List Code)} :
    blocks (separated groups) = groups.flatMap blocks := by
  induction groups using separated.induct with
  | case1 => rfl
  | case2 group => simp [separated]
  | case3 group rest hne ih =>
    rw [separated, blocks_append, List.flatMap_cons, ← ih]
    · rfl
    · exact hne

end Code

/-- What is handed to a helper. -/
inductive Argument where
  /-- A key, as a literal. -/
  | key (key : String)
  /-- The parameter of a setter. -/
  | param (name : String)
  /-- The literal of a zero value. -/
  | zero (literal : String)
  /-- The value of a default body. -/
  | default (call : DefaultCall)

/-- Whether the argument is one to fall back to. -/
def Argument.IsFallback : Argument → Prop
  | zero _ | default _ => True
  | key _ | param _ => False

/-- The argument as it is written. -/
def Argument.line (g : AccessorType) : Argument → Line
  | key k => Kotlin.literal k
  | param name => name
  | zero z => z
  | default call => AccessorFile.defaultCall g call

/-- A call of a helper. -/
structure HelperCall where
  name : String
  typeArgument : Option TypeDescriptor := none
  arguments : List Argument

namespace HelperCall

/-- The call as it is written. -/
def line (g : AccessorType) (i : Imports) (c : HelperCall) : Line :=
  let typeArgument : Line :=
    match c.typeArgument with
    | some ty => "<" ++ i.typeLine ty ++ ">"
    | none => ""
  c.name ++ typeArgument ++ "(" ++ .separatedBy ", " (c.arguments.map (Argument.line g)) ++ ")"

/-- The fallback that is handed over with a read, if there is one. -/
def fallback? : Strategy → Fallback → Option Argument
  | .direct kind, .inlineZero => kind.zeroLiteral?.map .zero
  | .direct _, .inlineDefault call => some (.default call)
  | _, _ => none

/-- The type argument of a read without a fallback. -/
def typeArgument? (ty : TypeDescriptor) : Strategy → Option TypeDescriptor
  | .direct _ => none
  | .objectList => ty.arguments.head?
  | .enum | .object | .serializable => some ty

/-- The call in the statement of a method. -/
def ofBody? (body : Body) : Option HelperCall :=
  match body with
  | .store key s param =>
    some { name := (Helper.insert s).name, arguments := [.key key, .param param] }
  | .load key s ty fallback =>
    let name := ((Helper.ofBody? body).map Helper.name).getD ""
    match fallback? s fallback with
    | some a => some { name, arguments := [.key key, a] }
    | none => some { name, typeArgument := typeArgument? ty s, arguments := [.key key] }
  | _ => none

/-- The statement returns what the call answers, or the receiver after the call. -/
inductive StandsIn (g : AccessorType) (i : Imports) (c : HelperCall) (l : Line) : Prop where
  | apply :
    l.text = "return apply \x7b this.bundle." ++ (c.line g i).text ++ " \x7d" →
    StandsIn g i c l
  | read (rest : String) :
    l.text = "return bundle." ++ (c.line g i).text ++ rest →
    StandsIn g i c l

variable {g : AccessorType} {i : Imports}

/-- The fallback in a call is written as its argument. -/
lemma inlineFallback_eq {s : Strategy} {fallback : Fallback} :
    AccessorFile.inlineFallback? g s fallback =
      (fallback? s fallback).map (Argument.line g) := by
  cases s with
  | direct kind =>
    cases fallback with
    | inlineZero =>
      change kind.zeroLiteral?.map _ = (kind.zeroLiteral?.map _).map _
      rw [Option.map_map]
      rfl
    | _ => rfl
  | _ => rfl

/-- The type argument of a call is written in angle brackets, if there is one. -/
lemma typeArgument_eq {s : Strategy} {ty : TypeDescriptor} :
    AccessorFile.typeArgument i s ty =
      match typeArgument? ty s with
      | some a => "<" ++ i.typeLine a ++ ">"
      | none => "" := by
  cases s <;> rfl

/-- The statement of a method contains its call. -/
lemma standsIn_statement {x : Method} {c : HelperCall} (h : ofBody? x.body = some c) :
    c.StandsIn g i (AccessorFile.statement g i x) := by
  unfold AccessorFile.statement
  cases hb : x.body with
  | store key s param =>
    rw [hb] at h
    cases h
    apply StandsIn.apply
    simp [line, Argument.line, Line.separatedBy, String.append_assoc]
  | load key s ty fallback =>
    rw [hb] at h
    unfold ofBody? at h
    dsimp only at h ⊢
    rw [inlineFallback_eq, typeArgument_eq]
    cases hf : fallback? s fallback with
    | some a =>
      rw [hf] at h
      cases h
      apply StandsIn.read ""
      simp [line, Argument.line, Line.separatedBy, String.append_assoc]
    | none =>
      rw [hf] at h
      cases h
      apply StandsIn.read (AccessorFile.afterRead g key fallback).text
      simp [line, Argument.line, Line.separatedBy, String.append_assoc]
  | assert key | assertChain key | entry setter param | wrap | collect =>
    rw [hb] at h
    cases h

end HelperCall

/-- The head of a declared helper. -/
structure HelperHead where
  name : String
  isInline : Bool := false
  typeParameter : Option Line := none
  params : List (String × Line)
  result : Option Line := none

namespace HelperHead

/-- The head as it is written. Helpers are private functions on bundles. -/
def line (i : Imports) (d : HelperHead) : Line :=
  let modifiers := if d.isInline then "private inline fun " else "private fun "
  let typeParameter : Line :=
    match d.typeParameter with
    | some p => "<" ++ p ++ "> "
    | none => ""
  let result : Line :=
    match d.result with
    | some r => ": " ++ r
    | none => ""
  modifiers ++ typeParameter ++ AccessorFile.bundle i ++ ("." ++ d.name ++ "(") ++
    .separatedBy ", " (d.params.map fun p => (p.1 ++ ": ") ++ p.2) ++ ")" ++ result

/-- What a helper that reads is generic over. -/
def typeParameter? (i : Imports) : Strategy → Option Line
  | .direct _ => none
  | .objectList | .object => some ("T : " ++ AccessorFile.parcelable i)
  | .enum => some ("reified T : " ++ AccessorFile.library TypeDescriptor.enumBase ++ "<T>")
  | .serializable => some ("T : " ++ AccessorFile.serializable i)

/-- The head of a helper. -/
def ofHelper (i : Imports) (h : Helper) : HelperHead :=
  let key := ("key", AccessorFile.library Platform.string)
  match h with
  | .insert s =>
    { name := h.name, params := [key, ("value", (AccessorFile.insertion i s).1)] }
  | .extract s =>
    { name := h.name, isInline := s == .enum, typeParameter := typeParameter? i s, params := [key],
      result := some (AccessorFile.extraction i s).2.1 }
  | .extractWithFallback kind =>
    { name := h.name, params := [key, ("fallback", AccessorFile.kindLine i kind)],
      result := some (AccessorFile.kindLine i kind) }

variable {i : Imports} {h : Helper}

/-- The statement of a helper. -/
def statement (i : Imports) : Helper → Line
  | .insert s => (AccessorFile.insertion i s).2
  | .extract s => (AccessorFile.extraction i s).2.2
  | .extractWithFallback kind => "return get" ++ kind.label ++ "(key, fallback)"

/-- The line that silences warnings about a cast. -/
def suppression : Code := .line ("@" ++ AccessorFile.library suppress ++ "(\"UNCHECKED_CAST\")")

/-- A helper is declared with its head, perhaps after a line that silences warnings. -/
lemma exists_helperFunction :
    ∃ before l, AccessorFile.helperFunction i h = before ++ [.block l [.line (statement i h)]] ∧
      (before = [] ∨ before = [suppression]) ∧ l.text = ((ofHelper i h).line i).text := by
  -- the two are put together of other pieces, so they are compared by their characters
  cases h with
  | insert s =>
    refine ⟨[], _, rfl, .inl rfl, ?_⟩
    cases s <;> simp [line, ofHelper, AccessorFile.insertion, Line.separatedBy, ← String.toList_inj]
  | extract s =>
    cases s <;>
      refine ⟨_, _, rfl, by first | exact .inl rfl | exact .inr rfl, ?_⟩ <;>
      simp [line, ofHelper, typeParameter?, AccessorFile.extraction, Line.separatedBy,
        ← String.toList_inj]
  | extractWithFallback kind =>
    refine ⟨[], _, rfl, .inl rfl, ?_⟩
    simp [line, ofHelper, Line.separatedBy, ← String.toList_inj]

/-- The call hands over as many arguments as are declared, and a type argument if the helper is
generic. -/
structure Fits (d : HelperHead) (c : HelperCall) : Prop where
  name_eq : d.name = c.name
  length_eq : d.params.length = c.arguments.length
  isSome_eq : d.typeParameter.isSome = c.typeArgument.isSome

end HelperHead

/-- What is handed to a helper: a key, besides it the value if the helper writes, and what to fall
back to if it is one that takes a fallback. -/
inductive Takes : Helper → List Argument → Prop where
  | insert {s key name} : Takes (.insert s) [.key key, .param name]
  | extract {s key} : Takes (.extract s) [.key key]
  | extractWithFallback {kind key a} :
    a.IsFallback →
    Takes (.extractWithFallback kind) [.key key, a]

/-- The body calls the helper, and the call fits its head. -/
structure Calls (i : Imports) (body : Body) (h : Helper) (c : HelperCall) : Prop where
  helper_eq : Helper.ofBody? body = some h
  call_eq : HelperCall.ofBody? body = some c
  fits : (HelperHead.ofHelper i h).Fits c
  takes : Takes h c.arguments

/-- A zero value that a getter hands over has a literal. -/
lemma exists_zeroLiteral {s : Strategy} {d} (h : .inlineZero ∈ s.getterClass.fallbacks d) :
    ∃ kind z, s = .direct kind ∧ kind.zeroLiteral? = some z := by
  have hc : s.getterClass = .zeroDefault := by
    cases hs : s.getterClass <;> cases d <;> simp_all [GetterClass.fallbacks]
  cases s with
  | direct kind => cases kind <;> first | exact ⟨_, _, rfl, rfl⟩ | cases hc
  | _ => cases hc

/-- Only getters of kinds hand over a default. -/
lemma exists_kind_of_inlineDefault {s : Strategy} {d call}
    (h : .inlineDefault call ∈ s.getterClass.fallbacks d) : ∃ kind, s = .direct kind := by
  cases s with
  | direct kind => exact ⟨kind, rfl⟩
  | _ => cases d <;> simp [Strategy.getterClass, GetterClass.fallbacks] at h

variable {i : Imports}

/-- A setter calls the helper that stores its kind of value. -/
lemma calls_store {key s param} :
    ∃ c, Calls i (.store key s param) (.insert s) c :=
  ⟨_, rfl, rfl, ⟨rfl, rfl, rfl⟩, .insert⟩

/-- A read that hands nothing over is generic if its helper is. -/
lemma calls_extract {key s ty f} (hs : Strategy.ofDescriptor? ty = some s)
    (hh : Helper.ofBody? (.load key s ty f) = some (.extract s))
    (hf : HelperCall.fallback? s f = none) :
    ∃ c, Calls i (.load key s ty f) (.extract s) c := by
  refine ⟨⟨(Helper.extract s).name, HelperCall.typeArgument? ty s, [.key key]⟩, hh, ?_,
    ⟨rfl, rfl, ?_⟩, .extract⟩
  · unfold HelperCall.ofBody?
    dsimp only
    rw [hf, hh]
    rfl
  · cases s with
    | objectList =>
      obtain ⟨element, he⟩ := Strategy.exists_element hs
      exact (congrArg Option.isSome he).symm
    | _ => rfl

/-- A getter calls a helper with what that takes. -/
lemma exists_calls_load {key s ty f d} (hs : Strategy.ofDescriptor? ty = some s)
    (hf : f ∈ s.getterClass.fallbacks d) : ∃ h c, Calls i (.load key s ty f) h c := by
  cases f with
  | inlineZero =>
    obtain ⟨kind, z, rfl, hz⟩ := exists_zeroLiteral hf
    refine ⟨.extractWithFallback kind, ⟨_, none, [.key key, .zero z]⟩, rfl, ?_, ⟨rfl, rfl, rfl⟩,
      .extractWithFallback trivial⟩
    simp only [HelperCall.ofBody?, HelperCall.fallback?, hz]
    rfl
  | inlineDefault call =>
    obtain ⟨kind, rfl⟩ := exists_kind_of_inlineDefault hf
    exact ⟨.extractWithFallback kind, ⟨_, none, [.key key, .default call]⟩, rfl, rfl,
      ⟨rfl, rfl, rfl⟩, .extractWithFallback trivial⟩
  | orDefault call | orNull | orThrow =>
    refine ⟨.extract s, calls_extract hs ?_ ?_⟩ <;> cases s <;> rfl

/-- No helper both stores and reads. -/
lemma insert_ne_extract {a b : String} : "insert" ++ a ≠ "extract" ++ b := by
  intro h
  simpa using congrArg String.toList h

/-- Helpers that share their name and the number of their parameters are the same. -/
lemma HelperHead.ofHelper_inj {h h' : Helper} (hn : (ofHelper i h).name = (ofHelper i h').name)
    (hl : (ofHelper i h).params.length = (ofHelper i h').params.length) : h = h' := by
  cases h with
  | insert s =>
    cases h' with
    | insert s' => rw [Strategy.label_injective ((String.append_right_inj _).1 hn)]
    | extract s' => cases hl
    | extractWithFallback kind => exact (insert_ne_extract hn).elim
  | extract s =>
    cases h' with
    | extract s' => rw [Strategy.label_injective ((String.append_right_inj _).1 hn)]
    | insert s' | extractWithFallback kind => cases hl
  | extractWithFallback kind =>
    cases h' with
    | insert s' => exact (insert_ne_extract hn.symm).elim
    | extract s' => cases hl
    | extractWithFallback kind' =>
      have hk : Strategy.direct kind = .direct kind' :=
        Strategy.label_injective ((String.append_right_inj _).1 hn)
      cases hk
      rfl

namespace AccessorFile

variable {g : AccessorType}

/-- The head of the function of a method. -/
def functionHead (g : AccessorType) (i : Imports) (m : Method) : Line :=
  (("fun " ++ m.name ++ "(") ++ .separatedBy ", " (m.params.map (parameter i)) ++ "): " ++
    returns g i m.returns)

/-- The head of the function that copies a bundle. -/
def duplicateHead (i : Imports) : Line :=
  "private fun " ++ bundle i ++ ".duplicate(): " ++ bundle i

/-- Apart from the entry points and the function that copies a bundle, the companion object declares
the helpers. -/
lemma heads_companionObject {i : Imports}
    (h : ∀ m ∈ g.companion, companionFunction g i m = [function g i m (statement g i m)]) :
    ∃ body, companionObject g i = .block "companion object" body ∧
      (Code.blocks body).map (·.1.text) =
        g.companion.map (fun m => (functionHead g i m).text) ++ [(duplicateHead i).text] ++
          g.helpers.map fun h => ((HelperHead.ofHelper i h).line i).text := by
  refine ⟨_, rfl, ?_⟩
  have hc : ∀ m ∈ g.companion, (Code.blocks (companionFunction g i m)).map (·.1.text) =
      [(functionHead g i m).text] := by
    intro m hm
    rw [h m hm]
    rfl
  have hh : ∀ h ∈ g.helpers, (Code.blocks (helperFunction i h)).map (·.1.text) =
      [((HelperHead.ofHelper i h).line i).text] := by
    intro h _
    obtain ⟨_, l, hf, rfl | rfl, hl⟩ := HelperHead.exists_helperFunction (i := i) (h := h)
    · rw [hf, ← hl]
      rfl
    · rw [hf, ← hl]
      rfl
  rw [Code.blocks_separated]
  simp only [List.flatMap_append, List.map_append, List.flatMap_map, List.map_flatMap]
  rw [List.flatMap_congr hc, List.flatMap_congr hh, ← List.map_eq_flatMap, ← List.map_eq_flatMap]
  rfl

/-- Apart from the accumulator and the companion object, the class declares the instance methods. -/
lemma blocks_mainClass {i : Imports} :
    ∃ head body, mainClass g i = .block head body ∧
      Code.blocks body = g.methods.map (fun m => (functionHead g i m, [.line (statement g i m)])) ++
        Code.blocks [assertClass g i, companionObject g i] := by
  refine ⟨_, _, rfl, ?_⟩
  rw [Code.blocks_append, Code.blocks, List.filterMap_flatMap, List.map_eq_flatMap]
  rfl

/-- The file declares the class and nothing else. -/
lemma blocks_file {i : Imports} {config : OutputConfig} :
    Code.blocks (file g i config) = Code.blocks [mainClass g i] := by
  unfold file
  -- what comes before the class consists of lines
  split <;> split <;> split <;> simp [Code.blocks, Code.block?, List.filterMap_cons]

end AccessorFile

end Kotlin

open Kotlin

namespace Template

variable {t : Template} {g : AccessorType} {i : Imports}

/-- A generated type has the helpers that its methods use. -/
lemma helpers_eq (hg : t.generate = .ok g) : g.helpers = Helper.usedBy g.methods := by
  obtain ⟨-, as, -, rfl⟩ := generate_eq_ok.1 hg
  rfl

/-- It has each of them once. -/
lemma nodup_helpers (hg : t.generate = .ok g) : g.helpers.Nodup := by
  have hn : Helper.all.Nodup := by decide +kernel
  rw [helpers_eq hg]
  exact hn.filter _

/-- Setters and getters call a helper of the type. -/
lemma exists_calls {m a x} (hg : t.generate = .ok g) (hm : m ∈ t.members)
    (ha : m.accessors t = .ok a) (hx : x ∈ a.setters ∨ x ∈ a.getters) :
    x ∈ g.methods ∧ ∃ h ∈ g.helpers, ∃ c, Calls i x.body h c := by
  have hmem : x ∈ g.methods :=
    (mem_methods_iff hg).2 (.inl ⟨m, hm, a, ha, MemberAccessors.mem_instanceMethods.2 (.inl hx)⟩)
  have hc : ∃ h c, Calls i x.body h c := by
    obtain hx | hx := hx
    · obtain ⟨_, -, rfl⟩ := (Member.mem_setters ha).1 hx
      exact ⟨_, calls_store⟩
    · obtain ⟨d, f, -, hf, -, hb⟩ := Member.exists_fallback ha hx
      rw [hb]
      exact exists_calls_load (Member.member_of_accessors ha).2.2 hf
  obtain ⟨h, c, hc⟩ := hc
  refine ⟨hmem, h, ?_, c, hc⟩
  rw [helpers_eq hg]
  exact Helper.mem_usedBy.2 ⟨x, hmem, hc.helper_eq⟩

/-- A method whose body calls a helper is a setter or a getter. -/
lemma exists_member_of_ofBody {x h} (hg : t.generate = .ok g) (hx : x ∈ g.methods)
    (hh : Helper.ofBody? x.body = some h) :
    ∃ m ∈ t.members, ∃ a, m.accessors t = .ok a ∧ (x ∈ a.setters ∨ x ∈ a.getters) := by
  obtain ⟨m, hm, a, ha, hx⟩ | rfl := (mem_methods_iff hg).1 hx
  · refine ⟨m, hm, a, ha, ?_⟩
    obtain hx | rfl := MemberAccessors.mem_instanceMethods.1 hx
    · exact hx
    · rw [(Member.asserts_of_accessors ha).1] at hh
      cases hh
  · cases hh

/-- The companion object has entry points only. -/
lemma companionFunction_eq {x} (hg : t.generate = .ok g) (hx : x ∈ g.companion) :
    AccessorFile.companionFunction g i x =
      [AccessorFile.function g i x (AccessorFile.statement g i x)] := by
  rw [companion_eq hg] at hx
  obtain rfl | hx := List.mem_cons.1 hx
  · rfl
  · obtain ⟨y, -, hy⟩ := List.mem_filterMap.1 hx
    obtain ⟨key, s, param, -, rfl⟩ := Method.entry?_eq_some.1 hy
    rfl

end Template

/-- In the file of a generated type setters and getters call helpers that the companion object
declares, with the arguments that these take and with a type argument if they are generic. No two of
the declared helpers share their name and the number of their parameters, so each call means one of
them, and each of them is called. -/
theorem Template.helper_calls_match {t : Template} {g : AccessorType} (hg : t.generate = .ok g)
    (config : OutputConfig) :
    let i := importsOf g
    ∃ head body companion,
      Code.blocks (AccessorFile.file g i config) = [(head, body)] ∧
      (Line.ofText "companion object", companion) ∈ Code.blocks body ∧
      (Code.blocks companion).map (·.1.text) =
        g.companion.map (fun x => (AccessorFile.functionHead g i x).text) ++
          [(AccessorFile.duplicateHead i).text] ++
            g.helpers.map (fun h => ((HelperHead.ofHelper i h).line i).text) ∧
      (∀ m ∈ t.members, ∀ a, m.accessors t = .ok a → ∀ x, x ∈ a.setters ∨ x ∈ a.getters →
        (AccessorFile.functionHead g i x, [.line (AccessorFile.statement g i x)]) ∈
          Code.blocks body ∧
        ∃ h ∈ g.helpers, ∃ c, Calls i x.body h c ∧
          c.StandsIn g i (AccessorFile.statement g i x) ∧
          ∀ h' ∈ g.helpers, (HelperHead.ofHelper i h').name = c.name →
            (HelperHead.ofHelper i h').params.length = c.arguments.length → h' = h) ∧
      (g.helpers.map fun h =>
        ((HelperHead.ofHelper i h).name, (HelperHead.ofHelper i h).params.length)).Nodup ∧
      ∀ h ∈ g.helpers, ∃ m ∈ t.members, ∃ a, m.accessors t = .ok a ∧
        ∃ x, (x ∈ a.setters ∨ x ∈ a.getters) ∧ ∃ c, Calls i x.body h c := by
  intro i
  obtain ⟨head, body, hclass, hbody⟩ := AccessorFile.blocks_mainClass (g := g) (i := i)
  obtain ⟨companion, hobject, hheads⟩ :=
    AccessorFile.heads_companionObject (i := i) fun x hx => companionFunction_eq hg hx
  have hn : (g.helpers.map fun h =>
      ((HelperHead.ofHelper i h).name, (HelperHead.ofHelper i h).params.length)).Nodup := by
    refine (nodup_helpers hg).map_on fun h _ h' _ he => ?_
    exact HelperHead.ofHelper_inj (Prod.mk.inj he).1 (Prod.mk.inj he).2
  refine ⟨head, body, companion, ?_, ?_, hheads, ?_, hn, ?_⟩
  · rw [AccessorFile.blocks_file, hclass]
    rfl
  · rw [hbody, hobject]
    exact List.mem_append_right _ (List.mem_cons_of_mem _ List.mem_cons_self)
  · intro m hm a ha x hx
    obtain ⟨hmem, h, hh, c, hc⟩ := exists_calls (i := i) hg hm ha hx
    refine ⟨?_, h, hh, c, hc, HelperCall.standsIn_statement hc.call_eq, fun h' hh' hname hlen => ?_⟩
    · rw [hbody]
      exact List.mem_append_left _ (List.mem_map_of_mem hmem)
    · exact HelperHead.ofHelper_inj (hname.trans hc.fits.name_eq.symm)
        (hlen.trans hc.fits.length_eq.symm)
  · intro h hh
    rw [helpers_eq hg] at hh
    obtain ⟨x, hx, hxh⟩ := Helper.mem_usedBy.1 hh
    obtain ⟨m, hm, a, ha, hxa⟩ := exists_member_of_ofBody hg hx hxh
    obtain ⟨-, h', -, c, hc⟩ := exists_calls (i := i) hg hm ha hxa
    obtain rfl := Option.some.inj (hxh.symm.trans hc.helper_eq)
    exact ⟨m, hm, a, ha, x, hxa, c, hc⟩

/-- The getter of the constant that throws hands the key to the helper that reads constants, with
the enumeration as the type. -/
theorem Settings.calls_getModeOrThrow :
    Settings.template.generate = .ok Settings.bound.type ∧
      ∃ c, Calls (importsOf Settings.bound.type) Settings.getModeOrThrow.body (.extract .enum) c ∧
        c.name = "extractEnum" ∧ c.typeArgument = some Settings.mode.declaredType := by
  refine ⟨Settings.generate_template, ?_⟩
  obtain ⟨_, _, _, -, -, -, hcalls, -⟩ :=
    Template.helper_calls_match Settings.generate_template {}
  obtain ⟨-, h, -, c, hc, -⟩ := hcalls Settings.mode List.mem_cons_self _ Settings.accessors_mode
    Settings.getModeOrThrow (.inr Settings.getModeOrThrow_mem)
  cases hc.helper_eq
  refine ⟨c, hc, ?_⟩
  cases hc.call_eq
  exact ⟨rfl, rfl⟩

end TypedBundle
