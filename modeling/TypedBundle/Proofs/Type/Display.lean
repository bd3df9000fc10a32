import TypedBundle.Accessor.Method
import TypedBundle.Proofs.Type.Parsing
import TypedBundle.Proofs.Type.Supertypes

/-!
# Displayed types

A resolved type displays with full names throughout. If every class of a table can be written by its
name, what is displayed is a text of the grammar, of an expression with the same names
(`TypeDescriptor.parse_display`). A full name stands for its own class, so the table resolves that
expression to the type it came from (`ClassTable.describe_expr`), and no two types display alike.
-/

namespace TypedBundle

open TypeExpr (IsNameText Spaced)
open Text (Blank)

namespace TypeDescriptor

mutual

/-- The expression that names the classes of the type in full. -/
def expr : TypeDescriptor → TypeExpr
  | ⟨name, arguments, _, _, _⟩ => ⟨name, exprs arguments⟩

/-- The expressions of several types. -/
def exprs : List TypeDescriptor → List TypeExpr
  | [] => []
  | ty :: rest => ty.expr :: exprs rest

end

/-- Every type has its expression. -/
lemma length_exprs (tys : List TypeDescriptor) : (exprs tys).length = tys.length := by
  induction tys with
  | nil => rfl
  | cons ty rest ih => simp [exprs, ih]

end TypeDescriptor

namespace TypeExpr

variable {cs cs' gap : List Char} {ts ts' : List (List Char)}

/-- White space before the tokens makes no difference. -/
lemma Spaced.pad (hg : ∀ c ∈ gap, Blank c) (h : Spaced ts cs) : Spaced ts (gap ++ cs) := by
  cases h with
  | done hg' => exact .done (List.forall_mem_append.2 ⟨hg, hg'⟩)
  | next hg' h =>
    rw [← List.append_assoc]
    exact .next (List.forall_mem_append.2 ⟨hg, hg'⟩) h

/-- Tokens after tokens. -/
lemma Spaced.append (h : Spaced ts cs) (h' : Spaced ts' cs') :
    Spaced (ts ++ ts') (cs ++ cs') := by
  induction h with
  | done hg => exact h'.pad hg
  | next hg _ ih =>
    rw [List.append_assoc, List.append_assoc]
    exact .next hg ih

/-- A token alone. -/
lemma Spaced.single (token : List Char) : Spaced [token] token := by
  have hnil : ∀ c ∈ ([] : List Char), Blank c := nofun
  have h : Spaced [token] ([] ++ (token ++ [])) := .next hnil (.done hnil)
  rwa [List.nil_append, List.append_nil] at h

/-- After the first expression each other one follows a comma. -/
lemma tokensAll_cons (e : TypeExpr) (rest : List TypeExpr) :
    tokensAll (e :: rest) = e.tokens ++ rest.flatMap fun e' => [','] :: e'.tokens := by
  induction rest generalizing e with
  | nil => simp [tokensAll]
  | cons e' rest ih => rw [tokensAll, ih, List.flatMap_cons, List.cons_append]

/-- A text is parsed as what it spells. -/
lemma parse_eq_ok_iff {source : String} {e : TypeExpr} :
    parse source = .ok e ↔ Spells Blank source.toList e := by
  have hread : parse source = .ok e ↔ read (Text.trimChars source.toList) = .ok e := by
    unfold parse
    dsimp only
    split
    · next h => simp [h]
    · next h => simp [h]
    · next h => simp [h]
  rw [hread, ← spells_trimChars fun c hc => hc]
  exact ⟨spells_of_read, read_of_spells⟩

/-- An expression without arguments is spelled by a name. -/
lemma Spells.isNameText {name : String} (h : Spells Blank cs ⟨name, []⟩) :
    IsNameText name.toList := by
  cases h with
  | bare _ hn => rwa [String.toList_ofList]
  | generic _ _ _ hi => cases hi

/-- The class names are the texts that are parsed to themselves. -/
lemma isNameText_iff_parse {name : String} :
    IsNameText name.toList ↔ parse name = .ok ⟨name, []⟩ := by
  rw [parse_eq_ok_iff]
  constructor
  · intro h
    have hnil : ∀ c ∈ ([] : List Char), Blank c := nofun
    simpa using Spells.bare hnil h hnil
  · exact Spells.isNameText

end TypeExpr

namespace TypeDescriptor

mutual

/-- What is displayed are the tokens of the expression, with a space after each comma. -/
theorem spaced_display : ∀ ty : TypeDescriptor, Spaced ty.expr.tokens ty.display.toList
  | ⟨name, [], _, _, _⟩ => by
    rw [expr, exprs, TypeExpr.tokens, display]
    exact .single _
  | ⟨name, first :: others, _, _, _⟩ => by
    rw [expr, exprs, TypeExpr.tokens, TypeExpr.tokensAll_cons, display]
    have hinner := (spaced_display first).append (spaced_displayOthers others)
    have h := (Spaced.single name.toList).append
      ((Spaced.single ['<']).append (hinner.append (.single ['>'])))
    simpa using h

/-- The arguments after the first are displayed with a comma and a space before each. -/
theorem spaced_displayOthers : ∀ tys : List TypeDescriptor,
    Spaced ((exprs tys).flatMap fun e => [','] :: e.tokens) (displayOthers tys).toList
  | [] => by
    rw [exprs, List.flatMap_nil, displayOthers]
    exact .done nofun
  | ty :: rest => by
    have hspace : ∀ c ∈ [' '], Blank c := List.forall_mem_singleton.2 (by decide)
    have hty := ((spaced_display ty).pad hspace).append (spaced_displayOthers rest)
    rw [exprs, List.flatMap_cons, displayOthers]
    simpa using (Spaced.single [',']).append hty

end

mutual

/-- The expression of a type has legal names if its classes do. -/
theorem legal_expr : ∀ ty : TypeDescriptor, (∀ n ∈ ty.names, IsNameText n.toList) → ty.expr.Legal
  | ⟨name, arguments, _, _, _⟩, h => by
    rw [names, List.forall_mem_cons] at h
    rw [expr, TypeExpr.Legal]
    exact ⟨h.1, legal_exprs arguments h.2⟩

/-- So have those of several types. -/
theorem legal_exprs : ∀ tys : List TypeDescriptor, (∀ n ∈ namesAll tys, IsNameText n.toList) →
    TypeExpr.LegalAll (exprs tys)
  | [], _ => by rw [exprs, TypeExpr.LegalAll]; trivial
  | ty :: rest, h => by
    rw [namesAll, List.forall_mem_append] at h
    rw [exprs, TypeExpr.LegalAll]
    exact ⟨legal_expr ty h.1, legal_exprs rest h.2⟩

end

/-- What is displayed is parsed as the expression with full names. -/
lemma parse_display {ty : TypeDescriptor} (h : ∀ n ∈ ty.names, IsNameText n.toList) :
    TypeExpr.parse ty.display = .ok ty.expr :=
  TypeExpr.parse_eq_ok_iff.2 (TypeExpr.spells_of_spaced _ (legal_expr ty h) (spaced_display ty))

end TypeDescriptor

namespace ClassTable

variable {t : ClassTable}

/-- Each argument is described by one type. -/
lemma length_of_describeAll {es tys} (h : t.describeAll es = .ok tys) :
    tys.length = es.length := by
  induction es generalizing tys with
  | nil =>
    cases h
    rfl
  | cons e rest ih =>
    simp only [describeAll, Except.bind_eq_ok, Except.pure_eq_ok] at h
    obtain ⟨ty, -, others, hr, rfl⟩ := h
    rw [List.length_cons, List.length_cons, ih hr]

mutual

/-- A resolved type is what its expression with full names resolves to. -/
theorem describe_expr : ∀ (e : TypeExpr) {ty : TypeDescriptor}, t.describe e = .ok ty →
    t.describe ty.expr = .ok ty
  | ⟨written, arguments⟩, ty, h => by
    obtain ⟨name, c, args, superclass, above, -, hc, hp, ha, hsuper, hs, rfl⟩ := describe_eq_ok.1 h
    have hq : t.qualify name = .ok name := qualify_of_isSome (by rw [hc]; rfl)
    have hl : c.typeParameters = (TypeDescriptor.exprs args).length := by
      rw [hp, TypeDescriptor.length_exprs, length_of_describeAll ha]
    have hargs := describeAll_exprs arguments ha
    exact describe_eq_ok.2
      ⟨name, c, args, superclass, above, hq, hc, hl, hargs, hsuper, hs, rfl⟩

/-- The arguments of a described type are described by themselves. -/
theorem describeAll_exprs : ∀ (es : List TypeExpr) {tys : List TypeDescriptor},
    t.describeAll es = .ok tys → t.describeAll (TypeDescriptor.exprs tys) = .ok tys
  | [], tys, h => by
    cases h
    rfl
  | e :: rest, tys, h => by
    simp only [describeAll, Except.bind_eq_ok, Except.pure_eq_ok] at h
    obtain ⟨ty, he, others, hr, rfl⟩ := h
    simp only [TypeDescriptor.exprs, describeAll, Except.bind_eq_ok, Except.pure_eq_ok]
    exact ⟨ty, describe_expr e he, others, describeAll_exprs rest hr, rfl⟩

end

/-- The type is what some text resolves to. -/
def Describes (t : ClassTable) (ty : TypeDescriptor) : Prop :=
  ∃ source, t.describeText source = .ok ty

/-- A resolved type displays as a text that resolves to it, if names of classes can be parsed. -/
lemma Describes.describeText_display {ty} (h : t.Describes ty)
    (ht : ∀ n, (t.find? n).isSome → TypeExpr.parse n = .ok ⟨n, []⟩) :
    t.describeText ty.display = .ok ty := by
  obtain ⟨source, h⟩ := h
  have hnames : ∀ n ∈ ty.names, IsNameText n.toList := fun n hn =>
    TypeExpr.isNameText_iff_parse.2 (ht n (isSome_of_describeText h n hn))
  rw [describeText, Except.bind_eq_ok] at h ⊢
  obtain ⟨e, -, h⟩ := h
  exact ⟨ty.expr, TypeDescriptor.parse_display hnames, describe_expr e h⟩

/-- Types are told apart by what is displayed of them. -/
lemma map_display_inj {tys tys' : List TypeDescriptor}
    (ht : ∀ n, (t.find? n).isSome → TypeExpr.parse n = .ok ⟨n, []⟩)
    (h : ∀ ty ∈ tys, t.Describes ty) (h' : ∀ ty ∈ tys', t.Describes ty) :
    tys.map TypeDescriptor.display = tys'.map TypeDescriptor.display ↔ tys = tys' := by
  have hrec : ∀ {tys : List TypeDescriptor}, (∀ ty ∈ tys, t.Describes ty) →
      (tys.map TypeDescriptor.display).map t.describeText = tys.map .ok := by
    intro tys h
    rw [List.map_map]
    exact List.map_congr_left fun ty hty => (h ty hty).describeText_display ht
  refine ⟨fun e => ?_, fun e => by rw [e]⟩
  have hok := congrArg (List.map t.describeText) e
  rw [hrec h, hrec h'] at hok
  exact List.map_injective_iff.2 (fun _ _ => Except.ok.inj) hok

end ClassTable

/-- If the names of its classes can be parsed, a table resolves what is displayed of its types to
the same types. So its types are told apart by what is displayed of them, and methods over its types
have one signature exactly if they have one name and the same parameter types. -/
theorem ClassTable.display_faithful (t : ClassTable)
    (ht : ∀ n, (t.find? n).isSome → TypeExpr.parse n = .ok ⟨n, []⟩) :
    (∀ source ty, t.describeText source = .ok ty → t.describeText ty.display = .ok ty) ∧
    (∀ ty ty', t.Describes ty → t.Describes ty' → ty.display = ty'.display → ty = ty') ∧
    ∀ x y : Method, (∀ p ∈ x.params, t.Describes p.type) → (∀ p ∈ y.params, t.Describes p.type) →
      (x.signature = y.signature ↔
        x.name = y.name ∧ x.params.map Param.type = y.params.map Param.type) := by
  refine ⟨fun source ty h => Describes.describeText_display ⟨source, h⟩ ht, ?_, ?_⟩
  · intro ty ty' h h' e
    have hok := h.describeText_display ht
    rw [e, h'.describeText_display ht] at hok
    exact (Except.ok.inj hok).symm
  · intro x y hx hy
    rw [← map_display_inj ht (List.forall_mem_map.2 hx) (List.forall_mem_map.2 hy), List.map_map,
      List.map_map]
    exact Prod.ext_iff

/-- A list as written with simple names is the one that its full names say. -/
theorem Kinship.describeText_list :
    (∀ n, (Kinship.table.find? n).isSome → TypeExpr.parse n = .ok ⟨n, []⟩) ∧
    ∃ ty, Kinship.table.describeText " List< Color > " = .ok ty ∧
      ty.display = "kotlin.collections.List<com.example.Color>" ∧
      Kinship.table.describeText "kotlin.collections.List<com.example.Color>" = .ok ty := by
  have hnames : ∀ n ∈ Kinship.table.classes.keys, IsNameText n.toList := by decide +kernel
  have ht : ∀ n, (Kinship.table.find? n).isSome → TypeExpr.parse n = .ok ⟨n, []⟩ := fun n hn =>
    TypeExpr.isNameText_iff_parse.1 (hnames n (ClassTable.isSome_find?_iff.1 hn))
  have hparse : TypeExpr.parse " List< Color > " = .ok ⟨"List", [⟨"Color", []⟩]⟩ := by cbv
  have hlist : ((Kinship.table.describe ⟨"List", [⟨"Color", []⟩]⟩).toOption.map
      TypeDescriptor.display) = some "kotlin.collections.List<com.example.Color>" := by
    decide +kernel
  obtain ⟨ty, hty, hd⟩ := Option.map_eq_some_iff.1 hlist
  have hty : Kinship.table.describeText " List< Color > " = .ok ty :=
    Except.bind_eq_ok.2 ⟨_, hparse, Except.eq_ok_of_toOption hty⟩
  refine ⟨ht, ty, hty, hd, ?_⟩
  rw [← hd]
  exact (ClassTable.display_faithful Kinship.table ht).1 _ ty hty

end TypedBundle
