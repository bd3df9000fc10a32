import TypedBundle.Proofs.Command.Paths
import TypedBundle.Proofs.Command.Runs
import TypedBundle.Proofs.Manifest.Outcomes

/-!
# Where sources are written

The source of a type is written to the directory of its package, under a name that begins with that
of the type. Types have distinct full names, but packages can spell one directory in several ways,
and a package that begins with a dot spells a path from the root: nothing is asked of the names of
templates. What the configuration puts after the name of a type can lead up again. So a run says by
`Command.place` where the source of a type goes, and it depends on the packages and the
configuration whether each source has a file of its own, and whether all are below the output
directory.
-/

namespace TypedBundle

/-- The place is properly below another. -/
def FileTree.IsBelow (top p : Place) : Prop := ∃ names, names ≠ [] ∧ p = top ++ names

instance (top p : Place) : Decidable (FileTree.IsBelow top p) :=
  decidable_of_iff (top <+: p ∧ top ≠ p) <| by
    constructor
    · rintro ⟨⟨names, rfl⟩, hne⟩
      exact ⟨names, fun h => hne (by simp [h]), rfl⟩
    · rintro ⟨names, hne, rfl⟩
      exact ⟨List.prefix_append .., by simp [hne]⟩

namespace OutputConfig

/-- What follows the name of a type up to the first slash. -/
def ending (c : OutputConfig) : String := (FileTree.names (c.fileName "")).headD ""

/-- Where the configuration leads after that. -/
def way (c : OutputConfig) : FileTree.Way := .ofNames (FileTree.names (c.fileName "")).tail

end OutputConfig

namespace Command

open FileTree

variable {t t' : FileTree} {output : String} {config : OutputConfig}

/-- The place of the source of a type. -/
def place (t : FileTree) (output : String) (config : OutputConfig) (g : AccessorType) : Place :=
  t.target (sourcePath output config g)

/-- The directory of a package: below the output directory, or below the root if the path of the
package starts there. -/
def directory (t : FileTree) (output package : String) : Place :=
  (if IsAbsolute (packagePath package) then [] else t.target output) ++
    steps (packagePath package)

/-- The names in the path of a package have no dots. -/
lemma not_mem_of_mem_names {package name} (h : name ∈ names (packagePath package)) :
    '.' ∉ name.toList := by
  intro hd
  have hp := mem_of_mem_names h hd
  unfold packagePath at hp
  rw [String.toList_map] at hp
  obtain ⟨c, -, hc⟩ := List.mem_map.1 hp
  split at hc
  · cases hc
  · next hne => exact hne hc

/-- No name in the path of a package leads up. -/
lemma not_mem_names_packagePath {package} : ".." ∉ names (packagePath package) := fun h =>
  not_mem_of_mem_names h (by decide)

/-- The path of a package's directory leads to it. -/
lemma target_packageDirectory {g} :
    t.target (packageDirectory output g) = directory t output g.package := by
  unfold packageDirectory directory
  split
  · next h =>
    rw [target_join_of_isAbsolute h, foldl_descend not_mem_names_packagePath]
    rfl
  · next h =>
    rw [target_join h, foldl_descend not_mem_names_packagePath]
    rfl

/-- What begins with a legal name does not begin with a slash. -/
lemma not_isAbsolute_append {name rest} (h : Identifier.isLegal name) :
    ¬ IsAbsolute (name ++ rest) := by
  obtain ⟨-, hslash⟩ := Identifier.not_mem_of_isLegal h
  obtain ⟨c, cs, hc⟩ := Identifier.exists_first_of_isLegal h
  intro ha
  unfold IsAbsolute at ha
  obtain rfl : c = '/' := by simpa [hc] using ha
  exact hslash (by simp [hc])

/-- It leads down, since it begins with a letter and not with a dot. -/
lemma descend_append {p name rest} (h : Identifier.isLegal name) :
    descend p (name ++ rest) = p ++ [name ++ rest] := by
  obtain ⟨hdot, -⟩ := Identifier.not_mem_of_isLegal h
  obtain ⟨c, cs, hc⟩ := Identifier.exists_first_of_isLegal h
  have hfirst : ∀ text, name ++ rest = text → text.toList.head? = some c := by
    rintro _ rfl
    simp [hc]
  have hcdot : c ≠ '.' := by
    rintro rfl
    exact hdot (by simp [hc])
  have hempty : name ++ rest ≠ "" := fun e => by simpa using hfirst _ e
  have hstay : name ++ rest ≠ "." := fun e => hcdot (by simpa [eq_comm] using hfirst _ e)
  have hup : name ++ rest ≠ ".." := fun e => hcdot (by simpa [eq_comm] using hfirst _ e)
  unfold descend
  rw [if_neg (not_or.2 ⟨hempty, hstay⟩), if_neg hup]

/-- The source of a type is at the end of the way that the configuration leads from an entry of the
directory of its package. The name of the entry begins with that of the type. -/
lemma place_eq {g} (hg : Identifier.isLegal g.name) :
    place t output config g =
      config.way.target (directory t output g.package ++ [g.name ++ config.ending]) := by
  obtain ⟨ending, rest, hn⟩ := exists_names (config.fileName "")
  have hf : config.fileName g.name = g.name ++ config.fileName "" := by
    unfold OutputConfig.fileName
    rw [String.empty_append, String.append_assoc]
  have ha : ¬ IsAbsolute (config.fileName g.name) := by
    rw [hf]
    exact not_isAbsolute_append hg
  have hnames : names (config.fileName g.name) = (g.name ++ ending) :: rest := by
    rw [hf, names_append (Identifier.not_mem_of_isLegal hg).2, hn, List.modifyHead_cons]
  unfold place sourcePath OutputConfig.way OutputConfig.ending
  rw [target_join ha, target_packageDirectory, hnames, List.foldl_cons, descend_append hg,
    foldl_descend_eq_target, hn]
  rfl

/-- When the sources of two types have one place: if the configuration does not lead up, the types
have one name and their packages one directory. If it does, the names do not matter, and the way may
meet above the directories. -/
lemma place_eq_iff {g g'} (hg : Identifier.isLegal g.name) (hg' : Identifier.isLegal g'.name) :
    place t output config g = place t output config g' ↔
      (config.way.up = 0 → g.name = g'.name) ∧
        (directory t output g.package).rdrop (config.way.up - 1) =
          (directory t output g'.package).rdrop (config.way.up - 1) := by
  rw [place_eq hg, place_eq hg', Way.target, Way.target, List.append_left_inj]
  cases config.way.up with
  | zero => simp [and_comm]
  | succ n => simp

/-- Unless the path of its package starts at the root, and unless the configuration leads up further
than the package leads down, the source of a type is below the output directory. -/
lemma isBelow_place {g} (hg : Identifier.isLegal g.name) (ha : ¬ IsAbsolute (packagePath g.package))
    (hup : config.way.up ≤ (steps (packagePath g.package)).length) :
    IsBelow (t.target output) (place t output config g) := by
  let way := steps (packagePath g.package) ++ [g.name ++ config.ending]
  have hlength : config.way.up < way.length := by
    simpa [way] using Nat.lt_succ_of_le hup
  have hdrop : (t.target output ++ way).rdrop config.way.up =
      t.target output ++ way.rdrop config.way.up := by
    unfold List.rdrop
    rw [List.length_append, Nat.add_sub_assoc (Nat.le_of_lt hlength), List.take_length_add_append]
  have hne : way.rdrop config.way.up ≠ [] := by
    intro he
    have hl := congrArg List.length he
    rw [List.rdrop, List.length_take, List.length_nil] at hl
    omega
  refine ⟨way.rdrop config.way.up ++ config.way.down, by simp [hne], ?_⟩
  rw [place_eq hg, directory, if_neg ha, List.append_assoc, Way.target, hdrop, List.append_assoc]

/-- The package is empty or consists of words between dots, and it has no slashes. -/
def IsPlain (package : String) : Prop :=
  '/' ∉ package.toList ∧ (package = "" ∨ [] ∉ package.toList.splitOn '.')

/-- The parts between the dots of a text without slashes stand between slashes once these are in
place of the dots. -/
lemma splitOn_map_of_not_mem {cs : List Char} (h : '/' ∉ cs) :
    (cs.map fun c => if c = '.' then '/' else c).splitOn '/' = cs.splitOn '.' := by
  induction cs with
  | nil => rfl
  | cons c rest ih =>
    rw [List.mem_cons, not_or] at h
    rw [List.map_cons, List.splitOn_cons_eq_if_modifyHead, List.splitOn_cons_eq_if_modifyHead,
      ih h.2]
    by_cases hc : c = '.'
    · simp [hc]
    · simp [hc, Ne.symm h.1]

/-- The names in the path of a package without slashes are the parts between its dots. -/
lemma names_packagePath {package} (h : '/' ∉ package.toList) :
    names (packagePath package) = (package.toList.splitOn '.').map String.ofList := by
  unfold names packagePath
  rw [String.toList_map, splitOn_map_of_not_mem h]

/-- The path of a plain package does not start at the root. -/
lemma IsPlain.not_isAbsolute {package} (h : IsPlain package) :
    ¬ IsAbsolute (packagePath package) := by
  intro ha
  obtain ⟨hs, rfl | hp⟩ := h
  · simp [IsAbsolute, packagePath] at ha
  · obtain ⟨rest, hn⟩ := names_eq_empty_cons.2 (.inr ha)
    rw [names_packagePath hs] at hn
    have hm : "" ∈ (package.toList.splitOn '.').map String.ofList := by simp [hn]
    obtain ⟨part, hpart, he⟩ := List.mem_map.1 hm
    obtain rfl : part = [] := by simpa using he
    exact hp hpart

/-- A plain package can be told from its path. -/
lemma IsPlain.ofList_steps {package} (h : IsPlain package) :
    String.ofList (['.'].intercalate ((steps (packagePath package)).map String.toList)) =
      package := by
  obtain ⟨hs, rfl | hp⟩ := h
  · simp [steps, names, packagePath]
  · have hsteps : steps (packagePath package) = names (packagePath package) := by
      refine List.filter_eq_self.2 fun name hn => ?_
      have hdot : name ≠ "." := by
        rintro rfl
        exact not_mem_of_mem_names hn (by decide)
      have hne : name ≠ "" := by
        rintro rfl
        rw [names_packagePath hs] at hn
        exact hp (by simpa using hn)
      simp [hdot, hne]
    have hid : String.toList ∘ String.ofList = id := by
      funext cs
      exact String.toList_ofList
    rw [hsteps, names_packagePath hs, List.map_map, hid, List.map_id, List.intercalate_splitOn,
      String.ofList_toList]

/-- Plain packages have directories of their own, below the output directory. -/
lemma IsPlain.directory_eq {package} (h : IsPlain package) :
    directory t output package = t.target output ++ steps (packagePath package) := by
  unfold directory
  rw [if_neg h.not_isAbsolute]

/-- So a plain package can be told from its directory. -/
lemma IsPlain.eq_of_directory_eq {package package'} (h : IsPlain package) (h' : IsPlain package')
    (e : directory t output package = directory t output package') : package = package' := by
  rw [h.directory_eq, h'.directory_eq] at e
  rw [← h.ofList_steps, ← h'.ofList_steps, List.append_cancel_left e]

/-- Once sources are written in turn, a place holds the source of the last type whose path leads
there, and every other place holds what it did. -/
lemma lookup_writeAll {gs} (h : writeAll output config t gs = some t') (p : Place) :
    t'.files.lookup p =
      ((gs.reverse.find? (place t output config · == p)).map (Kotlin.source · config)).or
        (t.files.lookup p) := by
  induction gs generalizing t with
  | nil =>
    cases h
    rfl
  | cons g rest ih =>
    obtain ⟨t₁, hd, h⟩ := Option.bind_eq_some_iff.1 h
    obtain ⟨t₂, hw, h⟩ := Option.bind_eq_some_iff.1 h
    obtain ⟨hwd, hfiles⟩ := makeDirectories_frame hd
    obtain ⟨hwd', hlookup⟩ := write_frame hw
    have hplace : place t₂ output config = place t output config := by
      funext g'
      unfold place target
      rw [hwd', hwd]
    have htarget : t₁.target (sourcePath output config g) = place t output config g := by
      unfold place target
      rw [hwd]
    rw [ih h, hlookup, hplace, htarget, hfiles, List.reverse_cons, List.find?_append]
    cases hf : rest.reverse.find? (place t output config · == p) with
    | some g' => simp
    | none =>
      by_cases hp : p = place t output config g
      · simp [hp]
      · simp [hp, beq_false_of_ne (Ne.symm hp)]

/-- If no two sources have one place, each is there once all are written. -/
lemma lookup_writeAll_of_nodup {gs g} (h : writeAll output config t gs = some t')
    (hn : (gs.map (place t output config)).Nodup) (hg : g ∈ gs) :
    t'.files.lookup (place t output config g) = some (Kotlin.source g config) := by
  have hr : (gs.reverse.map (place t output config)).Nodup := by
    rwa [List.map_reverse, List.nodup_reverse]
  rw [lookup_writeAll h, List.find?_eq_some_of_nodup hr (List.mem_reverse.2 hg)]
  rfl

end Command

namespace Manifest

open Command FileTree

variable {m : Manifest}

/-- The full names of the outputs are distinct. -/
lemma nodup_qualifiedName_outputs :
    (m.generate.outputs.map AccessorType.qualifiedName).Nodup := by
  rw [map_qualifiedName_outputs]
  exact nodup_successes

variable {t : FileTree} {output : String}

/-- The sources have places of their own exactly if no two types agree in what these depend on. -/
lemma nodup_place_iff :
    (m.generate.outputs.map (place t output m.config)).Nodup ↔
      m.generate.outputs.Pairwise fun g g' =>
        (m.config.way.up = 0 → g.name = g'.name) →
          (directory t output g.package).rdrop (m.config.way.up - 1) ≠
            (directory t output g'.package).rdrop (m.config.way.up - 1) := by
  rw [List.Nodup, List.pairwise_map]
  refine List.Pairwise.iff_of_mem fun {g g'} hg hg' => ?_
  rw [Ne, place_eq_iff (isLegal_name_of_mem_outputs hg) (isLegal_name_of_mem_outputs hg'), not_and]

/-- Plain packages give each source a place of its own. -/
lemma nodup_place_of_isPlain (hup : m.config.way.up = 0)
    (hp : ∀ g ∈ m.generate.outputs, IsPlain g.package) :
    (m.generate.outputs.map (place t output m.config)).Nodup := by
  rw [nodup_place_iff]
  have hn := nodup_qualifiedName_outputs (m := m)
  rw [List.Nodup, List.pairwise_map] at hn
  refine hn.imp_of_mem fun {g g'} hg hg' hq hname hd => hq ?_
  rw [hup, List.rdrop_zero, List.rdrop_zero] at hd
  unfold AccessorType.qualifiedName
  rw [hname hup, (hp g hg).eq_of_directory_eq (hp g' hg') hd]

end Manifest

/-- If every write is accepted, a run writes the sources of all types, also if templates failed, and
touches no other file, however manifests are read. Each source is where the configuration leads from
an entry of the directory of its package, whose name begins with that of its type. So unless the
configuration leads up, the sources have places of their own exactly if no two types of one name
have one directory; if it does, exactly if the directories differ that far above them. The sources
are below the output directory unless the path of a package starts at the root or the configuration
leads up further than the package leads down. Both hold if the packages are plain and the
configuration does not lead up. -/
theorem Manifest.sources_written {manifest? : String → Option Manifest} {m : Manifest}
    {input output source : String} {t t' : FileTree} (hr : t.read? input = some source)
    (hm : manifest? source = some m)
    (hw : Command.writeAll output m.config t m.generate.outputs = some t') :
    Machine.Runs (Command.generate (Machine.system manifest?) input output) t
      (m.generate.failureSummary?.elim
        (.ok (m.generate.outputs.map (Command.sourcePath output m.config))) .error) t' ∧
    (∀ p, t'.files.lookup p =
      ((m.generate.outputs.reverse.find? (Command.place t output m.config · == p)).map
        (Kotlin.source · m.config)).or (t.files.lookup p)) ∧
    (∀ g ∈ m.generate.outputs, Command.place t output m.config g =
      m.config.way.target (Command.directory t output g.package ++ [g.name ++ m.config.ending])) ∧
    ((m.generate.outputs.map (Command.place t output m.config)).Nodup ↔
      m.generate.outputs.Pairwise fun g g' => (m.config.way.up = 0 → g.name = g'.name) →
        (Command.directory t output g.package).rdrop (m.config.way.up - 1) ≠
          (Command.directory t output g'.package).rdrop (m.config.way.up - 1)) ∧
    (∀ g ∈ m.generate.outputs, ¬ FileTree.IsAbsolute (Command.packagePath g.package) →
      m.config.way.up ≤ (FileTree.steps (Command.packagePath g.package)).length →
        FileTree.IsBelow (t.target output) (Command.place t output m.config g)) ∧
    (m.config.way.up = 0 → (∀ g ∈ m.generate.outputs, Command.IsPlain g.package) →
      (m.generate.outputs.map (Command.place t output m.config)).Nodup ∧
      ∀ g ∈ m.generate.outputs,
        FileTree.IsBelow (t.target output) (Command.place t output m.config g) ∧
        t'.files.lookup (Command.place t output m.config g) = some (Kotlin.source g m.config)) := by
  have hbelow : ∀ g ∈ m.generate.outputs, ¬ FileTree.IsAbsolute (Command.packagePath g.package) →
      m.config.way.up ≤ (FileTree.steps (Command.packagePath g.package)).length →
        FileTree.IsBelow (t.target output) (Command.place t output m.config g) :=
    fun g hg => Command.isBelow_place (isLegal_name_of_mem_outputs hg)
  refine ⟨Command.runs_generate hr hm hw, Command.lookup_writeAll hw,
    fun g hg => Command.place_eq (isLegal_name_of_mem_outputs hg), nodup_place_iff, hbelow,
    fun hup hp => ?_⟩
  have hn : (m.generate.outputs.map (Command.place t output m.config)).Nodup :=
    nodup_place_of_isPlain hup hp
  exact ⟨hn, fun g hg => ⟨hbelow g hg (hp g hg).not_isAbsolute (hup ▸ Nat.zero_le _),
    Command.lookup_writeAll_of_nodup hw hn hg⟩⟩

namespace Twins

/-- A manifest with two templates, in packages whose paths differ by a slash at the end. -/
def source : String :=
  "[[template]]\nclass = \"a.A\"\nbunch = \x7b name = \"V\" \x7d\n" ++
  "[[template]]\nclass = \"a..B\"\nbunch = \x7b name = \"V\" \x7d\n"

/-- The templates as declared. -/
def manifest : Manifest where
  templates := [.bare "a.A" "V", .bare "a..B" "V"]

/-- The manifest is in an otherwise empty directory. -/
def tree : FileTree := { FileTree.empty with files := [([".", "bunch.toml"], source)] }

/-- The manifest can be read. -/
lemma ofToml?_source : Manifest.ofToml? source = some manifest := by decide +kernel

/-- Both templates yield their types. -/
lemma outputs_manifest : manifest.generate.outputs = [.bare "a.A" "V", .bare "a..B" "V"] := by
  have h : ∀ p ∈ [("a.A", "V"), ("a..B", "V")], p.1 ≠ "" ∧ Identifier.isLegal p.2 ∧
      ¬ manifest.IsReserved (Template.bare p.1 p.2).outputQualifiedName := by
    simp only [Manifest.isReserved_iff]
    decide +kernel
  exact Manifest.outputs_bare rfl h (by decide +kernel)

/-- The file system accepts both sources. -/
lemma exists_writeAll :
    ∃ t', Command.writeAll "out" manifest.config tree manifest.generate.outputs = some t' := by
  rw [outputs_manifest]
  exact Option.isSome_iff_exists.1 (by decide +kernel)

/-- Both sources have the same place. -/
lemma place_outputs : manifest.generate.outputs.map (Command.place tree "out" manifest.config) =
    [[".", "out", "a", "V.kt"], [".", "out", "a", "V.kt"]] := by
  rw [outputs_manifest]
  decide +kernel

end Twins

/-- Of two sources that have one place only the second is there in the end. -/
theorem Twins.lookup_place :
    Twins.tree.read? "bunch.toml" = some Twins.source ∧
      Manifest.ofToml? Twins.source = some Twins.manifest ∧ Twins.manifest.config.way.up = 0 ∧
      ∃ t', Command.writeAll "out" Twins.manifest.config Twins.tree
          Twins.manifest.generate.outputs = some t' ∧
        t'.files.lookup [".", "out", "a", "V.kt"] =
          some (Kotlin.source (.bare "a..B" "V") Twins.manifest.config) := by
  have hr : Twins.tree.read? "bunch.toml" = some Twins.source := by decide +kernel
  obtain ⟨t', hw⟩ := Twins.exists_writeAll
  obtain ⟨-, h, -⟩ := Manifest.sources_written hr Twins.ofToml?_source hw
  refine ⟨hr, Twins.ofToml?_source, by decide +kernel, t', hw, ?_⟩
  rw [h, Twins.outputs_manifest]
  have hp : Command.place Twins.tree "out" Twins.manifest.config (.bare "a..B" "V") =
      [".", "out", "a", "V.kt"] := by decide +kernel
  rw [List.reverse_cons, List.reverse_singleton, List.singleton_append,
    List.find?_cons_of_pos (by simp [hp])]
  rfl

/-- Two types of distinct full names do not always have files of their own. -/
theorem Twins.not_nodup_place :
    Twins.tree.read? "bunch.toml" = some Twins.source ∧
      Manifest.ofToml? Twins.source = some Twins.manifest ∧
      (∃ t', Command.writeAll "out" Twins.manifest.config Twins.tree
        Twins.manifest.generate.outputs = some t') ∧
      ¬ (Twins.manifest.generate.outputs.map
        (Command.place Twins.tree "out" Twins.manifest.config)).Nodup := by
  refine ⟨by decide +kernel, Twins.ofToml?_source, Twins.exists_writeAll, ?_⟩
  rw [Twins.place_outputs]
  decide

namespace Strays

/-- A manifest with one template, which has no functions. -/
def manifest (suffix className : String) : Manifest where
  config := { fileSuffix := suffix }
  templates := [.bare className "V"]

/-- The output directory with an entry of the name of the type, in an otherwise empty one. -/
def tree : FileTree :=
  { FileTree.empty with directories := [["."], [".", "out"], [".", "out", "V"]] }

/-- Every write of the sources is accepted, and one source is outside the output directory. -/
def LeadsOut (m : Manifest) (t : FileTree) (output : String) : Prop :=
  (∃ t', Command.writeAll output m.config t m.generate.outputs = some t') ∧
    ∃ g ∈ m.generate.outputs,
      ¬ FileTree.IsBelow (t.target output) (Command.place t output m.config g)

/-- The source of the type tells. -/
lemma leadsOut {suffix className output : String} {t : FileTree} (hne : className ≠ "")
    (hr : ¬ (manifest suffix className).IsReserved
      (Template.bare className "V").outputQualifiedName)
    (hw : (Command.writeAll output (manifest suffix className).config t
      [.bare className "V"]).isSome)
    (hp : ¬ FileTree.IsBelow (t.target output)
      (Command.place t output (manifest suffix className).config (.bare className "V"))) :
    LeadsOut (manifest suffix className) t output := by
  have hl : Identifier.isLegal "V" := by decide +kernel
  have ht : (manifest suffix className).templates =
      [(className, "V")].map fun p => .bare p.1 p.2 := rfl
  have ho : (manifest suffix className).generate.outputs = [.bare className "V"] :=
    Manifest.outputs_bare ht (by simpa using ⟨hne, hl, hr⟩) (List.nodup_singleton _)
  unfold LeadsOut
  rw [ho]
  exact ⟨Option.isSome_iff_exists.1 hw, _, List.mem_singleton_self _, hp⟩

end Strays

/-- A package that begins with a dot leads to a directory below the root. -/
theorem Strays.leadsOut_of_package :
    Strays.LeadsOut (Strays.manifest "" ".x.A") FileTree.empty "out" := by
  refine Strays.leadsOut (by decide) ?_ (by decide +kernel) (by decide +kernel)
  rw [Manifest.isReserved_iff]
  decide +kernel

/-- A suffix with steps up leads out of the output directory. -/
theorem Strays.leadsOut_of_suffix :
    Strays.LeadsOut (Strays.manifest "/../../W" "A") Strays.tree "out" := by
  refine Strays.leadsOut (by decide) ?_ (by decide +kernel) (by decide +kernel)
  rw [Manifest.isReserved_iff]
  decide +kernel

end TypedBundle
