import Winnow.Proofs.Settings.Resurfacing
import Winnow.Proofs.Yaml.Loading
import Mathlib.Data.List.Lex
import Mathlib.Data.List.Sort

/-!
# Layers of settings

The drop-in files count in the order of their names, and the first layer that
cannot be read is what is reported. The drop-in files are merged with each other
before they are put onto the main file and the built-in settings. That is the
same as merging all layers one after the other exactly if no section of what is
below the drop-in files resurfaces (`merged_eq_mergeAll_iff`).
-/

namespace Winnow

open Yaml (Value Scalar Entries)

namespace Layer

/-! ## The order of names -/

/-- Names are ordered by their code points. -/
theorem isOrdered_iff {left right : Text} :
    isOrdered left right = true ↔ left.map Char.toNat ≤ right.map Char.toNat := by
  induction left generalizing right with
  | nil => simp [isOrdered, ← not_lt]
  | cons first left ih =>
      cases right with
      | nil => simp [isOrdered, ← not_lt]
      | cons second right =>
          rw [isOrdered, List.map_cons, List.map_cons, ← not_lt, List.cons_lt_cons_iff, not_or,
            not_and, not_lt, not_lt, Bool.or_eq_true, Bool.and_eq_true, ih, decide_eq_true_iff,
            decide_eq_true_iff]
          constructor
          · rintro (less | ⟨rfl, later⟩)
            · exact ⟨less.le, fun same => absurd same less.ne'⟩
            · exact ⟨le_rfl, fun _ => later⟩
          · rintro ⟨less, later⟩
            rcases less.lt_or_eq with less | same
            · exact .inl less
            · exact .inr ⟨Char.toNat_inj.mp same, later same.symm⟩

/-- Names stand in the order of their code points. -/
def InOrder (names : List Text) : Prop :=
  names.Pairwise fun left right => left.map Char.toNat ≤ right.map Char.toNat

/-- Sorting names is insertion into the order of their code points. -/
theorem sortNames_eq (names : List Text) :
    sortNames names = names.insertionSort fun left right => isOrdered left right = true := by
  have insertion : ∀ (name : Text) (list : List Text),
      insertName name list
        = list.orderedInsert (fun left right => isOrdered left right = true) name := by
    intro name list
    induction list with
    | nil => rfl
    | cons other list ih => rw [insertName, List.orderedInsert_cons, ih]
  rw [sortNames, List.insertionSort]
  congr 1
  funext name list
  exact insertion name list

/-- Sorting puts names into order and loses none. -/
theorem sortNames_spec (names : List Text) :
    InOrder (sortNames names) ∧ (sortNames names).Perm names := by
  have total : Std.Total fun left right => isOrdered left right = true :=
    ⟨fun left right => by
      rw [isOrdered_iff, isOrdered_iff]
      exact le_total _ _⟩
  have transitive : IsTrans Text fun left right => isOrdered left right = true :=
    ⟨fun first second third before after =>
      isOrdered_iff.mpr (le_trans (isOrdered_iff.mp before) (isOrdered_iff.mp after))⟩
  rw [sortNames_eq]
  exact ⟨(List.pairwise_insertionSort _ names).imp isOrdered_iff.mp, List.perm_insertionSort _ _⟩

/-! ## Rows of layers -/

/-- Layers that can all be read are merged one after the other. -/
theorem mergeAll_of_contents {layers : List Layer} {sections : List Entries}
    (contents : layers.map content = sections.map .ok) (below : Entries) :
    mergeAll below layers = .ok (sections.foldl Entries.merge below) := by
  induction layers generalizing below sections with
  | nil =>
      obtain rfl : sections = [] := List.map_eq_nil_iff.mp contents.symm
      rfl
  | cons layer layers ih =>
      cases sections with
      | nil => cases contents
      | cons entries sections =>
          obtain ⟨here, later⟩ := List.cons.inj contents
          rw [mergeAll, here]
          exact ih later (below.merge entries)

/-- Either all layers can be read, or there is a problem whatever they are put onto. -/
theorem contents_or_error (layers : List Layer) :
    (∃ sections : List Entries, layers.map content = sections.map .ok) ∨
      ∃ problem, ∀ below, mergeAll below layers = .error problem := by
  induction layers with
  | nil => exact .inl ⟨[], rfl⟩
  | cons layer layers ih =>
      cases here : layer.content with
      | error problem => exact .inr ⟨problem, fun below => by rw [mergeAll, here]⟩
      | ok entries =>
          rcases ih with ⟨sections, contents⟩ | ⟨problem, fails⟩
          · exact .inl ⟨entries :: sections, by rw [List.map_cons, here, contents, List.map_cons]⟩
          · refine .inr ⟨problem, fun below => ?_⟩
            rw [mergeAll, here]
            exact fails (below.merge entries)

/-- Layers that can all be read are merged, whatever they are put onto. -/
theorem exists_mergeAll {layers : List Layer}
    (readable : ∀ layer ∈ layers, layer.content.isOk = true) (below : Entries) :
    ∃ merged, mergeAll below layers = .ok merged := by
  induction layers generalizing below with
  | nil => exact ⟨below, rfl⟩
  | cons layer layers ih =>
      obtain ⟨here, later⟩ := List.forall_mem_cons.mp readable
      cases content : layer.content with
      | error problem =>
          rw [content] at here
          cases here
      | ok entries =>
          rw [mergeAll, content]
          exact ih later (below.merge entries)

/-- Layers can be merged in two parts. -/
theorem mergeAll_append (below : Entries) (lower upper : List Layer) :
    mergeAll below (lower ++ upper) = (mergeAll below lower).bind (mergeAll · upper) := by
  induction lower generalizing below with
  | nil => rfl
  | cons layer lower ih =>
      rw [List.cons_append, mergeAll, mergeAll]
      cases layer.content with
      | error problem => rfl
      | ok entries => exact ih (below.merge entries)

/-- A problem is that of the first layer that cannot be read. -/
def IsFirstProblem (problem : LoadError) (layers : List Layer) : Prop :=
  ∃ before layer after, layers = before ++ layer :: after ∧
    (∀ other ∈ before, other.content.isOk = true) ∧ layer.content = .error problem

/-- Merging ends with the problem of the first layer that cannot be read. -/
theorem mergeAll_eq_error_iff {layers : List Layer} (below : Entries) {problem : LoadError} :
    mergeAll below layers = .error problem ↔ IsFirstProblem problem layers := by
  constructor
  · intro fails
    induction layers generalizing below with
    | nil => cases fails
    | cons layer layers ih =>
        rw [mergeAll] at fails
        cases content : layer.content with
        | error other =>
            rw [content] at fails
            cases fails
            exact ⟨[], layer, layers, rfl, List.forall_mem_nil _, content⟩
        | ok entries =>
            rw [content] at fails
            obtain ⟨before, first, after, rfl, readable, refused⟩ := ih _ fails
            refine ⟨layer :: before, first, after, rfl, ?_, refused⟩
            exact List.forall_mem_cons.mpr ⟨by rw [content]; rfl, readable⟩
  · rintro ⟨before, first, after, rfl, readable, refused⟩
    obtain ⟨merged, succeeds⟩ := exists_mergeAll readable below
    rw [mergeAll_append, succeeds]
    show mergeAll merged (first :: after) = .error problem
    rw [mergeAll, refused]

/-! ## Layers of files -/

/-- In what a file adds no key occurs twice. -/
theorem read_distinct {path : Text} {bytes : List UInt8} {entries : Entries}
    (found : read path bytes = .ok entries) : entries.Distinct := by
  rw [read] at found
  split at found
  · cases found
  · next text _ =>
      split at found
      · cases found
      · next value loaded =>
          have distinct := Yaml.load_distinct loaded
          unfold mappingOf at found
          split at found <;> cases found
          · exact Entries.distinct_nil
          · exact distinct

theorem ofFile?_distinct {tree : FileTree} {path : Path} {layer : Layer}
    (found : ofFile? tree path = some layer) {entries : Entries}
    (content : layer.content = .ok entries) : entries.Distinct := by
  obtain ⟨bytes, -, rfl⟩ := Option.map_eq_some_iff.mp found
  exact read_distinct content

end Layer

theorem Builtin.settings_distinct : Builtin.settings.Distinct := by decide

namespace SettingsSource

/-- The names of the drop-in files, as the directory gives them. -/
def dropInNames (source : SettingsSource) (tree : FileTree) : List Text :=
  ((tree.directory? source.dropIns).getD []).filter fun name =>
    Layer.dropInEndings.contains (Path.suffixOf name)

variable (source : SettingsSource) (tree : FileTree)

/-- Drop-in files add mappings in which no key occurs twice. -/
theorem dropInLayers_distinct {sections : List Entries}
    (contents : (source.dropInLayers tree).map Layer.content = sections.map .ok) :
    ∀ entries ∈ sections, entries.Distinct := by
  intro entries member
  have inside : Except.ok entries ∈ (source.dropInLayers tree).map Layer.content := by
    rw [contents]
    exact List.mem_map_of_mem member
  obtain ⟨layer, layerMember, content⟩ := List.mem_map.mp inside
  obtain ⟨name, -, found⟩ := List.mem_filterMap.mp layerMember
  exact Layer.ofFile?_distinct found content

/-- The main file adds a mapping in which no key occurs twice, or it cannot be read. -/
theorem mergeAll_mainLayer :
    (∃ main : Entries, main.Distinct ∧
      ∀ below, Layer.mergeAll below (source.mainLayer tree) = .ok (below.merge main)) ∨
    ∃ problem, ∀ below, Layer.mergeAll below (source.mainLayer tree) = .error problem := by
  rw [mainLayer]
  cases found : Layer.ofFile? tree source.main with
  | none => exact .inl ⟨.nil, Entries.distinct_nil, fun _ => rfl⟩
  | some layer =>
      rw [Option.toList_some]
      simp only [Layer.mergeAll]
      cases content : layer.content with
      | error problem => exact .inr ⟨problem, fun _ => rfl⟩
      | ok main => exact .inl ⟨main, Layer.ofFile?_distinct found content, fun _ => rfl⟩

/-- The built-in settings and the main file make up a mapping in which no key occurs twice. -/
theorem base_distinct {base : Entries}
    (merged : Layer.mergeAll Builtin.settings (source.mainLayer tree) = .ok base) :
    base.Distinct := by
  rcases source.mergeAll_mainLayer tree with ⟨main, distinct, succeeds⟩ | ⟨problem, fails⟩
  · obtain rfl := Except.ok.inj ((succeeds _).symm.trans merged)
    exact Builtin.settings_distinct.merge distinct
  · rw [fails] at merged
    cases merged

/-- The drop-in files make up a mapping in which no key occurs twice. -/
theorem dropIns_distinct {dropIns : Entries}
    (merged : Layer.mergeAll .nil (source.dropInLayers tree) = .ok dropIns) :
    dropIns.Distinct := by
  rcases Layer.contents_or_error (source.dropInLayers tree) with
    ⟨sections, contents⟩ | ⟨problem, fails⟩
  · rw [Layer.mergeAll_of_contents contents] at merged
    cases merged
    exact Entries.distinct_nil.foldl_merge (source.dropInLayers_distinct tree contents)
  · rw [fails] at merged
    cases merged

/-- The drop-in files are put onto the base as one mapping. -/
theorem merged_eq : source.merged tree
    = (Layer.mergeAll Builtin.settings (source.mainLayer tree)).bind fun base =>
        (Layer.mergeAll .nil (source.dropInLayers tree)).map base.merge := by
  rw [merged]
  rcases source.mergeAll_mainLayer tree with ⟨main, distinct, succeeds⟩ | ⟨problem, fails⟩
  · rw [succeeds, succeeds, Entries.nil_merge distinct]
    cases Layer.mergeAll .nil (source.dropInLayers tree) with
    | error problem => rfl
    | ok dropIns => rfl
  · rw [fails, fails]
    rfl

/-- Merging ends with the problem of the first file that cannot be read, the main file being read
before the drop-in files. -/
theorem merged_eq_error_iff {problem : LoadError} :
    source.merged tree = .error problem ↔
      Layer.IsFirstProblem problem (source.mainLayer tree ++ source.dropInLayers tree) := by
  rw [← Layer.mergeAll_eq_error_iff Builtin.settings, Layer.mergeAll_append, merged_eq]
  cases Layer.mergeAll Builtin.settings (source.mainLayer tree) with
  | error other => rfl
  | ok base =>
      show (Layer.mergeAll .nil _).map base.merge = _ ↔ Layer.mergeAll base _ = _
      rcases Layer.contents_or_error (source.dropInLayers tree) with
        ⟨sections, contents⟩ | ⟨other, fails⟩
      · rw [Layer.mergeAll_of_contents contents, Layer.mergeAll_of_contents contents]
        exact iff_of_false nofun nofun
      · rw [fails, fails]
        rfl

/-- The drop-in files count in the order of their names. Putting them onto what is below them as one
mapping gives the same, errors included, as merging all layers one after the other, exactly if no
section of what is below them resurfaces. -/
theorem merged_eq_mergeAll_iff :
    (∃ names, Layer.InOrder names ∧ names.Perm (source.dropInNames tree) ∧
      source.dropInLayers tree
        = names.filterMap fun name => Layer.ofFile? tree (source.dropIns.child name)) ∧
    (source.merged tree
        = Layer.mergeAll Builtin.settings (source.mainLayer tree ++ source.dropInLayers tree) ↔
      ∀ base sections,
        Layer.mergeAll Builtin.settings (source.mainLayer tree) = .ok base →
        (source.dropInLayers tree).map Layer.content = sections.map .ok →
        ¬Entries.Resurfaces base sections) := by
  obtain ⟨inOrder, permuted⟩ := Layer.sortNames_spec (source.dropInNames tree)
  refine ⟨⟨_, inOrder, permuted, rfl⟩, ?_⟩
  rw [merged_eq, Layer.mergeAll_append]
  cases below : Layer.mergeAll Builtin.settings (source.mainLayer tree) with
  | error problem => simp [Except.bind]
  | ok base =>
      rcases Layer.contents_or_error (source.dropInLayers tree) with
        ⟨sections, contents⟩ | ⟨problem, fails⟩
      · have agree := Entries.merge_foldl_eq_iff (source.base_distinct tree below)
          (source.dropInLayers_distinct tree contents)
        have same : (Layer.mergeAll .nil (source.dropInLayers tree)).map base.merge
              = Layer.mergeAll base (source.dropInLayers tree) ↔
            base.merge (sections.foldl Entries.merge .nil) = sections.foldl Entries.merge base := by
          rw [Layer.mergeAll_of_contents contents, Layer.mergeAll_of_contents contents]
          exact ⟨Except.ok.inj, congrArg Except.ok⟩
        refine (same.trans agree).trans ⟨?_, fun settled => settled base sections rfl contents⟩
        intro settled other others here otherContents
        obtain rfl := Except.ok.inj here
        obtain rfl : sections = others :=
          List.map_injective_iff.mpr (fun _ _ => Except.ok.inj) (contents.symm.trans otherContents)
        exact settled
      · refine iff_of_true ?_ fun other others _ contents => ?_
        · show (Layer.mergeAll .nil _).map base.merge = Layer.mergeAll base _
          rw [fails, fails]
          rfl
        · have succeeds := Layer.mergeAll_of_contents contents base
          rw [fails] at succeeds
          cases succeeds

/-! ## A section that resurfaces -/

/-- Drop-in files of which the first one resets the themes and the second one adds a theme. -/
def resettingDropIns : FileTree where
  files :=
    [(Path.ofText "cfg/conf.d/10-reset.yaml".toList, Utf8.encode "themes:\n".toList),
      (Path.ofText "cfg/conf.d/20-mine.yaml".toList,
        Utf8.encode "themes:\n  mine:\n    highlight: italic\n".toList)]
  folders := []

/-- The names of the themes that settings hold. -/
def themeNames (loaded : Except LoadError Entries) : List Scalar :=
  match loaded with
  | .error _ => []
  | .ok entries =>
    match entries.get? (.text "themes".toList) with
    | some (.map themes) => themes.keys
    | _ => []

/-- Built-in themes that a drop-in file resets show again below the theme that a later one adds;
they do not if the files are merged one after the other. -/
theorem themes_resurface :
    (inside (.ofText "cfg".toList)).merged resettingDropIns
      ≠ Layer.mergeAll Builtin.settings
          ((inside (.ofText "cfg".toList)).mainLayer resettingDropIns
            ++ (inside (.ofText "cfg".toList)).dropInLayers resettingDropIns) := by
  have names : themeNames ((inside (.ofText "cfg".toList)).merged resettingDropIns)
        = ["default", "solarized", "mono", "mine"].map (Scalar.text ·.toList) ∧
      themeNames (Layer.mergeAll Builtin.settings
          ((inside (.ofText "cfg".toList)).mainLayer resettingDropIns
            ++ (inside (.ofText "cfg".toList)).dropInLayers resettingDropIns))
        = ["mine"].map (Scalar.text ·.toList) := by
    decide +kernel
  intro same
  rw [same, names.2] at names
  cases names.1

end SettingsSource

end Winnow
