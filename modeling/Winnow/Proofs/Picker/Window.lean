import Winnow.Proofs.Picker.Selection
import Winnow.Proofs.Ranking.Sort
import Winnow.Proofs.Style.Marking

/-!
# The rows that a picker shows

However a picker got into its state (`Picker.Reachable`), its selection is one of the
entries or the first row of an empty result (`Reachable.selectsRow`). So the window of
rows, which ends at the selection or begins at the first row, shows the selection and is
full or shows everything. What is drawn in the style of the selection is the text of the
selected row and nothing else (`fragments_show_selection`).
-/

namespace Winnow

namespace Picker

/-! ## States that can be reached -/

/-- The states of a picker: those in which it starts, and those to which an action, filtering
again, or further candidates lead, also if a query does not compile or cannot be ranked. -/
inductive Reachable : Picker → Prop
  | start {candidates : List Text} {settings : Settings} {theme : Theme} {highlight : Style}
      {maxRows : Int} {query : Text} {picker : Picker} :
      start candidates settings theme highlight maxRows query = .ok picker → Reachable picker
  | act {picker : Picker} (action : Action) : Reachable picker → Reachable (picker.act action).1
  | refresh {picker : Picker} : Reachable picker → Reachable picker.refresh.1
  | addCandidates {picker : Picker} (candidates : List Text) :
      Reachable picker → Reachable (picker.addCandidates candidates)

/-- The selection is an entry or the first row. -/
def SelectsRow (picker : Picker) : Prop :=
  picker.selected = 0 ∨ picker.selected < picker.result.entries.length

variable {picker : Picker}

/-- Filtering again selects the first row or, if it fails, keeps result and selection. -/
theorem SelectsRow.refresh (selects : picker.SelectsRow) : picker.refresh.1.SelectsRow := by
  rw [Picker.refresh]
  split
  · exact selects
  · split
    · exact selects
    · exact .inl rfl

theorem SelectsRow.setLine (selects : picker.SelectsRow) (line : QueryLine) :
    (picker.setLine line).1.SelectsRow := by
  rw [Picker.setLine]
  split
  · exact selects
  · exact SelectsRow.refresh selects

/-- Moving goes around in the entries. -/
theorem SelectsRow.move (picker : Picker) (delta : Int) : (picker.move delta).SelectsRow := by
  rw [Picker.move]
  split
  · exact .inl rfl
  · next some =>
      have positive : (0 : Int) < picker.result.entries.length := by omega
      have below := Int.emod_lt_of_pos (picker.selected + delta) positive
      exact .inr ((Int.toNat_lt' (Nat.pos_of_ne_zero some)).mpr below)

/-- No action leaves the rows. -/
theorem SelectsRow.act (selects : picker.SelectsRow) (action : Action) :
    (picker.act action).1.SelectsRow := by
  cases action with
  | setText text => exact selects.setLine _
  | move delta => exact SelectsRow.move picker delta
  | press key =>
      cases key with
      | previous => exact SelectsRow.move picker (-1)
      | next => exact SelectsRow.move picker 1
      | _ => exact selects.setLine _

/-- However a picker got into its state, it selects a row. -/
theorem Reachable.selectsRow (reachable : picker.Reachable) : picker.SelectsRow := by
  induction reachable with
  | start started =>
      obtain ⟨engine, -, started⟩ := Ranking.bind_eq_ok_iff.mp started
      obtain ⟨result, -, started⟩ := Ranking.bind_eq_ok_iff.mp started
      obtain rfl := Except.ok.inj started
      exact .inl rfl
  | act action _ ih => exact ih.act action
  | refresh _ ih => exact ih.refresh
  | addCandidates _ _ ih => exact ih

/-! ## The window -/

/-- The entries that are drawn if the window begins at a row. -/
def rowsFrom (picker : Picker) (first : Nat) : List Entry :=
  (picker.result.entries.drop first).take picker.maxRows.toNat

/-- The visible rows are numbered from the first one on. -/
theorem getElem?_visible (picker : Picker) (index : Nat) :
    picker.visible[index]?
      = (picker.rowsFrom picker.firstRow)[index]?.map fun entry =>
          (picker.firstRow + index, entry) := by
  have numbered : ∀ row : Nat, ((List.range picker.result.entries.length).zip
      picker.result.entries)[row]? = picker.result.entries[row]?.map fun entry => (row, entry) := by
    intro row
    rw [List.zip, List.getElem?_zipWith]
    by_cases inside : row < picker.result.entries.length
    · rw [List.getElem?_range inside, List.getElem?_eq_getElem inside]
      rfl
    · rw [List.getElem?_eq_none (Nat.le_of_not_lt inside)]
      simp
  rw [visible, rowsFrom, List.getElem?_take, List.getElem?_take]
  split
  · rw [List.getElem?_drop, List.getElem?_drop, numbered]
  · rfl

/-- The window is full or shows everything, and it shows the selection if there is one. -/
theorem SelectsRow.window (selects : picker.SelectsRow) (rows : 1 ≤ picker.maxRows) :
    (picker.rowsFrom picker.firstRow).length
        = min picker.maxRows.toNat picker.result.entries.length ∧
      (picker.result.entries ≠ [] → picker.firstRow ≤ picker.selected ∧
        picker.selected < picker.firstRow + (picker.rowsFrom picker.firstRow).length) := by
  rw [rowsFrom, List.length_take, List.length_drop, firstRow, ← List.length_pos_iff]
  rcases selects with top | inside
  · omega
  · omega

/-! ## Fragments -/

/-- The line that an entry is drawn as. -/
def lineOf (entry : Entry) : Text := entry.text ++ ['\n']

theorem flatMap_snd_rowFragments (picker : Picker) (row : Nat) (entry : Entry) :
    (picker.rowFragments row entry).flatMap Prod.snd = lineOf entry := by
  rw [rowFragments, List.flatMap_append, flatMap_snd_styleCandidate]
  rfl

theorem not_isMarked_rowEnd : ¬IsMarked rowEnd := by decide +kernel

/-- A row that is not selected is not marked. -/
theorem not_isMarked_of_mem_rowFragments {row : Nat} (other : row ≠ picker.selected)
    (entry : Entry) : ∀ fragment ∈ picker.rowFragments row entry, ¬IsMarked fragment := by
  rw [rowFragments, rowStyle, if_neg other]
  intro fragment member
  rcases List.mem_append.mp member with shown | ended
  · exact not_isMarked_of_mem_styleCandidate fragment shown
  · rw [List.mem_singleton.mp ended]
    exact not_isMarked_rowEnd

/-- The fragments of some rows. -/
def rowsFragments (picker : Picker) (rows : List (Nat × Entry)) : List (Text × Text) :=
  rows.flatMap fun (row, entry) => picker.rowFragments row entry

theorem flatMap_snd_rowsFragments (picker : Picker) (rows : List (Nat × Entry)) :
    (picker.rowsFragments rows).flatMap Prod.snd = (rows.map Prod.snd).flatMap lineOf := by
  rw [rowsFragments, List.flatMap_assoc, List.flatMap_map]
  simp only [flatMap_snd_rowFragments]

theorem map_snd_visible (picker : Picker) :
    picker.visible.map Prod.snd = picker.rowsFrom picker.firstRow := by
  apply List.ext_getElem?
  intro index
  rw [List.getElem?_map, getElem?_visible, Option.map_map]
  exact Option.map_id_apply

theorem not_isMarked_of_mem_rowsFragments {rows : List (Nat × Entry)}
    (others : ∀ row ∈ rows, row.1 ≠ picker.selected) :
    ∀ fragment ∈ picker.rowsFragments rows, ¬IsMarked fragment := by
  intro fragment member
  obtain ⟨row, rowMember, inside⟩ := List.mem_flatMap.mp member
  exact not_isMarked_of_mem_rowFragments (others row rowMember) row.2 fragment inside

theorem not_isMarked_status (picker : Picker) :
    ¬IsMarked ("class:status".toList, picker.status) := by
  have words : "class:selected".toList ∉ Text.words "class:status".toList := by decide +kernel
  exact words

theorem fst_of_visible {index : Nat} {row : Nat × Entry}
    (found : picker.visible[index]? = some row) : row.1 = picker.firstRow + index := by
  rw [getElem?_visible] at found
  obtain ⟨entry, -, rfl⟩ := Option.map_eq_some_iff.mp found
  rfl

/-- The visible rows are those above the selected one, that one, and those below it. -/
theorem exists_visible_eq {entry : Entry} {distance : Nat}
    (selected : picker.selected = picker.firstRow + distance)
    (found : (picker.rowsFrom picker.firstRow)[distance]? = some entry) :
    ∃ below, picker.visible
        = picker.visible.take distance ++ (picker.selected, entry) :: below ∧
      (∀ row ∈ picker.visible.take distance, row.1 ≠ picker.selected) ∧
      ∀ row ∈ below, row.1 ≠ picker.selected := by
  have here : picker.visible[distance]? = some (picker.selected, entry) := by
    rw [getElem?_visible, found, selected]
    rfl
  obtain ⟨inside, here⟩ := List.getElem?_eq_some_iff.mp here
  refine ⟨picker.visible.drop (distance + 1), ?_, fun row member => ?_, fun row member => ?_⟩
  · rw [← here, ← List.drop_eq_getElem_cons inside, List.take_append_drop]
  · obtain ⟨index, place⟩ := List.mem_iff_getElem?.mp member
    rw [List.getElem?_take] at place
    split at place
    · next before =>
        have number := fst_of_visible place
        omega
    · cases place
  · obtain ⟨index, place⟩ := List.mem_iff_getElem?.mp member
    rw [List.getElem?_drop] at place
    have number := fst_of_visible place
    omega

/-- The selected entry is the one that is drawn in its place. -/
theorem current_of_rowsFrom {first distance : Nat} {entry : Entry}
    (selected : picker.selected = first + distance)
    (found : (picker.rowsFrom first)[distance]? = some entry) :
    picker.current = some entry.text := by
  rw [rowsFrom, List.getElem?_take] at found
  split at found
  · rw [List.getElem?_drop, ← selected] at found
    rw [current, found, Option.map_some]
  · cases found

theorem fragments_eq (picker : Picker) :
    picker.fragments
      = picker.rowsFragments picker.visible ++ [("class:status".toList, picker.status)] := rfl

/-- The selected row is drawn between the rows above it and those below it, and only its text is
marked. -/
theorem exists_marked {entry : Entry} {distance : Nat}
    (selected : picker.selected = picker.firstRow + distance)
    (found : (picker.rowsFrom picker.firstRow)[distance]? = some entry) :
    ∃ before own after, picker.fragments = before ++ own ++ after ∧
      before.flatMap Prod.snd
        = ((picker.rowsFrom picker.firstRow).take distance).flatMap lineOf ∧
      own.flatMap Prod.snd = entry.text ∧
      (∀ fragment ∈ own, IsMarked fragment ∧ fragment.2 ≠ []) ∧
      ∀ fragment ∈ before ++ after, ¬IsMarked fragment := by
  obtain ⟨below, split, aboveOthers, belowOthers⟩ := exists_visible_eq selected found
  have row : picker.rowFragments picker.selected entry
      = styleCandidate entry.text (picker.engine.highlight entry.text picker.highlight)
          "class:selected".toList ++ [rowEnd] := by
    rw [rowFragments, rowStyle, if_pos rfl]
  have shown : picker.rowsFragments picker.visible
      = picker.rowsFragments (picker.visible.take distance)
        ++ (picker.rowFragments picker.selected entry ++ picker.rowsFragments below) := by
    conv_lhs => rw [split]
    rw [rowsFragments, List.flatMap_append, List.flatMap_cons]
    rfl
  refine ⟨picker.rowsFragments (picker.visible.take distance),
    styleCandidate entry.text (picker.engine.highlight entry.text picker.highlight)
      "class:selected".toList,
    rowEnd :: (picker.rowsFragments below ++ [("class:status".toList, picker.status)]),
    ?_, ?_, ?_, fun fragment member => ⟨?_, ?_⟩, fun fragment member => ?_⟩
  · rw [fragments_eq, shown, row]
    simp only [List.append_assoc, List.cons_append, List.nil_append]
  · rw [flatMap_snd_rowsFragments, List.map_take, map_snd_visible]
  · exact flatMap_snd_styleCandidate _ _ _
  · exact isMarked_of_mem_styleCandidate fragment member
  · exact ne_nil_of_mem_styleCandidate _ _ _ fragment member
  · rcases List.mem_append.mp member with above | behind
    · exact not_isMarked_of_mem_rowsFragments aboveOthers fragment above
    · rcases List.mem_cons.mp behind with rfl | further
      · exact not_isMarked_rowEnd
      · rcases List.mem_append.mp further with under | status
        · exact not_isMarked_of_mem_rowsFragments belowOthers fragment under
        · rw [List.mem_singleton.mp status]
          exact not_isMarked_status picker

/-- Whatever led to the state of a picker that shows at least one row: it draws a block of
entries that stand one behind the other in the result, as many as there is room for and there are,
and the selected one is among them if there is any. The text of what is drawn is these entries line
by line and then the status, which tells the numbers of entries and of candidates and whether the
result is truncated. The fragments in the style of the selection are those of the text of the
selected entry, none of them empty, without the end of its row. -/
theorem fragments_show_selection (reachable : picker.Reachable) (rows : 1 ≤ picker.maxRows) :
    ∃ first,
      (picker.rowsFrom first).length
        = min picker.maxRows.toNat picker.result.entries.length ∧
      (picker.result.entries ≠ [] → first ≤ picker.selected ∧
        picker.selected < first + (picker.rowsFrom first).length) ∧
      picker.fragments.flatMap Prod.snd
        = (picker.rowsFrom first).flatMap lineOf
          ++ (natText picker.result.entries.length ++ '/' :: natText picker.candidates.length
            ++ if picker.result.truncated then " (truncated)".toList else []) ∧
      ∃ before own after, picker.fragments = before ++ own ++ after ∧
        before.flatMap Prod.snd
          = ((picker.rowsFrom first).take (picker.selected - first)).flatMap lineOf ∧
        own.flatMap Prod.snd = picker.current.getD [] ∧
        (∀ fragment ∈ own, IsMarked fragment ∧ fragment.2 ≠ []) ∧
        ∀ fragment ∈ before ++ after, ¬IsMarked fragment := by
  obtain ⟨full, shows⟩ := reachable.selectsRow.window rows
  refine ⟨picker.firstRow, full, shows, ?_, ?_⟩
  · rw [fragments_eq, List.flatMap_append, flatMap_snd_rowsFragments, map_snd_visible,
      List.flatMap_singleton, status]
  · by_cases empty : picker.result.entries = []
    · have none : picker.visible = [] := by simp [visible, empty]
      have alone : picker.fragments = [] ++ [] ++ [("class:status".toList, picker.status)] := by
        rw [fragments_eq, none]
        rfl
      refine ⟨[], [], _, alone, ?_, ?_, List.forall_mem_nil _, ?_⟩
      · simp [rowsFrom, empty]
      · simp [current, empty]
      · exact List.forall_mem_singleton.mpr (not_isMarked_status picker)
    · obtain ⟨begins, ends⟩ := shows empty
      obtain ⟨distance, selected⟩ := Nat.exists_eq_add_of_le begins
      have inside : distance < (picker.rowsFrom picker.firstRow).length := by omega
      have found := List.getElem?_eq_getElem inside
      rw [current_of_rowsFrom selected found, selected, Nat.add_sub_cancel_left]
      exact exists_marked selected found

/-- A picker for three candidates with room for two rows in which the selection was moved back from
the first entry to the last one shows the last two. -/
theorem fragments_show_selection_last :
    ∃ picker : Picker, picker.Reachable ∧ 1 ≤ picker.maxRows ∧ picker.selected = 2 ∧
      ∃ first, (picker.rowsFrom first).length = 2 ∧ first ≤ 2 ∧ 2 < first + 2 ∧
        picker.fragments.flatMap Prod.snd
          = (picker.rowsFrom first).flatMap lineOf ++ "3/3".toList ∧
        ∃ before own after, picker.fragments = before ++ own ++ after ∧
          before.flatMap Prod.snd = ((picker.rowsFrom first).take (2 - first)).flatMap lineOf ∧
          own.flatMap Prod.snd = ['c', 'c'] ∧
          (∀ fragment ∈ own, IsMarked fragment ∧ fragment.2 ≠ []) ∧
          ∀ fragment ∈ before ++ after, ¬IsMarked fragment := by
  let begun := start [['a', 'b'], ['b'], ['c', 'c']] {} .standard .standard 2 []
  have facts : begun.map (fun picker => (picker.move (-1)).selected) = .ok 2 ∧
      begun.map (fun picker => (picker.move (-1)).maxRows) = .ok 2 ∧
      begun.map (fun picker => (picker.move (-1)).result.entries.length) = .ok 3 ∧
      begun.map (fun picker => (picker.move (-1)).candidates.length) = .ok 3 ∧
      begun.map (fun picker => (picker.move (-1)).result.truncated) = .ok false ∧
      begun.map (fun picker => (picker.move (-1)).current) = .ok (some ['c', 'c']) := by
    decide +kernel
  cases started : begun with
  | error problem =>
      rw [started] at facts
      cases facts.1
  | ok initial =>
      rw [started] at facts
      simp only [Except.map, Except.ok.injEq] at facts
      obtain ⟨selected, maxRows, entries, candidates, truncated, current⟩ := facts
      have reachable : (initial.move (-1)).Reachable := .act (.move (-1)) (.start started)
      have rows : 1 ≤ (initial.move (-1)).maxRows := by omega
      obtain ⟨first, full, shows, text, marked⟩ := fragments_show_selection reachable rows
      have some : (initial.move (-1)).result.entries ≠ [] := List.ne_nil_of_length_pos (by omega)
      obtain ⟨begins, ends⟩ := shows some
      rw [entries, maxRows] at full
      rw [entries, candidates, truncated] at text
      rw [current, selected] at marked
      exact ⟨initial.move (-1), reachable, rows, selected, first, full, by omega, by omega, text,
        marked⟩

end Picker

end Winnow
