import Winnow.Proofs.Yaml.Entries
import Winnow.Settings.Schema

/-!
# Reading themes

The section on themes is read entry by entry, and the first entry that cannot be read
ends it (`readThemes_error_iff`). A theme is put under its name in lower case in the
place of an earlier one, so of all spellings of a name in a section the last one that
stands for a theme is found (`lookup_spellings`). Names that are given as bytes are keys
of their own until all themes are read; where there are none, joining the keys changes
nothing (`TextKeyed.lookup_joinThemes`). A theme has a foreign key if it has
one that is no text, or that of the name, which stands outside (`hasForeignKey_iff`).
-/

namespace Winnow

open Yaml (Value Scalar Entries)

/-! ## Readings -/

namespace Reading

theorem apply_eq_ok_iff {α β : Type} {function : Reading (α → β)} {argument : Reading α}
    {result : β} :
    function.apply argument = .ok result ↔
      ∃ read value, function = .ok read ∧ argument = .ok value ∧ read value = result := by
  cases function <;> cases argument <;> simp [apply]

/-- What is read does not depend on how problems are reported. -/
theorem mapError_eq_ok_iff {ε ε' α : Type} {report : ε → ε'} {read : Except ε α} {value : α} :
    read.mapError report = .ok value ↔ read = .ok value := by
  cases read with
  | ok found =>
      show Except.ok found = .ok value ↔ _
      rw [Except.ok.injEq, Except.ok.injEq]
  | error problem => exact iff_of_false nofun nofun

theorem map_eq_error_iff {ε α β : Type} {read : Except ε α} {change : α → β} {problem : ε} :
    read.map change = .error problem ↔ read = .error problem := by
  cases read <;> simp [Except.map]

theorem field_of_getText? {α : Type} {entries : Entries} {name : String} {value : Value}
    (there : entries.getText? name = some value) (read : Field.Reader α) (default : α) :
    field entries name read default = ofMisfit name (read value) := by
  rw [field, there]

end Reading

/-- A theme is read from its name and the entries of its fields. -/
theorem Theme.ofEntries_eq_ok_iff {name : Scalar} {entries : Entries} {theme : Theme} :
    Theme.ofEntries name entries = .ok theme ↔
      Reading.ofMisfit "name" (Field.text (.scalar name)) = .ok theme.name ∧
      Reading.field entries "highlight" Field.styleText Theme.standard.highlight
        = .ok theme.highlight ∧
      Reading.field entries "selected" Field.text Theme.standard.selected
        = .ok theme.selected := by
  simp only [Theme.ofEntries, Reading.apply_eq_ok_iff, Except.ok.injEq]
  constructor
  · rintro ⟨_, selected, ⟨_, highlight, ⟨_, own, rfl, named, rfl⟩, highlighted, rfl⟩, chosen, rfl⟩
    exact ⟨named, highlighted, chosen⟩
  · rintro ⟨named, highlighted, chosen⟩
    exact ⟨_, _, ⟨_, _, ⟨_, _, rfl, named, rfl⟩, highlighted, rfl⟩, chosen, rfl⟩

/-! ## Foreign keys -/

theorem allTextKeys_iff {entries : Entries} :
    allTextKeys entries = true ↔ ∀ key ∈ entries.keys, ∃ text, key = .text text := by
  rw [allTextKeys, List.all_eq_true, ← Entries.map_fst_toList, List.forall_mem_map]
  refine forall₂_congr fun entry _ => ?_
  obtain ⟨key, value⟩ := entry
  cases key <;> simp

theorem exists_text_of_allTextKeys {entries : Entries} (texts : allTextKeys entries = true) :
    ∀ entry ∈ entries.toList, ∃ text, entry.1 = .text text := by
  intro entry member
  apply allTextKeys_iff.mp texts
  rw [← Entries.map_fst_toList]
  exact List.mem_map_of_mem member

/-- A theme has a foreign key exactly if one of its keys is no text or is that of its name. -/
theorem Theme.hasForeignKey_iff {entries : Entries} :
    Theme.hasForeignKey entries = true ↔
      ∃ key ∈ entries.keys, (∀ text, key ≠ .text text) ∨ key = .text "name".toList := by
  have named : (entries.getText? "name").isSome = true ↔ .text "name".toList ∈ entries.keys := by
    rw [Entries.getText?, Entries.isSome_get?, Entries.hasKey_text]
  have texts : (!allTextKeys entries) = true ↔
      ∃ key ∈ entries.keys, ∀ text, key ≠ .text text := by
    rw [Bool.not_eq_true', ← Bool.not_eq_true, allTextKeys_iff]
    simp
  rw [Theme.hasForeignKey, Bool.or_eq_true, texts, named]
  constructor
  · rintro (⟨key, member, noText⟩ | member)
    · exact ⟨key, member, .inl noText⟩
    · exact ⟨_, member, .inr rfl⟩
  · rintro ⟨key, member, noText | rfl⟩
    · exact .inl ⟨key, member, noText⟩
    · exact .inr member

/-! ## Entries of the section -/

/-- Reads an entry of the section on themes: a theme with its key, or nothing. -/
def Theme.ofEntry (entry : Scalar × Value) : Except SettingsError (Option (Theme.Key × Theme)) :=
  match Theme.entriesOf? entry.2 with
  | none => .ok none
  | some entries =>
    if Theme.hasForeignKey entries then .error .foreignKey
    else
      match Theme.ofEntries entry.1 entries with
      | .error problems => .error (.invalid "Theme" problems)
      | .ok theme => .ok (some (theme.keyOf entry.1, theme))

/-- An entry is no theme, or it has a foreign key, or its fields are read. -/
theorem Theme.ofEntry_cases (entry : Scalar × Value) :
    (Theme.entriesOf? entry.2 = none ∧ Theme.ofEntry entry = .ok none) ∨
      ∃ entries, Theme.entriesOf? entry.2 = some entries ∧
        ((Theme.hasForeignKey entries = true ∧ Theme.ofEntry entry = .error .foreignKey) ∨
          (Theme.hasForeignKey entries = false ∧
            ((∃ problems, Theme.ofEntries entry.1 entries = .error problems ∧
                Theme.ofEntry entry = .error (.invalid "Theme" problems)) ∨
              ∃ theme, Theme.ofEntries entry.1 entries = .ok theme ∧
                Theme.ofEntry entry = .ok (some (theme.keyOf entry.1, theme))))) := by
  rw [Theme.ofEntry]
  cases Theme.entriesOf? entry.2 with
  | none => exact .inl ⟨rfl, rfl⟩
  | some entries =>
      refine .inr ⟨entries, rfl, ?_⟩
      dsimp only
      cases Theme.hasForeignKey entries with
      | true => exact .inl ⟨rfl, rfl⟩
      | false =>
          rw [if_neg Bool.false_ne_true]
          cases Theme.ofEntries entry.1 entries with
          | error problems => exact .inr ⟨rfl, .inl ⟨problems, rfl, rfl⟩⟩
          | ok theme => exact .inr ⟨rfl, .inr ⟨theme, rfl, rfl⟩⟩

/-- An entry that is read is no theme, or it is a theme whose fields are read. -/
theorem Theme.ofEntry_ok {entry : Scalar × Value} {found : Option (Theme.Key × Theme)}
    (reads : Theme.ofEntry entry = .ok found) :
    (Theme.entriesOf? entry.2 = none ∧ found = none) ∨
      ∃ entries theme, Theme.entriesOf? entry.2 = some entries ∧
        Theme.ofEntries entry.1 entries = .ok theme ∧
        found = some (theme.keyOf entry.1, theme) := by
  rcases Theme.ofEntry_cases entry with ⟨noTheme, same⟩ |
    ⟨entries, isTheme, ⟨-, fails⟩ | ⟨-, ⟨problems, -, fails⟩ | ⟨theme, read, same⟩⟩⟩
  · exact .inl ⟨noTheme, Except.ok.inj (reads.symm.trans same)⟩
  · cases reads.symm.trans fails
  · cases reads.symm.trans fails
  · exact .inr ⟨entries, theme, isTheme, read, Except.ok.inj (reads.symm.trans same)⟩

/-- An entry ends reading by a foreign key exactly if it is a mapping that has one. -/
theorem Theme.ofEntry_foreignKey_iff {entry : Scalar × Value} :
    Theme.ofEntry entry = .error .foreignKey ↔
      ∃ body, entry.2 = .map body ∧ Theme.hasForeignKey body = true := by
  constructor
  · intro fails
    rcases Theme.ofEntry_cases entry with ⟨-, reads⟩ |
      ⟨entries, isTheme, ⟨foreign, -⟩ | ⟨-, ⟨problems, -, refused⟩ | ⟨theme, -, reads⟩⟩⟩
    · cases fails.symm.trans reads
    · cases value : entry.2 with
      | map body =>
          rw [value] at isTheme
          exact ⟨body, rfl, Option.some.inj isTheme ▸ foreign⟩
      | scalar scalar =>
          rw [value] at isTheme
          cases scalar with
          | text spec =>
              -- A theme that is written as a text has the key of its style only.
              obtain rfl := Option.some.inj isTheme
              cases foreign
          | _ => cases isTheme
      | _ =>
          rw [value] at isTheme
          cases isTheme
    · cases fails.symm.trans refused
    · cases fails.symm.trans reads
  · rintro ⟨body, same, foreign⟩
    rw [Theme.ofEntry, same]
    exact if_pos foreign

/-- An entry ends reading with problems only if these are the problems of its fields. -/
theorem Theme.ofEntry_invalid {entry : Scalar × Value} {kind : String} {problems : List Problem}
    (fails : Theme.ofEntry entry = .error (.invalid kind problems)) :
    ∃ entries, Theme.entriesOf? entry.2 = some entries ∧
      Theme.ofEntries entry.1 entries = .error problems := by
  rcases Theme.ofEntry_cases entry with ⟨-, reads⟩ |
    ⟨entries, isTheme, ⟨-, foreign⟩ | ⟨-, ⟨others, read, same⟩ | ⟨theme, -, reads⟩⟩⟩
  · cases fails.symm.trans reads
  · cases fails.symm.trans foreign
  · obtain ⟨-, rfl⟩ := SettingsError.invalid.inj (Except.error.inj (fails.symm.trans same))
    exact ⟨entries, isTheme, read⟩
  · cases fails.symm.trans reads

/-- What is read already with what an entry is read as. -/
def addTheme (read : List (Theme.Key × Theme)) :
    Option (Theme.Key × Theme) → List (Theme.Key × Theme)
  | none => read
  | some (key, theme) => putByKey key theme read

/-- Themes are read entry by entry. -/
theorem readThemes_cons (read : List (Theme.Key × Theme)) (entry : Scalar × Value)
    (rest : List (Scalar × Value)) :
    readThemes read (entry :: rest)
      = (Theme.ofEntry entry).bind fun found => readThemes (addTheme read found) rest := by
  obtain ⟨name, value⟩ := entry
  rw [readThemes, Theme.ofEntry]
  cases Theme.entriesOf? value with
  | none => rfl
  | some entries =>
      dsimp only
      split
      · rfl
      · cases Theme.ofEntries name entries <;> rfl

/-- Reading ends with the problem of the first entry that has one. -/
theorem readThemes_error_iff {read : List (Theme.Key × Theme)} {entries : List (Scalar × Value)}
    {problem : SettingsError} :
    readThemes read entries = .error problem ↔
      ∃ before entry after, entries = before ++ entry :: after ∧
        (∀ other ∈ before, ∃ found, Theme.ofEntry other = .ok found) ∧
        Theme.ofEntry entry = .error problem := by
  induction entries generalizing read with
  | nil =>
      constructor
      · intro fails
        cases fails
      · rintro ⟨before, entry, after, same, -⟩
        simp at same
  | cons first rest ih =>
      rw [readThemes_cons]
      cases here : Theme.ofEntry first with
      | error other =>
          constructor
          · intro fails
            cases fails
            exact ⟨[], first, rest, rfl, List.forall_mem_nil _, here⟩
          · rintro ⟨before, entry, after, same, readable, fails⟩
            cases before with
            | nil =>
                obtain ⟨rfl, -⟩ := List.cons.inj same
                rw [here] at fails
                cases fails
                rfl
            | cons other before =>
                obtain ⟨rfl, -⟩ := List.cons.inj same
                obtain ⟨found, reads⟩ := readable first List.mem_cons_self
                cases here.symm.trans reads
      | ok found =>
          refine ih.trans ⟨?_, ?_⟩
          · rintro ⟨before, entry, after, rfl, readable, fails⟩
            exact ⟨first :: before, entry, after, rfl,
              List.forall_mem_cons.mpr ⟨⟨found, here⟩, readable⟩, fails⟩
          · rintro ⟨before, entry, after, same, readable, fails⟩
            cases before with
            | nil =>
                obtain ⟨rfl, -⟩ := List.cons.inj same
                cases here.symm.trans fails
            | cons other before =>
                obtain ⟨rfl, rfl⟩ := List.cons.inj same
                exact ⟨before, entry, after, rfl, (List.forall_mem_cons.mp readable).2, fails⟩

/-! ## Finding a theme -/

/-- Whether a key spells a name, letter case aside. -/
def Yaml.Scalar.spells (name : Text) : Scalar → Bool
  | .text spelling => spelling.lower == name.lower
  | _ => false

/-- Whether a value is read as a theme. -/
def Yaml.Value.isTheme (value : Value) : Bool := (Theme.entriesOf? value).isSome

/-- Whether an entry stands for a theme of the given name, letter case aside. -/
def Theme.isNamed (name : Text) (entry : Scalar × Value) : Bool :=
  entry.1.spells name && entry.2.isTheme

/-- The keys of a section under which a theme of the given name stands, letter case aside. -/
def Yaml.Entries.spellings (themes : Entries) (name : Text) : List Scalar :=
  (themes.toList.filter (Theme.isNamed name)).map Prod.fst

/-- A theme is read from what stands under a key of a section. -/
def Theme.StandsAt (theme : Theme) (themes : Entries) (key : Scalar) : Prop :=
  ∃ value entries, themes.get? key = some value ∧ Theme.entriesOf? value = some entries ∧
    Theme.ofEntries key entries = .ok theme

section

variable {κ α : Type} [DecidableEq κ] [BEq κ] [LawfulBEq κ]

theorem lookup_cons_eq_ite (key : κ) (value : α) (rest : List (κ × α)) (wanted : κ) :
    ((key, value) :: rest).lookup wanted
      = if wanted = key then some value else rest.lookup wanted := by
  by_cases same : wanted = key
  · rw [if_pos same, same, List.lookup_cons_self]
  · have apart : (wanted == key) = false := by simpa using same
    rw [if_neg same, List.lookup_cons, apart]

/-- Writing a theme changes what is found under its key only. -/
theorem lookup_putByKey (key : κ) (value : α) (list : List (κ × α)) (wanted : κ) :
    (putByKey key value list).lookup wanted
      = if wanted = key then some value else list.lookup wanted := by
  induction list with
  | nil => rw [putByKey, lookup_cons_eq_ite]
  | cons entry rest ih =>
      obtain ⟨other, old⟩ := entry
      rw [putByKey]
      by_cases here : other = key
      · rw [if_pos here, lookup_cons_eq_ite, lookup_cons_eq_ite, here]
        split <;> rfl
      · rw [if_neg here, lookup_cons_eq_ite, lookup_cons_eq_ite, ih]
        by_cases same : wanted = other
        · have apart : wanted ≠ key := fun other => here (same.symm.trans other)
          rw [if_pos same, if_neg apart, if_pos same]
        · rw [if_neg same, if_neg same]

end

theorem keys_putByKey {κ α : Type} [DecidableEq κ] (key : κ) (value : α) (list : List (κ × α)) :
    (putByKey key value list).map Prod.fst
      = if key ∈ list.map Prod.fst then list.map Prod.fst else list.map Prod.fst ++ [key] := by
  induction list with
  | nil => rfl
  | cons entry rest ih =>
      obtain ⟨other, old⟩ := entry
      rw [putByKey]
      by_cases here : other = key
      · simp [here]
      · rw [if_neg here, List.map_cons, ih]
        simp only [List.map_cons, List.mem_cons, Ne.symm here, false_or]
        split <;> rfl

/-- Themes whose keys are texts, none of which occurs twice. -/
structure TextKeyed (read : List (Theme.Key × Theme)) : Prop where
  texts : ∀ key ∈ read.map Prod.fst, key.isBytes = false
  once : (read.map Prod.fst).Nodup

theorem TextKeyed.put {read : List (Theme.Key × Theme)} (keyed : TextKeyed read) (text : Text)
    (theme : Theme) : TextKeyed (putByKey ⟨false, text⟩ theme read) := by
  constructor
  · intro key member
    rw [keys_putByKey] at member
    split at member
    · exact keyed.texts key member
    · rcases List.mem_append.mp member with there | new
      · exact keyed.texts key there
      · rw [List.mem_singleton.mp new]
  · rw [keys_putByKey]
    split
    · exact keyed.once
    · next absent =>
        refine List.nodup_append.mpr ⟨keyed.once, (by simp), ?_⟩
        rintro key member _ new rfl
        exact absent (List.mem_singleton.mp new ▸ member)

/-- Where all names are texts, all keys are. -/
theorem TextKeyed.readThemes {read themes : List (Theme.Key × Theme)}
    {entries : List (Scalar × Value)} (keyed : TextKeyed read)
    (texts : ∀ entry ∈ entries, ∃ text, entry.1 = .text text)
    (loaded : readThemes read entries = .ok themes) : TextKeyed themes := by
  induction entries generalizing read with
  | nil =>
      cases loaded
      exact keyed
  | cons entry rest ih =>
      obtain ⟨⟨text, textual⟩, later⟩ := List.forall_mem_cons.mp texts
      rw [readThemes_cons] at loaded
      cases here : Theme.ofEntry entry with
      | error problem =>
          rw [here] at loaded
          cases loaded
      | ok found =>
          rw [here] at loaded
          refine ih ?_ later loaded
          rcases Theme.ofEntry_ok here with ⟨-, rfl⟩ | ⟨fields, theme, -, -, rfl⟩
          · exact keyed
          · rw [textual]
            exact keyed.put text.lower theme

/-- Joining themes whose keys are texts does not change what is found. -/
theorem TextKeyed.lookup_joinThemes {read : List (Theme.Key × Theme)} (keyed : TextKeyed read)
    (joined : List (Text × Theme)) (wanted : Text) :
    (joinThemes joined read).lookup wanted
      = (read.lookup ⟨false, wanted⟩).or (joined.lookup wanted) := by
  induction read generalizing joined with
  | nil => rfl
  | cons entry rest ih =>
      obtain ⟨⟨isBytes, text⟩, theme⟩ := entry
      obtain ⟨texts, once⟩ := keyed
      obtain rfl : isBytes = false := texts ⟨isBytes, text⟩ List.mem_cons_self
      obtain ⟨absent, later⟩ := List.nodup_cons.mp once
      rw [joinThemes, ih ⟨fun key member => texts key (List.mem_cons_of_mem _ member), later⟩,
        lookup_putByKey, lookup_cons_eq_ite]
      by_cases same : wanted = text
      · subst same
        have nowhere : rest.lookup (⟨false, wanted⟩ : Theme.Key) = none := by
          refine List.lookup_eq_none_iff.mpr fun entry member => bne_iff_ne.mpr fun same => ?_
          exact absent (List.mem_map.mpr ⟨entry, member, same.symm⟩)
        simp [nowhere]
      · simp [same]

/-- Of the entries that stand for a theme of the given name the last one is found, or what is found
there already. -/
theorem lookup_readThemes {read themes : List (Theme.Key × Theme)} {entries : List (Scalar × Value)}
    (texts : ∀ entry ∈ entries, ∃ text, entry.1 = .text text)
    (loaded : readThemes read entries = .ok themes) (name : Text) :
    (entries.filter (Theme.isNamed name) = [] ∧
        themes.lookup ⟨false, name.lower⟩ = read.lookup ⟨false, name.lower⟩) ∨
      ∃ entry fields theme, (entries.filter (Theme.isNamed name)).getLast? = some entry ∧
        Theme.entriesOf? entry.2 = some fields ∧ Theme.ofEntries entry.1 fields = .ok theme ∧
        themes.lookup ⟨false, name.lower⟩ = some theme := by
  induction entries generalizing read with
  | nil =>
      cases loaded
      exact .inl ⟨rfl, rfl⟩
  | cons entry rest ih =>
      obtain ⟨⟨text, textual⟩, later⟩ := List.forall_mem_cons.mp texts
      rw [readThemes_cons] at loaded
      cases here : Theme.ofEntry entry with
      | error problem =>
          rw [here] at loaded
          cases loaded
      | ok found =>
          rw [here] at loaded
          rcases ih later loaded with ⟨nothing, same⟩ | ⟨last, fields, theme, ends, reads⟩
          · rcases Theme.ofEntry_ok here with ⟨noTheme, rfl⟩ | ⟨fields, theme, isTheme, reads, rfl⟩
            · have unnamed : Theme.isNamed name entry = false := by
                simp [Theme.isNamed, Value.isTheme, noTheme]
              exact .inl ⟨by simp [unnamed, nothing], same⟩
            · have key : theme.keyOf entry.1 = ⟨false, text.lower⟩ := by
                rw [textual]
                rfl
              have named : Theme.isNamed name entry = (text.lower == name.lower) := by
                simp [Theme.isNamed, Value.isTheme, isTheme, textual, Scalar.spells]
              rw [addTheme, lookup_putByKey, key] at same
              by_cases spelled : name.lower = text.lower
              · refine .inr ⟨entry, fields, theme, ?_, isTheme, reads, ?_⟩
                · simp [named, spelled, nothing]
                · rw [same, if_pos (by rw [spelled])]
              · refine .inl ⟨?_, ?_⟩
                · have apart : (text.lower == name.lower) = false :=
                    beq_eq_false_iff_ne.mpr (Ne.symm spelled)
                  simp [named, apart, nothing]
                · rw [same, if_neg (by simpa using spelled)]
          · refine .inr ⟨last, fields, theme, ?_, reads⟩
            rw [List.filter_cons]
            split
            · rw [List.getLast?_cons, ends]
              rfl
            · exact ends

/-- Whether a key spells a name and a theme is found there. -/
def Yaml.Entries.hasThemeAt (themes : Entries) (name : Text) (key : Scalar) : Bool :=
  key.spells name && (themes.get? key).any Value.isTheme

theorem Yaml.Entries.Distinct.hasThemeAt_of_mem {themes : Entries} (distinct : themes.Distinct)
    (name : Text) {entry : Scalar × Value} (member : entry ∈ themes.toList) :
    themes.hasThemeAt name entry.1 = Theme.isNamed name entry := by
  rw [Entries.hasThemeAt, distinct.get?_of_mem member]
  rfl

theorem Yaml.Entries.Distinct.spellings_eq {themes : Entries} (distinct : themes.Distinct)
    (name : Text) : themes.spellings name = themes.keys.filter (themes.hasThemeAt name) := by
  have same : ∀ entry ∈ themes.toList,
      Theme.isNamed name entry = (themes.hasThemeAt name ∘ Prod.fst) entry :=
    fun entry member => (distinct.hasThemeAt_of_mem name member).symm
  rw [Entries.spellings, ← Entries.map_fst_toList, List.filter_map, List.filter_congr same]

/-- Of the entries of a section that stand for a theme of the given name the last one is found. -/
theorem lookup_themesOf {entries : Entries} (texts : allTextKeys entries = true)
    {themes : List (Text × Theme)} (loaded : themesOf (.map entries) = .ok themes) (name : Text) :
    (entries.toList.filter (Theme.isNamed name) = [] ∧ themes.lookup name.lower = none) ∨
      ∃ entry fields theme, (entries.toList.filter (Theme.isNamed name)).getLast? = some entry ∧
        Theme.entriesOf? entry.2 = some fields ∧ Theme.ofEntries entry.1 fields = .ok theme ∧
        themes.lookup name.lower = some theme := by
  have textual := exists_text_of_allTextKeys texts
  rw [themesOf] at loaded
  cases reads : readThemes [] entries.toList with
  | error problem =>
      rw [reads] at loaded
      cases loaded
  | ok read =>
      rw [reads] at loaded
      cases loaded
      have empty : TextKeyed [] := ⟨List.forall_mem_nil _, List.Pairwise.nil⟩
      have keyed : TextKeyed read := empty.readThemes textual reads
      have joined := keyed.lookup_joinThemes [] name.lower
      rw [List.lookup_nil, Option.or_none] at joined
      rw [joined]
      exact lookup_readThemes textual reads name

/-- In a section whose keys are texts, each once, the last spelling of a name is found. -/
theorem lookup_spellings {entries : Entries} (distinct : entries.Distinct)
    (texts : allTextKeys entries = true) {themes : List (Text × Theme)}
    (loaded : themesOf (.map entries) = .ok themes) (name : Text) :
    (entries.spellings name = [] ∧ themes.lookup name.lower = none) ∨
      ∃ key theme, (entries.spellings name).getLast? = some key ∧
        theme.StandsAt entries key ∧ themes.lookup name.lower = some theme := by
  rw [Entries.spellings]
  rcases lookup_themesOf texts loaded name with
    ⟨none, absent⟩ | ⟨entry, fields, theme, ends, isTheme, reads, found⟩
  · exact .inl ⟨by rw [none, List.map_nil], absent⟩
  · have member : entry ∈ entries.toList :=
      (List.mem_filter.mp (List.mem_of_getLast? ends)).1
    refine .inr ⟨entry.1, theme, ?_, ⟨entry.2, fields, distinct.get?_of_mem member, isTheme, reads⟩,
      found⟩
    rw [List.getLast?_map, ends]
    rfl

end Winnow
