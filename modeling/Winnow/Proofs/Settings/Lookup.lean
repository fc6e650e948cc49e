import Winnow.Proofs.Settings.Prevailing

/-!
# Finding themes

An entry of the section on themes names a theme if its key is a text and its value a
mapping or a text (`Theme.Names`), and what is read from it is what it defines
(`Theme.isDefinedBy_of_ofEntries`). A name finds what the last entry that names it
defines, letter case aside; if there is none, what the last entry that names the default
defines; and if there is none of these either, the standard theme
(`Settings.theme_lastDefinition`). A highlight is checked when it is read, so the style
of a theme that is found can always be read.
-/

namespace Winnow

open Yaml (Value Scalar Entries)

/-! ## Fields -/

/-- A field is absent and has its default, or it is read from the value that is there. -/
theorem Reading.field_eq_ok_iff {α : Type} {entries : Entries} {name : String}
    {read : Field.Reader α} {default result : α} :
    field entries name read default = .ok result ↔
      (entries.getText? name = none ∧ result = default) ∨
        ∃ value, entries.getText? name = some value ∧ read value = .ok result := by
  cases found : entries.getText? name with
  | none => simp [field, found, eq_comm]
  | some value => simp [field_of_getText? found, ofMisfit, mapError_eq_ok_iff]

/-- The text of a style that is read is a style. -/
theorem Field.parse_of_styleText {value : Value} {spec : Text}
    (reads : Field.styleText value = .ok spec) : ∃ style, Style.parse spec = .ok style := by
  rw [Field.styleText] at reads
  split at reads
  · cases reads
  · split at reads
    · next parsed =>
        cases reads
        exact ⟨_, parsed⟩
    · cases reads

/-- A field holds a text: its default where nothing stands there, and otherwise the text that the
value there is or stands for. -/
def Yaml.Entries.Gives (fields : Entries) (name : String) (default text : Text) : Prop :=
  match fields.getText? name with
  | none => text = default
  | some value => Field.textOf? value = some text

/-- What is read as a text is the text of the value. -/
theorem Field.textOf?_of_text {value : Value} {text : Text} (reads : Field.text value = .ok text) :
    Field.textOf? value = some text := by
  rw [Field.text] at reads
  split at reads
  · next found =>
      cases reads
      exact found
  · cases reads

/-- A field with a default that is read gives its text. -/
theorem Yaml.Entries.gives_of_field {fields : Entries} {name : String} {read : Field.Reader Text}
    (isText : ∀ {value text}, read value = .ok text → Field.text value = .ok text)
    {default text : Text} (reads : Reading.field fields name read default = .ok text) :
    fields.Gives name default text := by
  rw [Entries.Gives]
  rcases Reading.field_eq_ok_iff.mp reads with ⟨absent, same⟩ | ⟨value, there, reads⟩
  · rw [absent]
    exact same
  · rw [there]
    exact Field.textOf?_of_text (isText reads)

/-- A field holds one text. -/
theorem Yaml.Entries.Gives.unique {fields : Entries} {name : String} {default text other : Text}
    (gives : fields.Gives name default text) (also : fields.Gives name default other) :
    text = other := by
  rw [Entries.Gives] at gives also
  cases found : fields.getText? name with
  | none =>
      rw [found] at gives also
      exact gives.trans also.symm
  | some value =>
      rw [found] at gives also
      exact Option.some.inj (gives.symm.trans also)

/-! ## Entries that define themes -/

namespace Theme

/-- A theme is what an entry of the section defines. Its name is the key as it is spelled there; a
text is its highlight, and a mapping holds its fields. -/
inductive IsDefinedBy : Theme → Scalar × Value → Prop
  | shorthand (spelling highlight : Text) :
      IsDefinedBy ⟨spelling, highlight, "reverse".toList⟩
        (.text spelling, .scalar (.text highlight))
  | mapping {theme : Theme} {fields : Entries}
      (highlight : fields.Gives "highlight" "bold underline".toList theme.highlight)
      (selected : fields.Gives "selected" "reverse".toList theme.selected) :
      IsDefinedBy theme (.text theme.name, .map fields)

/-- An entry names a theme: its key is the name, letter case aside, and its value is a mapping or a
text. -/
structure Names (name : Text) (entry : Scalar × Value) : Prop where
  spelled : ∃ spelling, entry.1 = .text spelling ∧ spelling.lower = name.lower
  defined : (∃ fields, entry.2 = .map fields) ∨ ∃ highlight, entry.2 = .scalar (.text highlight)

/-- An entry is the last one of a section that names a theme. -/
structure IsLastNamed (themes : Entries) (name : Text) (entry : Scalar × Value) : Prop where
  names : Names name entry
  last : ∃ before after, themes.toList = before ++ entry :: after ∧
    ∀ other ∈ after, ¬Names name other

/-- A value is read as a theme if it is a mapping or a text. -/
theorem isTheme_iff {value : Value} :
    value.isTheme = true ↔
      (∃ fields, value = .map fields) ∨ ∃ highlight, value = .scalar (.text highlight) := by
  match value with
  | .map fields => simp [Value.isTheme, entriesOf?]
  | .scalar scalar => cases scalar <;> simp [Value.isTheme, entriesOf?]
  | .list items => simp [Value.isTheme, entriesOf?]
  | .pair => simp [Value.isTheme, entriesOf?]
  | .set isEmpty => simp [Value.isTheme, entriesOf?]

/-- Which entries name a theme can be computed. -/
theorem isNamed_iff {name : Text} {entry : Scalar × Value} :
    isNamed name entry = true ↔ Names name entry := by
  rw [isNamed, Bool.and_eq_true, isTheme_iff]
  constructor
  · rintro ⟨spells, defined⟩
    obtain ⟨spelling, same⟩ := Scalar.exists_text_of_spells spells
    rw [same] at spells
    exact ⟨⟨spelling, same, beq_iff_eq.mp spells⟩, defined⟩
  · rintro ⟨⟨spelling, same, lower⟩, defined⟩
    rw [same]
    exact ⟨beq_iff_eq.mpr lower, defined⟩

/-- What is read from an entry under a text is what the entry defines. -/
theorem isDefinedBy_of_ofEntries {spelling : Text} {value : Value} {fields : Entries} {theme : Theme}
    (isTheme : entriesOf? value = some fields)
    (reads : ofEntries (.text spelling) fields = .ok theme) :
    theme.IsDefinedBy (.text spelling, value) := by
  obtain ⟨named, highlighted, chosen⟩ := Theme.ofEntries_eq_ok_iff.mp reads
  have highlight : fields.Gives "highlight" "bold underline".toList theme.highlight :=
    Entries.gives_of_field Field.text_of_styleText highlighted
  have selected : fields.Gives "selected" "reverse".toList theme.selected :=
    Entries.gives_of_field id chosen
  obtain rfl : spelling = theme.name := Except.ok.inj named
  rcases isTheme_iff.mp (Option.isSome_of_eq_some isTheme) with ⟨body, rfl⟩ | ⟨spec, rfl⟩
  · obtain rfl := Option.some.inj isTheme
    exact .mapping highlight selected
  · obtain rfl := Option.some.inj isTheme
    obtain ⟨name, styled, row⟩ := theme
    obtain rfl : spec = styled := Option.some.inj highlight
    obtain rfl : row = "reverse".toList := selected
    exact .shorthand _ _

/-- The style of a theme that is read can be read. -/
theorem exists_style_of_ofEntries {key : Scalar} {fields : Entries} {theme : Theme}
    (reads : ofEntries key fields = .ok theme) : ∃ style, theme.style = .ok style := by
  obtain ⟨-, highlighted, -⟩ := Theme.ofEntries_eq_ok_iff.mp reads
  rcases Reading.field_eq_ok_iff.mp highlighted with ⟨-, same⟩ | ⟨value, -, reads⟩
  · rw [style, same]
    exact ⟨.standard, rfl⟩
  · exact Field.parse_of_styleText reads

/-- The last entry that names a theme is the last one of those that do. -/
theorem isLastNamed_iff {themes : Entries} {name : Text} {entry : Scalar × Value} :
    IsLastNamed themes name entry ↔
      (themes.toList.filter (isNamed name)).getLast? = some entry := by
  constructor
  · rintro ⟨names, before, after, whole, last⟩
    have none : after.filter (isNamed name) = [] :=
      List.filter_eq_nil_iff.mpr fun other member named => last other member (isNamed_iff.mp named)
    rw [whole, List.filter_append, List.filter_cons_of_pos (isNamed_iff.mpr names), none,
      List.getLast?_concat]
  · intro ends
    obtain ⟨others, shape⟩ := List.getLast?_eq_some_iff.mp ends
    obtain ⟨front, rest, whole, -, alone⟩ := List.filter_eq_append_iff.mp shape
    obtain ⟨between, after, rfl, -, named, none⟩ := List.filter_eq_cons_iff.mp alone
    refine ⟨isNamed_iff.mp named, front ++ between, after, ?_, fun other member names => ?_⟩
    · rw [whole, List.append_assoc]
    · exact List.filter_eq_nil_iff.mp none other member (isNamed_iff.mpr names)

/-- There is one last entry that names a theme. -/
theorem IsLastNamed.unique {themes : Entries} {name : Text} {entry other : Scalar × Value}
    (last : IsLastNamed themes name entry) (also : IsLastNamed themes name other) :
    entry = other :=
  Option.some.inj ((isLastNamed_iff.mp last).symm.trans (isLastNamed_iff.mp also))

/-- The last entry that names a theme is one that does. -/
theorem IsLastNamed.not_forall_not {themes : Entries} {name : Text} {entry : Scalar × Value}
    (last : IsLastNamed themes name entry) :
    ¬∀ other ∈ themes.toList, ¬Names name other := by
  obtain ⟨names, before, after, whole, -⟩ := last
  intro none
  refine none entry ?_ names
  rw [whole]
  exact List.mem_append_right _ List.mem_cons_self

/-- An entry defines one theme. -/
theorem IsDefinedBy.unique {theme other : Theme} {entry : Scalar × Value}
    (defined : theme.IsDefinedBy entry) (also : other.IsDefinedBy entry) : theme = other := by
  cases defined with
  | shorthand spelling highlight =>
      cases also
      rfl
  | mapping highlight selected =>
      generalize named : theme.name = name at also
      cases also with
      | mapping alsoHighlight alsoSelected =>
          obtain ⟨name, styled, row⟩ := theme
          obtain ⟨other, alsoStyled, alsoRow⟩ := other
          obtain rfl := named
          obtain rfl := highlight.unique alsoHighlight
          obtain rfl := selected.unique alsoSelected
          rfl

end Theme

/-! ## Settings -/

section

variable {themes : Entries} {read : List (Text × Theme)}

/-- Of the themes that are read from a section, a name finds what the last entry that names it
defines. -/
theorem lookup_lastNamed (texts : allTextKeys themes = true)
    (loaded : themesOf (.map themes) = .ok read) (name : Text) :
    ((∀ entry ∈ themes.toList, ¬Theme.Names name entry) ∧ read.lookup name.lower = none) ∨
      ∃ entry theme, Theme.IsLastNamed themes name entry ∧ theme.IsDefinedBy entry ∧
        (∃ style, theme.style = .ok style) ∧ read.lookup name.lower = some theme := by
  have textual := exists_text_of_allTextKeys texts
  rcases lookup_themesOf texts loaded name with
    ⟨none, absent⟩ | ⟨entry, fields, theme, ends, isTheme, reads, found⟩
  · exact .inl ⟨fun entry member names =>
      List.filter_eq_nil_iff.mp none entry member (Theme.isNamed_iff.mpr names), absent⟩
  · obtain ⟨spelling, same⟩ := textual entry (List.mem_filter.mp (List.mem_of_getLast? ends)).1
    obtain ⟨key, value⟩ := entry
    obtain rfl : key = .text spelling := same
    exact .inr ⟨_, theme, Theme.isLastNamed_iff.mpr ends,
      Theme.isDefinedBy_of_ofEntries isTheme reads, Theme.exists_style_of_ofEntries reads, found⟩

end

namespace Settings

variable {entries : Entries} {settings : Settings}

/-- The themes of settings are read from their section, which is empty where it is absent or
null. -/
theorem themesOf_inner (loaded : ofEntries entries = .ok settings) :
    themesOf (.map (entries.inner (.text "themes".toList))) = .ok settings.themes := by
  rw [Entries.inner]
  cases there : entries.get? (.text "themes".toList) with
  | none =>
      have reading := themesReading_of_ofEntries loaded
      rw [themesReading, Entries.getText?, there] at reading
      rw [← Except.ok.inj (Except.ok.inj reading)]
      rfl
  | some value =>
      have reads := themesOf_of_ofEntries loaded there
      cases value with
      | map themes => exact reads
      | scalar scalar =>
          cases scalar with
          | null =>
              rw [← Except.ok.inj reads]
              rfl
          | _ => cases reads
      | _ => cases reads

/-- The theme that is asked for is looked up, unless the name is empty. -/
theorem themeNamed?_eq (settings : Settings) (name : Option Text) :
    settings.themeNamed? name
      = if name.getD [] = [] then none else settings.themes.lookup (name.getD []).lower := by
  match name with
  | none => rfl
  | some [] => rfl
  | some (char :: rest) => rfl

end Settings

/-- A theme is found in a section: what the last entry that names it defines, or else what the last
entry that names the default defines, or else the standard theme. An empty name names nothing. -/
inductive Yaml.Entries.FindsTheme (themes : Entries) (name : Text) : Theme → Prop
  | named {theme : Theme} {entry : Scalar × Value} (filled : name ≠ [])
      (last : Theme.IsLastNamed themes name entry) (defined : theme.IsDefinedBy entry) :
      FindsTheme themes name theme
  | default {theme : Theme} {entry : Scalar × Value}
      (missed : name = [] ∨ ∀ entry ∈ themes.toList, ¬Theme.Names name entry)
      (last : Theme.IsLastNamed themes "default".toList entry) (defined : theme.IsDefinedBy entry) :
      FindsTheme themes name theme
  | standard (missed : name = [] ∨ ∀ entry ∈ themes.toList, ¬Theme.Names name entry)
      (none : ∀ entry ∈ themes.toList, ¬Theme.Names "default".toList entry) :
      FindsTheme themes name ⟨"default".toList, "bold underline".toList, "reverse".toList⟩

/-- A name finds one theme in a section. -/
theorem Yaml.Entries.FindsTheme.unique {themes : Entries} {name : Text} {theme other : Theme}
    (found : themes.FindsTheme name theme) (also : themes.FindsTheme name other) :
    theme = other := by
  have kept : ∀ {entry}, name ≠ [] → Theme.IsLastNamed themes name entry →
      ¬(name = [] ∨ ∀ entry ∈ themes.toList, ¬Theme.Names name entry) :=
    fun filled last missed => missed.elim filled last.not_forall_not
  cases found with
  | named filled last defined =>
      cases also with
      | named _ alsoLast alsoDefined => exact defined.unique (last.unique alsoLast ▸ alsoDefined)
      | default missed => exact absurd missed (kept filled last)
      | standard missed => exact absurd missed (kept filled last)
  | default missed last defined =>
      cases also with
      | named filled alsoLast => exact absurd missed (kept filled alsoLast)
      | default _ alsoLast alsoDefined => exact defined.unique (last.unique alsoLast ▸ alsoDefined)
      | standard _ none => exact absurd none last.not_forall_not
  | standard missed none =>
      cases also with
      | named filled alsoLast => exact absurd missed (kept filled alsoLast)
      | default _ alsoLast => exact absurd none alsoLast.not_forall_not
      | standard => rfl

namespace Settings

variable {entries : Entries} {settings : Settings}

/-- A theme is found in the section of the settings, and its style can be read. -/
theorem theme_found (loaded : ofEntries entries = .ok settings)
    (texts : allTextKeys (entries.inner (.text "themes".toList)) = true) (name : Option Text) :
    (entries.inner (.text "themes".toList)).FindsTheme (name.getD []) (settings.theme name) ∧
      ∃ style, (settings.theme name).style = .ok style := by
  have read := themesOf_inner loaded
  have lower : Theme.defaultName.lower = Theme.defaultName := by decide
  have default := lookup_lastNamed texts read Theme.defaultName
  rw [lower] at default
  have named := settings.themeNamed?_eq name
  generalize entries.inner (.text "themes".toList) = themes at texts read default ⊢
  have otherwise : settings.themeNamed? name = none →
      (name.getD [] = [] ∨ ∀ entry ∈ themes.toList, ¬Theme.Names (name.getD []) entry) →
      themes.FindsTheme (name.getD []) (settings.theme name) ∧
        ∃ style, (settings.theme name).style = .ok style := by
    intro missing missed
    rcases default with ⟨none, absent⟩ | ⟨entry, theme, last, defined, readable, there⟩
    · have standard : settings.theme name = .standard := by
        rw [Settings.theme, missing, absent]
      rw [standard]
      exact ⟨.standard missed none, .standard, rfl⟩
    · have found : settings.theme name = theme := by
        rw [Settings.theme, missing, there]
      rw [found]
      exact ⟨.default missed last defined, readable⟩
  by_cases empty : name.getD [] = []
  · exact otherwise (named.trans (if_pos empty)) (.inl empty)
  · rw [if_neg empty] at named
    rcases lookup_lastNamed texts read (name.getD []) with
      ⟨none, absent⟩ | ⟨entry, theme, last, defined, readable, there⟩
    · exact otherwise (named.trans absent) (.inr none)
    · have found : settings.theme name = theme := by
        rw [Settings.theme, named, there]
      rw [found]
      exact ⟨.named empty last defined, readable⟩

/-- In settings that are read from a mapping whose themes have texts for keys, a name finds the last
definition of its theme, letter case aside, or else that of the default theme, or else the standard
theme, and nothing else. The style of what is found can be read. -/
theorem theme_lastDefinition (loaded : ofEntries entries = .ok settings)
    (texts : allTextKeys (entries.inner (.text "themes".toList)) = true) (name : Option Text)
    (theme : Theme) :
    (theme = settings.theme name ↔
        (entries.inner (.text "themes".toList)).FindsTheme (name.getD []) theme) ∧
      ∃ style, (settings.theme name).style = .ok style := by
  obtain ⟨found, readable⟩ := theme_found loaded texts name
  refine ⟨⟨?_, fun also => also.unique found⟩, readable⟩
  rintro rfl
  exact found

/-- A theme that is written in three spellings, of which the last one is none. -/
def respelledThemes : Entries := .ofList [
  (.text "Dark".toList, .scalar (.text "bold".toList)),
  (.text "DARK".toList,
    .map (.ofList [(.text "highlight".toList, .scalar (.text "italic #fff".toList))])),
  (.text "dark".toList, .scalar (.int 3))]

/-- Settings that hold these themes and nothing else. -/
def respelledSettings : Entries := .ofList [(.text "themes".toList, .map respelledThemes)]

/-- Of three spellings the second one is found, as the third one is no theme; where no theme is
asked for, and none is called default, the standard theme is found. -/
theorem theme_lastDefinition_respelled :
    allTextKeys (respelledSettings.inner (.text "themes".toList)) = true ∧
      ∃ settings, ofEntries respelledSettings = .ok settings ∧
        settings.theme (some "dArk".toList)
          = ⟨"DARK".toList, "italic #fff".toList, "reverse".toList⟩ ∧
        settings.theme none = .standard := by
  have texts : allTextKeys (respelledSettings.inner (.text "themes".toList)) = true := by decide
  have inside : respelledSettings.inner (.text "themes".toList) = respelledThemes := by rfl
  have reads : (ofEntries respelledSettings).isOk = true := by decide +kernel
  refine ⟨texts, ?_⟩
  cases loaded : ofEntries respelledSettings with
  | error problem =>
      rw [loaded] at reads
      cases reads
  | ok settings =>
      have found := theme_lastDefinition loaded texts
      rw [inside] at found
      have noTheme : ∀ name, ¬Theme.Names name (.text "dark".toList, .scalar (.int 3)) := by
        rintro name ⟨-, ⟨_, ⟨⟩⟩ | ⟨_, ⟨⟩⟩⟩
      have last : Theme.IsLastNamed respelledThemes "dArk".toList (.text "DARK".toList,
          .map (.ofList [(.text "highlight".toList, .scalar (.text "italic #fff".toList))])) :=
        ⟨⟨⟨_, rfl, by decide⟩, .inl ⟨_, rfl⟩⟩, [_], [_], rfl,
          List.forall_mem_singleton.mpr (noTheme _)⟩
      have defined : Theme.IsDefinedBy ⟨"DARK".toList, "italic #fff".toList, "reverse".toList⟩
          (.text "DARK".toList,
            .map (.ofList [(.text "highlight".toList, .scalar (.text "italic #fff".toList))])) :=
        .mapping rfl rfl
      have others : respelledThemes.toList.all (!Theme.isNamed "default".toList ·) = true := by
        decide
      have noDefault : ∀ entry ∈ respelledThemes.toList, ¬Theme.Names "default".toList entry := by
        intro entry member names
        have apart := List.all_eq_true.mp others entry member
        rw [Theme.isNamed_iff.mpr names] at apart
        cases apart
      refine ⟨settings, rfl, ?_, ?_⟩
      · exact ((found (some "dArk".toList) _).1.mpr (.named (by decide) last defined)).symm
      · exact ((found none _).1.mpr (.standard (.inl rfl) noDefault)).symm

end Settings

end Winnow
