import Winnow.Proofs.Settings.Layering
import Winnow.Proofs.Settings.Themes

/-!
# Which layer's theme prevails

Merging tells spellings of a name apart and leaves keys in the place where the lowest
layer has put them, but of all spellings the last one is found
(`HasOneTheme.getLast?_spellings`). So the one theme of a name in the drop-in files
prevails exactly if no other spelling of that name stands behind its own in the layers
below (`theme_dropIn`). It does if it is spelled in a new way, but not always if it is
spelled like one of the themes below.
-/

namespace Winnow

open Yaml (Value Scalar Entries)

/-! ## Parts of a mapping -/

theorem Yaml.Scalar.exists_text_of_spells {key : Scalar} {name : Text}
    (spells : key.spells name = true) : ∃ text, key = .text text := by
  cases key with
  | text text => exact ⟨text, rfl⟩
  | _ => cases spells

namespace Yaml.Entries

/-- The mapping at a key, which is empty if nothing or something else is there. -/
def inner (entries : Entries) (key : Scalar) : Entries :=
  match entries.get? key with
  | some (.map inner) => inner
  | _ => .nil

/-- The entries behind the one with a key. -/
def behind : Entries → Scalar → Entries
  | .nil, _ => .nil
  | .cons key _ rest, wanted => if key = wanted then rest else rest.behind wanted

theorem Distinct.inner {entries : Entries} (distinct : entries.Distinct) (key : Scalar) :
    (entries.inner key).Distinct := by
  rw [Entries.inner]
  split
  · next found => exact distinct.get? found
  · exact distinct_nil

/-- A mapping on top is merged onto the one below it. -/
theorem get?_merge_map {above upper : Entries} (distinct : above.Distinct) {key : Scalar}
    (there : above.get? key = some (.map upper)) (below : Entries) :
    (below.merge above).get? key = some (.map ((below.inner key).merge upper)) := by
  have upperDistinct : upper.Distinct := distinct.get? there
  rw [get?_merge _ distinct, there, Value.onTop, Entries.inner]
  split
  · next found => rw [found]; rfl
  · next noMapping => rw [Value.above_of_noMapping noMapping, nil_merge upperDistinct]

theorem get?_merge_plain {above : Entries} (distinct : above.Distinct) {key : Scalar}
    {value : Value} (there : above.get? key = some value) (plain : value.IsPlain)
    (below : Entries) : (below.merge above).get? key = some value := by
  rw [get?_merge _ distinct, there, Value.onTop, Value.above_of_isPlain plain]

/-- Behind a key that is there stand the keys that follow it. -/
theorem exists_keys_eq {entries : Entries} {key : Scalar} (member : key ∈ entries.keys) :
    ∃ before, entries.keys = before ++ key :: (entries.behind key).keys := by
  induction entries using rowInduction with
  | nil => cases member
  | cons other value rest ih =>
      rw [behind, keys]
      by_cases here : other = key
      · exact ⟨[], by rw [if_pos here, here]; rfl⟩
      · have inside : key ∈ rest.keys := (List.mem_cons.mp member).resolve_left (Ne.symm here)
        obtain ⟨before, same⟩ := ih inside
        exact ⟨other :: before, by rw [if_neg here, same]; rfl⟩

/-- Behind a key that is not there stands nothing. -/
theorem behind_of_notMem {entries : Entries} {key : Scalar} (absent : key ∉ entries.keys) :
    entries.behind key = .nil := by
  induction entries using rowInduction with
  | nil => rfl
  | cons other value rest ih =>
      rw [keys, List.mem_cons, not_or] at absent
      rw [behind, if_neg (Ne.symm absent.1), ih absent.2]

/-- Behind a key stand entries of the mapping, and the key is not that of any of them. -/
theorem Distinct.of_mem_behind {entries : Entries} (distinct : entries.Distinct) {key : Scalar}
    {entry : Scalar × Value} (member : entry ∈ (entries.behind key).toList) :
    entry ∈ entries.toList ∧ entry.1 ≠ key := by
  induction entries using rowInduction with
  | nil => cases member
  | cons other value rest ih =>
      rw [behind] at member
      by_cases here : other = key
      · rw [if_pos here] at member
        have once : other ∉ rest.keys := (List.nodup_cons.mp distinct.nodup_keys).1
        refine ⟨List.mem_cons_of_mem _ member, ?_⟩
        rintro rfl
        rw [here, ← map_fst_toList] at once
        exact once (List.mem_map_of_mem member)
      · rw [if_neg here] at member
        obtain ⟨-, -, later⟩ := distinct
        obtain ⟨inside, apart⟩ := ih later member
        exact ⟨List.mem_cons_of_mem _ inside, apart⟩

theorem Distinct.of_mem_spellings_behind {entries : Entries} (distinct : entries.Distinct)
    {key rival : Scalar} {name : Text} (member : rival ∈ (entries.behind key).spellings name) :
    rival.spells name = true ∧ rival ≠ key := by
  obtain ⟨entry, listed, rfl⟩ := List.mem_map.mp member
  obtain ⟨inside, named⟩ := List.mem_filter.mp listed
  exact ⟨(Bool.and_eq_true_iff.mp named).1, (distinct.of_mem_behind inside).2⟩

/-! ## One spelling on top -/

/-- A section has one spelling of a name, and a mapping stands there. -/
structure HasOneTheme (themes : Entries) (name spelling : Text) (body : Entries) : Prop where
  single : themes.keys.filter (Scalar.spells name) = [.text spelling]
  own : themes.get? (.text spelling) = some (.map body)

variable {below above body : Entries} {name spelling : Text}

theorem HasOneTheme.spells (one : above.HasOneTheme name spelling body) :
    Scalar.spells name (.text spelling) = true := by
  have listed : Scalar.text spelling ∈ above.keys.filter (Scalar.spells name) := by
    rw [one.single]
    exact List.mem_singleton_self _
  exact (List.mem_filter.mp listed).2

theorem HasOneTheme.eq_of_spells (one : above.HasOneTheme name spelling body) {key : Scalar}
    (member : key ∈ above.keys) (spells : key.spells name = true) : key = .text spelling := by
  have listed : key ∈ above.keys.filter (Scalar.spells name) := List.mem_filter.mpr ⟨member, spells⟩
  rwa [one.single, List.mem_singleton] at listed

/-- Other spellings are found as they are below. -/
theorem HasOneTheme.get?_merge_of_ne (one : above.HasOneTheme name spelling body)
    (upper : above.Distinct) (below : Entries) {key : Scalar} (spells : key.spells name = true)
    (apart : key ≠ .text spelling) : (below.merge above).get? key = below.get? key := by
  have absent : above.get? key = none := by
    obtain ⟨text, rfl⟩ := Scalar.exists_text_of_spells spells
    rw [← Option.not_isSome_iff_eq_none, isSome_get?, hasKey_text]
    exact fun member => apart (one.eq_of_spells member spells)
  rw [Entries.get?_merge _ upper, absent]
  rfl

theorem HasOneTheme.hasThemeAt_merge (one : above.HasOneTheme name spelling body)
    (upper : above.Distinct) (below : Entries) :
    (below.merge above).hasThemeAt name (.text spelling) = true := by
  rw [hasThemeAt, one.spells, get?_merge_map upper one.own]
  rfl

/-- Of the new keys on top only that of the theme counts. -/
theorem HasOneTheme.filter_newKeys (one : above.HasOneTheme name spelling body)
    (upper : above.Distinct) (below : Entries) :
    (above.keys.filter fun key => !hasKey below.keys key).filter
        ((below.merge above).hasThemeAt name)
      = [Scalar.text spelling].filter fun key => !hasKey below.keys key := by
  have only : ∀ key ∈ above.keys,
      (below.merge above).hasThemeAt name key = key.spells name := by
    intro key member
    cases spells : key.spells name with
    | false => rw [hasThemeAt, spells, Bool.false_and]
    | true => rw [one.eq_of_spells member spells, one.hasThemeAt_merge upper]
  rw [← one.single, List.filter_comm, List.filter_congr only]

/-- Of the keys behind that of the theme the same ones count as below. -/
theorem HasOneTheme.filter_behind (one : above.HasOneTheme name spelling body)
    (lower : below.Distinct) (upper : above.Distinct) :
    (below.behind (.text spelling)).keys.filter ((below.merge above).hasThemeAt name)
      = (below.behind (.text spelling)).spellings name := by
  have same : ∀ entry ∈ (below.behind (.text spelling)).toList,
      ((below.merge above).hasThemeAt name ∘ Prod.fst) entry = Theme.isNamed name entry := by
    intro entry member
    obtain ⟨inside, apart⟩ := lower.of_mem_behind member
    rw [← lower.hasThemeAt_of_mem name inside, Function.comp_apply, hasThemeAt, hasThemeAt]
    cases spells : entry.1.spells name with
    | false => rfl
    | true => rw [one.get?_merge_of_ne upper below spells apart]
  rw [← map_fst_toList, List.filter_map, List.filter_congr same, spellings]

/-- The spelling on top is the last one unless others stand behind it below. -/
theorem HasOneTheme.getLast?_spellings (one : above.HasOneTheme name spelling body)
    (lower : below.Distinct) (upper : above.Distinct) :
    ((below.merge above).spellings name).getLast?
      = some (((below.behind (.text spelling)).spellings name).getLast?.getD (.text spelling)) := by
  rw [(lower.merge upper).spellings_eq, keys_merge _ upper, joinKeys, List.filter_append,
    one.filter_newKeys upper]
  by_cases known : Scalar.text spelling ∈ below.keys
  · obtain ⟨before, keys⟩ := exists_keys_eq known
    have nothingNew : ([Scalar.text spelling].filter fun key => !hasKey below.keys key) = [] := by
      simp [hasKey_text.mpr known]
    rw [nothingNew, List.append_nil, keys, List.filter_append,
      List.filter_cons_of_pos (one.hasThemeAt_merge upper below), one.filter_behind lower upper,
      List.getLast?_append, List.getLast?_cons]
    rfl
  · have absent : hasKey below.keys (.text spelling) = false :=
      Bool.eq_false_iff.mpr (mt hasKey_text.mp known)
    have newKey : ([Scalar.text spelling].filter fun key => !hasKey below.keys key)
        = [.text spelling] := by
      simp [absent]
    rw [newKey, List.getLast?_concat, behind_of_notMem known]
    rfl

end Yaml.Entries

/-! ## Themes that are loaded -/

/-- The text of a style is the text of its value. -/
theorem Field.text_of_styleText {value : Value} {spec : Text}
    (reads : Field.styleText value = .ok spec) : Field.text value = .ok spec := by
  rw [Field.styleText] at reads
  split at reads
  · cases reads
  · next found text =>
      split at reads
      · rw [text, reads]
      · cases reads

theorem Field.isPlain_of_text {value : Value} {text : Text} (reads : Field.text value = .ok text) :
    value.IsPlain := by
  rintro entries rfl
  cases reads

namespace Theme

variable {theme : Theme} {themes : Entries} {name : Text}

theorem StandsAt.name_eq (stands : theme.StandsAt themes (.text name)) : theme.name = name := by
  obtain ⟨value, entries, -, -, reads⟩ := stands
  obtain ⟨named, -, -⟩ := Theme.ofEntries_eq_ok_iff.mp reads
  exact (Except.ok.inj named).symm

/-- The highlight of a theme is the text that its mapping holds. -/
theorem StandsAt.highlight_eq {key : Scalar} (stands : theme.StandsAt themes key) {body : Entries}
    (found : themes.get? key = some (.map body)) {value : Value}
    (given : body.getText? "highlight" = some value) {highlight : Text}
    (text : Field.text value = .ok highlight) : theme.highlight = highlight := by
  obtain ⟨other, entries, there, isTheme, reads⟩ := stands
  obtain rfl : Value.map body = other := Option.some.inj (found.symm.trans there)
  obtain rfl : body = entries := Option.some.inj isTheme
  obtain ⟨-, styled, -⟩ := Theme.ofEntries_eq_ok_iff.mp reads
  rw [Reading.field_of_getText? given, Reading.ofMisfit, Reading.mapError_eq_ok_iff] at styled
  exact Except.ok.inj ((Field.text_of_styleText styled).symm.trans text)

/-- The theme on top keeps its highlight when it is merged. -/
theorem StandsAt.highlight_of_merge {below above body : Entries} {spelling : Text}
    (one : above.HasOneTheme name spelling body) (upper : above.Distinct)
    (stands : theme.StandsAt (below.merge above) (.text spelling)) {value : Value}
    (given : body.getText? "highlight" = some value) {highlight : Text}
    (text : Field.text value = .ok highlight) : theme.highlight = highlight := by
  have there := Entries.get?_merge_map upper one.own below
  have kept := Entries.get?_merge_plain (upper.get? one.own) given (Field.isPlain_of_text text)
  exact stands.highlight_eq there (kept _) text

/-- A theme under another spelling is that of the section below. -/
theorem StandsAt.of_merge {below above body : Entries} {spelling : Text}
    (one : above.HasOneTheme name spelling body) (upper : above.Distinct) {key : Scalar}
    (stands : theme.StandsAt (below.merge above) key) (spells : key.spells name = true)
    (apart : key ≠ .text spelling) : theme.StandsAt below key := by
  obtain ⟨value, entries, there, isTheme, reads⟩ := stands
  rw [one.get?_merge_of_ne upper below spells apart] at there
  exact ⟨value, entries, there, isTheme, reads⟩

end Theme

/-- Merging mappings whose keys are texts gives no other keys. -/
theorem allTextKeys_merge {below above : Entries} (distinct : above.Distinct)
    (lower : allTextKeys below = true) (upper : allTextKeys above = true) :
    allTextKeys (below.merge above) = true := by
  rw [allTextKeys_iff] at lower upper ⊢
  intro key member
  rw [Entries.keys_merge _ distinct, Entries.joinKeys, List.mem_append] at member
  rcases member with member | member
  · exact lower key member
  · exact upper key (List.mem_of_mem_filter member)

namespace Settings

variable {entries themes : Entries} {settings : Settings}

/-- The themes of settings are read from a section, or there is none, and their bounds from
fields. -/
theorem fields_of_ofEntries (loaded : ofEntries entries = .ok settings) :
    themesReading entries = .ok (.ok settings.themes) ∧
      Reading.field entries "limit" (Field.optional Field.count) none = .ok settings.limit ∧
      Reading.field entries "timeout" (Field.optional Field.seconds) none
        = .ok settings.timeout := by
  rw [ofEntries] at loaded
  split at loaded
  · cases loaded
  · split at loaded
    · cases loaded
    · next reading read =>
        simp only [Reading.mapError_eq_ok_iff, Reading.apply_eq_ok_iff] at loaded
        obtain ⟨_, _, ⟨_, _, ⟨_, _, ⟨_, _, ⟨_, _, ⟨_, _, made, -, rfl⟩, found, rfl⟩,
          -, rfl⟩, -, rfl⟩, limited, rfl⟩, timed, rfl⟩ := loaded
        cases made
        exact ⟨read.trans (congrArg Except.ok found), limited, timed⟩

theorem themesReading_of_ofEntries (loaded : ofEntries entries = .ok settings) :
    themesReading entries = .ok (.ok settings.themes) :=
  (fields_of_ofEntries loaded).1

/-- The themes of settings are those of their section. -/
theorem themesOf_of_ofEntries (loaded : ofEntries entries = .ok settings) {value : Value}
    (there : entries.getText? "themes" = some value) : themesOf value = .ok settings.themes := by
  have read := themesReading_of_ofEntries loaded
  simp only [themesReading, there] at read
  split at read
  · next found same =>
      rw [same, Except.ok.inj (Except.ok.inj read)]
  · cases read
  · cases read

/-- In settings whose themes are those of two merged sections, a name that has one spelling in the
section on top finds the last spelling. -/
theorem theme_standsAt {below above body : Entries} (lower : below.Distinct)
    (upper : above.Distinct) (textsBelow : allTextKeys below = true)
    (textsAbove : allTextKeys above = true)
    (loaded : themesOf (.map (below.merge above)) = .ok settings.themes) {name spelling : Text}
    (filled : name ≠ []) (one : above.HasOneTheme name spelling body) :
    (settings.theme (some name)).StandsAt (below.merge above)
      (((below.behind (.text spelling)).spellings name).getLast?.getD (.text spelling)) := by
  have texts := allTextKeys_merge upper textsBelow textsAbove
  have last := one.getLast?_spellings lower upper
  rcases lookup_spellings (lower.merge upper) texts loaded name with
    ⟨none, -⟩ | ⟨key, theme, ends, stands, listed⟩
  · rw [none] at last
    cases last
  · obtain rfl := Option.some.inj (ends.symm.trans last)
    have named : settings.themeNamed? (some name) = some theme := by
      simp [themeNamed?, filled, listed]
    have found : settings.theme (some name) = theme := by rw [Settings.theme, named]
    rwa [found]

end Settings

namespace SettingsSource

theorem load_of_mergeAll {source : SettingsSource} {tree : FileTree} {base dropIns : Entries}
    (lower : Layer.mergeAll Builtin.settings (source.mainLayer tree) = .ok base)
    (upper : Layer.mergeAll .nil (source.dropInLayers tree) = .ok dropIns) :
    source.load tree = (Settings.ofEntries (base.merge dropIns)).mapError .unfit := by
  rw [load, merged_eq, lower, upper]
  rfl

/-- Where the drop-in files have one theme of a name and give it a highlight, that theme is found
exactly if no other spelling of the name stands behind its own in the layers below, and then with
this highlight. Otherwise the last such spelling is found, with what the layers below hold there. -/
theorem theme_dropIn {source : SettingsSource} {tree : FileTree} {settings : Settings}
    (loaded : source.load tree = .ok settings) {base dropIns above body : Entries}
    (lower : Layer.mergeAll Builtin.settings (source.mainLayer tree) = .ok base)
    (upper : Layer.mergeAll .nil (source.dropInLayers tree) = .ok dropIns)
    (themes : dropIns.getText? "themes" = some (.map above))
    (textsBelow : allTextKeys (base.inner (.text "themes".toList)) = true)
    (textsAbove : allTextKeys above = true) {name spelling : Text} (filled : name ≠ [])
    (one : above.HasOneTheme name spelling body) {value : Value}
    (given : body.getText? "highlight" = some value) {highlight : Text}
    (text : Field.text value = .ok highlight) :
    let below := base.inner (.text "themes".toList)
    let rivals := (below.behind (.text spelling)).spellings name
    let found := settings.theme (some name)
    (found.name = spelling ↔ rivals = []) ∧ (rivals = [] → found.highlight = highlight) ∧
      ∀ rival, rivals.getLast? = some rival → found.StandsAt below rival := by
  intro below rivals found
  have belowDistinct : below.Distinct := (source.base_distinct tree lower).inner _
  have dropInsDistinct : dropIns.Distinct := source.dropIns_distinct tree upper
  have aboveDistinct : above.Distinct := dropInsDistinct.get? themes
  have read : Settings.ofEntries (base.merge dropIns) = .ok settings := by
    rw [load_of_mergeAll lower upper] at loaded
    exact Reading.mapError_eq_ok_iff.mp loaded
  have themesLoaded : themesOf (.map (below.merge above)) = .ok settings.themes :=
    Settings.themesOf_of_ofEntries read (Entries.get?_merge_map dropInsDistinct themes base)
  have stands : found.StandsAt (below.merge above) (rivals.getLast?.getD (.text spelling)) :=
    Settings.theme_standsAt belowDistinct aboveDistinct textsBelow textsAbove themesLoaded filled
      one
  cases behind : rivals.getLast? with
  | none =>
      have alone : rivals = [] := List.getLast?_eq_none_iff.mp behind
      rw [behind] at stands
      refine ⟨iff_of_true stands.name_eq alone, fun _ => ?_, nofun⟩
      exact stands.highlight_of_merge one aboveDistinct given text
  | some rival =>
      have member : rival ∈ rivals := List.mem_of_getLast? behind
      obtain ⟨spells, apart⟩ := belowDistinct.of_mem_spellings_behind member
      obtain ⟨other, rfl⟩ := Scalar.exists_text_of_spells spells
      rw [behind] at stands
      have elsewhere : found.name ≠ spelling := by
        rintro rfl
        exact apart (congrArg Scalar.text stands.name_eq.symm)
      have crowded : rivals ≠ [] := List.ne_nil_of_mem member
      refine ⟨iff_of_false elsewhere crowded, fun alone => absurd alone crowded, ?_⟩
      rintro _ ⟨⟩
      exact stands.of_merge one aboveDistinct spells apart

/-- A section with one theme that is given a highlight. -/
def oneTheme (spelling highlight : String) : Entries :=
  let body := Entries.ofList [(.text "highlight".toList, .scalar (.text highlight.toList))]
  .ofList [(.text spelling.toList, .map body)]

/-- Settings that hold themes and nothing else. -/
def themesOnly (themes : Entries) : Entries := .ofList [(.text "themes".toList, .map themes)]

/-- A main file with an italic theme and a drop-in file with an underlined one. -/
def styledTwice (lower upper : String) : FileTree where
  files :=
    [(.ofText "cfg/config.yaml".toList, Utf8.encode
        ("themes:\n  ".toList ++ lower.toList ++ ":\n    highlight: italic\n".toList)),
      (.ofText "cfg/conf.d/10-mine.yaml".toList, Utf8.encode
        ("themes:\n  ".toList ++ upper.toList ++ ":\n    highlight: underline\n".toList))]
  folders := []

/-- A drop-in theme that is spelled like no theme below it prevails. -/
theorem theme_dropIn_respelled :
    let source := inside (.ofText "cfg".toList)
    let tree := styledTwice "DEFAULT" "Default"
    ∃ settings, source.load tree = .ok settings ∧
      (settings.theme (some "default".toList)).name = "Default".toList ∧
      (settings.theme (some "default".toList)).highlight = "underline".toList := by
  intro source tree
  have lower : Layer.mergeAll Builtin.settings (source.mainLayer tree)
      = .ok (Builtin.settings.merge (themesOnly (oneTheme "DEFAULT" "italic"))) := by
    decide +kernel
  have upper : Layer.mergeAll .nil (source.dropInLayers tree)
      = .ok (themesOnly (oneTheme "Default" "underline")) := by
    decide +kernel
  have one : (oneTheme "Default" "underline").HasOneTheme "default".toList "Default".toList
      (.ofList [(.text "highlight".toList, .scalar (.text "underline".toList))]) :=
    ⟨by decide +kernel, by decide +kernel⟩
  have reads : (source.load tree).isOk = true := by
    rw [load_of_mergeAll lower upper]
    decide +kernel
  cases loaded : source.load tree with
  | error problem =>
      rw [loaded] at reads
      cases reads
  | ok settings =>
      obtain ⟨named, styled, -⟩ := theme_dropIn loaded lower upper rfl (by decide +kernel)
        (by decide +kernel) (by decide) one rfl rfl
      exact ⟨settings, rfl, named.mpr (by decide +kernel), styled (by decide +kernel)⟩

/-- A drop-in theme that is spelled like a built-in one, with another spelling of it in the main
file, does not prevail. -/
theorem theme_dropIn_outranked :
    let source := inside (.ofText "cfg".toList)
    let tree := styledTwice "DEFAULT" "default"
    Layer.mergeAll Builtin.settings (source.mainLayer tree)
        = .ok (Builtin.settings.merge (themesOnly (oneTheme "DEFAULT" "italic"))) ∧
      Layer.mergeAll .nil (source.dropInLayers tree)
        = .ok (themesOnly (oneTheme "default" "underline")) ∧
      (oneTheme "default" "underline").HasOneTheme "default".toList "default".toList
        (.ofList [(.text "highlight".toList, .scalar (.text "underline".toList))]) ∧
      (source.load tree).map (fun settings => (settings.theme (some "default".toList)).highlight)
        = .ok "italic".toList := by
  intro source tree
  have lower : Layer.mergeAll Builtin.settings (source.mainLayer tree)
      = .ok (Builtin.settings.merge (themesOnly (oneTheme "DEFAULT" "italic"))) := by
    decide +kernel
  have upper : Layer.mergeAll .nil (source.dropInLayers tree)
      = .ok (themesOnly (oneTheme "default" "underline")) := by
    decide +kernel
  refine ⟨lower, upper, ⟨by decide +kernel, by decide +kernel⟩, ?_⟩
  rw [load_of_mergeAll lower upper]
  decide +kernel

end SettingsSource

end Winnow
