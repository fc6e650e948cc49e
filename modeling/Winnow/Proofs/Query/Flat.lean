import Winnow.Query.Pattern
import Winnow.Proofs.Regex.CaseRule
import Winnow.Proofs.Regex.Matching
import Winnow.Proofs.Regex.Reading

/-!
# Flat patterns

A flat pattern is a row of escaped characters, dots and dots with a star; the
sources of literal and glob tokens are flat. It is read item by item
(`parse_flatSource`), since no item can be mistaken for a quantifier of the one
before it, and it is compiled into the paths of its items one behind the other
(`means_flat`). So it always compiles, without groups, and it matches a text
exactly if the path leads past some part of it (`compile_flat`).
-/

namespace Winnow

open Regex

/-! ## Paths of single tests -/

theorem literal_path_iff {rule : CaseRule} {char : Char} {before after : Text} :
    (CharTest.literal rule false char.toNat).path before after ↔
      ∃ found, before = found :: after ∧ rule.Corresponds char found := by
  simp [CharTest.path, accepts_literal_iff]

theorem notLineFeed_path_iff {before after : Text} :
    CharTest.notLineFeed.path before after ↔ ∃ found, before = found :: after ∧ found ≠ '\n' := by
  simp [CharTest.path, accepts_notLineFeed_iff]

/-- The path of a run of any characters leads past everything but line feeds. -/
theorem notLineFeed_runPath_iff {before after : Text} :
    CharTest.notLineFeed.runPath before after ↔ ∃ gap, before = gap ++ after ∧ '\n' ∉ gap := by
  have free : ∀ gap : Text, (∀ found ∈ gap, CharTest.notLineFeed.accepts found = true) ↔
      '\n' ∉ gap := by
    intro gap
    simp only [accepts_notLineFeed_iff]
    constructor
    · intro others member
      exact others _ member rfl
    · rintro absent found member rfl
      exact absent member
  simp [CharTest.runPath, free]

/-! ## Items -/

/-- An item of a flat pattern: a character that stands for itself, any one character, or a run of
any characters. -/
inductive FlatItem
  | literal (char : Char)
  | one
  | run

namespace FlatItem

/-- How an item is written. -/
def source : FlatItem → Text
  | literal char => escapeChar char
  | one => ['.']
  | run => ['.', '*']

/-- The glyphs of an item. -/
def glyphs : FlatItem → List Glyph
  | literal char => [.ofChar char]
  | one => [.plain '.']
  | run => [.plain '.', .plain '*']

/-- What an item is read as. -/
def expr : FlatItem → Expr
  | literal char => .literal char.toNat
  | one => .any
  | run => .repetition .greedy 0 none .any

/-- What an item is compiled into. -/
def node (rule : CaseRule) : FlatItem → Node
  | literal char => .char (.literal rule false char.toNat)
  | one => .char .notLineFeed
  | run => .repetition .greedy 0 none (.char .notLineFeed)

/-- The path of an item. -/
def path (rule : CaseRule) : FlatItem → Text → Text → Prop
  | literal char => (CharTest.literal rule false char.toNat).path
  | one => CharTest.notLineFeed.path
  | run => CharTest.notLineFeed.runPath

/-- An item is read glyph by glyph. -/
theorem ofText_source (item : FlatItem) (rest : Text) :
    Glyph.ofText (item.source ++ rest) = item.glyphs ++ Glyph.ofText rest := by
  cases item with
  | literal char => exact Glyph.ofText_escapeChar char rest
  | one => exact Glyph.ofText_cons (by decide) rest
  | run =>
      show Glyph.ofText ('.' :: '*' :: rest) = _
      rw [Glyph.ofText_cons (by decide), Glyph.ofText_cons (by decide)]
      rfl

theorem dangling_notMem_glyphs (item : FlatItem) : .dangling ∉ item.glyphs := by
  cases item <;> simp [glyphs, (Glyph.ofChar_ne_dangling _).symm]

end FlatItem

/-- The source of a flat pattern. -/
def flatSource (items : List FlatItem) : Text := items.flatMap FlatItem.source

/-- The glyphs of a flat pattern. -/
def flatGlyphs (items : List FlatItem) : List Glyph := items.flatMap FlatItem.glyphs

/-- The path of a flat pattern: its items lead on one behind the other. -/
def flatPath (rule : CaseRule) : List FlatItem → Text → Text → Prop
  | [] => (· = ·)
  | item :: items => followedBy (item.path rule) (flatPath rule items)

/-! ## Reading -/

/-- A flat source is read glyph by glyph. -/
theorem ofText_flatSource (items : List FlatItem) :
    Glyph.ofText (flatSource items) = flatGlyphs items := by
  induction items with
  | nil => rfl
  | cons item items ih =>
      rw [flatSource, List.flatMap_cons, FlatItem.ofText_source, ← flatSource, ih]
      rfl

theorem dangling_notMem_flatGlyphs (items : List FlatItem) : .dangling ∉ flatGlyphs items := by
  intro member
  obtain ⟨item, -, inside⟩ := List.mem_flatMap.mp member
  exact item.dangling_notMem_glyphs inside

/-- A flat pattern does not begin with a mark that belongs to a star before it. -/
theorem head?_flatGlyphs_ne {mark : Char} (member : mark ∈ special) (other : mark ≠ '.')
    (items : List FlatItem) : (flatGlyphs items).head? ≠ some (.plain mark) := by
  cases items with
  | nil => simp [flatGlyphs]
  | cons item items =>
      cases item with
      | literal char => simpa [flatGlyphs, FlatItem.glyphs] using Glyph.ofChar_ne_plain member
      | one => simpa [flatGlyphs, FlatItem.glyphs] using other.symm
      | run => simpa [flatGlyphs, FlatItem.glyphs] using other.symm

/-- One item of a flat pattern is read. -/
theorem sequence_flatItem (item : FlatItem) (items : List FlatItem) {state : ReaderState}
    (first : Bool) (pieces : List Piece) (fuel : Nat)
    (here : state.glyphs = item.glyphs ++ flatGlyphs items) :
    ∃ later, state.Past later (flatGlyphs items) 0 ∧
      sequence false first pieces (fuel + item.glyphs.length) state
        = sequence false first (.single item.expr :: pieces) fuel later := by
  have whole := dangling_notMem_flatGlyphs items
  cases item with
  | literal char =>
      refine ⟨_, ?_, sequence_char first pieces fuel here whole⟩
      exact ⟨rfl, rfl, rfl, rfl, rfl⟩
  | one =>
      refine ⟨_, ?_, sequence_dot first pieces fuel here whole⟩
      exact ⟨rfl, rfl, rfl, rfl, rfl⟩
  | run =>
      have starWhole : .dangling ∉ .plain '*' :: flatGlyphs items := by simp [whole]
      have noQuestion : (flatGlyphs items).head? ≠ some (.plain '?') :=
        head?_flatGlyphs_ne (by decide) (by decide) items
      have noPlus : (flatGlyphs items).head? ≠ some (.plain '+') :=
        head?_flatGlyphs_ne (by decide) (by decide) items
      rw [show (FlatItem.run).glyphs.length = 1 + 1 from rfl, ← Nat.add_assoc,
        sequence_dot first pieces (fuel + 1) here starWhole,
        sequence_star first .any pieces fuel (by simp) (by simp) rfl whole noQuestion noPlus]
      refine ⟨_, ?_, rfl⟩
      exact ⟨rfl, rfl, rfl, rfl, rfl⟩

/-- The items of a flat pattern are read one after the other. -/
theorem sequence_flat (items : List FlatItem) {state : ReaderState} (first : Bool)
    (pieces : List Piece) {fuel : Nat} (here : state.glyphs = flatGlyphs items)
    (enough : (flatGlyphs items).length < fuel) :
    ∃ later, state.Past later [] 0 ∧
      sequence false first pieces fuel state
        = .ok (flattenPieces pieces ++ items.map FlatItem.expr, later) := by
  induction items generalizing state pieces fuel with
  | nil =>
      obtain ⟨fuel, rfl⟩ := Nat.exists_eq_add_of_le' (show 1 ≤ fuel by omega)
      refine ⟨state, ⟨here, rfl, rfl, rfl, rfl⟩, ?_⟩
      rw [sequence_end first pieces fuel here, List.map_nil, List.append_nil]
  | cons item items ih =>
      have split : flatGlyphs (item :: items) = item.glyphs ++ flatGlyphs items :=
        List.flatMap_cons
      rw [split] at here enough
      rw [List.length_append] at enough
      obtain ⟨fuel, rfl⟩ := Nat.exists_eq_add_of_le' (show item.glyphs.length ≤ fuel by omega)
      obtain ⟨middle, past, step⟩ := sequence_flatItem item items first pieces fuel here
      obtain ⟨later, behind, done⟩ := ih (.single item.expr :: pieces) past.glyphs
        (show (flatGlyphs items).length < fuel by omega)
      refine ⟨later, past.trans behind, ?_⟩
      rw [step, done]
      simp [flattenPieces]

/-- A flat source is read as the row of its items, without groups. -/
theorem parse_flatSource (items : List FlatItem) {flags : Flags} {room : Nat}
    (plain : flags.verbose = false) (notAscii : flags.ascii = false) :
    ∃ widths, widths.length = 1 ∧
      parse (flatSource items) flags room
        = .ok ⟨.ofSeq (items.map FlatItem.expr), { flags with unicode := true }, widths⟩ := by
  have glyphs := ofText_flatSource items
  have whole : .dangling ∉ Glyph.ofText (flatSource items) := by
    rw [glyphs]
    exact dangling_notMem_flatGlyphs items
  have enough : (flatGlyphs items).length < 4 * (Glyph.ofText (flatSource items)).length + 3 := by
    rw [glyphs]
    omega
  have here : (ReaderState.start (flatSource items) flags room).glyphs = flatGlyphs items := glyphs
  obtain ⟨later, past, read⟩ := sequence_flat items true [] here enough
  exact parse_of_sequence whole plain notAscii read past

/-! ## Meaning -/

section

variable {widths : Expr.GroupWidths} {flags : Flags}

/-- An item is compiled by itself. -/
theorem FlatItem.compile_expr (item : FlatItem) (notTemplate : flags.template = false)
    (notAll : flags.dotAll = false) :
    item.expr.compile widths flags = .ok (item.node flags.caseRule) := by
  cases item with
  | literal char => rfl
  | one =>
      rw [expr, Expr.compile, notAll]
      rfl
  | run =>
      rw [expr, Expr.compile, notTemplate, Expr.compile, notAll]
      rfl

/-- A row of items is compiled item by item. -/
theorem compile_flatItems (notTemplate : flags.template = false) (notAll : flags.dotAll = false)
    (items : List FlatItem) :
    (Expr.ofSeq (items.map FlatItem.expr)).compile widths flags
      = .ok (Node.ofSeq (items.map (FlatItem.node flags.caseRule))) := by
  refine compile_ofSeq ?_
  rw [List.forall₂_map_left_iff, List.forall₂_map_right_iff, List.forall₂_same]
  exact fun item _ => item.compile_expr notTemplate notAll

/-- An item means its path. -/
theorem FlatItem.means_expr (item : FlatItem) (notTemplate : flags.template = false)
    (notAll : flags.dotAll = false) :
    Expr.Means widths flags item.expr (item.path flags.caseRule) := by
  cases item with
  | literal char => exact means_literal char.toNat
  | one =>
      refine ⟨.char .notLineFeed, ?_, fun _ => leads_char _⟩
      rw [FlatItem.expr, Expr.compile, notAll]
      rfl
  | run => exact means_dotStar notTemplate notAll

/-- A row of items means that their paths lead on one behind the other. -/
theorem means_flat (notTemplate : flags.template = false) (notAll : flags.dotAll = false)
    (items : List FlatItem) :
    Expr.Means widths flags (.ofSeq (items.map FlatItem.expr)) (flatPath flags.caseRule items) := by
  induction items with
  | nil => exact means_ofSeq_nil
  | cons item items ih => exact means_ofSeq_cons (item.means_expr notTemplate notAll) ih

end

/-- A row of items does not begin with a set. -/
theorem secondReading?_flat (flags whole : Flags) (items : List FlatItem) :
    ((Expr.ofSeq (items.map FlatItem.expr)).opening flags).secondReading? whole = none := by
  cases items with
  | nil => rfl
  | cons item items =>
      cases items with
      | nil => cases item <;> rfl
      | cons next items => cases item <;> rfl

/-- The flags of a pattern without inline flags. -/
def flagsFor (caseSensitive : Bool) : Flags := { ignoreCase := !caseSensitive, unicode := true }

theorem caseRule_flagsFor (caseSensitive : Bool) :
    (flagsFor caseSensitive).caseRule = ruleFor caseSensitive := by
  cases caseSensitive <;> rfl

/-- The pattern that a flat source is compiled into. -/
def flatPattern (items : List FlatItem) (caseSensitive : Bool) : Pattern where
  source := flatSource items
  program :=
    ⟨Node.ofSeq (items.map (FlatItem.node (ruleFor caseSensitive))), flagsFor caseSensitive, 0⟩
  rejected := none

/-- A source that is read as a row of items compiles into the pattern of that row. -/
theorem ofSource_of_parse {source : Text} {items : List FlatItem} {caseSensitive : Bool}
    {widths : Expr.GroupWidths} {room : Nat} (count : widths.length = 1)
    (read : parse source { ignoreCase := !caseSensitive } room
      = .ok ⟨.ofSeq (items.map FlatItem.expr), flagsFor caseSensitive, widths⟩) :
    Pattern.ofSource source caseSensitive room
      = .ok { flatPattern items caseSensitive with source := source } := by
  have compiled : (Expr.ofSeq (items.map FlatItem.expr)).compile widths (flagsFor caseSensitive)
      = .ok (Node.ofSeq (items.map (FlatItem.node (ruleFor caseSensitive)))) := by
    rw [← caseRule_flagsFor]
    exact compile_flatItems rfl rfl items
  have program := ofSource_ok read compiled (secondReading?_flat _ _ items)
  rw [Pattern.ofSource, program, count]
  rfl

theorem ofSource_flat (items : List FlatItem) (caseSensitive : Bool) {room : Nat} :
    Pattern.ofSource (flatSource items) caseSensitive room
      = .ok (flatPattern items caseSensitive) := by
  let given : Flags := { ignoreCase := !caseSensitive }
  obtain ⟨widths, count, read⟩ := parse_flatSource items (show given.verbose = false from rfl) rfl
  exact ofSource_of_parse count read

/-- A flat pattern leads along its path. -/
theorem leads_flatPattern (items : List FlatItem) (caseSensitive : Bool) (text : Text) :
    Runner.Leads text ((flatPattern items caseSensitive).program.node.run text.toArray)
      (flatPath (ruleFor caseSensitive) items) := by
  have meaning : Expr.Means [] (flagsFor caseSensitive) (.ofSeq (items.map FlatItem.expr))
      (flatPath (flagsFor caseSensitive).caseRule items) := means_flat rfl rfl items
  obtain ⟨node, compiled, leads⟩ := meaning
  obtain rfl := Except.ok.inj (compiled.symm.trans (compile_flatItems rfl rfl items))
  rw [caseRule_flagsFor] at leads
  exact leads text

/-- A flat source always compiles, without groups. If its path leads past the texts with some
meaning, the pattern matches the texts that have a part with that meaning. -/
theorem compile_flat (items : List FlatItem) (caseSensitive : Bool) {room : Nat}
    {means : Text → Prop}
    (leadsPast : ∀ before after, flatPath (ruleFor caseSensitive) items before after ↔
      ∃ middle, before = middle ++ after ∧ means middle) :
    ∃ pattern, Pattern.ofSource (flatSource items) caseSensitive room = .ok pattern ∧
      pattern.groups = 0 ∧
      ∀ text, pattern.occursIn text = true ↔
        ∃ before middle after, text = before ++ middle ++ after ∧ means middle := by
  refine ⟨flatPattern items caseSensitive, ofSource_flat items caseSensitive, rfl, fun text => ?_⟩
  rw [Pattern.occursIn]
  refine (search_isSome_iff (leads_flatPattern items caseSensitive text)).trans ?_
  constructor
  · rintro ⟨before, suffix, after, rfl, passed⟩
    obtain ⟨middle, rfl, satisfied⟩ := (leadsPast suffix after).mp passed
    exact ⟨before, middle, after, (List.append_assoc ..).symm, satisfied⟩
  · rintro ⟨before, middle, after, rfl, satisfied⟩
    exact ⟨before, middle ++ after, after, List.append_assoc ..,
      (leadsPast _ after).mpr ⟨middle, rfl, satisfied⟩⟩

end Winnow
