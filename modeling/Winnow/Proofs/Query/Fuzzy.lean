import Winnow.Proofs.Query.Flat
import Winnow.Proofs.Query.Pieces

/-!
# What fuzzy patterns match

A fuzzy pattern matches where its characters are spelled: one after the other,
with no line feed in what is skipped between two of them (`Spelled`). The
source is read as groups of one character with runs of any characters between
them, which are compiled into exactly that path (`compile_fuzzy`). A fuzzy query
accepts the texts that spell all its pieces (`compile_fuzzyQuery`).
-/

namespace Winnow

open Regex

/-! ## The source -/

/-- A fuzzy source begins with the group of its first character; the group of every further
character stands behind a run of any characters. -/
theorem fuzzySource_cons (char : Char) (chars : Text) :
    fuzzySource (char :: chars)
      = fuzzyGroup char ++ chars.flatMap fun next => '.' :: '*' :: fuzzyGroup next := by
  induction chars generalizing char with
  | nil => simp [fuzzySource, Text.join]
  | cons next chars ih =>
      have step : fuzzySource (char :: next :: chars)
          = fuzzyGroup char ++ ['.', '*'] ++ fuzzySource (next :: chars) := by
        simp [fuzzySource, Text.join, List.intercalate]
      rw [step, ih next, List.flatMap_cons]
      simp

/-- The glyphs of the group of a character. -/
def groupGlyphs (char : Char) : List Glyph := [.plain '(', .ofChar char, .plain ')']

/-- The glyphs of all groups but the first one with the runs before them. -/
def furtherGlyphs (chars : Text) : List Glyph :=
  chars.flatMap fun char => .plain '.' :: .plain '*' :: groupGlyphs char

theorem ofText_fuzzyGroup (char : Char) (rest : Text) :
    Glyph.ofText (fuzzyGroup char ++ rest) = groupGlyphs char ++ Glyph.ofText rest := by
  have text : fuzzyGroup char ++ rest = '(' :: (escapeChar char ++ (')' :: rest)) := by
    simp [fuzzyGroup]
  rw [text, Glyph.ofText_cons (by decide), Glyph.ofText_escapeChar, Glyph.ofText_cons (by decide)]
  rfl

/-- The groups are read one after the other. -/
theorem ofText_further (chars : Text) :
    Glyph.ofText (chars.flatMap fun next => '.' :: '*' :: fuzzyGroup next)
      = furtherGlyphs chars := by
  induction chars with
  | nil => rfl
  | cons char chars ih =>
      rw [List.flatMap_cons, List.cons_append, List.cons_append, Glyph.ofText_cons (by decide),
        Glyph.ofText_cons (by decide), ofText_fuzzyGroup, ih]
      rfl

theorem ofText_fuzzySource (char : Char) (chars : Text) :
    Glyph.ofText (fuzzySource (char :: chars)) = groupGlyphs char ++ furtherGlyphs chars := by
  rw [fuzzySource_cons, ofText_fuzzyGroup, ofText_further]

theorem dangling_notMem_furtherGlyphs (chars : Text) : .dangling ∉ furtherGlyphs chars := by
  intro member
  obtain ⟨char, -, inside⟩ := List.mem_flatMap.mp member
  simp [groupGlyphs, (Glyph.ofChar_ne_dangling char).symm] at inside

/-- Every further group has five glyphs, the run before it included. -/
theorem length_furtherGlyphs (chars : Text) : (furtherGlyphs chars).length = 5 * chars.length := by
  induction chars with
  | nil => rfl
  | cons char chars ih =>
      rw [furtherGlyphs, List.flatMap_cons, ← furtherGlyphs, List.length_append, ih,
        List.length_cons]
      simp only [groupGlyphs, List.length_cons, List.length_nil]
      omega

/-! ## The items -/

/-- The item of a group. -/
def groupItem (group : Nat) (char : Char) : Expr :=
  .group (some group) .none .none (.literal char.toNat)

/-- The item of a run of any characters. -/
def anyRun : Expr := .repetition .greedy 0 none .any

/-- The items of all groups but the first one, numbered from `group` on. -/
def furtherItems (group : Nat) : Text → List Expr
  | [] => []
  | char :: chars => anyRun :: groupItem group char :: furtherItems (group + 1) chars

/-- A group and the run before it are read. -/
theorem sequence_furtherGroup {state : ReaderState} {char : Char} {rest : List Glyph}
    (first : Bool) (pieces : List Piece) (fuel : Nat)
    (space : 0 < state.room)
    (here : state.glyphs = .plain '.' :: .plain '*' :: (groupGlyphs char ++ rest))
    (whole : .dangling ∉ rest) :
    ∃ later, state.Past later rest 1 ∧
      sequence false first pieces (fuel + 7) state
        = sequence false first
            (.single (groupItem state.widths.length char) :: .single anyRun :: pieces)
            (fuel + 4) later := by
  have groupWhole : .dangling ∉ groupGlyphs char ++ rest := by
    simp [groupGlyphs, whole, (Glyph.ofChar_ne_dangling char).symm]
  have starWhole : .dangling ∉ .plain '*' :: (groupGlyphs char ++ rest) := by
    simp [groupWhole]
  rw [sequence_dot first pieces (fuel + 6) here starWhole,
    sequence_star first .any pieces (fuel + 5) (by simp) (by simp) rfl groupWhole
      (by simp [groupGlyphs]) (by simp [groupGlyphs]),
    sequence_group first _ fuel ?_ rfl whole]
  · refine ⟨_, ?_, rfl⟩
    exact ⟨rfl, rfl, rfl, rfl, by simp [ReaderState.behindGroup]⟩
  · exact space

/-- All groups but the first one are read. -/
theorem sequence_further (chars : Text) {state : ReaderState} (first : Bool)
    (pieces : List Piece) {fuel : Nat} (space : 0 < state.room)
    (here : state.glyphs = furtherGlyphs chars)
    (enough : 3 * chars.length + 5 ≤ fuel) :
    ∃ later, state.Past later [] chars.length ∧
      sequence false first pieces fuel state
        = .ok (flattenPieces pieces ++ furtherItems state.widths.length chars, later) := by
  induction chars generalizing state pieces fuel with
  | nil =>
      obtain ⟨fuel, rfl⟩ := Nat.exists_eq_add_of_le' (show 1 ≤ fuel by omega)
      refine ⟨state, ⟨here, rfl, rfl, rfl, rfl⟩, ?_⟩
      rw [sequence_end first pieces fuel here, furtherItems, List.append_nil]
  | cons char chars ih =>
      rw [List.length_cons] at enough
      obtain ⟨fuel, rfl⟩ := Nat.exists_eq_add_of_le' (show 7 ≤ fuel by omega)
      obtain ⟨middle, past, step⟩ := sequence_furtherGroup first pieces fuel space here
        (dangling_notMem_furtherGlyphs chars)
      obtain ⟨later, behind, done⟩ := ih (.single (groupItem state.widths.length char) ::
        .single anyRun :: pieces) (past.room.symm ▸ space) past.glyphs
        (show 3 * chars.length + 5 ≤ fuel + 4 by omega)
      refine ⟨later, ?_, ?_⟩
      · rw [List.length_cons, Nat.add_comm]
        exact past.trans behind
      · rw [step, done, past.widths]
        simp [flattenPieces, furtherItems]

/-- A fuzzy source is read as the items of its groups. -/
theorem parse_fuzzySource (char : Char) (chars : Text) {flags : Flags} {room : Nat}
    (plain : flags.verbose = false) (notAscii : flags.ascii = false) :
    ∃ widths, widths.length = chars.length + 2 ∧
      parse (fuzzySource (char :: chars)) flags room
        = .ok ⟨.ofSeq (groupItem 1 char :: furtherItems 2 chars),
            { flags with unicode := true }, widths⟩ := by
  have glyphs := ofText_fuzzySource char chars
  have furtherWhole := dangling_notMem_furtherGlyphs chars
  have whole : .dangling ∉ Glyph.ofText (fuzzySource (char :: chars)) := by
    rw [glyphs]
    simp [groupGlyphs, furtherWhole, (Glyph.ofChar_ne_dangling char).symm]
  have length : (Glyph.ofText (fuzzySource (char :: chars))).length = 5 * chars.length + 3 := by
    rw [glyphs, List.length_append, length_furtherGlyphs, Nat.add_comm]
    rfl
  have fuel : 4 * (Glyph.ofText (fuzzySource (char :: chars))).length + 3
      = 20 * chars.length + 10 + 5 := by omega
  let start := ReaderState.start (fuzzySource (char :: chars)) flags room
  have group : sequence false true [] (20 * chars.length + 10 + 5) start
      = sequence false true [.single (groupItem 1 char)] (20 * chars.length + 10 + 4)
          (start.behindGroup char (furtherGlyphs chars)) :=
    sequence_group true [] (20 * chars.length + 10) (Nat.succ_pos room) glyphs furtherWhole
  have behindGroup : start.Past (start.behindGroup char (furtherGlyphs chars))
      (furtherGlyphs chars) 1 := ⟨rfl, rfl, rfl, rfl, rfl⟩
  obtain ⟨later, past, done⟩ := sequence_further chars true [.single (groupItem 1 char)]
    (Nat.succ_pos room) behindGroup.glyphs
    (show 3 * chars.length + 5 ≤ 20 * chars.length + 10 + 4 by omega)
  have all : start.Past later [] (1 + chars.length) := behindGroup.trans past
  rw [behindGroup.widths] at done
  obtain ⟨widths, count, read⟩ := parse_of_sequence whole plain notAscii
    (by rw [fuel]; exact group.trans done) all
  exact ⟨widths, by omega, read⟩

/-! ## The meaning -/

/-- Characters stand in a text in order, and what is skipped before each of them holds no
line feed; `after` is what is left behind the last one. -/
inductive Follows (rule : CaseRule) : (chars before after : Text) → Prop
  | nil (left : Text) : Follows rule [] left left
  | cons {char found : Char} {gap chars middle after : Text} :
      '\n' ∉ gap → rule.Corresponds char found → Follows rule chars middle after →
      Follows rule (char :: chars) (gap ++ found :: middle) after

/-- Characters are spelled somewhere in a text: the first one may stand anywhere, the others
follow. -/
def Spelled (rule : CaseRule) : (chars text : Text) → Prop
  | [], _ => True
  | char :: chars, text =>
    ∃ before found middle after, text = before ++ found :: middle ∧
      rule.Corresponds char found ∧ Follows rule chars middle after

theorem secondReading?_groupItem (flags whole : Flags) (group : Nat) (char : Char)
    (rest : List Expr) :
    ((Expr.ofSeq (groupItem group char :: rest)).opening flags).secondReading? whole = none := by
  cases rest <;> rfl

/-- What the item of a group is compiled into. -/
def groupNode (rule : CaseRule) (group : Nat) (char : Char) : Node :=
  .capture group (.char (.literal rule false char.toNat))

/-- What the items of all groups but the first one are compiled into. -/
def furtherNodes (rule : CaseRule) (group : Nat) : Text → List Node
  | [] => []
  | char :: chars =>
    .repetition .greedy 0 none (.char .notLineFeed) :: groupNode rule group char ::
      furtherNodes rule (group + 1) chars

/-- What the characters of a fuzzy pattern are compiled into. -/
def fuzzyNode (rule : CaseRule) (char : Char) (chars : Text) : Node :=
  .ofSeq (groupNode rule 1 char :: furtherNodes rule 2 chars)

/-- The pattern that a fuzzy source is compiled into. -/
def fuzzyPattern (char : Char) (chars : Text) (caseSensitive : Bool) : Pattern where
  source := fuzzySource (char :: chars)
  program := ⟨fuzzyNode (ruleFor caseSensitive) char chars, flagsFor caseSensitive,
    (char :: chars).length⟩
  rejected := none

@[simp] theorem groups_fuzzyPattern (char : Char) (chars : Text) (caseSensitive : Bool) :
    (fuzzyPattern char chars caseSensitive).groups = (char :: chars).length := rfl

section

variable {text : Text}

/-- The groups behind the first one lead past characters that follow. -/
theorem leads_furtherNodes (rule : CaseRule) (group : Nat) (chars : Text) :
    Runner.Leads text ((Node.ofSeq (furtherNodes rule group chars)).run text.toArray)
      (Follows rule chars) := by
  induction chars generalizing group with
  | nil =>
      have same : Follows rule [] = (· = ·) := by
        funext before after
        refine propext ⟨fun follows => ?_, fun equal => equal ▸ .nil before⟩
        cases follows
        rfl
      rw [same]
      exact leads_empty
  | cons char chars ih =>
      have same : Follows rule (char :: chars)
          = followedBy CharTest.notLineFeed.runPath
              (followedBy (CharTest.literal rule false char.toNat).path (Follows rule chars)) := by
        funext before after
        refine propext ⟨fun follows => ?_, ?_⟩
        · obtain _ | ⟨free, stands, rest⟩ := follows
          exact ⟨_, notLineFeed_runPath_iff.mpr ⟨_, rfl, free⟩, _,
            literal_path_iff.mpr ⟨_, rfl, stands⟩, rest⟩
        · rintro ⟨here, skipped, behind, passed, rest⟩
          obtain ⟨gap, rfl, free⟩ := notLineFeed_runPath_iff.mp skipped
          obtain ⟨found, rfl, stands⟩ := literal_path_iff.mp passed
          exact .cons free stands rest
      rw [same]
      exact leads_ofSeq_cons (leads_star _)
        (leads_ofSeq_cons (leads_capture group (leads_char _)) (ih (group + 1)))

theorem leads_groups (rule : CaseRule) (group : Nat) (char : Char) (chars : Text) :
    Runner.Leads text
      ((Node.ofSeq (groupNode rule group char :: furtherNodes rule (group + 1) chars)).run
        text.toArray)
      (followedBy (CharTest.literal rule false char.toNat).path (Follows rule chars)) :=
  leads_ofSeq_cons (leads_capture group (leads_char _)) (leads_furtherNodes rule _ chars)

end

section

variable {widths : Expr.GroupWidths} {flags : Flags}

theorem compile_groupItem (group : Nat) (char : Char) :
    (groupItem group char).compile widths flags = .ok (groupNode flags.caseRule group char) := by
  rw [groupItem, Expr.compile, Flags.inside_none]
  rfl

/-- The items of a fuzzy pattern are compiled one by one. -/
theorem compile_furtherItems (notTemplate : flags.template = false)
    (notAll : flags.dotAll = false) (group : Nat) (chars : Text) :
    List.Forall₂ (fun expr node => expr.compile widths flags = .ok node)
      (furtherItems group chars) (furtherNodes flags.caseRule group chars) := by
  induction chars generalizing group with
  | nil => exact .nil
  | cons char chars ih =>
      refine .cons ?_ (.cons (compile_groupItem group char) (ih (group + 1)))
      rw [anyRun, Expr.compile, notTemplate, Expr.compile, notAll]
      rfl

end

theorem compile_fuzzyItems (char : Char) (chars : Text) (caseSensitive : Bool)
    (widths : Expr.GroupWidths) :
    (Expr.ofSeq (groupItem 1 char :: furtherItems 2 chars)).compile widths (flagsFor caseSensitive)
      = .ok (fuzzyNode (ruleFor caseSensitive) char chars) := by
  rw [← caseRule_flagsFor]
  exact compile_ofSeq (.cons (compile_groupItem 1 char) (compile_furtherItems rfl rfl 2 chars))

/-- Every text but the empty one is compiled into a fuzzy pattern. -/
theorem compile_fuzzyPattern (char : Char) (chars : Text) (caseSensitive : Bool) {room : Nat} :
    Pattern.compile (char :: chars) .fuzzy caseSensitive room
      = .ok (fuzzyPattern char chars caseSensitive) := by
  let given : Flags := { ignoreCase := !caseSensitive }
  obtain ⟨widths, count, read⟩ :=
    parse_fuzzySource char chars (show given.verbose = false from rfl) rfl
  have program := ofSource_ok read (compile_fuzzyItems char chars caseSensitive widths)
    (secondReading?_groupItem _ _ _ _ _)
  rw [Pattern.compile, Pattern.ofSource, program, count]
  rfl

/-- A fuzzy pattern has a group for every character, and it matches a text exactly if its
characters are spelled there. -/
theorem compile_fuzzy (char : Char) (chars : Text) (caseSensitive : Bool) {room : Nat} :
    ∃ pattern, Pattern.compile (char :: chars) .fuzzy caseSensitive room = .ok pattern ∧
      pattern.groups = (char :: chars).length ∧
      ∀ text, pattern.occursIn text = true ↔
        Spelled (ruleFor caseSensitive) (char :: chars) text := by
  refine ⟨fuzzyPattern char chars caseSensitive, compile_fuzzyPattern char chars caseSensitive,
    groups_fuzzyPattern char chars caseSensitive, fun text => ?_⟩
  rw [Pattern.occursIn]
  refine (search_isSome_iff (leads_groups (ruleFor caseSensitive) 1 char chars)).trans ?_
  constructor
  · rintro ⟨before, suffix, after, rfl, middle, passed, follows⟩
    obtain ⟨found, rfl, stands⟩ := literal_path_iff.mp passed
    exact ⟨before, found, middle, after, rfl, stands, follows⟩
  · rintro ⟨before, found, middle, after, rfl, stands, follows⟩
    exact ⟨before, _, after, rfl, middle, literal_path_iff.mpr ⟨found, rfl, stands⟩, follows⟩

/-- A fuzzy query compiles, and it accepts exactly the texts that spell all its pieces. -/
theorem compile_fuzzyQuery (query : Text) (caseSensitive tokenize : Bool) :
    ∃ tokens, TokenSet.compile query ⟨.fuzzy, caseSensitive, tokenize⟩ = .ok tokens ∧
      ∀ text, tokens.accepts text = true ↔
        ∀ piece ∈ pieceTexts ⟨.fuzzy, caseSensitive, tokenize⟩ query,
          Spelled (ruleFor caseSensitive) piece text := by
  refine compile_query query fun piece some => ?_
  obtain ⟨char, chars, rfl⟩ := List.exists_cons_of_ne_nil some
  obtain ⟨pattern, compiled, -, occurs⟩ := compile_fuzzy char chars caseSensitive
  exact ⟨pattern, compiled, occurs⟩

end Winnow
