import Winnow.Style.Span
import Winnow.Proofs.Query.Places
import Winnow.Proofs.Regex.Preference

/-!
# Which places a fuzzy pattern takes

There may be many ways to spell the characters of a fuzzy pattern from a place on
(`SpelledFrom`). A match takes one of them: its runs of any characters are greedy, so each
further character stands at the last place from which what remains can still be spelled
(`LatestPlaces`). `exists_latestPlaces_of_run` says so of the groups behind the first one,
and `exists_latestPlaces_of_matchAt` of a whole match, together with what its groups capture
(`recordAll`).
-/

namespace Winnow

open Regex

variable {rule : CaseRule} {text : Text}

/-- Characters can be spelled from a place on: the first one stands there, the others further
behind. -/
def SpelledFrom (rule : CaseRule) (chars text : Text) (place : Nat) : Prop :=
  ∃ later, SpelledAt rule chars text (place :: later)

/-- Places for characters behind a place. Each of them is the last one to which the place before
it is bridged and from which the remaining characters can be spelled. -/
inductive LatestPlaces (rule : CaseRule) (text : Text) : Nat → Text → List Nat → Prop
  | nil {previous : Nat} : LatestPlaces rule text previous [] []
  | cons {previous place : Nat} {char : Char} {chars : Text} {places : List Nat} :
      Bridged text previous place → SpelledFrom rule (char :: chars) text place →
      (∀ further, place < further → Bridged text previous further →
        ¬SpelledFrom rule (char :: chars) text further) →
      LatestPlaces rule text place chars places →
      LatestPlaces rule text previous (char :: chars) (place :: places)

/-! ## Places -/

section

variable {char : Char} {chars : Text} {previous place : Nat} {places : List Nat}

theorem SpelledFrom.stands (spelled : SpelledFrom rule (char :: chars) text place) :
    StandsAt rule text char place := by
  obtain ⟨later, all, -⟩ := spelled
  exact (List.forall₂_cons.mp all).1

theorem SpelledFrom.inside (spelled : SpelledFrom rule (char :: chars) text place) :
    place < text.length := by
  obtain ⟨found, here, -⟩ := spelled.stands
  exact (List.getElem?_eq_some_iff.mp here).1

theorem LatestPlaces.stands (latest : LatestPlaces rule text previous chars places) :
    List.Forall₂ (StandsAt rule text) chars places := by
  induction latest with
  | nil => exact .nil
  | cons _ spelled _ _ ih => exact .cons spelled.stands ih

theorem LatestPlaces.bridged (latest : LatestPlaces rule text previous chars places) :
    (previous :: places).IsChain (Bridged text) := by
  induction latest with
  | nil => exact .singleton _
  | cons bridged _ _ _ ih => exact .cons_cons bridged ih

/-- The latest places are the only ones. -/
theorem LatestPlaces.unique {others : List Nat}
    (latest : LatestPlaces rule text previous chars places)
    (another : LatestPlaces rule text previous chars others) : places = others := by
  induction latest generalizing others with
  | nil =>
      cases another
      rfl
  | @cons _ place _ _ _ bridged spelled last _ ih =>
      cases another with
      | @cons _ other _ _ _ otherBridged otherSpelled otherLast rest =>
          rcases Nat.lt_trichotomy place other with before | rfl | behind
          · exact absurd otherSpelled (last other before otherBridged)
          · rw [ih rest]
          · exact absurd spelled (otherLast place behind bridged)

theorem pairwise_of_bridged (bridged : places.IsChain (Bridged text)) : places.Pairwise (· < ·) :=
  List.isChain_iff_pairwise.mp (bridged.imp fun _ _ step => step.1)

/-- A row of groups leads on from exactly the places from which its characters can be
spelled. -/
theorem exists_after_iff_spelledFrom :
    (∃ after, followedBy (CharTest.literal rule false char.toNat).path (Follows rule chars)
        (text.drop place) after) ↔
      SpelledFrom rule (char :: chars) text place := by
  constructor
  · rintro ⟨after, middle, passed, follows⟩
    obtain rfl := CharTest.eq_drop_of_path passed
    obtain ⟨found, left, stands⟩ := literal_path_iff.mp passed
    obtain ⟨later, others, chain⟩ := follows_iff_exists_places.mp ⟨after, follows⟩
    exact ⟨later, .cons ⟨found, drop_eq_cons_iff.mpr left, stands⟩ others, chain⟩
  · rintro ⟨later, all, chain⟩
    obtain ⟨⟨found, here, stands⟩, others⟩ := List.forall₂_cons.mp all
    obtain ⟨after, follows⟩ := follows_iff_exists_places.mpr ⟨later, others, chain⟩
    exact ⟨after, _, literal_path_iff.mpr ⟨found, drop_eq_cons_iff.mp here, stands⟩, follows⟩

/-- A place is bridged to another one if no line feed is among the characters between them. -/
theorem bridged_of_covers
    (covers : CharTest.notLineFeed.Covers text.toArray (previous + 1) place) :
    Bridged text previous place := by
  refine ⟨covers.le, fun between after before lineFeed => ?_⟩
  obtain ⟨found, here, other⟩ := covers.accepts between after before
  rw [List.getElem?_toArray, lineFeed] at here
  exact accepts_notLineFeed_iff.mp other (Option.some.inj here).symm

/-- The characters between a place and one that it is bridged to are characters but line feeds. -/
theorem covers_of_bridged (bridged : Bridged text previous place) (inside : place < text.length) :
    CharTest.notLineFeed.Covers text.toArray (previous + 1) place := by
  refine ⟨bridged.1, fun between after before => ?_⟩
  have here : text[between]? = some text[between] := List.getElem?_eq_getElem (before.trans inside)
  refine ⟨text[between], by rw [List.getElem?_toArray, here], accepts_notLineFeed_iff.mpr ?_⟩
  intro lineFeed
  exact bridged.2 between after before (here.trans (congrArg some lineFeed))

end

/-! ## Runs -/

/-- What groups of one character capture that stand at the given places, the latest first, in
front of what was captured before. -/
def recordAll (group : Nat) : (places : List Nat) → List Capture → List Capture
  | [], captures => captures
  | place :: places, captures =>
    recordAll (group + 1) places (⟨group, place, place + 1⟩ :: captures)

section

variable {group place previous : Nat} {char : Char} {chars : Text} {captures : List Capture}

/-- A row of groups succeeds by itself from exactly the places from which its characters can be
spelled. -/
theorem run_groups_isSome_iff :
    ((Node.ofSeq (groupNode rule group char :: furtherNodes rule (group + 1) chars)).run
        text.toArray ⟨place, captures⟩ some).isSome = true ↔
      SpelledFrom rule (char :: chars) text place := by
  rw [leads_groups rule group char chars ⟨place, captures⟩ some (fun _ => True) (by simp),
    ← exists_after_iff_spelledFrom]
  simp only [and_true]

/-- A row of groups that succeeds has captured its first character, and its other groups have
succeeded behind it. -/
theorem run_further_of_run_groups {final : MatchState}
    (ran : (Node.ofSeq (groupNode rule group char :: furtherNodes rule (group + 1) chars)).run
      text.toArray ⟨place, captures⟩ some = some final) :
    (Node.ofSeq (furtherNodes rule (group + 1) chars)).run text.toArray
      ⟨place + 1, ⟨group, place, place + 1⟩ :: captures⟩ some = some final := by
  rw [Node.run_ofSeq_cons, groupNode, Node.run_capture, Node.run_char] at ran
  split at ran
  · split at ran
    · exact ran
    · cases ran
  · cases ran

/-- The groups behind the first one take the latest places. -/
theorem exists_latestPlaces_of_run {final : MatchState}
    (ran : (Node.ofSeq (furtherNodes rule group chars)).run text.toArray
      ⟨previous + 1, captures⟩ some = some final) :
    ∃ places, LatestPlaces rule text previous chars places ∧
      final = ⟨places.getLastD previous + 1, recordAll group places captures⟩ := by
  induction chars generalizing group previous captures with
  | nil => exact ⟨[], .nil, (Option.some.inj ran).symm⟩
  | cons char chars ih =>
      rw [furtherNodes, Node.run_ofSeq_cons] at ran
      obtain ⟨place, covers, succeeds, last⟩ := star_longest ran
      obtain ⟨places, latest, ends⟩ := ih (run_further_of_run_groups succeeds)
      have spelled : SpelledFrom rule (char :: chars) text place :=
        run_groups_isSome_iff.mp (Option.isSome_iff_exists.mpr ⟨final, succeeds⟩)
      refine ⟨place :: places, .cons (bridged_of_covers covers) spelled ?_ latest, ?_⟩
      · intro further more bridged possible
        have fails := congrArg Option.isSome
          (last further more (covers_of_bridged bridged possible.inside))
        cases fails.symm.trans (run_groups_isSome_iff.mpr possible)
      · rw [ends, List.getLastD_cons, recordAll]

/-- What is captured for a group is not changed by later groups. -/
theorem find?_recordAll_of_lt {earlier : Nat} (less : earlier < group) (places : List Nat) :
    (recordAll group places captures).find? (fun capture => capture.group == earlier)
      = captures.find? fun capture => capture.group == earlier := by
  induction places generalizing group captures with
  | nil => rfl
  | cons place places ih =>
      have other : (group == earlier) = false := beq_eq_false_iff_ne.mpr (Nat.ne_of_gt less)
      rw [recordAll, ih (Nat.lt_succ_of_lt less), List.find?_cons, other]

/-- The groups of a match cover the characters at the places that were recorded for them. -/
theorem filterMap_groupSpan?_recordAll (group start stop : Nat) (places : List Nat) :
    (List.range places.length).filterMap (fun index =>
        (Match.mk start stop (recordAll group places captures)).groupSpan? (index + group))
      = places.map fun place => (place, place + 1) := by
  induction places generalizing group captures with
  | nil => rfl
  | cons place places ih =>
      have first : (Match.mk start stop (recordAll group (place :: places) captures)).groupSpan?
          (0 + group) = some (place, place + 1) := by
        rw [Match.groupSpan?, Nat.zero_add, recordAll,
          find?_recordAll_of_lt (Nat.lt_succ_self group), List.find?_cons, beq_self_eq_true]
        rfl
      have others : (fun index =>
            (Match.mk start stop (recordAll group (place :: places) captures)).groupSpan?
              (index + group)) ∘ Nat.succ
          = fun index => (Match.mk start stop (recordAll (group + 1) places
              (⟨group, place, place + 1⟩ :: captures))).groupSpan? (index + (group + 1)) := by
        funext index
        rw [Function.comp_apply, recordAll, Nat.succ_add_eq_add_succ]
      rw [List.length_cons, List.range_succ_eq_map, List.filterMap_cons, first,
        List.filterMap_map, others, ih, List.map_cons]

end

/-! ## Matches -/

section

variable {char : Char} {chars : Text} {start : Nat}

theorem matchAt_fuzzyNode_eq_none_iff :
    (fuzzyNode rule char chars).matchAt text.toArray false start = none ↔
      ¬SpelledFrom rule (char :: chars) text start := by
  rw [← exists_after_iff_spelledFrom, ← matchAt_isSome_iff (leads_groups rule 1 char chars) start,
    Bool.not_eq_true, Option.isSome_eq_false_iff, Option.isNone_iff_eq_none]
  rfl

/-- A match of a fuzzy pattern takes the latest places for the characters behind the first one,
ends behind the last of them, and has captured them one by one. -/
theorem exists_latestPlaces_of_matchAt {found : Match}
    (matched : (fuzzyNode rule char chars).matchAt text.toArray false start = some found) :
    SpelledFrom rule (char :: chars) text start ∧
      ∃ later, LatestPlaces rule text start chars later ∧
        found = ⟨start, later.getLastD start + 1, recordAll 1 (start :: later) []⟩ := by
  have plain : (fun state : MatchState =>
      if false && state.offset == start then none else some state) = some := by
    funext state
    rfl
  rw [Node.matchAt, plain] at matched
  obtain ⟨final, ran, rfl⟩ := Option.map_eq_some_iff.mp matched
  obtain ⟨later, latest, rfl⟩ := exists_latestPlaces_of_run (run_further_of_run_groups ran)
  exact ⟨run_groups_isSome_iff.mp (Option.isSome_iff_exists.mpr ⟨_, ran⟩), later, latest, rfl⟩

/-- The stretches of a match of a fuzzy pattern that are worth showing are its characters one by
one. -/
theorem matchStretches_recordAll {later : List Nat}
    (latest : LatestPlaces rule text start chars later) :
    matchStretches (char :: chars).length
        ⟨start, later.getLastD start + 1, recordAll 1 (start :: later) []⟩
      = (start :: later).map fun place => (place, place + 1) := by
  have sameLength : (char :: chars).length = (start :: later).length := by
    rw [List.length_cons, List.length_cons, latest.stands.length_eq]
  rw [sameLength, matchStretches]
  split
  · next single =>
      -- A single group is not shown by itself, but it is the whole match.
      obtain rfl : later = [] := List.length_eq_zero_iff.mp (by simpa using single)
      rfl
  · exact filterMap_groupSpan?_recordAll 1 _ _ (start :: later)

end

end Winnow
