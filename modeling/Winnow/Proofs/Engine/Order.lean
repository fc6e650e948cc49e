import Winnow.Proofs.Engine.Filter
import Mathlib.Data.List.Nodup

/-!
# When ranking is a total order

Two entries at different places are always ordered, but three may go round in a
circle, since every pair is cut at a length of its own. A circle has one shape
(`Entry.Tangled`): two entries agree up to where they are both cut, and the text
of the third one is longer and stands between them, the other way round, once
more of them is read. `compareEntries_order` says that this is all that can go
wrong, for a comparison of three entries and for a ranked result.
-/

namespace Winnow

/-- Lists that are ordered where they are cut are ordered. -/
theorem lt_of_take_lt {left right : List Nat} {count : Nat}
    (less : left.take count < right.take count) : left < right := by
  induction count generalizing left right with
  | zero => exact absurd less (List.not_lt_nil _)
  | succ count ih =>
      cases right with
      | nil => exact absurd less (List.not_lt_nil _)
      | cons second right =>
          cases left with
          | nil => exact List.nil_lt_cons second right
          | cons first left =>
              rw [List.take_succ_cons, List.take_succ_cons, List.cons_lt_cons_iff] at less
              rcases less with smaller | ⟨equal, rest⟩
              · exact List.cons_lt_cons_iff.mpr (.inl smaller)
              · exact List.cons_lt_cons_iff.mpr (.inr ⟨equal, ih rest⟩)

/-- A chain whose relation is transitive on its members relates all of them. -/
theorem pairwise_of_isChain {α : Type} {relation : α → α → Prop} {list : List α}
    (chain : list.IsChain relation)
    (transitive : ∀ first ∈ list, ∀ second ∈ list, ∀ third ∈ list,
      relation first second → relation second third → relation first third) :
    list.Pairwise relation := by
  induction list with
  | nil => exact .nil
  | cons first rest ih =>
      have behind := ih chain.tail fun left leftMember middle middleMember right rightMember =>
        transitive left (.tail _ leftMember) middle (.tail _ middleMember)
          right (.tail _ rightMember)
      refine List.pairwise_cons.mpr ⟨fun other member => ?_, behind⟩
      cases rest with
      | nil => cases member
      | cons next others =>
          have step := (List.isChain_cons_cons.mp chain).1
          rcases List.mem_cons.mp member with rfl | later
          · exact step
          · exact transitive first (by simp) next (by simp) other (by simp [later]) step
              ((List.pairwise_cons.mp behind).1 other later)

namespace Entry

theorem rank_lt_iff {left right : Entry} {count : Nat} :
    left.rank count < right.rank count ↔
      left.score < right.score ∨ left.score = right.score ∧
        (left.codes count < right.codes count ∨
          left.codes count = right.codes count ∧ left.index < right.index) := by
  rw [rank, rank, Prod.Lex.toLex_lt_toLex, Prod.Lex.toLex_lt_toLex]

theorem take_codes {small large : Nat} (entry : Entry) (ordered : small ≤ large) :
    (entry.codes large).take small = entry.codes small := by
  rw [codes, codes, List.take_take, Nat.min_eq_left ordered]

/-- Entries with one score keep the order of their code points at smaller lengths. -/
theorem not_codes_lt_of_rank_lt {left right : Entry} {small large : Nat}
    (ordered : small ≤ large) (tie : left.score = right.score)
    (less : left.rank large < right.rank large) : ¬right.codes small < left.codes small := by
  intro reversed
  rw [← take_codes left ordered, ← take_codes right ordered] at reversed
  have codesReversed := lt_of_take_lt reversed
  rcases rank_lt_iff.mp less with scores | ⟨-, codes | ⟨equal, -⟩⟩
  · exact absurd tie scores.ne
  · exact lt_asymm codes codesReversed
  · exact codesReversed.ne equal.symm

/-- Three entries whose comparisons go round in a circle. The first two tie in score and
agree up to where both are cut, so that the place decides; the text of the third one is
longer, and up to its length the second comes before the third and the third before the
first. -/
structure Tangled (first second third : Entry) : Prop where
  longer : first.reach second < third.text.length
  tie : first.score = second.score
  agree : first.codes (first.reach second) = second.codes (first.reach second)
  earlier : first.index < second.index
  below : second.rank third.text.length < third.rank third.text.length
  above : third.rank third.text.length < first.rank third.text.length

/-- A circle of three comparisons is a tangle if the third text is the longest. -/
theorem tangled_of_longest {first second third : Entry}
    (firstSecond : compareEntries first second = .ok .lt)
    (secondThird : compareEntries second third = .ok .lt)
    (thirdFirst : compareEntries third first = .ok .lt)
    (longer : first.reach second < third.text.length) : first.Tangled second third := by
  have firstFits := first.length_le_reach_left second
  have secondFits := first.length_le_reach_right second
  have below := (precedes_iff.mp secondThird).2
  have above := (precedes_iff.mp thirdFirst).2
  have place := (precedes_iff.mp firstSecond).2
  rw [reach, Nat.max_eq_right (by omega)] at below
  rw [reach, Nat.max_eq_left (by omega)] at above
  have scores : first.score = second.score := by
    have one := score_le_of_precedes firstSecond
    have two := score_le_of_precedes secondThird
    have three := score_le_of_precedes thirdFirst
    omega
  have notBelow : ¬first.codes (first.reach second) < second.codes (first.reach second) :=
    not_codes_lt_of_rank_lt longer.le scores.symm (lt_trans below above)
  rcases rank_lt_iff.mp place with less | ⟨-, less | ⟨agree, earlier⟩⟩
  · exact absurd scores less.ne
  · exact absurd less notBelow
  · exact ⟨longer, scores, agree, earlier, below, above⟩

/-- A tangle of entries without null characters is a circle of three comparisons. -/
theorem Tangled.cycle {first second third : Entry} (tangled : first.Tangled second third)
    (firstFree : Ranking.nullChar ∉ first.text) (secondFree : Ranking.nullChar ∉ second.text)
    (thirdFree : Ranking.nullChar ∉ third.text) :
    compareEntries first second = .ok .lt ∧ compareEntries second third = .ok .lt ∧
      compareEntries third first = .ok .lt := by
  have longer := tangled.longer
  have firstFits := first.length_le_reach_left second
  have secondFits := first.length_le_reach_right second
  refine ⟨precedes_iff.mpr ⟨not_clashes firstFree secondFree, ?_⟩,
    precedes_iff.mpr ⟨not_clashes secondFree thirdFree, ?_⟩,
    precedes_iff.mpr ⟨not_clashes thirdFree firstFree, ?_⟩⟩
  · exact rank_lt_iff.mpr (.inr ⟨tangled.tie, .inr ⟨tangled.agree, tangled.earlier⟩⟩)
  · rw [reach, Nat.max_eq_right (by omega)]
    exact tangled.below
  · rw [reach, Nat.max_eq_left (by omega)]
    exact tangled.above

end Entry

/-- Comparisons that go round in a circle are a tangle, seen from one of the entries. -/
theorem tangled_of_cycle {first second third : Entry}
    (firstSecond : compareEntries first second = .ok .lt)
    (secondThird : compareEntries second third = .ok .lt)
    (thirdFirst : compareEntries third first = .ok .lt) :
    first.Tangled second third ∨ second.Tangled third first ∨ third.Tangled first second := by
  by_cases thirdLongest : first.reach second < third.text.length
  · exact .inl (Entry.tangled_of_longest firstSecond secondThird thirdFirst thirdLongest)
  by_cases firstLongest : second.reach third < first.text.length
  · exact .inr (.inl (Entry.tangled_of_longest secondThird thirdFirst firstSecond firstLongest))
  by_cases secondLongest : third.reach first < second.text.length
  · exact .inr (.inr (Entry.tangled_of_longest thirdFirst firstSecond secondThird secondLongest))
  -- Two texts are the longest ones, so all three comparisons cut at the same length.
  rw [Entry.reach] at thirdLongest firstLongest secondLongest
  have secondReach : second.reach third = first.reach second := by
    rw [Entry.reach, Entry.reach]
    omega
  have thirdReach : third.reach first = first.reach second := by
    rw [Entry.reach, Entry.reach]
    omega
  have one := (precedes_iff.mp firstSecond).2
  have two := (precedes_iff.mp secondThird).2
  have three := (precedes_iff.mp thirdFirst).2
  rw [secondReach] at two
  rw [thirdReach] at three
  exact absurd (lt_trans one (lt_trans two three)) (lt_irrefl _)

/-- Three entries are tangled, whichever of them has the longest text. -/
def Entry.Circular (first second third : Entry) : Prop :=
  first.Tangled second third ∨ second.Tangled third first ∨ third.Tangled first second

/-- Comparisons of entries without null characters are transitive unless the entries go
round in a circle. -/
theorem precedes_trans_iff {first second third : Entry}
    (firstFree : Ranking.nullChar ∉ first.text) (secondFree : Ranking.nullChar ∉ second.text)
    (thirdFree : Ranking.nullChar ∉ third.text) (distinct : first.index ≠ third.index)
    (firstSecond : compareEntries first second = .ok .lt)
    (secondThird : compareEntries second third = .ok .lt) :
    compareEntries first third = .ok .lt ↔ ¬first.Circular second third := by
  constructor
  · intro firstThird circular
    have thirdFirst : compareEntries third first = .ok .lt := by
      rcases circular with tangled | tangled | tangled
      · exact (tangled.cycle firstFree secondFree thirdFree).2.2
      · exact (tangled.cycle secondFree thirdFree firstFree).2.1
      · exact (tangled.cycle thirdFree firstFree secondFree).1
    exact precedes_asymm firstThird thirdFirst
  · intro straight
    rcases precedes_or_precedes (Entry.not_clashes firstFree thirdFree) distinct with
      firstThird | thirdFirst
    · exact firstThird
    · exact absurd (tangled_of_cycle firstSecond secondThird thirdFirst) straight

/-- Entries that stand in a list where each precedes all later ones stand in the order in
which they precede each other. -/
theorem not_cycle_of_pairwise {entries : List Entry}
    (ordered : entries.Pairwise fun left right => compareEntries left right = .ok .lt)
    {first second third : Entry} (firstMember : first ∈ entries)
    (secondMember : second ∈ entries) (thirdMember : third ∈ entries)
    (firstSecond : compareEntries first second = .ok .lt)
    (secondThird : compareEntries second third = .ok .lt) :
    compareEntries third first ≠ .ok .lt := by
  have place_lt : ∀ {left right : Nat} (leftInside : left < entries.length)
      (rightInside : right < entries.length),
      compareEntries entries[left] entries[right] = .ok .lt → left < right := by
    intro left right leftInside rightInside precedes
    rcases Nat.lt_trichotomy left right with less | rfl | greater
    · exact less
    · exact absurd precedes (precedes_asymm precedes)
    · have reversed :=
        List.pairwise_iff_getElem.mp ordered right left rightInside leftInside greater
      exact absurd reversed (precedes_asymm precedes)
  obtain ⟨firstPlace, firstInside, rfl⟩ := List.getElem_of_mem firstMember
  obtain ⟨secondPlace, secondInside, rfl⟩ := List.getElem_of_mem secondMember
  obtain ⟨thirdPlace, thirdInside, rfl⟩ := List.getElem_of_mem thirdMember
  intro thirdFirst
  have one := place_lt firstInside secondInside firstSecond
  have two := place_lt secondInside thirdInside secondThird
  have three := place_lt thirdInside firstInside thirdFirst
  omega

/-- A ranked result is in order throughout exactly if no three accepted entries are
tangled. -/
theorem filter_ordered_iff {engine : Engine} {texts : List Text} {budget : Budget}
    {result : FilterResult} (done : engine.filter texts budget = .ok result)
    (ranked : engine.isRanked = true)
    (free : ∀ entry ∈ result.entries, Ranking.nullChar ∉ entry.text) :
    (result.entries.Pairwise fun left right => compareEntries left right = .ok .lt) ↔
      ∀ first ∈ result.entries, ∀ second ∈ result.entries, ∀ third ∈ result.entries,
        ¬first.Tangled second third := by
  constructor
  · intro ordered first firstMember second secondMember third thirdMember tangled
    obtain ⟨firstSecond, secondThird, thirdFirst⟩ := tangled.cycle (free first firstMember)
      (free second secondMember) (free third thirdMember)
    exact not_cycle_of_pairwise ordered firstMember secondMember thirdMember firstSecond
      secondThird thirdFirst
  · intro straight
    refine pairwise_of_isChain (Engine.filter_chain done ranked) ?_
    intro first firstMember second secondMember third thirdMember firstSecond secondThird
    have distinct : first.index ≠ third.index := by
      intro same
      have places : (result.entries.map Entry.index).Nodup :=
        List.pairwise_map.mpr (Engine.filter_distinct done)
      obtain rfl := List.inj_on_of_nodup_map places firstMember thirdMember same
      exact precedes_asymm firstSecond secondThird
    refine (precedes_trans_iff (free first firstMember) (free second secondMember)
      (free third thirdMember) distinct firstSecond secondThird).mpr ?_
    rintro (tangled | tangled | tangled)
    · exact straight first firstMember second secondMember third thirdMember tangled
    · exact straight second secondMember third thirdMember first firstMember tangled
    · exact straight third thirdMember first firstMember second secondMember tangled

/-- The order of ranked entries, for entries at different places without null characters.
Of any two exactly one precedes the other. Precedence of three is transitive unless they go
round in a circle. A ranked filter returns a result, and in it every entry precedes all
later ones exactly if no three accepted entries are tangled. -/
theorem compareEntries_order (first second third : Entry) (engine : Engine)
    (texts : List Text) (budget : Budget) :
    (Ranking.nullChar ∉ first.text → Ranking.nullChar ∉ second.text →
      first.index ≠ second.index →
        compareEntries first second = .ok .lt ∧ compareEntries second first = .ok .gt ∨
        compareEntries first second = .ok .gt ∧ compareEntries second first = .ok .lt) ∧
    (Ranking.nullChar ∉ first.text → Ranking.nullChar ∉ second.text →
      Ranking.nullChar ∉ third.text → first.index ≠ third.index →
      compareEntries first second = .ok .lt → compareEntries second third = .ok .lt →
        (compareEntries first third = .ok .lt ↔ ¬first.Circular second third)) ∧
    (engine.isRanked = true →
      (∀ entry, engine.Accepts texts (budget.evaluated texts.length) entry →
        Ranking.nullChar ∉ entry.text) →
      ∃ result, engine.filter texts budget = .ok result ∧
        ((result.entries.Pairwise fun left right => compareEntries left right = .ok .lt) ↔
          ∀ one other longest,
            engine.Accepts texts (budget.evaluated texts.length) one →
            engine.Accepts texts (budget.evaluated texts.length) other →
            engine.Accepts texts (budget.evaluated texts.length) longest →
            ¬one.Tangled other longest)) := by
  refine ⟨?_, ?_, ?_⟩
  · intro firstFree secondFree distinct
    rcases precedes_or_precedes (Entry.not_clashes firstFree secondFree) distinct with
      before | behind
    · exact .inl ⟨before, compareEntries_swap.mp before⟩
    · exact .inr ⟨compareEntries_swap.mp behind, behind⟩
  · intro firstFree secondFree thirdFree distinct
    exact precedes_trans_iff firstFree secondFree thirdFree distinct
  · intro ranked free
    obtain ⟨result, done⟩ := Engine.filter_ok fun left right leftAccepted rightAccepted _ =>
      Entry.not_clashes (free left leftAccepted) (free right rightAccepted)
    have accepted : ∀ entry, entry ∈ result.entries ↔
        engine.Accepts texts (budget.evaluated texts.length) entry :=
      fun entry => (Engine.filter_perm done).2.2.mem_iff.trans Engine.mem_acceptedEntries
    refine ⟨result, done, ?_⟩
    rw [filter_ordered_iff done ranked fun entry member => free entry ((accepted entry).mp member)]
    constructor
    · intro straight one other longest oneAccepted otherAccepted longestAccepted
      exact straight one ((accepted one).mpr oneAccepted)
        other ((accepted other).mpr otherAccepted) longest ((accepted longest).mpr longestAccepted)
    · intro straight one oneMember other otherMember longest longestMember
      exact straight one other longest ((accepted one).mp oneMember)
        ((accepted other).mp otherMember) ((accepted longest).mp longestMember)

/-- Two ligatures and the letters of a third one go round in a circle: the ligatures are
cut behind their first letter when they are compared with each other. -/
theorem compareEntries_circle :
    compareEntries ⟨0, ['ﬁ'], 0⟩ ⟨1, ['ﬀ'], 0⟩ = .ok .lt ∧
      compareEntries ⟨1, ['ﬀ'], 0⟩ ⟨2, ['f', 'h'], 0⟩ = .ok .lt ∧
      compareEntries ⟨0, ['ﬁ'], 0⟩ ⟨2, ['f', 'h'], 0⟩ = .ok .gt := by
  decide +kernel

end Winnow
