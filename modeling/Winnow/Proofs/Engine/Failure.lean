import Winnow.Proofs.Engine.Filter
import Winnow.Proofs.Ranking.NullCharacter

/-!
# When filtering fails

The only failure is that of comparing two texts, one of which shows a null character
where the longer one ends (`Entry.clashes_iff`). Nothing is compared unless two
accepted candidates tie in score (`Engine.Ties`), so filtering returns a result unless
a null character is in a tie (`Engine.filter_ok_of_ties`), and it fails if a tied
candidate shows one up to its own length (`Engine.filter_error_of_tie`).
`filter_returns_unless_null` puts this together.
-/

namespace Winnow

open Ranking (nullChar composed ShowsNull)

/-- Two entries cannot be compared if they tie and one shows a null character. -/
theorem Entry.clashes_iff {left right : Entry} : left.Clashes right ↔
    left.score = right.score ∧
      (ShowsNull (left.reach right) left.text ∨ ShowsNull (left.reach right) right.text) := by
  rw [Clashes, codes, codes, Ranking.zero_mem_take_composed_iff,
    Ranking.zero_mem_take_composed_iff]

namespace Engine

/-- Two accepted ones of the first candidates stand at different places and tie in score. -/
structure Ties (engine : Engine) (texts : List Text) (count : Nat) (left right : Entry) :
    Prop where
  left_accepted : engine.Accepts texts count left
  right_accepted : engine.Accepts texts count right
  apart : left.index ≠ right.index
  score_eq : left.score = right.score

variable {engine : Engine} {texts : List Text} {budget : Budget} {count : Nat}
  {left right : Entry}

theorem Ties.symm (tie : engine.Ties texts count left right) :
    engine.Ties texts count right left :=
  ⟨tie.right_accepted, tie.left_accepted, tie.apart.symm, tie.score_eq.symm⟩

/-- Filtering returns a result if no null character is in a tie, or if it does not rank. -/
theorem filter_ok_of_ties
    (free : engine.isRanked = true → ∀ left right,
      engine.Ties texts (budget.evaluated texts.length) left right → nullChar ∉ left.text) :
    ∃ result, engine.filter texts budget = .ok result := by
  cases ranked : engine.isRanked with
  | false =>
      rw [filter, ranked, if_neg Bool.false_ne_true]
      exact ⟨_, rfl⟩
  | true =>
      refine filter_ok fun left right leftAccepted rightAccepted apart clash => ?_
      obtain ⟨scores, shown⟩ := Entry.clashes_iff.mp clash
      have tie : engine.Ties texts (budget.evaluated texts.length) left right :=
        ⟨leftAccepted, rightAccepted, apart, scores⟩
      rcases shown with leftShown | rightShown
      · exact free ranked left right tie leftShown.mem
      · exact free ranked right left tie.symm rightShown.mem

/-- Ranking fails if a tied candidate shows a null character up to its own length: whatever else
is compared, one of its neighbours is. -/
theorem filter_error_of_tie (ranked : engine.isRanked = true)
    (tie : engine.Ties texts (budget.evaluated texts.length) left right)
    (shown : ShowsNull left.text.length left.text) :
    engine.filter texts budget = .error .embeddedNull := by
  cases done : engine.filter texts budget with
  | error problem =>
      cases problem
      rfl
  | ok result =>
      have members := (filter_perm done).2.2
      have free := null_free_of_chain (filter_chain done ranked)
        (members.mem_iff.mpr (mem_acceptedEntries.mpr tie.left_accepted))
        (members.mem_iff.mpr (mem_acceptedEntries.mpr tie.right_accepted)) tie.apart tie.score_eq
      exact absurd (Ranking.zero_mem_take_composed_iff.mpr shown) free

/-- If composition lengthens no accepted candidate, ranking fails exactly if a null character is
in a tie. -/
theorem filter_error_iff
    (short : ∀ entry, engine.Accepts texts (budget.evaluated texts.length) entry →
      (composed entry.text).length ≤ entry.text.length) :
    engine.filter texts budget = .error .embeddedNull ↔ engine.isRanked = true ∧
      ∃ left right, engine.Ties texts (budget.evaluated texts.length) left right ∧
        nullChar ∈ left.text := by
  constructor
  · intro failed
    by_contra harmless
    obtain ⟨result, done⟩ : ∃ result, engine.filter texts budget = .ok result :=
      filter_ok_of_ties fun ranked left right tie held =>
        harmless ⟨ranked, left, right, tie, held⟩
    rw [done] at failed
    cases failed
  · rintro ⟨ranked, left, right, tie, held⟩
    have shown := (Ranking.showsNull_iff_of_length_le (short left tie.left_accepted)).mpr held
    exact filter_error_of_tie ranked tie shown

end Engine

/-- Filtering returns a result unless it has to compare a null character. Two texts are compared
up to `count` exactly if neither shows a null character there, so texts that hold none can always
be compared, and only they. Filtering fails only if it ranks and a null character is in a tie: two
accepted candidates at different places have one score, and one of them holds it. It does fail if
the null character stands in it behind fewer composed code points than the candidate has
characters, which is so wherever composition lengthens no candidate. A deadline that is reached in
between stops where some limit does. -/
theorem filter_returns_unless_null (engine : Engine) (candidates : List TextData)
    (budget : Budget) :
    (∀ left right count, (∃ order, Ranking.localeCompare left right count = .ok order) ↔
      ¬ShowsNull (Ranking.kept count (composed left).length) left ∧
        ¬ShowsNull (Ranking.kept count (composed right).length) right) ∧
    (∀ left right, (∀ count, ∃ order, Ranking.localeCompare left right count = .ok order) ↔
      nullChar ∉ left ∧ nullChar ∉ right) ∧
    let texts := candidates.map TextData.decoded
    let count := budget.evaluated texts.length
    ((engine.isRanked = true → ∀ left right, engine.Ties texts count left right →
        nullChar ∉ left.text) →
      ∃ result, engine.filter texts budget = .ok result) ∧
    (engine.isRanked = true → ∀ left right, engine.Ties texts count left right →
      ShowsNull left.text.length left.text →
        engine.filter texts budget = .error .embeddedNull) ∧
    ((∀ entry, engine.Accepts texts count entry →
        (composed entry.text).length ≤ entry.text.length) →
      (engine.filter texts budget = .error .embeddedNull ↔ engine.isRanked = true ∧
        ∃ left right, engine.Ties texts count left right ∧ nullChar ∈ left.text)) := by
  refine ⟨fun left right count => Ranking.localeCompare_isOk_iff,
    fun left right => Ranking.localeCompare_total_iff, ?_⟩
  intro texts count
  refine ⟨Engine.filter_ok_of_ties, ?_, Engine.filter_error_iff⟩
  intro ranked left right tie shown
  exact Engine.filter_error_of_tie ranked tie shown

/-- A null character is not compared with a letter, and two different candidates that both cost
one edit are not ranked if one ends with a null character. -/
theorem null_is_not_compared :
    Ranking.localeCompare [nullChar] ['a'] 1 = .error .embeddedNull ∧
      (Engine.ofQuery ['a'] {} false true).map (fun engine =>
        engine.filter [['a', nullChar], ['a', 'b']] .unlimited) = .ok (.error .embeddedNull) := by
  decide +kernel

end Winnow
