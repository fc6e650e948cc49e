import Winnow.Proofs.Style.Merging
import Winnow.Proofs.Style.Rendering
import Mathlib.Data.List.SplitBy

/-!
# A text in stretches of equal style

A text with its merged styles is cut into the longest stretches of equally styled
characters (`LongestStretches`): nothing is lost, any two characters of a stretch are
styled alike, and no character is styled like one of the next stretch. There is only one
such cutting (`LongestStretches.unique`), and it is the one that is shown
(`exists_longestStretches`). As styles that count as equal have one description
(`Style.description_eq_of_sameValue`), a stretch is described by the style of any of its
characters (`styleCandidate_stretches`).
-/

namespace Winnow

/-! ## Styles that count as equal -/

namespace Binary64

/-- One of the two zeros. -/
def IsZero (value : Binary64) : Prop := ∃ negative exponent, value = .finite negative 0 exponent

/-- Numbers count as equal if both are zero or they are the same number. -/
theorem sameValue_iff {left right : Binary64} :
    left.sameValue right = true ↔
      left.IsZero ∧ right.IsZero ∨ left = right ∧ left ≠ .notANumber := by
  rw [sameValue.eq_def]
  split
  · simp [IsZero]
  · simp [IsZero]
  · next number apart =>
      rw [decide_eq_true_eq]
      constructor
      · intro same
        exact .inr ⟨same, number⟩
      · rintro (⟨⟨_, _, leftZero⟩, _, _, rightZero⟩ | ⟨same, -⟩)
        · exact absurd rightZero (apart _ _ _ _ leftZero)
        · exact same

theorem sameValue_symm {left right : Binary64} (same : left.sameValue right = true) :
    right.sameValue left = true := by
  rw [sameValue_iff] at same ⊢
  rcases same with ⟨leftZero, rightZero⟩ | ⟨rfl, number⟩
  · exact .inl ⟨rightZero, leftZero⟩
  · exact .inr ⟨rfl, number⟩

/-- Counting as equal passes on. -/
theorem sameValue_trans {left middle right : Binary64} (first : left.sameValue middle = true)
    (second : middle.sameValue right = true) : left.sameValue right = true := by
  rw [sameValue_iff] at first second ⊢
  rcases first with ⟨leftZero, middleZero⟩ | ⟨rfl, -⟩
  · rcases second with ⟨-, rightZero⟩ | ⟨rfl, -⟩
    · exact .inl ⟨leftZero, rightZero⟩
    · exact .inl ⟨leftZero, middleZero⟩
  · exact second

end Binary64

/-- Styles count as equal if they have the same attributes and their channels count as equal. -/
theorem Style.sameValue_iff {left right : Style} :
    left.sameValue right = true ↔
      (∀ kind, left.has kind = right.has kind) ∧
        left.color.red.sameValue right.color.red = true ∧
        left.color.green.sameValue right.color.green = true ∧
        left.color.blue.sameValue right.color.blue = true := by
  simp only [Style.sameValue, Color.sameValue, Bool.and_eq_true, beq_iff_eq]
  constructor
  · rintro ⟨⟨⟨⟨bold, underline⟩, italic⟩, colored⟩, ⟨red, green⟩, blue⟩
    refine ⟨fun kind => ?_, red, green, blue⟩
    cases kind with
    | bold => exact bold
    | underline => exact underline
    | italic => exact italic
    | colored => exact colored
  · rintro ⟨has, red, green, blue⟩
    exact ⟨⟨⟨⟨has .bold, has .underline⟩, has .italic⟩, has .colored⟩, ⟨red, green⟩, blue⟩

/-- Entries count as equal if both are empty or their styles count as equal. -/
theorem sameStyle_iff {left right : Option Style} :
    sameStyle left right = true ↔ Option.Rel (fun l r => l.sameValue r = true) left right := by
  constructor
  · intro same
    cases left with
    | none =>
        cases right with
        | none => exact .none
        | some _ => cases same
    | some left =>
        cases right with
        | none => cases same
        | some right => exact .some same
  · intro related
    cases related with
    | none => rfl
    | some same => exact same

/-- Whether entries count as equal does not depend on the direction. -/
theorem sameStyle_symm {left right : Option Style} (same : sameStyle left right = true) :
    sameStyle right left = true := by
  rw [sameStyle_iff] at same ⊢
  cases same with
  | none => exact .none
  | some same =>
      obtain ⟨has, red, green, blue⟩ := Style.sameValue_iff.mp same
      exact .some (Style.sameValue_iff.mpr ⟨fun kind => (has kind).symm,
        Binary64.sameValue_symm red, Binary64.sameValue_symm green, Binary64.sameValue_symm blue⟩)

/-- Counting as equal passes on from entry to entry. -/
theorem sameStyle_trans {left middle right : Option Style} (first : sameStyle left middle = true)
    (second : sameStyle middle right = true) : sameStyle left right = true := by
  rw [sameStyle_iff] at first second ⊢
  cases first with
  | none => exact second
  | some first =>
      cases second with
      | some second =>
          obtain ⟨has, red, green, blue⟩ := Style.sameValue_iff.mp first
          obtain ⟨has', red', green', blue'⟩ := Style.sameValue_iff.mp second
          exact .some (Style.sameValue_iff.mpr ⟨fun kind => (has kind).trans (has' kind),
            Binary64.sameValue_trans red red', Binary64.sameValue_trans green green',
            Binary64.sameValue_trans blue blue'⟩)

theorem sameStyle_congr_right {middle right : Option Style}
    (same : sameStyle middle right = true) (left : Option Style) :
    sameStyle left middle = sameStyle left right := by
  rw [Bool.eq_iff_iff]
  exact ⟨fun first => sameStyle_trans first same,
    fun first => sameStyle_trans first (sameStyle_symm same)⟩

/-- Styles that count as equal have one description. -/
theorem Style.description_eq_of_sameValue {left right : Style}
    (same : left.sameValue right = true) : left.description = right.description := by
  simp only [Style.sameValue, Bool.and_eq_true, beq_iff_eq] at same
  obtain ⟨⟨⟨⟨bold, underline⟩, italic⟩, colored⟩, color⟩ := same
  simp only [description, bold, underline, italic, colored, Color.hex,
    Color.byteChannels_eq_of_sameValue color]

/-! ## The longest stretches -/

/-- A character of a text with its merged style. -/
abbrev StyledChar := Option Style × Char

/-- A text is cut into its longest stretches of equally styled characters: all of the text is
there, no stretch is empty, any two characters of a stretch are styled alike, and a character is
styled unlike those of the next stretch. -/
structure LongestStretches (styled : List StyledChar) (stretches : List (List StyledChar)) :
    Prop where
  flatten_eq : stretches.flatten = styled
  filled : ∀ stretch ∈ stretches, stretch ≠ []
  alike : ∀ stretch ∈ stretches,
    stretch.Pairwise fun left right => sameStyle left.1 right.1 = true
  apart : stretches.IsChain fun stretch next =>
    ∀ left ∈ stretch, ∀ right ∈ next, sameStyle left.1 right.1 = false

namespace LongestStretches

variable {styled : List StyledChar} {stretches others : List (List StyledChar)}

/-- The stretches are those that begin wherever two neighbours are styled unlike. -/
theorem eq_splitBy (longest : LongestStretches styled stretches) :
    stretches = styled.splitBy fun left right => sameStyle left.1 right.1 := by
  have cut : stretches.IsChain fun stretch next =>
      ∃ filled nextFilled,
        sameStyle (stretch.getLast filled).1 (next.head nextFilled).1 = false := by
    refine longest.apart.imp_of_mem_imp fun stretch next member nextMember apart => ?_
    have filled := longest.filled stretch member
    have nextFilled := longest.filled next nextMember
    exact ⟨filled, nextFilled, apart _ (List.getLast_mem filled) _ (List.head_mem nextFilled)⟩
  rw [← longest.flatten_eq]
  exact (List.splitBy_flatten (fun empty => longest.filled [] empty rfl)
    (fun stretch member => (longest.alike stretch member).isChain) cut).symm

/-- A text is cut into its longest stretches in one way only. -/
theorem unique (longest : LongestStretches styled stretches)
    (another : LongestStretches styled others) : others = stretches := by
  rw [longest.eq_splitBy, another.eq_splitBy]

theorem sameStyle_of_mem {next : StyledChar} {later : List StyledChar}
    (alike : (next :: later).Pairwise fun left right => sameStyle left.1 right.1 = true)
    (style : Option Style) :
    ∀ other ∈ next :: later, sameStyle style other.1 = sameStyle style next.1 := by
  refine List.forall_mem_cons.mpr ⟨rfl, fun other member => ?_⟩
  exact (sameStyle_congr_right (List.rel_of_pairwise_cons alike member) style).symm

/-- A character in front of a text joins a stretch that begins with a character styled alike. -/
theorem join {next : StyledChar} {later : List StyledChar}
    (longest : LongestStretches styled ((next :: later) :: stretches)) {first : StyledChar}
    (same : sameStyle first.1 next.1 = true) :
    LongestStretches (first :: styled) ((first :: next :: later) :: stretches) := by
  obtain ⟨flatten, filled, alike, apart⟩ := longest
  obtain ⟨nextAlike, behindAlike⟩ := List.forall_mem_cons.mp alike
  have all : ∀ other ∈ next :: later, sameStyle first.1 other.1 = true := by
    intro other member
    rw [sameStyle_of_mem nextAlike _ other member, same]
  refine ⟨congrArg (first :: ·) flatten, ?_, ?_, ?_⟩
  · exact List.forall_mem_cons.mpr ⟨by simp, (List.forall_mem_cons.mp filled).2⟩
  · exact List.forall_mem_cons.mpr ⟨.cons all nextAlike, behindAlike⟩
  · cases stretches with
    | nil => exact .singleton _
    | cons stretch stretches =>
        obtain ⟨here, behind⟩ := List.isChain_cons_cons.mp apart
        refine .cons_cons (List.forall_mem_cons.mpr ⟨fun right member => ?_, here⟩) behind
        rw [Bool.eq_false_iff]
        intro alikeFirst
        have alikeNext := sameStyle_trans (sameStyle_symm same) alikeFirst
        rw [here next List.mem_cons_self right member] at alikeNext
        cases alikeNext

/-- A character in front of a text is a stretch of its own if the first stretch is styled
otherwise. -/
theorem begin (longest : LongestStretches styled stretches) {first : StyledChar}
    (unlike : ∀ stretch ∈ stretches.head?, ∀ right ∈ stretch,
      sameStyle first.1 right.1 = false) :
    LongestStretches (first :: styled) ([first] :: stretches) := by
  obtain ⟨flatten, filled, alike, apart⟩ := longest
  refine ⟨congrArg (first :: ·) flatten, ?_, ?_, ?_⟩
  · exact List.forall_mem_cons.mpr ⟨by simp, filled⟩
  · exact List.forall_mem_cons.mpr ⟨List.pairwise_singleton _ _, alike⟩
  · refine List.isChain_cons.mpr ⟨fun stretch head => ?_, apart⟩
    exact List.forall_mem_singleton.mpr (unlike stretch head)

end LongestStretches

/-- The stretch of styled text that characters are shown as: its style is that of the first
one. -/
def shownAs (stretch : List StyledChar) : StyledText :=
  (stretch.head?.bind Prod.fst, stretch.map Prod.snd)

/-- The stretches of a text that are shown are the longest ones. -/
theorem exists_longestStretches (styles : List (Option Style)) (text : Text) :
    ∃ stretches, LongestStretches (styles.zip text) stretches ∧
      styledRuns styles text = stretches.map shownAs := by
  rw [styledRuns]
  induction styles.zip text with
  | nil => exact ⟨[], ⟨rfl, by simp, by simp, .nil⟩, rfl⟩
  | cons first styled ih =>
      obtain ⟨stretches, longest, shown⟩ := ih
      rw [List.foldr_cons, shown]
      cases stretches with
      | nil => exact ⟨[[first]], longest.begin (by simp), rfl⟩
      | cons stretch stretches =>
          obtain ⟨next, later, rfl⟩ :=
            List.exists_cons_of_ne_nil (longest.filled _ List.mem_cons_self)
          have alike := longest.alike _ List.mem_cons_self
          by_cases same : sameStyle first.1 next.1 = true
          · exact ⟨_, longest.join same, if_pos same⟩
          · refine ⟨_, longest.begin fun stretch head right member => ?_, if_neg same⟩
            obtain rfl := Option.some.inj head
            rw [LongestStretches.sameStyle_of_mem alike _ right member]
            exact Bool.eq_false_iff.mpr same

/-! ## Described stretches -/

/-- A fragment describes a stretch on top of a base style: it has the text of the stretch, and
its style is the base alone where the stretch is plain, and else the base and the description of
the style of any of its characters, without blanks at the ends. -/
structure Describes (base : Text) (stretch : List StyledChar) (fragment : Text × Text) : Prop where
  text_eq : fragment.2 = stretch.map Prod.snd
  plain_eq : ∀ char ∈ stretch, (∀ style ∈ char.1, ∀ kind, style.has kind = false) →
    fragment.1 = base
  styled_eq : ∀ char ∈ stretch, ∀ style ∈ char.1, (∃ kind, style.has kind = true) →
    fragment.1 = (base ++ ' ' :: style.description).strip

/-- A style is plain if it has no attribute. -/
theorem Style.isPlain_iff {style : Style} :
    style.isPlain = true ↔ ∀ kind, style.has kind = false := by
  simp only [isPlain, Bool.and_eq_true, Bool.not_eq_true']
  constructor
  · rintro ⟨⟨⟨bold, underline⟩, italic⟩, colored⟩ kind
    cases kind with
    | bold => exact bold
    | underline => exact underline
    | italic => exact italic
    | colored => exact colored
  · intro has
    exact ⟨⟨⟨has .bold, has .underline⟩, has .italic⟩, has .colored⟩

/-- How the style of a stretch is described does not depend on its text. -/
theorem describeRun_eq (base : Text) (run : StyledText) :
    describeRun base run = ((describeRun base (run.1, [])).1, run.2) := by
  obtain ⟨entry, chunk⟩ := run
  cases entry with
  | none => rfl
  | some style =>
      rw [describeRun, describeRun]
      split <;> rfl

/-- Entries that count as equal are described in the same way. -/
theorem fst_describeRun_congr (base : Text) {left right : Option Style}
    (same : sameStyle left right = true) :
    (describeRun base (left, [])).1 = (describeRun base (right, [])).1 := by
  cases sameStyle_iff.mp same with
  | none => rfl
  | @some left right same =>
      have plain : left.isPlain = right.isPlain := by
        rw [Bool.eq_iff_iff, Style.isPlain_iff, Style.isPlain_iff]
        simp only [(Style.sameValue_iff.mp same).1]
      rw [describeRun, describeRun, plain, Style.description_eq_of_sameValue same]

/-- A longest stretch is described as it is shown. -/
theorem describes_describeRun (base : Text) {stretch : List StyledChar} (filled : stretch ≠ [])
    (alike : stretch.Pairwise fun left right => sameStyle left.1 right.1 = true) :
    Describes base stretch (describeRun base (shownAs stretch)) := by
  obtain ⟨next, later, rfl⟩ := List.exists_cons_of_ne_nil filled
  have own : ∀ char ∈ next :: later, (describeRun base (shownAs (next :: later))).1
      = (describeRun base (char.1, [])).1 := by
    rw [describeRun_eq]
    refine List.forall_mem_cons.mpr ⟨rfl, fun char member => ?_⟩
    exact fst_describeRun_congr base (List.rel_of_pairwise_cons alike member)
  refine ⟨by rw [describeRun_eq]; rfl, fun char member plain => ?_,
    fun char member style styled has => ?_⟩
  · rw [own char member]
    obtain ⟨entry, char⟩ := char
    cases entry with
    | none => rfl
    | some style => exact congrArg Prod.fst (if_pos (Style.isPlain_iff.mpr (plain style rfl)))
  · have notPlain : ¬style.isPlain = true := by
      rw [Style.isPlain_iff, not_forall]
      simpa using has
    rw [own char member, styled]
    exact congrArg Prod.fst (if_neg notPlain)

theorem map_snd_of_describes {base : Text} {stretches : List (List StyledChar)}
    {fragments : List (Text × Text)}
    (described : List.Forall₂ (Describes base) stretches fragments) :
    fragments.map Prod.snd = stretches.map (List.map Prod.snd) := by
  rw [eq_comm, ← List.forall₂_eq_eq_eq, List.forall₂_map_left_iff, List.forall₂_map_right_iff]
  exact described.imp fun _ _ describes => describes.text_eq.symm

section

variable (text : Text) (spans : List Span) (base : Text)

/-- The fragments of a candidate describe its longest stretches. -/
theorem exists_described :
    ∃ stretches, LongestStretches ((mergeSpans spans text.length).zip text) stretches ∧
      List.Forall₂ (Describes base) stretches (styleCandidate text spans base) := by
  obtain ⟨stretches, longest, shown⟩ :=
    exists_longestStretches (mergeSpans spans text.length) text
  refine ⟨stretches, longest, ?_⟩
  rw [styleCandidate, runsOf, shown, List.map_map, List.forall₂_map_right_iff, List.forall₂_same]
  exact fun stretch member =>
    describes_describeRun base (longest.filled stretch member) (longest.alike stretch member)

/-- One behind the other, the fragments of a candidate are its text. -/
theorem flatMap_snd_styleCandidate : (styleCandidate text spans base).flatMap Prod.snd = text := by
  obtain ⟨stretches, longest, described⟩ := exists_described text spans base
  have lengths : text.length ≤ (mergeSpans spans text.length).length := by simp [mergeSpans]
  calc (styleCandidate text spans base).flatMap Prod.snd
      = (stretches.map (List.map Prod.snd)).flatten := by
        rw [List.flatMap_def, map_snd_of_describes described]
    _ = ((mergeSpans spans text.length).zip text).map Prod.snd := by
        rw [← List.map_flatten, longest.flatten_eq]
    _ = text := List.map_snd_zip lengths

/-- The fragments of a candidate are not empty. -/
theorem ne_nil_of_mem_styleCandidate :
    ∀ fragment ∈ styleCandidate text spans base, fragment.2 ≠ [] := by
  obtain ⟨stretches, longest, described⟩ := exists_described text spans base
  intro fragment member
  have shown : fragment.2 ∈ stretches.map (List.map Prod.snd) := by
    rw [← map_snd_of_describes described]
    exact List.mem_map_of_mem member
  obtain ⟨stretch, stretchMember, same⟩ := List.mem_map.mp shown
  rw [← same]
  exact mt List.map_eq_nil_iff.mp (longest.filled stretch stretchMember)

end

/-- A candidate is shown as a row of fragments, one for each longest stretch of characters that
have the same merged style. No fragment is empty, one behind the other they are the text, and
each is described by the style of its characters on top of the base style. There is one way only
to cut the text like that. -/
theorem styleCandidate_stretches (text : Text) (spans : List Span) (base : Text) :
    ∃ stretches, LongestStretches ((mergeSpans spans text.length).zip text) stretches ∧
      (∀ others, LongestStretches ((mergeSpans spans text.length).zip text) others →
        others = stretches) ∧
      List.Forall₂ (Describes base) stretches (styleCandidate text spans base) ∧
      (∀ fragment ∈ styleCandidate text spans base, fragment.2 ≠ []) ∧
      (styleCandidate text spans base).flatMap Prod.snd = text := by
  obtain ⟨stretches, longest, described⟩ := exists_described text spans base
  exact ⟨stretches, longest, fun others another => longest.unique another, described,
    ne_nil_of_mem_styleCandidate text spans base, flatMap_snd_styleCandidate text spans base⟩

end Winnow
