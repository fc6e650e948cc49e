import Winnow.Proofs.Style.Terminal
import Winnow.Style.Span

/-!
# What a terminal shows of a rendered text

Rendering puts the stretches of equal style one behind the other, each between the
sequence of its style and the reset. A terminal shows the characters of a stretch
with the pen of its style and is plain again behind it (`shows_renderRun`). Styles
that count as equal have one pen (`ofEntry_eq_of_sameStyle`), so it does not matter
where the stretches are cut: every character is shown with the pen of the style at
its own position (`renderTerminal_displays`).
-/

namespace Winnow

/-! ## Styles that count as equal -/

theorem Binary64.round_zero_mul {factor : Binary64} {negative : Bool} {significand : Nat}
    {exponent : Int} (finite : factor = .finite negative significand exponent) (sign : Bool)
    (power : Int) : ((Binary64.finite sign 0 power).mul factor).round = 0 := by
  rw [finite]
  simp [mul, ofScaledInt, round]

/-- Numbers that count as equal round to one byte. -/
theorem Binary64.round_eq_of_sameValue {left right : Binary64}
    (same : left.sameValue right = true) :
    (left.mul (.ofInt 255)).round = (right.mul (.ofInt 255)).round := by
  have scale : Binary64.ofInt 255 = .finite false 8972014882652160 (-45) := by decide +kernel
  rw [sameValue.eq_def] at same
  split at same
  · rw [round_zero_mul scale, round_zero_mul scale]
  · cases same
  · rw [of_decide_eq_true same]

/-- Colors that count as equal have the same bytes. -/
theorem Color.byteChannels_eq_of_sameValue {left right : Color}
    (same : left.sameValue right = true) : left.byteChannels = right.byteChannels := by
  rw [sameValue, Bool.and_eq_true, Bool.and_eq_true] at same
  obtain ⟨⟨red, green⟩, blue⟩ := same
  simp only [byteChannels, channels, List.map_cons, List.map_nil,
    Binary64.round_eq_of_sameValue red, Binary64.round_eq_of_sameValue green,
    Binary64.round_eq_of_sameValue blue]

/-- Styles that count as equal are drawn with one pen. -/
theorem Pen.ofEntry_eq_of_sameStyle {left right : Option Style}
    (same : sameStyle left right = true) : ofEntry left = ofEntry right := by
  cases left with
  | none =>
      cases right with
      | none => rfl
      | some right => cases same
  | some left =>
      cases right with
      | none => cases same
      | some right =>
          have values : left.sameValue right = true := same
          simp only [Style.sameValue, Bool.and_eq_true, beq_iff_eq] at values
          obtain ⟨⟨⟨⟨bold, underline⟩, italic⟩, colored⟩, color⟩ := values
          have bytes := Color.byteChannels_eq_of_sameValue color
          simp only [ofEntry, Option.elim_some, ofStyle, bold, underline, italic, colored, bytes]

/-! ## Stretches -/

/-- The cells that a stretch of styled text stands for. -/
def runCells (run : StyledText) : List Cell := run.2.map fun char => ⟨char, .ofEntry run.1⟩

/-- A styled character in front of stretches stands for one more cell, wherever it is put. -/
theorem flatMap_consStyled (style : Option Style) (char : Char) (runs : List StyledText) :
    (consStyled style char runs).flatMap runCells
      = ⟨char, .ofEntry style⟩ :: runs.flatMap runCells := by
  cases runs with
  | nil => rfl
  | cons run rest =>
      obtain ⟨next, text⟩ := run
      rw [consStyled]
      split
      · next same =>
          rw [List.flatMap_cons, List.flatMap_cons, runCells, runCells,
            Pen.ofEntry_eq_of_sameStyle same]
          rfl
      · rfl

/-- The stretches of a text stand for its characters with the styles at their positions. -/
theorem flatMap_styledRuns (styles : List (Option Style)) (text : Text) :
    (styledRuns styles text).flatMap runCells
      = (styles.zip text).map fun (style, char) => ⟨char, .ofEntry style⟩ := by
  rw [styledRuns]
  induction styles.zip text with
  | nil => rfl
  | cons styled rest ih => rw [List.foldr_cons, flatMap_consStyled, ih, List.map_cons]

/-- A stretch that a terminal can show: its style can be drawn, and its characters are no escape
characters. -/
structure CanBeShown (run : StyledText) : Prop where
  drawable : ∀ style ∈ run.1, style.Drawable
  plainText : Style.escapeChar ∉ run.2

/-- A character that can be shown is put in front of stretches. -/
theorem canBeShown_consStyled {style : Option Style} {char : Char} {runs : List StyledText}
    (first : CanBeShown (style, [char])) (others : ∀ run ∈ runs, CanBeShown run) :
    ∀ run ∈ consStyled style char runs, CanBeShown run := by
  cases runs with
  | nil => exact List.forall_mem_singleton.mpr first
  | cons run rest =>
      obtain ⟨next, text⟩ := run
      obtain ⟨here, behind⟩ := List.forall_mem_cons.mp others
      rw [consStyled]
      split
      · have joined : Style.escapeChar ∉ char :: text := by
          have apart := first.plainText
          simp_all [here.plainText]
        exact List.forall_mem_cons.mpr ⟨⟨first.drawable, joined⟩, behind⟩
      · exact List.forall_mem_cons.mpr ⟨first, others⟩

/-- The stretches of a text without escape characters can be shown if the styles can be drawn. -/
theorem canBeShown_styledRuns {styles : List (Option Style)} {text : Text}
    (drawable : ∀ entry ∈ styles, ∀ style ∈ entry, style.Drawable)
    (free : Style.escapeChar ∉ text) : ∀ run ∈ styledRuns styles text, CanBeShown run := by
  have all : ∀ styled ∈ styles.zip text, CanBeShown (styled.1, [styled.2]) := by
    rintro ⟨entry, char⟩ member
    obtain ⟨entryMember, charMember⟩ := List.of_mem_zip member
    exact ⟨drawable entry entryMember,
      fun escape => free (List.mem_singleton.mp escape ▸ charMember)⟩
  rw [styledRuns]
  generalize styles.zip text = row at all
  induction row with
  | nil => exact List.forall_mem_nil _
  | cons styled rest ih =>
      obtain ⟨first, others⟩ := List.forall_mem_cons.mp all
      exact canBeShown_consStyled first (ih others)

/-! ## Merged styles -/

/-- Styles that can be drawn combine to one. -/
theorem Style.Drawable.combine {base overlay : Style} (baseDrawable : base.Drawable)
    (overlayDrawable : overlay.Drawable) : (base.combine overlay).Drawable := by
  intro colored
  rw [Style.combine] at colored ⊢
  by_cases covers : overlay.colored = true
  · rw [if_pos covers]
    exact overlayDrawable covers
  · rw [if_neg covers]
    refine baseDrawable ?_
    simpa [covers] using colored

/-- Spans whose styles can be drawn merge to such styles. -/
theorem drawable_styleAt {spans : List Span} (drawable : ∀ span ∈ spans, span.style.Drawable)
    (position : Nat) : ∀ style ∈ styleAt spans position, style.Drawable := by
  rw [styleAt]
  refine List.foldlRecOn spans _
    (motive := fun entry : Option Style => ∀ style ∈ entry, style.Drawable)
    (fun style missing => by cases missing) ?_
  intro entry merged span member
  split
  · cases entry with
    | none => exact fun style same => Option.some.inj same ▸ drawable span member
    | some base =>
        intro style same
        rw [← Option.some.inj same]
        exact (merged base rfl).combine (drawable span member)
  · exact merged

/-! ## Rendering -/

/-- A terminal shows a rendered stretch and is plain again behind it. -/
theorem shows_renderRun {run : StyledText} (shown : CanBeShown run) :
    Terminal.initial.Shows (renderRun run) (runCells run) .initial := by
  obtain ⟨entry, chunk⟩ := run
  cases entry with
  | none => exact Terminal.shows_text shown.plainText
  | some style =>
      have taken := (shown.drawable style rfl).shows_terminalSequence
      have text : Terminal.Shows ⟨.text, Pen.ofStyle style⟩ chunk
          (runCells (some style, chunk)) ⟨.text, Pen.ofStyle style⟩ :=
        Terminal.shows_text shown.plainText
      rw [renderRun]
      split
      · next none =>
          rw [List.isEmpty_iff.mp none] at taken
          have plain : Terminal.mk .text (Pen.ofStyle style) = .initial :=
            (congrArg Prod.fst taken).symm
          rwa [plain] at text
      · have whole := (taken.append text).append Terminal.shows_terminalReset
        rwa [List.nil_append, List.append_nil] at whole

/-- A terminal shows rendered stretches one behind the other. -/
theorem shows_renderRuns {runs : List StyledText} (shown : ∀ run ∈ runs, CanBeShown run) :
    Terminal.initial.Shows (runs.flatMap renderRun) (runs.flatMap runCells) .initial := by
  induction runs with
  | nil => exact Terminal.shows_nil _
  | cons run rest ih =>
      obtain ⟨first, others⟩ := List.forall_mem_cons.mp shown
      exact (shows_renderRun first).append (ih others)

/-- A terminal that reads a rendered text shows exactly the characters of the text, in order,
each drawn with the pen of the merged style at its position, and is plain again at the end. -/
theorem renderTerminal_displays (text : Text) (spans : List Span)
    (free : Style.escapeChar ∉ text) (drawable : ∀ span ∈ spans, span.style.Drawable) :
    ∃ cells, Terminal.initial.display (renderTerminal text spans) = (.initial, cells) ∧
      cells.map Cell.char = text ∧
      cells.map Cell.pen = (mergeSpans spans text.length).map Pen.ofEntry := by
  have merged : ∀ entry ∈ mergeSpans spans text.length, ∀ style ∈ entry, style.Drawable := by
    intro entry member
    obtain ⟨position, -, rfl⟩ := List.mem_map.mp member
    exact drawable_styleAt drawable position
  have shown := shows_renderRuns (canBeShown_styledRuns merged free)
  have lengths : (mergeSpans spans text.length).length = text.length := by simp [mergeSpans]
  refine ⟨_, shown, ?_, ?_⟩
  · rw [flatMap_styledRuns, List.map_map]
    exact List.map_snd_zip (Nat.le_of_eq lengths.symm)
  · rw [flatMap_styledRuns, List.map_map]
    have pens := congrArg (List.map Pen.ofEntry) (List.map_fst_zip (Nat.le_of_eq lengths))
    rwa [List.map_map] at pens

/-- A bold span that begins before the text, a red one that ends behind it, and one that ends
before it begins. -/
def overlappingSpans : List Span :=
  [⟨-1, 2, { Style.plain with bold := true }, 0⟩,
    ⟨1, 9, { Style.plain with italic := true, colored := true, color := .ofPercent 80 0 0 }, 1⟩,
    ⟨2, 0, .standard, 2⟩]

/-- Where two spans overlap, both styles are shown. -/
theorem renderTerminal_displays_overlap :
    Style.escapeChar ∉ ['a', 'b', 'c'] ∧ (∀ span ∈ overlappingSpans, span.style.Drawable) ∧
      ∃ cells, Terminal.initial.display (renderTerminal ['a', 'b', 'c'] overlappingSpans)
          = (.initial, cells) ∧
        cells.map Cell.char = ['a', 'b', 'c'] ∧
        cells.map Cell.pen = [⟨true, false, false, none⟩,
          ⟨true, false, true, some [204, 0, 0]⟩, ⟨false, false, true, some [204, 0, 0]⟩] := by
  have free : Style.escapeChar ∉ ['a', 'b', 'c'] := by decide
  have drawable : ∀ span ∈ overlappingSpans, span.style.Drawable := by decide +kernel
  obtain ⟨cells, displayed, chars, pens⟩ :=
    renderTerminal_displays ['a', 'b', 'c'] overlappingSpans free drawable
  exact ⟨free, drawable, cells, displayed, chars, pens.trans (by decide +kernel)⟩

end Winnow
