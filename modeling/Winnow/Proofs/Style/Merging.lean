import Winnow.Style.Span

/-!
# What merged styles are made of

Merging lays the spans one after the other over the positions that they cover
(`Span.paint`, `foldl_paint_eq`). At a position this combines the styles of the spans
that cover it (`styleAt_eq`). Combining joins attributes and keeps the last color
(`has_foldl_combine`, `color_foldl_combine`), so what the spans at a position amount to
can be read off them without combining anything, however they overlap
(`mergeSpans_closedForm`).
-/

namespace Winnow

/-! ## Attributes -/

/-- The attributes that a style may have. -/
inductive Attribute
  | bold
  | underline
  | italic
  | colored
  deriving DecidableEq, Repr

namespace Style

/-- Whether a style has an attribute. -/
def has (style : Style) : Attribute → Bool
  | .bold => style.bold
  | .underline => style.underline
  | .italic => style.italic
  | .colored => style.colored

@[simp] theorem has_combine (base overlay : Style) (kind : Attribute) :
    (base.combine overlay).has kind = (base.has kind || overlay.has kind) := by
  cases kind <;> rfl

@[simp] theorem combine_self (style : Style) : style.combine style = style := by
  simp [combine]

/-- Styles that are combined in order have the attributes of all of them. -/
theorem has_foldl_combine (base : Style) (styles : List Style) (kind : Attribute) :
    (styles.foldl combine base).has kind
      = (base :: styles).any fun style => style.has kind := by
  induction styles generalizing base with
  | nil => simp
  | cons style styles ih =>
      rw [List.foldl_cons, ih]
      simp [Bool.or_assoc]

/-- Styles that are combined in order have the color of the last one that is colored, and else that
of the first one. -/
theorem color_foldl_combine (base : Style) (styles : List Style) :
    (styles.foldl combine base).color = ((styles.filter colored).getLastD base).color := by
  induction styles generalizing base with
  | nil => rfl
  | cons style styles ih =>
      rw [List.foldl_cons, ih]
      by_cases covers : style.colored = true
      · rw [List.filter_cons_of_pos covers, List.getLastD_cons]
        cases styles.filter colored with
        | nil => simp [combine, covers]
        | cons => rfl
      · rw [List.filter_cons_of_neg covers]
        cases styles.filter colored with
        | nil => simp [combine, covers]
        | cons => rfl

/-- Combining a style with itself any number of times gives the style. -/
theorem foldl_combine_of_forall_eq {style : Style} {styles : List Style}
    (same : ∀ other ∈ styles, other = style) : styles.foldl combine style = style := by
  induction styles with
  | nil => rfl
  | cons other styles ih =>
      obtain ⟨rfl, others⟩ := List.forall_mem_cons.mp same
      rw [List.foldl_cons, combine_self, ih others]

end Style

/-! ## One position -/

/-- The style of a span on top of what is there already. -/
def Span.over (span : Span) : Option Style → Style
  | none => span.style
  | some base => base.combine span.style

/-- The spans that cover a position, in their order. -/
def spansOver (spans : List Span) (position : Nat) : List Span :=
  spans.filter fun span => span.covers position

section

variable {spans : List Span} {position : Nat}

theorem mem_spansOver_iff {span : Span} :
    span ∈ spansOver spans position ↔
      span ∈ spans ∧ span.start ≤ position ∧ (position : Int) < span.stop := by
  simp [spansOver, Span.covers]

theorem spansOver_cons (span : Span) (spans : List Span) (position : Nat) :
    spansOver (span :: spans) position
      = if span.covers position then span :: spansOver spans position
        else spansOver spans position :=
  List.filter_cons

theorem spansOver_eq_nil_iff :
    spansOver spans position = [] ↔
      ∀ span ∈ spans, ¬(span.start ≤ position ∧ (position : Int) < span.stop) := by
  simp [spansOver, Span.covers, List.filter_eq_nil_iff]

theorem styleAt_eq_foldl (spans : List Span) (position : Nat) :
    styleAt spans position
      = (spansOver spans position).foldl (fun entry span => some (span.over entry)) none := by
  rw [spansOver, List.foldl_filter, styleAt]
  congr 1

/-- Spans on top of a style combine with it. -/
theorem foldl_over_some (base : Style) (spans : List Span) :
    spans.foldl (fun entry span => some (span.over entry)) (some base)
      = some ((spans.map Span.style).foldl Style.combine base) := by
  induction spans generalizing base with
  | nil => rfl
  | cons span spans ih =>
      rw [List.foldl_cons, List.map_cons, List.foldl_cons]
      exact ih (base.combine span.style)

/-- Spans that are combined in order have the color of the last one that is colored, and else that of
the first one. -/
theorem color_foldl_over (first : Span) (others : List Span) :
    ((others.map Span.style).foldl Style.combine first.style).color
      = (((first :: others).filter fun span => span.style.colored).getLastD first).style.color := by
  have behind : ((first :: others).filter fun span => span.style.colored).getLastD first
      = (others.filter fun span => span.style.colored).getLastD first := by
    rw [List.filter_cons]
    split
    · rw [List.getLastD_cons]
    · rfl
  rw [Style.color_foldl_combine, behind, List.filter_map, List.getLastD_eq_getLast?,
    List.getLastD_eq_getLast?, List.getLast?_map, Option.getD_map]
  rfl

/-- The style at a position combines those of the spans over it. -/
theorem styleAt_eq (spans : List Span) (position : Nat) :
    styleAt spans position
      = match spansOver spans position with
        | [] => none
        | first :: others => some ((others.map Span.style).foldl Style.combine first.style) := by
  rw [styleAt_eq_foldl]
  cases spansOver spans position with
  | nil => rfl
  | cons first others => exact foldl_over_some first.style others

theorem styleAt_eq_none_iff : styleAt spans position = none ↔ spansOver spans position = [] := by
  rw [styleAt_eq]
  cases spansOver spans position <;> simp

end

/-! ## All positions -/

/-- The positions of a text of some length that a span covers. What lies outside the text is
cut off at both ends. -/
def Span.positions (length : Int) (span : Span) : List Nat :=
  List.range' (max span.start 0).toNat ((min span.stop length).toNat - (max span.start 0).toNat)

/-- Lays a span over its positions, from left to right. -/
def Span.paint (length : Int) (entries : List (Option Style)) (span : Span) :
    List (Option Style) :=
  (span.positions length).foldl
    (fun entries position => entries.modify position fun entry => some (span.over entry)) entries

section

variable {length : Int} {position : Nat}

theorem mem_positions_iff (inside : (position : Int) < length) (span : Span) :
    position ∈ span.positions length ↔ span.covers position = true := by
  simp only [Span.positions, List.mem_range'_1, Span.covers, decide_eq_true_eq]
  omega

/-- Changing different positions one after the other changes each of them once. -/
theorem getElem?_foldl_modify {α : Type} (change : α → α) {positions : List Nat}
    (distinct : positions.Nodup) (entries : List α) :
    (positions.foldl (fun entries position => entries.modify position change) entries)[position]?
      = if position ∈ positions then entries[position]?.map change else entries[position]? := by
  induction positions generalizing entries with
  | nil => simp
  | cons here positions ih =>
      obtain ⟨once, others⟩ := List.nodup_cons.mp distinct
      rw [List.foldl_cons, ih others, List.getElem?_modify]
      by_cases same : here = position
      · subst same
        simp [once]
      · simp [same, Ne.symm same]

/-- A span that is laid over a text changes the positions that it covers. -/
theorem getElem?_paint (inside : (position : Int) < length) (entries : List (Option Style))
    (span : Span) :
    (span.paint length entries)[position]?
      = if span.covers position then entries[position]?.map fun entry => some (span.over entry)
        else entries[position]? := by
  have distinct : (span.positions length).Nodup := List.nodup_range'
  rw [Span.paint, getElem?_foldl_modify _ distinct]
  simp only [mem_positions_iff inside]

/-- Spans that are laid over a text one after the other are laid over each position in order. -/
theorem getElem?_foldl_paint (inside : (position : Int) < length) (spans : List Span)
    (entries : List (Option Style)) :
    (spans.foldl (Span.paint length) entries)[position]?
      = entries[position]?.map fun entry =>
          (spansOver spans position).foldl (fun entry span => some (span.over entry)) entry := by
  induction spans generalizing entries with
  | nil => simp [spansOver]
  | cons span spans ih =>
      rw [List.foldl_cons, ih, getElem?_paint inside, spansOver_cons]
      split
      · rw [Option.map_map]
        rfl
      · rfl

@[simp] theorem length_paint (length : Int) (entries : List (Option Style)) (span : Span) :
    (span.paint length entries).length = entries.length := by
  rw [Span.paint]
  exact List.foldlRecOn (span.positions length) _
    (motive := fun painted : List (Option Style) => painted.length = entries.length) rfl
    fun painted same position _ => by rw [List.length_modify, same]

/-- Merging is laying the spans one after the other over a text without styles. -/
theorem foldl_paint_eq (spans : List Span) (length : Int) :
    spans.foldl (Span.paint length) (List.replicate length.toNat none)
      = mergeSpans spans length.toNat := by
  have lengths : (spans.foldl (Span.paint length) (List.replicate length.toNat none)).length
      = length.toNat :=
    List.foldlRecOn spans _
      (motive := fun entries : List (Option Style) => entries.length = length.toNat)
      List.length_replicate fun entries same span _ => by rw [length_paint, same]
  apply List.ext_getElem?
  intro position
  by_cases inside : position < length.toNat
  · rw [getElem?_foldl_paint (by omega), List.getElem?_replicate_of_lt inside, mergeSpans,
      List.getElem?_map, List.getElem?_range inside, Option.map_some, Option.map_some,
      styleAt_eq_foldl]
  · rw [List.getElem?_eq_none (by omega), List.getElem?_eq_none (by simp [mergeSpans]; omega)]

theorem getElem?_mergeSpans (inside : (position : Int) < length) (spans : List Span) :
    (mergeSpans spans length.toNat)[position]? = some (styleAt spans position) := by
  rw [mergeSpans, List.getElem?_map, List.getElem?_range (by omega), Option.map_some]

end

/-- Spans merge into one entry for each position of a text, also if they overlap, lie outside the
text or end before they begin; this is the same as laying them over the text one after the other.
No style is merged exactly where no span covers the position. Elsewhere the style has the attributes
of all spans over the position, and the color of the last of them that is colored, or of the first
one if none is. If all spans have one style, it is that style. -/
theorem mergeSpans_closedForm (spans : List Span) (length : Int) :
    mergeSpans spans length.toNat
        = spans.foldl (Span.paint length) (List.replicate length.toNat none) ∧
    ((mergeSpans spans length.toNat).length : Int) = max length 0 ∧
    ∀ position : Nat, position < length →
      ((mergeSpans spans length.toNat)[position]? = some none ↔
        ∀ span ∈ spans, ¬(span.start ≤ position ∧ (position : Int) < span.stop)) ∧
      ∀ first ∈ (spansOver spans position).head?, ∃ style,
        (mergeSpans spans length.toNat)[position]? = some (some style) ∧
        (∀ kind, style.has kind = true ↔
          ∃ span ∈ spansOver spans position, span.style.has kind = true) ∧
        style.color
          = (((spansOver spans position).filter fun span => span.style.colored).getLastD
              first).style.color ∧
        ∀ uniform, (∀ span ∈ spans, span.style = uniform) → style = uniform := by
  refine ⟨(foldl_paint_eq spans length).symm, ?_, fun position inside => ?_⟩
  · rw [mergeSpans, List.length_map, List.length_range]
    omega
  rw [getElem?_mergeSpans inside]
  constructor
  · rw [Option.some_inj, styleAt_eq_none_iff, spansOver_eq_nil_iff]
  · intro first head
    obtain ⟨others, covering⟩ := List.head?_eq_some_iff.mp head
    have merged := styleAt_eq spans position
    rw [covering] at merged
    refine ⟨_, congrArg some merged, fun kind => ?_, ?_, fun uniform same => ?_⟩
    · rw [Style.has_foldl_combine, covering]
      simp
    · rw [covering, color_foldl_over]
    · have all : ∀ span ∈ first :: others, span.style = uniform := by
        rw [← covering]
        exact fun span member => same span (mem_spansOver_iff.mp member).1
      obtain ⟨rfl, rest⟩ := List.forall_mem_cons.mp all
      exact Style.foldl_combine_of_forall_eq (List.forall_mem_map.mpr rest)

end Winnow
