import Winnow.Command.Template

/-!
# Templates in pieces

A template is read from left to right: where a placeholder begins, the whole of it is one
piece, and any other character is a piece by itself (`Reads`). There is one way to read it
(`Reads.unique`). Expansion puts the last value that is given for a placeholder in its
place and copies everything else (`expand_eq_fill`), so what a value holds is never read as
a part of the template (`expand_single_pass`).
-/

namespace Winnow.Template

/-! ## Placeholders -/

/-- A placeholder as it is spelled in a template and in a replacement. -/
def spelled (name : Text) : Text := openBrace :: name ++ [closeBrace]

/-- A text that a placeholder can have as its name. -/
def IsName (name : Text) : Prop := name ≠ [] ∧ ∀ char ∈ name, isNameChar char = true

instance (name : Text) : Decidable (IsName name) :=
  decidable_of_iff (name ≠ [] ∧ name.all isNameChar = true)
    (and_congr_right fun _ => List.all_eq_true)

/-- A placeholder stands at the beginning of a text. -/
def BeginsPlaceholder (text : Text) : Prop := ∃ name, IsName name ∧ spelled name <+: text

theorem isNameChar_openBrace : isNameChar openBrace = false := by decide

theorem isNameChar_closeBrace : isNameChar closeBrace = false := by decide

theorem eq_takeWhile_of_spelled {name text : Text} (isName : IsName name)
    (begins : spelled name <+: text) : name = text.tail.takeWhile isNameChar := by
  obtain ⟨rest, rfl⟩ := begins
  have behind : (spelled name ++ rest).tail = name ++ closeBrace :: rest := by simp [spelled]
  rw [behind, List.takeWhile_append_of_pos isName.2,
    List.takeWhile_cons_of_neg (by simp [isNameChar_closeBrace]), List.append_nil]

instance : DecidablePred BeginsPlaceholder := fun text =>
  decidable_of_iff
    (IsName (text.tail.takeWhile isNameChar) ∧ spelled (text.tail.takeWhile isNameChar) <+: text)
    ⟨fun found => ⟨_, found⟩, fun ⟨_, isName, begins⟩ =>
      eq_takeWhile_of_spelled isName begins ▸ ⟨isName, begins⟩⟩

/-! ## Reading a template -/

/-- A piece of a template: a character by itself, or a placeholder. -/
inductive Piece
  | char (char : Char)
  | placeholder (name : Text)
  deriving DecidableEq, Repr

/-- The pieces of a template, from left to right. -/
inductive Reads : Text → List Piece → Prop
  | nil : Reads [] []
  | placeholder {name rest : Text} {pieces : List Piece} (isName : IsName name)
      (reads : Reads rest pieces) : Reads (spelled name ++ rest) (.placeholder name :: pieces)
  | char {char : Char} {rest : Text} {pieces : List Piece}
      (alone : ¬BeginsPlaceholder (char :: rest)) (reads : Reads rest pieces) :
      Reads (char :: rest) (.char char :: pieces)

/-- Every template can be read. -/
theorem exists_reads (template : Text) : ∃ pieces, Reads template pieces := by
  induction size : template.length using Nat.strongRecOn generalizing template with
  | ind size ih =>
      cases template with
      | nil => exact ⟨[], .nil⟩
      | cons char rest =>
          rw [List.length_cons] at size
          by_cases begins : BeginsPlaceholder (char :: rest)
          · obtain ⟨name, isName, behind, whole⟩ := begins
            have lengths := congrArg List.length whole
            simp only [spelled, List.length_append, List.length_cons] at lengths
            obtain ⟨pieces, reads⟩ := ih behind.length (by omega) behind rfl
            exact ⟨_, whole ▸ Reads.placeholder isName reads⟩
          · obtain ⟨pieces, reads⟩ := ih rest.length (by omega) rest rfl
            exact ⟨_, .char begins reads⟩

/-- A template can be read in one way only. -/
theorem Reads.unique {template : Text} {pieces others : List Piece}
    (first : Reads template pieces) (second : Reads template others) : pieces = others := by
  induction first generalizing others with
  | nil =>
      generalize whole : ([] : Text) = text at second
      cases second with
      | nil => rfl
      | placeholder | char => cases whole
  | @placeholder name rest pieces isName _ ih =>
      generalize whole : spelled name ++ rest = text at second
      cases second with
      | nil => cases whole
      | @placeholder other _ _ isOther reads =>
          have same : name = other := by
            rw [eq_takeWhile_of_spelled isName ⟨rest, whole⟩,
              ← eq_takeWhile_of_spelled isOther ⟨_, rfl⟩]
          subst same
          obtain rfl := List.append_cancel_left whole
          rw [ih reads]
      | char alone => exact absurd ⟨name, isName, rest, whole⟩ alone
  | @char char rest pieces alone _ ih =>
      generalize whole : char :: rest = text at second
      cases second with
      | nil => cases whole
      | @placeholder name behind _ isName => exact absurd ⟨name, isName, behind, whole.symm⟩ alone
      | char _ reads =>
          obtain ⟨rfl, rfl⟩ := List.cons.inj whole
          rw [ih reads]

/-! ## Putting in values -/

/-- A piece, with a value for the name of a placeholder. -/
def Piece.filled (value : Text → Text) : Piece → Text
  | .char copied => [copied]
  | .placeholder name => value name

/-- Pieces one behind the other, with a value for every placeholder. -/
def fill (value : Text → Text) (pieces : List Piece) : Text := pieces.flatMap (Piece.filled value)

/-- A template is made of its pieces. -/
theorem fill_spelled {template : Text} {pieces : List Piece} (reads : Reads template pieces) :
    fill spelled pieces = template := by
  induction reads with
  | nil => rfl
  | placeholder _ _ ih =>
      rw [fill, List.flatMap_cons, ← fill, ih]
      rfl
  | char _ _ ih =>
      rw [fill, List.flatMap_cons, ← fill, ih]
      rfl

/-- The value that is given last for a placeholder, or nothing if none is given. -/
def lastValue (replacements : List Replacement) (name : Text) : Text :=
  ((replacements.filter fun entry => entry.1 == spelled name).getLast?.map (·.2)).getD []

theorem valueOf_spelled (replacements : List Replacement) (name : Text) :
    valueOf replacements (spelled name) = lastValue replacements name := by
  rw [valueOf, lookup?, lastValue, List.getLast?_eq_head?_reverse, ← List.filter_reverse,
    List.head?_filter]

section

variable (replacements : List Replacement)

/-- Inside braces the characters of a name are kept back. -/
theorem expandFrom_some_append {name : Text} (isName : ∀ char ∈ name, isNameChar char = true)
    (before rest : Text) :
    expandFrom replacements (some before) (name ++ rest)
      = expandFrom replacements (some (name.reverse ++ before)) rest := by
  induction name generalizing before with
  | nil => rfl
  | cons char name ih =>
      obtain ⟨here, later⟩ := List.forall_mem_cons.mp isName
      have step : expandFrom replacements (some before) (char :: (name ++ rest))
          = expandFrom replacements (some (char :: before)) (name ++ rest) := by
        simp [expandFrom, here]
      rw [List.cons_append, step, ih later]
      simp

/-- Outside of braces the characters of a name are copied. -/
theorem expandFrom_none_append {name : Text} (isName : ∀ char ∈ name, isNameChar char = true)
    (rest : Text) :
    expandFrom replacements none (name ++ rest) = name ++ expandFrom replacements none rest := by
  induction name with
  | nil => rfl
  | cons char name ih =>
      obtain ⟨here, later⟩ := List.forall_mem_cons.mp isName
      have noBrace : char ≠ openBrace := by
        rintro rfl
        rw [isNameChar_openBrace] at here
        cases here
      simp [expandFrom, noBrace, ih later]

/-- A placeholder is replaced. -/
theorem expandFrom_spelled {name : Text} (isName : IsName name) (rest : Text) :
    expandFrom replacements none (spelled name ++ rest)
      = lastValue replacements name ++ expandFrom replacements none rest := by
  have opened : expandFrom replacements none (spelled name ++ rest)
      = expandFrom replacements (some []) (name ++ closeBrace :: rest) := by
    simp [expandFrom, spelled]
  have named : name.reverse.isEmpty = false := by simp [isName.1]
  rw [opened, expandFrom_some_append _ isName.2, List.append_nil, expandFrom,
    ← valueOf_spelled]
  simp [isNameChar_closeBrace, named, spelled]

/-- Where a name inside braces ends without a closing brace, or nothing is inside them, the opening
brace and the name are copied. -/
theorem expandFrom_some_of_not_closed {name rest : Text}
    (ends : ∀ char ∈ rest.head?, isNameChar char = false)
    (unclosed : name ≠ [] → rest.head? ≠ some closeBrace) :
    expandFrom replacements (some name.reverse) rest
      = openBrace :: name ++ expandFrom replacements none rest := by
  cases rest with
  | nil => simp [expandFrom]
  | cons char rest =>
      have noName : isNameChar char = false := ends char rfl
      by_cases brace : char = openBrace
      · have apart : openBrace ≠ closeBrace := by decide
        simp [expandFrom, brace, isNameChar_openBrace, apart]
      · have unnamed : char = closeBrace → name = [] := fun closes =>
          Decidable.byContradiction fun named => unclosed named (congrArg some closes)
        have copied : ¬(char = closeBrace && !name.reverse.isEmpty) = true := by
          simpa using unnamed
        simp only [expandFrom, noName, if_neg copied, if_neg brace]
        simp

/-- A character at which no placeholder begins is copied. -/
theorem expandFrom_alone {char : Char} {rest : Text} (alone : ¬BeginsPlaceholder (char :: rest)) :
    expandFrom replacements none (char :: rest) = char :: expandFrom replacements none rest := by
  by_cases brace : char = openBrace
  · subst brace
    -- The name that would be one if the brace were closed behind it.
    have parts := List.takeWhile_append_dropWhile (p := isNameChar) (l := rest)
    have isName : ∀ char ∈ rest.takeWhile isNameChar, isNameChar char = true :=
      List.all_eq_true.mp List.all_takeWhile
    have ends : ∀ char ∈ (rest.dropWhile isNameChar).head?, isNameChar char = false := by
      intro char found
      have stops := List.head?_dropWhile_not isNameChar rest
      rw [Option.mem_def.mp found] at stops
      simpa using stops
    have notClosed : rest.takeWhile isNameChar ≠ [] →
        (rest.dropWhile isNameChar).head? ≠ some closeBrace := by
      intro named closes
      obtain ⟨behind, closed⟩ := List.head?_eq_some_iff.mp closes
      refine alone ⟨rest.takeWhile isNameChar, ⟨named, isName⟩, behind, ?_⟩
      rw [closed] at parts
      simp [spelled, parts]
    have opened : expandFrom replacements none (openBrace :: rest)
        = expandFrom replacements (some []) rest := by
      simp [expandFrom]
    calc expandFrom replacements none (openBrace :: rest)
        = expandFrom replacements (some (rest.takeWhile isNameChar).reverse)
            (rest.dropWhile isNameChar) := by
          rw [opened, ← parts, expandFrom_some_append _ isName, parts, List.append_nil]
      _ = openBrace :: expandFrom replacements none
            (rest.takeWhile isNameChar ++ rest.dropWhile isNameChar) := by
          rw [expandFrom_some_of_not_closed _ ends notClosed, expandFrom_none_append _ isName,
            List.cons_append]
      _ = openBrace :: expandFrom replacements none rest := by rw [parts]
  · simp [expandFrom, brace]

/-- An expanded template is made of its pieces, with every placeholder replaced. -/
theorem expand_eq_fill {template : Text} {pieces : List Piece} (reads : Reads template pieces) :
    expand template replacements = fill (lastValue replacements) pieces := by
  rw [expand]
  induction reads with
  | nil => rfl
  | placeholder isName _ ih =>
      rw [expandFrom_spelled _ isName, ih]
      rfl
  | char alone _ ih =>
      rw [expandFrom_alone _ alone, ih]
      rfl

end

/-- Expansion is a single pass over the template. There is one way to read the template from left
to right, its pieces make up all of it, and its expansion is these pieces one behind the other with
the last value that is given for each placeholder, whatever the replacements are. -/
theorem expand_single_pass (template : Text) :
    ∃ pieces, (∀ others, Reads template others ↔ others = pieces) ∧
      fill spelled pieces = template ∧
      ∀ replacements, expand template replacements = fill (lastValue replacements) pieces := by
  obtain ⟨pieces, reads⟩ := exists_reads template
  refine ⟨pieces, fun others => ⟨fun second => second.unique reads, ?_⟩, fill_spelled reads,
    fun replacements => expand_eq_fill replacements reads⟩
  rintro rfl
  exact reads

/-- A value that spells a placeholder is not expanded again, and braces around no name stay. -/
example :
    expand "\x7b\x7ba\x7d\x7bb\x7d\x7b\x7d".toList
        [("\x7ba\x7d".toList, "x".toList), ("\x7ba\x7d".toList, "\x7bb\x7d".toList)]
      = "\x7b\x7bb\x7d\x7b\x7d".toList := by
  decide

end Winnow.Template
