import Winnow.Proofs.Command.Expansion

/-!
# Quoted placeholders

Whatever is put into single quotes, unless it holds a single quote itself, is added to the
word as it is and leaves the reader inside the quotes (`splitFrom_inSingleQuotes`). So where
every placeholder of a template stands inside single quotes, the values that are put in do
not decide where the words of the command begin and end: they are the words of the template
as it is written, with the values in their places (`build_placeholders_quoted`).
-/

namespace Winnow

namespace ShellWords

/-! ## Reading one character -/

/-- The reader stands inside quotes, behind a backslash or not. -/
def Mode.inQuotes : Mode → Bool
  | .plain => false
  | .quote _ => true
  | .escape inQuotes => inQuotes

/-- Where the reader stands behind one more character. -/
def Mode.after : Mode → Char → Mode
  | .plain, char =>
    if char = '\'' || char = '"' then .quote char
    else if char = '\\' then .escape false
    else .plain
  | .quote mark, char =>
    if char = mark then .plain
    else if char = '\\' && mark = '"' then .escape true
    else .quote mark
  | .escape true, _ => .quote '"'
  | .escape false, _ => .plain

/-- What a character that ends no word adds to the word that has begun. -/
def Mode.adds : Mode → Char → Text
  | .plain, char => if char = '\'' || char = '"' || char = '\\' then [] else [char]
  | .quote mark, char => if char = mark || (char = '\\' && mark = '"') then [] else [char]
  | .escape true, char => if char = '\\' || char = '"' then [char] else ['\\', char]
  | .escape false, char => [char]

/-- A character ends the word that has begun. -/
def Mode.Ends (mode : Mode) (char : Char) : Prop := mode = .plain ∧ isSeparator char = true

instance (mode : Mode) (char : Char) : Decidable (mode.Ends char) :=
  inferInstanceAs (Decidable (_ ∧ _))

/-- Where the reader stands behind a text. -/
def Mode.behind (mode : Mode) (text : Text) : Mode := text.foldl Mode.after mode

theorem Mode.Ends.after {mode : Mode} {char : Char} (ends : mode.Ends char) :
    mode.after char = .plain := by
  obtain ⟨rfl, separates⟩ := ends
  simp only [isSeparator, Bool.or_eq_true, decide_eq_true_eq] at separates
  rcases separates with ((rfl | rfl) | rfl) | rfl <;> rfl

theorem splitFrom_cons_of_ends {mode : Mode} {char : Char} (ends : mode.Ends char) (word : Text)
    (quoted : Bool) (rest : Text) :
    splitFrom mode word quoted (char :: rest)
      = (splitFrom .plain [] false rest).map (finish word quoted ++ ·) := by
  obtain ⟨rfl, separates⟩ := ends
  rw [splitFrom, if_pos separates]

/-- A character that does not end the word is added to it in the way of the place where the reader
stands. -/
theorem splitFrom_cons_of_not_ends {mode : Mode} {char : Char} (goesOn : ¬mode.Ends char)
    (word : Text) {quoted : Bool} (known : mode.inQuotes = true → quoted = true) (rest : Text) :
    splitFrom mode word quoted (char :: rest)
      = splitFrom (mode.after char) ((mode.adds char).reverse ++ word)
          (quoted || (mode.after char).inQuotes) rest := by
  cases mode with
  | plain =>
      have inside : isSeparator char = false := by simpa [Mode.Ends] using goesOn
      by_cases quote : char = '\'' ∨ char = '"'
      · simp [splitFrom, inside, Mode.after, Mode.adds, Mode.inQuotes, quote]
      · by_cases escape : char = '\\'
        · subst escape
          simp [splitFrom, inside, Mode.after, Mode.adds, Mode.inQuotes]
        · simp [splitFrom, inside, Mode.after, Mode.adds, Mode.inQuotes, quote, escape]
  | quote mark =>
      obtain rfl := known rfl
      by_cases closes : char = mark
      · simp [splitFrom, Mode.after, Mode.adds, closes]
      · by_cases escape : char = '\\' ∧ mark = '"'
        · obtain ⟨rfl, rfl⟩ := escape
          simp [splitFrom, Mode.after, Mode.adds]
        · simp [splitFrom, Mode.after, Mode.adds, closes, escape]
  | escape inQuotes =>
      cases inQuotes with
      | false => simp [splitFrom, Mode.after, Mode.adds, Mode.inQuotes]
      | true =>
          obtain rfl := known rfl
          by_cases kept : char = '\\' ∨ char = '"'
          · simp [splitFrom, Mode.after, Mode.adds, kept]
          · simp [splitFrom, Mode.after, Mode.adds, kept]

/-! ## Inside single quotes -/

/-- A text without single quotes leaves the reader inside them. -/
theorem behind_inSingleQuotes {text : Text} (free : '\'' ∉ text) :
    (Mode.quote '\'').behind text = .quote '\'' := by
  induction text with
  | nil => rfl
  | cons char text ih =>
      have here : char ≠ '\'' := (List.ne_of_not_mem_cons free).symm
      have step : (Mode.quote '\'').after char = .quote '\'' := by
        simp [Mode.after, here]
      rw [Mode.behind, List.foldl_cons, step]
      exact ih (List.not_mem_of_not_mem_cons free)

/-- Inside single quotes a text without them is added to the word. -/
theorem splitFrom_inSingleQuotes {text : Text} (free : '\'' ∉ text) (word : Text) (quoted : Bool)
    (rest : Text) :
    splitFrom (.quote '\'') word quoted (text ++ rest)
      = splitFrom (.quote '\'') (text.reverse ++ word) quoted rest := by
  induction text generalizing word with
  | nil => rfl
  | cons char text ih =>
      have here : char ≠ '\'' := (List.ne_of_not_mem_cons free).symm
      have step : splitFrom (.quote '\'') word quoted (char :: (text ++ rest))
          = splitFrom (.quote '\'') (char :: word) quoted (text ++ rest) := by
        simp [splitFrom, here]
      rw [List.cons_append, step, ih (List.not_mem_of_not_mem_cons free)]
      simp

end ShellWords

namespace Template

open ShellWords

/-! ## Templates whose placeholders are quoted -/

/-- Read from the given place on, every placeholder of a template begins inside single quotes. -/
def QuotedFrom (mode : Mode) (template : Text) : Prop :=
  ∀ offset < template.length, BeginsPlaceholder (template.drop offset) →
    mode.behind (template.take offset) = .quote '\''

instance (mode : Mode) (template : Text) : Decidable (QuotedFrom mode template) :=
  inferInstanceAs (Decidable (∀ offset < template.length, _))

/-- Every placeholder of a template begins inside single quotes. -/
def PlaceholdersQuoted (template : Text) : Prop := QuotedFrom .plain template

instance (template : Text) : Decidable (PlaceholdersQuoted template) :=
  inferInstanceAs (Decidable (QuotedFrom .plain template))

/-- No value has a single quote in it. -/
def FreeOfQuotes (replacements : List Replacement) : Prop :=
  ∀ entry ∈ replacements, '\'' ∉ entry.2

/-- A template can be read on behind a part of it. -/
theorem QuotedFrom.behind {mode : Mode} (front : Text) {rest : Text}
    (placeholders : QuotedFrom mode (front ++ rest)) : QuotedFrom (mode.behind front) rest := by
  intro offset inside begins
  have further := placeholders (front.length + offset) (by simpa using inside)
  rw [List.drop_length_add_append, List.take_length_add_append] at further
  rw [← further begins, Mode.behind, Mode.behind, Mode.behind, List.foldl_append]

theorem QuotedFrom.front {mode : Mode} {name rest : Text} (isName : IsName name)
    (placeholders : QuotedFrom mode (spelled name ++ rest)) : mode = .quote '\'' :=
  placeholders 0 (by simp [spelled]) ⟨name, isName, List.prefix_append _ _⟩

theorem quote_notMem_spelled {name : Text} (isName : IsName name) : '\'' ∉ spelled name := by
  have noName : isNameChar '\'' = false := by decide
  have notInside : '\'' ∉ name := fun member => by
    rw [isName.2 _ member] at noName
    cases noName
  simpa [spelled, openBrace, closeBrace] using notInside

theorem quote_notMem_lastValue {replacements : List Replacement}
    (free : FreeOfQuotes replacements) (name : Text) : '\'' ∉ lastValue replacements name := by
  rw [lastValue]
  cases last : (replacements.filter fun entry => entry.1 == spelled name).getLast? with
  | none => simp
  | some entry => exact free entry (List.mem_filter.mp (List.mem_of_getLast? last)).1

/-! ## The words as pieces -/

@[simp] theorem fill_append (value : Text → Text) (pieces others : List Piece) :
    fill value (pieces ++ others) = fill value pieces ++ fill value others :=
  List.flatMap_append

@[simp] theorem fill_chars (value : Text → Text) (text : Text) :
    fill value (text.map .char) = text := by
  simp [fill, List.flatMap_map, Piece.filled]

/-- A word made of pieces that has ended: nothing is no word unless it was quoted. -/
def finishPieces (word : List Piece) (quoted : Bool) : List (List Piece) :=
  if word.isEmpty && !quoted then [] else [word]

/-- Where words with a placeholder are quoted, a word ends in the same way whatever is put in. -/
theorem finish_fill {word : List Piece} {quoted : Bool}
    (known : ∀ name, .placeholder name ∈ word → quoted = true) (value : Text → Text) :
    finish (fill value word).reverse quoted = (finishPieces word quoted).map (fill value) := by
  cases quoted with
  | true => simp [finish, finishPieces]
  | false =>
      cases word with
      | nil => rfl
      | cons piece word =>
          cases piece with
          | char char => simp [finish, finishPieces, fill, Piece.filled]
          | placeholder name => cases known name List.mem_cons_self

/-- A template whose placeholders begin inside single quotes is split into the same words, as
pieces, whatever is put in. -/
theorem Reads.exists_splitFrom {template : Text} {pieces : List Piece}
    (reads : Reads template pieces) {mode : Mode} (placeholders : QuotedFrom mode template)
    (word : List Piece) (quoted : Bool) (inQuotes : mode.inQuotes = true → quoted = true)
    (known : ∀ name, .placeholder name ∈ word → quoted = true) :
    ∃ outcome : Except SplitError (List (List Piece)),
      ∀ value : Text → Text, (∀ name, IsName name → '\'' ∉ value name) →
        splitFrom mode (fill value word).reverse quoted (fill value pieces)
          = outcome.map (List.map (fill value)) := by
  -- A word that has begun is quoted if a placeholder is in it: it may be empty when it is filled.
  induction reads generalizing mode word quoted with
  | nil =>
      cases mode with
      | plain =>
          exact ⟨.ok (finishPieces word quoted), fun value _ =>
            congrArg Except.ok (finish_fill known value)⟩
      | quote _ => exact ⟨.error .noClosingQuotation, fun _ _ => rfl⟩
      | escape _ => exact ⟨.error .noEscapedCharacter, fun _ _ => rfl⟩
  | @placeholder name rest pieces isName _ ih =>
      obtain rfl := placeholders.front isName
      obtain rfl := inQuotes rfl
      have further : QuotedFrom (.quote '\'') rest :=
        behind_inSingleQuotes (quote_notMem_spelled isName) ▸ placeholders.behind _
      obtain ⟨outcome, splits⟩ := ih further (word ++ [.placeholder name]) true (fun _ => rfl)
        (fun _ _ => rfl)
      refine ⟨outcome, fun value free => ?_⟩
      calc splitFrom (.quote '\'') (fill value word).reverse true
            (fill value (.placeholder name :: pieces))
          = splitFrom (.quote '\'') (fill value word).reverse true
              (value name ++ fill value pieces) := rfl
        _ = splitFrom (.quote '\'') (fill value (word ++ [.placeholder name])).reverse true
              (fill value pieces) := by
            rw [splitFrom_inSingleQuotes (free name isName), fill_append, List.reverse_append]
            simp [fill, Piece.filled]
        _ = outcome.map (List.map (fill value)) := splits value free
  | @char char rest pieces _ _ ih =>
      have further : QuotedFrom (mode.after char) rest := placeholders.behind [char]
      by_cases ends : mode.Ends char
      · rw [ends.after] at further
        obtain ⟨outcome, splits⟩ := ih further [] false id (by simp)
        refine ⟨outcome.map (finishPieces word quoted ++ ·), fun value free => ?_⟩
        calc splitFrom mode (fill value word).reverse quoted (char :: fill value pieces)
            = (splitFrom .plain [] false (fill value pieces)).map
                (finish (fill value word).reverse quoted ++ ·) :=
              splitFrom_cons_of_ends ends _ _ _
          _ = (outcome.map (List.map (fill value))).map
                ((finishPieces word quoted).map (fill value) ++ ·) := by
              rw [finish_fill known, ← splits value free]
              rfl
          _ = (outcome.map (finishPieces word quoted ++ ·)).map (List.map (fill value)) := by
              cases outcome <;> simp [Except.map]
      · have stillKnown : ∀ name, .placeholder name ∈ word ++ (mode.adds char).map .char →
            (quoted || (mode.after char).inQuotes) = true := by
          intro name member
          have earlier : .placeholder name ∈ word := by simpa using member
          rw [known name earlier, Bool.true_or]
        obtain ⟨outcome, splits⟩ := ih further (word ++ (mode.adds char).map .char)
          (quoted || (mode.after char).inQuotes) (by simp +contextual) stillKnown
        refine ⟨outcome, fun value free => ?_⟩
        calc splitFrom mode (fill value word).reverse quoted (char :: fill value pieces)
            = splitFrom (mode.after char) ((mode.adds char).reverse ++ (fill value word).reverse)
                (quoted || (mode.after char).inQuotes) (fill value pieces) :=
              splitFrom_cons_of_not_ends ends _ inQuotes _
          _ = outcome.map (List.map (fill value)) := by
              rw [← splits value free, fill_append, fill_chars, List.reverse_append]

/-- Quoted placeholders cannot change the shape of a command. If every placeholder of a template
begins inside single quotes, then either the template as it is written is not split into any words
and gives no command, for one and the same reason whatever values without single quotes are put in;
or it is split into words that hold the placeholders, and it gives these words for all such values,
in which only the placeholders are replaced. -/
theorem build_placeholders_quoted {template : Text} (quoted : PlaceholdersQuoted template) :
    ((∀ word words, split template ≠ .ok (word :: words)) ∧
        ∃ problem, ∀ replacements, FreeOfQuotes replacements →
          build template replacements = .error problem) ∨
      ∃ skeleton : List (List Piece), split template = .ok (skeleton.map (fill spelled)) ∧
        ∀ replacements, FreeOfQuotes replacements →
          build template replacements = .ok (skeleton.map (fill (lastValue replacements))) := by
  obtain ⟨pieces, reads⟩ := exists_reads template
  obtain ⟨outcome, splits⟩ := reads.exists_splitFrom quoted [] false id (by simp)
  have written : split template = outcome.map (List.map (fill spelled)) := by
    have own := splits spelled fun _ => quote_notMem_spelled
    rwa [fill_spelled reads] at own
  have expanded : ∀ replacements, FreeOfQuotes replacements →
      split (expand template replacements)
        = outcome.map (List.map (fill (lastValue replacements))) := by
    intro replacements free
    rw [expand_eq_fill _ reads]
    exact splits _ fun name _ => quote_notMem_lastValue free name
  rw [written]
  match outcome with
  | .error cause =>
      refine .inl ⟨nofun, .unsplittable cause, fun replacements free => ?_⟩
      rw [build, expanded replacements free]
      rfl
  | .ok [] =>
      refine .inl ⟨nofun, .noWords, fun replacements free => ?_⟩
      rw [build, expanded replacements free]
      rfl
  | .ok (word :: words) =>
      refine .inr ⟨word :: words, rfl, fun replacements free => ?_⟩
      rw [build, expanded replacements free]
      rfl

/-- A command with a placeholder inside single quotes and a word in double quotes. -/
def quotedTemplate : Text := "run '-c \x7bcmd\x7d' \"x\"".toList

/-- Whatever is put in, this command has three words, and the first and the last stay. -/
theorem build_placeholders_quoted_run :
    PlaceholdersQuoted quotedTemplate ∧
      ∃ skeleton : List (List Piece),
        skeleton.map (fill spelled)
          = ["run".toList, "-c \x7bcmd\x7d".toList, "x".toList] ∧
        ∀ replacements, FreeOfQuotes replacements →
          build quotedTemplate replacements
            = .ok (skeleton.map (fill (lastValue replacements))) := by
  have quoted : PlaceholdersQuoted quotedTemplate := by decide +kernel
  have written : split quotedTemplate
      = .ok ["run".toList, "-c \x7bcmd\x7d".toList, "x".toList] := rfl
  refine ⟨quoted, ?_⟩
  rcases build_placeholders_quoted quoted with ⟨wordless, -⟩ | ⟨skeleton, shape, builds⟩
  · exact absurd written (wordless _ _)
  · exact ⟨skeleton, Except.ok.inj (shape.symm.trans written), builds⟩

end Template

end Winnow
