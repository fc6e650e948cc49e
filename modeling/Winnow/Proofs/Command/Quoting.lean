import Winnow.Program

/-!
# Command lines are read back

Quoting is undone by splitting: the characters of a word that is left bare mean
nothing to the reader, and inside single quotes every character is spelled so that
it is read as itself (`splitFrom_quoteChar`). So a quoted word is read as one word,
even if it is empty (`splitFrom_quote`), and a command line made of words is split
into these words (`split_join`), whatever characters they hold. The line that is
printed for a candidate where a command is asked for is such a command line
(`lineFor_split`).
-/

namespace Winnow

namespace ShellWords

/-! ## Quoted words -/

/-- A safe character means nothing to the reader. -/
theorem plain_of_isSafe {char : Char} (safe : isSafe char = true) :
    isSeparator char = false ∧ char ≠ '\'' ∧ char ≠ '"' ∧ char ≠ '\\' := by
  have special : [' ', '\t', '\r', '\n', '\'', '"', '\\'].all (!isSafe ·) = true := by decide
  have apart : ∀ other ∈ [' ', '\t', '\r', '\n', '\'', '"', '\\'], char ≠ other := by
    rintro other member rfl
    have notSafe := List.all_eq_true.mp special char member
    rw [safe] at notSafe
    cases notSafe
  simp only [List.forall_mem_cons] at apart
  obtain ⟨space, tab, carriageReturn, lineFeed, quote, doubleQuote, backslash, -⟩ := apart
  refine ⟨?_, quote, doubleQuote, backslash⟩
  simp [isSeparator, space, tab, carriageReturn, lineFeed]

/-- Safe characters are added to the word that has begun. -/
theorem splitFrom_safe {word : Text} (safe : ∀ char ∈ word, isSafe char = true) (before : Text)
    (quoted : Bool) (rest : Text) :
    splitFrom .plain before quoted (word ++ rest)
      = splitFrom .plain (word.reverse ++ before) quoted rest := by
  induction word generalizing before with
  | nil => rfl
  | cons char word ih =>
      obtain ⟨here, later⟩ := List.forall_mem_cons.mp safe
      obtain ⟨separates, quote, doubleQuote, backslash⟩ := plain_of_isSafe here
      have step : splitFrom .plain before quoted (char :: (word ++ rest))
          = splitFrom .plain (char :: before) quoted (word ++ rest) := by
        simp [splitFrom, separates, quote, doubleQuote, backslash]
      rw [List.cons_append, step, ih later]
      simp

/-- Inside single quotes the spelling of a character is read as that character. -/
theorem splitFrom_quoteChar (char : Char) (before rest : Text) :
    splitFrom (.quote '\'') before true (quoteChar char ++ rest)
      = splitFrom (.quote '\'') (char :: before) true rest := by
  by_cases mark : char = '\''
  · -- The quotes are closed, a single quote stands in double quotes, and they are opened again.
    subst mark
    rfl
  · simp [quoteChar, splitFrom, mark]

/-- Inside single quotes the spelling of a word is read as that word. -/
theorem splitFrom_quoteChars (word before rest : Text) :
    splitFrom (.quote '\'') before true (word.flatMap quoteChar ++ rest)
      = splitFrom (.quote '\'') (word.reverse ++ before) true rest := by
  induction word generalizing before with
  | nil => rfl
  | cons char word ih =>
      rw [List.flatMap_cons, List.append_assoc, splitFrom_quoteChar, ih]
      simp

/-- Where a word may begin, a quoted word is read as the word, and it counts as one even if it is
empty. -/
theorem splitFrom_quote (word rest : Text) :
    ∃ quoted, finish word.reverse quoted = [word] ∧
      splitFrom .plain [] false (quote word ++ rest)
        = splitFrom .plain word.reverse quoted rest := by
  by_cases bare : word ≠ [] ∧ ∀ char ∈ word, isSafe char = true
  · obtain ⟨filled, safe⟩ := bare
    have unquoted : quote word = word := by
      rw [quote, if_pos]
      simpa using And.intro filled safe
    refine ⟨false, by simp [finish, filled], ?_⟩
    rw [unquoted, splitFrom_safe safe, List.append_nil]
  · have enclosed : quote word = '\'' :: word.flatMap quoteChar ++ ['\''] := by
      rw [quote, if_neg]
      simpa using bare
    refine ⟨true, by simp [finish], ?_⟩
    calc splitFrom .plain [] false (quote word ++ rest)
        = splitFrom (.quote '\'') [] true (word.flatMap quoteChar ++ '\'' :: rest) := by
          rw [enclosed]
          simp [splitFrom, isSeparator]
      _ = splitFrom (.quote '\'') word.reverse true ('\'' :: rest) := by
          rw [splitFrom_quoteChars, List.append_nil]
      _ = splitFrom .plain word.reverse true rest := rfl

/-! ## Command lines -/

/-- A command line made of words is split into these words. -/
theorem split_join (words : List Text) : split (join words) = .ok words := by
  rw [split, join, Text.join]
  induction words with
  | nil => rfl
  | cons word words ih =>
      cases words with
      | nil =>
          obtain ⟨quoted, finished, reads⟩ := splitFrom_quote word []
          rw [List.append_nil] at reads
          rw [List.map_singleton, List.intercalate_singleton, reads, splitFrom, finished]
      | cons next words =>
          have joined : [' '].intercalate ((word :: next :: words).map quote)
              = quote word ++ ' ' :: [' '].intercalate ((next :: words).map quote) := by
            simp [List.intercalate_cons_cons]
          obtain ⟨quoted, finished, reads⟩ :=
            splitFrom_quote word (' ' :: [' '].intercalate ((next :: words).map quote))
          have separated : splitFrom .plain word.reverse quoted
                (' ' :: [' '].intercalate ((next :: words).map quote))
              = (splitFrom .plain [] false ([' '].intercalate ((next :: words).map quote))).map
                  (finish word.reverse quoted ++ ·) := rfl
          rw [joined, reads, separated, ih, finished]
          rfl

end ShellWords

theorem Template.build_nil (replacements : List Replacement) :
    build [] replacements = .error .noWords := rfl

namespace Program

/-- Where a command is asked for and can be built for a candidate, the line for that candidate is
split into the words of the command. -/
theorem lineFor_split {prepared : Prepared} {request : CommandLine.Request} {template : Text}
    (asks : request.command = some template) (engine : Engine) (style : Option Style)
    {candidate : Text} {words : List Text}
    (built : Template.build template
      (prepared.settings.commands.replacements [("cmd".toList, candidate)]) = .ok words) :
    ∃ line, lineFor prepared request engine style candidate = .ok line ∧
      ShellWords.split line = .ok words := by
  have filled : template ≠ [] := by
    rintro rfl
    cases (Template.build_nil _).symm.trans built
  have asked : asked request.command = some template := by
    rw [asks]
    simp [Program.asked, Option.filter, filled]
  refine ⟨ShellWords.join words, ?_, ShellWords.split_join words⟩
  unfold lineFor
  simp only [asked, built]
  rfl

/-- A candidate with quotes, a backslash and a line feed is spread over three words, behind which
an empty one follows. -/
theorem lineFor_split_quotes :
    let prepared : Prepared := ⟨{}, none⟩
    let template : Text := "run \x7bcmd\x7d ''".toList
    let request : CommandLine.Request := { command := some template }
    let engine : Engine := ⟨⟨[], {}, []⟩, false, false⟩
    let candidate : Text := "it\\'s 'a  b' \"é\n\"".toList
    let words : List Text :=
      ["run".toList, "it's".toList, "a  b".toList, "é\n".toList, []]
    request.command = some template ∧
      Template.build template
        (prepared.settings.commands.replacements [("cmd".toList, candidate)]) = .ok words ∧
      ∃ line, lineFor prepared request engine none candidate = .ok line ∧
        ShellWords.split line = .ok words := by
  intro prepared template request engine candidate words
  have built : Template.build template
      (prepared.settings.commands.replacements [("cmd".toList, candidate)]) = .ok words := by
    rfl
  exact ⟨rfl, built, lineFor_split rfl engine none built⟩

end Program

end Winnow
