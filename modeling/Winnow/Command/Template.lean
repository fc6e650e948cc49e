import Winnow.Command.ShellWords

/-!
# Command templates

A template holds placeholders, which are names in braces. Expansion is a single pass: inserted
values are never looked at again, and braces that do not enclose a name stay as they are. The
expanded template is split into the words of a command.
-/

namespace Winnow

/-- A placeholder, braces included, with its replacement. -/
abbrev Replacement := Text × Text

namespace Template

/-- The replacement of a placeholder: the last pair counts. -/
def lookup? (replacements : List Replacement) (placeholder : Text) : Option Text :=
  (replacements.reverse.find? fun entry => entry.1 == placeholder).map (·.2)

/-- The opening brace of a placeholder. -/
def openBrace : Char := Char.ofNat 0x7B

/-- The closing brace of a placeholder. -/
def closeBrace : Char := Char.ofNat 0x7D

/-- The characters of a placeholder's name. -/
def isNameChar (char : Char) : Bool :=
  char = '-' || char = '_' || Unicode.isAlphanumeric char.toNat

/-- What stands for a placeholder: its replacement, or nothing. -/
def valueOf (replacements : List Replacement) (placeholder : Text) : Text :=
  (lookup? replacements placeholder).getD []

/-- Expands the rest of a template. Behind an opening brace, `name?` holds the characters of the
name read so far, last one first. -/
def expandFrom (replacements : List Replacement) (name? : Option Text) : Text → Text
  | [] =>
    match name? with
    | none => []
    | some name => openBrace :: name.reverse
  | char :: rest =>
    match name? with
    | none =>
      if char = openBrace then expandFrom replacements (some []) rest
      else char :: expandFrom replacements none rest
    | some name =>
      if isNameChar char then expandFrom replacements (some (char :: name)) rest
      else if char = closeBrace && !name.isEmpty then
        valueOf replacements (openBrace :: name.reverse ++ [closeBrace])
          ++ expandFrom replacements none rest
      else if char = openBrace then
        openBrace :: name.reverse ++ expandFrom replacements (some []) rest
      else openBrace :: name.reverse ++ char :: expandFrom replacements none rest

/-- Replaces every placeholder of a template; one without a replacement is removed. -/
def expand (template : Text) (replacements : List Replacement) : Text :=
  expandFrom replacements none template

/-- Why an expanded template is no command. -/
inductive BuildError
  | unsplittable (cause : ShellWords.SplitError)
  | noWords
  deriving DecidableEq, Repr

/-- The reason in words. -/
def BuildError.reason : BuildError → String
  | unsplittable cause => cause.message
  | noWords => "Text was empty (or contained only whitespace)"

/-- The wording of an error for the template that it belongs to. -/
def BuildError.message (template : Text) (problem : BuildError) : String :=
  String.ofList ("Failed to parse: '".toList ++ template ++ "'\nError: '".toList
    ++ problem.reason.toList ++ ['\''])

/-- Expands a template and splits it into the words of a command. -/
def build (template : Text) (replacements : List Replacement) : Except BuildError (List Text) :=
  match ShellWords.split (expand template replacements) with
  | .error cause => .error (.unsplittable cause)
  | .ok [] => .error .noWords
  | .ok words => .ok words

end Template

end Winnow
