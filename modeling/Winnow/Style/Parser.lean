import Winnow.Style.Basic
import Winnow.Text.Case

/-!
# Reading styles

A style is written as words: attributes, names of colors, the word bright before a name, and
hexadecimal colors. The last color counts. No word, or the word none alone, is the plain style.
-/

namespace Winnow.Style

/-- Why a text is no style. -/
inductive ParseError
  | unknownAttribute (word spec : Text)
  | invalidHex (word : Text)
  deriving DecidableEq, Repr

/-- The wording of an error. -/
def ParseError.message : ParseError → String
  | unknownAttribute word spec =>
    String.ofList ("Unknown highlight attribute '".toList ++ word ++ "' in '".toList ++ spec
      ++ ['\''])
  | invalidHex word => Color.invalidHexMessage word

/-- The style with an attribute added, if the word names one. -/
def addAttribute? (style : Style) (word : Text) : Option Style :=
  match String.ofList word with
  | "bold" => some { style with bold := true }
  | "underline" => some { style with underline := true }
  | "italic" => some { style with italic := true }
  | _ => none

/-- The style with a color set. -/
def withColor (style : Style) (color : Color) : Style := { style with colored := true, color }

/-- The color that a single word writes. -/
def colorOfWord (spec word : Text) : Except ParseError Color :=
  match Color.named? Color.standard word, Color.named? Color.grays word with
  | some color, _ => .ok color
  | none, some color => .ok color
  | none, none =>
    if word.head? = some '#' then
      match Color.ofHex? word with
      | some color => .ok color
      | none => .error (.invalidHex word)
    else .error (.unknownAttribute word spec)

/-- The bright color that two words write. -/
def brightColor? (word name : Text) : Option Color :=
  if word = "bright".toList then Color.named? Color.bright name else none

/-- Adds one word that stands for itself to a style. -/
def addWord (spec : Text) (style : Style) (word : Text) : Except ParseError Style :=
  match addAttribute? style word with
  | some style => .ok style
  | none => (colorOfWord spec word).map style.withColor

/-- Adds words to a style; `spec` is the whole text for messages. -/
def addWords (spec : Text) : Style → List Text → Except ParseError Style
  | style, [] => .ok style
  | style, [word] => addWord spec style word
  | style, word :: name :: rest =>
    match brightColor? word name with
    | some color => addWords spec (style.withColor color) rest
    | none =>
      match addWord spec style word with
      | .ok style => addWords spec style (name :: rest)
      | .error problem => .error problem

/-- Reads a style. -/
def parse (spec : Text) : Except ParseError Style :=
  let words := Text.words spec.lower
  if words = ["none".toList] then .ok plain else addWords spec plain words

end Winnow.Style
