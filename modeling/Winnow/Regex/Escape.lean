import Winnow.Text.Basic

/-!
# Escaping

A text whose special characters are escaped is a pattern that matches exactly that text.
-/

namespace Winnow.Regex

/-- The characters that may have a meaning of their own inside a pattern. -/
def special : List Char :=
  ['\t', '\n', Char.ofNat 0x0B, Char.ofNat 0x0C, '\r', ' ', '#', '$', '&', '(', ')', '*', '+', '-',
    '.', '?', '[', '\\', ']', '^', '\x7b', '|', '\x7d', '~']

/-- A character as a pattern that matches it. -/
def escapeChar (char : Char) : Text :=
  if special.contains char then ['\\', char] else [char]

/-- A text as a pattern that matches it. -/
def escape (text : Text) : Text := text.flatMap escapeChar

/-- Escaping works character by character, so it distributes over concatenation. -/
theorem escape_append (left right : Text) : escape (left ++ right) = escape left ++ escape right :=
  List.flatMap_append

end Winnow.Regex
