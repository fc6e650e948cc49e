import Winnow.Style.Color

/-!
# Styles

A style is a set of attributes and a color that counts if the color attribute is among them. Styles
of the same text combine: attributes are joined, and the later color wins.
-/

namespace Winnow

/-- A text style. -/
structure Style where
  bold : Bool
  underline : Bool
  italic : Bool
  colored : Bool
  color : Color
  deriving DecidableEq, Repr

namespace Style

/-- The style that changes nothing. -/
def plain : Style := ⟨false, false, false, false, .black⟩

/-- The style of matched text where none is given. -/
def standard : Style := ⟨true, true, false, false, .black⟩

/-- Whether a style has no attribute. -/
def isPlain (style : Style) : Bool :=
  !style.bold && !style.underline && !style.italic && !style.colored

/-- Equality of the attributes and of the channels as numbers. -/
def sameValue (left right : Style) : Bool :=
  left.bold == right.bold && left.underline == right.underline && left.italic == right.italic
    && left.colored == right.colored && left.color.sameValue right.color

/-- Combines two styles of the same text. -/
def combine (base overlay : Style) : Style :=
  ⟨base.bold || overlay.bold, base.underline || overlay.underline, base.italic || overlay.italic,
    base.colored || overlay.colored, if overlay.colored then overlay.color else base.color⟩

/-- The style in words, as the screen layout takes it. -/
def description (style : Style) : Text :=
  Text.join [' ']
    ((if style.bold then ["bold".toList] else [])
      ++ (if style.underline then ["underline".toList] else [])
      ++ (if style.italic then ["italic".toList] else [])
      ++ (if style.colored then ["fg:".toList ++ style.color.hex] else []))

/-- The codes that switch a style on in a terminal. -/
def terminalCodes (style : Style) : List Int :=
  (if style.bold then [1] else []) ++ (if style.italic then [3] else [])
    ++ (if style.underline then [4] else [])
    ++ (if style.colored then 38 :: 2 :: style.color.byteChannels else [])

/-- The escape character. -/
def escapeChar : Char := Char.ofNat 0x1B

/-- The terminal sequence that switches a style on; a plain style needs none. -/
def terminalSequence (style : Style) : Text :=
  let codes := style.terminalCodes
  if codes.isEmpty then []
  else escapeChar :: '[' :: Text.join [';'] (codes.map intText) ++ ['m']

/-- The terminal sequence that switches every style off. -/
def terminalReset : Text := [escapeChar, '[', '0', 'm']

end Style

end Winnow
