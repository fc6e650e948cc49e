import Winnow.Number.Fixed
import Winnow.Number.Numeral
import Winnow.Text.Quoted

/-!
# Colors

A color has three channels on the scale from zero to one. The standard colors have names; any other
color is written with hexadecimal digits.
-/

namespace Winnow

/-- A color by its channels. -/
structure Color where
  red : Binary64
  green : Binary64
  blue : Binary64
  deriving DecidableEq, Repr

namespace Color

/-- The channels in order. -/
def channels (color : Color) : List Binary64 := [color.red, color.green, color.blue]

/-- A color whose channels are given in hundredths. -/
def ofPercent (red green blue : Nat) : Color :=
  ⟨.ofRatio false red 100, .ofRatio false green 100, .ofRatio false blue 100⟩

/-- Black. -/
def black : Color := ofPercent 0 0 0

/-- Equality of the channels as numbers. -/
def sameValue (left right : Color) : Bool :=
  left.red.sameValue right.red && left.green.sameValue right.green
    && left.blue.sameValue right.blue

/-- The standard colors. -/
def standard : List (String × Color) := [
  ("black", ofPercent 0 0 0), ("red", ofPercent 80 0 0), ("green", ofPercent 0 80 0),
  ("yellow", ofPercent 80 80 0), ("blue", ofPercent 0 0 80), ("magenta", ofPercent 80 0 80),
  ("cyan", ofPercent 0 80 80), ("white", ofPercent 90 90 90)]

/-- The bright variants of the standard colors. -/
def bright : List (String × Color) := [
  ("black", ofPercent 50 50 50), ("red", ofPercent 100 0 0), ("green", ofPercent 0 100 0),
  ("yellow", ofPercent 100 100 0), ("blue", ofPercent 36 36 100), ("magenta", ofPercent 100 0 100),
  ("cyan", ofPercent 0 100 100), ("white", ofPercent 100 100 100)]

/-- Names of bright black. -/
def grays : List (String × Color) := [
  ("gray", ofPercent 50 50 50), ("grey", ofPercent 50 50 50)]

/-- A color by its name in a table. -/
def named? (table : List (String × Color)) (name : Text) : Option Color :=
  table.lookup (String.ofList name)

/-- The channel that a byte value writes. -/
def channelOfByte (value : Int) : Binary64 := .ofIntRatio value 255

/-- The value of a pair of hexadecimal digits; like every numeral it may hold a sign, blanks and
digits of any script. -/
def hexPair? (first second : Char) : Option Int := Numeral.integer? 16 [first, second]

/-- The byte values that hexadecimal digits write: three digits count twice each. -/
def hexValues? (text : Text) : Option (Int × Int × Int) :=
  match text.dropWhile (· = '#') with
  | [r, g, b] => do
    let red ← hexPair? r r
    let green ← hexPair? g g
    let blue ← hexPair? b b
    pure (red, green, blue)
  | [r, r', g, g', b, b'] => do
    let red ← hexPair? r r'
    let green ← hexPair? g g'
    let blue ← hexPair? b b'
    pure (red, green, blue)
  | _ => none

/-- Reads a color of three or six hexadecimal digits behind number signs. -/
def ofHex? (text : Text) : Option Color :=
  (hexValues? text).map fun (red, green, blue) =>
    ⟨channelOfByte red, channelOfByte green, channelOfByte blue⟩

/-- What is reported for a text that is no color. -/
def invalidHexMessage (text : Text) : String :=
  String.ofList ("Invalid hex color '".toList ++ text ++ ['\''])

/-- The greatest value of a channel for style renderers with 16 bits a channel. -/
def wideScale : Int := 65535

/-- The channels scaled to 16 bits, cut to integers. -/
def wideChannels (color : Color) : List Int :=
  color.channels.map fun channel => (channel.mul (.ofInt wideScale)).truncate

/-- The channels scaled to bytes, rounded. -/
def byteChannels (color : Color) : List Int :=
  color.channels.map fun channel => (channel.mul (.ofInt 255)).round

/-- Hexadecimal digits of a natural number. -/
def hexText (value : Nat) : Text := Nat.toDigits 16 value

/-- An integer in hexadecimal digits, at least two characters wide. -/
def hexByte (value : Int) : Text :=
  let digits := hexText value.natAbs
  if value < 0 then '-' :: digits
  else List.replicate (2 - digits.length) '0' ++ digits

/-- The color in hexadecimal digits behind a number sign. -/
def hex (color : Color) : Text := '#' :: color.byteChannels.flatMap hexByte

end Color

end Winnow
