import Winnow.Text.Utf8
import Winnow.Text.Quoted

/-!
# Candidates

Candidates are the lines of a byte stream. Lines are cut before they are decoded, so that malformed
bytes never reach into another line.
-/

namespace Winnow

/-- How the bytes of a line stand for characters. -/
inductive Encoding
  | utf8
  | latin1
  deriving DecidableEq, Repr

namespace Encoding

/-- The name of an encoding. -/
def name : Encoding → String
  | utf8 => "utf-8"
  | latin1 => "latin1"

/-- All encodings in the order in which they are listed. -/
def all : List Encoding := [utf8, latin1]

/-- The encoding with exactly this name. -/
def ofName? (text : Text) : Option Encoding :=
  all.find? fun encoding => encoding.name = String.ofList text

/-- What is reported for a name that no encoding has. -/
def unknownMessage (text : Text) : String := String.ofList text.quoted

/-- Decodes bytes; malformed ones are replaced. -/
def decode : Encoding → List UInt8 → Text
  | utf8, bytes => Utf8.decodeReplacing bytes
  | latin1, bytes => Latin1.decode bytes

end Encoding

namespace Candidates

/-- The byte that ends a line. -/
def lineFeed : UInt8 := 0x0A

/-- The byte that may stand before the end of a line. -/
def carriageReturn : UInt8 := 0x0D

/-- The lines of a stream without their line feeds. `line` holds the bytes read since the last line
feed, last one first. -/
def linesFrom (line : List UInt8) : List UInt8 → List (List UInt8)
  | [] => if line.isEmpty then [] else [line.reverse]
  | byte :: rest =>
    if byte = lineFeed then line.reverse :: linesFrom [] rest else linesFrom (byte :: line) rest

/-- A line without the carriage returns at its end. -/
def trimLine (line : List UInt8) : List UInt8 :=
  (line.reverse.dropWhile (· = carriageReturn)).reverse

/-- Reads the candidates of a stream. -/
def read (encoding : Encoding) (bytes : List UInt8) : List Text :=
  (linesFrom [] bytes).map fun line => encoding.decode (trimLine line)

end Candidates

end Winnow
