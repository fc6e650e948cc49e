import Winnow.Text.Basic
import Winnow.Unicode.Names.Letters
import Winnow.Unicode.Names.Symbols
import Winnow.Unicode.Names.Pictographs

/-!
# Characters by name

Letter case does not matter in the names of the tables. Syllables of Hangul are named by their
parts and ideographs by their code points. The tables hold the common scripts, signs, symbols and
pictographs.
-/

namespace Winnow.Unicode

/-- All rows of names. -/
def nameRows : List (Nat × String) :=
  letterNamesFrom0020 ++ letterNamesFrom0213 ++ letterNamesFrom03F3 ++ letterNamesFrom05E0 ++
    letterNamesFrom1EA5 ++ letterNamesFrom1FAC ++ symbolNamesFrom2000 ++ symbolNamesFrom22CC ++
    symbolNamesFrom24F0 ++ symbolNamesFrom271B ++ symbolNamesFrom29A7 ++ symbolNamesFrom2B67 ++
    symbolNamesFromFE66 ++ pictographNamesFrom1F000 ++ pictographNamesFrom1F52F ++
    pictographNamesFrom1FA47

/-- Names of characters that have no other name, and short names. -/
def nameAliases : List (String × Nat) := [
  ("NULL", 0x0), ("NUL", 0x0), ("START OF HEADING", 0x1), ("SOH", 0x1), ("START OF TEXT", 0x2),
  ("STX", 0x2), ("END OF TEXT", 0x3), ("ETX", 0x3), ("END OF TRANSMISSION", 0x4), ("EOT", 0x4),
  ("ENQUIRY", 0x5), ("ENQ", 0x5), ("ACKNOWLEDGE", 0x6), ("ACK", 0x6), ("ALERT", 0x7), ("BEL", 0x7),
  ("BACKSPACE", 0x8), ("BS", 0x8), ("CHARACTER TABULATION", 0x9), ("HORIZONTAL TABULATION", 0x9),
  ("HT", 0x9), ("TAB", 0x9), ("LINE FEED", 0xA), ("NEW LINE", 0xA), ("END OF LINE", 0xA),
  ("LF", 0xA), ("NL", 0xA), ("EOL", 0xA), ("LINE TABULATION", 0xB), ("VERTICAL TABULATION", 0xB),
  ("VT", 0xB), ("FORM FEED", 0xC), ("FF", 0xC), ("CARRIAGE RETURN", 0xD), ("CR", 0xD),
  ("SHIFT OUT", 0xE), ("LOCKING-SHIFT ONE", 0xE), ("SO", 0xE), ("SHIFT IN", 0xF),
  ("LOCKING-SHIFT ZERO", 0xF), ("SI", 0xF), ("DATA LINK ESCAPE", 0x10), ("DLE", 0x10),
  ("DEVICE CONTROL ONE", 0x11), ("DC1", 0x11), ("DEVICE CONTROL TWO", 0x12), ("DC2", 0x12),
  ("DEVICE CONTROL THREE", 0x13), ("DC3", 0x13), ("DEVICE CONTROL FOUR", 0x14), ("DC4", 0x14),
  ("NEGATIVE ACKNOWLEDGE", 0x15), ("NAK", 0x15), ("SYNCHRONOUS IDLE", 0x16), ("SYN", 0x16),
  ("END OF TRANSMISSION BLOCK", 0x17), ("ETB", 0x17), ("CANCEL", 0x18), ("CAN", 0x18),
  ("END OF MEDIUM", 0x19), ("EOM", 0x19), ("SUBSTITUTE", 0x1A), ("SUB", 0x1A), ("ESCAPE", 0x1B),
  ("ESC", 0x1B), ("INFORMATION SEPARATOR FOUR", 0x1C), ("FILE SEPARATOR", 0x1C), ("FS", 0x1C),
  ("INFORMATION SEPARATOR THREE", 0x1D), ("GROUP SEPARATOR", 0x1D), ("GS", 0x1D),
  ("INFORMATION SEPARATOR TWO", 0x1E), ("RECORD SEPARATOR", 0x1E), ("RS", 0x1E),
  ("INFORMATION SEPARATOR ONE", 0x1F), ("UNIT SEPARATOR", 0x1F), ("US", 0x1F), ("SP", 0x20),
  ("DELETE", 0x7F), ("DEL", 0x7F), ("PADDING CHARACTER", 0x80), ("PAD", 0x80),
  ("HIGH OCTET PRESET", 0x81), ("HOP", 0x81), ("BREAK PERMITTED HERE", 0x82), ("BPH", 0x82),
  ("NO BREAK HERE", 0x83), ("NBH", 0x83), ("INDEX", 0x84), ("IND", 0x84), ("NEXT LINE", 0x85),
  ("NEL", 0x85), ("START OF SELECTED AREA", 0x86), ("SSA", 0x86), ("END OF SELECTED AREA", 0x87),
  ("ESA", 0x87), ("CHARACTER TABULATION SET", 0x88), ("HORIZONTAL TABULATION SET", 0x88),
  ("HTS", 0x88), ("CHARACTER TABULATION WITH JUSTIFICATION", 0x89),
  ("HORIZONTAL TABULATION WITH JUSTIFICATION", 0x89), ("HTJ", 0x89), ("LINE TABULATION SET", 0x8A),
  ("VERTICAL TABULATION SET", 0x8A), ("VTS", 0x8A), ("PARTIAL LINE FORWARD", 0x8B),
  ("PARTIAL LINE DOWN", 0x8B), ("PLD", 0x8B), ("PARTIAL LINE BACKWARD", 0x8C),
  ("PARTIAL LINE UP", 0x8C), ("PLU", 0x8C), ("REVERSE LINE FEED", 0x8D), ("REVERSE INDEX", 0x8D),
  ("RI", 0x8D), ("SINGLE SHIFT TWO", 0x8E), ("SINGLE-SHIFT-2", 0x8E), ("SS2", 0x8E),
  ("SINGLE SHIFT THREE", 0x8F), ("SINGLE-SHIFT-3", 0x8F), ("SS3", 0x8F),
  ("DEVICE CONTROL STRING", 0x90), ("DCS", 0x90), ("PRIVATE USE ONE", 0x91),
  ("PRIVATE USE-1", 0x91), ("PU1", 0x91), ("PRIVATE USE TWO", 0x92), ("PRIVATE USE-2", 0x92),
  ("PU2", 0x92), ("SET TRANSMIT STATE", 0x93), ("STS", 0x93), ("CANCEL CHARACTER", 0x94),
  ("CCH", 0x94), ("MESSAGE WAITING", 0x95), ("MW", 0x95), ("START OF GUARDED AREA", 0x96),
  ("START OF PROTECTED AREA", 0x96), ("SPA", 0x96), ("END OF GUARDED AREA", 0x97),
  ("END OF PROTECTED AREA", 0x97), ("EPA", 0x97), ("START OF STRING", 0x98), ("SOS", 0x98),
  ("SINGLE GRAPHIC CHARACTER INTRODUCER", 0x99), ("SGC", 0x99),
  ("SINGLE CHARACTER INTRODUCER", 0x9A), ("SCI", 0x9A), ("CONTROL SEQUENCE INTRODUCER", 0x9B),
  ("CSI", 0x9B), ("STRING TERMINATOR", 0x9C), ("ST", 0x9C), ("OPERATING SYSTEM COMMAND", 0x9D),
  ("OSC", 0x9D), ("PRIVACY MESSAGE", 0x9E), ("PM", 0x9E), ("APPLICATION PROGRAM COMMAND", 0x9F),
  ("APC", 0x9F), ("NBSP", 0xA0), ("SHY", 0xAD), ("LATIN CAPITAL LETTER GHA", 0x1A2),
  ("LATIN SMALL LETTER GHA", 0x1A3), ("CGJ", 0x34F), ("ALM", 0x61C), ("ZWSP", 0x200B),
  ("ZWNJ", 0x200C), ("ZWJ", 0x200D), ("LRM", 0x200E), ("RLM", 0x200F), ("LRE", 0x202A),
  ("RLE", 0x202B), ("PDF", 0x202C), ("LRO", 0x202D), ("RLO", 0x202E), ("NNBSP", 0x202F),
  ("MMSP", 0x205F), ("WJ", 0x2060), ("LRI", 0x2066), ("RLI", 0x2067), ("FSI", 0x2068),
  ("PDI", 0x2069), ("WEIERSTRASS ELLIPTIC FUNCTION", 0x2118), ("VS1", 0xFE00), ("VS2", 0xFE01),
  ("VS3", 0xFE02), ("VS4", 0xFE03), ("VS5", 0xFE04), ("VS6", 0xFE05), ("VS7", 0xFE06),
  ("VS8", 0xFE07), ("VS9", 0xFE08), ("VS10", 0xFE09), ("VS11", 0xFE0A), ("VS12", 0xFE0B),
  ("VS13", 0xFE0C), ("VS14", 0xFE0D), ("VS15", 0xFE0E), ("VS16", 0xFE0F),
  ("BYTE ORDER MARK", 0xFEFF), ("BOM", 0xFEFF), ("ZWNBSP", 0xFEFF)]

/-- The place of a name in a row. -/
def indexIn? (name : Text) (row : String) : Option Nat :=
  (Text.piecesFrom (· = ';') [] row.toList).idxOf? name

/-- The character with a name in the tables. -/
def tabulated? (name : Text) : Option Nat :=
  match nameAliases.lookup (String.ofList name) with
  | some code => some code
  | none => nameRows.findSome? fun (first, row) => (indexIn? name row).map (first + ·)

/-- The first, middle and last parts of syllables. -/
def syllableParts : List (List String) := [
  ["G", "GG", "N", "D", "DD", "R", "M", "B", "BB", "S", "SS", "", "J", "JJ", "C", "K", "T", "P",
    "H"],
  ["A", "AE", "YA", "YAE", "EO", "E", "YEO", "YE", "O", "WA", "WAE", "OE", "YO", "U", "WEO",
    "WE", "WI", "YU", "EU", "YI", "I"],
  ["", "G", "GG", "GS", "N", "NJ", "NH", "D", "L", "LG", "LM", "LB", "LS", "LT", "LP", "LH",
    "M", "B", "BS", "S", "SS", "NG", "J", "C", "K", "T", "P", "H"]]

/-- The longest part that a text begins with: its index and what follows it. -/
def longestPart? (parts : List String) (text : Text) : Option (Nat × Text) :=
  let candidates := ((List.range parts.length).zip parts).filter fun entry =>
    entry.2.toList.isPrefixOf text
  let longer (best : Option (Nat × String)) (entry : Nat × String) : Option (Nat × String) :=
    match best with
    | none => some entry
    | some old => if old.2.length < entry.2.length then some entry else best
  (candidates.foldl longer none).map fun entry => (entry.1, text.drop entry.2.length)

/-- The indices of the parts of a syllable; nothing may follow them. -/
def partIndices? : List (List String) → Text → Option (List Nat)
  | [], text => if text.isEmpty then some [] else none
  | parts :: rest, text => do
    let (index, tail) ← longestPart? parts text
    let indices ← partIndices? rest tail
    pure (index :: indices)

/-- The syllable with a name, given what follows the common beginning. -/
def syllable? (text : Text) : Option Nat := do
  match ← partIndices? syllableParts text with
  | [first, middle, last] => pure (0xAC00 + (first * 21 + middle) * 28 + last)
  | _ => none

/-- Unified ideographs. -/
def isIdeograph (code : Nat) : Bool :=
  let ranges : List (Nat × Nat) := [
    (0x3400, 0x4DBF), (0x4E00, 0x9FFF), (0x20000, 0x2A6DF), (0x2A700, 0x2B738), (0x2B740,
    0x2B81D), (0x2B820, 0x2CEA1), (0x2CEB0, 0x2EBE0), (0x30000, 0x3134A)]
  ranges.any fun (first, last) => first ≤ code && code ≤ last

/-- The value of a hexadecimal digit in capitals. -/
def capitalDigit? (char : Char) : Option Nat :=
  if char.isDigit then some (char.toNat - 0x30)
  else if 'A' ≤ char && char ≤ 'F' then some (char.toNat - 0x37)
  else none

/-- The ideograph with a name, given what follows the common beginning. -/
def ideograph? (text : Text) : Option Nat := do
  let digits ← text.mapM capitalDigit?
  let code := digits.foldl (fun total digit => total * 16 + digit) 0
  if (text.length = 4 || text.length = 5) && isIdeograph code then some code else none

/-- What follows a beginning of a text. -/
def afterBeginning? (beginning : String) (text : Text) : Option Text :=
  if beginning.toList.isPrefixOf text then some (text.drop beginning.length) else none

/-- The character with a name. -/
def named? (name : Text) : Option Nat :=
  match afterBeginning? "HANGUL SYLLABLE " name,
      afterBeginning? "CJK UNIFIED IDEOGRAPH-" name with
  | some rest, _ => syllable? rest
  | none, some rest => ideograph? rest
  | none, none => tabulated? (name.map Char.toUpper)

end Winnow.Unicode
