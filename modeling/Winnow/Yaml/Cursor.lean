import Winnow.Yaml.Error

/-!
# A place in a document

A cursor holds the text that is left and where it begins: how many characters, lines and columns
have gone before. Past the end every character reads as null, which no document holds.
-/

namespace Winnow.Yaml

/-- What is read past the end. -/
def endMark : Char := Char.ofNat 0

/-- A mark at the beginning of a document that says nothing but how it is encoded. -/
def byteOrderMark : Char := Char.ofNat 0xFEFF

/-- The characters that end a line. -/
def isBreak (char : Char) : Bool :=
  char = '\n' || char = '\r' || char = Char.ofNat 0x85 || char = Char.ofNat 0x2028
    || char = Char.ofNat 0x2029

/-- The end of a line or of the document. -/
def isBreakOrEnd (char : Char) : Bool := isBreak char || char = endMark

/-- A space, the end of a line or the end of the document. -/
def isSpaceOrBreak (char : Char) : Bool := char = ' ' || isBreakOrEnd char

/-- A space, a tab, the end of a line or the end of the document. -/
def isBlankOrBreak (char : Char) : Bool := char = '\t' || isSpaceOrBreak char

/-- The characters that a document may hold. -/
def isAllowed (char : Char) : Bool :=
  let code := char.toNat
  code = 0x09 || code = 0x0A || code = 0x0D || (0x20 ≤ code && code ≤ 0x7E) || code = 0x85
    || (0xA0 ≤ code && code ≤ 0xD7FF) || (0xE000 ≤ code && code ≤ 0xFFFD) || 0x10000 ≤ code

/-- A place in a document. -/
structure Cursor where
  rest : Text
  index : Nat
  line : Nat
  column : Nat

namespace Cursor

/-- The beginning of a document. -/
def ofText (text : Text) : Cursor := ⟨text, 0, 0, 0⟩

/-- The character at a distance. -/
def peekAt (cursor : Cursor) (distance : Nat) : Char := cursor.rest.getD distance endMark

/-- The next character. -/
def peek (cursor : Cursor) : Char := cursor.rest.headD endMark

/-- The place behind the next character. -/
def step (cursor : Cursor) : Cursor :=
  match cursor.rest with
  | [] => cursor
  | char :: rest =>
    if isBreak char && !(char = '\r' && rest.head? = some '\n') then
      ⟨rest, cursor.index + 1, cursor.line + 1, 0⟩
    else
      ⟨rest, cursor.index + 1, cursor.line,
        if char = byteOrderMark then cursor.column else cursor.column + 1⟩

/-- The place behind the next `count` characters. -/
def forward (cursor : Cursor) : (count : Nat) → Cursor
  | 0 => cursor
  | count + 1 => cursor.step.forward count

/-- The characters up to the first one that is not of the given kind, and the place behind them. -/
def span (cursor : Cursor) (test : Char → Bool) : Text × Cursor :=
  let taken := cursor.rest.takeWhile test
  (taken, cursor.forward taken.length)

/-- The place behind the characters of the given kind. -/
def skip (cursor : Cursor) (test : Char → Bool) : Cursor := (cursor.span test).2

/-- The line break at a place, if there is one, and the place behind it. The separators of lines and
paragraphs stand for themselves, every other break is a line feed. -/
def lineBreak (cursor : Cursor) : Text × Cursor :=
  match cursor.rest with
  | '\r' :: '\n' :: _ => (['\n'], cursor.forward 2)
  | char :: _ =>
    if char = Char.ofNat 0x2028 || char = Char.ofNat 0x2029 then ([char], cursor.step)
    else if isBreak char then (['\n'], cursor.step)
    else ([], cursor)
  | [] => ([], cursor)

/-- Whether three equal marks and then a blank follow, as between documents. -/
def atMarker (cursor : Cursor) (mark : Char) : Bool :=
  cursor.rest.take 3 = [mark, mark, mark] && isBlankOrBreak (cursor.peekAt 3)

/-- Whether a mark between documents follows. -/
def atSeparator (cursor : Cursor) : Bool := cursor.atMarker '-' || cursor.atMarker '.'

end Cursor

end Winnow.Yaml
