import Winnow.Yaml.Cursor
import Winnow.Number.Numeral
import Winnow.Text.Utf8

/-!
# Notations of scalars

A scalar is written plainly, in quotes of either kind, or as a block of indented lines. Line breaks
inside the first two fold into spaces; blocks keep them or fold them.
-/

namespace Winnow.Yaml

/-- A reader of notation: it returns what it has read and the place behind it. -/
abbrev Scan (α : Type) := Except LoadError (α × Cursor)

/-- What the line breaks behind some text stand for: a single one is a space, of several the first
one is left out, and separators of lines and paragraphs are kept. -/
def foldBreaks (first breaks : Text) : Text :=
  if first ≠ ['\n'] then first ++ breaks
  else if breaks.isEmpty then [' ']
  else breaks

/-! ## Quoted scalars -/

/-- The characters with an escape of one letter. -/
def letterEscape? : Char → Option Char
  | '0' => some (Char.ofNat 0x00)
  | 'a' => some (Char.ofNat 0x07)
  | 'b' => some (Char.ofNat 0x08)
  | 't' => some '\t'
  | '\t' => some '\t'
  | 'n' => some '\n'
  | 'v' => some (Char.ofNat 0x0B)
  | 'f' => some (Char.ofNat 0x0C)
  | 'r' => some '\r'
  | 'e' => some (Char.ofNat 0x1B)
  | ' ' => some ' '
  | '"' => some '"'
  | '\\' => some '\\'
  | '/' => some '/'
  | 'N' => some (Char.ofNat 0x85)
  | '_' => some (Char.ofNat 0xA0)
  | 'L' => some (Char.ofNat 0x2028)
  | 'P' => some (Char.ofNat 0x2029)
  | _ => none

/-- The number of digits of an escape with a code point. -/
def codeEscape? : Char → Option Nat
  | 'x' => some 2
  | 'u' => some 4
  | 'U' => some 8
  | _ => none

/-- A hexadecimal digit. -/
def isHexDigit (char : Char) : Bool :=
  char.isDigit || ('a' ≤ char && char ≤ 'f') || ('A' ≤ char && char ≤ 'F')

/-- The number that hexadecimal digits write. -/
def hexValue (digits : Text) : Nat :=
  digits.foldl (fun total char => total * 16 + (Numeral.digitValue? 16 char).getD 0) 0

/-- Reads the digits of an escape with a code point. -/
def codeEscape (cursor : Cursor) (count : Nat) : Scan Char :=
  let digits := cursor.rest.take count
  if digits.length < count || !digits.all isHexDigit then .error .malformed
  else
    let code := hexValue digits
    if code > 0x7FFFFFFF then .error .characterOverflow
    else if code > 0x10FFFF then .error .characterRange
    else if 0xD800 ≤ code && code ≤ 0xDFFF then .error .loneSurrogate
    else .ok (Char.ofNat code, cursor.forward count)

/-- The line breaks, with the blanks between them, inside a quoted scalar. -/
def quotedBreaks (cursor : Cursor) (read : Text) : (fuel : Nat) → Scan Text
  | 0 => .error .malformed
  | fuel + 1 =>
    if cursor.atSeparator then .error .malformed
    else
      let cursor := cursor.skip fun char => char = ' ' || char = '\t'
      if isBreak cursor.peek then
        let (char, cursor) := cursor.lineBreak
        quotedBreaks cursor (read ++ char) fuel
      else .ok (read, cursor)

/-- Reads a quoted scalar behind its opening quote. -/
def quotedFrom (double : Bool) (cursor : Cursor) (read : Text) : (fuel : Nat) → Scan Text
  | 0 => .error .malformed
  | fuel + 1 =>
    let char := cursor.peek
    if char = endMark then .error .malformed
    else if char = ' ' || char = '\t' then
      let (blanks, cursor) := cursor.span fun char => char = ' ' || char = '\t'
      if isBreakOrEnd cursor.peek then quotedFrom double cursor read fuel
      else quotedFrom double cursor (read ++ blanks) fuel
    else if isBreak char then
      let (first, cursor) := cursor.lineBreak
      match quotedBreaks cursor [] (cursor.rest.length + 1) with
      | .error problem => .error problem
      | .ok (breaks, cursor) => quotedFrom double cursor (read ++ foldBreaks first breaks) fuel
    else if double then
      if char = '"' then .ok (read, cursor.step)
      else if char = '\\' then
        let cursor := cursor.step
        let char := cursor.peek
        match letterEscape? char, codeEscape? char with
        | some char, _ => quotedFrom double cursor.step (read ++ [char]) fuel
        | none, some count =>
          match codeEscape cursor.step count with
          | .error problem => .error problem
          | .ok (char, cursor) => quotedFrom double cursor (read ++ [char]) fuel
        | none, none =>
          if isBreak char then
            let (_, cursor) := cursor.lineBreak
            match quotedBreaks cursor [] (cursor.rest.length + 1) with
            | .error problem => .error problem
            | .ok (breaks, cursor) => quotedFrom double cursor (read ++ breaks) fuel
          else .error .malformed
      else quotedFrom double cursor.step (read ++ [char]) fuel
    else if char = '\'' then
      if cursor.peekAt 1 = '\'' then quotedFrom double (cursor.forward 2) (read ++ ['\'']) fuel
      else .ok (read, cursor.step)
    else quotedFrom double cursor.step (read ++ [char]) fuel

/-- Reads a quoted scalar with its quotes. -/
def quotedScalar (cursor : Cursor) : Scan Text :=
  quotedFrom (cursor.peek = '"') cursor.step [] (cursor.rest.length + 1)

/-! ## Plain scalars -/

/-- The characters that end a plain scalar inside brackets or braces. -/
def endsInFlow (char : Char) : Bool :=
  char = ',' || char = '?' || char = '[' || char = ']' || char = '\x7b' || char = '\x7d'

/-- Whether a plain scalar may not go on with the given text. -/
def endsPlain (inFlow : Bool) : Text → Bool
  | [] => true
  | char :: rest =>
    let next := rest.headD endMark
    isBlankOrBreak char
      || (char = ':'
        && (isBlankOrBreak next
          || (inFlow && (next = ',' || next = '[' || next = ']'
            || next = '\x7b' || next = '\x7d'))))
      || (inFlow && endsInFlow char)

/-- The characters of a plain scalar up to the next blank. -/
def plainWord (inFlow : Bool) : Text → Text
  | [] => []
  | char :: rest =>
    if endsPlain inFlow (char :: rest) then [] else char :: plainWord inFlow rest

/-- The line breaks, with the spaces between them, inside a plain scalar; none at a mark between
documents. -/
def plainBreaks (cursor : Cursor) (read : Text) : (fuel : Nat) → Option Text × Cursor
  | 0 => (none, cursor)
  | fuel + 1 =>
    if cursor.peek = ' ' then plainBreaks cursor.step read fuel
    else if isBreak cursor.peek then
      let (char, cursor) := cursor.lineBreak
      if cursor.atSeparator then (none, cursor) else plainBreaks cursor (read ++ char) fuel
    else (some read, cursor)

/-- What stands between two words of a plain scalar, whether a line break was passed, and the place
behind it. -/
def plainGap (cursor : Cursor) : Text × Bool × Cursor :=
  let (spaces, cursor) := cursor.span (· = ' ')
  if isBreak cursor.peek then
    let (first, cursor) := cursor.lineBreak
    if cursor.atSeparator then ([], true, cursor)
    else
      match plainBreaks cursor [] (cursor.rest.length + 1) with
      | (none, cursor) => ([], true, cursor)
      | (some breaks, cursor) => (foldBreaks first breaks, true, cursor)
  else (spaces, false, cursor)

/-- A plain scalar as it has been read: its text, whether a line break was passed behind its last
word, and the place behind it. -/
structure PlainScalar where
  text : Text
  brokeLine : Bool
  cursor : Cursor

/-- Reads a plain scalar in a block of the given indentation. -/
def plainFrom (inFlow : Bool) (indent : Int) (read gap : Text) (brokeLine : Bool)
    (cursor : Cursor) : (fuel : Nat) → PlainScalar
  | 0 => ⟨read, brokeLine, cursor⟩
  | fuel + 1 =>
    if cursor.peek = '#' then ⟨read, brokeLine, cursor⟩
    else
      let word := plainWord inFlow cursor.rest
      if word.isEmpty then ⟨read, brokeLine, cursor⟩
      else
        let read := read ++ gap ++ word
        let (gap, brokeLine, cursor) := plainGap (cursor.forward word.length)
        if gap.isEmpty || cursor.peek = '#' || (!inFlow && (cursor.column : Int) < indent) then
          ⟨read, brokeLine, cursor⟩
        else plainFrom inFlow indent read gap brokeLine cursor fuel

/-- Reads a plain scalar. -/
def plainScalar (inFlow : Bool) (indent : Int) (cursor : Cursor) : PlainScalar :=
  plainFrom inFlow indent [] [] false cursor (cursor.rest.length + 1)

/-! ## Block scalars -/

/-- What happens to the line breaks at the end of a block. -/
inductive Chomping
  | clip
  | strip
  | keep
  deriving DecidableEq

/-- The header of a block: chomping and an indentation, in either order. -/
structure BlockHeader where
  chomping : Chomping
  increment : Option Nat

/-- The chomping that a mark asks for. -/
def chompingOf? (char : Char) : Option Chomping :=
  if char = '+' then some .keep else if char = '-' then some .strip else none

/-- The indentation that a digit asks for; zero is an error. -/
def incrementOf (char : Char) : Except LoadError (Option Nat) :=
  if !char.isDigit then .ok none
  else if char = '0' then .error .malformed
  else .ok (some (char.toNat - 0x30))

/-- Reads the header of a block up to the end of its line. -/
def blockHeader (cursor : Cursor) : Except LoadError (BlockHeader × Cursor) := do
  let (header, cursor) ←
    match chompingOf? cursor.peek with
    | some chomping =>
      let cursor := cursor.step
      let increment ← incrementOf cursor.peek
      pure (BlockHeader.mk chomping increment,
        if increment.isSome then cursor.step else cursor)
    | none =>
      match ← incrementOf cursor.peek with
      | none => pure (BlockHeader.mk .clip none, cursor)
      | some increment =>
        let cursor := cursor.step
        match chompingOf? cursor.peek with
        | some chomping => pure (BlockHeader.mk chomping (some increment), cursor.step)
        | none => pure (BlockHeader.mk .clip (some increment), cursor)
  if !isSpaceOrBreak cursor.peek then throw .malformed
  let cursor := cursor.skip (· = ' ')
  let cursor := if cursor.peek = '#' then cursor.skip (!isBreakOrEnd ·) else cursor
  if !isBreakOrEnd cursor.peek then throw .malformed
  pure (header, cursor.lineBreak.2)

/-- The empty lines at the beginning of a block, the widest run of spaces among them, and the place
behind them. -/
def leadingBreaks (cursor : Cursor) (read : Text) (widest : Nat) :
    (fuel : Nat) → Text × Nat × Cursor
  | 0 => (read, widest, cursor)
  | fuel + 1 =>
    if cursor.peek = ' ' then
      let cursor := cursor.step
      leadingBreaks cursor read (max widest cursor.column) fuel
    else if isBreak cursor.peek then
      let (char, cursor) := cursor.lineBreak
      leadingBreaks cursor (read ++ char) widest fuel
    else (read, widest, cursor)

/-- Skips spaces up to a column. -/
def skipIndent (indent : Nat) (cursor : Cursor) : Cursor :=
  cursor.forward
    (min (indent - cursor.column) (cursor.rest.takeWhile (· = ' ')).length)

/-- The empty lines inside a block and the place behind them and behind the indentation. -/
def blockBreaks (indent : Nat) (cursor : Cursor) (read : Text) : (fuel : Nat) → Text × Cursor
  | 0 => (read, cursor)
  | fuel + 1 =>
    let cursor := skipIndent indent cursor
    if isBreak cursor.peek then
      let (char, cursor) := cursor.lineBreak
      blockBreaks indent cursor (read ++ char) fuel
    else (read, cursor)

/-- The text of a block without its end, the break behind its last line, and the empty lines behind
it. -/
structure BlockLines where
  text : Text
  lastBreak : Text
  breaks : Text
  cursor : Cursor

/-- Reads the lines of a block. `read` is what was read before, `breaks` the empty lines behind
it. -/
def blockLines (folded : Bool) (indent : Nat) (read lastBreak breaks : Text) (cursor : Cursor) :
    (fuel : Nat) → BlockLines
  | 0 => ⟨read, lastBreak, breaks, cursor⟩
  | fuel + 1 =>
    if cursor.column = indent && cursor.peek ≠ endMark then
      let startsBlank := cursor.peek = ' ' || cursor.peek = '\t'
      let (line, cursor) := cursor.span (!isBreakOrEnd ·)
      let read := read ++ breaks ++ line
      let (lastBreak, cursor) := cursor.lineBreak
      let (breaks, cursor) := blockBreaks indent cursor [] (cursor.rest.length + 1)
      if cursor.column = indent && cursor.peek ≠ endMark then
        let nextBlank := cursor.peek = ' ' || cursor.peek = '\t'
        let read :=
          if folded && lastBreak = ['\n'] && !startsBlank && !nextBlank then
            if breaks.isEmpty then read ++ [' '] else read
          else read ++ lastBreak
        blockLines folded indent read lastBreak breaks cursor fuel
      else ⟨read, lastBreak, breaks, cursor⟩
    else ⟨read, lastBreak, breaks, cursor⟩

/-- Reads a block scalar whose surrounding block has the given indentation. -/
def blockScalar (surrounding : Int) (cursor : Cursor) : Except LoadError (Text × Cursor) := do
  let folded := cursor.peek = '>'
  let (header, cursor) ← blockHeader cursor.step
  let least := (max (surrounding + 1) 1).toNat
  let (indent, breaks, cursor) :=
    match header.increment with
    | none =>
      let (breaks, widest, cursor) := leadingBreaks cursor [] 0 (cursor.rest.length + 1)
      (max least widest, breaks, cursor)
    | some increment =>
      let indent := least + increment - 1
      let (breaks, cursor) := blockBreaks indent cursor [] (cursor.rest.length + 1)
      (indent, breaks, cursor)
  let lines := blockLines folded indent [] [] breaks cursor (cursor.rest.length + 1)
  let text :=
    match header.chomping with
    | .strip => lines.text
    | .clip => lines.text ++ lines.lastBreak
    | .keep => lines.text ++ lines.lastBreak ++ lines.breaks
  pure (text, lines.cursor)

/-! ## Names and tags -/

/-- The characters of names. -/
def isNameChar (char : Char) : Bool := char.isAlphanum || char = '-' || char = '_'

/-- What may follow the name of an anchor or an alias. -/
def endsName (char : Char) : Bool :=
  isBlankOrBreak char || "?:,]\x7d%@`".toList.contains char

/-- Reads the name of an anchor or an alias with its mark. -/
def anchorName (cursor : Cursor) : Scan Text :=
  let (name, cursor) := cursor.step.span isNameChar
  if name.isEmpty || !endsName cursor.peek then .error .malformed else .ok (name, cursor)

/-- The characters of tags that stand for themselves. -/
def isTagChar (char : Char) : Bool :=
  char.isAlphanum || "-;/?:@&=+$,_.!~*'()[]".toList.contains char

/-- Reads the bytes that a tag writes in hexadecimal digits. -/
def tagBytes (cursor : Cursor) (read : List UInt8) : (fuel : Nat) → Scan (List UInt8)
  | 0 => .error .malformed
  | fuel + 1 =>
    if cursor.peek = '%' then
      let digits := (cursor.rest.drop 1).take 2
      if digits.length < 2 || !digits.all isHexDigit then .error .malformed
      else tagBytes (cursor.forward 3) (read ++ [(hexValue digits).toUInt8]) fuel
    else .ok (read, cursor)

/-- Reads the text of a tag. -/
def tagText (cursor : Cursor) (read : Text) : (fuel : Nat) → Scan Text
  | 0 => .error .malformed
  | fuel + 1 =>
    if cursor.peek = '%' then
      match tagBytes cursor [] (cursor.rest.length + 1) with
      | .error problem => .error problem
      | .ok (bytes, cursor) =>
        match Utf8.decode bytes with
        | .error _ => .error .malformed
        | .ok text => tagText cursor (read ++ text) fuel
    else if isTagChar cursor.peek then tagText cursor.step (read ++ [cursor.peek]) fuel
    else if read.isEmpty then .error .malformed
    else .ok (read, cursor)

/-- Reads the handle of a tag: an exclamation mark, or a name between two. -/
def tagHandle (cursor : Cursor) : Scan Text :=
  if cursor.peek ≠ '!' then .error .malformed
  else if cursor.peekAt 1 = ' ' then .ok (['!'], cursor.step)
  else
    let (name, behind) := cursor.step.span isNameChar
    if behind.peek ≠ '!' then .error .malformed
    else .ok ('!' :: name ++ ['!'], behind.step)

/-- Whether an exclamation mark stands in the text up to the next space. -/
def hasHandle (text : Text) : Bool := (text.takeWhile (!isSpaceOrBreak ·)).contains '!'

/-- Reads a tag: in angle brackets, a lone exclamation mark, or a handle with a suffix. -/
def tagName (cursor : Cursor) : Except LoadError ((Option Text × Text) × Cursor) := do
  let char := cursor.peekAt 1
  let (tag, cursor) ←
    if char = '<' then do
      let start := cursor.forward 2
      let (suffix, cursor) ← tagText start [] (start.rest.length + 1)
      if cursor.peek ≠ '>' then throw .malformed
      pure ((none, suffix), cursor.step)
    else if isBlankOrBreak char then pure ((none, ['!']), cursor.step)
    else do
      let (handle, cursor) ←
        if hasHandle (cursor.rest.drop 1) then tagHandle cursor else pure (['!'], cursor.step)
      let (suffix, cursor) ← tagText cursor [] (cursor.rest.length + 1)
      pure ((some handle, suffix), cursor)
  if !isSpaceOrBreak cursor.peek then throw .malformed
  pure (tag, cursor)

end Winnow.Yaml
