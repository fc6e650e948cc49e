import Winnow.Yaml.Scalars
import Winnow.Yaml.Token

/-!
# From notation to tokens

The lexer follows the indentation of blocks and the nesting of brackets. A mapping key without a
mark of its own shows only at the colon behind it, so every place where one may begin is remembered
together with the number of tokens before it; the key token is put there afterwards. Where the lexer
cannot go on, the tokens before that are still there.
-/

namespace Winnow.Yaml

/-- A place where a key without a mark may begin. It is required where the block leaves no other
reading. -/
structure KeyPlace where
  tokenIndex : Nat
  required : Bool
  index : Nat
  line : Nat
  column : Nat

/-- The tokens that are read, and why there are no more if the document does not end there. -/
structure TokenRow where
  tokens : List Token
  problem : Option LoadError

/-- What the lexer knows at one point. -/
structure LexerState where
  cursor : Cursor
  tokens : Array Token
  flowLevel : Nat
  indent : Int
  outerIndents : List Int
  allowKey : Bool
  keys : List (Nat × KeyPlace)

namespace LexerState

/-- The beginning of a document. -/
def ofText (text : Text) : LexerState := ⟨.ofText text, #[], 0, -1, [], true, []⟩

/-- Whether brackets or braces are open. -/
def inFlow (state : LexerState) : Bool := state.flowLevel != 0

/-- Adds a token. -/
def push (state : LexerState) (token : Token) : LexerState :=
  { state with tokens := state.tokens.push token }

/-- Goes on behind the next `count` characters. -/
def forward (state : LexerState) (count : Nat) : LexerState :=
  { state with cursor := state.cursor.forward count }

/-- The longest stretch that a key without a mark may cover. -/
def longestKey : Nat := 1024

/-- Whether a remembered key can no longer be one. -/
def isStale (state : LexerState) (key : KeyPlace) : Bool :=
  key.line != state.cursor.line || key.index + longestKey < state.cursor.index

/-- Forgets keys that can no longer be one. -/
def dropStaleKeys (state : LexerState) : Except LoadError LexerState :=
  if state.keys.any fun entry => entry.2.required && state.isStale entry.2 then
    .error .malformed
  else .ok { state with keys := state.keys.filter fun entry => !state.isStale entry.2 }

/-- Forgets the key of the current nesting. -/
def dropKey (state : LexerState) : Except LoadError LexerState :=
  match state.keys.lookup state.flowLevel with
  | none => .ok state
  | some key =>
    if key.required then .error .malformed
    else .ok { state with keys := state.keys.filter fun entry => entry.1 != state.flowLevel }

/-- Remembers that a key may begin here. -/
def saveKey (state : LexerState) : Except LoadError LexerState :=
  if !state.allowKey then .ok state
  else do
    let required := !state.inFlow && state.indent = state.cursor.column
    let state ← state.dropKey
    let key : KeyPlace :=
      ⟨state.tokens.size, required, state.cursor.index, state.cursor.line, state.cursor.column⟩
    pure { state with keys := (state.flowLevel, key) :: state.keys }

/-- Closes blocks that are indented further than a column; `count` bounds their number. -/
def unwindTo (column : Int) : (count : Nat) → LexerState → LexerState
  | 0, state => state
  | count + 1, state =>
    if column < state.indent then
      let outer := state.outerIndents.headD (-1)
      unwindTo column count
        { state.push .blockEnd with indent := outer, outerIndents := state.outerIndents.drop 1 }
    else state

/-- Closes blocks that are indented further than a column, outside brackets. -/
def unwind (state : LexerState) (column : Int) : LexerState :=
  if state.inFlow then state else unwindTo column (state.outerIndents.length + 1) state

/-- Opens a block at a column if it is indented further than the current one. -/
def openBlock (state : LexerState) (column : Nat) : Bool × LexerState :=
  if state.indent < column then
    (true, { state with indent := column, outerIndents := state.indent :: state.outerIndents })
  else (false, state)

/-- Skips spaces, comments and line breaks before the next token. -/
def skipToToken (state : LexerState) : (fuel : Nat) → LexerState
  | 0 => state
  | fuel + 1 =>
    let cursor := state.cursor.skip (· = ' ')
    let cursor := if cursor.peek = '#' then cursor.skip (!isBreakOrEnd ·) else cursor
    if isBreak cursor.peek then
      skipToToken
        { state with
          cursor := cursor.lineBreak.2, allowKey := state.allowKey || !state.inFlow }
        fuel
    else { state with cursor }

/-- The end of the document. -/
def endStream (state : LexerState) : Except LoadError LexerState := do
  let state ← (state.unwind (-1)).dropKey
  pure { state.push .streamEnd with allowKey := false, keys := [] }

/-- A mark between documents. -/
def documentMark (state : LexerState) (token : Token) : Except LoadError LexerState := do
  let state ← (state.unwind (-1)).dropKey
  pure { (state.push token).forward 3 with allowKey := false }

/-- An opening bracket or brace. -/
def openFlow (state : LexerState) (token : Token) : Except LoadError LexerState := do
  let state ← state.saveKey
  pure { (state.push token).forward 1 with flowLevel := state.flowLevel + 1, allowKey := true }

/-- A closing bracket or brace. -/
def closeFlow (state : LexerState) (token : Token) : Except LoadError LexerState := do
  let state ← state.dropKey
  if !state.inFlow then throw .malformed
  pure { (state.push token).forward 1 with flowLevel := state.flowLevel - 1, allowKey := false }

/-- A comma between the entries of brackets or braces. -/
def flowComma (state : LexerState) : Except LoadError LexerState := do
  let state ← state.dropKey
  pure { (state.push .flowEntry).forward 1 with allowKey := true }

/-- Opens a block that begins with the next token, where one may begin. -/
def beginBlock (state : LexerState) (token : Token) : Except LoadError LexerState :=
  if state.inFlow then .ok state
  else if !state.allowKey then .error .malformed
  else
    match state.openBlock state.cursor.column with
    | (true, state) => .ok (state.push token)
    | (false, state) => .ok state

/-- The dash of a block entry. -/
def blockDash (state : LexerState) : Except LoadError LexerState := do
  let state ← (← state.beginBlock .blockSequenceStart).dropKey
  pure { (state.push .blockEntry).forward 1 with allowKey := true }

/-- The question mark of a key. -/
def keyMark (state : LexerState) : Except LoadError LexerState := do
  let state ← (← state.beginBlock .blockMappingStart).dropKey
  pure { (state.push .key).forward 1 with allowKey := !state.inFlow }

/-- The colon of a value. The key before it, if it has no mark of its own, gets its token now. -/
def valueMark (state : LexerState) : Except LoadError LexerState := do
  match state.keys.lookup state.flowLevel with
  | some key =>
    let state := { state with
      keys := state.keys.filter fun entry => entry.1 != state.flowLevel
      tokens := state.tokens.insertIdxIfInBounds key.tokenIndex .key
      allowKey := false }
    let state :=
      if state.inFlow then state
      else
        match state.openBlock key.column with
        | (true, state) =>
          { state with
            tokens := state.tokens.insertIdxIfInBounds key.tokenIndex .blockMappingStart }
        | (false, state) => state
    pure ((state.push .value).forward 1)
  | none =>
    let state ← state.beginBlock .blockMappingStart
    let state ← { state with allowKey := !state.inFlow }.dropKey
    pure ((state.push .value).forward 1)

/-- An alias, an anchor, a tag or a quoted scalar, of which a key may consist. -/
def keyPart {α : Type} (state : LexerState) (scan : Cursor → Except LoadError (α × Cursor))
    (token : α → Token) : Except LoadError LexerState := do
  let state ← state.saveKey
  let (part, cursor) ← scan state.cursor
  pure { state.push (token part) with cursor, allowKey := false }

/-- A block scalar. -/
def blockText (state : LexerState) : Except LoadError LexerState := do
  let state ← state.dropKey
  let (text, cursor) ← blockScalar state.indent state.cursor
  pure { state.push (.scalar text false) with cursor, allowKey := true }

/-- A plain scalar. -/
def plainText (state : LexerState) : Except LoadError LexerState := do
  let state ← state.saveKey
  let scalar := plainScalar state.inFlow (state.indent + 1) state.cursor
  pure { state.push (.scalar scalar.text true) with
    cursor := scalar.cursor, allowKey := scalar.brokeLine }

/-- Reads a decimal number. -/
def number (cursor : Cursor) : Except LoadError (Nat × Cursor) :=
  let (digits, cursor) := cursor.span Char.isDigit
  if digits.isEmpty then .error .malformed
  else if Numeral.digitLimit < digits.length then .error (.numeralTooLong digits.length)
  else .ok (Numeral.digitsValue digits, cursor)

/-- Reads what follows the name of a version directive. -/
def versionDirective (cursor : Cursor) : Except LoadError (Token × Cursor) := do
  let (major, cursor) ← number (cursor.skip (· = ' '))
  if cursor.peek ≠ '.' then throw .malformed
  let (_, cursor) ← number cursor.step
  if !isSpaceOrBreak cursor.peek then throw .malformed
  pure (.version major, cursor)

/-- Reads what follows the name of a tag directive. -/
def tagDirective (cursor : Cursor) : Except LoadError (Token × Cursor) := do
  let (handle, cursor) ← tagHandle (cursor.skip (· = ' '))
  if cursor.peek ≠ ' ' then throw .malformed
  let cursor := cursor.skip (· = ' ')
  let (base, cursor) ← tagText cursor [] (cursor.rest.length + 1)
  if !isSpaceOrBreak cursor.peek then throw .malformed
  pure (.tagBase handle base, cursor)

/-- A directive with the rest of its line. -/
def directive (state : LexerState) : Except LoadError LexerState := do
  let state ← (state.unwind (-1)).dropKey
  let (name, cursor) := state.cursor.step.span isNameChar
  if name.isEmpty || !isSpaceOrBreak cursor.peek then throw .malformed
  let (token, cursor) ←
    if name = "YAML".toList then versionDirective cursor
    else if name = "TAG".toList then tagDirective cursor
    else pure (.reservedDirective, cursor.skip (!isBreakOrEnd ·))
  let cursor := cursor.skip (· = ' ')
  let cursor := if cursor.peek = '#' then cursor.skip (!isBreakOrEnd ·) else cursor
  if !isBreakOrEnd cursor.peek then throw .malformed
  pure { state.push token with cursor := cursor.lineBreak.2, allowKey := false }

/-- The characters that no plain scalar begins with. -/
def indicators : List Char :=
  ['-', '?', ':', ',', '[', ']', '\x7b', '\x7d', '#', '&', '*', '!', '|', '>', '\'', '"', '%', '@',
    Char.ofNat 0x60]

/-- Whether a plain scalar begins here. -/
def startsPlain (state : LexerState) : Bool :=
  let char := state.cursor.peek
  let next := state.cursor.peekAt 1
  (!isBlankOrBreak char && !indicators.contains char)
    || (!isBlankOrBreak next
      && (char = '-' || (!state.inFlow && (char = '?' || char = ':'))))

/-- Reads the token that begins here. -/
def token (state : LexerState) : Except LoadError LexerState :=
  let cursor := state.cursor
  let blankNext := isBlankOrBreak (cursor.peekAt 1)
  let atLineStart := cursor.column = 0
  let char := cursor.peek
  if char = '%' && atLineStart then state.directive
  else if atLineStart && cursor.atMarker '-' then state.documentMark .documentStart
  else if atLineStart && cursor.atMarker '.' then state.documentMark .documentEnd
  else if char = '[' then state.openFlow .flowSequenceStart
  else if char = '\x7b' then state.openFlow .flowMappingStart
  else if char = ']' then state.closeFlow .flowSequenceEnd
  else if char = '\x7d' then state.closeFlow .flowMappingEnd
  else if char = ',' then state.flowComma
  else if char = '-' && blankNext then state.blockDash
  else if char = '?' && (state.inFlow || blankNext) then state.keyMark
  else if char = ':' && (state.inFlow || blankNext) then state.valueMark
  else if char = '*' then state.keyPart anchorName .alias
  else if char = '&' then state.keyPart anchorName .anchor
  else if char = '!' then state.keyPart tagName fun (handle, suffix) => .tag handle suffix
  else if char = '|' && !state.inFlow then state.blockText
  else if char = '>' && !state.inFlow then state.blockText
  else if char = '\'' || char = '"' then state.keyPart quotedScalar fun text => .scalar text false
  else if state.startsPlain then state.plainText
  else .error .malformed

/-- Reads the next token, or the end of the document, about which the second component tells. -/
def advance (state : LexerState) : Except LoadError (LexerState × Bool) := do
  let state := state.skipToToken (state.cursor.rest.length + 1)
  let state ← state.dropStaleKeys
  let state := state.unwind state.cursor.column
  if state.cursor.rest.isEmpty then pure (← state.endStream, true)
  else pure (← state.token, false)

/-- The tokens in front of every place where a key may still begin. -/
def settled (state : LexerState) : List Token :=
  let keys := state.keys.filter fun entry => !state.isStale entry.2
  let count := keys.foldl (fun count entry => min count entry.2.tokenIndex) state.tokens.size
  state.tokens.toList.take count

/-- Reads the tokens that are left. -/
def tokensFrom (state : LexerState) : (fuel : Nat) → TokenRow
  | 0 => ⟨state.settled, some .malformed⟩
  | fuel + 1 =>
    match state.advance with
    | .error problem => ⟨state.settled, some problem⟩
    | .ok (later, true) => ⟨later.tokens.toList, none⟩
    | .ok (later, false) => tokensFrom later fuel

end LexerState

/-- The tokens of a document. -/
def tokens (text : Text) : TokenRow :=
  if text.all isAllowed then
    let text := if text.head? = some byteOrderMark then text.drop 1 else text
    (LexerState.ofText text).tokensFrom (text.length + 2)
  else ⟨[], some .malformed⟩

end Winnow.Yaml
