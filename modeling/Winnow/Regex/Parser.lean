import Winnow.Regex.Expr
import Winnow.Regex.Error
import Winnow.Unicode.Name

/-!
# Reading patterns

The reader sees a pattern as glyphs: characters, and backslashes together with the character after
them. It looks one glyph ahead, so a backslash at the end of the pattern is reported as soon as it
comes into sight. Recursion is bounded by fuel that is computed from the length of the pattern.
How deep groups may nest is limited by the room that the caller leaves, which is a parameter here.
-/

namespace Winnow.Regex

/-- A unit of pattern text. -/
inductive Glyph
  | plain (char : Char)
  | escaped (char : Char)
  | dangling
  deriving DecidableEq, Repr

namespace Glyph

/-- The glyphs of a pattern. -/
def ofText : Text → List Glyph
  | [] => []
  | ['\\'] => [dangling]
  | '\\' :: char :: rest => escaped char :: ofText rest
  | char :: rest => plain char :: ofText rest

/-- The glyph as written. -/
def text : Glyph → Text
  | plain char => [char]
  | escaped char => ['\\', char]
  | dangling => ['\\']

/-- The number of characters of a glyph. -/
def width (glyph : Glyph) : Nat := glyph.text.length

/-- Whether a glyph is a plain character of the given kind. -/
def isPlain (test : Char → Bool) : Glyph → Bool
  | plain char => test char
  | _ => false

end Glyph

/-- What the reader knows at one point of the pattern. `room` is the number of groups that may still
be opened one inside the other. -/
structure ReaderState where
  glyphs : List Glyph
  offset : Nat
  flags : Flags
  room : Nat
  widths : Expr.GroupWidths := [none]
  names : List (Text × Nat) := []
  lookbehindLimit : Option Nat := none
  conditions : List (Nat × Nat) := []

/-- A step of the reader. -/
abbrev Reader := StateT ReaderState (Except Failure)

namespace Reader

/-- Fails with a position some characters before the next glyph. -/
def failBefore {α : Type} (defect : Defect) (distance : Nat) : Reader α := fun state =>
  .error (.malformed defect (some (state.offset - distance)))

/-- Fails at the next glyph. -/
def fail {α : Type} (defect : Defect) : Reader α := failBefore defect 0

/-- Fails at the given offset. -/
def failAt {α : Type} (defect : Defect) (position : Nat) : Reader α := fun _ =>
  .error (.malformed defect (some position))

/-- The next glyph, which is not consumed. -/
def peek : Reader (Option Glyph) := fun state => .ok (state.glyphs.head?, state)

/-- Consumes the next glyph, if there is one. -/
def next : Reader (Option Glyph) := fun state =>
  match state.glyphs with
  | [] => .ok (none, state)
  | glyph :: rest =>
    let offset := state.offset + glyph.width
    if rest = [.dangling] then .error (.malformed .danglingBackslash (some offset))
    else .ok (some glyph, { state with glyphs := rest, offset })

/-- Consumes the next glyph if it is the given character. -/
def accept (char : Char) : Reader Bool := do
  if (← peek) = some (.plain char) then
    let _ ← next
    pure true
  else pure false

/-- The offset of the next glyph. -/
def position : Reader Nat := fun state => .ok (state.offset, state)

/-- Consumes up to `count` plain characters of the given kind. -/
def takeWhile (test : Char → Bool) : (count : Nat) → Reader Text
  | 0 => pure []
  | count + 1 => do
    match ← peek with
    | some (.plain char) =>
      if test char then
        let _ ← next
        let rest ← takeWhile test count
        pure (char :: rest)
      else pure []
    | _ => pure []

/-- Consumes everything up to and with a terminator; `read` is what was read before. -/
def nameUntil (terminator : Char) (kind : String) (read : Text) : (fuel : Nat) → Reader Text
  | 0 => fail .tooDeep
  | fuel + 1 => do
    match ← next with
    | none =>
      if read.isEmpty then fail (.missingName kind)
      else failBefore (.unterminatedName terminator) read.length
    | some glyph =>
      if glyph = .plain terminator then
        if read.isEmpty then failBefore (.missingName kind) 1 else pure read
      else nameUntil terminator kind (read ++ glyph.text) fuel

/-- The number of glyphs that are left. -/
def remaining : Reader Nat := fun state => .ok (state.glyphs.length, state)

/-- Reads a name that ends with the given character. -/
def name (terminator : Char) (kind : String) : Reader Text := do
  nameUntil terminator kind [] ((← remaining) + 1)

/-- Reads what a group encloses, if there is room for it. -/
def inGroup {α : Type} (body : Reader α) : Reader α := fun state =>
  match state.room with
  | 0 => .error .nestedTooDeeply
  | room + 1 =>
    match body { state with room } with
    | .error failure => .error failure
    | .ok (value, later) => .ok (value, { later with room := later.room + 1 })

end Reader

open Reader

/-- The digits zero to seven. -/
def isOctal (char : Char) : Bool := '0' ≤ char && char ≤ '7'

/-- The hexadecimal digits. -/
def isHexadecimal (char : Char) : Bool :=
  char.isDigit || ('a' ≤ char && char ≤ 'f') || ('A' ≤ char && char ≤ 'F')

/-- The number that digits write in a base. -/
def digitsIn (base : Nat) (digits : Text) : Nat :=
  digits.foldl (fun total char => total * base + (Numeral.digitValue? base char).getD 0) 0

/-- Reads the digits of an escape that names a character by number. -/
def escapeDigits (lead : Char) (count : Nat) : Reader Text := do
  let digits ← takeWhile isHexadecimal count
  let escape := '\\' :: lead :: digits
  if digits.length ≠ count then failBefore (.incompleteEscape escape) escape.length
  else pure digits

/-- Reads an escape whose digits name a character whatever they are. -/
def shortCharacter (lead : Char) (count : Nat) : Reader Nat := do
  return digitsIn 16 (← escapeDigits lead count)

/-- Numbers from here on do not fit the word that a character is looked up by. -/
def wordLimit : Nat := 0x80000000

/-- Reads an escape with digits for more than the characters that there are. -/
def longCharacter : Reader Nat := do
  let digits ← escapeDigits 'U' 8
  let code := digitsIn 16 digits
  if wordLimit ≤ code then throw .characterTooLarge
  else if code > 0x10FFFF then
    failBefore (.badEscape ('\\' :: 'U' :: digits)) (digits.length + 2)
  else pure code

/-- Reads the name of an escape that names a character. -/
def namedCharacter : Reader Nat := do
  if !(← accept '\x7b') then fail .missingBrace
  else
    let characterName ← name '\x7d' "character name"
    match Unicode.named? characterName with
    | some code => pure code
    | none => failBefore (.undefinedCharacter characterName) (characterName.length + 4)

/-- The control characters that have an escape of their own. -/
def controlEscape? : Char → Option Nat
  | 'a' => some 0x07
  | 'b' => some 0x08
  | 'f' => some 0x0C
  | 'n' => some 0x0A
  | 'r' => some 0x0D
  | 't' => some 0x09
  | 'v' => some 0x0B
  | '\\' => some 0x5C
  | _ => none

/-- The character classes that have an escape. -/
def categoryEscape? : Char → Option SetItem
  | 'd' => some (.category .digit false)
  | 'D' => some (.category .digit true)
  | 's' => some (.category .space false)
  | 'S' => some (.category .space true)
  | 'w' => some (.category .word false)
  | 'W' => some (.category .word true)
  | _ => none

/-- The positions that have an escape. -/
def anchorEscape? : Char → Option Anchor
  | 'A' => some .textStart
  | 'Z' => some .textEnd
  | 'b' => some .boundary
  | 'B' => some .notBoundary
  | _ => none

/-- An escape without digits stands for its character; letters are kept for future meanings. -/
def plainEscape (char : Char) : Reader Nat :=
  if char.isAlpha then failBefore (.badEscape ['\\', char]) 2 else pure char.toNat

/-- Reads the rest of an escape inside a character set. -/
def setEscape (char : Char) : Reader SetItem := do
  match controlEscape? char with
  | some code => pure (.literal code)
  | none =>
    match categoryEscape? char with
    | some item => pure item
    | none =>
      if char = 'x' then return .literal (← shortCharacter 'x' 2)
      else if char = 'u' then return .literal (← shortCharacter 'u' 4)
      else if char = 'U' then return .literal (← longCharacter)
      else if char = 'N' then return .literal (← namedCharacter)
      else if isOctal char then
        let digits ← takeWhile isOctal 2
        let code := digitsIn 8 (char :: digits)
        if code > 0o377 then
          failBefore (.octalTooLarge ('\\' :: char :: digits)) (digits.length + 2)
        else pure (.literal code)
      else if char.isDigit then failBefore (.badEscape ['\\', char]) 2
      else return .literal (← plainEscape char)

/-- Whether a group has been closed. -/
def isClosed (widths : Expr.GroupWidths) (group : Nat) : Bool :=
  match widths[group]? with
  | some (some _) => true
  | _ => false

/-- Inside a lookbehind only groups may be referred to that were closed before it began. -/
def checkLookbehind (group : Nat) : Reader Unit := do
  let state ← get
  match state.lookbehindLimit with
  | none => pure ()
  | some limit =>
    if !isClosed state.widths group then fail .openGroup
    else if limit ≤ group then fail .groupInLookbehind
    else pure ()

/-- Reads the rest of an escape that begins with a digit other than zero: three octal digits name a
character, anything else a group. -/
def numberedReference (first : Char) : Reader Expr := do
  let second ← takeWhile Char.isDigit 1
  let octalSoFar := isOctal first && second.any isOctal
  let third ← if octalSoFar then takeWhile isOctal 1 else pure []
  let digits := first :: second ++ third
  if !third.isEmpty then
    let code := digitsIn 8 digits
    if code > 0o377 then failBefore (.octalTooLarge ('\\' :: digits)) (digits.length + 1)
    else pure (.literal code)
  else
    let group := digitsIn 10 digits
    let state ← get
    if group < state.widths.length then
      if !isClosed state.widths group then failBefore .openGroup (digits.length + 1)
      else
        checkLookbehind group
        pure (.backreference group)
    else failBefore (.invalidReference group) digits.length

/-- Reads the rest of an escape outside character sets. -/
def exprEscape (char : Char) : Reader Expr := do
  match categoryEscape? char, anchorEscape? char, controlEscape? char with
  | some item, _, _ => pure (.set false [item])
  | none, some anchor, _ => pure (.anchor anchor)
  | none, none, some code => pure (.literal code)
  | none, none, none =>
    if char = 'x' then return .literal (← shortCharacter 'x' 2)
    else if char = 'u' then return .literal (← shortCharacter 'u' 4)
    else if char = 'U' then return .literal (← longCharacter)
    else if char = 'N' then return .literal (← namedCharacter)
    else if char = '0' then
      let digits ← takeWhile isOctal 2
      pure (.literal (digitsIn 8 digits))
    else if char.isDigit then numberedReference char
    else return .literal (← plainEscape char)

/-- Reads one end of a range or a single member of a set. -/
def setMember (glyph : Glyph) : Reader SetItem :=
  match glyph with
  | .escaped char => setEscape char
  | .plain char => pure (.literal char.toNat)
  | .dangling => fail .danglingBackslash

/-- Reads the members of a set that begins at `start` up to its closing bracket. A bracket that
comes first is a member. -/
def setMembers (start : Nat) (items : List SetItem) : (fuel : Nat) → Reader (List SetItem)
  | 0 => fail .tooDeep
  | fuel + 1 => do
    match ← next with
    | none => failAt .unterminatedSet start
    | some first =>
      if first = .plain ']' && !items.isEmpty then pure items
      else
        let low ← setMember first
        if ← accept '-' then
          match ← next with
          | none => failAt .unterminatedSet start
          | some second =>
            if second = .plain ']' then pure (items ++ [low, .literal '-'.toNat])
            else
              let high ← setMember second
              let bad : Reader (List SetItem) :=
                failBefore (.badRange first.text second.text) (first.width + 1 + second.width)
              match low, high with
              | .literal low, .literal high =>
                if high < low then bad
                else setMembers start (items ++ [.range low high]) fuel
              | _, _ => bad
        else setMembers start (items ++ [low]) fuel

/-- Reads a character set behind its opening bracket. -/
def characterSet : Reader Expr := do
  let start := (← position) - 1
  let negated ← accept '^'
  let items ← setMembers start [] ((← remaining) + 1)
  match items.eraseDups with
  | [.literal code] => pure (if negated then .notLiteral code else .literal code)
  | items => pure (.set negated items)

/-- Counts from here on are too large. -/
def countLimit : Nat := 4294967295

/-- The count that digits write. -/
def countOf (digits : Text) : Reader Nat :=
  let count := digitsIn 10 digits
  if Numeral.digitLimit < digits.length then throw (.numeralTooLong digits.length)
  else if countLimit ≤ count then throw .repetitionTooLarge
  else pure count

/-- Reads the counts of a repetition in braces; none, with nothing consumed, if the braces are no
counts. The second component is the maximum. -/
def braceCounts : Reader (Option (Nat × Option Nat)) := do
  let start ← get
  if (← peek) = some (.plain '\x7d') then return none
  let here := start.offset
  let low ← takeWhile Char.isDigit (← remaining)
  let high ← if ← accept ',' then takeWhile Char.isDigit (← remaining) else pure low
  if !(← accept '\x7d') then
    set start
    return none
  let least ← countOf low
  if high.isEmpty then return some (least, none)
  let most ← countOf high
  if most < least then failAt .countsReversed here
  else return some (least, some most)

/-- An item of a sequence while it is read. A group that neither captures nor changes flags keeps
its items, which join the sequence unless a repetition follows. -/
inductive Piece
  | single (expr : Expr)
  | inline (exprs : List Expr)

/-- The items of the pieces read so far, the last piece first. -/
def flattenPieces : List Piece → List Expr
  | [] => []
  | .single expr :: rest => flattenPieces rest ++ [expr]
  | .inline exprs :: rest => flattenPieces rest ++ exprs

/-- Reads the mark behind a quantifier. -/
def greedMark : Reader Greed := do
  if ← accept '?' then pure .lazy
  else if ← accept '+' then pure .possessive
  else pure .greedy

/-- Applies a quantifier to the last piece. -/
def repeatLast (start least : Nat) (most : Option Nat) : List Piece → Reader (List Piece)
  | [] => failAt .nothingToRepeat start
  | .single (.anchor _) :: _ => failAt .nothingToRepeat start
  | .single (.repetition _ _ _ _) :: _ => failAt .multipleRepeat start
  | .single expr :: rest => do
    pure (.single (.repetition (← greedMark) least most expr) :: rest)
  | .inline exprs :: rest => do
    pure (.single (.repetition (← greedMark) least most (.ofSeq exprs)) :: rest)

/-- Reads a quantifier behind its first character. -/
def quantifier (mark : Char) (pieces : List Piece) : Reader (List Piece) := do
  let start := (← position) - 1
  if mark = '?' then repeatLast start 0 (some 1) pieces
  else if mark = '*' then repeatLast start 0 none pieces
  else if mark = '+' then repeatLast start 1 none pieces
  else
    match ← braceCounts with
    | none => pure (.single (.literal mark.toNat) :: pieces)
    | some (least, most) => repeatLast start least most pieces

/-- The flag that a letter names. -/
def flagOfLetter? : Char → Option Flags
  | 'i' => some { ignoreCase := true }
  | 'm' => some { multiline := true }
  | 's' => some { dotAll := true }
  | 'x' => some { verbose := true }
  | 'a' => some { ascii := true }
  | 't' => some { template := true }
  | 'u' => some { unicode := true }
  | _ => none

/-- The letters that name a flag, of which the locale flag is never accepted. -/
def isFlagLetter (char : Char) : Bool := char = 'L' || (flagOfLetter? char).isSome

/-- Reports a glyph that stands where a flag letter or one of the expected marks has to. -/
def badFlag {α : Type} (glyph : Glyph) (expected : String) : Reader α :=
  let isLetter := glyph.isPlain fun char => Unicode.isLetter char.toNat
  failBefore (if isLetter then .unknownFlag else .missingFlag expected) glyph.width

/-- Reads the flags that are switched on, beginning with a letter, and the mark behind them. -/
def flagsOn (flags : Flags) (letter : Char) : (fuel : Nat) → Reader (Flags × Char)
  | 0 => fail .tooDeep
  | fuel + 1 => do
    match flagOfLetter? letter with
    | none => fail .localeFlag
    | some flag =>
      let flags := flags.union flag
      if flag.choosesClasses && flags.ascii && flags.unicode then fail .conflictingClassFlags
      else
        match ← next with
        | none => fail (.missingFlag "-, : or )")
        | some glyph =>
          match glyph with
          | .plain char =>
            if char = ')' || char = '-' || char = ':' then pure (flags, char)
            else if isFlagLetter char then flagsOn flags char fuel
            else badFlag glyph "-, : or )"
          | _ => badFlag glyph "-, : or )"

/-- Reads the flags that are switched off, beginning with a letter, up to the colon. -/
def flagsOff (flags : Flags) (letter : Char) : (fuel : Nat) → Reader Flags
  | 0 => fail .tooDeep
  | fuel + 1 => do
    match flagOfLetter? letter with
    | none => fail .classFlagOff
    | some flag =>
      if flag.choosesClasses then fail .classFlagOff
      else
        let flags := flags.union flag
        match ← next with
        | none => fail (.missingFlag ":")
        | some glyph =>
          match glyph with
          | .plain char =>
            if char = ':' then pure flags
            else if isFlagLetter char then flagsOff flags char fuel
            else badFlag glyph ":"
          | _ => badFlag glyph ":"

/-- Reads inline flags behind their first character. Flags of the whole pattern are added to the
state; flags of a group are returned, first those switched on, then those switched off. -/
def inlineFlags (first : Char) : Reader (Option (Flags × Flags)) := do
  let fuel := (← remaining) + 1
  let (on, mark) ← if first = '-' then pure (Flags.none, '-') else flagsOn .none first fuel
  if mark = ')' then
    modify fun state => { state with flags := state.flags.union on }
    return none
  if on.template then failBefore .globalFlagOn 1
  else
    let off ←
      if mark = '-' then do
        match ← next with
        | none => fail (.missingFlag "flag")
        | some glyph =>
          match glyph with
          | .plain char =>
            if isFlagLetter char then flagsOff .none char fuel else badFlag glyph "flag"
          | _ => badFlag glyph "flag"
      else pure .none
    if off.template then failBefore .globalFlagOff 1
    else if on.common off ≠ .none then failBefore .flagOnAndOff 1
    else return some (on, off)

/-- Whether a text is an identifier. -/
def isIdentifier : Text → Bool
  | [] => false
  | first :: rest =>
    Unicode.startsIdentifier first.toNat
      && rest.all fun char => Unicode.continuesIdentifier char.toNat

/-- The number of the group with the given name. -/
def groupNamed? (groupName : Text) : Reader (Option Nat) := do
  pure (((← get).names.find? fun entry => entry.1 == groupName).map (·.2))

/-- Opens a group and gives its number. -/
def openGroup (groupName : Option Text) : Reader Nat := do
  let state ← get
  let group := state.widths.length
  match groupName with
  | none =>
    set { state with widths := state.widths ++ [none] }
    pure group
  | some text =>
    match state.names.find? fun entry => entry.1 == text with
    | some (_, earlier) => failBefore (.repeatedGroupName text group earlier) (text.length + 1)
    | none =>
      set { state with
        widths := state.widths ++ [none], names := state.names ++ [(text, group)] }
      pure group

/-- Closes a group whose contents have been read. -/
def closeGroup (group : Nat) (body : Expr) : Reader Unit :=
  modify fun state =>
    { state with widths := state.widths.set group (some (body.width state.widths)) }

/-- Skips a comment in a verbose pattern. -/
def skipLine : (fuel : Nat) → Reader Unit
  | 0 => pure ()
  | fuel + 1 => do
    match ← next with
    | none => pure ()
    | some glyph => if glyph = .plain '\n' then pure () else skipLine fuel

/-- Skips a comment group that began at `start`. -/
def skipComment (start : Nat) : (fuel : Nat) → Reader Unit
  | 0 => fail .tooDeep
  | fuel + 1 => do
    match ← next with
    | none => failAt .unterminatedComment start
    | some glyph => if glyph = .plain ')' then pure () else skipComment start fuel

/-- Reads a reference to a group by name. -/
def namedReference : Reader Expr := do
  let groupName ← name ')' "group name"
  if !isIdentifier groupName then
    failBefore (.badGroupName groupName) (groupName.length + 1)
  else
    match ← groupNamed? groupName with
    | none => failBefore (.unknownGroupName groupName) (groupName.length + 1)
    | some group =>
      if !isClosed (← get).widths group then failBefore .openGroup (groupName.length + 1)
      else
        checkLookbehind group
        pure (.backreference group)

/-- Reads the group that a condition asks for. -/
def conditionGroup : Reader Nat := do
  let groupName ← name ')' "group name"
  let distance := groupName.length + 1
  let group ←
    if isIdentifier groupName then
      match ← groupNamed? groupName with
      | none => failBefore (.unknownGroupName groupName) distance
      | some group => pure group
    else
      match Numeral.limitedInteger? groupName with
      | none => failBefore (.badGroupName groupName) distance
      | some number =>
        if number < 0 then failBefore (.badGroupName groupName) distance
        else if number = 0 then failBefore .badGroupNumber distance
        else if number ≥ 1073741823 then
          failBefore (.invalidReference number.toNat) distance
        else
          let group := number.toNat
          modify fun state =>
            { state with conditions := state.conditions ++ [(group, state.offset - distance)] }
          pure group
  checkLookbehind group
  pure group

/-- Whether two items are equal without looking into compound ones, which never are. -/
def sameAtom (left right : Expr) : Bool :=
  match left with
  | .any | .literal _ | .notLiteral _ | .set _ _ | .anchor _ | .backreference _ =>
    decide (left = right)
  | _ => false

/-- Moves the items that all alternatives begin with in front of the choice. -/
def commonStart : (fuel : Nat) → List (List Expr) → List Expr × List (List Expr)
  | 0, alternatives => ([], alternatives)
  | fuel + 1, alternatives =>
    match alternatives with
    | (first :: _) :: others =>
      if others.all fun items =>
          match items with
          | [] => false
          | item :: _ => sameAtom first item then
        let (start, rest) := commonStart fuel (alternatives.map (·.drop 1))
        (first :: start, rest)
      else ([], alternatives)
    | _ => ([], alternatives)

/-- The members of a set that an alternative of a single character stands for. -/
def memberOf? : List Expr → Option (List SetItem)
  | [.literal code] => some [.literal code]
  | [.set false items] => some items
  | _ => none

/-- The members of the set that the alternatives amount to, if each is a single character. -/
def membersOf? : List (List Expr) → Option (List SetItem)
  | [] => some []
  | items :: rest =>
    match memberOf? items, membersOf? rest with
    | some first, some others => some (first ++ others)
    | _, _ => none

/-- The items of a choice: what all alternatives begin with, then a set or a choice. -/
def joinAlternatives (alternatives : List (List Expr)) : List Expr :=
  match alternatives with
  | [only] => only
  | _ =>
    let shortest := (alternatives.headD []).length
    let (start, rest) := commonStart shortest alternatives
    match membersOf? rest with
    | some items => start ++ [.set false items.eraseDups]
    | none => start ++ [.ofAlternatives (rest.map .ofSeq)]

mutual

/-- Reads alternatives up to a closing parenthesis or the end. `outermost` tells whether no group
is open; only there flags of the whole pattern may stand, and change how the rest is read. -/
def alternatives (verbose outermost : Bool) (read : List (List Expr)) :
    (fuel : Nat) → Reader (List Expr)
  | 0 => fail .tooDeep
  | fuel + 1 => do
    let items ← sequence verbose (outermost && read.isEmpty) [] fuel
    let read := read ++ [items]
    if ← accept '|' then
      let state ← get
      let verbose := if outermost then state.flags.verbose else verbose
      alternatives verbose outermost read fuel
    else pure (joinAlternatives read)

/-- Reads the items of one alternative. -/
def sequence (verbose first : Bool) (pieces : List Piece) : (fuel : Nat) → Reader (List Expr)
  | 0 => fail .tooDeep
  | fuel + 1 => do
    match ← peek with
    | none => pure (flattenPieces pieces)
    | some (.plain '|') => pure (flattenPieces pieces)
    | some (.plain ')') => pure (flattenPieces pieces)
    | some (.escaped char) =>
      let _ ← next
      let expr ← exprEscape char
      sequence verbose first (.single expr :: pieces) fuel
    | some .dangling => fail .danglingBackslash
    | some (.plain char) =>
      let _ ← next
      if verbose && " \t\n\r\x0b\x0c".toList.contains char then
        sequence verbose first pieces fuel
      else if verbose && char = '#' then
        skipLine ((← remaining) + 1)
        sequence verbose first pieces fuel
      else if char = '[' then
        let expr ← characterSet
        sequence verbose first (.single expr :: pieces) fuel
      else if char = '*' || char = '+' || char = '?' || char = '\x7b' then
        let pieces ← quantifier char pieces
        sequence verbose first pieces fuel
      else if char = '.' then sequence verbose first (.single .any :: pieces) fuel
      else if char = '^' then
        sequence verbose first (.single (.anchor .lineStart) :: pieces) fuel
      else if char = '$' then
        sequence verbose first (.single (.anchor .lineEnd) :: pieces) fuel
      else if char = '(' then
        let start := (← position) - 1
        if ← accept '?' then
          extension verbose first start pieces fuel
        else
          let group ← openGroup none
          let body ← groupBody verbose start fuel
          closeGroup group (.ofSeq body)
          sequence verbose first
            (.single (.group (some group) .none .none (.ofSeq body)) :: pieces) fuel
      else sequence verbose first (.single (.literal char.toNat) :: pieces) fuel

/-- Reads the contents of a group and its closing parenthesis. -/
def groupBody (verbose : Bool) (start : Nat) : (fuel : Nat) → Reader (List Expr)
  | 0 => fail .tooDeep
  | fuel + 1 => do
    let body ← inGroup (alternatives verbose false [] fuel)
    if ← accept ')' then pure body else failAt .unterminatedGroup start

/-- Reads a group behind its question mark, then the rest of the alternative. -/
def extension (verbose first : Bool) (start : Nat) (pieces : List Piece) :
    (fuel : Nat) → Reader (List Expr)
  | 0 => fail .tooDeep
  | fuel + 1 => do
    match ← next with
    | none => fail .unexpectedEnd
    | some (.plain 'P') =>
      if ← accept '<' then
        let groupName ← name '>' "group name"
        if !isIdentifier groupName then
          failBefore (.badGroupName groupName) (groupName.length + 1)
        else
          let group ← openGroup (some groupName)
          let body ← groupBody verbose start fuel
          closeGroup group (.ofSeq body)
          sequence verbose first
            (.single (.group (some group) .none .none (.ofSeq body)) :: pieces) fuel
      else if ← accept '=' then
        let expr ← namedReference
        sequence verbose first (.single expr :: pieces) fuel
      else
        match ← next with
        | none => fail .unexpectedEnd
        | some glyph =>
          failBefore (.unknownExtension ('?' :: 'P' :: glyph.text)) (glyph.width + 2)
    | some (.plain ':') =>
      let body ← groupBody verbose start fuel
      sequence verbose first (.inline body :: pieces) fuel
    | some (.plain '#') =>
      skipComment start ((← remaining) + 1)
      sequence verbose first pieces fuel
    | some (.plain '=') =>
      let body ← groupBody verbose start fuel
      sequence verbose first (.single (.look true false (.ofSeq body)) :: pieces) fuel
    | some (.plain '!') =>
      let body ← groupBody verbose start fuel
      sequence verbose first (.single (.look true true (.ofSeq body)) :: pieces) fuel
    | some (.plain '<') =>
      match ← next with
      | none => fail .unexpectedEnd
      | some glyph =>
        if glyph = .plain '=' || glyph = .plain '!' then
          let outer := (← get).lookbehindLimit
          if outer.isNone then
            modify fun state => { state with lookbehindLimit := some state.widths.length }
          let body ← inGroup (alternatives verbose false [] fuel)
          if outer.isNone then
            modify fun state => { state with lookbehindLimit := none }
          if ← accept ')' then
            let expr := Expr.look false (glyph = .plain '!') (.ofSeq body)
            sequence verbose first (.single expr :: pieces) fuel
          else failAt .unterminatedGroup start
        else failBefore (.unknownExtension ('?' :: '<' :: glyph.text)) (glyph.width + 2)
    | some (.plain '(') =>
      let group ← conditionGroup
      let present ← inGroup (sequence verbose false [] fuel)
      let absent ←
        if ← accept '|' then do
          let absent ← inGroup (sequence verbose false [] fuel)
          if (← peek) = some (.plain '|') then fail .tooManyBranches else pure absent
        else pure []
      if ← accept ')' then
        let expr := Expr.conditional group (.ofSeq present) (.ofSeq absent)
        sequence verbose first (.single expr :: pieces) fuel
      else failAt .unterminatedGroup start
    | some (.plain '>') =>
      let body ← groupBody verbose start fuel
      sequence verbose first (.single (.atomic (.ofSeq body)) :: pieces) fuel
    | some glyph =>
      match glyph with
      | .plain char =>
        if char = '-' || isFlagLetter char then
          match ← inlineFlags char with
          | none =>
            if !first || !pieces.isEmpty then failAt .lateGlobalFlags start
            else
              let state ← get
              sequence state.flags.verbose first pieces fuel
          | some (on, off) =>
            let body ← groupBody ((verbose || on.verbose) && !off.verbose) start fuel
            let piece : Piece :=
              if on = .none && off = .none then .inline body
              else .single (.group none on off (.ofSeq body))
            sequence verbose first (piece :: pieces) fuel
        else failBefore (.unknownExtension ('?' :: glyph.text)) (glyph.width + 1)
      | _ => failBefore (.unknownExtension ('?' :: glyph.text)) (glyph.width + 1)

end

/-- A pattern that has been read, with the flags that hold for all of it. -/
structure Parsed where
  expr : Expr
  flags : Flags
  widths : Expr.GroupWidths

/-- How many groups may stand one around the other unless the caller says otherwise. -/
def nestingRoom : Nat := 490

/-- The state in front of a pattern in which a group may stand inside `room` others. -/
def ReaderState.start (pattern : Text) (flags : Flags) (room : Nat) : ReaderState :=
  { glyphs := Glyph.ofText pattern, offset := 0, flags, room := room + 1 }

/-- Reads a pattern in which a group may stand inside `room` others. -/
def parse (pattern : Text) (flags : Flags) (room : Nat := nestingRoom) : Except Failure Parsed :=
  let glyphs := Glyph.ofText pattern
  if glyphs = [.dangling] then .error (.malformed .danglingBackslash (some 0))
  else
    let fuel := 4 * glyphs.length + 4
    match alternatives flags.verbose true [] fuel (.start pattern flags room) with
    | .error failure => .error failure
    | .ok (items, state) =>
      if state.flags.ascii && state.flags.unicode then .error .contradictoryFlags
      else if !state.glyphs.isEmpty then
        .error (.malformed .unbalancedParenthesis (some state.offset))
      else
        match state.conditions.find? fun entry => state.widths.length ≤ entry.1 with
        | some (group, position) =>
          .error (.malformed (.invalidReference group) (some position))
        | none =>
          let flags :=
            if state.flags.ascii then state.flags else { state.flags with unicode := true }
          .ok ⟨.ofSeq items, flags, state.widths⟩

end Winnow.Regex
