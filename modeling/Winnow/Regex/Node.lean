import Winnow.Regex.CharTest
import Winnow.Regex.Error

/-!
# Compiled patterns

Applying the flags to a pattern as written leaves a tree in which every test on a character and
every position is decided on its own. The only defects found here are lookbehinds without a fixed
width and repetitions under the template flag.
-/

namespace Winnow.Regex

/-- A test on a position. Word characters are those of ASCII or of all scripts. -/
inductive Position
  | textStart
  | textEnd
  | lineStart
  | lineEnd
  /-- At the end, or before a line feed that ends the text. -/
  | lastLineEnd
  | boundary (ascii : Bool)
  | notBoundary (ascii : Bool)
  deriving DecidableEq, Repr

/-- A compiled pattern. -/
inductive Node
  | empty
  | char (test : CharTest)
  | position (test : Position)
  | backreference (group : Nat) (rule : CaseRule)
  | seq (first second : Node)
  | alt (first second : Node)
  | capture (group : Nat) (body : Node)
  | atomic (body : Node)
  /-- Looks at the text that begins `behind` characters before the position. -/
  | look (negated : Bool) (behind : Nat) (body : Node)
  | conditional (group : Nat) (present absent : Node)
  | repetition (greed : Greed) (least : Nat) (most : Option Nat) (body : Node)
  deriving DecidableEq, Repr

/-- The flags inside a group. -/
def Flags.inside (flags on off : Flags) : Flags :=
  let kept := if on.choosesClasses then { flags with ascii := false, unicode := false } else flags
  (kept.union on).without off

/-- The case rule that flags select. -/
def Flags.caseRule (flags : Flags) : CaseRule :=
  if !flags.ignoreCase then .exact
  else if flags.unicode then .ignoreAll
  else .ignoreAscii

/-- Whether the character classes are those of ASCII. -/
def Flags.asciiClasses (flags : Flags) : Bool := !flags.unicode

/-- The position that an anchor tests under the flags. -/
def Anchor.position (flags : Flags) : Anchor → Position
  | lineStart => if flags.multiline then .lineStart else .textStart
  | lineEnd => if flags.multiline then .lineEnd else .lastLineEnd
  | textStart => .textStart
  | textEnd => .textEnd
  | boundary => .boundary flags.asciiClasses
  | notBoundary => .notBoundary flags.asciiClasses

/-- The name of a repetition in a message. -/
def Greed.operator : Greed → String
  | greedy => "MAX_REPEAT"
  | lazy => "MIN_REPEAT"
  | possessive => "POSSESSIVE_REPEAT"

/-- The greatest distance that a lookbehind can go back. -/
def distanceLimit : Nat := 4294967295

/-- Applies the flags to a pattern as written. -/
def Expr.compile (widths : Expr.GroupWidths) (flags : Flags) : Expr → Except Defect Node
  | empty => .ok .empty
  | any => .ok (.char (if flags.dotAll then .anything else .notLineFeed))
  | literal code => .ok (.char (.literal flags.caseRule false code))
  | notLiteral code => .ok (.char (.literal flags.caseRule true code))
  | set negated items => .ok (.char (.set flags.caseRule flags.asciiClasses negated items))
  | anchor kind => .ok (.position (kind.position flags))
  | backreference index => .ok (.backreference index flags.caseRule)
  | seq first second => do
    let first ← first.compile widths flags
    let second ← second.compile widths flags
    pure (.seq first second)
  | alt first second => do
    let first ← first.compile widths flags
    let second ← second.compile widths flags
    pure (.alt first second)
  | group index on off body => do
    let body ← body.compile widths (flags.inside on off)
    pure (match index with
      | some index => .capture index body
      | none => body)
  | atomic body => do
    let body ← body.compile widths flags
    pure (.atomic body)
  | look ahead negated body => do
    let (low, high) := body.width widths
    let behind ←
      if ahead then pure 0
      else if distanceLimit < low then throw .distantLookbehind
      else if low ≠ high then throw .variableLookbehind
      else pure low
    let body ← body.compile widths flags
    pure (.look negated behind body)
  | conditional index present absent => do
    let present ← present.compile widths flags
    let absent ← absent.compile widths flags
    pure (.conditional index present absent)
  | repetition greed least most body => do
    if flags.template then throw (.templateRepetition greed.operator)
    let body ← body.compile widths flags
    pure (.repetition greed least most body)

end Winnow.Regex
