import Winnow.Style.Basic
import Winnow.Query.Token
import Winnow.Text.Utf8

/-!
# Highlighted spans

A span gives a style to a stretch of a text. Spans may overlap; merging gives one style to every
character, and a line is rendered as the longest stretches of equal style.
-/

namespace Winnow

/-- A styled stretch of a text with the token that it comes from. -/
structure Span where
  start : Int
  stop : Int
  style : Style
  token : Nat
  deriving DecidableEq, Repr

namespace Span

/-- Whether a span covers a position. -/
def covers (span : Span) (position : Nat) : Bool :=
  decide (span.start ≤ position ∧ (position : Int) < span.stop)

/-- The number of characters of a span. -/
def length (span : Span) : Int := span.stop - span.start

end Span

/-- The stretches of a match that are worth showing: of a pattern with several groups each group
that took part, otherwise the whole match. -/
def matchStretches (groups : Nat) (found : Regex.Match) : List (Nat × Nat) :=
  if groups ≤ 1 then [found.span]
  else (List.range groups).filterMap fun index => found.groupSpan? (index + 1)

/-- The spans of one token: every occurrence from left to right, empty stretches left out. -/
def tokenSpans (pattern : Pattern) (text : Text) (style : Style) (token : Nat) : List Span :=
  let occurrences := pattern.program.node.allMatches text.toArray
  let stretches := occurrences.flatMap (matchStretches pattern.groups)
  (stretches.filter fun (start, stop) => start < stop).map fun (start, stop) =>
    ⟨start, stop, style, token⟩

/-- The spans of tokens whose indices begin at `index`. -/
def spansFrom (text : Text) (style : Style) (index : Nat) : List Token → List Span
  | [] => []
  | token :: rest =>
    tokenSpans token.pattern text style index ++ spansFrom text style (index + 1) rest

/-- Every stretch of a text that a query matches, token by token. -/
def TokenSet.highlight (set : TokenSet) (text : Text) (style : Style) : List Span :=
  spansFrom text style 0 set.tokens

/-- The style at a position: the spans that cover it, combined in order. -/
def styleAt (spans : List Span) (position : Nat) : Option Style :=
  spans.foldl
    (fun style span =>
      if span.covers position then
        some (match style with
          | none => span.style
          | some base => base.combine span.style)
      else style)
    none

/-- One style for every position of a text of the given length. -/
def mergeSpans (spans : List Span) (length : Nat) : List (Option Style) :=
  (List.range length).map (styleAt spans)

/-- Equality of styles that may be missing. -/
def sameStyle : Option Style → Option Style → Bool
  | none, none => true
  | some left, some right => left.sameValue right
  | _, _ => false

/-- A stretch of text with one style. -/
abbrev StyledText := Option Style × Text

/-- Puts a styled character in front of stretches; it joins the first one if the styles are
equal. -/
def consStyled (style : Option Style) (char : Char) : List StyledText → List StyledText
  | [] => [(style, [char])]
  | (next, text) :: rest =>
    if sameStyle style next then (style, char :: text) :: rest
    else (style, [char]) :: (next, text) :: rest

/-- The longest stretches of equal style. -/
def styledRuns (styles : List (Option Style)) (text : Text) : List StyledText :=
  (styles.zip text).foldr (fun (style, char) runs => consStyled style char runs) []

/-- A text in stretches of equal style. -/
def runsOf (text : Text) (spans : List Span) : List StyledText :=
  styledRuns (mergeSpans spans text.length) text

/-- A stretch with the description of its style on top of a base style. -/
def describeRun (base : Text) : StyledText → Text × Text
  | (none, chunk) => (base, chunk)
  | (some style, chunk) =>
    if style.isPlain then (base, chunk)
    else ((base ++ ' ' :: style.description).strip, chunk)

/-- A candidate as described stretches. -/
def styleCandidate (text : Text) (spans : List Span) (base : Text) : List (Text × Text) :=
  (runsOf text spans).map (describeRun base)

/-- A stretch as the terminal shows it. -/
def renderRun : StyledText → Text
  | (none, chunk) => chunk
  | (some style, chunk) =>
    let sequence := style.terminalSequence
    if sequence.isEmpty then chunk else sequence ++ chunk ++ Style.terminalReset

/-- A candidate with terminal sequences around its styled stretches. -/
def renderTerminal (text : Text) (spans : List Span) : Text :=
  (runsOf text spans).flatMap renderRun

end Winnow
