import Winnow.Engine
import Winnow.Number.Fixed

/-!
# Notices

What a run reports about its course. Details are shown only if they are asked for.
-/

namespace Winnow

/-- An event that is reported. -/
inductive Notice
  | unknownLocale
  | loading (path : Text)
  | matchedLiterally (pattern : Text) (failure : Regex.Failure)
  | stopped (evaluated : Nat) (query : Text)
  | waitingForKeys
  | truncated (evaluated total : Nat)
  deriving DecidableEq, Repr

namespace Notice

/-- Whether a notice is shown only if details are asked for. -/
def isDetail : Notice → Bool
  | unknownLocale => false
  | truncated _ _ => false
  | _ => true

/-- The part of the program that reports a notice. -/
def source : Notice → String
  | unknownLocale => "filter_cli.cli"
  | loading _ => "filter_cli.config.loader"
  | matchedLiterally _ _ => "filter_cli.core.patterns"
  | stopped _ _ => "filter_cli.core.engine"
  | waitingForKeys => "asyncio"
  | truncated _ _ => "filter_cli.cli"

/-- The wording of a notice. -/
def message : Notice → Text
  | unknownLocale => "Failed to set locale: unsupported locale setting".toList
  | loading path => "Loading configuration from ".toList ++ path
  | matchedLiterally pattern failure =>
    "Invalid regex pattern '".toList ++ pattern ++ "', matching literally: ".toList
      ++ (failure.message pattern).toList
  | stopped evaluated query =>
    "Stopped after ".toList ++ natText evaluated ++ " candidates for query '".toList ++ query
      ++ ['\'']
  | waitingForKeys => "Using selector: EpollSelector".toList
  | truncated evaluated total =>
    "Evaluation stopped after ".toList ++ natText evaluated ++ " of ".toList ++ natText total
      ++ " candidates".toList

/-- A notice as a line. -/
def line (notice : Notice) : Text :=
  (if notice.isDetail then "DEBUG: ".toList else "WARNING: ".toList) ++ notice.source.toList
    ++ [':', ' '] ++ notice.message ++ ['\n']

/-- What is reported when a query is compiled: the tokens whose pattern is no pattern. -/
def ofQuery (tokens : TokenSet) : List Notice :=
  tokens.tokens.filterMap fun token =>
    token.pattern.rejected.map fun failure => matchedLiterally token.value failure

/-- What is reported when candidates are filtered. -/
def ofFiltering (engine : Engine) (result : FilterResult) : List Notice :=
  ofQuery engine.tokens
    ++ (if result.truncated then [stopped result.evaluated engine.query] else [])

end Notice

end Winnow
