import Winnow.CommandLine.Request
import Winnow.Settings.Basic

/-!
# Settings under a request

What a request asks for goes before the settings; all else stays as it is.
-/

namespace Winnow

open CommandLine (Request)

/-- Why a request cannot go before the settings. -/
inductive OverrideError
  | limitBelowOne
  | timeoutNotPositive
  deriving DecidableEq, Repr

/-- The wording of an error. -/
def OverrideError.message : OverrideError → String
  | limitBelowOne => "--limit must be at least 1"
  | timeoutNotPositive => "--timeout must be positive"

/-- Matching under a request. -/
def MatchingSettings.override (matching : MatchingSettings) (request : Request) :
    MatchingSettings where
  method := request.matching.getD matching.method
  caseSensitive := request.caseSensitive.getD matching.caseSensitive
  tokenize := request.tokenize.getD matching.tokenize
  sort := request.sort.getD matching.sort
  levenshteinSort := request.levenshteinSort.getD matching.levenshteinSort

/-- Whether a number of seconds may be asked for: all but those that are zero or less. -/
def mayBeTimeout (seconds : Binary64) : Bool := seconds.isPositive || seconds = .notANumber

/-- Settings under a request. -/
def Settings.override (settings : Settings) (request : Request) :
    Except OverrideError Settings :=
  if request.limit.any (· < 1) then .error .limitBelowOne
  else if request.timeout.any fun seconds => !mayBeTimeout seconds then
    .error .timeoutNotPositive
  else
    .ok { settings with
      matching := settings.matching.override request
      color := settings.color && !request.noColor
      limit := request.limit.or settings.limit
      timeout := request.timeout.or settings.timeout }

end Winnow
