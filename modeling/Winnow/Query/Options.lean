import Winnow.Text.Case
import Winnow.Text.Quoted

/-!
# Matching options

A query is matched by one of four methods, with or without regard to letter case, and as one token
or word by word.
-/

namespace Winnow

/-- How the text of a token is turned into a pattern. -/
inductive Method
  | literal
  | glob
  | regex
  | fuzzy
  deriving DecidableEq, Repr

namespace Method

/-- The name of a method in configurations. -/
def name : Method → String
  | literal => "normal"
  | glob => "glob"
  | regex => "regex"
  | fuzzy => "fuzzy"

/-- All methods in the order in which they are listed. -/
def all : List Method := [literal, glob, regex, fuzzy]

/-- Looks a method up by its name; blanks around it and letter case do not matter, and the literal
method has a second name. -/
def ofName? (text : Text) : Option Method :=
  let key := String.ofList text.strip.lower
  if key = "literal" then some literal else all.find? fun method => method.name = key

/-- The names of all methods. -/
def names : Text := Text.join ", ".toList (all.map fun method => method.name.toList)

/-- What is reported for a name that no method has. -/
def unknownMessage (text : Text) : String :=
  String.ofList ('\'' :: text ++ "' is not a valid matching strategy. Valid options are: ".toList
    ++ names)

end Method

/-- The options that a query is compiled with. -/
structure MatchOptions where
  method : Method := .literal
  caseSensitive : Bool := false
  tokenize : Bool := true
  deriving DecidableEq, Repr

end Winnow
