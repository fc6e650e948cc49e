import Winnow.Text.Basic

/-!
# Tokens

What the notation of a document consists of. Block structure, which is written by indentation, has
tokens of its own.
-/

namespace Winnow.Yaml

/-- A token of a document. -/
inductive Token
  | streamEnd
  | version (major : Nat)
  | tagBase (handle base : Text)
  | reservedDirective
  | documentStart
  | documentEnd
  | blockSequenceStart
  | blockMappingStart
  | blockEnd
  | flowSequenceStart
  | flowSequenceEnd
  | flowMappingStart
  | flowMappingEnd
  | blockEntry
  | flowEntry
  | key
  | value
  | alias (name : Text)
  | anchor (name : Text)
  | tag (handle : Option Text) (suffix : Text)
  | scalar (text : Text) (plain : Bool)
  deriving DecidableEq, Repr

end Winnow.Yaml
