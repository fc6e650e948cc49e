import Winnow.Settings.Builtin
import Winnow.Settings.Schema
import Winnow.Files.Tree
import Winnow.Yaml.Document

/-!
# Layers of settings

Settings come from several mappings, each merged onto those below it: the built-in ones, the main
file, and the drop-in files of a directory. The drop-in files are merged with each other first, in
the order of their names.
-/

namespace Winnow

namespace Yaml

mutual

/-- A value on top of the one below it: two mappings are merged, anything else replaces. -/
def Value.above (below : Option Value) : Value → Value
  | .map entries =>
    match below with
    | some (.map under) => .map (Entries.merge under entries)
    | _ => .map entries
  | value => value

/-- Two mappings merged; the second one is on top. -/
def Entries.merge (below : Entries) : Entries → Entries
  | .nil => below
  | .cons key value rest =>
    Entries.merge (below.put key (Value.above (below.get? key) value)) rest

end

end Yaml

open Yaml (Value Scalar Entries)

/-- Why no settings can be loaded. -/
inductive LoadError
  | undecodable (problem : Utf8.DecodeError)
  | noDocument (problem : Yaml.LoadError)
  | noMapping (path : Text) (typeName : String)
  | unfit (problem : SettingsError)
  deriving DecidableEq, Repr

/-- Why bytes are malformed. -/
def malformationText : Utf8.Malformation → String
  | .invalidStart => "invalid start byte"
  | .invalidContinuation => "invalid continuation byte"
  | .unexpectedEnd => "unexpected end of data"

/-- Where bytes are malformed. -/
def malformedPlace (problem : Utf8.DecodeError) : Text :=
  match problem.bytes with
  | [byte] =>
    "byte 0x".toList ++ Text.hexDigits 2 byte.toNat ++ " in position ".toList
      ++ natText problem.position
  | bytes =>
    "bytes in position ".toList ++ natText problem.position ++ '-'
      :: natText (problem.position + bytes.length - 1)

/-- The wording of an error. -/
def LoadError.message : LoadError → String
  | undecodable problem =>
    String.ofList ("'utf-8' codec can't decode ".toList ++ malformedPlace problem ++ [':', ' ']
      ++ (malformationText problem.cause).toList)
  | noDocument problem => problem.message
  | noMapping path typeName =>
    String.ofList (path ++ ": expected a mapping at the top level, got ".toList
      ++ typeName.toList)
  | unfit (.invalid kind problems) => Problem.report kind problems
  | unfit .foreignKey => ""

/-- Whether an error is of a kind that a run reports. -/
def LoadError.isReported : LoadError → Bool
  | undecodable _ => true
  | noDocument problem => problem.isReported
  | noMapping _ _ => true
  | unfit (.invalid _ _) => true
  | unfit .foreignKey => false

/-- What a run reports; defects of the notation are not told apart. -/
def LoadError.report : LoadError → String
  | noDocument .malformed => "YAMLError"
  | problem => problem.message

/-- What one file adds to the settings. -/
structure Layer where
  path : Text
  content : Except LoadError Entries

namespace Layer

/-- Line ends of all kinds as line feeds. -/
def unifyLineEnds : Text → Text
  | '\r' :: '\n' :: rest => '\n' :: unifyLineEnds rest
  | '\r' :: rest => '\n' :: unifyLineEnds rest
  | char :: rest => char :: unifyLineEnds rest
  | [] => []

/-- A sequence that the end of the file cuts off is reported by its place behind what was decoded
before it. -/
def relocate (problem : Utf8.DecodeError) : Utf8.DecodeError :=
  match problem.cause with
  | .unexpectedEnd => { problem with position := 0 }
  | _ => problem

/-- The mapping that a document holds; an empty document is an empty mapping. -/
def mappingOf (path : Text) : Value → Except LoadError Entries
  | .scalar .null => .ok .nil
  | .map entries => .ok entries
  | value => .error (.noMapping path value.typeName)

/-- The mapping that a file holds. -/
def read (path : Text) (bytes : List UInt8) : Except LoadError Entries :=
  match Utf8.decode bytes with
  | .error problem => .error (.undecodable (relocate problem))
  | .ok text =>
    match Yaml.load (unifyLineEnds text) with
    | .error problem => .error (.noDocument problem)
    | .ok value => mappingOf path value

/-- The layer of a file, if there is one. -/
def ofFile? (tree : FileTree) (path : Path) : Option Layer :=
  (tree.file? path).map fun bytes => ⟨path.text, read path.text bytes⟩

/-- The endings of the names of drop-in files. -/
def dropInEndings : List Text := [".yaml".toList, ".yml".toList]

/-- Whether a text comes before another one in the order of code points, or is equal to it. -/
def isOrdered : Text → Text → Bool
  | [], _ => true
  | _ :: _, [] => false
  | first :: left, second :: right =>
    first.toNat < second.toNat || (first = second && isOrdered left right)

/-- Puts a name in front of the first one that it does not come after. -/
def insertName (name : Text) : List Text → List Text
  | [] => [name]
  | other :: rest =>
    if isOrdered name other then name :: other :: rest else other :: insertName name rest

/-- Names in their order. -/
def sortNames (names : List Text) : List Text := names.foldr insertName []

/-- The layers of a drop-in directory in the order of their names. -/
def ofDirectory (tree : FileTree) (path : Path) : List Layer :=
  let names := ((tree.directory? path).getD []).filter fun name =>
    dropInEndings.contains (Path.suffixOf name)
  (sortNames names).filterMap fun name => ofFile? tree (path.child name)

/-- Layers merged with each other, the first one lowest; the first that cannot be read is an
error. -/
def mergeAll (below : Entries) : List Layer → Except LoadError Entries
  | [] => .ok below
  | layer :: rest =>
    match layer.content with
    | .error problem => .error problem
    | .ok entries => mergeAll (below.merge entries) rest

/-- The layers up to the first one that cannot be read. -/
def attempted : List Layer → List Layer
  | [] => []
  | layer :: rest =>
    match layer.content with
    | .error _ => [layer]
    | .ok _ => layer :: attempted rest

end Layer

/-- Where settings are loaded from. -/
structure SettingsSource where
  main : Path
  dropIns : Path
  deriving DecidableEq, Repr

namespace SettingsSource

/-- The directory of the settings: the one that is asked for, or one in the home directory. -/
def directory (asked : Option Text) (home : Text) : Path :=
  match asked with
  | some directory => Path.ofText directory
  | none =>
    let trimmed := Text.dropTrailing (· = '/') home
    let base := Path.ofText (if trimmed.isEmpty then ['/'] else trimmed)
    (base.child ".config".toList).child "filter".toList

/-- The main file and the drop-in directory in a directory of settings. -/
def inside (directory : Path) : SettingsSource :=
  ⟨directory.child "config.yaml".toList, directory.child "conf.d".toList⟩

/-- The layer of the main file. -/
def mainLayer (source : SettingsSource) (tree : FileTree) : List Layer :=
  (Layer.ofFile? tree source.main).toList

/-- The layers of the drop-in files. -/
def dropInLayers (source : SettingsSource) (tree : FileTree) : List Layer :=
  Layer.ofDirectory tree source.dropIns

/-- The files that are read, in this order. -/
def visited (source : SettingsSource) (tree : FileTree) : List Text :=
  (Layer.attempted (source.mainLayer tree ++ source.dropInLayers tree)).map Layer.path

/-- The layers merged into one mapping. -/
def merged (source : SettingsSource) (tree : FileTree) : Except LoadError Entries := do
  let main ← Layer.mergeAll .nil (source.mainLayer tree)
  let dropIns ← Layer.mergeAll .nil (source.dropInLayers tree)
  pure ((Builtin.settings.merge main).merge dropIns)

/-- Loads settings. -/
def load (source : SettingsSource) (tree : FileTree) : Except LoadError Settings :=
  match source.merged tree with
  | .error problem => .error problem
  | .ok entries => (Settings.ofEntries entries).mapError .unfit

end SettingsSource

/-- Whether a value counts as nothing: null, false, zero, and everything empty. -/
def Yaml.Value.isNothing : Value → Bool
  | .scalar .null => true
  | .scalar (.bool value) => !value
  | .scalar (.int value) => value = 0
  | .scalar (.real value) => value.sameValue .zero
  | .scalar (.text text) => text.isEmpty
  | .scalar (.bytes bytes) => bytes.isEmpty
  | .scalar _ => false
  | .set isEmpty => isEmpty
  | .pair => false
  | .list items => items.toList.isEmpty
  | .map entries => entries.toList.isEmpty

/-- Reads settings from a text, without any other layer. -/
def Settings.ofText (text : Text) : Except LoadError Settings :=
  match Yaml.load text with
  | .error problem => .error (.noDocument problem)
  | .ok value =>
    if value.isNothing then .ok {}
    else
      match value with
      | .map entries => (Settings.ofEntries entries).mapError .unfit
      | _ => .error (.unfit .foreignKey)

end Winnow
