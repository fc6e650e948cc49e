import Winnow.Yaml.Node
import Winnow.Yaml.Scalar

/-!
# Values of documents

Nodes become values under their tags. What a collection holds is built after everything that is
less deep, so of several defects the least deep one comes to light. A mapping takes over the entries
of the mappings that it merges, its own entries coming later and so winning, and keys have to be
scalars.
-/

namespace Winnow.Yaml

/-- Writes entries one after the other. -/
def Entries.putAll (entries : Entries) : List (Scalar × Value) → Entries
  | [] => entries
  | (key, value) :: rest => (entries.put key value).putAll rest

/-! ## Defects by their depth -/

/-- Something that is built, or a defect with the depth at which it comes to light. -/
abbrev Building (α : Type) := Except (Nat × LoadError) α

namespace Building

variable {α β : Type}

/-- Reports a defect of the notation. -/
def fail : Building α := .error (0, .malformed)

/-- Builds two things. The less deep of two defects comes to light, or else the first. -/
def both (left : Building α) (right : Building β) : Building (α × β) :=
  match left, right with
  | .ok first, .ok second => .ok (first, second)
  | .ok _, .error defect => .error defect
  | .error defect, .ok _ => .error defect
  | .error first, .error second => .error (if second.1 < first.1 then second else first)

/-- A collection from what it holds, whose defects are one deeper. -/
def inside (collect : α → β) (content : Building α) : Building β :=
  match content with
  | .ok content => .ok (collect content)
  | .error (depth, problem) => .error (depth + 1, problem)

/-- Reports that a collection does not hold what its tag says. -/
def misplaced : Building α := .error (1, .malformed)

/-- Two lists one after the other. -/
def append (left right : Building (List α)) : Building (List α) :=
  (left.both right).map fun (first, second) => first ++ second

/-- A scalar under a tag. -/
def scalar (tag : Tag) (text : Text) : Building Value :=
  match Scalar.ofTagged tag text with
  | .ok value => .ok (.scalar value)
  | .error problem => .error (0, problem)

/-- A value as a key. What a collection holds does not matter then. -/
def asKey : Building Value → Building Scalar
  | .ok (.scalar value) => .ok value
  | .error (0, problem) => .error (0, problem)
  | _ => fail

end Building

/-! ## What nodes say about each other -/

/-- Whether a tag is that of a collection. -/
def Tag.isCollection (tag : Tag) : Bool := [seq, map, set, omap, pairs].contains tag

/-- The tag of a key: an equals sign is a text there. -/
def Node.keyTag (key : Node) : Tag := if key.tag = .value then .str else key.tag

mutual

/-- The text of a node. That of a mapping is the text at the first equals sign among its keys. -/
def Node.text? : Node → Option Text
  | .scalar _ text => some text
  | .sequence _ _ => none
  | .mapping _ pairs => pairs.text?

/-- The text at the first equals sign among keys. -/
def NodePairs.text? : NodePairs → Option Text
  | .nil => none
  | .cons key value rest => if key.tag = .value then value.text? else rest.text?

end

mutual

/-- Whether everything that is merged is a mapping or several of them. -/
def NodePairs.mergesMappings : NodePairs → Bool
  | .nil => true
  | .cons key value rest => (key.tag ≠ .merge || value.isSource) && rest.mergesMappings

/-- Whether a node can be merged. -/
def Node.isSource : Node → Bool
  | .scalar _ _ => false
  | .sequence _ items => items.areSources
  | .mapping _ pairs => pairs.mergesMappings

/-- Whether nodes are mappings that can be merged. -/
def NodeItems.areSources : NodeItems → Bool
  | .nil => true
  | .cons (.mapping _ pairs) tail => pairs.mergesMappings && tail.areSources
  | .cons _ _ => false

end

/-! ## Building -/

mutual

/-- The value of a node under a tag. -/
def Value.build (tag : Tag) : Node → Building Value
  | .scalar _ text =>
    if tag.isCollection then Building.misplaced else Building.scalar tag text
  | .sequence _ items =>
    match tag with
    | .seq => (listOf items).inside fun values => .list (.ofList values)
    | .omap | .pairs => (pairsOf items).inside fun values => .list (.ofList values)
    | .map | .set => Building.misplaced
    | _ => Building.fail
  | .mapping _ pairs =>
    match tag with
    | .map =>
      if pairs.mergesMappings then
        ((mergedOf pairs).append (ownOf pairs)).inside fun entries =>
          .map (Entries.nil.putAll entries)
      else Building.misplaced
    | .set =>
      if pairs.mergesMappings then
        ((mergedOf pairs).append (ownOf pairs)).inside fun entries => .set entries.isEmpty
      else Building.misplaced
    | .seq | .omap | .pairs => Building.misplaced
    | .timestamp =>
      if pairs.text?.isSome then .error (0, .mappedTimestamp) else Building.fail
    | tag =>
      match pairs.text? with
      | some text => Building.scalar tag text
      | none => Building.fail

/-- The values of the items of a sequence. -/
def listOf : NodeItems → Building (List Value)
  | .nil => .ok []
  | .cons head tail =>
    ((Value.build head.tag head).both (listOf tail)).map fun (value, values) => value :: values

/-- The items of a sequence as pairs: each has to be a mapping with a single entry. -/
def pairsOf : NodeItems → Building (List Value)
  | .nil => .ok []
  | .cons (.mapping _ (.cons key value .nil)) tail =>
    (((Value.build key.tag key).both (Value.build value.tag value)).both (pairsOf tail)).map
      fun (_, values) => .pair :: values
  | .cons _ _ => Building.fail

/-- The entries of a mapping without those that it merges. -/
def ownOf : NodePairs → Building (List (Scalar × Value))
  | .nil => .ok []
  | .cons key value rest =>
    if key.tag = .merge then ownOf rest
    else
      (((Value.build key.keyTag key).asKey.both (Value.build value.tag value)).both
        (ownOf rest)).map fun (entry, entries) => entry :: entries

/-- The entries that a mapping merges, in the order in which they are written. -/
def mergedOf : NodePairs → Building (List (Scalar × Value))
  | .nil => .ok []
  | .cons key value rest =>
    if key.tag = .merge then (sourceOf value).append (mergedOf rest)
    else mergedOf rest

/-- The entries of what is merged: a mapping or several of them. -/
def sourceOf : Node → Building (List (Scalar × Value))
  | .mapping _ pairs => (mergedOf pairs).append (ownOf pairs)
  | .sequence _ items => sourcesOf items
  | .scalar _ _ => Building.fail

/-- The entries of several merged mappings; an earlier mapping is written later. -/
def sourcesOf : NodeItems → Building (List (Scalar × Value))
  | .nil => .ok []
  | .cons (.mapping _ pairs) tail =>
    (sourcesOf tail).append ((mergedOf pairs).append (ownOf pairs))
  | .cons _ _ => Building.fail

end

/-- The value of a node. -/
def Value.ofNode (node : Node) : Except LoadError Value :=
  (Value.build node.tag node).mapError fun (_, problem) => problem

/-- The value of a document; an empty one is null. -/
def load (text : Text) : Except LoadError Value := do
  match ← Node.ofText text with
  | none => pure .null
  | some node => Value.ofNode node

end Winnow.Yaml
