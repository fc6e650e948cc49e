import Winnow.Regex.Parser
import Winnow.Regex.Match

/-!
# From source to matcher

A program is a pattern that has been read and compiled, with what is known about it as a whole. A
set that every match begins with is read twice, under the flags around it and under those of the
whole pattern: matches begin only where both readings hold. This tells apart only classes of
characters.
-/

namespace Winnow.Regex

/-- A compiled regular expression: its tree, the flags of the whole pattern and the number of its
groups. -/
structure Program where
  node : Node
  flags : Flags
  groups : Nat
  deriving DecidableEq, Repr

/-- What every match of an expression begins with. -/
inductive Opening
  | nothing
  | set (flags : Flags) (negated : Bool) (items : List SetItem)
  | other

/-- What every match of an expression begins with, under the flags around it. -/
def Expr.opening (flags : Flags) : Expr → Opening
  | empty => .nothing
  | set negated items => .set flags negated items
  | seq first second =>
    match first.opening flags with
    | .nothing => second.opening flags
    | found => found
  | group _ on off body =>
    match body.opening (flags.inside on off) with
    | .nothing => .other
    | found => found
  | _ => .other

/-- Whether a member of a set is a class of characters. -/
def SetItem.isCategory : SetItem → Bool
  | category _ _ => true
  | _ => false

/-- Whether a case rule makes a difference for a member at the beginning of a pattern. -/
def SetItem.isCased (rule : CaseRule) : SetItem → Bool
  | literal code => rule.isCased code
  | range low high => rule ≠ .exact && (basicPlaneEnd < high || rule.anyCased low high)
  | category _ _ => false

/-- The second reading of what every match begins with, if it differs from the first one. -/
def Opening.secondReading? (whole : Flags) : Opening → Option CharTest
  | set flags negated items =>
    if flags.asciiClasses = whole.asciiClasses || !items.any SetItem.isCategory
        || items.any (SetItem.isCased flags.caseRule) then none
    else some (.set .exact whole.asciiClasses negated items)
  | _ => none

/-- A pattern behind a test on the character that it begins with. -/
def Node.behind (node : Node) : Option CharTest → Node
  | none => node
  | some test => .seq (.look false 0 (.char test)) node

namespace Program

/-- Compiles the source of a regular expression in which a group may stand inside `room` others. -/
def ofSource (source : Text) (flags : Flags) (room : Nat := nestingRoom) :
    Except Failure Program :=
  match parse source flags room with
  | .error failure => .error failure
  | .ok parsed =>
    match parsed.expr.compile parsed.widths parsed.flags with
    | .error defect => .error (.malformed defect none)
    | .ok node =>
      let test? := (parsed.expr.opening parsed.flags).secondReading? parsed.flags
      .ok ⟨node.behind test?, parsed.flags, parsed.widths.length - 1⟩

/-- The preferred match that covers a whole text. -/
def matchWhole? (program : Program) (text : Text) : Option Match :=
  let subject := text.toArray
  (program.node.run subject ⟨0, []⟩ fun state =>
      if state.offset == subject.size then some state else none).map
    fun state => ⟨0, state.offset, state.captures⟩

/-- What a group of a match covers; nothing if the group did not take part. -/
def groupText (text : Text) (found : Match) (group : Nat) : Text :=
  match found.groupSpan? group with
  | some (start, stop) => (text.drop start).take (stop - start)
  | none => []

end Program

end Winnow.Regex
