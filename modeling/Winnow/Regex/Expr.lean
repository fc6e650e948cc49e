import Winnow.Text.Basic

/-!
# Regular expressions as written

The tree of a pattern before its flags are applied. Characters are code points, because an escape
may name one that no text holds. Sequence and choice are binary; groups keep the flags that they
switch on and off.
-/

namespace Winnow.Regex

/-- A named class of characters. -/
inductive Category
  | digit
  | space
  | word
  deriving DecidableEq, Repr

/-- A member of a character set. -/
inductive SetItem
  | literal (code : Nat)
  | range (low high : Nat)
  | category (kind : Category) (negated : Bool)
  deriving DecidableEq, Repr

/-- A position that matches without consuming a character. -/
inductive Anchor
  | lineStart
  | lineEnd
  | textStart
  | textEnd
  | boundary
  | notBoundary
  deriving DecidableEq, Repr

/-- The flags of a pattern or of a group. -/
structure Flags where
  ignoreCase : Bool := false
  multiline : Bool := false
  dotAll : Bool := false
  verbose : Bool := false
  ascii : Bool := false
  unicode : Bool := false
  template : Bool := false
  deriving DecidableEq, Repr

namespace Flags

/-- No flag. -/
def none : Flags := {}

/-- The flags of either side. -/
def union (left right : Flags) : Flags :=
  ⟨left.ignoreCase || right.ignoreCase, left.multiline || right.multiline,
    left.dotAll || right.dotAll, left.verbose || right.verbose, left.ascii || right.ascii,
    left.unicode || right.unicode, left.template || right.template⟩

/-- The flags of the left side that the right side lacks. -/
def without (left right : Flags) : Flags :=
  ⟨left.ignoreCase && !right.ignoreCase, left.multiline && !right.multiline,
    left.dotAll && !right.dotAll, left.verbose && !right.verbose, left.ascii && !right.ascii,
    left.unicode && !right.unicode, left.template && !right.template⟩

/-- The flags of both sides. -/
def common (left right : Flags) : Flags :=
  ⟨left.ignoreCase && right.ignoreCase, left.multiline && right.multiline,
    left.dotAll && right.dotAll, left.verbose && right.verbose, left.ascii && right.ascii,
    left.unicode && right.unicode, left.template && right.template⟩

/-- Whether a flag selects the meaning of the character classes. -/
def choosesClasses (flags : Flags) : Bool := flags.ascii || flags.unicode

end Flags

/-- How a repetition chooses between one more round and what follows. -/
inductive Greed
  | greedy
  | lazy
  | possessive
  deriving DecidableEq, Repr

/-- A regular expression as written. A repetition without a maximum has no limit. -/
inductive Expr
  | empty
  | any
  | literal (code : Nat)
  | notLiteral (code : Nat)
  | set (negated : Bool) (items : List SetItem)
  | anchor (kind : Anchor)
  | backreference (group : Nat)
  | seq (first second : Expr)
  | alt (first second : Expr)
  | group (index : Option Nat) (on off : Flags) (body : Expr)
  | atomic (body : Expr)
  | look (ahead negated : Bool) (body : Expr)
  | conditional (group : Nat) (present absent : Expr)
  | repetition (greed : Greed) (least : Nat) (most : Option Nat) (body : Expr)
  deriving DecidableEq, Repr

namespace Expr

/-- The expressions one after the other. -/
def ofSeq : List Expr → Expr
  | [] => empty
  | [only] => only
  | first :: rest => seq first (ofSeq rest)

/-- The choice between expressions, the earlier preferred. -/
def ofAlternatives : List Expr → Expr
  | [] => empty
  | [only] => only
  | first :: rest => alt first (ofAlternatives rest)

/-- The widths of the groups by index, an open group having none. -/
abbrev GroupWidths := List (Option (Nat × Nat))

/-- No width is told apart above this one. -/
def widthLimit : Nat := Nat.pow 2 64

/-- The least and the greatest number of characters that an expression consumes. -/
def width (groups : GroupWidths) : Expr → Nat × Nat
  | empty => (0, 0)
  | any => (1, 1)
  | literal _ => (1, 1)
  | notLiteral _ => (1, 1)
  | set _ _ => (1, 1)
  | anchor _ => (0, 0)
  | backreference index => ((groups[index]?).bind id).getD (0, 0)
  | seq first second =>
    let (low, high) := width groups first
    let (low', high') := width groups second
    (low + low', high + high')
  | alt first second =>
    let (low, high) := width groups first
    let (low', high') := width groups second
    (min low low', max high high')
  | group _ _ _ body => width groups body
  | atomic body => width groups body
  | look _ _ _ => (0, 0)
  | conditional _ present absent =>
    let (low, high) := width groups present
    let (low', high') := width groups absent
    (min low low', max high high')
  | repetition _ least most body =>
    let (low, high) := width groups body
    (low * least,
      match most with
      | some most => high * most
      | none => if high = 0 then 0 else widthLimit)

end Expr

end Winnow.Regex
