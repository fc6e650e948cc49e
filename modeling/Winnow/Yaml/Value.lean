import Winnow.Number.Binary64

/-!
# Values of documents

A document is a tree of mappings, lists and scalars. Only scalars are keys, and a key is found by
its value: the integer one, the real number one and true are the same key, and so are two points in
time that are the same instant.
-/

namespace Winnow.Yaml

/-- Whether a year has a leap day. -/
def isLeapYear (year : Nat) : Bool := year % 4 = 0 && (year % 100 ≠ 0 || year % 400 = 0)

/-- The number of days of a month. -/
def daysInMonth (year month : Nat) : Nat :=
  if month = 2 then if isLeapYear year then 29 else 28
  else if month = 4 || month = 6 || month = 9 || month = 11 then 30
  else 31

/-- The number of a day, counted from the first day of the year one. -/
def dayNumber (year month day : Nat) : Nat :=
  let past := year - 1
  let before :=
    (List.range (month - 1)).foldl (fun days earlier => days + daysInMonth year (earlier + 1)) 0
  past * 365 + past / 4 + past / 400 - past / 100 + before + day

/-- A point in time with an optional distance from universal time in minutes. -/
structure Moment where
  year : Nat
  month : Nat
  day : Nat
  hour : Nat
  minute : Nat
  second : Nat
  microsecond : Nat
  offset? : Option Int
  deriving DecidableEq, Repr

/-- The microseconds up to a point in time, if its distance from universal time is known. -/
def Moment.instant? (moment : Moment) : Option Int :=
  moment.offset?.map fun offset =>
    let hours : Int := dayNumber moment.year moment.month moment.day * 24 + moment.hour
    let minutes := hours * 60 + moment.minute - offset
    (minutes * 60 + moment.second) * 1000000 + moment.microsecond

/-- A value without parts. -/
inductive Scalar
  | null
  | bool (value : Bool)
  | int (value : Int)
  | real (value : Binary64)
  | text (value : Text)
  | date (year month day : Nat)
  | moment (value : Moment)
  | bytes (value : List UInt8)
  deriving DecidableEq, Repr

/-- What all spellings of a key have in common. -/
inductive KeyForm
  | number (value : Int)
  | instant (microseconds : Int)
  | itself (value : Scalar)
  deriving DecidableEq, Repr

namespace Scalar

/-- What a scalar stands for among keys. -/
def form (key : Scalar) : KeyForm :=
  match key with
  | bool value => .number (if value then 1 else 0)
  | int value => .number value
  | real value =>
    match value.toInt? with
    | some integer => .number integer
    | none => .itself key
  | moment value =>
    match value.instant? with
    | some microseconds => .instant microseconds
    | none => .itself key
  | key => .itself key

/-- Whether two scalars are the same key. -/
def sameKey (left right : Scalar) : Bool := decide (left.form = right.form)

/-- The name of a scalar's type. -/
def typeName : Scalar → String
  | null => "NoneType"
  | bool _ => "bool"
  | int _ => "int"
  | real _ => "float"
  | text _ => "str"
  | date _ _ _ => "date"
  | moment _ => "datetime"
  | bytes _ => "bytes"

end Scalar

mutual

/-- A value of a document. Nobody asks for the members of sets and ordered pairs, so they are not
kept. -/
inductive Value
  | scalar (value : Scalar)
  | set (isEmpty : Bool)
  | pair
  | list (items : Items)
  | map (entries : Entries)

/-- The items of a list. -/
inductive Items
  | nil
  | cons (head : Value) (tail : Items)

/-- The entries of a mapping in their order. -/
inductive Entries
  | nil
  | cons (key : Scalar) (value : Value) (rest : Entries)

end

instance : Inhabited Value := ⟨.scalar .null⟩

instance : Inhabited Entries := ⟨.nil⟩

/-- The name of a value's type. -/
def Value.typeName : Value → String
  | .scalar value => value.typeName
  | .set _ => "set"
  | .pair => "tuple"
  | .list _ => "list"
  | .map _ => "dict"

/-- Null. -/
def Value.null : Value := .scalar .null

namespace Items

/-- The items as a list. -/
def toList : Items → List Value
  | nil => []
  | cons head tail => head :: tail.toList

/-- A list as items. -/
def ofList : List Value → Items
  | [] => nil
  | head :: tail => cons head (ofList tail)

end Items

namespace Entries

/-- The entries as a list of pairs. -/
def toList : Entries → List (Scalar × Value)
  | nil => []
  | cons key value rest => (key, value) :: rest.toList

/-- A list of pairs as entries. -/
def ofList : List (Scalar × Value) → Entries
  | [] => nil
  | (key, value) :: rest => cons key value (ofList rest)

/-- The value at a key. -/
def get? : Entries → Scalar → Option Value
  | nil, _ => none
  | cons key value rest, wanted => if key.sameKey wanted then some value else rest.get? wanted

/-- Writes a value at a key. A key that is there keeps its place and its spelling; a new one comes
last. -/
def put : Entries → Scalar → Value → Entries
  | nil, key, value => cons key value nil
  | cons key old rest, wanted, value =>
    if key.sameKey wanted then cons key value rest else cons key old (rest.put wanted value)

/-- The value at a key that is a text. -/
def getText? (entries : Entries) (name : String) : Option Value :=
  entries.get? (.text name.toList)

end Entries

end Winnow.Yaml
