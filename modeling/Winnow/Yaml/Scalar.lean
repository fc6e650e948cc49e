import Winnow.Yaml.Value
import Winnow.Yaml.Tag
import Winnow.Yaml.Error
import Winnow.Text.Utf8
import Winnow.Number.Numeral

/-!
# Values of scalars

What the text of a scalar means under its tag: integers in several bases, real numbers, dates, and
bytes in base 64.
-/

namespace Winnow.Yaml

namespace Scalar

/-- A sign and what follows it; true means minus. -/
def splitSign : Text → Bool × Text
  | '-' :: rest => (true, rest)
  | '+' :: rest => (false, rest)
  | rest => (false, rest)

/-- An integer with its sign applied. -/
def withSign (negative : Bool) (value : Int) : Int := if negative then -value else value

/-- The letter of the mark that may stand in front of digits in a base other than ten. -/
def baseLetter? : Nat → Option Char
  | 2 => some 'b'
  | 8 => some 'o'
  | 16 => some 'x'
  | _ => none

/-- Digits without the mark of their base. -/
def withoutMark (base : Nat) : Text → Text
  | '0' :: letter :: rest =>
    if baseLetter? base = some letter.toLower then rest else '0' :: letter :: rest
  | digits => digits

/-- Reads digits in a base. There is a limit to the number of decimal digits. -/
def digits (base : Nat) (text : Text) : Except LoadError Int :=
  let count := Numeral.leadingDigits text
  let (negative, unsigned) := Numeral.sign (text.trim Numeral.isBlank)
  if base = 10 && Numeral.digitLimit < count then .error (.numeralTooLong count)
  else
    match Numeral.digitsFrom base 0 false (withoutMark base unsigned) with
    | some value => .ok (withSign negative value)
    | none => .error (.badInteger base text)

/-- The pieces of a text between colons. -/
def colonParts (text : Text) : List Text := text.splitOn ':'

/-- Reads an integer. Leading zeros mean octal digits, and colons the base of sixty. -/
def ofInteger (text : Text) : Except LoadError Scalar := do
  let (negative, body) := splitSign (text.filter (· ≠ '_'))
  let value ←
    match body with
    | [] => throw .emptyNumeral
    | ['0'] => pure 0
    | '0' :: 'b' :: rest => digits 2 rest
    | '0' :: 'x' :: rest => digits 16 rest
    | '0' :: _ => digits 8 body
    | _ =>
      if body.contains ':' then do
        let parts ← (colonParts body).mapM (digits 10)
        pure (parts.foldl (fun total part => total * 60 + part) 0)
      else digits 10 body
  pure (.int (withSign negative value))

/-- Reads a real number without a sign. -/
def realPart (text : Text) : Except LoadError Binary64 :=
  match Numeral.real? text with
  | some value => .ok value
  | none => .error (.badReal text)

/-- The value of parts to the base of sixty, the last part first. The weight of a part is exact
until it is multiplied, and then it has to be a real number. -/
def sexagesimal (total : Binary64) (weight : Nat) : List Binary64 → Except LoadError Binary64
  | [] => .ok total
  | part :: rest =>
    match Binary64.ofInt weight with
    | .infinite _ => .error .weightTooLarge
    | factor => sexagesimal (total.add (part.mul factor)) (weight * 60) rest

/-- Reads a real number. -/
def ofReal (text : Text) : Except LoadError Scalar := do
  let cleaned := Text.lower (text.filter (· ≠ '_'))
  if cleaned.isEmpty then throw .emptyNumeral
  let (negative, body) := splitSign cleaned
  let signed (value : Binary64) : Binary64 := if negative then value.neg else value
  if body = ".inf".toList then pure (.real (signed (.infinite false)))
  else if body = ".nan".toList then pure (.real .notANumber)
  else if body.contains ':' then do
    let parts ← (colonParts body).mapM realPart
    let total ← sexagesimal .zero 1 parts.reverse
    pure (.real (signed total))
  else do
    let value ← realPart body
    pure (.real (signed value))

/-- Reads a truth value. -/
def ofTruth (text : Text) : Except LoadError Scalar :=
  let word := Text.lower text
  match Spelling.truthWords.lookup (String.ofList word) with
  | some value => .ok (.bool value)
  | none => .error (.badTruth word)

/-- Checks that a day exists. -/
def checkDate (year month day : Nat) : Except LoadError Unit :=
  if year = 0 then .error (.badDate .year)
  else if month = 0 || 12 < month then .error (.badDate .month)
  else if day = 0 || daysInMonth year month < day then .error (.badDate .day)
  else .ok ()

/-- The minutes of a day. -/
def minutesPerDay : Int := 1440

/-- Reads a date with or without a time of day. -/
def ofTimestamp (text : Text) : Except LoadError Scalar := do
  match Spelling.match? Spelling.timestampProgram? text with
  | none => throw .badTimestamp
  | some found =>
    let part (group : Nat) : Text := Regex.Program.groupText text found group
    let number (group : Nat) : Nat := Numeral.digitsValue (part group)
    let (year, month, day) := (number 1, number 2, number 3)
    if (part 4).isEmpty then
      checkDate year month day
      pure (.date year month day)
    else
      let distance : Int := number 10 * 60 + number 11
      let distance := if part 9 = ['-'] then -distance else distance
      if !(part 9).isEmpty && !(-minutesPerDay < distance && distance < minutesPerDay) then
        throw (.badDate (.offset distance))
      checkDate year month day
      let (hour, minute, second) := (number 4, number 5, number 6)
      if 23 < hour then throw (.badDate .hour)
      if 59 < minute then throw (.badDate .minute)
      if 59 < second then throw (.badDate .second)
      let fraction := (part 7).take 6
      let micro := Numeral.digitsValue (fraction ++ List.replicate (6 - fraction.length) '0')
      let offset? := if (part 8).isEmpty then none else some distance
      pure (.moment ⟨year, month, day, hour, minute, second, micro, offset?⟩)

/-- The value of a digit in base 64. -/
def base64Digit? (char : Char) : Option Nat :=
  let code := char.toNat
  if char.isUpper then some (code - 0x41)
  else if char.isLower then some (code - 0x61 + 26)
  else if char.isDigit then some (code - 0x30 + 52)
  else if char = '+' then some 62
  else if char = '/' then some 63
  else none

/-- Reads bytes in base 64. Foreign characters are passed over; `place` is the number of digits of
the current group of four, `bits` what the last digit left over, and `pads` the number of padding
marks behind it. -/
def base64From (place bits pads : Nat) (read : List UInt8) :
    Text → Except LoadError (List UInt8)
  | [] => if place = 0 then .ok read else .error .malformed
  | char :: rest =>
    if char = '=' then
      if 2 ≤ place && 4 ≤ place + (pads + 1) then .ok read
      else base64From place bits (if 2 ≤ place then pads + 1 else pads) read rest
    else
      match base64Digit? char with
      | none => base64From place bits pads read rest
      | some digit =>
        if place = 0 then base64From 1 digit 0 read rest
        else if place = 1 then
          base64From 2 (digit % 16) 0 (read ++ [(bits * 4 + digit / 16).toUInt8]) rest
        else if place = 2 then
          base64From 3 (digit % 4) 0 (read ++ [(bits * 16 + digit / 4).toUInt8]) rest
        else base64From 0 0 0 (read ++ [(bits * 64 + digit).toUInt8]) rest

/-- Reads bytes. -/
def ofBinary (text : Text) : Except LoadError Scalar :=
  if text.any fun char => 0x80 ≤ char.toNat then .error .malformed
  else (base64From 0 0 0 [] text).map bytes

/-- The value of a scalar under a tag. -/
def ofTagged (tag : Tag) (text : Text) : Except LoadError Scalar :=
  match tag with
  | .str => .ok (.text text)
  | .null => .ok .null
  | .bool => ofTruth text
  | .int => ofInteger text
  | .float => ofReal text
  | .timestamp => ofTimestamp text
  | .binary => ofBinary text
  | _ => .error .malformed

end Scalar

end Winnow.Yaml
