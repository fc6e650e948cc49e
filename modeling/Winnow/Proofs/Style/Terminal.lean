import Winnow.Style.Basic

/-!
# A terminal

A terminal shows the characters that it reads in cells, each drawn with the pen of
the moment. Control sequences show nothing: one that ends in the letter m carries
out the numbers in it as graphics codes (`Pen.select`), and any other one is passed
over. Reading a style's sequence takes up the pen of that style
(`shows_terminalSequence`), and reading the reset puts it down again
(`shows_terminalReset`).
-/

namespace Winnow

/-- How a terminal draws: its attributes, and the channels of the color if one is set. -/
structure Pen where
  bold : Bool
  underline : Bool
  italic : Bool
  color : Option (List Int)
  deriving DecidableEq, Repr

namespace Pen

/-- The pen without attributes and color. -/
def plain : Pen := ⟨false, false, false, none⟩

/-- The pen with a color. Channels that are no bytes are not taken. -/
def withColor (pen : Pen) (red green blue : Nat) : Pen :=
  if red ≤ 255 ∧ green ≤ 255 ∧ blue ≤ 255 then { pen with color := some [red, green, blue] }
  else pen

/-- Carries out graphics codes one after the other. Codes that are not known change nothing. -/
def select (pen : Pen) : List Nat → Pen
  | [] => pen
  | 0 :: codes => plain.select codes
  | 1 :: codes => { pen with bold := true }.select codes
  | 3 :: codes => { pen with italic := true }.select codes
  | 4 :: codes => { pen with underline := true }.select codes
  | 38 :: 2 :: red :: green :: blue :: codes => (pen.withColor red green blue).select codes
  | _ :: codes => pen.select codes

/-- The pen that draws a style: its attributes, and its color rounded to bytes if the color is
among them. -/
def ofStyle (style : Style) : Pen :=
  ⟨style.bold, style.underline, style.italic,
    if style.colored then some style.color.byteChannels else none⟩

/-- The pen that draws a style that may be missing. -/
def ofEntry (style : Option Style) : Pen := style.elim plain ofStyle

end Pen

/-- A character on the screen. -/
structure Cell where
  char : Char
  pen : Pen
  deriving DecidableEq, Repr

/-- Where a terminal stands in its input: in the text, behind an escape character, in the numbers
of a control sequence, or in a sequence that it passes over. Of the numbers the last one is kept
apart, and the others stand in reverse order. -/
inductive TerminalMode
  | text
  | escape
  | numbers (others : List Nat) (last : Nat)
  | passing
  deriving DecidableEq, Repr

/-- A terminal between two characters of its input. -/
structure Terminal where
  mode : TerminalMode
  pen : Pen
  deriving DecidableEq, Repr

namespace Terminal

/-- A terminal that has read nothing. -/
def initial : Terminal := ⟨.text, .plain⟩

/-- Whether a character ends a control sequence. -/
def endsSequence (char : Char) : Bool := decide (0x40 ≤ char.toNat ∧ char.toNat ≤ 0x7E)

/-- Reads a character: the terminal behind it, and what it shows. -/
def read (terminal : Terminal) (char : Char) : Terminal × List Cell :=
  let pen := terminal.pen
  match terminal.mode with
  | .text =>
    if char = Style.escapeChar then (⟨.escape, pen⟩, []) else (terminal, [⟨char, pen⟩])
  | .escape => if char = '[' then (⟨.numbers [] 0, pen⟩, []) else (⟨.text, pen⟩, [])
  | .numbers others last =>
    if char.isDigit then (⟨.numbers others (10 * last + (char.toNat - '0'.toNat)), pen⟩, [])
    else if char = ';' then (⟨.numbers (last :: others) 0, pen⟩, [])
    else if char = 'm' then (⟨.text, pen.select (last :: others).reverse⟩, [])
    else if endsSequence char then (⟨.text, pen⟩, [])
    else (⟨.passing, pen⟩, [])
  | .passing => if endsSequence char then (⟨.text, pen⟩, []) else (terminal, [])

/-- Reads a text: the terminal behind it, and the cells that it shows. -/
def display (terminal : Terminal) : Text → Terminal × List Cell
  | [] => (terminal, [])
  | char :: rest =>
    let (next, cells) := terminal.read char
    let (last, later) := next.display rest
    (last, cells ++ later)

/-- Reading a text shows cells and leads from one terminal to another. -/
def Shows (first : Terminal) (text : Text) (cells : List Cell) (last : Terminal) : Prop :=
  first.display text = (last, cells)

variable {pen : Pen}

theorem display_cons (terminal : Terminal) (char : Char) (rest : Text) :
    terminal.display (char :: rest)
      = (((terminal.read char).1.display rest).1,
          (terminal.read char).2 ++ ((terminal.read char).1.display rest).2) := rfl

theorem shows_nil (terminal : Terminal) : terminal.Shows [] [] terminal := rfl

theorem Shows.cons {first next last : Terminal} {char : Char} {rest : Text}
    {cells later : List Cell} (here : first.read char = (next, cells))
    (behind : next.Shows rest later last) : first.Shows (char :: rest) (cells ++ later) last := by
  rw [Shows] at behind ⊢
  rw [display_cons, here, behind]

/-- Texts are read one behind the other. -/
theorem Shows.append {first next last : Terminal} {before after : Text}
    {cells later : List Cell} (here : first.Shows before cells next)
    (behind : next.Shows after later last) :
    first.Shows (before ++ after) (cells ++ later) last := by
  induction before generalizing first cells with
  | nil =>
      obtain ⟨rfl, rfl⟩ := Prod.mk.inj here
      exact behind
  | cons char rest ih =>
      rw [Shows, display_cons] at here
      obtain ⟨rfl, rfl⟩ := Prod.mk.inj here
      rw [List.append_assoc]
      exact .cons rfl (ih rfl)

/-- A text without escape characters is shown as it is. -/
theorem shows_text {text : Text} (free : Style.escapeChar ∉ text) :
    Shows ⟨.text, pen⟩ text (text.map fun char => ⟨char, pen⟩) ⟨.text, pen⟩ := by
  induction text with
  | nil => exact shows_nil _
  | cons char rest ih =>
      obtain ⟨here, behind⟩ := not_or.mp (mt List.mem_cons.mpr free)
      have shown : read ⟨.text, pen⟩ char = (⟨.text, pen⟩, [⟨char, pen⟩]) :=
        if_neg (Ne.symm here)
      exact .cons shown (ih behind)

/-! ## Control sequences -/

/-- Digits continue the number that is being read. -/
theorem shows_digits {others : List Nat} {last : Nat} {digits : Text}
    (all : ∀ char ∈ digits, char.isDigit = true) :
    Shows ⟨.numbers others last, pen⟩ digits []
      ⟨.numbers others (Nat.ofDigitChars 10 digits last), pen⟩ := by
  induction digits generalizing last with
  | nil => exact shows_nil _
  | cons char rest ih =>
      obtain ⟨here, behind⟩ := List.forall_mem_cons.mp all
      have continued : read ⟨.numbers others last, pen⟩ char
          = (⟨.numbers others (10 * last + (char.toNat - '0'.toNat)), pen⟩, []) := if_pos here
      exact .cons continued (ih behind)

/-- A written number is read. -/
theorem shows_natText (others : List Nat) (number : Nat) :
    Shows ⟨.numbers others 0, pen⟩ (natText number) [] ⟨.numbers others number, pen⟩ := by
  have all : ∀ char ∈ natText number, char.isDigit = true :=
    fun _ member => Nat.isDigit_of_mem_toDigits (by decide) (Nat.le_refl 10) member
  have value : Nat.ofDigitChars 10 (natText number) 0 = number :=
    Nat.ofDigitChars_toDigits (by decide) (Nat.le_refl 10)
  have read : Shows ⟨.numbers others 0, pen⟩ (natText number) []
      ⟨.numbers others (Nat.ofDigitChars 10 (natText number) 0), pen⟩ := shows_digits all
  rwa [value] at read

/-- The numbers up to the end of a sequence are carried out behind those that were read before. -/
theorem shows_numbers (others : List Nat) (code : Nat) (codes : List Nat) :
    Shows ⟨.numbers others 0, pen⟩ (Text.join [';'] ((code :: codes).map natText) ++ ['m']) []
      ⟨.text, pen.select (others.reverse ++ code :: codes)⟩ := by
  induction codes generalizing others code with
  | nil =>
      have ended : Shows ⟨.numbers others code, pen⟩ ['m'] []
          ⟨.text, pen.select (code :: others).reverse⟩ := rfl
      rw [List.reverse_cons] at ended
      rw [Text.join, List.map_singleton, List.intercalate_singleton]
      exact (shows_natText others code).append ended
  | cons next codes ih =>
      have parted : Shows ⟨.numbers others code, pen⟩ [';'] []
          ⟨.numbers (code :: others) 0, pen⟩ := rfl
      have joined : Text.join [';'] ((code :: next :: codes).map natText) ++ ['m']
          = natText code
            ++ ([';'] ++ (Text.join [';'] ((next :: codes).map natText) ++ ['m'])) := by
        simp [Text.join, List.intercalate_cons_cons]
      have further := ih (code :: others) next
      rw [List.reverse_cons, List.append_assoc, List.singleton_append] at further
      rw [joined]
      exact (shows_natText others code).append (parted.append further)

theorem shows_sequence (code : Nat) (codes : List Nat) :
    Shows ⟨.text, pen⟩
      (Style.escapeChar :: '[' :: Text.join [';'] ((code :: codes).map natText) ++ ['m']) []
      ⟨.text, pen.select (code :: codes)⟩ := by
  have opened : Shows ⟨.text, pen⟩ [Style.escapeChar, '['] [] ⟨.numbers [] 0, pen⟩ := rfl
  exact opened.append (shows_numbers [] code codes)

/-- The reset leads back to the plain pen. -/
theorem shows_terminalReset : Shows ⟨.text, pen⟩ Style.terminalReset [] initial := rfl

end Terminal

/-! ## Styles -/

/-- A color whose channels, scaled to bytes and rounded, are bytes. -/
def Color.HasByteChannels (color : Color) : Prop :=
  ∀ channel ∈ color.byteChannels, 0 ≤ channel ∧ channel ≤ 255

instance (color : Color) : Decidable color.HasByteChannels :=
  inferInstanceAs (Decidable (∀ channel ∈ color.byteChannels, 0 ≤ channel ∧ channel ≤ 255))

/-- The rounded channels as bytes. -/
theorem Color.HasByteChannels.exists_bytes {color : Color} (bytes : color.HasByteChannels) :
    ∃ red green blue : Nat, color.byteChannels = [(red : Int), (green : Int), (blue : Int)] ∧
      red ≤ 255 ∧ green ≤ 255 ∧ blue ≤ 255 := by
  obtain ⟨redLow, redHigh⟩ := bytes _ (.head _)
  obtain ⟨greenLow, greenHigh⟩ := bytes _ (.tail _ (.head _))
  obtain ⟨blueLow, blueHigh⟩ := bytes _ (.tail _ (.tail _ (.head _)))
  refine ⟨_, _, _, ?_, Int.toNat_le.mpr redHigh, Int.toNat_le.mpr greenHigh,
    Int.toNat_le.mpr blueHigh⟩
  rw [Int.toNat_of_nonneg redLow, Int.toNat_of_nonneg greenLow, Int.toNat_of_nonneg blueLow]
  rfl

namespace Style

/-- A style that a terminal can draw: its color, if it counts, has bytes for channels. -/
def Drawable (style : Style) : Prop := style.colored = true → style.color.HasByteChannels

instance (style : Style) : Decidable style.Drawable :=
  inferInstanceAs (Decidable (style.colored = true → _))

variable {style : Style}

/-- The codes of a style that can be drawn are natural numbers, and they take up its pen. -/
theorem Drawable.exists_codes (drawable : style.Drawable) :
    ∃ codes : List Nat, style.terminalCodes = codes.map Int.ofNat ∧
      Pen.plain.select codes = Pen.ofStyle style := by
  obtain ⟨bold, underline, italic, colored, color⟩ := style
  let attributes : List Nat :=
    (if bold then [1] else []) ++ (if italic then [3] else []) ++ (if underline then [4] else [])
  cases colored with
  | false =>
      refine ⟨attributes, ?_, ?_⟩
      · cases bold <;> cases italic <;> cases underline <;> rfl
      · cases bold <;> cases italic <;> cases underline <;> rfl
  | true =>
      obtain ⟨red, green, blue, channels, redFits, greenFits, blueFits⟩ :=
        (drawable rfl).exists_bytes
      have taken : ∀ pen : Pen,
          pen.withColor red green blue
            = { pen with color := some [(red : Int), (green : Int), (blue : Int)] } :=
        fun pen => if_pos ⟨redFits, greenFits, blueFits⟩
      refine ⟨attributes ++ [38, 2, red, green, blue], ?_, ?_⟩
      · rw [terminalCodes, if_pos rfl, channels]
        cases bold <;> cases italic <;> cases underline <;> rfl
      · rw [Pen.ofStyle, if_pos rfl, channels]
        cases bold <;> cases italic <;> cases underline <;> exact taken _

theorem intText_ofNat (number : Nat) : intText (Int.ofNat number) = natText number := rfl

/-- The sequence of a style that can be drawn takes up its pen. -/
theorem Drawable.shows_terminalSequence (drawable : style.Drawable) :
    Terminal.initial.Shows style.terminalSequence [] ⟨.text, Pen.ofStyle style⟩ := by
  obtain ⟨codes, written, taken⟩ := drawable.exists_codes
  rw [terminalSequence, written, ← taken]
  cases codes with
  | nil => exact Terminal.shows_nil _
  | cons code codes =>
      have texts : ((code :: codes).map Int.ofNat).map intText = (code :: codes).map natText := by
        rw [List.map_map]
        exact List.map_congr_left fun number _ => intText_ofNat number
      rw [texts]
      exact Terminal.shows_sequence code codes

end Style

end Winnow
