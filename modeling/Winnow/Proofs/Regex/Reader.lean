import Winnow.Regex.Program

/-!
# What the reader keeps

`Reader.Holds` says what holds before and after a step of the reader and with
which failures it may end; steps one behind the other are put together by
`Reader.Holds.bind`. What is held about every step is that the reader stands in
the glyphs of the text (`ReaderState.Behind`) and that every failure is excused
by something that the text writes (`Excused`). The glyphs right before the
place are remembered only as long as they may become such an excuse; a step
that does not need them keeps the rest (`Reader.Keeps`). The parentheses that
were read pay for the room that the groups around the place take up. Here this
is shown of the simple steps, of escapes and of sets.
-/

namespace Winnow.Regex

/-- From every state with the property `before` a step ends in a state with the property `after`, or
with a failure of an allowed kind. -/
def Reader.Holds {α : Type} (allowed : Failure → Prop) (before : ReaderState → Prop)
    (step : Reader α) (after : α → ReaderState → Prop) : Prop :=
  ∀ state, before state →
    match step state with
    | .ok (value, later) => after value later
    | .error failure => allowed failure

namespace Reader.Holds

variable {α β : Type} {allowed : Failure → Prop} {before : ReaderState → Prop}
  {after : α → ReaderState → Prop} {step : Reader α}

/-- A step and what follows it. -/
theorem bind {first : Reader β} {between : β → ReaderState → Prop} {second : β → Reader α}
    (holds : Holds allowed before first between)
    (further : ∀ value, Holds allowed (between value) (second value) after) :
    Holds allowed before (first >>= second) after := by
  intro state known
  have here := holds state known
  show match StateT.bind first second state with
    | .ok (value, later) => after value later
    | .error failure => allowed failure
  rw [StateT.bind]
  cases done : first state with
  | error failure =>
      rw [done] at here
      exact here
  | ok result =>
      rw [done] at here
      exact further result.1 result.2 here

theorem pure {value : α} (known : ∀ state, before state → after value state) :
    Holds allowed before (Pure.pure value) after := known

theorem get {further : ReaderState → Reader α}
    (holds : ∀ start, before start → Holds allowed before (further start) after) :
    Holds allowed before (MonadState.get >>= further) after :=
  fun state known => holds state known state known

theorem of_and {fact : Prop} (holds : fact → Holds allowed before step after) :
    Holds allowed (fun state => fact ∧ before state) step after :=
  fun state known => holds known.1 state known.2

theorem pure_bind {value : β} {further : β → Reader α}
    (holds : Holds allowed before (further value) after) :
    Holds allowed before (Pure.pure value >>= further) after := holds

theorem narrow {wider : ReaderState → Prop} (holds : Holds allowed wider step after)
    (first : ∀ state, before state → wider state) : Holds allowed before step after :=
  fun state known => holds state (first state known)

theorem throw {failure : Failure} (known : ∀ state, before state → allowed failure) :
    Holds allowed before (MonadExcept.throw failure) after := known

/-- A choice between steps. -/
theorem ite {condition : Prop} [Decidable condition] {first second : Reader α}
    (yes : condition → Holds allowed before first after)
    (no : ¬ condition → Holds allowed before second after) :
    Holds allowed before (if condition then first else second) after := by
  split
  · next holds => exact yes holds
  · next fails => exact no fails

/-- Less is asked behind. -/
theorem widen {closer : α → ReaderState → Prop} (holds : Holds allowed before step closer)
    (last : ∀ value state, closer value state → after value state) :
    Holds allowed before step after := by
  intro state known
  have here := holds state known
  cases done : step state with
  | error failure =>
      rw [done] at here
      exact here
  | ok result =>
      rw [done] at here
      exact last result.1 result.2 here

end Reader.Holds

/-! ## What a pattern writes -/

/-- The counts of a repetition as written: one, or two with a comma between them. -/
def countText (low : Text) : (high? : Option Text) → Text
  | none => low
  | some high => low ++ ',' :: high

/-- Somewhere in a text a repetition is written, and the given digits are one of its counts. -/
def WritesCount (digits text : Text) : Prop :=
  ∃ low high?, '\x7b' :: countText low high? ++ ['\x7d'] <:+: text ∧
    (∀ count ∈ low :: high?.toList, ∀ char ∈ count, char.isDigit = true) ∧
    digits ∈ low :: high?.toList

/-- Somewhere in a text a character is written by the given eight digits. -/
def WritesLongEscape (digits text : Text) : Prop :=
  '\\' :: 'U' :: digits <:+: text ∧ digits.length = 8 ∧ ∀ char ∈ digits, isHexadecimal char = true

/-- Somewhere in a text a flag of the whole pattern is written. -/
def WritesFlag (letter : Char) (text : Text) : Prop :=
  ∃ letters, '(' :: '?' :: letters ++ [')'] <:+: text ∧ letter ∈ letters ∧
    ∀ char ∈ letters, (flagOfLetter? char).isSome = true

/-- The number of opening parentheses of a text that are not escaped. -/
def openings (text : Text) : Nat := (Glyph.ofText text).count (.plain '(')

/-- A text writes something that ends the reading of it with a failure other than a defect: a count
that is too large or has too many digits, a character beyond the word that holds it, flags that
contradict each other, or more groups than may stand one inside the other. -/
inductive Overreaches (room : Nat) (text : Text) : Failure → Prop
  | count {digits : Text} (written : WritesCount digits text)
      (large : countLimit ≤ digitsIn 10 digits) : Overreaches room text .repetitionTooLarge
  | numeral {digits : Text} (written : WritesCount digits text)
      (long : Numeral.digitLimit < digits.length) :
      Overreaches room text (.numeralTooLong digits.length)
  | character {digits : Text} (written : WritesLongEscape digits text)
      (large : wordLimit ≤ digitsIn 16 digits) : Overreaches room text .characterTooLarge
  | flags (ascii : WritesFlag 'a' text) (unicode : WritesFlag 'u' text) :
      Overreaches room text .contradictoryFlags
  | nesting (deep : room + 1 < openings text) : Overreaches room text .nestedTooDeeply

/-- The failures that a text gives rise to: it is malformed, or it writes something that leads to
the failure. -/
inductive Excused (room : Nat) (text : Text) : Failure → Prop
  | malformed (defect : Defect) (position : Option Nat) :
      Excused room text (.malformed defect position)
  | overreaches {failure : Failure} (overreaches : Overreaches room text failure) :
      Excused room text failure

/-- A letter names a flag that chooses the meaning of the character classes and is switched on. -/
inductive Flags.ChoosesBy (flags : Flags) : Char → Prop
  | ascii (on : flags.ascii = true) : flags.ChoosesBy 'a'
  | unicode (on : flags.unicode = true) : flags.ChoosesBy 'u'

/-- The reader stands in the glyphs of a text right behind the given ones, and the flags that choose
classes are written in the text. Every group around the place was opened by a parenthesis behind
which the reader stands, and `fresh` of these parentheses have opened none yet. -/
structure ReaderState.Behind (room : Nat) (text : Text) (fresh : Nat) (marks : List Glyph)
    (state : ReaderState) : Prop where
  glyphs : marks ++ state.glyphs <:+ Glyph.ofText text
  flags : ∀ letter, state.flags.ChoosesBy letter → WritesFlag letter text
  opened : room + 1 + fresh + state.glyphs.count (.plain '(') ≤ state.room + openings text

theorem Glyph.flatMap_text_ofText (text : Text) : (ofText text).flatMap Glyph.text = text := by
  fun_induction ofText text with
  | case1 => rfl
  | case2 => rfl
  | case3 char rest ih => simp [Glyph.text, ih]
  | case4 char rest _ _ ih => simp [Glyph.text, ih]

theorem Glyph.flatMap_text_plain (chars : Text) :
    (chars.map Glyph.plain).flatMap Glyph.text = chars := by
  induction chars with
  | nil => rfl
  | cons char chars ih => simp [Glyph.text, ih]

namespace ReaderState.Behind

variable {room fresh : Nat} {text : Text} {marks earlier : List Glyph} {state : ReaderState}

theorem recent (behind : state.Behind room text fresh (earlier ++ marks)) :
    state.Behind room text fresh marks := by
  refine ⟨?_, behind.flags, behind.opened⟩
  have whole := behind.glyphs
  rw [List.append_assoc] at whole
  exact (List.suffix_append earlier _).trans whole

theorem forget (behind : state.Behind room text fresh marks) : state.Behind room text fresh [] := by
  rw [← List.append_nil marks] at behind
  exact behind.recent

theorem spend {more : Nat} (behind : state.Behind room text (fresh + more) marks) :
    state.Behind room text fresh marks := by
  refine ⟨behind.glyphs, behind.flags, ?_⟩
  have opened := behind.opened
  omega

theorem isInfix (behind : state.Behind room text fresh marks) :
    marks.flatMap Glyph.text <:+: text := by
  obtain ⟨earlier, whole⟩ := behind.glyphs
  refine ⟨earlier.flatMap Glyph.text, state.glyphs.flatMap Glyph.text, ?_⟩
  rw [← Glyph.flatMap_text_ofText text, ← whole]
  simp

theorem isInfix_plain {chars : Text} (behind : state.Behind room text fresh (chars.map .plain)) :
    chars <:+: text :=
  Glyph.flatMap_text_plain chars ▸ behind.isInfix

end ReaderState.Behind

/-- A step leads from any place in a text to a place in it, or fails with an excuse. The parentheses
that have opened no group yet are kept. -/
def Reader.Keeps {α : Type} (room : Nat) (text : Text) (fresh : Nat) (step : Reader α) : Prop :=
  ∀ marks, Holds (Excused room text) (ReaderState.Behind room text fresh marks) step
    fun _ => ReaderState.Behind room text fresh []

namespace Reader

variable {α β : Type} {room fresh : Nat} {text : Text} {marks : List Glyph}

namespace Keeps

/-- A step and what follows it. -/
theorem bind {first : Reader β} {second : β → Reader α} (keeps : Keeps room text fresh first)
    (further : ∀ value, Keeps room text fresh (second value)) :
    Keeps room text fresh (first >>= second) :=
  fun marks => (keeps marks).bind fun value => further value []

theorem holds {step : Reader α} {before : ReaderState → Prop} (keeps : Keeps room text fresh step)
    (known : ∀ state, before state → state.Behind room text fresh []) :
    Holds (Excused room text) before step fun _ => ReaderState.Behind room text fresh [] :=
  (keeps []).narrow known

theorem pure {value : α} : Keeps room text fresh (Pure.pure value) :=
  fun _ => .pure fun _ behind => behind.forget

theorem ite {condition : Prop} [Decidable condition] {first second : Reader α}
    (yes : Keeps room text fresh first) (no : Keeps room text fresh second) :
    Keeps room text fresh (if condition then first else second) := by
  split
  · exact yes
  · exact no

theorem into {first : Reader β} {value : β → α} (keeps : Keeps room text fresh first) :
    Keeps room text fresh (first >>= fun found => Pure.pure (value found)) :=
  keeps.bind fun _ => pure

end Keeps

/-! ## Simple steps -/

theorem holds_failBefore {before : ReaderState → Prop} {after : α → ReaderState → Prop}
    {defect : Defect} {distance : Nat} :
    Holds (Excused room text) before (failBefore defect distance) after :=
  fun _ _ => .malformed _ _

theorem holds_fail {before : ReaderState → Prop} {after : α → ReaderState → Prop}
    {defect : Defect} : Holds (Excused room text) before (fail defect) after :=
  holds_failBefore

theorem holds_failAt {before : ReaderState → Prop} {after : α → ReaderState → Prop}
    {defect : Defect} {position : Nat} :
    Holds (Excused room text) before (failAt defect position) after :=
  fun _ _ => .malformed _ _

namespace Keeps

theorem failBefore {defect : Defect} {distance : Nat} :
    Keeps room text fresh (Reader.failBefore defect distance : Reader α) :=
  fun _ => holds_failBefore

theorem fail {defect : Defect} : Keeps room text fresh (Reader.fail defect : Reader α) :=
  fun _ => holds_fail

theorem failAt {defect : Defect} {position : Nat} :
    Keeps room text fresh (Reader.failAt defect position : Reader α) :=
  fun _ => holds_failAt

end Keeps

theorem holds_peek {before : ReaderState → Prop} :
    Holds (Excused room text) before peek
      fun glyph? state => before state ∧ state.glyphs.head? = glyph? :=
  fun _ known => ⟨known, rfl⟩

theorem keeps_peek : Keeps room text fresh peek := fun _ _ => ReaderState.Behind.forget

/-- What has been seen ahead is read. If it is a parenthesis, it may open a group. -/
theorem holds_next_of_head {glyph? : Option Glyph} :
    Holds (Excused room text)
      (fun state => state.Behind room text fresh marks ∧ state.glyphs.head? = glyph?) next
      fun found state => found = glyph? ∧
        state.Behind room text (fresh + glyph?.toList.count (.plain '('))
          (marks ++ glyph?.toList) := by
  rintro state ⟨behind, rfl⟩
  cases here : state.glyphs with
  | nil =>
      rw [next, here]
      exact ⟨rfl, by simpa using behind⟩
  | cons glyph rest =>
      rw [next, here]
      dsimp only
      by_cases last : rest = [.dangling]
      · rw [if_pos last]
        exact .malformed _ _
      · rw [if_neg last]
        refine ⟨rfl, ?_, behind.flags, ?_⟩
        · simpa [here] using behind.glyphs
        · have opened := behind.opened
          rw [here, List.count_cons] at opened
          rw [List.head?_cons, Option.toList_some, List.count_singleton]
          dsimp only
          omega

/-- What comes next is read. -/
theorem holds_next : Holds (Excused room text) (ReaderState.Behind room text fresh marks) next
    fun found => ReaderState.Behind room text fresh (marks ++ found.toList) := by
  intro state behind
  have ahead : state.Behind room text fresh marks ∧ state.glyphs.head? = state.glyphs.head? :=
    ⟨behind, rfl⟩
  refine holds_next_of_head.widen ?_ state ahead
  rintro found later ⟨rfl, here⟩
  exact here.spend

theorem keeps_next : Keeps room text fresh next :=
  fun _ => holds_next.widen fun _ _ => ReaderState.Behind.forget

/-- A character is read if it comes next. -/
theorem holds_accept (char : Char) :
    Holds (Excused room text) (ReaderState.Behind room text fresh marks) (accept char)
      fun taken =>
        ReaderState.Behind room text fresh (marks ++ if taken then [.plain char] else []) := by
  refine holds_peek.bind fun found => ?_
  split
  · next here =>
      refine holds_next_of_head.bind fun _ => .pure ?_
      rintro state ⟨-, behind⟩
      rw [here] at behind
      exact behind.spend
  · refine .pure ?_
    rintro state ⟨behind, -⟩
    simpa using behind

theorem keeps_accept (char : Char) : Keeps room text fresh (accept char) :=
  fun _ => (holds_accept char).widen fun _ _ => ReaderState.Behind.forget

/-- Characters of a kind are read. -/
theorem holds_takeWhile (test : Char → Bool) (count : Nat) (marks : List Glyph) :
    Holds (Excused room text) (ReaderState.Behind room text fresh marks) (takeWhile test count)
      fun read state => (∀ char ∈ read, test char = true) ∧
        state.Behind room text fresh (marks ++ read.map .plain) := by
  -- Each of the three ways to stop reads nothing more.
  have nothing : ∀ marks, Holds (Excused room text) (ReaderState.Behind room text fresh marks)
      (pure [] : Reader Text) fun read state => (∀ char ∈ read, test char = true) ∧
        state.Behind room text fresh (marks ++ read.map .plain) :=
    fun marks => .pure fun state behind => ⟨by simp, by simpa using behind⟩
  induction count generalizing marks with
  | zero => exact nothing marks
  | succ count ih =>
      rw [takeWhile]
      refine holds_peek.bind fun found => ?_
      split
      · next char =>
          split
          · next passes =>
              refine holds_next_of_head.bind fun _ => ?_
              refine ((ih (marks ++ [.plain char])).narrow fun _ known => known.2.spend).bind
                fun rest => .pure ?_
              · rintro state ⟨others, behind⟩
                refine ⟨?_, by simpa using behind⟩
                simpa [passes] using others
          · exact (nothing marks).narrow fun _ known => known.1
      · exact (nothing marks).narrow fun _ known => known.1

theorem keeps_takeWhile (test : Char → Bool) (count : Nat) :
    Keeps room text fresh (takeWhile test count) :=
  fun _ => (holds_takeWhile test count _).widen fun _ _ known => known.2.forget

theorem holds_position {before : ReaderState → Prop} :
    Holds (Excused room text) before position fun _ => before := fun _ known => known

theorem keeps_position : Keeps room text fresh position := fun _ _ => ReaderState.Behind.forget

theorem holds_remaining {before : ReaderState → Prop} :
    Holds (Excused room text) before remaining fun _ => before := fun _ known => known

theorem keeps_remaining : Keeps room text fresh remaining := fun _ _ => ReaderState.Behind.forget

theorem keeps_nameUntil (terminator : Char) (kind : String) (read : Text) (fuel : Nat) :
    Keeps room text fresh (nameUntil terminator kind read fuel) := by
  induction fuel generalizing read with
  | zero => exact .fail
  | succ fuel ih =>
      refine keeps_next.bind fun found => ?_
      cases found with
      | none => exact .ite .fail .failBefore
      | some glyph => exact .ite (.ite .failBefore .pure) (ih _)

theorem keeps_name (terminator : Char) (kind : String) :
    Keeps room text fresh (name terminator kind) :=
  keeps_remaining.bind fun _ => keeps_nameUntil _ _ _ _

end Reader

open Reader

section

variable {room fresh : Nat} {text : Text}

/-! ## Escapes and sets -/

/-- The digits of an escape are read behind its letter. -/
theorem holds_escapeDigits (lead : Char) (count : Nat) :
    Holds (Excused room text) (ReaderState.Behind room text fresh [.escaped lead])
      (escapeDigits lead count)
      fun digits state => (digits.length = count ∧ ∀ char ∈ digits, isHexadecimal char = true) ∧
        state.Behind room text fresh (.escaped lead :: digits.map .plain) := by
  refine (holds_takeWhile isHexadecimal count _).bind fun digits => .of_and fun hexadecimal => ?_
  refine .ite (fun _ => holds_failBefore) fun complete => .pure fun state behind => ?_
  exact ⟨⟨Decidable.not_not.mp complete, hexadecimal⟩, behind⟩

theorem keeps_shortCharacter (lead : Char) (count : Nat) :
    Keeps room text fresh (shortCharacter lead count) :=
  ((keeps_takeWhile isHexadecimal count).bind fun _ => .ite .failBefore .pure).into

/-- The escape for all characters fails outward if its digits write too large a number. -/
theorem holds_longCharacter :
    Holds (Excused room text) (ReaderState.Behind room text fresh [.escaped 'U']) longCharacter
      fun _ => ReaderState.Behind room text fresh [] := by
  refine (holds_escapeDigits 'U' 8).bind fun digits => .of_and fun ⟨length, hexadecimal⟩ => ?_
  refine .ite (fun large => .throw fun state behind => ?_) fun _ => ?_
  · have written : '\\' :: 'U' :: digits <:+: text := by
      simpa [Glyph.text, Glyph.flatMap_text_plain] using behind.isInfix
    exact .overreaches (.character ⟨written, length, hexadecimal⟩ large)
  · exact .ite (fun _ => holds_failBefore) fun _ => .pure fun _ behind => behind.forget

theorem keeps_namedCharacter : Keeps room text fresh namedCharacter := by
  refine (keeps_accept '\x7b').bind fun _ => .ite .fail ?_
  refine (keeps_name '\x7d' "character name").bind fun characterName => ?_
  split
  · exact .pure
  · exact .failBefore

theorem keeps_plainEscape (char : Char) : Keeps room text fresh (plainEscape char) :=
  .ite .failBefore .pure

/-- The rest of an escape inside a set is read behind its first character. -/
theorem holds_setEscape (char : Char) :
    Holds (Excused room text) (ReaderState.Behind room text fresh [.escaped char]) (setEscape char)
      fun _ => ReaderState.Behind room text fresh [] := by
  rw [setEscape]
  split
  · exact Keeps.pure _
  · split
    · exact Keeps.pure _
    · refine .ite (fun _ => (keeps_shortCharacter 'x' 2).into _) fun _ => ?_
      refine .ite (fun _ => (keeps_shortCharacter 'u' 4).into _) fun _ => ?_
      refine .ite (fun isLong => ?_) fun _ => ?_
      · exact isLong ▸ holds_longCharacter.bind fun _ => .pure fun _ behind => behind
      refine .ite (fun _ => keeps_namedCharacter.into _) fun _ => Keeps.ite ?_ ?_ _
      · exact (keeps_takeWhile isOctal 2).bind fun digits => .ite .failBefore .pure
      · exact .ite .failBefore (keeps_plainEscape char).into

theorem keeps_get : Keeps room text fresh get := fun _ _ => ReaderState.Behind.forget

theorem keeps_checkLookbehind (group : Nat) : Keeps room text fresh (checkLookbehind group) := by
  refine keeps_get.bind fun state => ?_
  split
  · exact .pure
  · exact .ite .fail (.ite .fail .pure)

theorem keeps_numberedReference (first : Char) :
    Keeps room text fresh (numberedReference first) := by
  refine (keeps_takeWhile Char.isDigit 1).bind fun second => ?_
  extract_lets octalSoFar reference
  have keeps : ∀ third, Keeps room text fresh (reference third) := by
    intro third
    refine .ite (.ite .failBefore .pure) ?_
    refine keeps_get.bind fun state => .ite (.ite .failBefore ?_) .failBefore
    exact (keeps_checkLookbehind _).bind fun _ => .pure
  exact .ite ((keeps_takeWhile isOctal 1).bind keeps) (.bind .pure keeps)

/-- The rest of an escape outside sets is read behind its first character. -/
theorem holds_exprEscape (char : Char) :
    Holds (Excused room text) (ReaderState.Behind room text fresh [.escaped char])
      (exprEscape char) fun _ => ReaderState.Behind room text fresh [] := by
  rw [exprEscape]
  split
  · exact Keeps.pure _
  · exact Keeps.pure _
  · exact Keeps.pure _
  · refine .ite (fun _ => (keeps_shortCharacter 'x' 2).into _) fun _ => ?_
    refine .ite (fun _ => (keeps_shortCharacter 'u' 4).into _) fun _ => ?_
    refine .ite (fun isLong => ?_) fun _ => ?_
    · exact isLong ▸ holds_longCharacter.bind fun _ => .pure fun _ behind => behind
    refine .ite (fun _ => keeps_namedCharacter.into _) fun _ => Keeps.ite ?_ ?_ _
    · exact (keeps_takeWhile isOctal 2).into
    · exact .ite (keeps_numberedReference char) (keeps_plainEscape char).into

/-- A member of a set is read behind its first glyph. -/
theorem holds_setMember (glyph : Glyph) :
    Holds (Excused room text) (ReaderState.Behind room text fresh [glyph]) (setMember glyph)
      fun _ => ReaderState.Behind room text fresh [] := by
  cases glyph with
  | plain char => exact Keeps.pure _
  | escaped char => exact holds_setEscape char
  | dangling => exact holds_fail

theorem keeps_setMembers (start : Nat) (items : List SetItem) (fuel : Nat) :
    Keeps room text fresh (setMembers start items fuel) := by
  induction fuel generalizing items with
  | zero => exact .fail
  | succ fuel ih =>
      rw [setMembers]
      refine fun marks => holds_next.bind fun found => ?_
      cases found with
      | none => exact holds_failAt
      | some first =>
          refine .ite (fun _ => Keeps.pure _) fun _ => ?_
          refine ((holds_setMember first).narrow fun _ => ReaderState.Behind.recent).bind
            fun low => ?_
          refine (keeps_accept '-' []).bind fun ranged => .ite (fun _ => ?_) fun _ => ih _ _
          refine holds_next.bind fun found => ?_
          cases found with
          | none => exact holds_failAt
          | some second =>
              refine .ite (fun _ => Keeps.pure _) fun _ => ?_
              refine ((holds_setMember second).narrow fun _ => ReaderState.Behind.recent).bind
                fun high => ?_
              dsimp only
              split
              · exact .ite (fun _ => holds_failBefore) fun _ => ih _ _
              · exact holds_failBefore

theorem keeps_characterSet : Keeps room text fresh characterSet := by
  refine keeps_position.bind fun _ => (keeps_accept '^').bind fun negated => ?_
  refine keeps_remaining.bind fun _ => (keeps_setMembers _ _ _).bind fun items => ?_
  split <;> exact .pure

/-! ## Groups -/

/-- What a group encloses is read where a parenthesis has opened no group yet. Without room for the
group more parentheses have been read than groups may stand one inside the other. -/
theorem Reader.Keeps.inGroup {α : Type} {body : Reader α} (keeps : Keeps room text fresh body) :
    Keeps room text (fresh + 1) (Reader.inGroup body) := by
  intro marks state behind
  rw [Reader.inGroup]
  have opened := behind.opened
  cases space : state.room with
  | zero =>
      have deep : room + 1 < openings text := by omega
      exact .overreaches (.nesting deep)
  | succ left =>
      have inside : ReaderState.Behind room text fresh marks { state with room := left } := by
        refine ⟨behind.glyphs, behind.flags, ?_⟩
        dsimp only
        omega
      have holds := keeps marks _ inside
      dsimp only
      cases done : body { state with room := left } with
      | error failure =>
          rw [done] at holds
          exact holds
      | ok result =>
          rw [done] at holds
          refine ⟨holds.glyphs, holds.flags, ?_⟩
          have opened := holds.opened
          dsimp only
          omega

end

end Winnow.Regex
