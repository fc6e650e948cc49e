import Winnow.Proofs.Regex.Reader

/-!
# Why patterns are refused

A pattern that cannot be compiled is malformed, or it writes what no reader
recovers from (`excused_of_ofSource`): a number that is too large or too long,
the two flags that contradict each other, or too many groups. Counts and flags
are read behind a mark that is still remembered (`holds_braceCounts`,
`holds_inlineFlags`), so what is read together with the mark is found in the
text. The readers of alternatives, sequences and groups call each other; that
they keep their place is shown by one induction on the fuel (`keepsWith`), with
one step for each of them.
-/

namespace Winnow.Regex

open Reader

section

variable {room fresh : Nat} {text : Text}

/-! ## Repetitions -/

theorem keeps_greedMark : Keeps room text fresh greedMark :=
  (keeps_accept '?').bind fun _ => .ite .pure ((keeps_accept '+').bind fun _ => .ite .pure .pure)

theorem keeps_repeatLast (start least : Nat) (most : Option Nat) (pieces : List Piece) :
    Keeps room text fresh (repeatLast start least most pieces) := by
  rw [repeatLast.eq_def]
  split
  · exact .failAt
  · exact .failAt
  · exact .failAt
  · exact keeps_greedMark.into
  · exact keeps_greedMark.into

/-- What is behind an opening brace with counts and a closing brace writes each of the counts. -/
theorem writesCount_of_behind {low : Text} {high? : Option Text} {count : Text}
    {state : ReaderState}
    (digits : ∀ count ∈ low :: high?.toList, ∀ char ∈ count, char.isDigit = true)
    (member : count ∈ low :: high?.toList)
    (behind : state.Behind room text fresh
      (('\x7b' :: countText low high?).map .plain ++ [.plain '\x7d'])) :
    WritesCount count text := by
  have written : '\x7b' :: countText low high? ++ ['\x7d'] <:+: text :=
    ReaderState.Behind.isInfix_plain (by simpa using behind)
  exact ⟨low, high?, written, digits, member⟩

/-- A count that is written is read, unless it is too large or too long. -/
theorem holds_countOf {digits : Text} {before : ReaderState → Prop}
    (written : ∀ state, before state → WritesCount digits text) :
    Holds (Excused room text) before (countOf digits) fun _ => before := by
  refine .ite (fun long => .throw fun state known => ?_) fun _ => ?_
  · exact .overreaches (.numeral (written state known) long)
  refine .ite (fun large => .throw fun state known => ?_) fun _ => .pure fun _ known => known
  exact .overreaches (.count (written state known) large)

/-- The counts of a repetition are read behind the brace that opens them. -/
theorem holds_braceCounts :
    Holds (Excused room text) (ReaderState.Behind room text fresh [.plain '\x7b']) braceCounts
      fun _ => ReaderState.Behind room text fresh [] := by
  rw [braceCounts]
  refine .get fun start behind => ?_
  refine holds_peek.bind fun found => ?_
  refine Holds.narrow ?_ fun _ known => known.1
  split
  · exact .pure fun _ behind => behind.forget
  · extract_lets here
    refine holds_remaining.bind fun count => ?_
    refine (holds_takeWhile Char.isDigit count _).bind fun low => .of_and fun lowDigits => ?_
    refine (holds_accept ',').bind fun separated => ?_
    extract_lets counts
    -- Whatever is written behind the comma, if there is one, the rest of the reader is the same.
    have holds : ∀ high? : Option Text,
        (∀ digits ∈ low :: high?.toList, ∀ char ∈ digits, char.isDigit = true) →
        Holds (Excused room text)
          (ReaderState.Behind room text fresh (('\x7b' :: countText low high?).map .plain))
          (counts (high?.getD low)) fun _ => ReaderState.Behind room text fresh [] := by
      intro high? digits
      refine (holds_accept '\x7d').bind fun closed => ?_
      -- Without a closing brace the reader goes back to where it began.
      refine .ite (fun _ _ _ => behind.forget) fun taken => ?_
      obtain rfl : closed = true := by simpa using taken
      refine (holds_countOf fun state => writesCount_of_behind digits (by simp)).bind
        fun least => ?_
      refine .ite (fun _ => .pure fun _ behind => behind.forget) fun _ => ?_
      refine (holds_countOf fun state => writesCount_of_behind digits ?_).bind fun most => ?_
      · cases high? <;> simp
      · exact .ite (fun _ => holds_failAt) fun _ => .pure fun _ behind => behind.forget
    cases separated with
    | false =>
        refine .pure_bind ((holds none ?_).narrow ?_)
        · simpa using lowDigits
        · simp [countText]
    | true =>
        refine holds_remaining.bind fun count => ?_
        refine (holds_takeWhile Char.isDigit count _).bind fun high => .of_and fun highDigits => ?_
        refine (holds (some high) ?_).narrow ?_
        · simpa using ⟨lowDigits, highDigits⟩
        · simp [countText]

/-- A quantifier is read behind its first character. -/
theorem holds_quantifier {mark : Char} (pieces : List Piece)
    (isMark : (mark = '*' || mark = '+' || mark = '?' || mark = '\x7b') = true) :
    Holds (Excused room text) (ReaderState.Behind room text fresh [.plain mark])
      (quantifier mark pieces) fun _ => ReaderState.Behind room text fresh [] := by
  rw [quantifier]
  refine holds_position.bind fun position => ?_
  refine .ite (fun _ => keeps_repeatLast _ _ _ _ _) fun notQuestion => ?_
  refine .ite (fun _ => keeps_repeatLast _ _ _ _ _) fun notStar => ?_
  refine .ite (fun _ => keeps_repeatLast _ _ _ _ _) fun notPlus => ?_
  obtain rfl : mark = '\x7b' := by simpa [notQuestion, notStar, notPlus] using isMark
  refine holds_braceCounts.bind fun counts => ?_
  cases counts with
  | none => exact .pure fun _ behind => behind
  | some counts => exact keeps_repeatLast _ _ _ _ _

/-! ## Flags -/

namespace Flags

variable {flags flag other : Flags} {letters : Text} {letter : Char}

theorem ChoosesBy.of_union (chooses : (flags.union other).ChoosesBy letter) :
    flags.ChoosesBy letter ∨ other.ChoosesBy letter := by
  cases chooses with
  | ascii on => exact (Bool.or_eq_true _ _ ▸ on).imp .ascii .ascii
  | unicode on => exact (Bool.or_eq_true _ _ ▸ on).imp .unicode .unicode

theorem ChoosesBy.eq_letter {named : Char} (names : flagOfLetter? named = some flag)
    (chooses : flag.ChoosesBy letter) : letter = named := by
  rw [flagOfLetter?.eq_def] at names
  cases chooses <;> split at names <;> cases names <;> simp_all

/-- Flags are written by letters: every letter names a flag, and those that choose classes are
among the letters. -/
structure WrittenBy (flags : Flags) (letters : Text) : Prop where
  known : ∀ char ∈ letters, (flagOfLetter? char).isSome = true
  chosen : ∀ letter, flags.ChoosesBy letter → letter ∈ letters

theorem WrittenBy.none : Flags.none.WrittenBy [] :=
  ⟨by simp, nofun⟩

/-- One more letter writes one more flag. -/
theorem WrittenBy.add (written : flags.WrittenBy letters)
    (names : flagOfLetter? letter = some flag) :
    (flags.union flag).WrittenBy (letters ++ [letter]) := by
  constructor
  · intro char member
    rcases List.mem_append.mp member with earlier | last
    · exact written.known char earlier
    · rw [List.mem_singleton.mp last, names]
      rfl
  · intro other chooses
    rcases chooses.of_union with earlier | last
    · exact List.mem_append_left _ (written.chosen other earlier)
    · simp [last.eq_letter names]

end Flags

theorem holds_badFlag {α : Type} {before : ReaderState → Prop} {after : α → ReaderState → Prop}
    {glyph : Glyph} {expected : String} :
    Holds (Excused room text) before (badFlag glyph expected) after :=
  holds_failBefore

/-- The flags that are switched on are read behind their first letter. -/
theorem holds_flagsOn {flags : Flags} {letters : Text} (written : flags.WrittenBy letters)
    (letter : Char) (fuel : Nat) :
    Holds (Excused room text)
      (ReaderState.Behind room text fresh (('(' :: '?' :: (letters ++ [letter])).map .plain))
      (flagsOn flags letter fuel)
      fun result state => ∃ letters, result.1.WrittenBy letters ∧
        state.Behind room text fresh (('(' :: '?' :: (letters ++ [result.2])).map .plain) := by
  induction fuel generalizing flags letters letter with
  | zero => exact holds_fail
  | succ fuel ih =>
      rw [flagsOn]
      split
      · exact holds_fail
      · next flag names =>
          have further := written.add names
          refine .ite (fun _ => holds_fail) fun _ => ?_
          refine holds_next.bind fun found => ?_
          split
          · exact holds_fail
          · split
            · next char =>
                refine .ite (fun _ => .pure ?_) fun _ => .ite (fun _ => ?_) fun _ => holds_badFlag
                · intro state behind
                  exact ⟨_, further, by simpa using behind⟩
                · refine (ih further char).narrow ?_
                  simp
            · exact holds_badFlag

theorem keeps_flagsOff (flags : Flags) (letter : Char) (fuel : Nat) :
    Keeps room text fresh (flagsOff flags letter fuel) := by
  induction fuel generalizing flags letter with
  | zero => exact .fail
  | succ fuel ih =>
      rw [flagsOff]
      split
      · exact .fail
      · refine .ite .fail (keeps_next.bind fun found => ?_)
        split
        · exact .fail
        · split
          · exact .ite .pure (.ite (ih _ _) fun _ => holds_badFlag)
          · exact fun _ => holds_badFlag

/-- Inline flags are read behind their first character. -/
theorem holds_inlineFlags (first : Char) :
    Holds (Excused room text) (ReaderState.Behind room text fresh (['(', '?', first].map .plain))
      (inlineFlags first) fun _ => ReaderState.Behind room text fresh [] := by
  rw [inlineFlags]
  refine holds_remaining.bind fun count => ?_
  extract_lets fuel rest
  -- The mark behind the letters decides whether they are flags of the whole pattern.
  have holds : ∀ read : Flags × Char,
      Holds (Excused room text)
        (fun state => ∃ letters, read.1.WrittenBy letters ∧
          state.Behind room text fresh (('(' :: '?' :: (letters ++ [read.2])).map .plain))
        (rest read) fun _ => ReaderState.Behind room text fresh [] := by
    rintro ⟨on, mark⟩
    refine .ite (fun isClose => ?_) fun _ => .ite (fun _ => holds_failBefore) fun _ => ?_
    · rintro state ⟨letters, written, behind⟩
      refine ⟨behind.forget.glyphs, fun letter chooses => ?_, behind.opened⟩
      rcases chooses.of_union with earlier | here
      · exact behind.flags letter earlier
      · refine ⟨letters, ?_, written.chosen letter here, written.known⟩
        simpa [isClose] using behind.isInfix_plain
    · refine Keeps.holds ?_ fun state ⟨letters, _, behind⟩ => behind.forget
      extract_lets finish
      have keeps : ∀ off, Keeps room text fresh (finish off) :=
        fun off => .ite .failBefore (.ite .failBefore .pure)
      refine .ite (keeps_next.bind fun found => ?_) (.bind .pure keeps)
      split
      · exact .bind .fail keeps
      · split
        · exact .ite ((keeps_flagsOff _ _ _).bind keeps) (.bind (fun _ => holds_badFlag) keeps)
        · exact .bind (fun _ => holds_badFlag) keeps
  refine .ite (fun isMinus => .pure_bind ((holds (Flags.none, '-')).narrow ?_)) fun _ => ?_
  · intro state behind
    exact ⟨[], .none, by simpa [isMinus] using behind⟩
  · exact (holds_flagsOn .none first fuel).bind holds

/-! ## Groups -/

/-- A step that changes neither what is left nor the flags of the whole pattern nor the room. -/
theorem keeps_modify {change : ReaderState → ReaderState}
    (glyphs : ∀ state, (change state).glyphs = state.glyphs)
    (flags : ∀ state, (change state).flags = state.flags)
    (space : ∀ state, (change state).room = state.room) :
    Keeps room text fresh (modify change) := by
  intro marks state behind
  constructor
  · exact glyphs state ▸ behind.forget.glyphs
  · exact flags state ▸ behind.flags
  · exact glyphs state ▸ space state ▸ behind.opened

theorem keeps_groupNamed (groupName : Text) : Keeps room text fresh (groupNamed? groupName) :=
  keeps_get.into

theorem keeps_openGroup (groupName : Option Text) :
    Keeps room text fresh (openGroup groupName) := by
  rw [openGroup]
  refine fun marks => .get fun state behind => ?_
  extract_lets group
  have opened : ∀ names widths,
      ReaderState.Behind room text fresh [] { state with names := names, widths := widths } :=
    fun _ _ => ⟨behind.forget.glyphs, behind.flags, behind.opened⟩
  split
  · exact fun _ _ => opened _ _
  · split
    · exact holds_failBefore
    · exact fun _ _ => opened _ _

theorem keeps_closeGroup (group : Nat) (body : Expr) :
    Keeps room text fresh (closeGroup group body) :=
  keeps_modify (fun _ => rfl) (fun _ => rfl) fun _ => rfl

theorem keeps_skipLine (fuel : Nat) : Keeps room text fresh (skipLine fuel) := by
  induction fuel with
  | zero => exact .pure
  | succ fuel ih =>
      refine keeps_next.bind fun found => ?_
      cases found with
      | none => exact .pure
      | some glyph => exact .ite .pure ih

theorem keeps_skipComment (start fuel : Nat) : Keeps room text fresh (skipComment start fuel) := by
  induction fuel with
  | zero => exact .fail
  | succ fuel ih =>
      refine keeps_next.bind fun found => ?_
      cases found with
      | none => exact .failAt
      | some glyph => exact .ite .pure ih

theorem keeps_namedReference : Keeps room text fresh namedReference := by
  refine (keeps_name ')' "group name").bind fun groupName => .ite .failBefore ?_
  refine (keeps_groupNamed groupName).bind fun found => ?_
  cases found with
  | none => exact .failBefore
  | some group =>
      refine keeps_get.bind fun state => .ite .failBefore ?_
      exact (keeps_checkLookbehind group).bind fun _ => .pure

theorem keeps_conditionGroup : Keeps room text fresh conditionGroup := by
  refine (keeps_name ')' "group name").bind fun groupName => ?_
  extract_lets distance rest
  have keeps : ∀ group, Keeps room text fresh (rest group) :=
    fun group => (keeps_checkLookbehind group).bind fun _ => .pure
  refine .ite ((keeps_groupNamed groupName).bind fun found => ?_) ?_
  · cases found with
    | none => exact .bind .failBefore keeps
    | some group => exact .bind .pure keeps
  · split
    · exact .bind .failBefore keeps
    · refine .ite (.bind .failBefore keeps) (.ite (.bind .failBefore keeps) ?_)
      refine .ite (.bind .failBefore keeps) (.bind ?_ fun _ => .bind .pure keeps)
      exact keeps_modify (fun _ => rfl) (fun _ => rfl) fun _ => rfl

/-! ## Alternatives -/

/-- The readers of alternatives, sequences and groups keep their place with the given fuel. A group
is read behind a parenthesis that has opened none yet. -/
structure KeepsWith (room : Nat) (text : Text) (fuel : Nat) : Prop where
  alternatives : ∀ fresh verbose outermost read,
    Keeps room text fresh (alternatives verbose outermost read fuel)
  sequence : ∀ fresh verbose first pieces,
    Keeps room text fresh (sequence verbose first pieces fuel)
  groupBody : ∀ fresh verbose start,
    Keeps room text (fresh + 1) (groupBody verbose start fuel)
  extension : ∀ fresh verbose first start pieces,
    Holds (Excused room text)
      (ReaderState.Behind room text (fresh + 1) (['(', '?'].map .plain))
      (extension verbose first start pieces fuel)
      fun _ => ReaderState.Behind room text (fresh + 1) []

theorem holds_of_paid {α : Type} {before : ReaderState → Prop} {step : Reader α} (more : Nat)
    (holds : Holds (Excused room text) before step
      fun _ => ReaderState.Behind room text (fresh + more) []) :
    Holds (Excused room text) before step fun _ => ReaderState.Behind room text fresh [] :=
  holds.widen fun _ _ => ReaderState.Behind.spend

namespace KeepsWith

variable {fuel : Nat}

theorem step_alternatives (keeps : KeepsWith room text fuel) (fresh : Nat)
    (verbose outermost : Bool) (read : List (List Expr)) :
    Keeps room text fresh (Regex.alternatives verbose outermost read (fuel + 1)) := by
  rw [Regex.alternatives]
  refine (keeps.sequence _ _ _ _).bind fun items => (keeps_accept '|').bind fun more => ?_
  exact .ite (keeps_get.bind fun _ => keeps.alternatives _ _ _ _) .pure

theorem step_groupBody (keeps : KeepsWith room text fuel) (fresh : Nat) (verbose : Bool)
    (start : Nat) : Keeps room text (fresh + 1) (Regex.groupBody verbose start (fuel + 1)) := by
  rw [Regex.groupBody]
  refine (keeps.alternatives fresh _ _ _).inGroup.bind fun body => ?_
  exact (keeps_accept ')').bind fun closed => .ite .pure .failAt

/-- A group that captures. -/
theorem capturing (keeps : KeepsWith room text fuel) (verbose first : Bool) (start : Nat)
    (pieces : List Piece) (groupName : Option Text) :
    Keeps room text (fresh + 1) (do
      let group ← openGroup groupName
      let body ← Regex.groupBody verbose start fuel
      closeGroup group (.ofSeq body)
      Regex.sequence verbose first
        (.single (.group (some group) .none .none (.ofSeq body)) :: pieces) fuel) :=
  (keeps_openGroup groupName).bind fun group => (keeps.groupBody fresh verbose start).bind fun _ =>
    (keeps_closeGroup group _).bind fun _ => keeps.sequence _ _ _ _

/-- More fuel for the items of an alternative. What stands at an opening brace or parenthesis or at
an escape is still remembered where the counts, the flags or the digits behind it are read. -/
theorem step_sequence (keeps : KeepsWith room text fuel) (fresh : Nat) (verbose first : Bool)
    (pieces : List Piece) :
    Keeps room text fresh (Regex.sequence verbose first pieces (fuel + 1)) := by
  rw [Regex.sequence]
  refine fun marks => .narrow (holds_peek.bind fun found => ?_) fun _ => ReaderState.Behind.forget
  split
  · exact .pure fun _ known => known.1
  · exact .pure fun _ known => known.1
  · exact .pure fun _ known => known.1
  · next char =>
      refine holds_next_of_head.bind fun _ => .of_and fun _ => ?_
      refine ((holds_exprEscape char).narrow fun _ => ReaderState.Behind.spend).bind fun _ => ?_
      exact keeps.sequence _ _ _ _ _
  · exact holds_fail
  · next char _ _ =>
      have further : ∀ fresh pieces,
          Keeps room text fresh (Regex.sequence verbose first pieces fuel) :=
        fun fresh => keeps.sequence fresh verbose first
      refine holds_next_of_head.bind fun _ => .of_and fun _ => ?_
      refine holds_of_paid ((some (Glyph.plain char)).toList.count (.plain '(')) ?_
      refine .ite (fun _ => further _ _ _) fun _ => .ite (fun _ => ?_) fun _ => ?_
      · exact (keeps_remaining.bind fun _ => (keeps_skipLine _).bind fun _ => further _ _) _
      refine .ite (fun _ => (keeps_characterSet.bind fun _ => further _ _) _) fun _ => ?_
      refine .ite (fun isMark => ?_) fun _ => ?_
      · exact (holds_quantifier pieces isMark).bind fun _ => further _ _ _
      refine .ite (fun _ => further _ _ _) fun _ => .ite (fun _ => further _ _ _) fun _ => ?_
      refine .ite (fun _ => further _ _ _) fun _ => ?_
      refine .ite (fun isOpening => ?_) fun _ => further _ _ _
      -- The parenthesis that was just read pays for the group behind it.
      have paid : (some (Glyph.plain char)).toList.count (.plain '(') = 1 := by
        rw [isOpening]
        rfl
      rw [paid]
      refine holds_position.bind fun start => ?_
      refine (holds_accept '?').bind fun extended => .ite (fun isExtended => ?_) fun _ => ?_
      · refine (keeps.extension _ _ _ _ _).narrow ?_
        simp [isOpening, isExtended]
      · exact (keeps.capturing verbose first _ pieces none).holds fun _ => ReaderState.Behind.forget

theorem enclosed (keeps : KeepsWith room text fuel) (verbose around first : Bool) (start : Nat)
    (pieces : List Piece) (item : List Expr → Piece) :
    Keeps room text (fresh + 1) (do
      let body ← Regex.groupBody verbose start fuel
      Regex.sequence around first (item body :: pieces) fuel) :=
  (keeps.groupBody fresh verbose start).bind fun _ => keeps.sequence _ _ _ _

/-- More fuel for a group behind its question mark. -/
theorem step_extension (keeps : KeepsWith room text fuel) (fresh : Nat) (verbose first : Bool)
    (start : Nat) (pieces : List Piece) :
    Holds (Excused room text)
      (ReaderState.Behind room text (fresh + 1) (['(', '?'].map .plain))
      (Regex.extension verbose first start pieces (fuel + 1))
      fun _ => ReaderState.Behind room text (fresh + 1) [] := by
  rw [Regex.extension]
  refine holds_next.bind fun found => ?_
  have forget : ∀ state : ReaderState,
      state.Behind room text (fresh + 1) (['(', '?'].map .plain ++ found.toList) →
      state.Behind room text (fresh + 1) [] := fun _ => ReaderState.Behind.forget
  have further : ∀ pieces,
      Keeps room text (fresh + 1) (Regex.sequence verbose first pieces fuel) :=
    keeps.sequence (fresh + 1) verbose first
  split
  · exact holds_fail
  · refine Keeps.holds ((keeps_accept '<').bind fun _ => .ite ?_ ?_) forget
    · refine (keeps_name '>' "group name").bind fun groupName => .ite .failBefore ?_
      exact keeps.capturing verbose first start pieces (some groupName)
    · refine (keeps_accept '=').bind fun _ => .ite ?_ (keeps_next.bind fun found => ?_)
      · exact keeps_namedReference.bind fun _ => further _
      · cases found with
        | none => exact .fail
        | some glyph => exact .failBefore
  · exact (keeps.enclosed verbose verbose first start pieces .inline).holds forget
  · refine Keeps.holds ?_ forget
    exact keeps_remaining.bind fun _ => (keeps_skipComment _ _).bind fun _ => further _
  · exact (keeps.enclosed verbose verbose first start pieces _).holds forget
  · exact (keeps.enclosed verbose verbose first start pieces _).holds forget
  · refine Keeps.holds (keeps_next.bind fun found => ?_) forget
    cases found with
    | none => exact .fail
    | some glyph =>
        -- A lookbehind sets a limit before its contents and takes it away behind them, but only if
        -- it is not inside another one.
        refine .ite (keeps_get.bind fun state => ?_) .failBefore
        extract_lets outer inside
        have keepsInside : ∀ done, Keeps room text (fresh + 1) (inside done) := by
          refine fun _ => (keeps.alternatives _ _ _ _).inGroup.bind fun body => ?_
          extract_lets expr behind
          have keepsBehind : ∀ done, Keeps room text (fresh + 1) (behind done) :=
            fun _ => (keeps_accept ')').bind fun _ => .ite (further _) .failAt
          refine .ite (.bind ?_ keepsBehind) (keepsBehind ())
          exact keeps_modify (fun _ => rfl) (fun _ => rfl) fun _ => rfl
        refine .ite (.bind ?_ keepsInside) (keepsInside ())
        exact keeps_modify (fun _ => rfl) (fun _ => rfl) fun _ => rfl
  · refine Keeps.holds (keeps_conditionGroup.bind fun group => ?_) forget
    refine (keeps.sequence _ _ _ _).inGroup.bind fun present => (keeps_accept '|').bind fun _ => ?_
    extract_lets rest
    have keepsRest : ∀ absent, Keeps room text (fresh + 1) (rest absent) :=
      fun _ => (keeps_accept ')').bind fun _ => .ite (further _) .failAt
    refine .ite ((keeps.sequence _ _ _ _).inGroup.bind fun absent => ?_) (.bind .pure keepsRest)
    exact keeps_peek.bind fun _ => .ite (.bind .fail keepsRest) (.bind .pure keepsRest)
  · exact (keeps.enclosed verbose verbose first start pieces _).holds forget
  · next glyph _ _ _ _ _ _ _ _ =>
      cases glyph with
      | plain char =>
          refine .ite (fun _ => ?_) fun _ => holds_failBefore
          have mark : ∀ state : ReaderState,
              state.Behind room text (fresh + 1) (['(', '?'].map .plain ++ [.plain char]) →
              state.Behind room text (fresh + 1) (['(', '?', char].map .plain) := by simp
          refine ((holds_inlineFlags char).narrow mark).bind fun flags => ?_
          split
          · refine .ite (fun _ => holds_failAt) fun _ => ?_
            exact (keeps_get.bind fun _ => keeps.sequence _ _ _ _) _
          · exact keeps.enclosed _ verbose first start pieces _ _
      | escaped char => exact holds_failBefore
      | dangling => exact holds_failBefore

end KeepsWith

/-- With any fuel the readers keep their place. -/
theorem keepsWith (fuel : Nat) : KeepsWith room text fuel := by
  induction fuel with
  | zero =>
      refine ⟨fun _ _ _ _ => ?_, fun _ _ _ _ => ?_, fun _ _ _ => ?_, fun _ _ _ _ _ => ?_⟩
      · rw [alternatives]
        exact .fail
      · rw [sequence]
        exact .fail
      · rw [groupBody]
        exact .fail
      · rw [extension]
        exact holds_fail
  | succ fuel ih =>
      exact ⟨ih.step_alternatives, ih.step_sequence, ih.step_groupBody, ih.step_extension⟩

end

/-! ## Whole patterns -/

/-- Reading a pattern fails for a reason that its text gives. -/
theorem excused_of_parse {pattern : Text} {flags : Flags} {room : Nat} {failure : Failure}
    (unchosen : ∀ letter, ¬ flags.ChoosesBy letter)
    (fails : parse pattern flags room = .error failure) : Excused room pattern failure := by
  have start : (ReaderState.start pattern flags room).Behind room pattern 0 [] :=
    ⟨List.suffix_refl _, fun letter chooses => absurd chooses (unchosen letter), Nat.le_refl _⟩
  have holds := (keepsWith (4 * (Glyph.ofText pattern).length + 4)).alternatives 0 flags.verbose
    true [] [] _ start
  rw [parse] at fails
  split at fails
  · cases fails
    exact .malformed _ _
  · dsimp only at fails
    split at fails
    · next failure read =>
        rw [read] at holds
        cases fails
        exact holds
    · next items state read =>
        rw [read] at holds
        split at fails
        · next both =>
            obtain ⟨ascii, unicode⟩ := Bool.and_eq_true _ _ ▸ both
            cases fails
            exact .overreaches (.flags (holds.flags _ (.ascii ascii))
              (holds.flags _ (.unicode unicode)))
        · split at fails
          · cases fails
            exact .malformed _ _
          · split at fails
            · cases fails
              exact .malformed _ _
            · cases fails

/-- Compiling a pattern fails for a reason that its text gives. -/
theorem excused_of_ofSource {source : Text} {flags : Flags} {room : Nat} {failure : Failure}
    (unchosen : ∀ letter, ¬ flags.ChoosesBy letter)
    (fails : Program.ofSource source flags room = .error failure) :
    Excused room source failure := by
  rw [Program.ofSource] at fails
  split at fails
  · next read =>
      cases fails
      exact excused_of_parse unchosen read
  · split at fails
    · cases fails
      exact .malformed _ _
    · cases fails

end Winnow.Regex
