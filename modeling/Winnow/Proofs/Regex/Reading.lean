import Winnow.Regex.Parser
import Winnow.Regex.Escape

/-!
# Reading escaped characters

An escaped character is read as one glyph (`Glyph.ofChar`), and that glyph as
the literal character (`sequence_char`). Groups of one such character, dots and
stars are read as they look (`sequence_group`, `sequence_dot`, `sequence_star`),
and so is a text without any of the `metacharacters`, escaped or not
(`parse_plainText`). Groups that are opened one inside the other run out of room
(`parse_replicate_opening`).
Every step leaves a state that differs from the one before in what is left, in
the offset and in the groups only (`ReaderState.Past`), so steps can be put one
behind the other until nothing is left (`parse_of_sequence`).
-/

namespace Winnow.Regex

/-! ## Glyphs -/

namespace Glyph

/-- The glyph that an escaped character is read as. -/
def ofChar (char : Char) : Glyph :=
  if special.contains char then .escaped char else .plain char

/-- Any character but a backslash is a glyph of its own. -/
theorem ofText_cons {char : Char} (ordinary : char ≠ '\\') (rest : Text) :
    ofText (char :: rest) = .plain char :: ofText rest := by
  rw [ofText]
  · intro slash
    exact absurd slash ordinary
  · intro next others slash
    exact absurd slash ordinary

/-- A text without backslashes is read character by character. -/
theorem ofText_of_notMem {text : Text} (ordinary : '\\' ∉ text) :
    ofText text = text.map .plain := by
  induction text with
  | nil => rfl
  | cons char text ih =>
      obtain ⟨other, others⟩ := not_or.mp (mt List.mem_cons.mpr ordinary)
      rw [ofText_cons (Ne.symm other), ih others, List.map_cons]

/-- An escaped character is one glyph. -/
theorem ofText_escapeChar (char : Char) (rest : Text) :
    ofText (escapeChar char ++ rest) = ofChar char :: ofText rest := by
  rw [escapeChar, ofChar]
  split
  · rfl
  · next ordinary =>
      apply ofText_cons
      rintro rfl
      exact ordinary (by decide)

theorem ofChar_ne_dangling (char : Char) : ofChar char ≠ .dangling := by
  rw [ofChar]
  split <;> exact Glyph.noConfusion

/-- No escaped character is read as one of the special characters. -/
theorem ofChar_ne_plain {char mark : Char} (member : mark ∈ special) :
    ofChar char ≠ .plain mark := by
  rw [ofChar]
  split
  · exact Glyph.noConfusion
  · next ordinary =>
      intro same
      rw [Glyph.plain.inj same] at ordinary
      exact ordinary (List.contains_iff_mem.mpr member)

end Glyph

/-! ## Steps of the reader -/

namespace Reader

variable {state : ReaderState} {rest : List Glyph}

theorem bind_ok {α β : Type} {first : Reader α} {second : α → Reader β} {later : ReaderState}
    {value : α} (done : first state = .ok (value, later)) :
    (first >>= second) state = second value later := by
  show StateT.bind first second state = _
  rw [StateT.bind, done]
  rfl

theorem peek_ok : peek state = .ok (state.glyphs.head?, state) := rfl

theorem bind_error {α β : Type} {first : Reader α} {second : α → Reader β} {failure : Failure}
    (failed : first state = .error failure) : (first >>= second) state = .error failure := by
  show StateT.bind first second state = _
  rw [StateT.bind, failed]
  rfl

/-- The next glyph is consumed unless nothing but a dangling backslash follows. -/
theorem next_of_ne {glyph : Glyph} (here : state.glyphs = glyph :: rest)
    (last : rest ≠ [.dangling]) :
    next state
      = .ok (some glyph, { state with glyphs := rest, offset := state.offset + glyph.width }) := by
  rw [next, here]
  dsimp only
  rw [if_neg last]

/-- The next glyph is consumed unless a dangling backslash follows. -/
theorem next_ok {glyph : Glyph} (here : state.glyphs = glyph :: rest)
    (whole : .dangling ∉ rest) :
    next state
      = .ok (some glyph, { state with glyphs := rest, offset := state.offset + glyph.width }) := by
  refine next_of_ne here ?_
  rintro rfl
  simp at whole

theorem accept_of_ne {char : Char} (other : state.glyphs.head? ≠ some (.plain char)) :
    accept char state = .ok (false, state) := by
  rw [accept, bind_ok peek_ok, if_neg other]
  rfl

theorem accept_of_eq {char : Char} (here : state.glyphs = .plain char :: rest)
    (whole : .dangling ∉ rest) :
    accept char state
      = .ok (true, { state with glyphs := rest, offset := state.offset + 1 }) := by
  rw [accept, bind_ok peek_ok, if_pos (by rw [here]; rfl), bind_ok (next_ok here whole)]
  rfl

theorem inGroup_ok {α : Type} {body : Reader α} {value : α} {later : ReaderState} {room : Nat}
    (space : state.room = room + 1) (done : body { state with room } = .ok (value, later)) :
    inGroup body state = .ok (value, { later with room := later.room + 1 }) := by
  rw [inGroup, space]
  dsimp only
  rw [done]

end Reader

open Reader

theorem exprEscape_special {char : Char} (member : char ∈ special) (state : ReaderState) :
    exprEscape char state = .ok (.literal char.toNat, state) := by
  simp only [special, List.mem_cons, List.not_mem_nil, or_false] at member
  rcases member with rfl | rfl | rfl | rfl | rfl | rfl | rfl | rfl | rfl | rfl | rfl | rfl | rfl |
    rfl | rfl | rfl | rfl | rfl | rfl | rfl | rfl | rfl | rfl | rfl <;> rfl

/-! ## Items of a sequence -/

/-- The characters that are read as more than themselves outside of sets. Fewer than those that are
escaped: blanks, for one, have a meaning in verbose patterns only. -/
def metacharacters : List Char :=
  ['.', '^', '$', '*', '+', '?', '\x7b', '\x7d', '[', ']', '\\', '|', '(', ')']

theorem metacharacters_subset_special : metacharacters ⊆ special := by
  simp [metacharacters, special]

section

variable {state : ReaderState} {rest : List Glyph} {char : Char}

theorem sequence_end (first : Bool) (pieces : List Piece) (fuel : Nat)
    (here : state.glyphs = []) :
    sequence false first pieces (fuel + 1) state = .ok (flattenPieces pieces, state) := by
  rw [sequence, bind_ok peek_ok, here, List.head?_nil]
  rfl

theorem sequence_close (first : Bool) (pieces : List Piece) (fuel : Nat)
    (here : state.glyphs = .plain ')' :: rest) :
    sequence false first pieces (fuel + 1) state = .ok (flattenPieces pieces, state) := by
  rw [sequence, bind_ok peek_ok, here, List.head?_cons]
  rfl

/-- A character without a meaning of its own is a literal. -/
theorem sequence_plain (ordinary : char ∉ metacharacters) (first : Bool) (pieces : List Piece)
    (fuel : Nat) (here : state.glyphs = .plain char :: rest) (whole : .dangling ∉ rest) :
    sequence false first pieces (fuel + 1) state
      = sequence false first (.single (.literal char.toNat) :: pieces) fuel
          { state with glyphs := rest, offset := state.offset + 1 } := by
  have other : ∀ {mark : Char}, mark ∈ metacharacters → char ≠ mark := fun member same =>
    ordinary (same ▸ member)
  have bar : char ≠ '|' := other (by decide)
  have close : char ≠ ')' := other (by decide)
  have bracket : char ≠ '[' := other (by decide)
  have star : char ≠ '*' := other (by decide)
  have plus : char ≠ '+' := other (by decide)
  have question : char ≠ '?' := other (by decide)
  have brace : char ≠ '\x7b' := other (by decide)
  have dot : char ≠ '.' := other (by decide)
  have caret : char ≠ '^' := other (by decide)
  have dollar : char ≠ '$' := other (by decide)
  have opening : char ≠ '(' := other (by decide)
  rw [sequence, bind_ok peek_ok, here, List.head?_cons]
  simp only
  rw [bind_ok (next_ok here whole)]
  simp only [Bool.false_and, Bool.false_eq_true, if_false, bracket, star, plus, question, brace,
    dot, caret, dollar, opening, decide_false, Bool.or_false]
  rfl

/-- A special character behind a backslash is a literal. -/
theorem sequence_escaped (member : char ∈ special) (first : Bool) (pieces : List Piece)
    (fuel : Nat) (here : state.glyphs = .escaped char :: rest) (whole : .dangling ∉ rest) :
    sequence false first pieces (fuel + 1) state
      = sequence false first (.single (.literal char.toNat) :: pieces) fuel
          { state with glyphs := rest, offset := state.offset + 2 } := by
  rw [sequence, bind_ok peek_ok, here, List.head?_cons]
  dsimp only
  rw [bind_ok (next_ok here whole), bind_ok (exprEscape_special member _)]
  rfl

/-- An escaped character is a literal. -/
theorem sequence_char (first : Bool) (pieces : List Piece) (fuel : Nat)
    (here : state.glyphs = .ofChar char :: rest) (whole : .dangling ∉ rest) :
    sequence false first pieces (fuel + 1) state
      = sequence false first (.single (.literal char.toNat) :: pieces) fuel
          { state with glyphs := rest, offset := state.offset + (Glyph.ofChar char).width } := by
  by_cases member : char ∈ special
  · have escaped : Glyph.ofChar char = .escaped char :=
      if_pos (List.contains_iff_mem.mpr member)
    rw [escaped] at here ⊢
    exact sequence_escaped member first pieces fuel here whole
  · have plain : Glyph.ofChar char = .plain char :=
      if_neg (mt List.contains_iff_mem.mp member)
    rw [plain] at here ⊢
    exact sequence_plain (mt (metacharacters_subset_special ·) member) first pieces fuel here whole

/-- A dot is any character. -/
theorem sequence_dot (first : Bool) (pieces : List Piece) (fuel : Nat)
    (here : state.glyphs = .plain '.' :: rest) (whole : .dangling ∉ rest) :
    sequence false first pieces (fuel + 1) state
      = sequence false first (.single .any :: pieces) fuel
          { state with glyphs := rest, offset := state.offset + 1 } := by
  -- As a variable the character keeps the tests on it in sight until they are rewritten.
  obtain ⟨dot, isDot⟩ : ∃ char, char = '.' := ⟨_, rfl⟩
  have bar : dot ≠ '|' := isDot ▸ by decide
  have close : dot ≠ ')' := isDot ▸ by decide
  rw [← isDot] at here
  rw [sequence, bind_ok peek_ok, here, List.head?_cons]
  simp only
  rw [bind_ok (next_ok here whole)]
  simp only [Bool.false_and, Bool.false_eq_true, if_false]
  rw [if_neg (isDot ▸ by decide), if_neg (isDot ▸ by decide), if_pos isDot]
  rfl

/-- A star without a mark behind it repeats the last item as often as it can. -/
theorem quantifier_star (expr : Expr) (pieces : List Piece)
    (notAnchor : ∀ kind, expr ≠ .anchor kind)
    (notRepeated : ∀ greed least most body, expr ≠ .repetition greed least most body)
    (lazy : state.glyphs.head? ≠ some (.plain '?'))
    (possessive : state.glyphs.head? ≠ some (.plain '+')) :
    quantifier '*' (.single expr :: pieces) state
      = .ok (.single (.repetition .greedy 0 none expr) :: pieces, state) := by
  have mark : greedMark state = .ok (.greedy, state) := by
    rw [greedMark, bind_ok (accept_of_ne lazy), if_neg Bool.false_ne_true,
      bind_ok (accept_of_ne possessive)]
    rfl
  rw [quantifier, bind_ok rfl, if_neg (by decide), if_pos rfl]
  rw [repeatLast, bind_ok mark]
  · rfl
  · exact notAnchor
  · exact notRepeated

/-- A star repeats what stands before it. -/
theorem sequence_star (first : Bool) (expr : Expr) (pieces : List Piece) (fuel : Nat)
    (notAnchor : ∀ kind, expr ≠ .anchor kind)
    (notRepeated : ∀ greed least most body, expr ≠ .repetition greed least most body)
    (here : state.glyphs = .plain '*' :: rest) (whole : .dangling ∉ rest)
    (lazy : rest.head? ≠ some (.plain '?')) (possessive : rest.head? ≠ some (.plain '+')) :
    sequence false first (.single expr :: pieces) (fuel + 1) state
      = sequence false first (.single (.repetition .greedy 0 none expr) :: pieces) fuel
          { state with glyphs := rest, offset := state.offset + 1 } := by
  obtain ⟨star, isStar⟩ : ∃ char, char = '*' := ⟨_, rfl⟩
  have bar : star ≠ '|' := isStar ▸ by decide
  have close : star ≠ ')' := isStar ▸ by decide
  rw [← isStar] at here
  rw [sequence, bind_ok peek_ok, here, List.head?_cons]
  simp only
  rw [bind_ok (next_ok here whole)]
  simp only [Bool.false_and, Bool.false_eq_true, if_false]
  rw [if_neg (isStar ▸ by decide), if_pos (by simp [isStar]), isStar]
  exact bind_ok (quantifier_star expr pieces notAnchor notRepeated lazy possessive)

/-- Items that no bar follows are the only alternative. -/
theorem alternatives_single {outermost : Bool} {fuel : Nat} {items : List Expr}
    {later : ReaderState}
    (read : sequence false outermost [] fuel state = .ok (items, later))
    (last : later.glyphs.head? ≠ some (.plain '|')) :
    alternatives false outermost [] (fuel + 1) state = .ok (items, later) := by
  have first : (outermost && ([] : List (List Expr)).isEmpty) = outermost := by simp
  rw [alternatives, first, bind_ok read]
  dsimp only
  rw [bind_ok (accept_of_ne last), if_neg Bool.false_ne_true]
  rfl

/-- The contents of a group that holds one escaped character. -/
theorem groupBody_char (start fuel : Nat) (space : 0 < state.room)
    (here : state.glyphs = .ofChar char :: .plain ')' :: rest) (whole : .dangling ∉ rest) :
    groupBody false start (fuel + 4) state
      = .ok ([.literal char.toNat],
          { state with
            glyphs := rest, offset := state.offset + (Glyph.ofChar char).width + 1 }) := by
  have closeWhole : .dangling ∉ .plain ')' :: rest := by simp [whole]
  obtain ⟨room, left⟩ := Nat.exists_eq_add_of_le' space
  let inside : ReaderState := { state with room }
  have items : sequence false false [] (fuel + 2) inside
      = .ok ([.literal char.toNat],
          { inside with
            glyphs := .plain ')' :: rest
            offset := state.offset + (Glyph.ofChar char).width }) := by
    have insideHere : inside.glyphs = .ofChar char :: .plain ')' :: rest := here
    rw [sequence_char _ _ _ insideHere closeWhole]
    exact sequence_close _ _ _ rfl
  rw [groupBody, bind_ok (inGroup_ok left (alternatives_single items (by simp))),
    bind_ok (accept_of_eq rfl whole), if_pos rfl, ← left]
  rfl

/-- The state behind a group that holds one escaped character. -/
def ReaderState.behindGroup (state : ReaderState) (char : Char) (rest : List Glyph) :
    ReaderState :=
  { state with
    glyphs := rest
    offset := state.offset + 1 + (Glyph.ofChar char).width + 1
    widths := (state.widths ++ [none]).set state.widths.length (some (1, 1)) }

/-- A parenthesis without a question mark behind it opens a group. -/
theorem sequence_parenthesis (first : Bool) (pieces : List Piece) (fuel : Nat)
    (here : state.glyphs = .plain '(' :: rest) (last : rest ≠ [.dangling])
    (notExtension : rest.head? ≠ some (.plain '?')) :
    sequence false first pieces (fuel + 1) state
      = (groupBody false state.offset fuel >>= fun body => do
          closeGroup state.widths.length (.ofSeq body)
          sequence false first
            (.single (.group (some state.widths.length) .none .none (.ofSeq body)) :: pieces) fuel)
          { state with
            glyphs := rest, offset := state.offset + 1, widths := state.widths ++ [none] } := by
  obtain ⟨opening, isOpening⟩ : ∃ char, char = '(' := ⟨_, rfl⟩
  have bar : opening ≠ '|' := isOpening ▸ by decide
  have close : opening ≠ ')' := isOpening ▸ by decide
  rw [← isOpening] at here
  rw [sequence, bind_ok peek_ok, here, List.head?_cons]
  simp only
  rw [bind_ok (next_of_ne here last)]
  simp only [Bool.false_and, Bool.false_eq_true, if_false]
  rw [if_neg (isOpening ▸ by decide), if_neg (by simp [isOpening]), if_neg (isOpening ▸ by decide),
    if_neg (isOpening ▸ by decide), if_neg (isOpening ▸ by decide), if_pos isOpening,
    bind_ok rfl, bind_ok (accept_of_ne notExtension), if_neg Bool.false_ne_true, bind_ok rfl]
  rfl

/-- A group that holds one escaped character captures the literal. -/
theorem sequence_group (first : Bool) (pieces : List Piece) (fuel : Nat)
    (space : 0 < state.room)
    (here : state.glyphs = .plain '(' :: .ofChar char :: .plain ')' :: rest)
    (whole : .dangling ∉ rest) :
    sequence false first pieces (fuel + 5) state
      = sequence false first
          (.single (.group (some state.widths.length) .none .none (.literal char.toNat)) :: pieces)
          (fuel + 4) (state.behindGroup char rest) := by
  have last : .ofChar char :: .plain ')' :: rest ≠ [.dangling] := by simp
  have notExtension : (Glyph.ofChar char :: .plain ')' :: rest).head? ≠ some (.plain '?') := by
    simpa using Glyph.ofChar_ne_plain (by decide)
  rw [sequence_parenthesis first pieces (fuel + 4) here last notExtension,
    bind_ok (groupBody_char _ _ ?_ rfl whole), bind_ok rfl]
  · rfl
  · exact space

/-- What is wrong inside a group that begins with another one is wrong with the sequence. -/
theorem sequence_opening {failure : Failure} (first : Bool) (pieces : List Piece) (fuel : Nat)
    (here : state.glyphs = .plain '(' :: .plain '(' :: rest)
    (failed : groupBody false state.offset fuel
      { state with
        glyphs := .plain '(' :: rest
        offset := state.offset + 1
        widths := state.widths ++ [none] } = .error failure) :
    sequence false first pieces (fuel + 1) state = .error failure := by
  rw [sequence_parenthesis first pieces fuel here (by simp) (by simp)]
  exact bind_error failed

/-- Groups that are opened one inside the other, more than there is room for, cannot be read. -/
theorem sequence_replicate_opening {left further fuel : Nat} {state : ReaderState}
    {rest : List Glyph} (first : Bool) (pieces : List Piece) (space : state.room = left)
    (here : state.glyphs = List.replicate (left + 2 + further) (.plain '(') ++ rest)
    (enough : 3 * left + 2 ≤ fuel) :
    sequence false first pieces fuel state = .error .nestedTooDeeply := by
  induction left generalizing state first pieces fuel with
  | zero =>
      obtain ⟨fuel, rfl⟩ := Nat.exists_eq_add_of_le' enough
      refine sequence_opening first pieces (fuel + 1)
        (by rw [here, Nat.add_right_comm]; rfl) ?_
      rw [groupBody]
      refine bind_error ?_
      rw [inGroup, space]
  | succ left ih =>
      obtain ⟨fuel, rfl⟩ := Nat.exists_eq_add_of_le' (show 3 ≤ fuel by omega)
      refine sequence_opening first pieces (fuel + 2)
        (by rw [here, show left + 1 + 2 + further = left + 1 + further + 2 by omega]; rfl) ?_
      rw [groupBody]
      refine bind_error ?_
      rw [inGroup, space]
      dsimp only
      rw [alternatives, bind_error]
      refine ih _ _ rfl ?_ (by omega)
      rw [show left + 2 + further = left + 1 + further + 1 by omega]
      rfl

end

/-! ## Whole patterns -/

/-- Part of a pattern has been read: what is left is known, and nothing that holds for the
pattern as a whole has changed, while some groups have been closed. -/
structure ReaderState.Past (state later : ReaderState) (rest : List Glyph) (groups : Nat) :
    Prop where
  glyphs : later.glyphs = rest
  flags : later.flags = state.flags
  room : later.room = state.room
  conditions : later.conditions = state.conditions
  widths : later.widths.length = state.widths.length + groups

/-- Parts are read one after the other. -/
theorem ReaderState.Past.trans {first second third : ReaderState} {middle rest : List Glyph}
    {left right : Nat} (one : first.Past second middle left)
    (two : second.Past third rest right) : first.Past third rest (left + right) where
  glyphs := two.glyphs
  flags := two.flags.trans one.flags
  room := two.room.trans one.room
  conditions := two.conditions.trans one.conditions
  widths := by
    rw [two.widths, one.widths]
    omega

/-- A pattern whose items are read to the end is read. -/
theorem parse_of_sequence {pattern : Text} {flags : Flags} {room groups : Nat}
    {items : List Expr} {later : ReaderState} (whole : .dangling ∉ Glyph.ofText pattern)
    (plain : flags.verbose = false) (notAscii : flags.ascii = false)
    (read : sequence false true [] (4 * (Glyph.ofText pattern).length + 3)
        (.start pattern flags room) = .ok (items, later))
    (past : (ReaderState.start pattern flags room).Past later [] groups) :
    ∃ widths, widths.length = groups + 1 ∧
      parse pattern flags room = .ok ⟨.ofSeq items, { flags with unicode := true }, widths⟩ := by
  have glyphs : Glyph.ofText pattern ≠ [.dangling] := by
    intro same
    rw [same] at whole
    simp at whole
  have last : later.glyphs.head? ≠ some (.plain '|') := by simp [past.glyphs]
  have laterFlags : later.flags = flags := past.flags
  have noConditions : later.conditions = [] := past.conditions
  refine ⟨later.widths, by rw [past.widths]; exact Nat.add_comm 1 groups, ?_⟩
  have top : alternatives flags.verbose true [] (4 * (Glyph.ofText pattern).length + 4)
      (.start pattern flags room) = .ok (items, later) := by
    rw [plain]
    exact alternatives_single read last
  rw [parse, if_neg glyphs]
  dsimp only
  rw [top]
  simp [laterFlags, notAscii, past.glyphs, noConditions]

/-- Characters without a meaning of their own are read one after the other. -/
theorem sequence_plainText {text : Text} (ordinary : ∀ char ∈ text, char ∉ metacharacters)
    {state : ReaderState} (first : Bool) (pieces : List Piece) {fuel : Nat}
    (here : state.glyphs = text.map .plain) (enough : text.length < fuel) :
    ∃ later, state.Past later [] 0 ∧
      sequence false first pieces fuel state
        = .ok (flattenPieces pieces ++ text.map (fun char => .literal char.toNat), later) := by
  induction text generalizing state pieces fuel with
  | nil =>
      obtain ⟨fuel, rfl⟩ := Nat.exists_eq_add_of_le' (show 1 ≤ fuel from enough)
      refine ⟨state, ⟨here, rfl, rfl, rfl, rfl⟩, ?_⟩
      rw [sequence_end first pieces fuel here, List.map_nil, List.append_nil]
  | cons char text ih =>
      obtain ⟨ordinaryHere, others⟩ := List.forall_mem_cons.mp ordinary
      rw [List.length_cons] at enough
      obtain ⟨fuel, rfl⟩ := Nat.exists_eq_add_of_le' (show 1 ≤ fuel by omega)
      have whole : .dangling ∉ text.map Glyph.plain := by simp
      let behind : ReaderState :=
        { state with glyphs := text.map .plain, offset := state.offset + 1 }
      have left : behind.glyphs = text.map .plain := rfl
      obtain ⟨later, past, done⟩ := ih others (.single (.literal char.toNat) :: pieces) left
        (Nat.lt_of_succ_lt_succ enough)
      refine ⟨later, ⟨past.glyphs, past.flags, past.room, past.conditions, past.widths⟩, ?_⟩
      rw [sequence_plain ordinaryHere first pieces fuel here whole, done]
      simp [flattenPieces]

/-- A text without characters that have a meaning of their own is read as itself. -/
theorem parse_plainText {text : Text} (ordinary : ∀ char ∈ text, char ∉ metacharacters)
    {flags : Flags} {room : Nat} (plain : flags.verbose = false)
    (notAscii : flags.ascii = false) :
    ∃ widths, widths.length = 1 ∧
      parse text flags room
        = .ok ⟨.ofSeq (text.map fun char => .literal char.toNat),
            { flags with unicode := true }, widths⟩ := by
  have glyphs : Glyph.ofText text = text.map .plain :=
    Glyph.ofText_of_notMem fun slash => ordinary _ slash (by decide)
  have whole : .dangling ∉ Glyph.ofText text := by simp [glyphs]
  have length : (Glyph.ofText text).length = text.length := by rw [glyphs, List.length_map]
  have here : (ReaderState.start text flags room).glyphs = text.map .plain := glyphs
  obtain ⟨later, past, read⟩ := sequence_plainText ordinary true [] here
    (show text.length < 4 * (Glyph.ofText text).length + 3 by omega)
  exact parse_of_sequence whole plain notAscii read past

/-- Parentheses in front of a text are glyphs of their own. -/
theorem Glyph.ofText_replicate_append (opened : Nat) (rest : Text) :
    ofText (List.replicate opened '(' ++ rest)
      = List.replicate opened (.plain '(') ++ ofText rest := by
  induction opened with
  | zero => rfl
  | succ opened ih =>
      rw [List.replicate_succ, List.cons_append, ofText_cons (by decide), ih, List.replicate_succ,
        List.cons_append]

/-- A pattern that opens more groups one inside the other than there is room for cannot be read,
whatever stands inside them. -/
theorem parse_openings {pattern : Text} {rest : List Glyph} {opened room : Nat} {flags : Flags}
    (many : room + 2 < opened) (plain : flags.verbose = false)
    (glyphs : Glyph.ofText pattern = List.replicate opened (.plain '(') ++ rest) :
    parse pattern flags room = .error .nestedTooDeeply := by
  obtain ⟨further, split⟩ : ∃ further, opened = room + 1 + 2 + further :=
    ⟨opened - (room + 3), by omega⟩
  have length : room + 3 ≤ (Glyph.ofText pattern).length := by
    rw [glyphs, List.length_append, List.length_replicate]
    omega
  have notDangling : Glyph.ofText pattern ≠ [.dangling] := by
    intro same
    rw [same, List.length_singleton] at length
    omega
  have space : (ReaderState.start pattern flags room).room = room + 1 := rfl
  have enough : 3 * (room + 1) + 2 ≤ 4 * (Glyph.ofText pattern).length + 3 := by omega
  rw [parse, if_neg notDangling, plain]
  dsimp only
  rw [alternatives, bind_error]
  exact sequence_replicate_opening _ _ space (split ▸ glyphs) enough

/-- Parentheses in front of a text open groups one inside the other. -/
theorem parse_replicate_opening {opened room : Nat} (many : room + 2 < opened) (rest : Text)
    {flags : Flags} (plain : flags.verbose = false) :
    parse (List.replicate opened '(' ++ rest) flags room = .error .nestedTooDeeply :=
  parse_openings many plain (Glyph.ofText_replicate_append opened rest)

end Winnow.Regex
