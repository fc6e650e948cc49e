import Winnow.Query.Token
import Mathlib.Data.List.Forall2

/-!
# The pieces of a query

The pieces hold, in order, every character of the query but the separators
(`flatten_piecesFrom`), so no letter is lost and nothing is added. They are the
words of a query that is cut, and otherwise the query itself
(`mem_pieceTexts_iff`). Where every piece compiles into a pattern with a known
meaning, the query compiles, and a text is accepted exactly if every piece
means it (`compile_query`).
-/

namespace Winnow

/-- No piece of a cut query is empty. -/
theorem ne_nil_of_mem_piecesFrom {offset : Nat} {piece query : Text} {found : Nat × Text}
    (member : found ∈ piecesFrom offset piece query) : found.2 ≠ [] := by
  induction query generalizing offset piece with
  | nil =>
      rw [piecesFrom] at member
      split at member
      · cases member
      · next some =>
          rw [List.mem_singleton.mp member]
          simpa using some
  | cons char rest ih =>
      rw [piecesFrom] at member
      split at member
      · split at member
        · exact ih member
        · next some =>
            rcases List.mem_cons.mp member with rfl | later
            · simpa using some
            · exact ih later
      · exact ih member

/-- The pieces of a cut query are its characters without the separators. -/
theorem flatten_piecesFrom (offset : Nat) (piece query : Text) :
    ((piecesFrom offset piece query).map Prod.snd).flatten
      = piece.reverse ++ query.filter fun char => char ≠ tokenSeparator := by
  induction query generalizing offset piece with
  | nil =>
      rw [piecesFrom]
      split
      · next none => simp [List.isEmpty_iff.mp none]
      · simp
  | cons char rest ih =>
      rw [piecesFrom]
      split
      · next separates =>
          split
          · next none =>
              rw [ih, List.isEmpty_iff.mp none]
              simp [separates]
          · rw [List.map_cons, List.flatten_cons, ih]
            simp [separates]
      · next inside =>
          rw [ih]
          simp [inside]

/-- The characters of a text that are no blanks. -/
def Text.letters (text : Text) : Text := text.filter fun char => !isBlank char

/-- The texts of the pieces of a query. -/
def pieceTexts (options : MatchOptions) (query : Text) : List Text :=
  (queryPieces options query).map Prod.snd

section

variable {options : MatchOptions} {query : Text}

/-- No piece of a query is empty. -/
theorem ne_nil_of_mem_pieceTexts {text : Text} (member : text ∈ pieceTexts options query) :
    text ≠ [] := by
  obtain ⟨piece, pieceMember, rfl⟩ := List.mem_map.mp member
  rw [queryPieces] at pieceMember
  split at pieceMember
  · exact ne_nil_of_mem_piecesFrom pieceMember
  · split at pieceMember
    · cases pieceMember
    · next some =>
        rw [List.mem_singleton.mp pieceMember]
        simpa using some

/-- The pieces of a query are its characters, without the separators if it is cut. -/
theorem flatten_pieceTexts (options : MatchOptions) (query : Text) :
    (pieceTexts options query).flatten
      = query.filter fun char => !(options.tokenize && char == tokenSeparator) := by
  rw [pieceTexts, queryPieces]
  split
  · next cut =>
      rw [flatten_piecesFrom, List.reverse_nil, List.nil_append]
      refine List.filter_congr fun char _ => ?_
      by_cases separates : char = tokenSeparator <;> simp [cut, separates]
  · next whole =>
      have uncut : options.tokenize = false := by simpa using whole
      split
      · next none => simp [List.isEmpty_iff.mp none]
      · rw [List.filter_eq_self.mpr fun char _ => by simp [uncut]]
        simp

theorem length_flatten_pieceTexts_le (options : MatchOptions) (query : Text) :
    (pieceTexts options query).flatten.length ≤ query.length := by
  rw [flatten_pieceTexts]
  exact List.length_filter_le _ query

theorem mem_query_of_mem_pieceTexts {text : Text} {char : Char}
    (member : text ∈ pieceTexts options query) (inside : char ∈ text) : char ∈ query := by
  have found : char ∈ (pieceTexts options query).flatten :=
    List.mem_flatten.mpr ⟨text, member, inside⟩
  rw [flatten_pieceTexts] at found
  exact (List.mem_filter.mp found).1

/-- The pieces hold the letters of the query. -/
theorem letters_pieceTexts (options : MatchOptions) (query : Text) :
    Text.letters (pieceTexts options query).flatten = Text.letters query := by
  have separatorBlank : Text.isBlank tokenSeparator = true := by decide +kernel
  rw [Text.letters, flatten_pieceTexts, List.filter_filter]
  refine List.filter_congr fun char _ => ?_
  by_cases separates : char = tokenSeparator
  · simp [separates, separatorBlank]
  · simp [separates]

end

/-! ## Words -/

/-- A word of a text: characters that are no separators, with separators or nothing around them. -/
def IsWord (text word : Text) : Prop :=
  word ≠ [] ∧ tokenSeparator ∉ word ∧
    ∃ before after, text = before ++ word ++ after ∧
      (∀ char ∈ before.getLast?, char = tokenSeparator) ∧
      (∀ char ∈ after.head?, char = tokenSeparator)

/-- A text that ends with a separator, if with anything, and holds none is empty. -/
theorem eq_nil_of_getLast? {text : Text} (free : tokenSeparator ∉ text)
    (last : ∀ char ∈ text.getLast?, char = tokenSeparator) : text = [] := by
  cases ending : text.getLast? with
  | none => exact List.getLast?_eq_none_iff.mp ending
  | some char =>
      have separates : char = tokenSeparator := last char ending
      exact absurd (separates ▸ List.mem_of_getLast? ending) free

/-- A text that begins with a separator, if with anything, and holds none is empty. -/
theorem eq_nil_of_head? {text : Text} (free : tokenSeparator ∉ text)
    (first : ∀ char ∈ text.head?, char = tokenSeparator) : text = [] := by
  cases text with
  | nil => rfl
  | cons char rest =>
      have separates : char = tokenSeparator := first char rfl
      exact absurd (separates ▸ List.mem_cons_self) free

/-- The only word of a text without separators is the text itself. -/
theorem isWord_of_notMem {text word : Text} (free : tokenSeparator ∉ text) :
    IsWord text word ↔ text ≠ [] ∧ word = text := by
  constructor
  · rintro ⟨some, -, before, after, rfl, last, first⟩
    obtain ⟨⟨beforeFree, -⟩, afterFree⟩ :
        (tokenSeparator ∉ before ∧ tokenSeparator ∉ word) ∧ tokenSeparator ∉ after := by
      simpa [not_or, and_assoc] using free
    obtain rfl := eq_nil_of_getLast? beforeFree last
    obtain rfl := eq_nil_of_head? afterFree first
    simpa using some
  · rintro ⟨some, rfl⟩
    exact ⟨some, free, [], [], by simp⟩

/-- A word of a text with a separator lies before the first one, or it is a word of what
follows. -/
theorem isWord_append_cons {left rest word : Text} (free : tokenSeparator ∉ left) :
    IsWord (left ++ tokenSeparator :: rest) word ↔
      left ≠ [] ∧ word = left ∨ IsWord rest word := by
  constructor
  · rintro ⟨some, wordFree, before, after, split, last, first⟩
    rw [List.append_assoc] at split
    rcases List.append_eq_append_iff.mp split with ⟨between, rfl, later⟩ | ⟨between, rfl, later⟩
    · -- The word begins behind the first separator, which it does not hold.
      cases between with
      | nil =>
          obtain ⟨char, others, rfl⟩ := List.exists_cons_of_ne_nil some
          have same : tokenSeparator = char := (List.cons.inj later).1
          exact absurd (same ▸ List.mem_cons_self) wordFree
      | cons char between =>
          obtain ⟨-, rfl⟩ := List.cons.inj later
          refine .inr ⟨some, wordFree, between, after, by simp, ?_, first⟩
          intro char ending
          refine last char ?_
          rw [List.getLast?_append, List.getLast?_cons, Option.mem_def.mp ending]
          rfl
    · -- The word begins before the first separator, so at the very beginning.
      have beforeFree : tokenSeparator ∉ before := fun member =>
        free (List.mem_append_left _ member)
      have betweenFree : tokenSeparator ∉ between := fun member =>
        free (List.mem_append_right _ member)
      obtain rfl := eq_nil_of_getLast? beforeFree last
      rcases List.append_eq_append_iff.mp later with ⟨gap, rfl, behind⟩ | ⟨gap, rfl, behind⟩
      · cases gap with
        | nil => exact .inl ⟨by simpa using some, by simp⟩
        | cons char gap =>
            have separates : char = tokenSeparator := first char (by simp [behind])
            exact absurd (separates ▸ by simp) betweenFree
      · cases gap with
        | nil => exact .inl ⟨by simpa using some, by simp⟩
        | cons char gap =>
            have same : tokenSeparator = char := (List.cons.inj behind).1
            exact absurd (same ▸ by simp) wordFree
  · rintro (⟨some, rfl⟩ | ⟨some, wordFree, before, after, rfl, last, first⟩)
    · refine ⟨some, free, [], tokenSeparator :: rest, by simp, by simp, by simp⟩
    · refine ⟨some, wordFree, left ++ tokenSeparator :: before, after, by simp, ?_, first⟩
      intro char ending
      rw [List.getLast?_append, List.getLast?_cons] at ending
      cases beforeLast : before.getLast? with
      | none => simpa [beforeLast] using ending.symm
      | some other =>
          have same : other = char := by simpa [beforeLast] using ending
          exact last char (same ▸ beforeLast)

/-- A query is cut into its words. -/
theorem mem_piecesFrom_iff {offset : Nat} {piece query word : Text}
    (free : tokenSeparator ∉ piece) :
    word ∈ (piecesFrom offset piece query).map Prod.snd ↔ IsWord (piece.reverse ++ query) word := by
  induction query generalizing offset piece with
  | nil =>
      rw [List.append_nil, isWord_of_notMem (mt List.mem_reverse.mp free), piecesFrom]
      split
      · next none => simp [List.isEmpty_iff.mp none]
      · next some =>
          have letters : piece ≠ [] := by simpa using some
          simp [letters]
  | cons char rest ih =>
      rw [piecesFrom]
      split
      · next separates =>
          rw [separates, isWord_append_cons (mt List.mem_reverse.mp free)]
          split
          · next none =>
              rw [ih List.not_mem_nil, List.isEmpty_iff.mp none]
              simp
          · next some =>
              have letters : piece ≠ [] := by simpa using some
              rw [List.map_cons, List.mem_cons, ih List.not_mem_nil]
              simp [letters]
      · next inside =>
          have wider : tokenSeparator ∉ char :: piece :=
            mt List.mem_cons.mp (not_or.mpr ⟨Ne.symm inside, free⟩)
          rw [ih wider]
          simp

/-- The pieces of a cut query stand in its order: they are what separators leave of it, without the
empty ones. -/
theorem map_snd_piecesFrom {offset : Nat} {piece query : Text} (free : tokenSeparator ∉ piece) :
    (piecesFrom offset piece query).map Prod.snd
      = ((piece.reverse ++ query).splitOn tokenSeparator).filter fun word => !word.isEmpty := by
  have reversed : tokenSeparator ∉ piece.reverse := mt List.mem_reverse.mp free
  induction query generalizing offset piece with
  | nil =>
      rw [piecesFrom, List.append_nil, List.splitOn_eq_singleton reversed]
      split
      · next none => simp [none]
      · next some => simp [some]
  | cons char rest ih =>
      rw [piecesFrom]
      split
      · next separates =>
          have later : (piecesFrom (offset + 1) [] rest).map Prod.snd
              = (rest.splitOn tokenSeparator).filter fun word => !word.isEmpty :=
            ih List.not_mem_nil List.not_mem_nil
          rw [separates, List.splitOn_append_cons_self_of_not_mem reversed]
          split
          · next none => simp [later, none]
          · next some => simp [later, some]
      · next inside =>
          have wider : tokenSeparator ∉ char :: piece :=
            mt List.mem_cons.mp (not_or.mpr ⟨Ne.symm inside, free⟩)
          rw [ih wider (mt List.mem_reverse.mp wider)]
          simp

/-- A piece of a query: a word of it if it is cut, and else the query itself unless it is empty. -/
def IsPiece (tokenize : Bool) (query piece : Text) : Prop :=
  if tokenize then IsWord query piece else query ≠ [] ∧ piece = query

/-- The texts of the pieces are the pieces of the query. -/
theorem mem_pieceTexts_iff {options : MatchOptions} {query piece : Text} :
    piece ∈ pieceTexts options query ↔ IsPiece options.tokenize query piece := by
  rw [pieceTexts, queryPieces, IsPiece]
  split
  · exact mem_piecesFrom_iff List.not_mem_nil
  · split
    · next none => simp [List.isEmpty_iff.mp none]
    · next some =>
        have letters : query ≠ [] := by simpa using some
        simp [letters]

/-! ## Compiling -/

section

variable {options : MatchOptions} {room : Nat}

/-- The tokens of pieces are the pieces compiled one by one. -/
theorem forall₂_of_compilePieces {pieces : List (Nat × Text)} {tokens : List Token}
    (compiled : compilePieces options pieces room = .ok tokens) :
    List.Forall₂ (fun piece token => Token.compile options piece.1 piece.2 room = .ok token)
      pieces tokens := by
  induction pieces generalizing tokens with
  | nil =>
      obtain rfl := Except.ok.inj compiled
      exact .nil
  | cons piece rest ih =>
      obtain ⟨start, value⟩ := piece
      rw [compilePieces] at compiled
      cases first : Token.compile options start value room with
      | error failure =>
          rw [first] at compiled
          cases compiled
      | ok token =>
          rw [first] at compiled
          cases others : compilePieces options rest room with
          | error failure =>
              rw [others] at compiled
              cases compiled
          | ok later =>
              rw [others] at compiled
              obtain rfl := Except.ok.inj compiled
              exact .cons first (ih others)

theorem map_eq_ok_iff {ε α β : Type} {result : Except ε α} {change : α → β} {value : β} :
    result.map change = .ok value ↔ ∃ before, result = .ok before ∧ change before = value := by
  cases result <;> simp [Except.map]

theorem forall₂_tokens {query : Text} {tokens : TokenSet}
    (compiled : TokenSet.compile query options room = .ok tokens) :
    List.Forall₂ (fun piece token => Token.compile options piece.1 piece.2 room = .ok token)
      (queryPieces options query) tokens.tokens := by
  obtain ⟨all, pieces, rfl⟩ := map_eq_ok_iff.mp compiled
  exact forall₂_of_compilePieces pieces

/-- A token as a piece of its query. -/
def Token.piece (token : Token) : Nat × Text := (token.start, token.value)

/-- The tokens of a query are its pieces in their order. -/
theorem map_piece_tokens {query : Text} {tokens : TokenSet}
    (compiled : TokenSet.compile query options room = .ok tokens) :
    tokens.tokens.map Token.piece = queryPieces options query := by
  have same : List.Forall₂ (· = ·) (queryPieces options query)
      (tokens.tokens.map Token.piece) := by
    rw [List.forall₂_map_right_iff]
    refine (forall₂_tokens compiled).imp fun piece token here => ?_
    obtain ⟨pattern, -, rfl⟩ := map_eq_ok_iff.mp here
    rfl
  rw [List.forall₂_eq_eq_eq] at same
  exact same.symm

/-- A token of a query is a piece of it with its compiled pattern. -/
theorem compile_of_mem_tokens {query : Text} {tokens : TokenSet} {token : Token}
    (compiled : TokenSet.compile query options room = .ok tokens) (member : token ∈ tokens.tokens) :
    token.value ∈ pieceTexts options query ∧
      Pattern.compile token.value options.method options.caseSensitive room
        = .ok token.pattern := by
  obtain ⟨⟨index, inside⟩, rfl⟩ := List.get_of_mem member
  obtain ⟨sameLength, each⟩ := List.forall₂_iff_get.mp (forall₂_tokens compiled)
  have piece := each index (sameLength ▸ inside) inside
  obtain ⟨pattern, patternCompiled, token⟩ := map_eq_ok_iff.mp piece
  rw [← token]
  exact ⟨List.mem_map_of_mem (List.get_mem _ _), patternCompiled⟩

end

section

variable {options : MatchOptions} {means : Text → Text → Prop} {room : Nat}

/-- Pieces that compile into patterns with a known meaning become tokens, which occur together in
a text exactly if every piece means it. -/
theorem compilePieces_of_means {pieces : List (Nat × Text)}
    (compiles : ∀ piece ∈ pieces, ∃ pattern,
      Pattern.compile piece.2 options.method options.caseSensitive room = .ok pattern ∧
        ∀ text, pattern.occursIn text = true ↔ means piece.2 text) :
    ∃ tokens, compilePieces options pieces room = .ok tokens ∧
      ∀ text, (tokens.all fun token => token.pattern.occursIn text) = true ↔
        ∀ piece ∈ pieces, means piece.2 text := by
  induction pieces with
  | nil => exact ⟨[], rfl, by simp⟩
  | cons piece rest ih =>
      obtain ⟨⟨pattern, compiled, occurs⟩, later⟩ := List.forall_mem_cons.mp compiles
      obtain ⟨start, value⟩ := piece
      obtain ⟨tokens, others, accepts⟩ := ih later
      have token : Token.compile options start value room
          = .ok ⟨value, start, pattern, options.method⟩ := by
        rw [Token.compile, compiled]
        rfl
      refine ⟨_, by rw [compilePieces, token, others], fun text => ?_⟩
      rw [List.all_cons, Bool.and_eq_true, occurs, accepts, List.forall_mem_cons]

/-- If every text but the empty one compiles into a pattern with a known meaning, every query
compiles, and it accepts a text exactly if each of its pieces means it. -/
theorem compile_query (query : Text)
    (compiles : ∀ piece, piece ≠ [] → ∃ pattern,
      Pattern.compile piece options.method options.caseSensitive room = .ok pattern ∧
        ∀ text, pattern.occursIn text = true ↔ means piece text) :
    ∃ tokens, TokenSet.compile query options room = .ok tokens ∧
      ∀ text, tokens.accepts text = true ↔
        ∀ piece ∈ pieceTexts options query, means piece text := by
  have each : ∀ piece ∈ queryPieces options query, ∃ pattern,
      Pattern.compile piece.2 options.method options.caseSensitive room = .ok pattern ∧
        ∀ text, pattern.occursIn text = true ↔ means piece.2 text :=
    fun piece member => compiles piece.2 (ne_nil_of_mem_pieceTexts (List.mem_map_of_mem member))
  obtain ⟨tokens, compiled, accepts⟩ := compilePieces_of_means each
  refine ⟨⟨query, options, tokens⟩, by rw [TokenSet.compile, compiled]; rfl, fun text => ?_⟩
  rw [TokenSet.accepts, accepts, pieceTexts, List.forall_mem_map]

end

end Winnow
