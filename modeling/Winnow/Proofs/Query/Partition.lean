import Winnow.Proofs.Candidates.Lines
import Winnow.Proofs.Query.Composing

/-!
# Tokens partition a query

A word stands at a place of a query if nothing but separators or the ends of the query
are around it (`IsWordAt`). The pieces of a query that is cut are words at their
places, they do not touch, and every character but the separators lies in one of them
(`Partitions`). Cutting at the first separator leaves one word at most and a query of
its own behind it, so this is shown separator by separator (`Partitions.behind`,
`partitions_piecesFrom`). The tokens of a query are its pieces (`map_piece_tokens`), so
the same holds of them (`compile_partitions`).
-/

namespace Winnow

/-! ## Words at their places -/

/-- A word stands at a place of a query: its characters are no separators, and a character next to
them is one. -/
structure IsWordAt (query : Text) (start : Nat) (word : Text) : Prop where
  slice : (query.drop start).take word.length = word
  stop_le : start + word.length ≤ query.length
  nonempty : word ≠ []
  free : tokenSeparator ∉ word
  before : ∀ place, place + 1 = start → query[place]? = some tokenSeparator
  behind : ∀ char, query[start + word.length]? = some char → char = tokenSeparator

section

variable {left rest query word : Text} {start : Nat}

theorem getElem?_behind (left rest : Text) (place : Nat) :
    (left ++ tokenSeparator :: rest)[place + (left.length + 1)]? = rest[place]? := by
  rw [List.getElem?_append_right (by omega)]
  have inside : place + (left.length + 1) - left.length = place + 1 := by omega
  rw [inside, List.getElem?_cons_succ]

/-- A text without separators is a word by itself. -/
theorem isWordAt_self (nonempty : word ≠ []) (free : tokenSeparator ∉ word) :
    IsWordAt word 0 word where
  slice := by simp
  stop_le := by simp
  nonempty := nonempty
  free := free
  before := by simp
  behind := by simp

/-- What stands in front of the first separator is a word unless it is empty. -/
theorem isWordAt_front (nonempty : left ≠ []) (free : tokenSeparator ∉ left) (rest : Text) :
    IsWordAt (left ++ tokenSeparator :: rest) 0 left where
  slice := by simp
  stop_le := by simp
  nonempty := nonempty
  free := free
  before := by simp
  behind := by simp [eq_comm]

/-- A word of what stands behind a separator is a word, further behind. -/
theorem IsWordAt.shift (here : IsWordAt rest start word) (left : Text) :
    IsWordAt (left ++ tokenSeparator :: rest) (start + (left.length + 1)) word where
  slice := by
    have behind : (left ++ tokenSeparator :: rest).drop (start + (left.length + 1))
        = rest.drop start := by
      rw [Nat.add_comm start, ← List.drop_drop, ← List.drop_drop, List.drop_left]
      rfl
    rw [behind, here.slice]
  stop_le := by
    have inside := here.stop_le
    simp
    omega
  nonempty := here.nonempty
  free := here.free
  before := by
    intro place next
    cases start with
    | zero =>
        obtain rfl : place = left.length := by omega
        simp
    | succ start =>
        obtain rfl : place = start + (left.length + 1) := by omega
        rw [getElem?_behind]
        exact here.before start rfl
  behind := by
    intro char found
    rw [Nat.add_right_comm, getElem?_behind] at found
    exact here.behind char found

end

/-! ## Pieces -/

/-- Pieces at their places are the words of a query: they do not touch, and every character but the
separators lies in one of them. -/
structure Partitions (query : Text) (pieces : List (Nat × Text)) : Prop where
  words : ∀ piece ∈ pieces, IsWordAt query piece.1 piece.2
  apart : pieces.Pairwise fun left right => left.1 + left.2.length < right.1
  covers : ∀ place char, query[place]? = some char → char ≠ tokenSeparator →
    ∃ piece ∈ pieces, piece.1 ≤ place ∧ place < piece.1 + piece.2.length

section

variable {left rest : Text} {pieces : List (Nat × Text)}

/-- A text without separators is its only piece. -/
theorem partitions_of_notMem {query : Text} (free : tokenSeparator ∉ query) :
    Partitions query (if query = [] then [] else [(0, query)]) := by
  split
  · next none =>
      subst none
      exact ⟨List.forall_mem_nil _, .nil, by simp⟩
  · next some =>
      refine ⟨List.forall_mem_singleton.mpr (isWordAt_self some free),
        List.pairwise_singleton _ _, fun place char found _ => ?_⟩
      have inside := (List.getElem?_eq_some_iff.mp found).1
      exact ⟨_, List.mem_singleton_self _, Nat.zero_le _, by simpa using inside⟩

/-- Behind a separator there are the pieces of what stands there, further behind. -/
theorem Partitions.behind (free : tokenSeparator ∉ left) (all : Partitions rest pieces) :
    Partitions (left ++ tokenSeparator :: rest)
      ((if left = [] then [] else [(0, left)])
        ++ pieces.map (Prod.map (· + (left.length + 1)) id)) where
  words := by
    intro piece member
    rcases List.mem_append.mp member with front | further
    · split at front
      · cases front
      · next some =>
          obtain rfl := List.mem_singleton.mp front
          exact isWordAt_front some free rest
    · obtain ⟨piece, inside, rfl⟩ := List.mem_map.mp further
      exact (all.words piece inside).shift left
  apart := by
    rw [List.pairwise_append]
    refine ⟨?_, ?_, ?_⟩
    · split <;> simp
    · rw [List.pairwise_map]
      refine all.apart.imp fun {first second} before => ?_
      simp
      omega
    · intro first front second further
      obtain ⟨piece, -, rfl⟩ := List.mem_map.mp further
      split at front
      · cases front
      · obtain rfl := List.mem_singleton.mp front
        simp
        omega
  covers := by
    intro place char found other
    by_cases front : place < left.length
    · refine ⟨(0, left), ?_, Nat.zero_le _, by simpa using front⟩
      have some : left ≠ [] := List.ne_nil_of_length_pos (by omega)
      simp [some]
    by_cases joint : place = left.length
    · rw [joint, List.getElem?_append_right (Nat.le_refl _), Nat.sub_self] at found
      exact absurd (Option.some.inj found).symm other
    obtain ⟨further, rfl⟩ : ∃ further, place = further + (left.length + 1) :=
      ⟨place - (left.length + 1), by omega⟩
    rw [getElem?_behind] at found
    obtain ⟨piece, member, begins, ends⟩ := all.covers further char found other
    refine ⟨Prod.map (· + (left.length + 1)) id piece,
      List.mem_append_right _ (List.mem_map_of_mem member), ?_, ?_⟩
    · simp
      omega
    · simp
      omega

/-- A query without separators is its only piece, whatever was read of it. -/
theorem piecesFrom_of_notMem {query : Text} (free : tokenSeparator ∉ query) (offset : Nat)
    (piece : Text) :
    piecesFrom offset piece query
      = if piece.reverse ++ query = [] then []
        else [(offset - piece.length, piece.reverse ++ query)] := by
  induction query generalizing offset piece with
  | nil => simp [piecesFrom]
  | cons char query ih =>
      obtain ⟨other, later⟩ := not_or.mp (mt List.mem_cons.mpr free)
      rw [piecesFrom, if_neg (Ne.symm other), ih later]
      simp

/-- The pieces of a query are its words. -/
theorem partitions_piecesFrom (query : Text) : Partitions query (piecesFrom 0 [] query) := by
  induction query using separatedInduction tokenSeparator with
  | last query free =>
      rw [piecesFrom_of_notMem free]
      exact partitions_of_notMem free
  | cons left rest free ih =>
      rw [piecesFrom_append, Nat.add_assoc, piecesFrom_shift _ _ (Nat.le_refl 0),
        piecesFrom_of_notMem free]
      exact ih.behind free

/-- There are no pieces exactly if a query holds nothing but separators. -/
theorem Partitions.eq_nil_iff {query : Text} (parts : Partitions query pieces) :
    pieces = [] ↔ ∀ char ∈ query, char = tokenSeparator := by
  constructor
  · rintro rfl char member
    by_contra other
    obtain ⟨place, found⟩ := List.mem_iff_getElem?.mp member
    obtain ⟨piece, none, -⟩ := parts.covers place char found other
    cases none
  · intro separators
    by_contra some
    obtain ⟨piece, member⟩ := List.exists_mem_of_ne_nil _ some
    have word := parts.words piece member
    obtain ⟨char, inside⟩ := List.exists_mem_of_ne_nil _ word.nonempty
    have slice : char ∈ (query.drop piece.1).take piece.2.length := by rwa [word.slice]
    have separates := separators char (List.mem_of_mem_drop (List.mem_of_mem_take slice))
    exact word.free (separates ▸ inside)

end

/-! ## Tokens -/

/-- A place lies in one token only if the tokens do not touch. -/
theorem eq_of_place_mem {tokens : List Token} {place first second : Nat} {left right : Token}
    (apart : tokens.Pairwise fun left right => left.stop < right.start)
    (atFirst : tokens[first]? = some left) (atSecond : tokens[second]? = some right)
    (inLeft : left.start ≤ place ∧ place < left.stop)
    (inRight : right.start ≤ place ∧ place < right.stop) : first = second := by
  obtain ⟨firstInside, rfl⟩ := List.getElem?_eq_some_iff.mp atFirst
  obtain ⟨secondInside, rfl⟩ := List.getElem?_eq_some_iff.mp atSecond
  rcases Nat.lt_trichotomy first second with before | same | after
  · have gap := List.pairwise_iff_getElem.mp apart first second firstInside secondInside before
    omega
  · exact same
  · have gap := List.pairwise_iff_getElem.mp apart second first secondInside firstInside after
    omega

/-- The tokens of a query that is cut partition it. They stand from left to right without touching
each other; each of them is the part of the query between its offsets, is not empty, holds no
separator and has one on either side unless the query ends there; and every other character lies in
exactly one of them. So their texts are what separators leave of the query without the empty ones,
and there are none exactly if the query holds nothing but separators. A query that is not cut is its
only token unless it is empty. -/
theorem compile_partitions {query : Text} {options : MatchOptions} {tokens : TokenSet}
    (compiled : TokenSet.compile query options = .ok tokens) :
    (options.tokenize = true →
      (tokens.tokens.Pairwise fun left right => left.stop < right.start) ∧
      (∀ token ∈ tokens.tokens,
        token.start < token.stop ∧ IsWordAt query token.start token.value) ∧
      (∀ place char, query[place]? = some char → char ≠ tokenSeparator →
        ∃! index : Nat, ∃ token : Token, tokens.tokens[index]? = some token ∧
          token.start ≤ place ∧ place < token.stop) ∧
      tokens.tokens.map Token.value
        = ((query.splitOn tokenSeparator).filter fun word => !word.isEmpty) ∧
      (tokens.tokens = [] ↔ ∀ char ∈ query, char = tokenSeparator)) ∧
    (options.tokenize = false →
      (tokens.tokens.map fun token => (token.start, token.stop, token.value))
        = if query = [] then [] else [(0, query.length, query)]) := by
  have pieces := map_piece_tokens compiled
  constructor
  · intro cut
    rw [queryPieces, if_pos cut] at pieces
    have parts : Partitions query (tokens.tokens.map Token.piece) :=
      pieces ▸ partitions_piecesFrom query
    have apart : tokens.tokens.Pairwise fun left right => left.stop < right.start :=
      List.pairwise_map.mp parts.apart
    have covers : ∀ place char, query[place]? = some char → char ≠ tokenSeparator →
        ∃ (index : Nat) (token : Token), tokens.tokens[index]? = some token ∧
          token.start ≤ place ∧ place < token.stop := by
      intro place char found other
      obtain ⟨piece, member, inside⟩ := parts.covers place char found other
      obtain ⟨token, tokenMember, rfl⟩ := List.mem_map.mp member
      obtain ⟨index, named⟩ := List.mem_iff_getElem?.mp tokenMember
      exact ⟨index, token, named, inside⟩
    refine ⟨apart, fun token member => ?_, fun place char found other => ?_, ?_,
      List.map_eq_nil_iff.symm.trans parts.eq_nil_iff⟩
    · have word := parts.words _ (List.mem_map_of_mem member)
      exact ⟨Nat.lt_add_of_pos_right (List.length_pos_of_ne_nil word.nonempty), word⟩
    · obtain ⟨index, token, named, inside⟩ := covers place char found other
      refine ⟨index, ⟨token, named, inside⟩, ?_⟩
      rintro another ⟨_, alsoNamed, alsoInside⟩
      exact eq_of_place_mem apart alsoNamed named alsoInside inside
    · rw [map_value_tokens compiled, pieceTexts, queryPieces, if_pos cut]
      exact map_snd_piecesFrom List.not_mem_nil
  · intro whole
    have uncut : ¬options.tokenize = true := by simp [whole]
    have places : (tokens.tokens.map fun token => (token.start, token.stop, token.value))
        = (tokens.tokens.map Token.piece).map fun piece =>
            (piece.1, piece.1 + piece.2.length, piece.2) := by
      rw [List.map_map]
      rfl
    rw [places, pieces, queryPieces, if_neg uncut]
    by_cases none : query = [] <;> simp [none]

/-- A regular expression that is malformed, a tabulator, which separates nothing, and separators on
all sides. -/
theorem compile_partitions_malformed :
    ∃ tokens, TokenSet.compile "  a(\tb  c ".toList ⟨.regex, false, true⟩ = .ok tokens ∧
      (⟨.regex, false, true⟩ : MatchOptions).tokenize = true ∧
      tokens.tokens.map Token.value = ["a(\tb".toList, ['c']] ∧
      ∃! index : Nat, ∃ token : Token, tokens.tokens[index]? = some token ∧
        token.start ≤ 8 ∧ 8 < token.stop := by
  have compiles : (TokenSet.compile "  a(\tb  c ".toList ⟨.regex, false, true⟩).isOk = true := by
    decide +kernel
  cases compiled : TokenSet.compile "  a(\tb  c ".toList ⟨.regex, false, true⟩ with
  | error failure =>
      rw [compiled] at compiles
      cases compiles
  | ok tokens =>
      obtain ⟨-, -, covered, values, -⟩ := (compile_partitions compiled).1 rfl
      exact ⟨tokens, rfl, rfl, values.trans (by decide), covered 8 'c' (by decide) (by decide)⟩

end Winnow
