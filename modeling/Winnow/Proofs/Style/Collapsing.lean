import Winnow.Proofs.Query.Glob
import Winnow.Proofs.Style.Placement

/-!
# Texts that a method takes literally

On a text without the characters that it reads as more than themselves
(`Method.TakesLiterally`) a method makes no difference. A glob without wildcards has the
source of the literal text. A regular expression without metacharacters is read as the
escaped text is, although that has a backslash before more characters than those. And a
fuzzy pattern of one character puts a group around it, which is not shown by itself. So
each of them compiles into a pattern that covers the same as the literal one
(`compile_alike`), and the queries accept and highlight the same (`compile_literally`).
-/

namespace Winnow

open Regex

/-- The texts in which a method reads every character as nothing but itself: globs without
wildcards, regular expressions without metacharacters, and single characters for fuzzy matching,
which would skip characters between two of them. -/
def Method.TakesLiterally (text : Text) : Method → Prop
  | .literal => True
  | .glob => '*' ∉ text ∧ '?' ∉ text
  | .regex => ∀ char ∈ text, char ∉ metacharacters
  | .fuzzy => text.length = 1

instance (text : Text) : (method : Method) → Decidable (method.TakesLiterally text)
  | .literal => inferInstanceAs (Decidable True)
  | .glob => inferInstanceAs (Decidable ('*' ∉ text ∧ '?' ∉ text))
  | .regex => List.decidableBAll (· ∉ metacharacters) text
  | .fuzzy => inferInstanceAs (Decidable (text.length = 1))

/-- Two patterns are alike: both of them show whole matches, and in every text they cover the
same. -/
structure Pattern.Alike (left right : Pattern) : Prop where
  covers : ∀ chars, Node.CoversAlike chars left.program.node right.program.node
  groups_left : left.groups ≤ 1
  groups_right : right.groups ≤ 1

/-! ## Patterns -/

section

variable {left right : Pattern}

theorem Pattern.Alike.occursIn (alike : left.Alike right) (text : Text) :
    left.occursIn text = right.occursIn text := by
  have found := congrArg Option.isSome (alike.covers text.toArray).search
  rwa [Option.isSome_map, Option.isSome_map] at found

theorem Pattern.Alike.tokenSpans (alike : left.Alike right) (text : Text) (style : Style)
    (index : Nat) :
    Winnow.tokenSpans left text style index = Winnow.tokenSpans right text style index := by
  rw [tokenSpans_of_groups_le alike.groups_left, tokenSpans_of_groups_le alike.groups_right,
    (alike.covers text.toArray).allMatches]

theorem Pattern.alike_of_node_eq (same : left.program.node = right.program.node)
    (leftNone : left.groups = 0) (rightNone : right.groups = 0) : left.Alike right where
  covers chars mustAdvance start := by rw [same]
  groups_left := leftNone ▸ Nat.zero_le 1
  groups_right := rightNone ▸ Nat.zero_le 1

end

/-- A group around a test on one character covers that character. -/
theorem coversAlike_capture_char (chars : Array Char) (group : Nat) (test : CharTest) :
    Node.CoversAlike chars (.capture group (.char test)) (.char test) := by
  intro mustAdvance start
  rw [Node.matchAt, Node.matchAt, Node.run_capture, Node.run_char, Node.run_char]
  cases chars[start]? with
  | none => rfl
  | some found =>
      by_cases passed : test.accepts found = true
      · simp only [passed, if_true]
        by_cases stuck : (mustAdvance && start + 1 == start) = true <;>
          simp [MatchState.record, MatchState.advance, stuck, Match.span]
      · simp [passed]

theorem map_ofGlob_of_notMem {glob : Text} (noStar : '*' ∉ glob) (noQuestion : '?' ∉ glob) :
    glob.map FlatItem.ofGlob = glob.map .literal := by
  refine List.map_congr_left fun char member => ?_
  have star : char ≠ '*' := fun same => noStar (same ▸ member)
  have question : char ≠ '?' := fun same => noQuestion (same ▸ member)
  rw [FlatItem.ofGlob, if_neg star, if_neg question]

/-- A text that a method takes literally is compiled as written, into a pattern that is like the
literal one. -/
theorem compile_alike {method : Method} {text : Text} (plain : method.TakesLiterally text)
    (caseSensitive : Bool) :
    ∃ pattern, Pattern.compile text method caseSensitive = .ok pattern ∧
      pattern.rejected = none ∧ pattern.Alike (literalPattern text caseSensitive) := by
  cases method with
  | literal =>
      exact ⟨_, compile_literalPattern text caseSensitive, rfl, Pattern.alike_of_node_eq rfl rfl rfl⟩
  | glob =>
      obtain ⟨noStar, noQuestion⟩ := plain
      refine ⟨literalPattern text caseSensitive, ?_, rfl, Pattern.alike_of_node_eq rfl rfl rfl⟩
      rw [Pattern.compile, globSource_eq_flatSource, map_ofGlob_of_notMem noStar noQuestion,
        ofSource_flat, literalPattern]
  | regex =>
      refine ⟨{ literalPattern text caseSensitive with source := text }, ?_, rfl,
        Pattern.alike_of_node_eq rfl rfl rfl⟩
      rw [Pattern.compile, ofSource_plainText plain]
  | fuzzy =>
      obtain ⟨char, rfl⟩ := List.length_eq_one_iff.mp plain
      refine ⟨_, compile_fuzzyPattern char [] caseSensitive, rfl, ?_, Nat.le_refl 1, Nat.zero_le 1⟩
      exact fun chars => coversAlike_capture_char chars 1 _

/-! ## Queries -/

/-- What a method takes literally is taken literally piece by piece. -/
theorem takesLiterally_of_mem_pieceTexts {method : Method} {query piece : Text}
    {options : MatchOptions} (plain : method.TakesLiterally query)
    (member : piece ∈ pieceTexts options query) : method.TakesLiterally piece := by
  have inside : ∀ char ∈ piece, char ∈ query := fun _ => mem_query_of_mem_pieceTexts member
  cases method with
  | literal => trivial
  | glob => exact ⟨mt (inside _) plain.1, mt (inside _) plain.2⟩
  | regex => exact fun char here => plain char (inside char here)
  | fuzzy =>
      have letters : 0 < piece.length := List.length_pos_of_ne_nil (ne_nil_of_mem_pieceTexts member)
      have short : piece.length ≤ query.length :=
        (List.sublist_flatten_of_mem member).length_le.trans
          (length_flatten_pieceTexts_le options query)
      have one : query.length = 1 := plain
      show piece.length = 1
      omega

/-- Pieces that a method takes literally become tokens whose patterns are like the literal ones. -/
theorem compilePieces_alike {method : Method} {pieces : List (Nat × Text)}
    (plain : ∀ piece ∈ pieces, method.TakesLiterally piece.2) (caseSensitive tokenize : Bool) :
    ∃ tokens literals, compilePieces ⟨method, caseSensitive, tokenize⟩ pieces = .ok tokens ∧
      compilePieces ⟨.literal, caseSensitive, tokenize⟩ pieces = .ok literals ∧
      List.Forall₂ (fun token literal => token.pattern.Alike literal.pattern) tokens literals := by
  induction pieces with
  | nil => exact ⟨[], [], rfl, rfl, .nil⟩
  | cons piece pieces ih =>
      obtain ⟨here, others⟩ := List.forall_mem_cons.mp plain
      obtain ⟨start, value⟩ := piece
      obtain ⟨pattern, compiled, -, alike⟩ := compile_alike here caseSensitive
      obtain ⟨tokens, literals, all, allLiterally, allAlike⟩ := ih others
      have token : Token.compile ⟨method, caseSensitive, tokenize⟩ start value
          = .ok ⟨value, start, pattern, method⟩ := by
        rw [Token.compile, compiled]
        rfl
      have literal : Token.compile ⟨.literal, caseSensitive, tokenize⟩ start value
          = .ok ⟨value, start, literalPattern value caseSensitive, .literal⟩ := by
        rw [Token.compile, compile_literalPattern]
        rfl
      refine ⟨⟨value, start, pattern, method⟩ :: tokens,
        ⟨value, start, literalPattern value caseSensitive, .literal⟩ :: literals, ?_, ?_,
        .cons alike allAlike⟩
      · rw [compilePieces, token, all]
      · rw [compilePieces, literal, allLiterally]

section

variable {tokens literals : List Token}

/-- Tokens with patterns that are alike occur in the same texts. -/
theorem all_occursIn_of_alike
    (alike : List.Forall₂ (fun token literal => token.pattern.Alike literal.pattern)
      tokens literals) (text : Text) :
    (tokens.all fun token => token.pattern.occursIn text)
      = literals.all fun literal => literal.pattern.occursIn text := by
  induction alike with
  | nil => rfl
  | cons here _ ih => rw [List.all_cons, List.all_cons, here.occursIn, ih]

/-- Tokens with patterns that are alike have the same spans. -/
theorem spansFrom_of_alike
    (alike : List.Forall₂ (fun token literal => token.pattern.Alike literal.pattern)
      tokens literals) (text : Text) (style : Style) (index : Nat) :
    spansFrom text style index tokens = spansFrom text style index literals := by
  induction alike generalizing index with
  | nil => rfl
  | cons here _ ih => rw [spansFrom, spansFrom, here.tokenSpans, ih]

end

/-- On a text that a method takes literally, the method makes no difference. The text is compiled
as written, and in every candidate the pattern finds the stretch that the literal pattern finds,
and matches and highlights the same stretches. As a query the text compiles as well, cut into
words or not, and accepts and highlights the same as the literal query. -/
theorem compile_literally {method : Method} {text : Text} (plain : method.TakesLiterally text)
    (caseSensitive : Bool) :
    (∃ pattern literal, Pattern.compile text method caseSensitive = .ok pattern ∧
      Pattern.compile text .literal caseSensitive = .ok literal ∧ pattern.rejected = none ∧
      ∀ candidate : Text,
        (pattern.program.node.search candidate.toArray).map Match.span
          = (literal.program.node.search candidate.toArray).map Match.span ∧
        (pattern.program.node.allMatches candidate.toArray).map Match.span
          = (literal.program.node.allMatches candidate.toArray).map Match.span ∧
        ∀ style index,
          tokenSpans pattern candidate style index = tokenSpans literal candidate style index) ∧
    ∀ tokenize, ∃ tokens literals,
      TokenSet.compile text ⟨method, caseSensitive, tokenize⟩ = .ok tokens ∧
      TokenSet.compile text ⟨.literal, caseSensitive, tokenize⟩ = .ok literals ∧
      ∀ candidate : Text, tokens.accepts candidate = literals.accepts candidate ∧
        ∀ style, tokens.highlight candidate style = literals.highlight candidate style := by
  constructor
  · obtain ⟨pattern, compiled, written, alike⟩ := compile_alike plain caseSensitive
    exact ⟨pattern, _, compiled, compile_literalPattern text caseSensitive, written,
      fun candidate => ⟨(alike.covers _).search, (alike.covers _).allMatches,
        fun style index => alike.tokenSpans candidate style index⟩⟩
  · intro tokenize
    have pieces : ∀ piece ∈ queryPieces ⟨method, caseSensitive, tokenize⟩ text,
        method.TakesLiterally piece.2 :=
      fun piece member => takesLiterally_of_mem_pieceTexts plain (List.mem_map_of_mem member)
    obtain ⟨tokens, literals, all, allLiterally, alike⟩ :=
      compilePieces_alike pieces caseSensitive tokenize
    have samePieces : queryPieces ⟨.literal, caseSensitive, tokenize⟩ text
        = queryPieces ⟨method, caseSensitive, tokenize⟩ text := rfl
    refine ⟨⟨text, ⟨method, caseSensitive, tokenize⟩, tokens⟩,
      ⟨text, ⟨.literal, caseSensitive, tokenize⟩, literals⟩, ?_, ?_, fun candidate => ?_⟩
    · rw [TokenSet.compile, all]
      rfl
    · rw [TokenSet.compile, samePieces, allLiterally]
      rfl
    · exact ⟨all_occursIn_of_alike alike candidate,
        fun style => spansFrom_of_alike alike candidate style 0⟩

/-- A regular expression with characters that are escaped in a literal text, but have no meaning of
their own. -/
theorem compile_literally_escaped :
    Method.TakesLiterally "a-b\t#~ &".toList .regex ∧
      ∃ tokens literals,
        TokenSet.compile "a-b\t#~ &".toList ⟨.regex, false, true⟩ = .ok tokens ∧
        TokenSet.compile "a-b\t#~ &".toList ⟨.literal, false, true⟩ = .ok literals ∧
        ∀ candidate : Text, tokens.accepts candidate = literals.accepts candidate ∧
          ∀ style, tokens.highlight candidate style = literals.highlight candidate style := by
  have plain : Method.TakesLiterally "a-b\t#~ &".toList .regex := by decide
  exact ⟨plain, (compile_literally plain false).2 true⟩

end Winnow
