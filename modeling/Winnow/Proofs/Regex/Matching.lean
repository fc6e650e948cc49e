import Winnow.Regex.Program
import Mathlib.Data.List.Forall2

/-!
# What a pattern leads to

For a pattern without references to its groups only what is left of the text
matters. Such a pattern is a path from what is left before to what is left
behind (`Runner.Leads`): it runs successfully into a continuation exactly if
its path ends where the continuation is satisfied. Backtracking and the order
of preference disappear in this view. Every kind of node has one lemma, and
`Node.search_isSome_iff` reads a search off the path.
-/

namespace Winnow.Regex

/-- A part of a pattern leads exactly along a path between what is left of a text. -/
def Runner.Leads (text : Text) (run : Runner) (path : Text → Text → Prop) : Prop :=
  ∀ (state : MatchState) (next : Continuation) (good : Text → Prop),
    (∀ later, (next later).isSome = true ↔ good (text.drop later.offset)) →
    ((run state next).isSome = true ↔ ∃ after, path (text.drop state.offset) after ∧ good after)

/-- The path of a test on one character. -/
def CharTest.path (test : CharTest) (before after : Text) : Prop :=
  ∃ found, before = found :: after ∧ test.accepts found = true

/-- The path of one part behind another one. -/
def followedBy (first second : Text → Text → Prop) (before after : Text) : Prop :=
  ∃ middle, first before middle ∧ second middle after

/-- The path of as many characters as one likes that pass a test. -/
def CharTest.runPath (test : CharTest) (before after : Text) : Prop :=
  ∃ run, before = run ++ after ∧ ∀ found ∈ run, test.accepts found = true

variable {text : Text}

/-- The character at an offset is the first one of what is left there. -/
theorem drop_eq_cons_iff {offset : Nat} {found : Char} :
    text[offset]? = some found ↔ text.drop offset = found :: text.drop (offset + 1) := by
  constructor
  · intro here
    obtain ⟨inside, rfl⟩ := List.getElem?_eq_some_iff.mp here
    exact List.drop_eq_getElem_cons inside
  · intro left
    have first : (text.drop offset)[0]? = some found := by rw [left]; rfl
    simpa using first

theorem CharTest.eq_drop_of_path {test : CharTest} {offset : Nat} {middle : Text}
    (passed : test.path (text.drop offset) middle) : middle = text.drop (offset + 1) := by
  obtain ⟨found, left, -⟩ := passed
  rw [← List.tail_drop, left, List.tail_cons]

/-! ## Nodes -/

section

variable (chars : Array Char) (state : MatchState) (next : Continuation)

theorem Node.run_empty : Node.empty.run chars state next = next state := rfl

theorem Node.run_char (test : CharTest) : (Node.char test).run chars state next
    = match chars[state.offset]? with
      | some found => if test.accepts found then next (state.advance 1) else none
      | none => none := rfl

theorem Node.run_seq (first second : Node) : (Node.seq first second).run chars state next
    = first.run chars state fun later => second.run chars later next := rfl

theorem Node.run_capture (group : Nat) (body : Node) :
    (Node.capture group body).run chars state next
      = body.run chars state fun later => next (later.record group state.offset) := rfl

theorem Node.run_position (test : Position) : (Node.position test).run chars state next
    = if test.holds chars state.offset then next state else none := rfl

/-- A reference runs past what its group has matched if the same comes again. -/
theorem Node.run_backreference (group : Nat) (rule : CaseRule) :
    (Node.backreference group rule).run chars state next
      = match state.captureOf? group with
        | some earlier =>
          if sameText chars rule earlier.start state.offset (earlier.stop - earlier.start) then
            next (state.advance (earlier.stop - earlier.start))
          else none
        | none => none := rfl

theorem Node.run_alt (first second : Node) : (Node.alt first second).run chars state next
    = match first.run chars state next with
      | some final => some final
      | none => second.run chars state next := rfl

theorem Node.run_atomic (body : Node) : (Node.atomic body).run chars state next
    = match body.run chars state some with
      | some later => next later
      | none => none := rfl

/-- A look runs its contents and goes back to where it began. -/
theorem Node.run_look (negated : Bool) (behind : Nat) (body : Node) :
    (Node.look negated behind body).run chars state next
      = match (if behind ≤ state.offset then
            body.run chars { state with offset := state.offset - behind } some
          else none), negated with
        | some later, false => next { later with offset := state.offset }
        | none, true => next state
        | _, _ => none := rfl

theorem Node.run_conditional (group : Nat) (present absent : Node) :
    (Node.conditional group present absent).run chars state next
      = if (state.captureOf? group).isSome then present.run chars state next
        else absent.run chars state next := rfl

theorem Node.run_repetition (greed : Greed) (least : Nat) (most : Option Nat) (body : Node) :
    (Node.repetition greed least most body).run chars state next
      = Runner.repetition (body.run chars) greed least most chars.size state next := rfl

end

theorem leads_empty : Runner.Leads text (Node.empty.run text.toArray) (· = ·) := by
  intro state next good decides
  rw [Node.run_empty, decides]
  simp

/-- A test leads past a character that it accepts. -/
theorem leads_char (test : CharTest) :
    Runner.Leads text ((Node.char test).run text.toArray) test.path := by
  intro state next good decides
  rw [Node.run_char, List.getElem?_toArray]
  cases here : text[state.offset]? with
  | none =>
      have nothing : text.drop state.offset = [] := by simpa using here
      simp [CharTest.path, nothing]
  | some found =>
      have left := drop_eq_cons_iff.mp here
      dsimp only
      split
      · next accepted =>
          rw [decides]
          constructor
          · intro behind
            exact ⟨_, ⟨found, left, accepted⟩, behind⟩
          · rintro ⟨after, ⟨other, same, -⟩, behind⟩
            rw [left] at same
            obtain ⟨-, rfl⟩ := List.cons.inj same
            exact behind
      · next rejected =>
          constructor
          · intro impossible
            cases impossible
          · rintro ⟨after, ⟨other, same, accepted⟩, -⟩
            rw [left] at same
            obtain ⟨rfl, -⟩ := List.cons.inj same
            exact absurd accepted rejected

/-- One pattern leads on from where another one leads to. -/
theorem leads_seq {first second : Node} {firstPath secondPath : Text → Text → Prop}
    (firstLeads : Runner.Leads text (first.run text.toArray) firstPath)
    (secondLeads : Runner.Leads text (second.run text.toArray) secondPath) :
    Runner.Leads text ((Node.seq first second).run text.toArray)
      (followedBy firstPath secondPath) := by
  intro state next good decides
  have behind : ∀ later, (second.run text.toArray later next).isSome = true ↔
      ∃ after, secondPath (text.drop later.offset) after ∧ good after :=
    fun later => secondLeads later next good decides
  rw [Node.run_seq,
    firstLeads state _ (fun left => ∃ after, secondPath left after ∧ good after) behind]
  constructor
  · rintro ⟨middle, one, after, two, satisfied⟩
    exact ⟨after, ⟨middle, one, two⟩, satisfied⟩
  · rintro ⟨after, ⟨middle, one, two⟩, satisfied⟩
    exact ⟨middle, one, after, two, satisfied⟩

theorem leads_capture {body : Node} {path : Text → Text → Prop} (group : Nat)
    (bodyLeads : Runner.Leads text (body.run text.toArray) path) :
    Runner.Leads text ((Node.capture group body).run text.toArray) path := by
  intro state next good decides
  rw [Node.run_capture]
  exact bodyLeads state _ good fun later => decides (later.record group state.offset)

/-- A run of characters is empty or begins with one that is accepted. -/
theorem CharTest.runPath_iff {test : CharTest} {before after : Text} :
    test.runPath before after ↔
      before = after ∨ ∃ middle, test.path before middle ∧ test.runPath middle after := by
  constructor
  · rintro ⟨run, rfl, accepted⟩
    cases run with
    | nil => exact .inl rfl
    | cons found run =>
        obtain ⟨here, later⟩ := List.forall_mem_cons.mp accepted
        exact .inr ⟨run ++ after, ⟨found, rfl, here⟩, run, rfl, later⟩
  · rintro (rfl | ⟨middle, ⟨found, rfl, here⟩, run, rfl, later⟩)
    · exact ⟨[], rfl, fun _ member => absurd member List.not_mem_nil⟩
    · exact ⟨found :: run, rfl, List.forall_mem_cons.mpr ⟨here, later⟩⟩

/-- A greedy round of a test succeeds with one more character, or it ends the rounds. -/
theorem greedy_succ_isSome_iff (test : CharTest) (rounds : Nat) {from? : Option Nat}
    {state : MatchState} {next : Continuation} (moved : from? ≠ some state.offset) :
    (Runner.greedy ((Node.char test).run text.toArray) (rounds + 1) from? state next).isSome
        = true ↔
      (∃ middle, test.path (text.drop state.offset) middle ∧
          (Runner.greedy ((Node.char test).run text.toArray) rounds (some state.offset)
            (state.advance 1) next).isSome = true) ∨
        (next state).isSome = true := by
  rw [Runner.greedy, if_neg moved, Node.run_char, List.getElem?_toArray]
  cases here : text[state.offset]? with
  | none =>
      have nothing : text.drop state.offset = [] := by simpa using here
      simp [CharTest.path, nothing]
  | some found =>
      have left := drop_eq_cons_iff.mp here
      by_cases accepted : test.accepts found = true
      · have passes : test.path (text.drop state.offset) (text.drop (state.offset + 1)) :=
          ⟨found, left, accepted⟩
        simp only [accepted, if_true]
        cases Runner.greedy _ rounds (some state.offset) (state.advance 1) next with
        | none => simp
        | some final => simp [Exists.intro _ passes]
      · simp [CharTest.path, left, accepted]

/-- Greedy rounds of a test lead past any number of characters that it accepts, as long as
the rounds suffice for what is left. -/
theorem greedy_isSome_iff (test : CharTest) {rounds : Nat} {from? : Option Nat}
    {state : MatchState} {next : Continuation} {good : Text → Prop}
    (decides : ∀ later, (next later).isSome = true ↔ good (text.drop later.offset))
    (enough : text.length < rounds + state.offset)
    (fresh : ∀ start, from? = some start → start < state.offset) :
    (Runner.greedy ((Node.char test).run text.toArray) rounds from? state next).isSome = true ↔
      ∃ after, test.runPath (text.drop state.offset) after ∧ good after := by
  induction rounds generalizing from? state with
  | zero =>
      have nothing : text.drop state.offset = [] := List.drop_eq_nil_of_le (by omega)
      rw [Runner.greedy, decides, nothing]
      constructor
      · intro satisfied
        exact ⟨[], CharTest.runPath_iff.mpr (.inl rfl), satisfied⟩
      · rintro ⟨after, passed, satisfied⟩
        rcases CharTest.runPath_iff.mp passed with rfl | ⟨middle, ⟨found, impossible, -⟩, -⟩
        · exact satisfied
        · cases impossible
  | succ rounds ih =>
      have moved : from? ≠ some state.offset := fun same =>
        Nat.lt_irrefl _ (fresh state.offset same)
      have further : (Runner.greedy ((Node.char test).run text.toArray) rounds
            (some state.offset) (state.advance 1) next).isSome = true ↔
          ∃ after, test.runPath (text.drop (state.offset + 1)) after ∧ good after :=
        ih (by simp only [MatchState.advance]; omega)
          (fun start same => Option.some.inj same ▸ Nat.lt_succ_self _)
      rw [greedy_succ_isSome_iff test rounds moved, further, decides]
      constructor
      · rintro (⟨middle, passed, after, rest, satisfied⟩ | satisfied)
        · obtain rfl := CharTest.eq_drop_of_path passed
          exact ⟨after, CharTest.runPath_iff.mpr (.inr ⟨_, passed, rest⟩), satisfied⟩
        · exact ⟨_, CharTest.runPath_iff.mpr (.inl rfl), satisfied⟩
      · rintro ⟨after, passed, satisfied⟩
        rcases CharTest.runPath_iff.mp passed with rfl | ⟨middle, first, rest⟩
        · exact .inr satisfied
        · obtain rfl := CharTest.eq_drop_of_path first
          exact .inl ⟨_, first, after, rest, satisfied⟩

/-- A greedy repetition of a test leads past any number of characters that it accepts. -/
theorem leads_star (test : CharTest) :
    Runner.Leads text ((Node.repetition .greedy 0 none (.char test)).run text.toArray)
      test.runPath := by
  intro state next good decides
  have enough : text.length < text.length - state.offset + 2 + state.offset := by omega
  simpa [Node.run_repetition, Runner.repetition, Runner.required] using
    greedy_isSome_iff test decides enough (fun start none => by cases none)

/-! ## Expressions -/

/-- An expression is compiled into a pattern that leads along a path in every text. -/
def Expr.Means (widths : Expr.GroupWidths) (flags : Flags) (expr : Expr)
    (path : Text → Text → Prop) : Prop :=
  ∃ node, expr.compile widths flags = .ok node ∧
    ∀ text : Text, Runner.Leads text (node.run text.toArray) path

section

variable {widths : Expr.GroupWidths} {flags : Flags}

/-- Compiled patterns one after the other. -/
def Node.ofSeq : List Node → Node
  | [] => empty
  | [only] => only
  | first :: rest => seq first (ofSeq rest)

theorem Node.run_ofSeq_cons (chars : Array Char) (state : MatchState) (next : Continuation)
    (first : Node) (rest : List Node) : (Node.ofSeq (first :: rest)).run chars state next
      = first.run chars state fun later => (Node.ofSeq rest).run chars later next := by
  cases rest <;> rfl

/-- Patterns one after the other lead along one path behind the other. -/
theorem leads_ofSeq_cons {first : Node} {rest : List Node} {firstPath restPath : Text → Text → Prop}
    (firstLeads : Runner.Leads text (first.run text.toArray) firstPath)
    (restLeads : Runner.Leads text ((Node.ofSeq rest).run text.toArray) restPath) :
    Runner.Leads text ((Node.ofSeq (first :: rest)).run text.toArray)
      (followedBy firstPath restPath) := by
  have through : (Node.ofSeq (first :: rest)).run text.toArray
      = (Node.seq first (Node.ofSeq rest)).run text.toArray := by
    funext state next
    exact Node.run_ofSeq_cons text.toArray state next first rest
  rw [through]
  exact leads_seq firstLeads restLeads

/-- Expressions one after the other are compiled one by one. -/
theorem compile_ofSeq {exprs : List Expr} {nodes : List Node}
    (all : List.Forall₂ (fun expr node => expr.compile widths flags = .ok node) exprs nodes) :
    (Expr.ofSeq exprs).compile widths flags = .ok (Node.ofSeq nodes) := by
  induction all with
  | nil => rfl
  | cons compiled rest ih =>
      cases rest with
      | nil => exact compiled
      | cons =>
          rw [Expr.ofSeq, Expr.compile, compiled, ih]
          · rfl
          · simp

theorem means_literal (code : Nat) :
    Expr.Means widths flags (.literal code) (CharTest.literal flags.caseRule false code).path :=
  ⟨_, rfl, fun _ => leads_char _⟩

theorem means_dotStar (notTemplate : flags.template = false) (notAll : flags.dotAll = false) :
    Expr.Means widths flags (.repetition .greedy 0 none .any) CharTest.notLineFeed.runPath := by
  refine ⟨.repetition .greedy 0 none (.char .notLineFeed), ?_, fun _ => leads_star _⟩
  rw [Expr.compile, notTemplate, Expr.compile, notAll]
  rfl

theorem Flags.inside_none (flags : Flags) : flags.inside .none .none = flags := by
  cases flags
  simp [inside, choosesClasses, none, union, without]

theorem means_ofSeq_nil : Expr.Means widths flags (.ofSeq []) (· = ·) :=
  ⟨_, rfl, fun _ => leads_empty⟩

/-- Expressions one after the other mean one path behind the other. -/
theorem means_ofSeq_cons {first : Expr} {rest : List Expr}
    {firstPath restPath : Text → Text → Prop} (firstMeans : Expr.Means widths flags first firstPath)
    (restMeans : Expr.Means widths flags (.ofSeq rest) restPath) :
    Expr.Means widths flags (.ofSeq (first :: rest)) (followedBy firstPath restPath) := by
  obtain ⟨firstNode, firstCompiled, firstLeads⟩ := firstMeans
  obtain ⟨restNode, restCompiled, restLeads⟩ := restMeans
  cases rest with
  | nil =>
      obtain rfl := Except.ok.inj restCompiled
      -- The empty pattern behind the first one hands the continuation through.
      have through : ∀ text : Text,
          (Node.seq firstNode .empty).run text.toArray = firstNode.run text.toArray := fun _ => rfl
      refine ⟨firstNode, firstCompiled, fun text => ?_⟩
      rw [← through text]
      exact leads_seq (firstLeads text) (restLeads text)
  | cons second others =>
      refine ⟨.seq firstNode restNode, ?_, fun text => leads_seq (firstLeads text) (restLeads text)⟩
      rw [Expr.ofSeq, Expr.compile, firstCompiled, restCompiled]
      · rfl
      · simp

end

/-! ## Searches -/

section

variable {node : Node} {path : Text → Text → Prop}

/-- A match begins at an offset exactly if the path does. -/
theorem matchAt_isSome_iff (leads : Runner.Leads text (node.run text.toArray) path)
    (start : Nat) :
    (node.matchAt text.toArray false start).isSome = true ↔
      ∃ after, path (text.drop start) after := by
  have always := leads ⟨start, []⟩ (fun state =>
    if false && state.offset == start then none else some state) (fun _ => True) (by simp)
  rw [Node.matchAt, Option.isSome_map, always]
  simp

/-- A search from an offset succeeds exactly if the path begins at one of the offsets. -/
theorem searchFrom_isSome_iff (leads : Runner.Leads text (node.run text.toArray) path)
    (start count : Nat) :
    (node.searchFrom text.toArray false start count).isSome = true ↔
      ∃ skipped < count, ∃ after, path (text.drop (start + skipped)) after := by
  induction count generalizing start with
  | zero => simp [Node.searchFrom]
  | succ count ih =>
      have either : (node.searchFrom text.toArray false start (count + 1)).isSome = true ↔
          (node.matchAt text.toArray false start).isSome = true ∨
            (node.searchFrom text.toArray false (start + 1) count).isSome = true := by
        rw [Node.searchFrom]
        cases node.matchAt text.toArray false start <;> simp
      rw [either, matchAt_isSome_iff leads, ih]
      constructor
      · rintro (here | ⟨skipped, less, further⟩)
        · exact ⟨0, Nat.succ_pos count, here⟩
        · refine ⟨skipped + 1, Nat.succ_lt_succ less, ?_⟩
          rwa [Nat.add_assoc, Nat.add_comm 1 skipped] at further
      · rintro ⟨skipped, less, reached⟩
        cases skipped with
        | zero => exact .inl reached
        | succ skipped =>
            refine .inr ⟨skipped, Nat.lt_of_succ_lt_succ less, ?_⟩
            rwa [Nat.add_assoc, Nat.add_comm 1 skipped]

/-- A search succeeds exactly if the path of the pattern begins somewhere in the text. -/
theorem search_isSome_iff (leads : Runner.Leads text (node.run text.toArray) path) :
    (node.search text.toArray).isSome = true ↔
      ∃ before suffix after, text = before ++ suffix ∧ path suffix after := by
  rw [Node.search, searchFrom_isSome_iff leads, List.size_toArray]
  constructor
  · rintro ⟨skipped, -, after, reached⟩
    exact ⟨text.take (0 + skipped), _, after, (List.take_append_drop _ _).symm, reached⟩
  · rintro ⟨before, suffix, after, rfl, reached⟩
    refine ⟨before.length, ?_, after, ?_⟩
    · rw [List.length_append]
      omega
    · rwa [Nat.zero_add, List.drop_left]

end

/-- A source that is read as an expression which does not begin with a set is compiled. -/
theorem ofSource_ok {source : Text} {flags whole : Flags} {expr : Expr}
    {widths : Expr.GroupWidths} {node : Node} {room : Nat}
    (read : parse source flags room = .ok ⟨expr, whole, widths⟩)
    (compiled : expr.compile widths whole = .ok node)
    (opens : (expr.opening whole).secondReading? whole = none) :
    Program.ofSource source flags room = .ok ⟨node, whole, widths.length - 1⟩ := by
  rw [Program.ofSource, read]
  dsimp only
  rw [compiled, opens]
  rfl

end Winnow.Regex
