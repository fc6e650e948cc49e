import Winnow.Query.Pattern

/-!
# Tokens of a query

A query is cut at spaces into tokens, each compiled into a pattern. All tokens have to match,
independently of each other; a query without tokens matches everything.
-/

namespace Winnow

/-- The character between tokens. -/
def tokenSeparator : Char := ' '

/-- A compiled piece of a query with its place in it. -/
structure Token where
  value : Text
  start : Nat
  pattern : Pattern
  method : Method
  deriving DecidableEq, Repr

namespace Token

/-- The number of characters of a token. -/
def length (token : Token) : Nat := token.value.length

/-- The offset behind a token. -/
def stop (token : Token) : Nat := token.start + token.length

/-- Compiles a piece of a query. -/
def compile (options : MatchOptions) (start : Nat) (value : Text)
    (room : Nat := Regex.nestingRoom) : Except Regex.Failure Token :=
  (Pattern.compile value options.method options.caseSensitive room).map fun pattern =>
    ⟨value, start, pattern, options.method⟩

end Token

/-- The pieces of a query between spaces with their offsets. `piece` holds the characters since the
last space, last one first, and `offset` is where the rest begins. -/
def piecesFrom (offset : Nat) (piece : Text) : Text → List (Nat × Text)
  | [] => if piece.isEmpty then [] else [(offset - piece.length, piece.reverse)]
  | char :: rest =>
    if char = tokenSeparator then
      if piece.isEmpty then piecesFrom (offset + 1) [] rest
      else (offset - piece.length, piece.reverse) :: piecesFrom (offset + 1) [] rest
    else piecesFrom (offset + 1) (char :: piece) rest

/-- The pieces of a query that become tokens, with their offsets. -/
def queryPieces (options : MatchOptions) (query : Text) : List (Nat × Text) :=
  if options.tokenize then piecesFrom 0 [] query
  else if query.isEmpty then []
  else [(0, query)]

/-- A compiled query. -/
structure TokenSet where
  query : Text
  options : MatchOptions
  tokens : List Token
  deriving DecidableEq, Repr

/-- Compiles the pieces of a query in order; the first failure ends it. -/
def compilePieces (options : MatchOptions) (pieces : List (Nat × Text))
    (room : Nat := Regex.nestingRoom) : Except Regex.Failure (List Token) :=
  match pieces with
  | [] => .ok []
  | (start, value) :: rest =>
    match Token.compile options start value room with
    | .error failure => .error failure
    | .ok token =>
      match compilePieces options rest room with
      | .error failure => .error failure
      | .ok tokens => .ok (token :: tokens)

namespace TokenSet

/-- Compiles a query. -/
def compile (query : Text) (options : MatchOptions) (room : Nat := Regex.nestingRoom) :
    Except Regex.Failure TokenSet :=
  (compilePieces options (queryPieces options query) room).map fun tokens =>
    ⟨query, options, tokens⟩

/-- Whether a query was compiled with the given options. -/
def compiledFor (set : TokenSet) (options : MatchOptions) : Bool := decide (set.options = options)

/-- Whether every token occurs in a text. -/
def accepts (set : TokenSet) (text : Text) : Bool :=
  set.tokens.all fun token => token.pattern.occursIn text

/-- The accepted texts with their indices, which begin at `index`. -/
def acceptedFrom (set : TokenSet) (index : Nat) : List Text → List (Nat × Text)
  | [] => []
  | text :: rest =>
    if set.accepts text then (index, text) :: set.acceptedFrom (index + 1) rest
    else set.acceptedFrom (index + 1) rest

/-- The accepted texts with their indices. -/
def accepted (set : TokenSet) (texts : List Text) : List (Nat × Text) := set.acceptedFrom 0 texts

end TokenSet

end Winnow
