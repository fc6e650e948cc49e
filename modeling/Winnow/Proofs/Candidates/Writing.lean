import Winnow.Proofs.Candidates.Lines
import Winnow.Proofs.Text.Encoding

/-!
# Candidates that are written

A text is written on a line of its own by its bytes and a line end. The line ends at the
line feed, as no other character has that byte, and trimming takes off the line end and
nothing of the text (`IsLine.decode_trimLine`). So reading takes one line off the stream
(`IsLine.read_append`), and what is written line by line is read back as it was (`read_written`),
whatever the line ends are and whether or not the last line has one.
-/

namespace Winnow

namespace Candidates

/-- What ends a line. -/
inductive LineEnd
  | lineFeed
  | returnLineFeed
  deriving DecidableEq, Repr

/-- The bytes in front of the line feed. -/
def LineEnd.before : LineEnd → List UInt8
  | lineFeed => []
  | returnLineFeed => [carriageReturn]

/-- The bytes of a line end. -/
def LineEnd.bytes (ending : LineEnd) : List UInt8 := ending.before ++ [Candidates.lineFeed]

/-- Texts with the line end behind each of them as bytes. -/
def written (encoding : Encoding) (lines : List (Text × LineEnd)) : List UInt8 :=
  lines.flatMap fun (text, ending) => encoding.encode text ++ ending.bytes

/-- A text that may stand on a line: the encoding has bytes for it, and it holds no line feed and
does not end in a carriage return. -/
structure IsLine (encoding : Encoding) (text : Text) : Prop where
  writable : encoding.CanWrite text
  single : '\n' ∉ text
  trimmed : text.getLast? ≠ some '\r'

/-- A line feed among bytes is decoded as one. -/
theorem lineFeed_mem_decode (encoding : Encoding) {bytes : List UInt8}
    (member : lineFeed ∈ bytes) : '\n' ∈ encoding.decode bytes := by
  obtain ⟨before, after, rfl⟩ := List.append_of_mem member
  have decoded : encoding.decode (before ++ lineFeed :: after)
      = encoding.decode before ++ '\n' :: encoding.decode after :=
    encoding.decode_append_ascii before (by decide) after
  rw [decoded]
  exact List.mem_append_right _ List.mem_cons_self

section

variable {encoding : Encoding} {text : Text}

/-- The bytes of a text on a line hold no line feed, and neither do those of its line end before
the last one. -/
theorem IsLine.lineFeed_notMem (line : IsLine encoding text) (ending : LineEnd) :
    lineFeed ∉ encoding.encode text ++ ending.before := by
  have free : lineFeed ∉ encoding.encode text := by
    intro member
    have shown := lineFeed_mem_decode encoding member
    rw [Encoding.decode_encode line.writable] at shown
    exact line.single shown
  have noFeed : lineFeed ∉ ending.before := by
    cases ending <;> decide
  exact List.not_mem_append free noFeed

/-- Nothing is taken off the end of a text on a line. -/
theorem IsLine.dropTrailing_eq (line : IsLine encoding text) :
    Text.dropTrailing isLineEnd text = text := by
  refine List.rdropWhile_eq_self_iff.mpr fun filled ends => ?_
  have last := List.getLast?_eq_some_getLast filled
  rw [isLineEnd, Bool.or_eq_true, decide_eq_true_iff, decide_eq_true_iff] at ends
  rcases ends with isReturn | isFeed
  · exact line.trimmed (isReturn ▸ last)
  · exact line.single (isFeed ▸ List.mem_of_getLast? last)

/-- What is decoded in front of the line feed is the text. -/
theorem IsLine.decode_trimLine (line : IsLine encoding text) (ending : LineEnd) :
    encoding.decode (trimLine (encoding.encode text ++ ending.before)) = text := by
  have itself := Encoding.decode_encode line.writable
  rw [Candidates.decode_trimLine encoding (line.lineFeed_notMem ending)]
  cases ending with
  | lineFeed =>
      rw [LineEnd.before, List.append_nil, itself]
      exact line.dropTrailing_eq
  | returnLineFeed =>
      have decoded : encoding.decode (encoding.encode text ++ [carriageReturn]) = text ++ ['\r'] := by
        rw [encoding.decode_append_ascii _ (by decide) [], itself,
          Encoding.decode_eq_nil_iff.mpr rfl]
        rfl
      have dropped : Text.dropTrailing isLineEnd (text ++ ['\r'])
          = Text.dropTrailing isLineEnd text :=
        List.rdropWhile_concat_pos isLineEnd text '\r' rfl
      rw [LineEnd.before, decoded, dropped]
      exact line.dropTrailing_eq

/-- A line is read off the front of a stream. -/
theorem IsLine.read_append (line : IsLine encoding text) (ending : LineEnd) (rest : List UInt8) :
    read encoding (encoding.encode text ++ ending.bytes ++ rest) = text :: read encoding rest := by
  have cut : encoding.encode text ++ ending.bytes ++ rest
      = encoding.encode text ++ ending.before ++ lineFeed :: rest := by
    simp [LineEnd.bytes]
  rw [read, cut, linesFrom_append_lineFeed (line.lineFeed_notMem ending), List.map_cons,
    List.reverse_nil, List.nil_append, line.decode_trimLine ending]
  rfl

/-- A text that is not empty is read without a line end. -/
theorem IsLine.read_last (line : IsLine encoding text) (filled : text ≠ []) :
    read encoding (encoding.encode text) = [text] := by
  have free := line.lineFeed_notMem .lineFeed
  have itself := line.decode_trimLine .lineFeed
  rw [LineEnd.before, List.append_nil] at free itself
  have someBytes : encoding.encode text ≠ [] := by
    intro none
    have decoded := Encoding.decode_encode line.writable
    rw [none, Encoding.decode_eq_nil_iff.mpr rfl] at decoded
    exact filled decoded.symm
  rw [read, linesFrom_of_notMem free, List.reverse_nil, List.nil_append, if_neg someBytes,
    List.map_singleton, itself]

/-- Lines are read off the front of a stream. -/
theorem read_written_append {lines : List (Text × LineEnd)}
    (fit : ∀ line ∈ lines, IsLine encoding line.1) (rest : List UInt8) :
    read encoding (written encoding lines ++ rest)
      = lines.map Prod.fst ++ read encoding rest := by
  induction lines with
  | nil => rfl
  | cons line lines ih =>
      obtain ⟨text, ending⟩ := line
      obtain ⟨here, behind⟩ := List.forall_mem_cons.mp fit
      have bytes : written encoding ((text, ending) :: lines) ++ rest
          = encoding.encode text ++ ending.bytes ++ (written encoding lines ++ rest) := by
        simp [written]
      rw [bytes, here.read_append ending, ih behind]
      rfl

end

/-- Texts without line feeds that do not end in carriage returns, each followed by a line end of
either kind, are read back as they are. The line end of the last one may be left out if that text is
not empty. -/
theorem read_written {encoding : Encoding} {lines : List (Text × LineEnd)}
    (fit : ∀ line ∈ lines, IsLine encoding line.1) :
    read encoding (written encoding lines) = lines.map Prod.fst ∧
      ∀ last, last ≠ [] → IsLine encoding last →
        read encoding (written encoding lines ++ encoding.encode last)
          = lines.map Prod.fst ++ [last] := by
  constructor
  · have none : read encoding [] = [] := rfl
    have whole := read_written_append fit []
    rwa [List.append_nil, none, List.append_nil] at whole
  · intro last filled line
    rw [read_written_append fit, line.read_last filled]

/-- Lines with both line ends: one with a carriage return inside, and an empty one. -/
def mixedLines : List (Text × LineEnd) :=
  [(['a', '\r', 'é'], .lineFeed), ([], .returnLineFeed)]

/-- Of lines with both line ends and a last one without any, none is lost and none is added. -/
theorem read_written_mixed :
    (∀ line ∈ mixedLines, IsLine .utf8 line.1) ∧
      read .utf8 (written .utf8 mixedLines) = [['a', '\r', 'é'], []] ∧
      read .utf8 (written .utf8 mixedLines ++ Encoding.encode .utf8 ['€'])
        = [['a', '\r', 'é'], [], ['€']] := by
  have fit : ∀ line ∈ mixedLines, IsLine .utf8 line.1 :=
    List.forall_mem_cons.mpr ⟨⟨trivial, by decide, by decide⟩,
      List.forall_mem_singleton.mpr ⟨trivial, by decide, by decide⟩⟩
  have last : IsLine .utf8 ['€'] := ⟨trivial, by decide, by decide⟩
  obtain ⟨ended, unended⟩ := read_written fit
  exact ⟨fit, ended, unended _ (by decide) last⟩

end Candidates

end Winnow
