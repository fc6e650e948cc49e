import Winnow.Proofs.Text.Decoding
import Mathlib.Data.List.DropRight

/-!
# Candidates are lines

A stream is cut at its line feeds (`linesFrom_eq_cutAt`). As a line feed is decoded as
itself and from nothing else, cutting commutes with decoding (`map_decode_cutAt`), and
so does trimming the end of a line (`decode_trimLine`). So the candidates of a stream
are the trimmed lines of the decoded stream (`read_eq_decodedLines`): malformed bytes
reach into no other line. No candidate holds a line feed (`lineFeed_notMem_read`).
-/

namespace Winnow

/-! ## Cutting at a separator -/

section

variable {α : Type} [DecidableEq α]

/-- The pieces in front of the separators of a list, and what follows the last one if that is not
empty. -/
def cutAt (separator : α) (list : List α) : List (List α) :=
  let pieces := list.splitOn separator
  if pieces.getLast? = some [] then pieces.dropLast else pieces

/-- A list is a piece without separators, or such a piece in front of a separator and a list. -/
@[elab_as_elim]
theorem separatedInduction (separator : α) {motive : List α → Prop}
    (last : ∀ piece, separator ∉ piece → motive piece)
    (cons : ∀ piece rest, separator ∉ piece → motive rest → motive (piece ++ separator :: rest))
    (list : List α) : motive list := by
  by_cases separated : separator ∈ list
  · obtain ⟨piece, rest, same, free⟩ := List.eq_append_cons_of_mem separated
    have shorter : rest.length < list.length := by
      rw [same]
      simp
      omega
    rw [same]
    exact cons piece rest free (separatedInduction separator last cons rest)
  · exact last list separated
termination_by list.length

variable {separator : α} {piece : List α}

theorem cutAt_of_notMem (free : separator ∉ piece) :
    cutAt separator piece = if piece = [] then [] else [piece] := by
  rw [cutAt, List.splitOn_eq_singleton free]
  simp

/-- What stands in front of the first separator is the first piece. -/
theorem cutAt_append_cons (free : separator ∉ piece) (rest : List α) :
    cutAt separator (piece ++ separator :: rest) = piece :: cutAt separator rest := by
  have filled : rest.splitOn separator ≠ [] := List.splitOn_ne_nil separator rest
  obtain ⟨first, others, same⟩ := List.exists_cons_of_ne_nil filled
  rw [cutAt, cutAt, List.splitOn_append_cons_self_of_not_mem free, same]
  simp only [List.getLast?_cons_cons, List.dropLast_cons_cons]
  split <;> rfl

/-- Pieces end at a separator. -/
theorem cutAt_append (before after : List α) :
    cutAt separator (before ++ separator :: after)
      = cutAt separator (before ++ [separator]) ++ cutAt separator after := by
  induction before using separatedInduction separator with
  | last piece free =>
      rw [cutAt_append_cons free, cutAt_append_cons free, cutAt_of_notMem List.not_mem_nil]
      rfl
  | cons piece rest free ih =>
      rw [List.append_assoc, List.append_assoc, List.cons_append, List.cons_append,
        cutAt_append_cons free, cutAt_append_cons free, ih, List.cons_append]

/-- No piece holds a separator. -/
theorem notMem_of_mem_cutAt (list : List α) :
    ∀ found ∈ cutAt separator list, separator ∉ found := by
  induction list using separatedInduction separator with
  | last piece free =>
      rw [cutAt_of_notMem free]
      split
      · exact List.forall_mem_nil _
      · exact List.forall_mem_singleton.mpr free
  | cons piece rest free ih =>
      rw [cutAt_append_cons free]
      exact List.forall_mem_cons.mpr ⟨free, ih⟩

/-- There is a piece for each separator, and one for what follows the last one. -/
theorem length_cutAt (list : List α) :
    (cutAt separator list).length
      = list.count separator + if list = [] ∨ list.getLast? = some separator then 0 else 1 := by
  induction list using separatedInduction separator with
  | last piece free =>
      have none : piece.getLast? ≠ some separator := fun same =>
        free (List.mem_of_getLast? same)
      rw [cutAt_of_notMem free, List.count_eq_zero.mpr free]
      by_cases empty : piece = [] <;> simp [empty, none]
  | cons piece rest free ih =>
      rw [cutAt_append_cons free, List.length_cons, ih, List.count_append, List.count_cons_self,
        List.count_eq_zero.mpr free]
      cases rest with
      | nil => simp
      | cons next rest =>
          simp [List.getLast?_append, List.getLast?_cons_cons]
          omega

end

namespace Candidates

/-! ## Lines -/

/-- The first line feed ends the line that has begun. -/
theorem linesFrom_append_lineFeed {line : List UInt8} (free : lineFeed ∉ line)
    (before rest : List UInt8) :
    linesFrom before (line ++ lineFeed :: rest)
      = (before.reverse ++ line) :: linesFrom [] rest := by
  induction line generalizing before with
  | nil => simp [linesFrom]
  | cons byte line ih =>
      obtain ⟨other, later⟩ := not_or.mp (mt List.mem_cons.mpr free)
      rw [List.cons_append, linesFrom, if_neg (Ne.symm other), ih later]
      simp

/-- Without a line feed there is one line unless there is nothing. -/
theorem linesFrom_of_notMem {line : List UInt8} (free : lineFeed ∉ line) (before : List UInt8) :
    linesFrom before line
      = if before.reverse ++ line = [] then [] else [before.reverse ++ line] := by
  induction line generalizing before with
  | nil => simp [linesFrom]
  | cons byte line ih =>
      obtain ⟨other, later⟩ := not_or.mp (mt List.mem_cons.mpr free)
      rw [linesFrom, if_neg (Ne.symm other), ih later]
      simp

/-- The lines of a stream are the pieces at its line feeds. -/
theorem linesFrom_eq_cutAt (bytes : List UInt8) : linesFrom [] bytes = cutAt lineFeed bytes := by
  induction bytes using separatedInduction lineFeed with
  | last line free => rw [linesFrom_of_notMem free, cutAt_of_notMem free, List.reverse_nil,
      List.nil_append]
  | cons line rest free ih =>
      rw [linesFrom_append_lineFeed free, cutAt_append_cons free, ih, List.reverse_nil,
        List.nil_append]

/-! ## Decoded lines -/

/-- The characters that may stand at the end of a line. -/
def isLineEnd (char : Char) : Bool := char = '\r' || char = '\n'

theorem lineFeed_mem_of_decode {encoding : Encoding} {bytes : List UInt8}
    (shown : '\n' ∈ encoding.decode bytes) : lineFeed ∈ bytes :=
  have ascii : lineFeed.toNat < 0x80 := by decide
  Encoding.mem_of_decode ascii (by decide) shown

theorem carriageReturn_mem_of_decode {encoding : Encoding} {bytes : List UInt8}
    (shown : '\r' ∈ encoding.decode bytes) : carriageReturn ∈ bytes :=
  have ascii : carriageReturn.toNat < 0x80 := by decide
  Encoding.mem_of_decode ascii (by decide) shown

/-- Cutting a stream and decoding its lines is cutting the decoded stream. -/
theorem map_decode_cutAt (encoding : Encoding) (bytes : List UInt8) :
    (cutAt lineFeed bytes).map encoding.decode = cutAt '\n' (encoding.decode bytes) := by
  induction bytes using separatedInduction lineFeed with
  | last line free =>
      have decodedFree : '\n' ∉ encoding.decode line := mt lineFeed_mem_of_decode free
      rw [cutAt_of_notMem free, cutAt_of_notMem decodedFree]
      by_cases empty : line = []
      · rw [if_pos empty, if_pos (Encoding.decode_eq_nil_iff.mpr empty)]
        rfl
      · rw [if_neg empty, if_neg (mt Encoding.decode_eq_nil_iff.mp empty)]
        rfl
  | cons line rest free ih =>
      have decodedFree : '\n' ∉ encoding.decode line := mt lineFeed_mem_of_decode free
      have decoded : encoding.decode (line ++ lineFeed :: rest)
          = encoding.decode line ++ '\n' :: encoding.decode rest :=
        encoding.decode_append_ascii line (by decide) rest
      rw [cutAt_append_cons free, List.map_cons, ih, decoded, cutAt_append_cons decodedFree]

theorem mem_of_mem_trimLine {byte : UInt8} {line : List UInt8} (member : byte ∈ trimLine line) :
    byte ∈ line := by
  rw [trimLine, List.mem_reverse] at member
  exact List.mem_reverse.mp ((List.dropWhile_sublist _).subset member)

/-- A line that does not end with a carriage return is decoded as a text that does not end with one
or with a line feed. -/
theorem isLineEnd_of_getLast?_decode {encoding : Encoding} {line : List UInt8}
    (noFeed : lineFeed ∉ line) (noReturn : line.getLast? ≠ some carriageReturn) :
    ∀ char ∈ (encoding.decode line).getLast?, isLineEnd char = false := by
  induction line using separatedInduction carriageReturn with
  | last line free =>
      intro char ends
      have member : char ∈ encoding.decode line := List.mem_of_getLast? ends
      have notReturn : char ≠ '\r' := by
        rintro rfl
        exact free (carriageReturn_mem_of_decode member)
      have notFeed : char ≠ '\n' := by
        rintro rfl
        exact noFeed (lineFeed_mem_of_decode member)
      simp [isLineEnd, notReturn, notFeed]
  | cons line rest _ ih =>
      -- What stands behind the carriage return is not empty, and its text ends the whole.
      have someRest : rest ≠ [] := by
        rintro rfl
        simp at noReturn
      have laterFeed : lineFeed ∉ rest := fun member => noFeed (by simp [member])
      have laterReturn : rest.getLast? ≠ some carriageReturn := by
        intro same
        apply noReturn
        rw [List.getLast?_append, List.getLast?_cons, same]
        rfl
      have decoded : encoding.decode (line ++ carriageReturn :: rest)
          = encoding.decode line ++ '\r' :: encoding.decode rest :=
        encoding.decode_append_ascii line (by decide) rest
      have someText : encoding.decode rest ≠ [] := mt Encoding.decode_eq_nil_iff.mp someRest
      have sameEnd : (encoding.decode (line ++ carriageReturn :: rest)).getLast?
          = (encoding.decode rest).getLast? := by
        rw [decoded, List.getLast?_append, List.getLast?_cons]
        obtain ⟨first, others, same⟩ := List.exists_cons_of_ne_nil someText
        rw [same]
        simp [List.getLast?_cons]
      rw [sameEnd]
      exact ih laterFeed laterReturn

/-- Trimming a line and decoding it is trimming the decoded line. -/
theorem decode_trimLine (encoding : Encoding) {line : List UInt8} (free : lineFeed ∉ line) :
    encoding.decode (trimLine line) = Text.dropTrailing isLineEnd (encoding.decode line) := by
  induction line using List.reverseRecOn with
  | nil => cases encoding <;> rfl
  | append_singleton line byte ih =>
      have before : lineFeed ∉ line := fun member => free (by simp [member])
      by_cases ends : byte = carriageReturn
      · have trimmed : trimLine (line ++ [byte]) = trimLine line :=
          List.rdropWhile_concat_pos (p := fun byte => byte = carriageReturn) line byte (by simpa)
        have decoded : encoding.decode (line ++ [byte]) = encoding.decode line ++ ['\r'] := by
          rw [ends, encoding.decode_append_ascii line (by decide) [],
            Encoding.decode_eq_nil_iff.mpr rfl]
          rfl
        have dropped : Text.dropTrailing isLineEnd (encoding.decode line ++ ['\r'])
            = Text.dropTrailing isLineEnd (encoding.decode line) :=
          List.rdropWhile_concat_pos isLineEnd (encoding.decode line) '\r' rfl
        rw [trimmed, decoded, dropped, ih before]
      · have kept : trimLine (line ++ [byte]) = line ++ [byte] :=
          List.rdropWhile_concat_neg (p := fun byte => byte = carriageReturn) line byte (by simpa)
        have noReturn : (line ++ [byte]).getLast? ≠ some carriageReturn := by
          simpa using ends
        have keptText : Text.dropTrailing isLineEnd (encoding.decode (line ++ [byte]))
            = encoding.decode (line ++ [byte]) := by
          refine List.rdropWhile_eq_self_iff.mpr fun filled => ?_
          have last := List.getLast?_eq_some_getLast filled
          exact Bool.eq_false_iff.mp (isLineEnd_of_getLast?_decode free noReturn _ last)
        rw [kept, keptText]

/-! ## Candidates -/

/-- The candidates of a stream are the lines of the decoded stream, what follows the last line feed
being no line if it is empty, without carriage returns and line feeds at their ends. There is one
for each line feed and one for the bytes behind the last line feed, and no line has a part in what
the bytes behind a line feed are decoded as. -/
theorem read_eq_decodedLines (encoding : Encoding) (bytes : List UInt8) :
    read encoding bytes
        = (cutAt '\n' (encoding.decode bytes)).map (Text.dropTrailing isLineEnd) ∧
      (read encoding bytes).length
        = bytes.count lineFeed
          + (if bytes = [] ∨ bytes.getLast? = some lineFeed then 0 else 1) ∧
      ∀ before after, bytes = before ++ lineFeed :: after →
        read encoding bytes = read encoding (before ++ [lineFeed]) ++ read encoding after := by
  refine ⟨?_, ?_, ?_⟩
  · have trimmed : ∀ line ∈ cutAt lineFeed bytes, encoding.decode (trimLine line)
        = Text.dropTrailing isLineEnd (encoding.decode line) := fun line member =>
      decode_trimLine encoding (notMem_of_mem_cutAt bytes line member)
    rw [read, linesFrom_eq_cutAt, List.map_congr_left trimmed, ← map_decode_cutAt, List.map_map]
    rfl
  · rw [read, List.length_map, linesFrom_eq_cutAt, length_cutAt]
  · rintro before after rfl
    rw [read, read, read, linesFrom_eq_cutAt, linesFrom_eq_cutAt, linesFrom_eq_cutAt,
      cutAt_append, List.map_append]

/-- A sequence that is cut off by a line end, or by the end of the stream, spreads no further. -/
example : read .utf8 [0x61, 0xE2, 0x82, 0x0D, 0x0A, 0x0A, 0xF0, 0x9F]
    = [['a', '\uFFFD'], [], ['\uFFFD']] := by
  decide

/-- No candidate holds a line feed. -/
theorem lineFeed_notMem_read (encoding : Encoding) (bytes : List UInt8) :
    ∀ candidate ∈ read encoding bytes, '\n' ∉ candidate := by
  intro candidate member shown
  rw [read, linesFrom_eq_cutAt] at member
  obtain ⟨line, lineMember, rfl⟩ := List.mem_map.mp member
  exact notMem_of_mem_cutAt bytes line lineMember
    (mem_of_mem_trimLine (lineFeed_mem_of_decode shown))

end Candidates

end Winnow
