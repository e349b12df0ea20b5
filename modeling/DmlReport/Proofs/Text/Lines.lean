import DmlReport.Text.Blank
import DmlReport.Text.Lines
import DmlReport.Text.Utf8
import Mathlib.Data.List.TakeWhile

/-!
# Lines are pieces between line feeds

`Text.physicalLines` takes a file byte by byte.  What it gives can be said at
once: cut the bytes at every line feed, take a carriage return off the end of
each piece that a line feed follows, and leave the last piece out if it is empty
(`physicalLines_eq`).  A line is blank if nothing is left of it when it is
trimmed (`allBlank_iff_trim_eq_empty`).
-/

namespace DmlReport.Text

/-- A piece without a carriage return at its end. -/
def withoutReturn (piece : List UInt8) : List UInt8 :=
  if piece.getLast? = some 13 then piece.dropLast else piece

/-- Lines from the pieces between line feeds.  No line feed follows the last. -/
def linesOfPieces (pieces : List (List UInt8)) : List (List UInt8) :=
  pieces.dropLast.map withoutReturn ++ (pieces.getLast?.filter (· ≠ [])).toList

theorem linesOfPieces_singleton (piece : List UInt8) :
    linesOfPieces [piece] = if piece.isEmpty then [] else [piece] := by
  cases piece <;> rfl

theorem linesOfPieces_cons (piece : List UInt8) {rest : List (List UInt8)} (h : rest ≠ []) :
    linesOfPieces (piece :: rest) = withoutReturn piece :: linesOfPieces rest := by
  unfold linesOfPieces
  rw [List.dropLast_cons_of_ne_nil h, List.getLast?_cons_of_ne_nil h]
  rfl

theorem dropReturn_reverse (line : List UInt8) :
    (dropReturn line).reverse = withoutReturn line.reverse := by
  cases line with
  | nil => rfl
  | cons b rest =>
    unfold withoutReturn
    rw [List.reverse_cons, List.getLast?_concat, List.dropLast_concat]
    by_cases hb : b = 13
    · rw [hb]
      rfl
    · rw [if_neg fun h => hb (Option.some.inj h)]
      unfold dropReturn
      split
      · rename_i heq
        cases heq
        exact absurd rfl hb
      · rw [List.reverse_cons]

/-- The current line is the beginning of the first piece. -/
theorem linesFrom_eq (line bytes : List UInt8) :
    linesFrom line bytes = linesOfPieces (List.splitOnPPrepend (· == 10) bytes line) := by
  induction bytes generalizing line with
  | nil =>
    rw [List.splitOnPPrepend_nil, linesOfPieces_singleton, List.isEmpty_reverse]
    rfl
  | cons b rest ih =>
    rw [List.splitOnPPrepend_cons_eq_if]
    by_cases hb : b = 10
    · have hrest := ih []
      rw [List.splitOnPPrepend_nil_right] at hrest
      rw [if_pos (beq_iff_eq.2 hb), linesOfPieces_cons _ (List.splitOnP_ne_nil _ _), ← hrest,
        ← dropReturn_reverse]
      simp only [linesFrom, hb, if_true]
    · rw [if_neg (by simpa using hb), ← ih]
      simp only [linesFrom, hb, if_false]

/-- The physical lines of a file are made from the pieces between line feeds. -/
theorem physicalLines_eq (bytes : List UInt8) :
    physicalLines bytes = linesOfPieces (bytes.splitOn 10) :=
  linesFrom_eq [] bytes

/-- A text is blank if trimming leaves nothing. -/
theorem allBlank_iff_trim_eq_empty (s : String) : allBlank s = true ↔ trim s = "" := by
  unfold allBlank trim trimChars
  rw [String.ofList_eq_empty_iff, List.reverse_eq_nil_iff, List.dropWhile_eq_nil_iff,
    List.all_eq_true]
  constructor
  · intro h c hc
    exact h c ((List.dropWhile_sublist _).subset (List.mem_reverse.1 hc))
  · intro h c hc
    rw [← List.takeWhile_append_dropWhile (p := isBlank) (l := s.toList), List.mem_append] at hc
    rcases hc with hc | hc
    · exact List.mem_takeWhile_imp hc
    · exact h c (List.mem_reverse.2 hc)

end DmlReport.Text
