import DmlReport.Document
import DmlReport.Proofs.Json.Scan

/-!
# Indentation

In the text of a document the spaces before a line are as many as its depth asks for, and
without them the text is that of a layout without indentation (`Layout.render_indented`).
Every line feed is between lines and never in a literal, no other control character is
written, and what a literal spells it spells character by character.
-/

namespace DmlReport

namespace Json

namespace Line

variable (width : Nat) (l : Line)

theorem takeWhile_indented :
    (l.indented width).takeWhile (· == ' ') = List.replicate (width * l.depth) ' ' := by
  obtain ⟨c, tail, htext, hspace, -⟩ := l.text_eq_cons
  rw [indented, htext, List.takeWhile_append_of_pos (by simp),
    List.takeWhile_cons_of_neg (by simpa), List.append_nil]

theorem dropWhile_indented : (l.indented width).dropWhile (· == ' ') = l.text := by
  obtain ⟨c, tail, htext, hspace, -⟩ := l.text_eq_cons
  rw [indented, htext, List.dropWhile_append_of_pos (by simp),
    List.dropWhile_cons_of_neg (by simpa)]

theorem scan_depth (literals : List (List Char)) :
    (Scan.outside (l.depth + l.isClosing.toNat) literals).depth (l.indented width) = l.depth := by
  obtain ⟨c, tail, htext, -, hcloses⟩ := l.text_eq_cons
  rw [Scan.depth, dropWhile_indented, htext]
  simp only [hcloses, Scan.outside]
  cases l.isClosing <;> simp

end Line

namespace Writer

variable (width : Nat) (v : Value)

/-- Without its spaces a line is the same in every width. -/
theorem dropWhile_lines :
    ['\n'].intercalate
        (((write (.indented width) 0 v).splitOn '\n').map (·.dropWhile (· == ' '))) =
      write (.indented 0) 0 v := by
  have hunindented : Line.indented 0 = Line.text := by
    funext l
    rw [Line.indented, Nat.zero_mul, List.replicate_zero, List.nil_append]
  rw [splitOn_write, List.map_map, write_indented, hunindented]
  exact congrArg _ (List.map_congr_left fun l _ => l.dropWhile_indented width)

variable {width v}

/-- A line starts outside of any literal, at its depth. -/
theorem depth_line {before after : List (List Char)} {line : List Char}
    (h : (write (.indented width) 0 v).splitOn '\n' = before ++ line :: after) :
    (Scan.of (before.flatMap (· ++ ['\n']))).inside = none ∧
      (line.takeWhile (· == ' ')).length =
        width * (Scan.of (before.flatMap (· ++ ['\n']))).depth line := by
  rw [splitOn_write, List.map_eq_append_iff] at h
  obtain ⟨ls, rest, hlines, rfl, hrest⟩ := h
  obtain ⟨l, rest, rfl, rfl, rfl⟩ := List.map_eq_cons_iff.1 hrest
  have hchained := Chained.lines v 0 none false
  rw [hlines] at hchained
  obtain ⟨n, hbefore, hn⟩ := hchained.split
  have hscan : Scan.of ((ls.map (Line.indented width)).flatMap (· ++ ['\n'])) =
      .outside n ([] ++ (ls.flatMap Line.strings).map spelled) := by
    rw [List.flatMap_map]
    refine Scan.run_lines hbefore (fun l n literals => ?_) []
    rw [Scan.run_append, Scan.run_indented, Scan.run_text]
    rfl
  rw [hscan]
  refine ⟨rfl, ?_⟩
  rw [l.takeWhile_indented, List.length_replicate, hn, l.scan_depth]

/-- A written character is a line feed or no control character. -/
theorem mem_write {c : Char} (h : c ∈ write (.indented width) 0 v) :
    c = '\n' ∨ 0x20 ≤ c.toNat := by
  have hmem : c ∈ broken width (v.lines 0 none false) := by
    rw [broken_eq_intercalate (lines_ne_nil v 0 none false), ← write_indented]
    exact List.mem_cons_of_mem _ h
  obtain ⟨l, -, hc⟩ := List.mem_flatMap.1 hmem
  rcases List.mem_cons.1 hc with hbreak | hc
  · exact .inl hbreak
  · exact .inr (l.printable_indented width c hc)

end Writer

end Json

open Json (Scan)

/-- In the text of a document, the spaces before a line are as many levels as there are open
containers, without one that the line closes first, and no literal is open there.  Without
these spaces the text is that of the layout without indentation.  No character is below U+0020
except for the line feeds between lines.  The literals are the keys and strings of the document
in order, and each spells its text character by character: as itself from U+0020 on, except for
the quote and the backslash, and otherwise as an escape. -/
theorem Layout.render_indented (generator : String) (c : Collection) (width : Nat) :
    let text := ((⟨generator, width⟩ : Layout).render c).toList
    ['\n'].intercalate ((text.splitOn '\n').map (·.dropWhile (· == ' '))) =
      ((⟨generator, 0⟩ : Layout).render c).toList ∧
    (∀ before line after, text.splitOn '\n' = before ++ line :: after →
      (Scan.of (before.flatMap (· ++ ['\n']))).inside = none ∧
        (line.takeWhile (· == ' ')).length =
          width * (Scan.of (before.flatMap (· ++ ['\n']))).depth line) ∧
    (∀ ch ∈ text, ch = '\n' ∨ 0x20 ≤ ch.toNat) ∧
    (Scan.of text).inside = none ∧ (Scan.of text).opened = 0 ∧
    List.Forall₂ Json.Spelling ((⟨generator, width⟩ : Layout).document c).strings
      (Scan.of text).literals := by
  intro text
  obtain ⟨document, hdocument⟩ : ∃ v, v = (⟨generator, width⟩ : Layout).document c := ⟨_, rfl⟩
  have htext : text = Json.Writer.write (.indented width) 0 document := by
    rw [hdocument]
    exact String.toList_ofList
  have hflat : ((⟨generator, 0⟩ : Layout).render c).toList =
      Json.Writer.write (.indented 0) 0 document := by
    rw [hdocument]
    exact String.toList_ofList
  rw [htext, hflat, ← hdocument, Json.Writer.scan_write]
  refine ⟨Json.Writer.dropWhile_lines width document, fun before line after hlines =>
    Json.Writer.depth_line hlines, fun ch hch => Json.Writer.mem_write hch, rfl, rfl, ?_⟩
  rw [Json.Scan.outside, List.forall₂_map_right_iff, List.forall₂_same]
  exact fun s _ => Json.Writer.spelling_spelled s

theorem Layout.render_indented_generator :
    let l : Layout := ⟨"é\n", 3⟩
    let before := [['\x7b'], "   \"format_version\": \"1.0\",".toList]
    let line := "   \"generator\": \"é\\n\",".toList
    (∃ after, (l.render (.empty .published)).toList.splitOn '\n' = before ++ line :: after) ∧
      (Scan.of (before.flatMap (· ++ ['\n']))).inside = none ∧
      (line.takeWhile (· == ' ')).length = 3 * 1 := by
  intro l before line
  have hlines : (l.render (.empty .published)).toList.splitOn '\n' =
      ((l.document (.empty .published)).lines 0 none false).map (Json.Line.indented 3) := by
    rw [Layout.render, Json.Value.indented, String.toList_ofList, Json.Writer.splitOn_write]
  have hfirst : (((l.document (.empty .published)).lines 0 none false).map
      (Json.Line.indented 3)).take 3 = before ++ [line] := by decide +kernel
  have hsplit : ∃ after,
      (l.render (.empty .published)).toList.splitOn '\n' = before ++ line :: after := by
    rw [hlines, ← List.take_append_drop 3 (List.map _ _), hfirst, List.append_assoc]
    exact ⟨_, rfl⟩
  have hdepth : (Scan.of (before.flatMap (· ++ ['\n']))).depth line = 1 := by decide +kernel
  obtain ⟨after, hafter⟩ := hsplit
  obtain ⟨-, hdepths, -⟩ := Layout.render_indented "é\n" (.empty .published) 3
  obtain ⟨hinside, hspaces⟩ := hdepths before line after hafter
  rw [hdepth] at hspaces
  exact ⟨⟨after, hafter⟩, hinside, hspaces⟩

end DmlReport
