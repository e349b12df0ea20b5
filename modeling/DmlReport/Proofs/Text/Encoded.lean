import DmlReport.Proofs.Text.Lines

/-!
# Encoded characters and lines

In the encoding of a text, a byte below 128 stands for the character with that number
and for nothing else (`of_mem_utf8EncodeChar`).  Cutting the bytes of a text at line
feeds therefore cuts the text at its line feeds (`physicalLines_encode`), and taking a
carriage return off the end of a line takes off the character
(`withoutReturn_encode`).
-/

namespace DmlReport.Text

theorem encode_append (cs rest : List Char) : encode (cs ++ rest) = encode cs ++ encode rest :=
  List.flatMap_append

theorem encode_toList (s : String) : encode s.toList = s.toUTF8.data.toList := by
  have h : s.toUTF8 = s.toList.utf8Encode := String.utf8Encode_toList.symm
  rw [h, List.utf8Encode, List.data_toByteArray]
  rfl

theorem decode?_encode (cs : List Char) : decode? (encode cs) = some (String.ofList cs) := by
  have hbytes : (⟨(encode cs).toArray⟩ : ByteArray) = (String.ofList cs).toUTF8 := by
    rw [← String.toList_ofList (l := cs), encode_toList]
    simp
  rw [decode?, hbytes, String.fromUTF8?, String.toUTF8_eq_toByteArray,
    dif_pos (String.ofList cs).isValidUTF8]
  rfl

theorem decode?_eq_some_iff {bytes : List UInt8} {s : String} :
    decode? bytes = some s ↔ encode s.toList = bytes := by
  constructor
  · intro h
    unfold decode? String.fromUTF8? at h
    split at h
    · cases h
      exact encode_toList _
    · cases h
  · rintro rfl
    rw [decode?_encode, String.ofList_toList]

/-- A byte of a character is either the whole of it, with its number, or no less than
128. -/
theorem of_mem_utf8EncodeChar {b : UInt8} {c : Char} (h : b ∈ String.utf8EncodeChar c) :
    (String.utf8EncodeChar c = [b] ∧ c.toNat = b.toNat) ∨ 128 ≤ b.toNat := by
  have hlarge (k m : Nat) (hk : 128 ≤ k) (hm : m + k ≤ 256) (n : Nat) (hpos : 0 < m) :
      128 ≤ (UInt8.ofNat (n % m + k)).toNat := by
    have := Nat.mod_lt n hpos
    rw [UInt8.toNat_ofNat', Nat.mod_eq_of_lt (by omega)]
    omega
  dsimp only [String.utf8EncodeChar] at h ⊢
  split at h
  · rename_i hsmall
    rw [List.mem_singleton.1 h]
    left
    rw [if_pos hsmall]
    refine ⟨rfl, ?_⟩
    rw [UInt8.toNat_ofNat']
    show c.val.toNat = _
    omega
  · right
    split at h
    · simp only [List.mem_cons, List.not_mem_nil, or_false] at h
      rcases h with rfl | rfl <;> exact hlarge _ _ (by omega) (by omega) _ (by omega)
    · split at h
      · simp only [List.mem_cons, List.not_mem_nil, or_false] at h
        rcases h with rfl | rfl | rfl <;> exact hlarge _ _ (by omega) (by omega) _ (by omega)
      · simp only [List.mem_cons, List.not_mem_nil, or_false] at h
        rcases h with rfl | rfl | rfl | rfl <;>
          exact hlarge _ _ (by omega) (by omega) _ (by omega)

theorem not_mem_encode {c : Char} {b : UInt8} (hb : b.toNat < 128) (hc : c.toNat = b.toNat)
    {cs : List Char} (h : c ∉ cs) : b ∉ encode cs := by
  intro hmem
  obtain ⟨c', hc', hbyte⟩ := List.mem_flatMap.1 hmem
  rcases of_mem_utf8EncodeChar hbyte with ⟨-, heq⟩ | hlarge
  · exact h (Char.toNat_inj.1 (heq.trans hc.symm) ▸ hc')
  · omega

/-! ## Lines -/

theorem linesFrom_append {piece : List UInt8} (h : 10 ∉ piece) (line rest : List UInt8) :
    linesFrom line (piece ++ 10 :: rest) =
      (dropReturn (piece.reverse ++ line)).reverse :: linesFrom [] rest := by
  induction piece generalizing line with
  | nil => rfl
  | cons b piece ih =>
    rw [List.mem_cons, not_or] at h
    obtain ⟨hb, hpiece⟩ := h
    rw [List.cons_append, linesFrom, if_neg (Ne.symm hb), ih hpiece, List.reverse_cons,
      List.append_assoc, List.singleton_append]

theorem linesFrom_of_not_mem {piece : List UInt8} (h : 10 ∉ piece) (line : List UInt8) :
    linesFrom line piece = if (piece.reverse ++ line).isEmpty then [] else [line.reverse ++ piece] := by
  induction piece generalizing line with
  | nil => simp [linesFrom]
  | cons b piece ih =>
    rw [List.mem_cons, not_or] at h
    obtain ⟨hb, hpiece⟩ := h
    rw [linesFrom, if_neg (Ne.symm hb), ih hpiece]
    simp

/-- A line of a text, with the line feed that ends it. -/
theorem physicalLines_encode {cs : List Char} (h : '\n' ∉ cs) (rest : List Char) :
    physicalLines (encode (cs ++ '\n' :: rest)) =
      withoutReturn (encode cs) :: physicalLines (encode rest) := by
  have hnone : 10 ∉ encode cs := not_mem_encode (by decide) rfl h
  have hbytes : encode (cs ++ '\n' :: rest) = encode cs ++ 10 :: encode rest := by
    rw [encode_append]
    rfl
  rw [hbytes, physicalLines, linesFrom_append hnone, List.append_nil, dropReturn_reverse,
    List.reverse_reverse]
  rfl

/-- A last line without a line feed. -/
theorem physicalLines_encode_of_not_mem {cs : List Char} (h : '\n' ∉ cs) :
    physicalLines (encode cs) = if cs = [] then [] else [encode cs] := by
  have hnone : 10 ∉ encode cs := not_mem_encode (by decide) rfl h
  rw [physicalLines, linesFrom_of_not_mem hnone]
  cases cs with
  | nil => rfl
  | cons c cs => simp [encode]

/-- A carriage return at the end of a line is the character. -/
theorem withoutReturn_encode (cs : List Char) :
    withoutReturn (encode cs) =
      encode (if cs.getLast? = some '\r' then cs.dropLast else cs) := by
  rcases List.eq_nil_or_concat cs with rfl | ⟨front, c, rfl⟩
  · rfl
  · rw [List.concat_eq_append, encode_append, List.getLast?_concat, List.dropLast_concat]
    by_cases hc : c = '\r'
    · have hbytes : encode [c] = [13] := by
        rw [hc]
        rfl
      rw [if_pos (congrArg some hc), hbytes, withoutReturn, List.getLast?_concat, if_pos rfl,
        List.dropLast_concat]
    · rw [if_neg fun h => hc (Option.some.inj h), encode_append, withoutReturn, if_neg]
      -- The last byte is one of the last character.
      intro hlast
      have hmem : 13 ∈ String.utf8EncodeChar c := by
        have hsingle : encode [c] = String.utf8EncodeChar c := List.flatMap_singleton _ _
        rw [hsingle, List.getLast?_append,
          List.getLast?_eq_some_getLast String.utf8EncodeChar_ne_nil, Option.some_or] at hlast
        exact Option.some.inj hlast ▸ List.getLast_mem _
      rcases of_mem_utf8EncodeChar hmem with ⟨-, heq⟩ | hlarge
      · exact hc (Char.toNat_inj.1 heq)
      · exact absurd hlarge (by decide)

end DmlReport.Text
