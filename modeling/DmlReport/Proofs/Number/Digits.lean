import DmlReport.Number.Shortest

/-!
# Shortest digits are digits

The digits that tell a binary number apart from its neighbours are a decimal numeral: there
is at least one, and the first is no zero unless the number is zero
(`Binary64.shortest_proper`).  The search for them never stops at the count zero, because
zero is too far below a positive number to round to it (`Binary64.roundsFrom_zero`).
-/

namespace Nat

theorem digitChar_ne_zero : ∀ n < 10, 0 < n → n.digitChar ≠ '0' := by
  decide

theorem head?_toDigits {n : Nat} (h : 0 < n) : (toDigits 10 n).head? ≠ some '0' := by
  induction n using Nat.strongRecOn with
  | _ n ih =>
    by_cases hn : n < 10
    · rw [toDigits_of_lt_base hn]
      simpa using digitChar_ne_zero n hn h
    · have hhead := ih (n / 10) (by omega) (by omega)
      obtain ⟨c, digits, hdigits⟩ := List.exists_cons_of_ne_nil
        (toDigits_ne_nil (n := n / 10) (b := 10))
      rw [hdigits] at hhead
      rw [toDigits_of_base_le (by omega) (by omega), hdigits]
      exact hhead

end Nat

namespace DmlReport

/-- Digits that a numeral can be made of. -/
structure DecimalDigits.Proper (d : DecimalDigits) : Prop where
  isDigit : ∀ c ∈ d.digits, c.isDigit = true
  ne_nil : d.digits ≠ []
  leading : d.digits.head? ≠ some '0' ∨ d = ⟨['0'], 1⟩

namespace Binary64

variable {x : Binary64} {count : Nat}

/-- Zero does not round to a positive number. -/
theorem roundsFrom_zero (hx : x.significand ≠ 0) (place : Int) : x.roundsFrom 0 place = false := by
  have hunit : 0 < Nat.pow 10 (-place).toNat <<< x.exponent.toNat := by
    rw [Nat.shiftLeft_eq]
    exact Nat.mul_pos (Nat.pow_pos (by decide)) (Nat.two_pow_pos _)
  have hbelow : (if x.significand = leastFull ∧ minExponent < x.exponent then 1 else 2) ≤ 2 := by
    split <;> decide
  have hleast : 0 < (4 * x.significand -
      if x.significand = leastFull ∧ minExponent < x.exponent then 1 else 2) *
        (Nat.pow 10 (-place).toNat <<< x.exponent.toNat) :=
    Nat.mul_pos (by omega) hunit
  unfold roundsFrom
  simp only [Nat.mul_zero, Nat.zero_mul]
  split
  · exact Bool.and_eq_false_iff.2 (Or.inl (decide_eq_false (Nat.not_le.2 hleast)))
  · exact Bool.and_eq_false_iff.2 (Or.inl (decide_eq_false (Nat.not_lt_zero _)))

theorem divideToEven_pos {num den : Nat} (h : 0 < num / den) : 0 < divideToEven num den := by
  dsimp only [divideToEven]
  split
  · exact h
  · split <;> omega

theorem onGrid_pos (hx : x.significand ≠ 0) {place : Int} (h : x.onGrid place = some count) :
    0 < count := by
  have hlower {n : Nat} (hn : x.roundsFrom n place = true) : 0 < n := by
    rcases Nat.eq_zero_or_pos n with rfl | hpos
    · rw [roundsFrom_zero hx] at hn
      cases hn
    · exact hpos
  dsimp only [onGrid] at h
  split at h
  · rename_i hrounds _
    cases h
    exact divideToEven_pos (hlower hrounds)
  · rename_i hrounds _
    cases h
    exact hlower hrounds
  · cases h
    exact Nat.succ_pos _
  · cases h

theorem proper_zero : DecimalDigits.Proper ⟨['0'], 1⟩ :=
  ⟨List.forall_mem_singleton.2 rfl, List.cons_ne_nil _ _, Or.inr rfl⟩

/-- A positive count without the zeros at its end has proper digits. -/
theorem proper_count (h : 0 < count) (point : Int) :
    DecimalDigits.Proper ⟨((Nat.toDigits 10 count).reverse.dropWhile (· == '0')).reverse, point⟩ := by
  obtain ⟨c, digits, hdigits⟩ := List.exists_cons_of_ne_nil
    (Nat.toDigits_ne_nil (n := count) (b := 10))
  have hfirst : c ≠ '0' := by
    have hhead := Nat.head?_toDigits h
    rw [hdigits] at hhead
    simpa using hhead
  -- The first digit is no zero, so it stands when the zeros behind it are gone.
  have hkept : ((Nat.toDigits 10 count).reverse.dropWhile (· == '0')).reverse =
      c :: (digits.reverse.dropWhile (· == '0')).reverse := by
    rw [hdigits, List.reverse_cons, List.dropWhile_append]
    split
    · rename_i hnone
      rw [List.isEmpty_iff.1 hnone, List.dropWhile_cons_of_neg (by simpa using hfirst)]
      rfl
    · rw [List.reverse_append]
      rfl
  refine ⟨?_, ?_, ?_⟩
  · intro d hd
    have hmem : d ∈ Nat.toDigits 10 count :=
      List.mem_reverse.1 (List.dropWhile_subset _ (List.mem_reverse.1 hd))
    exact Nat.isDigit_of_mem_toDigits (by decide) (by decide) hmem
  · show _ ≠ []
    rw [hkept]
    exact List.cons_ne_nil _ _
  · left
    show List.head? _ ≠ _
    rw [hkept]
    simpa using hfirst

theorem firstHit_proper (hx : x.significand ≠ 0) (point : Int) (fuel used : Nat) :
    (x.firstHit point fuel used).Proper := by
  induction fuel generalizing used with
  | zero => exact proper_zero
  | succ fuel ih =>
    rw [firstHit]
    split
    · rename_i count hgrid
      exact proper_count (onGrid_pos hx hgrid) _
    · exact ih (used + 1)

theorem shortest_proper (x : Binary64) : x.shortest.Proper := by
  unfold shortest
  split
  · exact proper_zero
  · rename_i hx
    exact firstHit_proper hx _ _ _

end Binary64

end DmlReport
