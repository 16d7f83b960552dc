import TrialFarm.Number.Integer

/-!
# Decimal numbers

What is written as a decimal number is read as the number, if it lies in the range that is asked
for; and nothing outside of that range is ever read.

## Main statements

* `Integer.readNatural_toString`, `Integer.readSigned_toString`: written numbers are read back.
* `Integer.toString_append_inj`: what stands behind a number does not blur it.
* `Integer.readNatural_le`, `Integer.readSigned_bounds`: what is read lies in the range.
-/

namespace TrialFarm.Integer

variable {bound n read low high : Nat} {beyond : Fault} {z : Int} {c : Char} {cs : List Char}

/-! ### Digits -/

/-- Further digits never make a number smaller. -/
theorem le_ofDigitChars (cs : List Char) (read : Nat) : read ≤ Nat.ofDigitChars 10 cs read := by
  rw [Nat.ofDigitChars_eq_ofDigitChars_zero]
  have := Nat.mul_le_mul_right read (Nat.one_le_pow cs.length 10 (by decide))
  omega

/-- Digits are read as the number that they write, if it is not too large. -/
theorem readDigits_of_le (digits : ∀ c ∈ cs, c.isDigit = true)
    (fits : Nat.ofDigitChars 10 cs read ≤ bound) :
    readDigits bound beyond read cs = .ok (Nat.ofDigitChars 10 cs read) := by
  induction cs generalizing read with
  | nil => rfl
  | cons c cs ih =>
    obtain ⟨first, later⟩ := List.forall_mem_cons.mp digits
    rw [Nat.ofDigitChars_cons, Nat.mul_comm] at fits ⊢
    -- No number on the way is larger than the last one.
    have small := Nat.le_trans (le_ofDigitChars cs _) fits
    rw [readDigits, if_pos first, if_neg (Nat.not_lt.mpr small)]
    exact ih later fits

/-- The digits of a number are read back as that number. -/
theorem readDigits_toDigits (fits : n ≤ bound) :
    readDigits bound beyond 0 (Nat.toDigits 10 n) = .ok n := by
  have same : Nat.ofDigitChars 10 (Nat.toDigits 10 n) 0 = n := Nat.ofDigitChars_ten_toDigits
  have digits : ∀ c ∈ Nat.toDigits 10 n, c.isDigit = true := fun c member =>
    Nat.isDigit_of_mem_toDigits (by decide) (by decide) member
  rw [readDigits_of_le digits (Nat.le_trans (Nat.le_of_eq same) fits), same]

/-- No number above the bound is read. -/
theorem readDigits_le (start : read ≤ bound)
    (done : readDigits bound beyond read cs = .ok n) : n ≤ bound := by
  induction cs generalizing read with
  | nil =>
    cases done
    exact start
  | cons c cs ih =>
    rw [readDigits] at done
    split at done
    · dsimp only at done
      split at done
      · cases done
      · next small => exact ih (Nat.not_lt.mp small) done
    · cases done

/-! ### Written numbers -/

/-- A written number begins with a digit, and all of it are digits. -/
theorem toDigits_eq_cons (n : Nat) : ∃ c cs, Nat.toDigits 10 n = c :: cs ∧
    ∀ d ∈ c :: cs, d.isDigit = true := by
  obtain ⟨c, cs, same⟩ := List.exists_cons_of_ne_nil (Nat.toDigits_ne_nil (n := n) (b := 10))
  refine ⟨c, cs, same, fun d member => ?_⟩
  rw [← same] at member
  exact Nat.isDigit_of_mem_toDigits (by decide) (by decide) member

/-- Different numbers have different digits. -/
theorem toDigits_inj {m : Nat} (same : Nat.toDigits 10 m = Nat.toDigits 10 n) : m = n := by
  rw [← Nat.ofDigitChars_ten_toDigits (n := m), same, Nat.ofDigitChars_ten_toDigits]

theorem toList_toString (n : Nat) : (toString n).toList = Nat.toDigits 10 n := by
  rw [Nat.toString_eq_repr, Nat.toList_repr]

/-- A written integer is a written number, perhaps behind a minus sign. -/
theorem toList_toString_int (z : Int) : (toString z).toList =
    if 0 ≤ z then Nat.toDigits 10 z.natAbs else '-' :: Nat.toDigits 10 z.natAbs := by
  rw [Int.toString_eq_repr, Int.repr_eq_if]
  split
  · next nonneg => rw [Nat.toList_repr, show z.toNat = z.natAbs by omega]
  · next negative =>
    rw [String.toList_append, Nat.toList_repr, show (-z).toNat = z.natAbs by omega]
    rfl

theorem readNatural_of_digit (digit : c.isDigit = true) :
    readNatural bound (c :: cs) = readDigits bound .large 0 (c :: cs) := by
  have unsigned : c ≠ '+' := by
    rintro rfl
    cases digit
  unfold readNatural
  split
  · contradiction
  · next same => exact absurd (List.cons.inj same).1 unsigned
  · next same => exact absurd (List.cons.inj same).1 unsigned
  · rfl

theorem readSigned_of_digit (digit : c.isDigit = true) :
    readSigned low high (c :: cs) = (readDigits high .large 0 (c :: cs)).map Int.ofNat := by
  have plus : c ≠ '+' := by
    rintro rfl
    cases digit
  have minus : c ≠ '-' := by
    rintro rfl
    cases digit
  unfold readSigned
  split
  · contradiction
  · next same => exact absurd (List.cons.inj same).1 plus
  · next same => exact absurd (List.cons.inj same).1 minus
  · next same => exact absurd (List.cons.inj same).1 plus
  · next same => exact absurd (List.cons.inj same).1 minus
  · rfl

/-- A written number is read back. -/
theorem readNatural_toString (fits : n ≤ bound) :
    readNatural bound (toString n).toList = .ok n := by
  obtain ⟨c, cs, same, digits⟩ := toDigits_eq_cons n
  rw [toList_toString, same, readNatural_of_digit (digits c List.mem_cons_self), ← same]
  exact readDigits_toDigits fits

/-- A written integer is read back. -/
theorem readSigned_toString (lower : -(low : Int) ≤ z) (upper : z ≤ high) :
    readSigned low high (toString z).toList = .ok z := by
  obtain ⟨c, cs, same, digits⟩ := toDigits_eq_cons z.natAbs
  rw [toList_toString_int]
  split
  · next nonneg =>
    rw [same, readSigned_of_digit (digits c List.mem_cons_self), ← same,
      readDigits_toDigits (by omega)]
    exact congrArg Except.ok (Int.natAbs_of_nonneg nonneg)
  · next negative =>
    have read : readDigits low .small 0 (c :: cs) = .ok z.natAbs := by
      rw [← same]
      exact readDigits_toDigits (by omega)
    rw [same]
    change (readDigits low .small 0 (c :: cs)).map (fun n => -Int.ofNat n) = _
    rw [read]
    exact congrArg Except.ok (by show -((z.natAbs : Nat) : Int) = z; omega)

/-- Different numbers are written differently. -/
theorem toString_inj {m : Nat} : toString m = toString n ↔ m = n := by
  refine ⟨fun same => toDigits_inj ?_, congrArg toString⟩
  rw [← toList_toString, ← toList_toString, same]

/-- A written number tells the number, whatever stands behind it, as long as that does not begin
with a digit. -/
theorem toString_append_inj {m n : Nat} {label s t : String}
    (apart : label.toList.head?.any (fun c => !c.isDigit) = true) :
    toString m ++ (label ++ s) = toString n ++ (label ++ t) ↔ m = n ∧ s = t := by
  obtain ⟨c, cs, begins, other⟩ : ∃ c cs, label.toList = c :: cs ∧ c.isDigit = false := by
    cases chars : label.toList with
    | nil => simp [chars] at apart
    | cons c cs => exact ⟨c, cs, rfl, by simpa [chars] using apart⟩
  have digits (n : Nat) (rest : List Char) :
      (Nat.toDigits 10 n ++ c :: rest).takeWhile Char.isDigit = Nat.toDigits 10 n := by
    rw [List.takeWhile_append_of_pos fun d member =>
      Nat.isDigit_of_mem_toDigits (by decide) (by decide) member,
      List.takeWhile_cons_of_neg (by simp [other]), List.append_nil]
  constructor
  · intro same
    have first := congrArg (fun text => text.toList.takeWhile Char.isDigit) same
    simp only [String.toList_append, toList_toString, begins, List.cons_append, digits] at first
    obtain rfl := toDigits_inj first
    rw [String.append_right_inj, String.append_right_inj] at same
    exact ⟨rfl, same⟩
  · rintro ⟨rfl, rfl⟩
    rfl

/-! ### Ranges -/

/-- A natural number that is read is within its bound. -/
theorem readNatural_le (done : readNatural bound cs = .ok n) : n ≤ bound := by
  unfold readNatural at done
  split at done
  · cases done
  · cases done
  · exact readDigits_le (Nat.zero_le _) done
  · exact readDigits_le (Nat.zero_le _) done

/-- A signed number that is read is within its bounds. -/
theorem readSigned_bounds (done : readSigned low high cs = .ok z) :
    -(low : Int) ≤ z ∧ z ≤ high := by
  have unsigned {cs : List Char} (done : (readDigits high .large 0 cs).map Int.ofNat = .ok z) :
      -(low : Int) ≤ z ∧ z ≤ high := by
    cases read : readDigits high .large 0 cs with
    | error fault => simp [read, Except.map] at done
    | ok n =>
      have small := readDigits_le (Nat.zero_le _) read
      simp only [read, Except.map, Except.ok.injEq, Int.ofNat_eq_natCast] at done
      omega
  unfold readSigned at done
  split at done
  · cases done
  · cases done
  · cases done
  · exact unsigned done
  · next cs _ =>
    cases read : readDigits low .small 0 cs with
    | error fault => simp [read, Except.map] at done
    | ok n =>
      have small := readDigits_le (Nat.zero_le _) read
      simp only [read, Except.map, Except.ok.injEq, Int.ofNat_eq_natCast] at done
      omega
  · exact unsigned done

end TrialFarm.Integer
