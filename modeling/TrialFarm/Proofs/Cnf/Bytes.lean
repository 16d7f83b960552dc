import TrialFarm.Cnf.Dimacs

/-!
# Texts as bytes

A formula comes as bytes, which are cut into lines before they are decoded. This makes no
difference: no character but a line feed is written with the byte of a line feed.

## Main statements

* `Text.splitFrom_flatMap`: cutting before and after the elements are written out.
* `Utf8.lineFeed_of_utf8EncodeChar`: the bytes of other characters.
* `Dimacs.parseBytes_encode`: reading the bytes of a text is reading the text.
-/

namespace TrialFarm

namespace Text

variable {α β : Type} {isMark : α → Bool} {marks : β → Bool} {f : α → List β}

theorem splitFrom_unmarked {bs : List β} (unmarked : ∀ b ∈ bs, marks b = false)
    (piece rest : List β) :
    splitFrom marks piece (bs ++ rest) = splitFrom marks (bs.reverse ++ piece) rest := by
  induction bs generalizing piece with
  | nil => rfl
  | cons b bs ih =>
    obtain ⟨first, later⟩ := List.forall_mem_cons.mp unmarked
    rw [List.cons_append, splitFrom, if_neg (by simp [first]), ih later, List.reverse_cons,
      List.append_assoc]
    rfl

/-- A sequence may be cut before or after its elements are written out, if only marks are written
with marks. -/
theorem splitFrom_flatMap (ends : ∀ a, isMark a = true → ∃ b, f a = [b] ∧ marks b = true)
    (others : ∀ a, isMark a = false → f a ≠ [] ∧ ∀ b ∈ f a, marks b = false)
    (as piece : List α) (unmarked : ∀ a ∈ piece, isMark a = false) :
    splitFrom marks (piece.reverse.flatMap f).reverse (as.flatMap f) =
      (splitFrom isMark piece as).map (·.flatMap f) := by
  induction as generalizing piece with
  | nil =>
    cases piece with
    | nil => rfl
    | cons a piece =>
      have written := (others a (unmarked a List.mem_cons_self)).1
      simp [splitFrom, written]
  | cons a as ih =>
    rw [List.flatMap_cons, splitFrom]
    cases mark : isMark a with
    | true =>
      obtain ⟨b, written, marked⟩ := ends a mark
      rw [written, List.singleton_append, splitFrom, if_pos marked, List.reverse_reverse]
      exact congrArg _ (ih [] (by simp))
    | false =>
      have wider : ∀ x ∈ a :: piece, isMark x = false := List.forall_mem_cons.mpr ⟨mark, unmarked⟩
      rw [splitFrom_unmarked (others a mark).2, if_neg (by simp), ← ih _ wider]
      simp

end Text

namespace Utf8

theorem encode_ofList (cs : List Char) :
    encode (String.ofList cs) = cs.flatMap String.utf8EncodeChar := by
  rw [encode, String.toByteArray_ofList, List.utf8Encode, List.data_toByteArray]

theorem ofNat_ne_lineFeed {n : Nat} (other : n ≠ 10) (below : n < 256) :
    (UInt8.ofNat n == 10) = false := by
  rw [beq_eq_false_iff_ne, ne_eq, ← UInt8.toNat_inj, UInt8.toNat_ofNat_of_lt' below]
  exact other

/-- Only a line feed is written with the byte of a line feed. -/
theorem lineFeed_of_utf8EncodeChar {c : Char} (other : (c == '\n') = false) :
    String.utf8EncodeChar c ≠ [] ∧ ∀ b ∈ String.utf8EncodeChar c, (b == 10) = false := by
  have code : c.val.toNat ≠ 10 := by
    intro same
    have feed : c = '\n' := Char.ext (UInt32.toNat_inj.mp same)
    simp [feed] at other
  -- All bytes of a longer sequence are at least 128.
  have high {n : Nat} (above : 128 ≤ n) (below : n < 256) : (UInt8.ofNat n == 10) = false :=
    ofNat_ne_lineFeed (by omega) below
  rw [String.utf8EncodeChar.eq_1]
  by_cases one : c.val.toNat ≤ 127
  · rw [if_pos one]
    simpa using ofNat_ne_lineFeed code (by omega)
  rw [if_neg one]
  by_cases two : c.val.toNat ≤ 2047
  · rw [if_pos two]
    simp only [List.forall_mem_cons, ne_eq, reduceCtorEq, not_false_eq_true, true_and]
    exact ⟨high (by omega) (by omega), high (by omega) (by omega), nofun⟩
  rw [if_neg two]
  by_cases three : c.val.toNat ≤ 65535
  · rw [if_pos three]
    simp only [List.forall_mem_cons, ne_eq, reduceCtorEq, not_false_eq_true, true_and]
    exact ⟨high (by omega) (by omega), high (by omega) (by omega), high (by omega) (by omega),
      nofun⟩
  · rw [if_neg three]
    simp only [List.forall_mem_cons, ne_eq, reduceCtorEq, not_false_eq_true, true_and]
    exact ⟨high (by omega) (by omega), high (by omega) (by omega), high (by omega) (by omega),
      high (by omega) (by omega), nofun⟩

end Utf8

/-- The bytes of a text are read as the text. -/
theorem Dimacs.parseBytes_encode (text : String) :
    parseBytes (Utf8.encode text) = parse text := by
  have lines : Text.splitFrom (· == 10) [] (Utf8.encode text) =
      (Text.splitLines text.toList).map (·.flatMap String.utf8EncodeChar) := by
    rw [← String.ofList_toList (s := text), Utf8.encode_ofList, String.toList_ofList]
    refine Text.splitFrom_flatMap ?_ (fun c => Utf8.lineFeed_of_utf8EncodeChar) text.toList []
      (by simp)
    intro c feed
    rw [beq_iff_eq.mp feed]
    exact ⟨10, by decide, by decide⟩
  rw [parseBytes, parse, lines, List.map_map]
  refine congrArg (readLines 0) (List.map_congr_left fun line _ => ?_)
  rw [Function.comp, ← Utf8.encode_ofList, Utf8.decode_encode]
  exact congrArg some String.toList_ofList

end TrialFarm
