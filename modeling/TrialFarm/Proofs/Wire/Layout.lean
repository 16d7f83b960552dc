import Mathlib.Algebra.GroupWithZero.Nat
import TrialFarm.Wire.Layout

/-!
# Canonical layouts

A layout is canonical if values and their bytes determine each other: what was written is read back
whatever follows it, and bytes are read as a value only if they begin with what that value is
written as. Counts take eight bytes, so a value is only read back if it takes fewer than 2^64.

Bytes are split at the end of a number, a text or a list by counts alone, so the laws of pairs and
lists follow from those of their parts.

## Main definitions

* `Canonical`: a layout with exactly one sequence of bytes for each value.

## Main statements

* `readNumber_eq_ok_iff`: numbers and the bytes of their width determine each other.
* `Canonical.transport`: a layout that is read through a bijection is canonical.
* The layouts of numbers, truth values, texts, lists and pairs are canonical.
* `readAll_write`, `eq_write_of_readAll`: payloads and values determine each other.
-/

namespace TrialFarm.Wire

/-! ### Numbers -/

@[simp] theorem length_littleEndian (width n : Nat) : (littleEndian width n).length = width := by
  induction width generalizing n with
  | zero => rfl
  | succ width ih => rw [littleEndian, List.length_cons, ih]

/-- A number that fits its width is read back. -/
theorem ofLittleEndian_littleEndian {width n : Nat} (fits : n < 256 ^ width) :
    ofLittleEndian (littleEndian width n) = n := by
  induction width generalizing n with
  | zero =>
    rw [Nat.pow_zero] at fits
    exact (Nat.lt_one_iff.mp fits).symm
  | succ width ih =>
    rw [Nat.pow_succ] at fits
    have low : (UInt8.ofNat n).toNat = n % 256 := UInt8.toNat_ofNat'
    rw [littleEndian, ofLittleEndian, ih (Nat.div_lt_of_lt_mul (by omega)), low]
    omega

theorem ofLittleEndian_lt (bs : Bytes) : ofLittleEndian bs < 256 ^ bs.length := by
  induction bs with
  | nil => exact Nat.one_pos
  | cons b bs ih =>
    have low : b.toNat < 256 := b.toNat_lt
    rw [ofLittleEndian, List.length_cons, Nat.pow_succ]
    omega

/-- Bytes that are read as a number are written back. -/
theorem littleEndian_ofLittleEndian (bs : Bytes) :
    littleEndian bs.length (ofLittleEndian bs) = bs := by
  induction bs with
  | nil => rfl
  | cons b bs ih =>
    have low : b.toNat < 256 := b.toNat_lt
    have first : UInt8.ofNat (b.toNat + 256 * ofLittleEndian bs) = b := by
      rw [← UInt8.toNat_inj, UInt8.toNat_ofNat']
      omega
    have others : (b.toNat + 256 * ofLittleEndian bs) / 256 = ofLittleEndian bs := by omega
    rw [List.length_cons, ofLittleEndian, littleEndian, first, others, ih]

/-- Bytes are split after exactly so many, if there are as many. -/
theorem splitExactly_eq_some_iff {n : Nat} {bs front rest : Bytes} :
    splitExactly n bs = some (front, rest) ↔ bs = front ++ rest ∧ front.length = n := by
  induction n generalizing bs front with
  | zero =>
    rw [splitExactly, Option.some.injEq, Prod.mk.injEq, List.length_eq_zero_iff]
    constructor
    · rintro ⟨rfl, rfl⟩
      exact ⟨rfl, rfl⟩
    · rintro ⟨rfl, rfl⟩
      exact ⟨rfl, rfl⟩
  | succ n ih =>
    cases bs with
    | nil =>
      rw [splitExactly]
      constructor
      · exact nofun
      · rintro ⟨none, long⟩
        rw [(List.append_eq_nil_iff.mp none.symm).1] at long
        cases long
    | cons b bs =>
      rw [splitExactly]
      constructor
      · intro split
        cases found : splitExactly n bs with
        | none => rw [found] at split; cases split
        | some parts =>
          rw [found] at split
          obtain ⟨rfl, rfl⟩ := Prod.mk.inj (Option.some.inj split)
          obtain ⟨rfl, rfl⟩ := ih.mp found
          exact ⟨rfl, rfl⟩
      · rintro ⟨same, long⟩
        cases front with
        | nil => cases long
        | cons c front =>
          obtain ⟨rfl, others⟩ := List.cons.inj same
          rw [List.length_cons, Nat.add_right_cancel_iff] at long
          rw [ih.mpr ⟨others, long⟩]

/-- A number is read from the bytes of its width and from no others. -/
theorem readNumber_eq_ok_iff {width n : Nat} {bs rest : Bytes} :
    readNumber width bs = .ok (n, rest) ↔
      n < 256 ^ width ∧ bs = littleEndian width n ++ rest := by
  rw [readNumber]
  constructor
  · intro done
    cases split : splitExactly width bs with
    | none => rw [split] at done; cases done
    | some parts =>
      rw [split] at done
      obtain ⟨rfl, rfl⟩ := Prod.mk.inj (Except.ok.inj done)
      obtain ⟨rfl, rfl⟩ := splitExactly_eq_some_iff.mp split
      exact ⟨ofLittleEndian_lt _, by rw [littleEndian_ofLittleEndian]⟩
  · rintro ⟨fits, rfl⟩
    rw [splitExactly_eq_some_iff.mpr ⟨rfl, length_littleEndian width n⟩]
    dsimp only
    rw [ofLittleEndian_littleEndian fits]

/-! ### Canonical layouts -/

/-- A layout in which values and their bytes determine each other. -/
class Canonical (α : Type) [Layout α] : Prop where
  /-- What was written is read back, whatever follows it. -/
  read_write (a : α) (rest : Bytes) (short : (write a).length < 2 ^ 64) :
    read (write a ++ rest) = .ok (a, rest)
  /-- Bytes are read as a value only if they begin with what that value is written as. -/
  eq_write_of_read {bs : Bytes} {a : α} {rest : Bytes} (done : read bs = .ok (a, rest)) :
    bs = write a ++ rest
  /-- Every value takes a byte at least, so a list has no more values than bytes. -/
  write_ne_nil (a : α) : write a ≠ []

export Canonical (read_write eq_write_of_read write_ne_nil)

/-- A layout that is read and written through a bijection is canonical if the one behind it is. -/
theorem Canonical.transport {α β : Type} [Layout α] [Canonical α] [Layout β] {f : α → β}
    {g : β → α} (written : ∀ b, write b = write (g b)) (read_eq : read (α := β) = readAs f)
    (fg : ∀ b, f (g b) = b) (gf : ∀ a, g (f a) = a) : Canonical β where
  read_write b rest short := by
    rw [written] at short
    rw [written, read_eq, readAs, read_write (g b) rest short]
    dsimp only
    rw [fg]
  eq_write_of_read {bs b rest} done := by
    rw [read_eq, readAs] at done
    cases found : read (α := α) bs with
    | error e => rw [found] at done; cases done
    | ok parts =>
      rw [found] at done
      obtain ⟨rfl, rfl⟩ := Prod.mk.inj (Except.ok.inj done)
      rw [written, gf]
      exact eq_write_of_read found
  write_ne_nil b := by
    rw [written]
    exact write_ne_nil (g b)

@[simp] theorem length_write_uint32 (x : UInt32) : (write x).length = 4 :=
  length_littleEndian 4 _

@[simp] theorem length_write_uint64 (x : UInt64) : (write x).length = 8 :=
  length_littleEndian 8 _

@[simp] theorem length_write_int32 (x : Int32) : (write x).length = 4 :=
  length_littleEndian 4 _

@[simp] theorem length_write_binary64 (x : Binary64) : (write x).length = 8 :=
  length_littleEndian 8 _

@[simp] theorem length_write_bool (x : Bool) : (write x).length = 1 := rfl

@[simp] theorem length_writeCount (n : Nat) : (writeCount n).length = 8 :=
  length_littleEndian 8 _

/-- A text is written as its length and its bytes. -/
theorem write_string (s : String) :
    write s = writeCount (Utf8.encode s).length ++ Utf8.encode s := rfl

@[simp] theorem length_write_string (s : String) : (write s).length = 8 + s.utf8ByteSize := by
  rw [write_string, List.length_append, length_writeCount]
  rfl

@[simp] theorem length_write_prod {α β : Type} [Layout α] [Layout β] (p : α × β) :
    (write p).length = (write p.1).length + (write p.2).length :=
  List.length_append

/-- A list takes its count and what its members take. -/
@[simp] theorem length_write_list {α : Type} [Layout α] (as : List α) :
    (write as).length = 8 + (as.map fun a => (write a).length).sum := by
  show (writeCount as.length ++ as.flatMap write).length = _
  rw [List.length_append, length_writeCount, List.length_flatMap]

/-- A layout of numbers is canonical if it has room for all of them. -/
theorem Canonical.ofNumbers {α : Type} [Layout α] {width : Nat} {toNat : α → Nat} {ofNat : Nat → α}
    (written : ∀ a, write a = littleEndian width (toNat a))
    (read_eq : ∀ bs, read (α := α) bs =
      match readNumber width bs with
      | .error e => .error e
      | .ok (n, rest) => .ok (ofNat n, rest))
    (some_room : width ≠ 0) (fits : ∀ a, toNat a < 256 ^ width)
    (ofNat_toNat : ∀ a, ofNat (toNat a) = a)
    (toNat_ofNat : ∀ n, n < 256 ^ width → toNat (ofNat n) = n) : Canonical α where
  read_write a rest _ := by
    rw [read_eq, written, readNumber_eq_ok_iff.mpr ⟨fits a, rfl⟩]
    dsimp only
    rw [ofNat_toNat]
  eq_write_of_read {bs a rest} done := by
    rw [read_eq] at done
    cases found : readNumber width bs with
    | error e => rw [found] at done; cases done
    | ok parts =>
      rw [found] at done
      obtain ⟨rfl, rfl⟩ := Prod.mk.inj (Except.ok.inj done)
      obtain ⟨small, rfl⟩ := readNumber_eq_ok_iff.mp found
      rw [written, toNat_ofNat _ small]
  write_ne_nil a none := by
    have length := length_littleEndian width (toNat a)
    rw [← written, none] at length
    exact some_room length.symm

instance : Canonical UInt32 :=
  .ofNumbers (fun _ => rfl) (fun _ => rfl) (by decide) UInt32.toNat_lt (fun _ => UInt32.ofNat_toNat)
    fun _ small => UInt32.toNat_ofNat_of_lt' small

instance : Canonical UInt64 :=
  .ofNumbers (fun _ => rfl) (fun _ => rfl) (by decide) UInt64.toNat_lt (fun _ => UInt64.ofNat_toNat)
    fun _ small => UInt64.toNat_ofNat_of_lt' small

instance : Canonical Int32 :=
  .transport (g := Int32.toUInt32) (fun _ => rfl) rfl (fun _ => rfl) fun _ => rfl

instance : Canonical Binary64 :=
  .transport (g := Binary64.bits) (fun _ => rfl) rfl (fun _ => rfl) fun _ => rfl

instance : Canonical Bool where
  read_write x rest _ := by
    cases x with
    | false => rfl
    | true => rfl
  eq_write_of_read {bs x rest} done := by
    cases bs with
    | nil => cases done
    | cons b bs =>
      change (if b = 0 then _ else if b = 1 then _ else _) = _ at done
      split at done
      · next zero =>
        obtain ⟨rfl, rfl⟩ := Prod.mk.inj (Except.ok.inj done)
        rw [zero]
        rfl
      split at done
      · next one =>
        obtain ⟨rfl, rfl⟩ := Prod.mk.inj (Except.ok.inj done)
        rw [one]
        rfl
      · cases done
  write_ne_nil x := List.cons_ne_nil _ _

/-- A text is read as its length, then so many bytes, which have to be well encoded. -/
theorem read_string (bs : Bytes) : read (α := String) bs =
    match readNumber 8 bs with
    | .error e => .error e
    | .ok (count, rest) =>
      match splitExactly count rest with
      | none => .error .shortText
      | some (front, rest) =>
        match Utf8.decode front with
        | .error fault => .error (.notText fault)
        | .ok s => .ok (s, rest) := rfl

/-- What is written after a count is not empty. -/
theorem writeCount_append_ne_nil (n : Nat) (bs : Bytes) : writeCount n ++ bs ≠ [] :=
  List.append_ne_nil_of_left_ne_nil (List.ne_nil_of_length_pos (by simp)) _

instance : Canonical String where
  read_write s rest short := by
    rw [length_write_string] at short
    have fits : (Utf8.encode s).length < 256 ^ 8 := Nat.lt_of_le_of_lt (Nat.le_add_left ..) short
    rw [write_string, List.append_assoc, read_string, writeCount,
      readNumber_eq_ok_iff.mpr ⟨fits, rfl⟩]
    dsimp only
    rw [splitExactly_eq_some_iff.mpr ⟨rfl, rfl⟩]
    dsimp only
    rw [Utf8.decode_encode]
  eq_write_of_read {bs s rest} done := by
    rw [read_string] at done
    cases found : readNumber 8 bs with
    | error e => rw [found] at done; cases done
    | ok parts =>
    obtain ⟨count, content⟩ := parts
    rw [found] at done
    dsimp only at done
    cases split : splitExactly count content with
    | none => rw [split] at done; cases done
    | some parts =>
    obtain ⟨front, after⟩ := parts
    rw [split] at done
    dsimp only at done
    cases text : Utf8.decode front with
    | error fault => rw [text] at done; cases done
    | ok t =>
    rw [text] at done
    obtain ⟨rfl, rfl⟩ := Prod.mk.inj (Except.ok.inj done)
    obtain ⟨-, rfl⟩ := readNumber_eq_ok_iff.mp found
    obtain ⟨rfl, rfl⟩ := splitExactly_eq_some_iff.mp split
    obtain rfl := Utf8.eq_encode_of_decode text
    exact (List.append_assoc ..).symm
  write_ne_nil s := writeCount_append_ne_nil _ _

/-! ### Lists and pairs -/

section Compounds

variable {α β : Type} [Layout α] [Layout β]

/-- A list is read as its count, then so many members. -/
theorem read_list (bs : Bytes) : read (α := List α) bs =
    match readNumber 8 bs with
    | .error e => .error e
    | .ok (count, rest) => readMany count rest := rfl

/-- A pair is read one part after the other. -/
theorem read_prod (bs : Bytes) : read (α := α × β) bs =
    match read (α := α) bs with
    | .error e => .error e
    | .ok (a, rest) =>
      match read (α := β) rest with
      | .error e => .error e
      | .ok (b, rest) => .ok ((a, b), rest) := rfl

variable [Canonical α] [Canonical β]

/-- Values are read back one after the other. -/
theorem readMany_flatMap (as : List α) (rest : Bytes) (short : (as.flatMap write).length < 2 ^ 64) :
    readMany as.length (as.flatMap write ++ rest) = .ok (as, rest) := by
  induction as with
  | nil => rfl
  | cons a as ih =>
    rw [List.flatMap_cons, List.length_append] at short
    rw [List.length_cons, List.flatMap_cons, List.append_assoc, readMany,
      read_write a _ (by omega)]
    dsimp only
    rw [ih (by omega)]

/-- Members that are read were written one after the other. -/
theorem eq_flatMap_of_readMany {n : Nat} {bs rest : Bytes} {as : List α}
    (done : readMany n bs = .ok (as, rest)) : as.length = n ∧ bs = as.flatMap write ++ rest := by
  induction n generalizing bs as with
  | zero =>
    obtain ⟨rfl, rfl⟩ := Prod.mk.inj (Except.ok.inj done)
    exact ⟨rfl, rfl⟩
  | succ n ih =>
    rw [readMany] at done
    cases first : read (α := α) bs with
    | error e => rw [first] at done; cases done
    | ok parts =>
    obtain ⟨a, others⟩ := parts
    rw [first] at done
    dsimp only at done
    cases more : readMany (α := α) n others with
    | error e => rw [more] at done; cases done
    | ok parts =>
    rw [more] at done
    obtain ⟨rfl, rfl⟩ := Prod.mk.inj (Except.ok.inj done)
    obtain ⟨count, rfl⟩ := ih more
    refine ⟨congrArg Nat.succ count, ?_⟩
    rw [eq_write_of_read first, List.flatMap_cons, List.append_assoc]

/-- Values of at least one byte each are no more than their bytes. -/
theorem length_le_length_flatMap (as : List α) : as.length ≤ (as.flatMap write).length := by
  induction as with
  | nil => exact Nat.le_refl _
  | cons a as ih =>
    have first := List.length_pos_iff.mpr (write_ne_nil a)
    rw [List.flatMap_cons, List.length_append, List.length_cons]
    omega

instance : Canonical (List α) where
  read_write as rest short := by
    change (writeCount as.length ++ as.flatMap write).length < _ at short
    rw [List.length_append] at short
    have fits : as.length < 256 ^ 8 := by
      have := length_le_length_flatMap as
      omega
    show read ((writeCount as.length ++ as.flatMap write) ++ rest) = _
    rw [List.append_assoc, read_list, writeCount, readNumber_eq_ok_iff.mpr ⟨fits, rfl⟩]
    exact readMany_flatMap as rest (by omega)
  eq_write_of_read {bs as rest} done := by
    rw [read_list] at done
    cases found : readNumber 8 bs with
    | error e => rw [found] at done; cases done
    | ok parts =>
      rw [found] at done
      obtain ⟨-, rfl⟩ := readNumber_eq_ok_iff.mp found
      obtain ⟨count, content⟩ := eq_flatMap_of_readMany done
      show _ = (writeCount as.length ++ as.flatMap write) ++ rest
      rw [count, content, List.append_assoc]
      rfl
  write_ne_nil as := writeCount_append_ne_nil _ _

instance : Canonical (α × β) where
  read_write p rest short := by
    rw [length_write_prod] at short
    show read ((write p.1 ++ write p.2) ++ rest) = _
    rw [List.append_assoc, read_prod, read_write p.1 _ (by omega)]
    dsimp only
    rw [read_write p.2 _ (by omega)]
  eq_write_of_read {bs p rest} done := by
    rw [read_prod] at done
    cases first : read (α := α) bs with
    | error e => rw [first] at done; cases done
    | ok parts =>
    obtain ⟨a, others⟩ := parts
    rw [first] at done
    dsimp only at done
    cases second : read (α := β) others with
    | error e => rw [second] at done; cases done
    | ok parts =>
    rw [second] at done
    obtain ⟨rfl, rfl⟩ := Prod.mk.inj (Except.ok.inj done)
    rw [eq_write_of_read first, eq_write_of_read second, ← List.append_assoc]
    rfl
  write_ne_nil p := List.append_ne_nil_of_left_ne_nil (write_ne_nil p.1) _

/-! ### Whole payloads -/

/-- What is written is read back, to the last byte. -/
theorem readAll_write (a : α) (short : (write a).length < 2 ^ 64) : readAll (write a) = .ok a := by
  have whole := read_write a [] short
  rw [List.append_nil] at whole
  rw [readAll, whole]

/-- What is read to the last byte was written. -/
theorem eq_write_of_readAll {bs : Bytes} {a : α} (done : readAll bs = .ok a) : bs = write a := by
  rw [readAll] at done
  cases found : read (α := α) bs with
  | error e => rw [found] at done; cases done
  | ok parts =>
    obtain ⟨b, rest⟩ := parts
    rw [found] at done
    cases rest with
    | nil =>
      obtain rfl := Except.ok.inj done
      rw [eq_write_of_read found, List.append_nil]
    | cons c rest => cases done

end Compounds

end TrialFarm.Wire
