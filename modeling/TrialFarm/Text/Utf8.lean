/-!
# Reading UTF-8

Bytes become text only if they are well-formed UTF-8. Where they are not, the fault tells how many
leading bytes are well-formed and how long the offending sequence is.

## Main definitions

* `Utf8.Fault`: where and how bytes fail to be UTF-8.
* `Utf8.findFault`: the first fault in a sequence of bytes.
* `Utf8.decode`: the text of well-formed bytes, or the fault.
* `Utf8.encode`: the bytes of a text.
-/

namespace TrialFarm.Utf8

/-- The first place at which bytes are not UTF-8. -/
structure Fault where
  /-- How many bytes before it are well-formed. -/
  index : Nat
  /-- The length of the offending sequence, or nothing if the bytes end within a sequence that
  could still become well-formed. -/
  length : Option Nat
  deriving DecidableEq, Repr

/-- The text shown for a fault. -/
def Fault.message (f : Fault) : String :=
  match f.length with
  | some n => "invalid utf-8 sequence of " ++ toString n ++ " bytes from index " ++ toString f.index
  | none => "incomplete utf-8 byte sequence from index " ++ toString f.index

/-- How many bytes follow a leading byte, and the range of the first of them. A byte that leads
nothing has no answer. -/
def followers (b : UInt8) : Option (Nat × UInt8 × UInt8) :=
  if b < 0x80 then some (0, 0, 0)
  else if b < 0xC2 then none
  else if b < 0xE0 then some (1, 0x80, 0xBF)
  else if b = 0xE0 then some (2, 0xA0, 0xBF)
  else if b = 0xED then some (2, 0x80, 0x9F)
  else if b < 0xF0 then some (2, 0x80, 0xBF)
  else if b = 0xF0 then some (3, 0x90, 0xBF)
  else if b < 0xF4 then some (3, 0x80, 0xBF)
  else if b = 0xF4 then some (3, 0x80, 0x8F)
  else none

/-- Where the reader stands within a sequence. -/
inductive Stage where
  /-- Between sequences. -/
  | start
  /-- Inside the sequence that began at `index`: `seen` bytes are read, `left` are to come, and
  the next must lie between `low` and `high`. -/
  | inside (index seen left : Nat) (low high : UInt8)

/-- The first fault of bytes of which `index` are already read. -/
def findFaultFrom : Stage → Nat → List UInt8 → Option Fault
  | .start, _, [] => none
  | .inside begun _ _ _ _, _, [] => some ⟨begun, none⟩
  | .start, index, b :: bs =>
    match followers b with
    | none => some ⟨index, some 1⟩
    | some (0, _, _) => findFaultFrom .start (index + 1) bs
    | some (n, low, high) => findFaultFrom (.inside index 1 n low high) (index + 1) bs
  | .inside begun seen left low high, index, b :: bs =>
    if low ≤ b && b ≤ high then
      if left ≤ 1 then findFaultFrom .start (index + 1) bs
      else findFaultFrom (.inside begun (seen + 1) (left - 1) 0x80 0xBF) (index + 1) bs
    else some ⟨begun, some seen⟩

/-- The first fault of a sequence of bytes. -/
def findFault (bytes : List UInt8) : Option Fault :=
  findFaultFrom .start 0 bytes

/-- The bytes of a text. -/
def encode (s : String) : List UInt8 :=
  s.toByteArray.data.toList

/-- The text of well-formed bytes. -/
def decode (bytes : List UInt8) : Except Fault String :=
  let array : ByteArray := ⟨bytes.toArray⟩
  if h : array.IsValidUTF8 then .ok (String.ofByteArray array h)
  else .error ((findFault bytes).getD ⟨0, none⟩)

/-- Reading the bytes of a text gives the text back. -/
@[simp] theorem decode_encode (s : String) : decode (encode s) = .ok s := by
  have h : (⟨(encode s).toArray⟩ : ByteArray) = s.toByteArray := by simp [encode]
  simp only [decode, h]
  rw [dif_pos s.isValidUTF8]

/-- Bytes that are read as a text are the bytes of that text. -/
theorem eq_encode_of_decode {bytes : List UInt8} {s : String} (h : decode bytes = .ok s) :
    bytes = encode s := by
  simp only [decode] at h
  split at h
  · cases h
    simp [encode]
  · cases h

end TrialFarm.Utf8
