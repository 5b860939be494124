import Mathlib.Data.List.Infix
import Mathlib.Algebra.Order.Ring.Int
namespace ZenohDslr.AlignedBytes

variable {padding : Nat → UInt8} {out item whole : List UInt8} {size width : Nat}

-- The fillers between the end of what is written and the next multiple of the
-- alignment. Their content is a function of their place, so any content occurs.
def gap (size position : Nat) : Nat := (size - position % size) % size

def fill (padding : Nat → UInt8) (size : Nat) (out : List UInt8) : List UInt8 :=
  out ++ (List.range (gap size out.length)).map (fun i => padding (out.length + i))

def littleEndian : Nat → Nat → List UInt8
  | 0,_ => []
  | width+1,n => UInt8.ofNat n :: littleEndian width (n / 256)

def fromLittleEndian : List UInt8 → Nat
  | [] => 0
  | byte :: rest => byte.toNat + 256 * fromLittleEndian rest

def slice (bytes : List UInt8) (start length : Nat) : List UInt8 := (bytes.drop start).take length

@[simp] theorem littleEndian_length (width n : Nat) : (littleEndian width n).length = width := by
  induction width generalizing n with
  | zero => rfl
  | succ width ih => simp [littleEndian,ih]

theorem from_littleEndian (width n : Nat) (fits : n < 256 ^ width) : fromLittleEndian (littleEndian width n) = n := by
  induction width generalizing n with
  | zero => simp at fits; simp [littleEndian,fromLittleEndian,fits]
  | succ width ih =>
    have smaller : n / 256 < 256 ^ width := by rw [Nat.pow_succ] at fits; omega
    have first : (UInt8.ofNat n).toNat = n % 256 := by simp
    rw [littleEndian,fromLittleEndian,ih _ smaller,first]
    omega

theorem littleEndian_from (bytes : List UInt8) : littleEndian bytes.length (fromLittleEndian bytes) = bytes := by
  induction bytes with
  | nil => rfl
  | cons byte rest ih =>
    have small : byte.toNat < 256 := byte.toNat_lt
    have first : UInt8.ofNat (byte.toNat + 256 * fromLittleEndian rest) = byte := by
      apply UInt8.toNat_inj.mp
      simp only [UInt8.toNat_ofNat']
      omega
    have behind : (byte.toNat + 256 * fromLittleEndian rest) / 256 = fromLittleEndian rest := by omega
    rw [fromLittleEndian,List.length_cons,littleEndian,first,behind,ih]

theorem fromLittleEndian_lt (bytes : List UInt8) : fromLittleEndian bytes < 256 ^ bytes.length := by
  induction bytes with
  | nil => simp [fromLittleEndian]
  | cons byte rest ih =>
    have small : byte.toNat < 256 := byte.toNat_lt
    rw [fromLittleEndian,List.length_cons,Nat.pow_succ]
    omega

@[simp] theorem fill_length : (fill padding size out).length = out.length + gap size out.length := by
  simp [fill]

theorem prefix_fill : out <+: fill padding size out := List.prefix_append _ _

-- Fillers that repeat what the buffer has in their places give the buffer back.
def copied (buffer : List UInt8) (place : Nat) : UInt8 := buffer.getD place 0

theorem fill_copied {buffer : List UInt8} {position : Nat} (room : position + gap size position ≤ buffer.length) :
    fill (copied buffer) size (buffer.take position) = buffer.take (position + gap size position) := by
  have length : (buffer.take position).length = position := by simp; omega
  rw [fill,length,List.take_add]
  congr 1
  apply List.ext_getElem
  · simp; omega
  · intro i left right
    have inside : i < gap size position := by simpa using left
    have there : position + i < buffer.length := by omega
    simp [copied,there]

-- What follows a prefix of the buffer is found at the length of the prefix,
-- whatever comes behind it.
theorem slice_after (there : out ++ item <+: whole) : slice whole out.length item.length = item := by
  obtain ⟨rest,rfl⟩ := there
  simp [slice]

theorem room_after (there : out ++ item <+: whole) : out.length + item.length ≤ whole.length := by
  simpa using there.length_le

end ZenohDslr.AlignedBytes
