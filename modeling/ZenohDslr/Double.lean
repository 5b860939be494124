import Mathlib.Algebra.Order.Ring.Int
namespace ZenohDslr

-- An IEEE 754 binary64 value as its 64 bits, so that negative zero and the
-- payload of a NaN survive every copy.
structure Double where
  bits : UInt64
  deriving DecidableEq,Repr

namespace Double

def sign (d : Double) : Bool := d.bits.toNat / 2 ^ 63 == 1
def exponent (d : Double) : Nat := d.bits.toNat / 2 ^ 52 % 2 ^ 11
def fraction (d : Double) : Nat := d.bits.toNat % 2 ^ 52

def isNaN (d : Double) : Bool := d.exponent == 2047 && d.fraction != 0
def isInfinite (d : Double) : Bool := d.exponent == 2047 && d.fraction == 0

-- The magnitude in units of 2^-1074. Every finite double is a whole number of
-- them; infinity gets the value the next exponent would have, above all others.
def magnitude (d : Double) : Nat :=
  if d.exponent = 0 then d.fraction else (2 ^ 52 + d.fraction) * 2 ^ (d.exponent - 1)

def units (d : Double) : Int := if d.sign then - (d.magnitude : Int) else d.magnitude

-- The comparison `<=`: false as soon as one side is a NaN.
def le (a b : Double) : Bool := !a.isNaN && !b.isNaN && decide (a.units ≤ b.units)

def zero : Double := ⟨0⟩

theorem le_iff (a b : Double) : a.le b = true ↔ a.isNaN = false ∧ b.isNaN = false ∧ a.units ≤ b.units := by
  simp [le,and_assoc]

theorem le_trans {a b c : Double} (first : a.le b = true) (second : b.le c = true) : a.le c = true := by
  obtain ⟨left,_,low⟩ := (le_iff a b).mp first
  obtain ⟨_,right,high⟩ := (le_iff b c).mp second
  exact (le_iff a c).mpr ⟨left,right,Int.le_trans low high⟩

theorem not_nan_of_le_left {a b : Double} (below : a.le b = true) : a.isNaN = false := ((le_iff a b).mp below).1

end Double
end ZenohDslr
