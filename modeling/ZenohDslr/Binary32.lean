import ZenohDslr.Ranges
namespace ZenohDslr

-- An IEEE 754 binary32 value as its 32 bits.
structure Binary32 where
  bits : UInt32
  deriving DecidableEq,Repr

namespace Binary32

def sign (s : Binary32) : Bool := s.bits.toNat / 2 ^ 31 == 1
def exponent (s : Binary32) : Nat := s.bits.toNat / 2 ^ 23 % 2 ^ 8
def fraction (s : Binary32) : Nat := s.bits.toNat % 2 ^ 23

def isNaN (s : Binary32) : Bool := s.exponent == 255 && s.fraction != 0
def isInfinite (s : Binary32) : Bool := s.exponent == 255 && s.fraction == 0

-- The magnitude in units of 2^-149.
def magnitude (s : Binary32) : Nat :=
  if s.exponent = 0 then s.fraction else (2 ^ 23 + s.fraction) * 2 ^ (s.exponent - 1)

def units (s : Binary32) : Int := if s.sign then - (s.magnitude : Int) else s.magnitude

def exact (s : Binary32) : Option Extended :=
  if s.isNaN then none
  else if s.isInfinite then some (if s.sign then ⊥ else ((⊤ : WithTop ℚ) : Extended))
  else some (.ofRat (s.units / 2 ^ 149))

end Binary32

namespace Double

def pack (sign : Bool) (exponent fraction : Nat) : Double :=
  ⟨UInt64.ofNat ((if sign then 2 ^ 63 else 0) + exponent * 2 ^ 52 + fraction)⟩

variable {sign : Bool} {exponent fraction : Nat}

theorem pack_fields (exponentFits : exponent < 2 ^ 11) (fractionFits : fraction < 2 ^ 52) :
    (pack sign exponent fraction).sign = sign ∧ (pack sign exponent fraction).exponent = exponent ∧
      (pack sign exponent fraction).fraction = fraction := by
  have whole : (pack sign exponent fraction).bits.toNat = (if sign then 2 ^ 63 else 0) + exponent * 2 ^ 52 + fraction := by
    simp only [pack,UInt64.toNat_ofNat']
    split <;> omega
  refine ⟨?_,?_,?_⟩
  · cases sign <;> simp only [Double.sign,whole,beq_iff_eq,beq_eq_false_iff_ne,Bool.false_eq_true,if_true,if_false] <;> omega
  · rw [Double.exponent,whole]
    split <;> omega
  · rw [Double.fraction,whole]
    split <;> omega

end Double

namespace Binary32

-- The conversion to binary64, which is exact: a subnormal one gets a leading bit.
def widen (s : Binary32) : Double :=
  if s.exponent = 255 then .pack s.sign 2047 (s.fraction * 2 ^ 29)
  else if s.exponent ≠ 0 then .pack s.sign (s.exponent + 896) (s.fraction * 2 ^ 29)
  else if s.fraction = 0 then .pack s.sign 0 0
  else .pack s.sign (s.fraction.log2 + 874) ((s.fraction - 2 ^ s.fraction.log2) * 2 ^ (52 - s.fraction.log2))

-- A unit of 2^-149 is this power of two of the units of 2^-1074.
@[irreducible] def finer : Nat := 925

variable {s : Binary32}

theorem exponent_lt (s : Binary32) : s.exponent < 2 ^ 8 := Nat.mod_lt _ (Nat.two_pow_pos 8)

theorem fraction_lt (s : Binary32) : s.fraction < 2 ^ 23 := Nat.mod_lt _ (Nat.two_pow_pos 23)

theorem widen_special (special : s.exponent = 255) :
    s.widen.sign = s.sign ∧ s.widen.exponent = 2047 ∧ s.widen.fraction = s.fraction * 2 ^ 29 := by
  have small := fraction_lt s
  rw [widen,if_pos special]
  exact Double.pack_fields (by omega) (by omega)

theorem shifts {a b c : Nat} (x e : Nat) (together : a + b = c) : x * 2 ^ a * 2 ^ (e + b) = x * 2 ^ e * 2 ^ c := by
  rw [← together,Nat.pow_add,Nat.pow_add]
  exact Nat.mul_mul_mul_comm _ _ _ _

theorem widen_normal (finite : s.exponent ≠ 255) (normal : s.exponent ≠ 0) :
    s.widen.sign = s.sign ∧ s.widen.exponent < 2047 ∧ s.widen.magnitude = s.magnitude * 2 ^ finer := by
  have small := fraction_lt s
  have bound := exponent_lt s
  obtain ⟨sign,exponent,fraction⟩ := @Double.pack_fields s.sign (s.exponent + 896) (s.fraction * 2 ^ 29) (by omega) (by omega)
  obtain ⟨e,successor⟩ := Nat.exists_eq_succ_of_ne_zero normal
  have leading : 2 ^ 52 + s.fraction * 2 ^ 29 = (2 ^ 23 + s.fraction) * 2 ^ 29 := by omega
  have shifted : s.exponent + 896 - 1 = e + 896 := by omega
  have lower : s.exponent - 1 = e := by omega
  rw [widen,if_neg finite,if_pos normal]
  refine ⟨sign,by omega,?_⟩
  rw [Double.magnitude,exponent,fraction,if_neg (by omega),magnitude,if_neg normal,leading,shifted,lower]
  exact shifts _ _ (by unfold finer; omega)

theorem widen_subnormal (zero : s.exponent = 0) :
    s.widen.sign = s.sign ∧ s.widen.exponent < 2047 ∧ s.widen.magnitude = s.magnitude * 2 ^ finer := by
  have small := fraction_lt s
  rw [widen,if_neg (by omega),if_neg (by omega),magnitude,if_pos zero]
  by_cases none : s.fraction = 0
  · obtain ⟨sign,exponent,fraction⟩ := @Double.pack_fields s.sign 0 0 (by omega) (by omega)
    rw [if_pos none]
    refine ⟨sign,by omega,?_⟩
    rw [Double.magnitude,exponent,fraction,if_pos rfl,none,Nat.zero_mul]
  · have low := Nat.log2_self_le none
    have high := @Nat.lt_log2_self s.fraction
    have top : s.fraction.log2 < 23 := (Nat.log2_lt none).mpr small
    obtain ⟨gap,gapped⟩ := Nat.exists_eq_add_of_le (show s.fraction.log2 ≤ 52 by omega)
    have leading : 2 ^ 52 = 2 ^ s.fraction.log2 * 2 ^ gap := by rw [← Nat.pow_add,← gapped]
    have rest : 52 - s.fraction.log2 = gap := by omega
    rw [Nat.pow_succ] at high
    have fits : (s.fraction - 2 ^ s.fraction.log2) * 2 ^ gap < 2 ^ 52 := by
      rw [leading]
      exact Nat.mul_lt_mul_of_pos_right (by omega) (Nat.two_pow_pos gap)
    obtain ⟨sign,exponent,fraction⟩ := @Double.pack_fields s.sign (s.fraction.log2 + 874) _ (by omega) fits
    rw [if_neg none,rest]
    refine ⟨sign,by omega,?_⟩
    have whole : 2 ^ 52 + (s.fraction - 2 ^ s.fraction.log2) * 2 ^ gap = s.fraction * 2 ^ gap := by
      rw [leading,← Nat.add_mul]
      congr 1
      omega
    have shifted : gap + (s.fraction.log2 + 874 - 1) = finer := by unfold finer; omega
    rw [Double.magnitude,exponent,fraction,if_neg (by omega),whole,Nat.mul_assoc,← Nat.pow_add,shifted]

theorem widen_finite (finite : s.exponent ≠ 255) :
    s.widen.sign = s.sign ∧ s.widen.exponent < 2047 ∧ s.widen.magnitude = s.magnitude * 2 ^ finer := by
  by_cases zero : s.exponent = 0
  · exact widen_subnormal zero
  · exact widen_normal finite zero

theorem widen_isNaN (s : Binary32) : s.widen.isNaN = s.isNaN := by
  apply Bool.eq_iff_iff.mpr
  by_cases special : s.exponent = 255
  · obtain ⟨_,exponent,fraction⟩ := widen_special special
    simp [Double.isNaN,isNaN,exponent,fraction,special]
  · obtain ⟨_,exponent,_⟩ := widen_finite special
    have inner : s.widen.exponent ≠ 2047 := by omega
    simp [Double.isNaN,isNaN,inner,special]

theorem widen_isInfinite (s : Binary32) : s.widen.isInfinite = s.isInfinite := by
  apply Bool.eq_iff_iff.mpr
  by_cases special : s.exponent = 255
  · obtain ⟨_,exponent,fraction⟩ := widen_special special
    simp [Double.isInfinite,isInfinite,exponent,fraction,special]
  · obtain ⟨_,exponent,_⟩ := widen_finite special
    have inner : s.widen.exponent ≠ 2047 := by omega
    simp [Double.isInfinite,isInfinite,inner,special]

theorem widen_sign (s : Binary32) : s.widen.sign = s.sign := by
  by_cases special : s.exponent = 255
  · exact (widen_special special).1
  · exact (widen_finite special).1

theorem widen_units (finite : s.exponent ≠ 255) : s.widen.units = s.units * 2 ^ finer := by
  obtain ⟨sign,_,magnitude⟩ := widen_finite finite
  rw [Double.units,units,sign,magnitude]
  cases s.sign <;> simp

-- The two stand for the same number.
theorem widen_exact (s : Binary32) : s.widen.exact = s.exact := by
  rw [Double.exact,exact,widen_isNaN,widen_isInfinite,widen_sign]
  by_cases special : s.exponent = 255
  · cases zero : s.fraction == 0 <;> simp [isNaN,isInfinite,special,zero,bne]
  · have split : (1074 : ℕ) = 149 + finer := by unfold finer; rfl
    have positive : (2 : ℚ) ^ finer ≠ 0 := pow_ne_zero _ two_ne_zero
    have scaled : (s.widen.units : ℚ) / 2 ^ 1074 = s.units / 2 ^ 149 := by
      rw [widen_units special,split,pow_add,Int.cast_mul,Int.cast_pow,Int.cast_ofNat,mul_div_mul_right _ _ positive]
    rw [scaled]

end Binary32
end ZenohDslr
