import Mathlib.Algebra.Order.Field.Basic
import ZenohDslr.Ranges
import ZenohDslr.Rounding
namespace ZenohDslr

-- How far apart two numbers are: infinitely, where one of them is infinite, and
-- undefined between an infinity and itself.
inductive Distance : Extended → Extended → Extended → Prop
  | finite (x y : ℚ) : Distance (.ofRat x) (.ofRat y) (.ofRat |x - y|)
  | infinite (x y : Extended) (different : x ≠ y) (far : (∀ q, x ≠ .ofRat q) ∨ ∀ q, y ≠ .ofRat q) : Distance x y ⊤

def Within (a b bound : Option Extended) : Prop :=
  ∃ x y z d, a = some x ∧ b = some y ∧ bound = some z ∧ Distance x y d ∧ d ≤ z

namespace Double

def infinity : Double := ⟨0x7ff0000000000000⟩

-- The value of `a - b` in units, rounded to nearest with ties to even; none is a NaN.
def minus (a b : Double) : Option Int :=
  if a.isNaN || b.isNaN then none
  else if a.isInfinite then (if b.isInfinite && a.sign == b.sign then none else some a.units)
  else if b.isInfinite then some (-b.units)
  else
    let difference := a.units - b.units
    some (difference.sign * (min (Rounding.round difference.natAbs) infinity.magnitude : Nat))

-- `abs(x) > bound`, which no NaN satisfies.
def exceeds (x : Option Int) (bound : Double) : Bool :=
  match x with
  | none => false
  | some n => !bound.isNaN && decide (bound.units < n.natAbs)

def lastPlace (d : Double) : Nat := 2 ^ (d.exponent - 1)

def mantissa (d : Double) : Nat := if d.exponent = 0 then d.fraction else 2 ^ 52 + d.fraction

variable {a b bound : Double}

-- The distance is above the bound, and by so little that it is rounded onto it.
structure Grazes (a b bound : Double) : Prop where
  left : a.isInfinite = false
  right : b.isInfinite = false
  finite : bound.isInfinite = false
  above : bound.units < (a.units - b.units).natAbs
  close : 2 * (((a.units - b.units).natAbs : Int) - bound.units) < bound.lastPlace ∨
    2 * (((a.units - b.units).natAbs : Int) - bound.units) = bound.lastPlace ∧ bound.fraction % 2 = 0

-- The test decides what it looks like it decides.
structure Comparable (a b bound : Double) : Prop where
  left : a.isNaN = false
  right : b.isNaN = false
  limit : bound.isNaN = false
  apart : ¬ (a.isInfinite = true ∧ b.isInfinite = true ∧ a.sign = b.sign)
  clear : ¬ Grazes a b bound

theorem magnitude_mantissa (d : Double) : d.magnitude = d.mantissa * d.lastPlace := by
  unfold magnitude mantissa lastPlace
  split
  · next subnormal => simp [subnormal]
  · rfl

theorem mantissa_parity (d : Double) : d.mantissa % 2 = d.fraction % 2 := by
  unfold mantissa
  split <;> omega

theorem representable (d : Double) : Rounding.Representable d.mantissa (d.exponent - 1) := by
  have small : d.fraction < 2 ^ 52 := Nat.mod_lt _ (Nat.two_pow_pos 52)
  unfold mantissa
  split
  · next subnormal => exact ⟨by omega,.inl (by omega)⟩
  · exact ⟨by omega,.inr (by omega)⟩

theorem magnitude_finite (number : bound.isNaN = false) (finite : bound.isInfinite = false) : bound.magnitude < infinity.magnitude := by
  obtain ⟨limit,isLimit⟩ := exists_limit
  rw [isLimit.infinite infinity rfl]
  exact isLimit.finite bound number finite

theorem rounded_size (difference : Int) (top : Nat) :
    (difference.sign * (min (Rounding.round difference.natAbs) top : Nat)).natAbs = min (Rounding.round difference.natAbs) top := by
  rw [Int.natAbs_mul,Int.natAbs_sign,Int.natAbs_natCast]
  split
  · next zero => simp [zero,Rounding.round_exact (show Rounding.places 0 = 0 from rfl)]
  · exact Nat.one_mul _

-- Finite numbers: the rounded distance is within the bound when the exact one is,
-- and when it grazes it.
theorem exceeds_finite (left : a.isNaN = false ∧ a.isInfinite = false) (right : b.isNaN = false ∧ b.isInfinite = false)
    (finite : bound.isNaN = false ∧ bound.isInfinite = false) :
    exceeds (minus a b) bound = false ↔ ((a.units - b.units).natAbs : Int) ≤ bound.units ∨ Grazes a b bound := by
  have size := rounded_size (a.units - b.units) infinity.magnitude
  have tested : exceeds (minus a b) bound = false ↔
      ((min (Rounding.round (a.units - b.units).natAbs) infinity.magnitude : Nat) : Int) ≤ bound.units := by
    simp only [minus,left,right,Bool.or_self,Bool.false_eq_true,if_false,exceeds,size,finite,Bool.not_false,Bool.true_and,
      decide_eq_false_iff_not,Int.not_lt]
  have grazes : Grazes a b bound ↔ bound.units < (a.units - b.units).natAbs ∧
      (2 * (((a.units - b.units).natAbs : Int) - bound.units) < bound.lastPlace ∨
        2 * (((a.units - b.units).natAbs : Int) - bound.units) = bound.lastPlace ∧ bound.fraction % 2 = 0) :=
    ⟨fun both => ⟨both.above,both.close⟩,fun both => ⟨left.2,right.2,finite.2,both.1,both.2⟩⟩
  have below := magnitude_finite finite.1 finite.2
  have product := magnitude_mantissa bound
  have parity := mantissa_parity bound
  have middle := @Rounding.round_le_iff (a.units - b.units).natAbs _ _ (representable bound)
  have spread : (2 * bound.mantissa + 1) * 2 ^ (bound.exponent - 1) = 2 * (bound.mantissa * bound.lastPlace) + bound.lastPlace := by
    rw [lastPlace]
    ring
  have last : 0 < bound.lastPlace := Nat.two_pow_pos _
  change Rounding.round _ ≤ bound.mantissa * bound.lastPlace ↔ _ at middle
  rw [spread,← product] at middle
  rw [tested,grazes]
  generalize (a.units - b.units).natAbs = n at *
  cases sign : bound.sign with
  | false =>
    have units : bound.units = bound.magnitude := by simp [Double.units,sign]
    rw [units]
    omega
  | true =>
    have units : bound.units = - (bound.magnitude : Int) := by simp [Double.units,sign]
    rw [units]
    rcases Nat.eq_zero_or_pos bound.mantissa with zero | positive
    · rw [zero,Nat.zero_mul] at product
      omega
    · have least : bound.lastPlace ≤ bound.mantissa * bound.lastPlace := Nat.le_mul_of_pos_left _ positive
      omega

-- An exact reading of a finite number, and of an infinite one.
theorem exact_finite (number : a.isNaN = false) (finite : a.isInfinite = false) : a.exact = some (.ofRat (a.units / 2 ^ 1074)) := by
  simp [exact,number,finite]

theorem exact_infinite (infinite : a.isInfinite = true) :
    a.exact = some (if a.sign then ⊥ else ((⊤ : WithTop ℚ) : Extended)) := by
  have number : a.isNaN = false := by
    simp only [isInfinite,Bool.and_eq_true] at infinite
    simp_all [isNaN]
  simp [exact,number,infinite]

theorem number_of_exact {x : Extended} (read : a.exact = some x) : a.isNaN = false := by
  by_contra nan
  simp [exact,nan] at read

theorem distance_units {scale : ℚ} (positive : 0 < scale) (x y z : Int) :
    Extended.ofRat |x / scale - y / scale| ≤ .ofRat (z / scale) ↔ ((x - y).natAbs : Int) ≤ z := by
  rw [← sub_div,abs_div,abs_of_pos positive]
  simp only [Extended.ofRat,WithBot.coe_le_coe,WithTop.coe_le_coe,div_le_div_iff_of_pos_right positive]
  rw [Int.natCast_natAbs]
  norm_cast

theorem distance_finite {p q : ℚ} {d : Extended} (distance : Distance (.ofRat p) (.ofRat q) d) : d = .ofRat |p - q| := by
  generalize left : Extended.ofRat p = x at distance
  generalize right : Extended.ofRat q = y at distance
  cases distance with
  | finite x y =>
    have first : p = x := by simpa [Extended.ofRat] using left
    have second : q = y := by simpa [Extended.ofRat] using right
    rw [first,second]
  | infinite _ _ _ far =>
    rcases far with far | far
    · exact absurd left.symm (far p)
    · exact absurd right.symm (far q)

theorem distance_self {x y d : Extended} (distance : Distance x y d) (same : x = y) : ∃ q, x = .ofRat q := by
  cases distance with
  | finite p q => exact ⟨p,rfl⟩
  | infinite _ _ different _ => exact absurd same different

theorem infinite_ne (sign : Bool) (q : ℚ) : (if sign then ⊥ else ((⊤ : WithTop ℚ) : Extended)) ≠ Extended.ofRat q := by
  cases sign <;> simp [Extended.ofRat]

theorem exact_of_number (number : a.isNaN = false) : ∃ x, a.exact = some x := by
  cases infinite : a.isInfinite with
  | true => exact ⟨_,exact_infinite infinite⟩
  | false => exact ⟨_,exact_finite number infinite⟩

-- Only the same infinity reads as an infinite number does.
theorem infinite_of_exact {x : Extended} (left : a.exact = some x) (right : b.exact = some x) (infinite : a.isInfinite = true) :
    b.isInfinite = true ∧ a.sign = b.sign := by
  rw [exact_infinite infinite] at left
  cases other : b.isInfinite with
  | true =>
    rw [exact_infinite other] at right
    rw [← left] at right
    refine ⟨rfl,?_⟩
    cases first : a.sign <;> cases second : b.sign <;> simp [first,second] at right ⊢
  | false =>
    rw [exact_finite (number_of_exact right) other] at right
    exact absurd (Option.some.inj (left.trans right.symm)) (infinite_ne _ _)

theorem far_of_infinite {x : Extended} (left : a.exact = some x) (infinite : a.isInfinite = true) (q : ℚ) : x ≠ .ofRat q := by
  rw [exact_infinite infinite] at left
  rw [← Option.some.inj left]
  exact infinite_ne _ _

theorem units_infinite (infinite : a.isInfinite = true) : a.units.natAbs = infinity.magnitude := by
  obtain ⟨limit,isLimit⟩ := exists_limit
  rw [isLimit.infinite infinity rfl,← isLimit.infinite a infinite,units]
  split <;> simp

-- A bound that an infinite distance does not exceed is infinite.
theorem exact_top (number : bound.isNaN = false) (reached : (infinity.magnitude : Int) ≤ bound.units) : bound.exact = some ⊤ := by
  obtain ⟨limit,isLimit⟩ := exists_limit
  have positive := isLimit.positive
  rw [isLimit.infinite infinity rfl] at reached
  rcases kinds isLimit number with ⟨_,small,_⟩ | ⟨_,top⟩ | ⟨negative,_⟩
  · omega
  · exact top
  · omega

theorem minus_number (comparable : Comparable a b bound) : ∃ n, minus a b = some n := by
  have different : a.isInfinite = true → (b.isInfinite && a.sign == b.sign) = false := by
    intro infinite
    by_contra same
    simp only [Bool.not_eq_false,Bool.and_eq_true,beq_iff_eq] at same
    exact comparable.apart ⟨infinite,same⟩
  simp only [minus,comparable.left,comparable.right,Bool.or_self,Bool.false_eq_true,if_false]
  split
  · next infinite =>
    rw [different infinite]
    exact ⟨_,rfl⟩
  · split <;> exact ⟨_,rfl⟩

theorem minus_infinite {n : Int} (infinite : a.isInfinite = true ∨ b.isInfinite = true) (read : minus a b = some n) :
    n.natAbs = infinity.magnitude := by
  unfold minus at read
  split_ifs at read with nan left same right
  · cases read
    exact units_infinite left
  · cases read
    rw [Int.natAbs_neg]
    exact units_infinite right
  · exact absurd infinite (by simp [left,right])

theorem passed_le {n : Int} (number : bound.isNaN = false) (read : minus a b = some n) (passes : exceeds (minus a b) bound = false) :
    (n.natAbs : Int) ≤ bound.units := by
  simpa [exceeds,read,number] using passes

theorem within_infinite (comparable : Comparable a b bound) (passes : exceeds (minus a b) bound = false)
    (infinite : a.isInfinite = true ∨ b.isInfinite = true) : Within a.exact b.exact bound.exact := by
  obtain ⟨n,read⟩ := minus_number comparable
  obtain ⟨x,left⟩ := exact_of_number comparable.left
  obtain ⟨y,right⟩ := exact_of_number comparable.right
  have below := passed_le comparable.limit read passes
  rw [minus_infinite infinite read] at below
  refine ⟨x,y,⊤,⊤,left,right,exact_top comparable.limit below,.infinite x y ?_ ?_,le_rfl⟩
  · rintro rfl
    rcases infinite with infinite | infinite
    · obtain ⟨other,sign⟩ := infinite_of_exact left right infinite
      exact comparable.apart ⟨infinite,other,sign⟩
    · obtain ⟨other,sign⟩ := infinite_of_exact right left infinite
      exact comparable.apart ⟨other,infinite,sign.symm⟩
  · exact infinite.imp (far_of_infinite left) (far_of_infinite right)

theorem within_finite (comparable : Comparable a b bound) (passes : exceeds (minus a b) bound = false)
    (left : a.isInfinite = false) (right : b.isInfinite = false) : Within a.exact b.exact bound.exact := by
  have first := exact_finite comparable.left left
  have second := exact_finite comparable.right right
  cases unbounded : bound.isInfinite with
  | false =>
    have limit := exact_finite comparable.limit unbounded
    have below := (exceeds_finite ⟨comparable.left,left⟩ ⟨comparable.right,right⟩ ⟨comparable.limit,unbounded⟩).mp passes
    exact ⟨_,_,_,_,first,second,limit,.finite _ _,(distance_units (by positivity) _ _ _).mpr (below.resolve_right comparable.clear)⟩
  | true =>
    obtain ⟨n,read⟩ := minus_number comparable
    have below := passed_le comparable.limit read passes
    have size := units_infinite unbounded
    exact ⟨_,_,⊤,_,first,second,exact_top comparable.limit (by omega),.finite _ _,le_top⟩

-- A test that lets a pair of numbers pass has them within the bound exactly when
-- the comparison was one of numbers and was not lost in the rounding.
theorem within_iff (passes : exceeds (minus a b) bound = false) : Within a.exact b.exact bound.exact ↔ Comparable a b bound := by
  constructor
  · rintro ⟨x,y,z,d,left,right,limit,distance,below⟩
    refine ⟨number_of_exact left,number_of_exact right,number_of_exact limit,?_,?_⟩
    · rintro ⟨infinite,other,sign⟩
      have same : x = y := by
        rw [exact_infinite other,← sign,← exact_infinite infinite] at right
        exact Option.some.inj (left.symm.trans right)
      obtain ⟨q,rational⟩ := distance_self distance same
      exact far_of_infinite left infinite q rational
    · intro grazes
      rw [exact_finite (number_of_exact left) grazes.left] at left
      rw [exact_finite (number_of_exact right) grazes.right] at right
      rw [exact_finite (number_of_exact limit) grazes.finite] at limit
      cases left
      cases right
      cases limit
      rw [distance_finite distance,distance_units (by positivity)] at below
      have above := grazes.above
      omega
  · intro comparable
    by_cases infinite : a.isInfinite = true ∨ b.isInfinite = true
    · exact within_infinite comparable passes infinite
    · simp only [not_or,Bool.not_eq_true] at infinite
      exact within_finite comparable passes infinite.1 infinite.2

end Double
end ZenohDslr
