import Mathlib.Algebra.Order.Ring.Int
namespace ZenohDslr.Strips

variable {count : Nat} {width x : Int}

-- Strips side by side, each as wide as goes so often into the width, but never
-- nothing; the last one ends with the width.
def step (count : Nat) (width : Int) : Int := max 1 (width / count)

def strip (count : Nat) (width : Int) (index : Nat) : Int × Int :=
  (index * step count width,if index + 1 = count then width else index * step count width + step count width)

structure Inside (width : Int) (edges : Int × Int) : Prop where
  opened : 0 ≤ edges.1
  ordered : edges.1 ≤ edges.2
  closed : edges.2 ≤ width

theorem step_pos (count : Nat) (width : Int) : 1 ≤ step count width := le_max_left _ _

theorem strip_nonneg (index : Nat) : 0 ≤ (strip count width index).1 := by
  have wide := step_pos count width
  exact Int.mul_nonneg (Int.natCast_nonneg index) (by omega)

-- The last one begins within the width once every other one has a unit of its own.
theorem last_begins (several : 0 < count) (fits : (count : Int) ≤ width + 1) : ((count : Int) - 1) * step count width ≤ width := by
  have positive : 0 < (count : Int) := by omega
  by_cases whole : (count : Int) ≤ width
  · have one : 1 ≤ width / count := (Int.le_ediv_iff_mul_le positive).mpr (by omega)
    have divided : step count width = width / count := max_eq_right one
    have all : (count : Int) * (width / count) ≤ width := Int.mul_ediv_self_le (by omega)
    rw [divided,Int.sub_mul]
    omega
  · have none : width / count = 0 := Int.ediv_eq_zero_of_lt (by omega) (by omega)
    have single : step count width = 1 := by simp [step,none]
    rw [single]
    omega

theorem inside_iff (several : 0 < count) :
    (∀ index < count, Inside width (strip count width index)) ↔ (count : Int) ≤ width + 1 := by
  have wide := step_pos count width
  constructor
  · intro all
    have last := (all (count - 1) (by omega)).ordered
    have ends : count - 1 + 1 = count := by omega
    simp only [strip,if_pos ends] at last
    have many : ((count - 1 : Nat) : Int) * 1 ≤ ((count - 1 : Nat) : Int) * step count width :=
      Int.mul_le_mul_of_nonneg_left wide (by omega)
    omega
  · intro fits index inner
    have begins := last_begins several fits
    by_cases last : index + 1 = count
    · have same : (index : Int) = count - 1 := by omega
      refine ⟨strip_nonneg index,?_,?_⟩
      · simp only [strip,if_pos last,same]
        exact begins
      · simp only [strip,if_pos last,le_refl]
    · have next : ((index : Int) + 1) * step count width ≤ ((count : Int) - 1) * step count width :=
        Int.mul_le_mul_of_nonneg_right (by omega) (by omega)
      rw [Int.add_mul,Int.one_mul] at next
      refine ⟨strip_nonneg index,?_,?_⟩
      · simp only [strip,if_neg last]
        omega
      · simp only [strip,if_neg last]
        omega

-- What lies behind all the others lies in the last one.
theorem covered (several : 0 < count) (low : 0 ≤ x) (high : x ≤ width) :
    ∃ index < count, (strip count width index).1 ≤ x ∧ x ≤ (strip count width index).2 := by
  have wide := step_pos count width
  have below : x / step count width * step count width ≤ x := Int.ediv_mul_le x (by omega)
  have above : x < (x / step count width + 1) * step count width := Int.lt_ediv_add_one_mul_self x (by omega)
  have nonneg : 0 ≤ x / step count width := Int.ediv_nonneg low (by omega)
  rw [Int.add_mul,Int.one_mul] at above
  by_cases inner : x / step count width + 1 < count
  · refine ⟨(x / step count width).toNat,by omega,?_⟩
    have index : (((x / step count width).toNat : Nat) : Int) = x / step count width := Int.toNat_of_nonneg nonneg
    have other : ¬(x / step count width).toNat + 1 = count := by omega
    simp only [strip,if_neg other,index]
    omega
  · refine ⟨count - 1,by omega,?_⟩
    have last : count - 1 + 1 = count := by omega
    have behind : ((count - 1 : Nat) : Int) * step count width ≤ x / step count width * step count width :=
      Int.mul_le_mul_of_nonneg_right (by omega) (by omega)
    simp only [strip,if_pos last]
    omega

end ZenohDslr.Strips
