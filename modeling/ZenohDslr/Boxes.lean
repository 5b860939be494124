import Mathlib.Algebra.Order.Floor.Semifield
import Mathlib.Algebra.Order.Field.Basic
import Mathlib.Order.Bounds.Basic
namespace ZenohDslr.Boxes

universe u
variable {K : Type u} [Field K] [LinearOrder K] {bounds : List (K × K)} {start scale : K} {side limit other : Nat}

-- Each bound is a side and the limit it is to stay in. From the start the scale is
-- lowered to the ratio of every bound.
def scaleFrom (start : K) (bounds : List (K × K)) : K := bounds.foldl (fun scale bound => min scale (bound.2 / bound.1)) start

def Allowed (start : K) (bounds : List (K × K)) : Set K := {scale | scale ≤ start ∧ ∀ bound ∈ bounds, bound.1 * scale ≤ bound.2}

-- Where it is lowered at all, a side meets its limit.
theorem scaleFrom_met (start : K) (bounds : List (K × K)) :
    scaleFrom start bounds = start ∨ ∃ bound ∈ bounds, scaleFrom start bounds = bound.2 / bound.1 := by
  induction bounds generalizing start with
  | nil => exact Or.inl rfl
  | cons bound rest ih =>
    have folded : scaleFrom start (bound :: rest) = scaleFrom (min start (bound.2 / bound.1)) rest := rfl
    rw [folded]
    rcases ih (min start (bound.2 / bound.1)) with kept | ⟨other,inside,met⟩
    · rw [kept]
      rcases min_choice start (bound.2 / bound.1) with before | here
      · exact Or.inl before
      · exact Or.inr ⟨bound,List.mem_cons_self,here⟩
    · exact Or.inr ⟨other,List.mem_cons_of_mem _ inside,met⟩

-- A scaled side in whole units, and never none.
def rounded [FloorSemiring K] (side : Nat) (scale : K) : Nat := max 1 ⌊(side : K) * scale⌋₊

theorem rounded_pos [FloorSemiring K] : 0 < rounded side scale := Nat.lt_of_lt_of_le Nat.one_pos (Nat.le_max_left _ _)

variable [IsStrictOrderedRing K]

theorem allowed_cons {side limit : K} (solid : 0 < side) :
    Allowed start ((side,limit) :: bounds) = Allowed (min start (limit / side)) bounds := by
  ext scale
  simp only [Allowed,Set.mem_ofPred_eq,List.forall_mem_cons,le_min_iff,le_div_iff₀' solid,and_assoc]

-- It is the greatest scale that keeps every side in its limit.
theorem scaleFrom_greatest (solid : ∀ bound ∈ bounds, 0 < bound.1) : IsGreatest (Allowed start bounds) (scaleFrom start bounds) := by
  induction bounds generalizing start with
  | nil => exact ⟨⟨le_refl start,by simp⟩,fun scale inside => inside.1⟩
  | cons bound rest ih =>
    obtain ⟨side,limit⟩ := bound
    rw [allowed_cons (solid (side,limit) List.mem_cons_self)]
    exact ih (fun other inside => solid other (List.mem_cons_of_mem _ inside))

theorem scaleFrom_pos (opened : 0 < start) (solid : ∀ bound ∈ bounds, 0 < bound.1) (room : ∀ bound ∈ bounds, 0 < bound.2) :
    0 < scaleFrom start bounds := by
  rcases scaleFrom_met start bounds with same | ⟨bound,inside,met⟩
  · rwa [same]
  · rw [met]
    exact div_pos (room bound inside) (solid bound inside)

variable [FloorSemiring K]

theorem rounded_le_limit (room : 0 < limit) (inside : (side : K) * scale ≤ limit) : rounded side scale ≤ limit := by
  apply max_le room
  exact Nat.floor_le_of_le inside

theorem rounded_le_side (solid : 0 < side) (shrinks : scale ≤ 1) : rounded side scale ≤ side := by
  apply rounded_le_limit solid
  exact mul_le_of_le_one_right (Nat.cast_nonneg side) shrinks

theorem rounded_ratio : rounded other ((limit : K) / side) = max 1 (other * limit / side) := by
  have product : (other : K) * ((limit : K) / side) = ((other * limit : Nat) : K) / (side : Nat) := by
    rw [Nat.cast_mul,mul_div_assoc]
  rw [rounded,product,Nat.floor_div_eq_div]

theorem rounded_exact (solid : 0 < side) (room : 0 < limit) : rounded side ((limit : K) / side) = limit := by
  rw [rounded_ratio,Nat.mul_div_cancel_left limit solid]
  exact max_eq_right room

end ZenohDslr.Boxes
