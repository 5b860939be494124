import Mathlib.Algebra.Order.Floor.Semifield
import Mathlib.Data.Rat.Floor
import Mathlib.Tactic.Linarith
import ZenohDslr.FloatText
namespace ZenohDslr.Double

variable {n d m k : Nat} {q r : ℚ}

-- The value of a finite number, and the number nearest to a value that is not
-- negative, as each operation rounds what it computes.
def value (x : Double) : ℚ := x.units / 2 ^ grid

def nearest (q : ℚ) : Double := unpack false (ofRatio (q.num.toNat * 2 ^ grid) q.den)

theorem nearestQuotient_near (positive : 0 < d) :
    2 * (nearestQuotient n d * d) ≤ 2 * n + d ∧ 2 * n ≤ 2 * (nearestQuotient n d * d) + d := by
  have whole := Nat.div_add_mod n d
  have rest := Nat.mod_lt n positive
  rw [Nat.mul_comm] at whole
  unfold nearestQuotient
  split
  · rw [Nat.add_mul,Nat.one_mul]
    omega
  · omega

-- A significand with its implicit bit, or the next power of two.
theorem magnitude_unpack (low : 2 ^ 52 ≤ m) (high : m ≤ 2 ^ 53) (finite : k + 2 < 2047) :
    (unpack false (k * 2 ^ 52 + m)).magnitude = m * 2 ^ k := by
  rcases Nat.lt_or_eq_of_le high with inside | rfl
  · have exponent : (k * 2 ^ 52 + m) / 2 ^ 52 = k + 1 := by omega
    have fraction : (k * 2 ^ 52 + m) % 2 ^ 52 = m - 2 ^ 52 := by omega
    obtain ⟨_,first,last⟩ := @pack_fields false (k + 1) (m - 2 ^ 52) (by omega) (by omega)
    rw [unpack,exponent,fraction,magnitude,first,last,if_neg (by omega),Nat.add_sub_cancel,Nat.add_sub_cancel' low]
  · have exponent : (k * 2 ^ 52 + 2 ^ 53) / 2 ^ 52 = k + 2 := by omega
    have fraction : (k * 2 ^ 52 + 2 ^ 53) % 2 ^ 52 = 0 := by omega
    obtain ⟨_,first,last⟩ := @pack_fields false (k + 2) 0 (by omega) (by omega)
    rw [unpack,exponent,fraction,magnitude,first,last,if_neg (by omega),Nat.add_zero,show k + 2 - 1 = k + 1 from rfl,Nat.pow_succ]
    ring

theorem nearestQuotient_bounds : n / d ≤ nearestQuotient n d ∧ nearestQuotient n d ≤ n / d + 1 := by
  unfold nearestQuotient
  split <;> omega

-- Above the subnormal numbers and below the overflow, half a unit in the last place
-- is at most this part of the ratio.
theorem ofRatio_near (positive : 0 < d) (normal : 2 ^ 52 ≤ n / d) (bounded : n / d < 2 ^ (1023 + grid)) :
    2 ^ 53 * ((unpack false (ofRatio n d)).magnitude * d) ≤ 2 ^ 53 * n + n ∧
      2 ^ 53 * n ≤ 2 ^ 53 * ((unpack false (ofRatio n d)).magnitude * d) + n := by
  have some_left : n / d ≠ 0 := by omega
  have least : 52 ≤ (n / d).log2 := (Nat.le_log2 some_left).mpr normal
  have most : (n / d).log2 < 1023 + grid := (Nat.log2_lt some_left).mpr bounded
  unfold grid at most
  obtain ⟨k,lost⟩ := Nat.exists_eq_add_of_le least
  have drop : dropped n d = k := by rw [dropped,lost]; omega
  have low : 2 ^ 52 * 2 ^ k ≤ n / d := by
    rw [← Nat.pow_add,← lost]
    exact Nat.log2_self_le some_left
  have high : n / d < 2 ^ 53 * 2 ^ k := by
    rw [← Nat.pow_add,show 53 + k = (n / d).log2 + 1 by omega]
    exact Nat.lt_log2_self
  have scaled : n / (d * 2 ^ k) = n / d / 2 ^ k := (Nat.div_div_eq_div_mul n d (2 ^ k)).symm
  have bits := Nat.two_pow_pos k
  have bottom : 2 ^ 52 ≤ n / (d * 2 ^ k) := by
    rw [scaled]
    exact (Nat.le_div_iff_mul_le bits).mpr low
  have top : n / (d * 2 ^ k) < 2 ^ 53 := by
    rw [scaled]
    exact (Nat.div_lt_iff_lt_mul bits).mpr high
  have bounds := @nearestQuotient_bounds n (d * 2 ^ k)
  have near := @nearestQuotient_near n (d * 2 ^ k) (Nat.mul_pos positive bits)
  have bit : 2 ^ 52 * (d * 2 ^ k) ≤ n := by
    calc 2 ^ 52 * (d * 2 ^ k) = d * (2 ^ 52 * 2 ^ k) := by ring
      _ ≤ d * (n / d) := Nat.mul_le_mul_left d low
      _ ≤ n := Nat.mul_div_le n d
  have magnitude : (unpack false (ofRatio n d)).magnitude * d = nearestQuotient n (d * 2 ^ k) * (d * 2 ^ k) := by
    rw [ofRatio,drop,Nat.min_eq_right (by omega),magnitude_unpack (by omega) (by omega) (by omega)]
    ring
  rw [magnitude]
  generalize nearestQuotient n (d * 2 ^ k) * (d * 2 ^ k) = e at near
  generalize d * 2 ^ k = bit at near bit
  omega

theorem nearest_number (q : ℚ) : (nearest q).isNaN = false := by
  have whole : ofRatio (q.num.toNat * 2 ^ grid) q.den ≤ 2047 * 2 ^ 52 := Nat.min_le_left _ _
  obtain ⟨_,exponent,fraction⟩ := @pack_fields false (ofRatio (q.num.toNat * 2 ^ grid) q.den / 2 ^ 52)
    (ofRatio (q.num.toNat * 2 ^ grid) q.den % 2 ^ 52) (by omega) (Nat.mod_lt _ (Nat.two_pow_pos 52))
  rw [isNaN,nearest,unpack,exponent,fraction,Bool.and_eq_false_iff]
  by_cases top : ofRatio (q.num.toNat * 2 ^ grid) q.den / 2 ^ 52 = 2047
  · right
    rw [bne_eq_false_iff_eq]
    omega
  · exact .inl (beq_false_of_ne top)

-- As near to a value as one rounding brings a number.
def Close (x q : ℚ) : Prop := 2 ^ 53 * x ≤ 2 ^ 53 * q + q ∧ 2 ^ 53 * q ≤ 2 ^ 53 * x + q

theorem nearest_units (q : ℚ) : (nearest q).units = (nearest q).magnitude := by
  have whole : ofRatio (q.num.toNat * 2 ^ grid) q.den ≤ 2047 * 2 ^ 52 := Nat.min_le_left _ _
  have unsigned : (nearest q).sign = false := (pack_fields (by omega) (Nat.mod_lt _ (Nat.two_pow_pos 52))).1
  rw [units,unsigned]
  rfl

theorem nearest_value (q : ℚ) : (nearest q).value = (nearest q).magnitude / 2 ^ grid := by
  rw [value,nearest_units,Int.cast_natCast]

theorem nearest_close {low : Nat} (normal : 1 ≤ q * 2 ^ low) (bounded : q < 2 ^ 1023) (fine : low + 52 ≤ grid) : Close (nearest q).value q := by
  have step : (0 : ℚ) < 2 ^ grid := pow_pos two_pos grid
  have positive : 0 < q := by
    by_contra small
    have flat : q * 2 ^ low ≤ 0 := mul_nonpos_of_nonpos_of_nonneg (not_lt.mp small) (pow_nonneg zero_le_two low)
    linarith
  have solid : (0 : ℚ) < q.den := Nat.cast_pos.mpr q.den_pos
  have split : (q.num.toNat : ℚ) = q * q.den := by
    have whole : ((q.num.toNat : Int) : ℚ) = q.num := congrArg (Int.cast : Int → ℚ) (Int.toNat_of_nonneg (Rat.num_nonneg.mpr positive.le))
    rw [Rat.mul_den_eq_num]
    exact_mod_cast whole
  have ratio : ((q.num.toNat * 2 ^ grid : Nat) : ℚ) = q * q.den * 2 ^ grid := by
    rw [Nat.cast_mul,split,Nat.cast_pow,Nat.cast_ofNat]
  have above : 2 ^ 52 ≤ q.num.toNat * 2 ^ grid / q.den := by
    refine (Nat.le_div_iff_mul_le q.den_pos).mpr ((Nat.cast_le (α := ℚ)).mp ?_)
    have reach : (2 : ℚ) ^ 52 ≤ q * 2 ^ grid := by
      calc (2 : ℚ) ^ 52 ≤ q * 2 ^ low * 2 ^ 52 := le_mul_of_one_le_left (by positivity) normal
        _ = q * 2 ^ (low + 52) := by rw [mul_assoc,← pow_add]
        _ ≤ q * 2 ^ grid := mul_le_mul_of_nonneg_left (pow_le_pow_right₀ one_le_two fine) positive.le
    rw [ratio,Nat.cast_mul,Nat.cast_pow,Nat.cast_ofNat,mul_right_comm]
    exact mul_le_mul_of_nonneg_right reach solid.le
  have below : q.num.toNat * 2 ^ grid / q.den < 2 ^ (1023 + grid) := by
    refine (Nat.div_lt_iff_lt_mul q.den_pos).mpr ((Nat.cast_lt (α := ℚ)).mp ?_)
    rw [ratio,Nat.cast_mul,Nat.cast_pow,Nat.cast_ofNat,pow_add,mul_right_comm]
    exact mul_lt_mul_of_pos_right (mul_lt_mul_of_pos_right bounded step) solid
  obtain ⟨upper,under⟩ := ofRatio_near q.den_pos above below
  change 2 ^ 53 * ((nearest q).magnitude * q.den) ≤ _ at upper
  change _ ≤ 2 ^ 53 * ((nearest q).magnitude * q.den) + _ at under
  have upper := (Nat.cast_le (α := ℚ)).mpr upper
  have under := (Nat.cast_le (α := ℚ)).mpr under
  rw [nearest_value]
  simp only [Nat.cast_add,Nat.cast_mul,Nat.cast_pow,Nat.cast_ofNat,split] at upper under
  have unit : (0 : ℚ) < q.den * 2 ^ grid := mul_pos solid step
  have whole : ((nearest q).magnitude : ℚ) = (nearest q).magnitude / 2 ^ grid * 2 ^ grid := (div_mul_cancel₀ _ step.ne').symm
  generalize ((nearest q).magnitude : ℚ) / 2 ^ grid = x at whole
  rw [whole] at upper under
  refine ⟨le_of_mul_le_mul_right ?_ unit,le_of_mul_le_mul_right ?_ unit⟩
  · calc 2 ^ 53 * x * (q.den * 2 ^ grid) = 2 ^ 53 * (x * 2 ^ grid * q.den) := by ring
      _ ≤ 2 ^ 53 * (q * q.den * 2 ^ grid) + q * q.den * 2 ^ grid := upper
      _ = (2 ^ 53 * q + q) * (q.den * 2 ^ grid) := by ring
  · calc 2 ^ 53 * q * (q.den * 2 ^ grid) = 2 ^ 53 * (q * q.den * 2 ^ grid) := by ring
      _ ≤ 2 ^ 53 * (x * 2 ^ grid * q.den) + q * q.den * 2 ^ grid := under
      _ = (2 ^ 53 * x + q) * (q.den * 2 ^ grid) := by ring

-- Whole numbers of 53 bits are numbers of their own.
theorem nearest_whole (small : n < 2 ^ 53) : (nearest n).value = n := by
  have step : (0 : ℚ) < 2 ^ grid := pow_pos two_pos grid
  have ratio : nearest n = unpack false (ofRatio (n * 2 ^ grid) 1) := by
    simp only [nearest,Rat.num_natCast,Rat.den_natCast,Int.toNat_natCast]
  have magnitude : (nearest n).magnitude = n * 2 ^ grid := by
    rcases Nat.eq_zero_or_pos n with rfl | positive
    · rw [ratio,Nat.zero_mul]
      rfl
    · obtain ⟨lacking,places⟩ : ∃ lacking, n.log2 + lacking = 52 := by
        have short : n.log2 < 53 := (Nat.log2_lt positive.ne').mpr small
        exact ⟨52 - n.log2,by omega⟩
      have low : 2 ^ 52 ≤ n * 2 ^ lacking := by
        rw [← places,Nat.pow_add]
        exact Nat.mul_le_mul_right _ (Nat.log2_self_le positive.ne')
      have high : n * 2 ^ lacking < 2 ^ 53 := by
        rw [show (53 : Nat) = n.log2 + 1 + lacking by omega,Nat.pow_add]
        exact Nat.mul_lt_mul_of_pos_right Nat.lt_log2_self (Nat.two_pow_pos lacking)
      obtain ⟨f,leading⟩ := Nat.exists_eq_add_of_le low
      have exponent : 2 ^ grid = 2 ^ lacking * 2 ^ (1022 + n.log2) := by
        rw [← Nat.pow_add,show lacking + (1022 + n.log2) = grid by unfold grid; omega]
      have spread : n * 2 ^ grid = (2 ^ 52 + f) * 2 ^ (1022 + n.log2) := by rw [← leading,exponent,Nat.mul_assoc]
      have read := @ofRatio_normal 1 f (1022 + n.log2) (by omega) (by omega) Nat.one_pos
      rw [Nat.mul_one] at read
      rw [ratio,spread,read,show (1022 + n.log2 + 1) * 2 ^ 52 + f = (1022 + n.log2) * 2 ^ 52 + (2 ^ 52 + f) by ring]
      exact magnitude_unpack (Nat.le_add_right _ _) (by omega) (by omega)
  rw [nearest_value,magnitude,Nat.cast_mul,Nat.cast_pow,Nat.cast_ofNat,mul_div_assoc,div_self step.ne',mul_one]

-- The smaller of two numbers is as close to the smaller of what they round.
theorem close_min {x y : ℚ} (first : Close x q) (second : Close y r) : Close (min x y) (min q r) := by
  obtain ⟨upper,under⟩ := first
  obtain ⟨above,below⟩ := second
  rcases le_total q r with left | left <;> rcases le_total x y with right | right <;>
    simp only [min_eq_left left,min_eq_right left,min_eq_left right,min_eq_right right] <;> exact ⟨by linarith,by linarith⟩

-- Two roundings one behind the other.
def Near (x p : ℚ) : Prop := 2 ^ 53 * x ≤ 2 ^ 53 * p + 3 * p ∧ 2 ^ 53 * p ≤ 2 ^ 53 * x + 3 * p

theorem near_product {x s : ℚ} (side : 0 ≤ r) (factor : Close s q) (product : Close x (r * s)) (positive : 0 ≤ q) : Near x (r * q) := by
  obtain ⟨upper,under⟩ := factor
  obtain ⟨above,below⟩ := product
  have high := mul_le_mul_of_nonneg_left upper side
  have low := mul_le_mul_of_nonneg_left under side
  have nonneg := mul_nonneg side positive
  constructor <;> nlinarith only [above,below,high,low,nonneg]

-- A number so near to a fraction has its whole part, unless the fraction is whole
-- and the number is below it.
theorem near_floor {x p : ℚ} {a b : Nat} (positive : 0 < b) (fraction : p * b = a) (room : 3 * a < 2 ^ 53) (near : Near x p) :
    ⌊x⌋₊ = ⌊p⌋₊ ∨ ⌊x⌋₊ + 1 = ⌊p⌋₊ ∧ p = ⌊p⌋₊ := by
  obtain ⟨upper,under⟩ := near
  have solid : (0 : ℚ) < b := Nat.cast_pos.mpr positive
  have quotient : ⌊p⌋₊ = a / b := by rw [eq_div_of_mul_eq solid.ne' fraction,Nat.floor_div_eq_div]
  have room : (3 : ℚ) * a < 2 ^ 53 := by exact_mod_cast room
  have upper := mul_le_mul_of_nonneg_right upper solid.le
  have under := mul_le_mul_of_nonneg_right under solid.le
  have beneath : (a : ℚ) - 1 < x * b := by nlinarith only [under,fraction,room]
  have above : x * b < a + 1 := by nlinarith only [upper,fraction,room]
  have whole := Nat.div_add_mod a b
  have rest := Nat.mod_lt a positive
  rw [quotient]
  generalize a / b = k at *
  have split : (b : ℚ) * k + (a % b : Nat) = a := by exact_mod_cast whole
  rcases Nat.eq_zero_or_pos (a % b) with exact | broken
  · have equal : p = k := by
      rw [exact,Nat.cast_zero,add_zero] at split
      exact mul_right_cancel₀ solid.ne' (by rw [fraction,← split,mul_comm])
    have one : (1 : ℚ) ≤ b := Nat.one_le_cast.mpr positive
    rw [← fraction,equal] at beneath above
    have high : x < k + 1 := lt_of_mul_lt_mul_right (by linarith) solid.le
    rcases le_or_gt (k : ℚ) x with low | short
    · exact .inl ((Nat.floor_eq_iff ((Nat.cast_nonneg k).trans low)).mpr ⟨low,high⟩)
    · cases k with
      | zero =>
        left
        exact Nat.floor_of_nonpos (by simpa using short.le)
      | succ k =>
        right
        have low : (k : ℚ) < x := lt_of_mul_lt_mul_right (by push_cast at beneath; linarith) solid.le
        refine ⟨?_,equal⟩
        have floor : ⌊x⌋₊ = k := (Nat.floor_eq_iff ((Nat.cast_nonneg k).trans low.le)).mpr ⟨low.le,by exact_mod_cast short⟩
        rw [floor]
  · left
    have broken : (1 : ℚ) ≤ (a % b : Nat) := by exact_mod_cast broken
    have rest : ((a % b : Nat) : ℚ) + 1 ≤ b := by exact_mod_cast rest
    have low : (k : ℚ) ≤ x := le_of_mul_le_mul_right (by linarith) solid
    have high : x < k + 1 := lt_of_mul_lt_mul_right (by linarith) solid.le
    exact (Nat.floor_eq_iff ((Nat.cast_nonneg k).trans low)).mpr ⟨low,high⟩

end ZenohDslr.Double
