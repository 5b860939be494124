import Mathlib.Data.Nat.Log
import Mathlib.Tactic.Ring
namespace ZenohDslr.Rounding

variable {n m k shift : Nat}

-- The multiple of 2^shift nearest to a number, of two the even one.
def nearest (shift n : Nat) : Nat :=
  if 2 ^ shift < 2 * (n % 2 ^ shift) ∨ 2 ^ shift = 2 * (n % 2 ^ shift) ∧ n / 2 ^ shift % 2 = 1 then n / 2 ^ shift + 1
  else n / 2 ^ shift

-- Rounding to 53 significant bits.
def places (n : Nat) : Nat := n.log2 - 52

def round (n : Nat) : Nat := nearest (places n) n * 2 ^ places n

theorem places_kept (shifted : places n ≠ 0) : 2 ^ 52 ≤ n / 2 ^ places n ∧ n / 2 ^ places n < 2 ^ 53 := by
  have nonzero : n ≠ 0 := by
    rintro rfl
    simp [places] at shifted
  have exponent : n.log2 = 52 + places n := by unfold places at *; omega
  have low := Nat.log2_self_le nonzero
  have high := @Nat.lt_log2_self n
  rw [exponent] at low high
  constructor
  · exact (Nat.le_div_iff_mul_le (Nat.two_pow_pos _)).mpr (by rw [← Nat.pow_add]; exact low)
  · refine (Nat.div_lt_iff_lt_mul (Nat.two_pow_pos _)).mpr ?_
    rw [← Nat.pow_add]
    exact Nat.lt_of_lt_of_le high (Nat.pow_le_pow_right (by omega) (by omega))

theorem lt_of_places (exact : places n = 0) : n < 2 ^ 53 := by
  have small : n.log2 + 1 ≤ 53 := by unfold places at exact; omega
  exact Nat.lt_of_lt_of_le Nat.lt_log2_self (Nat.pow_le_pow_right (by omega) small)

theorem round_exact (exact : places n = 0) : round n = n := by
  simp [round,exact,nearest,Nat.mod_one]

theorem nearest_bounds : n / 2 ^ shift ≤ nearest shift n ∧ nearest shift n ≤ n / 2 ^ shift + 1 := by
  unfold nearest
  split <;> omega

-- A number of 53 bits at most, with its last place.
structure Representable (m k : Nat) : Prop where
  fits : m < 2 ^ 53
  normal : k = 0 ∨ 2 ^ 52 ≤ m

theorem power_step (below : shift < k) : 2 * 2 ^ shift ≤ 2 ^ k := by
  rw [← Nat.pow_succ']
  exact Nat.pow_le_pow_right (by omega) below

-- On the grid of the bound itself it is the bits dropped that decide, and on a tie
-- the evenness of the bound.
theorem nearest_le_iff : nearest k n ≤ m ↔ 2 * n < (2 * m + 1) * 2 ^ k ∨ 2 * n = (2 * m + 1) * 2 ^ k ∧ m % 2 = 0 := by
  have whole := Nat.div_add_mod n (2 ^ k)
  have rest := Nat.mod_lt n (Nat.two_pow_pos k)
  have bounds := @nearest_bounds n k
  have spread : (2 * m + 1) * 2 ^ k = 2 * (2 ^ k * m) + 2 ^ k := by ring
  rw [spread]
  rcases Nat.lt_trichotomy (n / 2 ^ k) m with below | same | above
  · have room : 2 ^ k * (n / 2 ^ k + 1) ≤ 2 ^ k * m := Nat.mul_le_mul_left _ below
    rw [Nat.mul_add] at room
    exact ⟨fun _ => .inl (by omega),fun _ => by omega⟩
  · rw [same] at whole
    rw [nearest,same]
    split <;> omega
  · have room : 2 ^ k * (m + 1) ≤ 2 ^ k * (n / 2 ^ k) := Nat.mul_le_mul_left _ above
    rw [Nat.mul_add] at room
    exact ⟨fun _ => by omega,fun _ => by omega⟩

-- A rounded number is at most a representable one exactly when the number is
-- below the middle between that one and the next.
theorem round_le_iff (bound : Representable m k) :
    round n ≤ m * 2 ^ k ↔ 2 * n < (2 * m + 1) * 2 ^ k ∨ 2 * n = (2 * m + 1) * 2 ^ k ∧ m % 2 = 0 := by
  have spread : (2 * m + 1) * 2 ^ k = 2 * (m * 2 ^ k) + 2 ^ k := by ring
  have positive := Nat.two_pow_pos k
  have fits := bound.fits
  by_cases exact : places n = 0
  · rw [round_exact exact,spread]
    have small := lt_of_places exact
    rcases Nat.eq_zero_or_pos k with rfl | large
    · simp only [pow_zero] at *
      omega
    · have normal : 2 ^ 52 ≤ m := bound.normal.resolve_left (by omega)
      have step : 2 ^ 52 * 2 ≤ m * 2 ^ k := Nat.mul_le_mul normal (by simpa using power_step large)
      omega
  · obtain ⟨low,high⟩ := places_kept exact
    have whole := Nat.div_add_mod n (2 ^ places n)
    have rest := Nat.mod_lt n (Nat.two_pow_pos (places n))
    have bounds := @nearest_bounds n (places n)
    unfold round
    rcases Nat.lt_trichotomy (places n) k with finer | same | coarser
    · have normal : 2 ^ 52 ≤ m := bound.normal.resolve_left (by omega)
      have step : 2 ^ 52 * (2 * 2 ^ places n) ≤ m * 2 ^ k := Nat.mul_le_mul normal (power_step finer)
      have kept : nearest (places n) n * 2 ^ places n ≤ 2 ^ 53 * 2 ^ places n := Nat.mul_le_mul_right _ (by omega)
      have dropped : 2 ^ places n * (n / 2 ^ places n + 1) ≤ 2 ^ places n * 2 ^ 53 := Nat.mul_le_mul_left _ (by omega)
      rw [Nat.mul_add] at dropped
      rw [spread]
      exact ⟨fun _ => .inl (by omega),fun _ => by omega⟩
    · rw [same,← nearest_le_iff]
      exact ⟨fun below => Nat.le_of_mul_le_mul_right below positive,fun below => Nat.mul_le_mul_right _ below⟩
    · have step : m * 2 ^ k + 2 ^ k ≤ 2 ^ 52 * 2 ^ places n := by
        calc m * 2 ^ k + 2 ^ k = (m + 1) * 2 ^ k := by ring
          _ ≤ 2 ^ 53 * 2 ^ k := Nat.mul_le_mul_right _ fits
          _ = 2 ^ 52 * (2 * 2 ^ k) := by ring
          _ ≤ 2 ^ 52 * 2 ^ places n := Nat.mul_le_mul_left _ (power_step coarser)
      have kept : 2 ^ 52 * 2 ^ places n ≤ nearest (places n) n * 2 ^ places n := Nat.mul_le_mul_right _ (by omega)
      have there : 2 ^ places n * 2 ^ 52 ≤ 2 ^ places n * (n / 2 ^ places n) := Nat.mul_le_mul_left _ low
      rw [spread]
      exact ⟨fun _ => by omega,fun _ => by omega⟩

end ZenohDslr.Rounding
