import Mathlib.Algebra.Order.Monoid.WithTop
import Mathlib.Algebra.Order.Ring.Rat
import Mathlib.Tactic.Linarith
import ZenohDslr.Double
namespace ZenohDslr

-- The rationals with both infinities.
abbrev Extended := WithBot (WithTop ℚ)

def Extended.ofRat (q : ℚ) : Extended := ((q : WithTop ℚ) : WithBot (WithTop ℚ))

namespace Double
variable {a b d : Double}

-- The exact number a double stands for; a NaN stands for none.
def exact (d : Double) : Option Extended :=
  if d.isNaN then none
  else if d.isInfinite then some (if d.sign then ⊥ else ((⊤ : WithTop ℚ) : Extended))
  else some (.ofRat (d.units / 2 ^ 1074))

-- The magnitude all infinities have and no finite number reaches.
structure IsLimit (limit : Nat) : Prop where
  positive : 0 < limit
  infinite : ∀ d : Double, d.isInfinite = true → d.magnitude = limit
  finite : ∀ d : Double, d.isNaN = false → d.isInfinite = false → d.magnitude < limit

theorem exponent_inner (number : d.isNaN = false) (finite : d.isInfinite = false) : d.exponent < 2047 := by
  have low : d.exponent < 2 ^ 11 := Nat.mod_lt _ (Nat.two_pow_pos 11)
  have inner : d.exponent ≠ 2047 := by
    intro top
    by_cases zero : d.fraction = 0
    · simp [isInfinite,top,zero] at finite
    · simp [isNaN,top,zero] at number
  omega

theorem exists_limit : ∃ limit, IsLimit limit := by
  obtain ⟨top,last⟩ : ∃ top, top + 1 = 2047 := ⟨2046,rfl⟩
  refine ⟨2 ^ 52 * 2 ^ top,Nat.mul_pos (Nat.two_pow_pos _) (Nat.two_pow_pos _),?_,?_⟩
  · intro d infinite
    obtain ⟨exponent,zero⟩ := Bool.and_eq_true_iff.mp infinite
    have exponent : d.exponent = top + 1 := by rw [last]; simpa using exponent
    have fraction : d.fraction = 0 := by simpa using zero
    rw [magnitude,exponent,fraction]
    rfl
  · intro d number finite
    have small : d.fraction < 2 ^ 52 := Nat.mod_lt _ (Nat.two_pow_pos 52)
    have inner := exponent_inner number finite
    unfold magnitude
    split
    · exact Nat.lt_of_lt_of_le small (Nat.le_mul_of_pos_right _ (Nat.two_pow_pos _))
    · rename_i normal
      obtain ⟨k,exponent⟩ := Nat.exists_eq_succ_of_ne_zero normal
      have power : 2 ^ (k + 1) ≤ 2 ^ top := Nat.pow_le_pow_right (by omega) (by omega)
      have mantissa : 2 ^ 52 + d.fraction < 2 ^ 52 * 2 := by omega
      calc (2 ^ 52 + d.fraction) * 2 ^ (d.exponent - 1)
          = (2 ^ 52 + d.fraction) * 2 ^ k := by simp [exponent]
        _ < 2 ^ 52 * 2 * 2 ^ k := Nat.mul_lt_mul_of_pos_right mantissa (Nat.two_pow_pos k)
        _ = 2 ^ 52 * 2 ^ (k + 1) := by rw [Nat.mul_assoc,← Nat.pow_succ']
        _ ≤ 2 ^ 52 * 2 ^ top := Nat.mul_le_mul_left _ power

-- The three kinds of numbers, by their units and by what they stand for.
theorem kinds {limit : Nat} (isLimit : IsLimit limit) (number : d.isNaN = false) :
    (-(limit : Int) < d.units ∧ d.units < limit ∧ d.exact = some (.ofRat (d.units / 2 ^ 1074))) ∨
    (d.units = limit ∧ d.exact = some ((⊤ : WithTop ℚ) : Extended)) ∨ (d.units = -(limit : Int) ∧ d.exact = some ⊥) := by
  cases infinite : d.isInfinite with
  | false =>
    have small := isLimit.finite d number infinite
    refine .inl ⟨?_,?_,by simp [exact,number,infinite]⟩
    · unfold units; split <;> omega
    · unfold units; split <;> omega
  | true =>
    have large := isLimit.infinite d infinite
    cases sign : d.sign with
    | false => exact .inr (.inl ⟨by simp [units,sign,large],by simp [exact,number,infinite,sign]⟩)
    | true => exact .inr (.inr ⟨by simp [units,sign,large],by simp [exact,number,infinite,sign]⟩)

theorem exact_le {x y : Extended} (first : a.exact = some x) (second : b.exact = some y) : a.units ≤ b.units ↔ x ≤ y := by
  have numbers : ∀ {d : Double} {x : Extended}, d.exact = some x → d.isNaN = false := by
    intro d x read
    by_contra nan
    simp [exact,nan] at read
  obtain ⟨limit,isLimit⟩ := exists_limit
  have positive := isLimit.positive
  have scale : (0 : ℚ) < 2 ^ 1074 := by positivity
  rcases kinds isLimit (numbers first) with ⟨lowA,highA,readA⟩ | ⟨topA,readA⟩ | ⟨botA,readA⟩
  · cases first.symm.trans readA
    rcases kinds isLimit (numbers second) with ⟨lowB,highB,readB⟩ | ⟨topB,readB⟩ | ⟨botB,readB⟩
    · cases second.symm.trans readB
      simp [Extended.ofRat,div_le_div_iff_of_pos_right scale]
    · cases second.symm.trans readB
      have below : a.units ≤ b.units := by omega
      simp [Extended.ofRat,below]
    · cases second.symm.trans readB
      have above : ¬ a.units ≤ b.units := by omega
      simp [Extended.ofRat,above]
  · cases first.symm.trans readA
    rcases kinds isLimit (numbers second) with ⟨lowB,highB,readB⟩ | ⟨topB,readB⟩ | ⟨botB,readB⟩
    · cases second.symm.trans readB
      have above : ¬ a.units ≤ b.units := by omega
      simp [Extended.ofRat,above]
    · cases second.symm.trans readB
      simp [topA,topB]
    · cases second.symm.trans readB
      have above : ¬ a.units ≤ b.units := by omega
      simp [above]
  · cases first.symm.trans readA
    have below : a.units ≤ b.units := by
      rcases kinds isLimit (numbers second) with ⟨lowB,highB,_⟩ | ⟨topB,_⟩ | ⟨botB,_⟩ <;> omega
    simp [below]

-- `<=` compares what the two doubles stand for.
theorem le_exact (a b : Double) : a.le b = true ↔ ∃ x y, a.exact = some x ∧ b.exact = some y ∧ x ≤ y := by
  have read : ∀ d : Double, d.isNaN = false → ∃ x, d.exact = some x := by
    intro d number
    obtain ⟨limit,isLimit⟩ := exists_limit
    rcases kinds isLimit number with ⟨_,_,here⟩ | ⟨_,here⟩ | ⟨_,here⟩ <;> exact ⟨_,here⟩
  rw [le_iff]
  constructor
  · intro both
    obtain ⟨x,first⟩ := read a both.1
    obtain ⟨y,second⟩ := read b both.2.1
    exact ⟨x,y,first,second,(exact_le first second).mp both.2.2⟩
  · intro both
    obtain ⟨x,y,first,second,below⟩ := both
    refine ⟨?_,?_,(exact_le first second).mpr below⟩
    · by_contra nan; simp [exact,nan] at first
    · by_contra nan; simp [exact,nan] at second

end Double

namespace Ranges

-- An integer read exactly.
def whole (n : Int) : Option Extended := some (.ofRat n)

variable {low high step x : Option Extended}

def Between (low high x : Option Extended) : Prop := ∃ l h y, low = some l ∧ high = some h ∧ x = some y ∧ l ≤ y ∧ y ≤ h

-- A positive step allows the points it reaches from the lower end, and the upper end.
def Stepped (low high step x : Option Extended) : Prop :=
  ∀ l h s y, low = some l → high = some h → step = some s → x = some y → 0 < s → y = h ∨ ∃ k : ℕ, y = l + k • s

def Member (low high step x : Option Extended) : Prop := Between low high x ∧ Stepped low high step x

theorem between_whole {l h v : Int} : Between (whole l) (whole h) (whole v) ↔ l ≤ v ∧ v ≤ h := by
  simp [Between,whole,Extended.ofRat]

theorem between_exact {l h v : Double} : Between l.exact h.exact v.exact ↔ (l.le v && v.le h) = true := by
  rw [Bool.and_eq_true,Double.le_exact,Double.le_exact]
  constructor
  · intro between
    obtain ⟨x,y,z,low,high,here,above,below⟩ := between
    exact ⟨⟨x,z,low,here,above⟩,⟨z,y,here,high,below⟩⟩
  · intro both
    obtain ⟨⟨x,z,low,here,above⟩,⟨w,y,again,high,below⟩⟩ := both
    cases here.symm.trans again
    exact ⟨x,y,z,low,high,here,above,below⟩

theorem stepped_whole {l h s v : Int} : Stepped (whole l) (whole h) (whole s) (whole v) ↔
    (0 < s → v = h ∨ ∃ k : ℕ, v = l + k * s) := by
  have reached : ∀ k : ℕ, Extended.ofRat l + k • Extended.ofRat s = Extended.ofRat ((l + k * s : Int) : ℚ) := by
    intro k
    have rational : ((l + k * s : Int) : ℚ) = l + k • (s : ℚ) := by simp
    rw [rational]
    rfl
  have same : ∀ n m : Int, Extended.ofRat n = Extended.ofRat m ↔ n = m := by
    intro n m
    simp [Extended.ofRat]
  have positive : 0 < Extended.ofRat s ↔ 0 < s := by
    simp [Extended.ofRat,← WithBot.coe_zero,← WithTop.coe_zero]
  constructor
  · intro stepped pos
    simpa only [reached,same] using stepped _ _ _ _ rfl rfl rfl rfl (positive.mpr pos)
  · intro stepped a b c y low high step here pos
    cases low; cases high; cases step; cases here
    simpa only [reached,same] using stepped (positive.mp pos)

end Ranges
end ZenohDslr
