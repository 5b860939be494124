import ZenohDslr.Downsampling
import ZenohDslr.FloatArithmetic
namespace ZenohDslr.PiRuntime
open Boxes Double

universe u
variable {Image : Type u} {config : Ros2PublishConfig} {size : Nat × Nat} {side : Nat} {limit : Int} {x y scale : Double} {p : ℚ}

namespace Floats

-- 1.0
def one : Double := nearest 1

-- `min`, which keeps the first of two numbers unless the second is smaller.
def least (x y : Double) : Double := if y.units < x.units then y else x

-- `_downsample` with the numbers it has: a quotient is the nearest to a ratio of
-- integers, a product the nearest to a product of numbers.
def scaleFor (config : Ros2PublishConfig) (width height : Nat) : Double :=
  let scale := one
  let scale := if 0 < config.maxWidth then least scale (nearest (config.maxWidth / width)) else scale
  if 0 < config.maxHeight then least scale (nearest (config.maxHeight / height)) else scale

def times (side : Nat) (scale : Double) : Double := nearest ((nearest side).value * scale.value)

def int (x : Double) : Int := x.units.tdiv (2 ^ grid)

def downsample [Raster Image] (config : Ros2PublishConfig) (image : Image) : Image :=
  if config.maxWidth ≤ 0 ∧ config.maxHeight ≤ 0 then image
  else
    let (width,height) := Raster.size image
    if width = 0 ∨ height = 0 then image
    else
      let scale := scaleFor config width height
      if one.le scale then image
      else Raster.resize image ((max 1 (int (times width scale))).toNat,(max 1 (int (times height scale))).toNat)

-- Every pixel can be counted, and no ratio is beyond the numbers there are.
structure Computable (config : Ros2PublishConfig) (size : Nat × Nat) : Prop where
  pixels : size.1 * size.2 < 2 ^ 51
  maxWidth : config.maxWidth < 2 ^ 1023
  maxHeight : config.maxHeight < 2 ^ 1023

-- A side is what the exact scale makes it; only where that is a whole number
-- before it is cut off, it may be one less.
def Side (given exact small : Nat) (scale : ℚ) : Prop := small = exact ∨ small + 1 = exact ∧ ∃ whole : Nat, (given : ℚ) * scale = whole

structure Nearly (config : Ros2PublishConfig) (size exact small : Nat × Nat) : Prop where
  width : Side size.1 exact.1 small.1 (PiRuntime.scaleFor config size.1 size.2)
  height : Side size.2 exact.2 small.2 (PiRuntime.scaleFor config size.1 size.2)
  solid : 0 < size.1 → 0 < size.2 → 0 < small.1 ∧ 0 < small.2
  fits : 0 < size.1 → 0 < size.2 → Fits config small
  same : small = size ↔ Fits config size ∨ size.1 = 0 ∨ size.2 = 0

theorem one_value : one.value = 1 := by
  have whole := @nearest_whole 1 (by decide)
  rwa [Nat.cast_one] at whole

theorem value_le : x.value ≤ y.value ↔ x.units ≤ y.units := by
  rw [value,value,div_le_div_iff_of_pos_right (pow_pos two_pos grid),Int.cast_le]

theorem least_value (x y : Double) : (least x y).value = min x.value y.value := by
  unfold least
  split
  · rename_i smaller
    rw [min_eq_right (value_le.mpr smaller.le)]
  · rename_i larger
    rw [min_eq_left (value_le.mpr (not_lt.mp larger))]

theorem close_one : Close one.value 1 := by
  rw [one_value]
  constructor <;> norm_num

theorem close_ratio (enabled : 0 < limit) (bounded : limit < 2 ^ 1023) (solid : 0 < side) (small : side < 2 ^ 51) :
    Close (nearest ((limit : ℚ) / side)).value ((limit : ℚ) / side) := by
  have below : (0 : ℚ) < side := Nat.cast_pos.mpr solid
  have small : (side : ℚ) ≤ 2 ^ 51 := by exact_mod_cast small.le
  have least : (1 : ℚ) ≤ limit := by exact_mod_cast enabled
  refine @nearest_close _ 51 ?_ ?_ (by unfold grid; omega)
  · rw [div_mul_eq_mul_div,le_div_iff₀ below,one_mul]
    exact small.trans (le_mul_of_one_le_left (by positivity) least)
  · have bounded : (limit : ℚ) < ((2 ^ 1023 : Int) : ℚ) := Int.cast_lt.mpr bounded
    rw [Int.cast_pow,Int.cast_ofNat] at bounded
    exact (div_le_self (by linarith) (Nat.one_le_cast.mpr solid)).trans_lt bounded

-- A limit that is no less than the side is no less as a number.
theorem ratio_one (enough : side ≤ limit) (bounded : limit < 2 ^ 1023) (solid : 0 < side) (small : side < 2 ^ 51) :
    1 ≤ (nearest ((limit : ℚ) / side)).value := by
  have below : (0 : ℚ) < side := Nat.cast_pos.mpr solid
  rcases eq_or_lt_of_le enough with same | more
  · rw [← same,Int.cast_natCast,div_self below.ne']
    exact one_value.ge
  · obtain ⟨_,under⟩ := close_ratio (by omega) bounded solid small
    have small : (side : ℚ) ≤ 2 ^ 51 := by exact_mod_cast small.le
    have more : (side : ℚ) + 1 ≤ limit := by exact_mod_cast more
    have gap : 1 + 1 / 2 ^ 51 ≤ (limit : ℚ) / side := by
      rw [le_div_iff₀ below]
      have part : 1 / 2 ^ 51 * (side : ℚ) ≤ 1 := by
        rw [div_mul_eq_mul_div,one_mul]
        exact (div_le_one (by positivity)).mpr small
      linarith
    norm_num at under gap ⊢
    linarith

theorem least_number (first : x.isNaN = false) (second : y.isNaN = false) : (least x y).isNaN = false := by
  unfold least
  split
  · exact second
  · exact first

theorem scaleFor_number (config : Ros2PublishConfig) (width height : Nat) : (scaleFor config width height).isNaN = false := by
  unfold scaleFor
  dsimp only
  split <;> split <;> simp only [least_number,nearest_number,one]

section Solid
variable (wide : 0 < size.1) (high : 0 < size.2) (computable : Computable config size)
include wide high computable

theorem sides_small : size.1 < 2 ^ 51 ∧ size.2 < 2 ^ 51 :=
  ⟨(Nat.le_mul_of_pos_right size.1 high).trans_lt computable.pixels,(Nat.le_mul_of_pos_left size.2 wide).trans_lt computable.pixels⟩

theorem scaleFor_close : Close (scaleFor config size.1 size.2).value (PiRuntime.scaleFor config size.1 size.2) := by
  obtain ⟨narrow,low⟩ := sides_small wide high computable
  have first : Close (if 0 < config.maxWidth then least one (nearest (config.maxWidth / size.1)) else one).value
      (if 0 < config.maxWidth then min 1 ((config.maxWidth : ℚ) / size.1) else 1) := by
    split
    · rename_i enabled
      rw [least_value]
      exact close_min close_one (close_ratio enabled computable.maxWidth wide narrow)
    · exact close_one
  unfold scaleFor PiRuntime.scaleFor
  dsimp only
  by_cases enabled : 0 < config.maxHeight
  · rw [if_pos enabled,if_pos enabled,least_value]
    exact close_min first (close_ratio enabled computable.maxHeight high low)
  · rw [if_neg enabled,if_neg enabled]
    exact first

-- A scale below one is below it by more than a rounding.
theorem scale_below (shrinks : PiRuntime.scaleFor config size.1 size.2 < 1) : PiRuntime.scaleFor config size.1 size.2 + 1 / 2 ^ 51 ≤ 1 := by
  obtain ⟨narrow,low⟩ := sides_small wide high computable
  have apart : ∀ {side : Nat} {limit : Int}, 0 < side → side < 2 ^ 51 → (limit : ℚ) / side < 1 → (limit : ℚ) / side + 1 / 2 ^ 51 ≤ 1 := by
    intro side limit solid small less
    have below : (0 : ℚ) < side := Nat.cast_pos.mpr solid
    have small : (side : ℚ) ≤ 2 ^ 51 := by exact_mod_cast small.le
    rw [div_lt_one below] at less
    have less : (limit : ℚ) + 1 ≤ side := by exact_mod_cast (by exact_mod_cast less : limit < side)
    have part : (1 : ℚ) / 2 ^ 51 ≤ 1 / side := one_div_le_one_div_of_le below small
    have room : (limit : ℚ) / side + 1 / side ≤ 1 := by rw [← add_div]; exact (div_le_one below).mpr less
    linarith
  rw [scaleFor_limits] at shrinks ⊢
  rcases scaleFrom_met 1 (limits config (size.1,size.2)) with same | ⟨bound,inside,met⟩
  · exact absurd same shrinks.ne
  · rw [met] at shrinks ⊢
    rcases mem_limits.mp inside with ⟨_,rfl⟩ | ⟨_,rfl⟩
    · exact apart wide narrow shrinks
    · exact apart high low shrinks

-- The number is one or more exactly where the scale is.
theorem one_le : one.le (scaleFor config size.1 size.2) = true ↔ 1 ≤ PiRuntime.scaleFor config size.1 size.2 := by
  obtain ⟨narrow,low⟩ := sides_small wide high computable
  rw [Double.le_iff,← value_le,one_value]
  constructor
  · rintro ⟨_,_,whole⟩
    by_contra less
    obtain ⟨upper,_⟩ := scaleFor_close wide high computable
    have room := scale_below wide high computable (not_le.mp less)
    norm_num at upper room
    linarith
  · intro whole
    obtain ⟨fitsWidth,fitsHeight⟩ := (fits_iff wide high).mpr whole
    have first : 0 < config.maxWidth → 1 ≤ (nearest ((config.maxWidth : ℚ) / size.1)).value :=
      fun on => ratio_one (fitsWidth on) computable.maxWidth wide narrow
    have second : 0 < config.maxHeight → 1 ≤ (nearest ((config.maxHeight : ℚ) / size.2)).value :=
      fun on => ratio_one (fitsHeight on) computable.maxHeight high low
    refine ⟨nearest_number 1,scaleFor_number _ _ _,?_⟩
    unfold scaleFor
    dsimp only
    by_cases across : 0 < config.maxWidth <;> by_cases down : 0 < config.maxHeight <;>
      simp only [across,down,if_true,if_false,least_value,le_min_iff,one_value,le_refl,true_and]
    · exact ⟨first across,second down⟩
    · exact first across
    · exact second down

theorem scale_bounds : 1 ≤ PiRuntime.scaleFor config size.1 size.2 * 2 ^ 51 ∧ PiRuntime.scaleFor config size.1 size.2 ≤ 1 := by
  obtain ⟨narrow,low⟩ := sides_small wide high computable
  have apart : ∀ {side : Nat} {limit : Int}, 0 < side → side < 2 ^ 51 → 0 < limit → 1 ≤ (limit : ℚ) / side * 2 ^ 51 := by
    intro side limit solid small enabled
    have small : (side : ℚ) ≤ 2 ^ 51 := by exact_mod_cast small.le
    have least : (1 : ℚ) ≤ limit := by exact_mod_cast enabled
    rw [div_mul_eq_mul_div,le_div_iff₀ (Nat.cast_pos.mpr solid),one_mul]
    exact small.trans (le_mul_of_one_le_left (by positivity) least)
  refine ⟨?_,(scaleFor_greatest wide high).1.1⟩
  rw [scaleFor_limits]
  rcases scaleFrom_met 1 (limits config (size.1,size.2)) with same | ⟨bound,inside,met⟩
  · rw [same]
    norm_num
  · rw [met]
    rcases mem_limits.mp inside with ⟨enabled,rfl⟩ | ⟨enabled,rfl⟩
    · exact apart wide narrow enabled
    · exact apart high low enabled

-- A side times the scale, by the number for the scale and rounded once more.
theorem times_near (solid : 0 < side) (small : side < 2 ^ 51) :
    Near (times side (scaleFor config size.1 size.2)).value (side * PiRuntime.scaleFor config size.1 size.2) := by
  obtain ⟨least,most⟩ := scale_bounds wide high computable
  have factor := scaleFor_close wide high computable
  have some_side : (1 : ℚ) ≤ side := Nat.one_le_cast.mpr solid
  have small_side : (side : ℚ) ≤ 2 ^ 51 := by exact_mod_cast small.le
  generalize (scaleFor config size.1 size.2) = scale at factor ⊢
  generalize PiRuntime.scaleFor config size.1 size.2 = s at least most factor ⊢
  obtain ⟨upper,under⟩ := factor
  have low : 1 ≤ scale.value * 2 ^ 52 := by norm_num at least under ⊢; linarith
  have high : scale.value ≤ 2 := by norm_num at upper; linarith
  refine near_product (by linarith) ⟨upper,under⟩ ?_ (by norm_num at least; linarith)
  rw [times,nearest_whole (by omega)]
  refine @nearest_close _ 52 ?_ ?_ (by unfold grid; omega)
  · rw [mul_assoc]
    exact low.trans (le_mul_of_one_le_left (by linarith) some_side)
  · calc (side : ℚ) * scale.value ≤ 2 ^ 51 * 2 := mul_le_mul small_side high (by norm_num at low; linarith) (by positivity)
      _ = 2 ^ 52 := by norm_num
      _ < 2 ^ 1023 := pow_lt_pow_right₀ one_lt_two (by omega)

end Solid

theorem int_floor (q : ℚ) : (max 1 (int (nearest q))).toNat = max 1 ⌊(nearest q).value⌋₊ := by
  have step : ((2 ^ grid : Nat) : ℚ) = 2 ^ grid := by rw [Nat.cast_pow,Nat.cast_ofNat]
  have whole : int (nearest q) = ((nearest q).magnitude / 2 ^ grid : Nat) := by
    rw [int,nearest_units,show (2 ^ grid : Int) = (2 ^ grid : Nat) by rw [Nat.cast_pow,Nat.cast_ofNat],← Int.ofNat_tdiv]
  rw [nearest_value,← step,Nat.floor_div_eq_div,whole]
  omega

-- The exact side, or one less where the product is whole.
theorem side_near {a b : Nat} {s : ℚ} (near : Near (times side scale).value (side * s)) (positive : 0 < b)
    (fraction : side * s * b = a) (room : 3 * a < 2 ^ 53) : Side side (rounded side s) (max 1 (int (times side scale))).toNat s := by
  rw [times] at near ⊢
  rw [int_floor,rounded]
  rcases near_floor positive fraction room near with same | ⟨less,whole⟩
  · rw [same]
    exact .inl rfl
  · rcases Nat.eq_zero_or_pos ⌊(nearest ((nearest side).value * scale.value)).value⌋₊ with none_left | some_left
    · left
      rw [← less,none_left]
      rfl
    · right
      exact ⟨by omega,_,whole⟩

-- One side meets its limit; the other one, by its product with that side, is known
-- well enough for its whole part.
theorem side_computed {given : Nat} {s : ℚ} (solid : 0 < side) (enabled : 0 < limit) (ratio : s = (limit : ℚ) / side) (shrinks : s < 1)
    (near : Near (times given scale).value (given * s)) (small : side < 2 ^ 51) (counted : given = side ∨ given * side < 2 ^ 51) :
    Side given (rounded given s) (max 1 (int (times given scale))).toNat s := by
  have below : (0 : ℚ) < side := Nat.cast_pos.mpr solid
  have kept : s * side = limit.toNat := by rw [ratio,div_mul_cancel₀ _ below.ne',cast_limit enabled]
  have less : limit.toNat < side := by
    have cut : s * side < side := mul_lt_of_lt_one_left below shrinks
    rw [kept] at cut
    exact_mod_cast cut
  rcases counted with rfl | counted
  · refine @side_near given _ limit.toNat 1 s near Nat.one_pos ?_ (by omega)
    rw [Nat.cast_one,mul_one,mul_comm,kept]
  · refine @side_near given _ (given * limit.toNat) side s near solid ?_ ?_
    · rw [mul_assoc,kept,Nat.cast_mul]
    · have part : given * limit.toNat ≤ given * side := Nat.mul_le_mul_left given less.le
      omega

theorem downsample_kept [Raster Image] {image : Image} (computable : Computable config (Raster.size image))
    (kept : Fits config (Raster.size image) ∨ (Raster.size image).1 = 0 ∨ (Raster.size image).2 = 0) : downsample config image = image := by
  unfold downsample
  split
  · rfl
  · simp only
    split
    · rfl
    · rename_i solid
      have wide : 0 < (Raster.size image).1 := by omega
      have high : 0 < (Raster.size image).2 := by omega
      rw [if_pos ((one_le wide high computable).mpr ((fits_iff wide high).mp (kept.resolve_right solid)))]

theorem Side.le {given exact small : Nat} {s : ℚ} (side : Side given exact small s) : small ≤ exact := by
  rcases side with same | ⟨less,_⟩ <;> omega

theorem resized [Raster Image] {image : Image} (wide : 0 < (Raster.size image).1) (high : 0 < (Raster.size image).2)
    (computable : Computable config (Raster.size image)) (larger : ¬Fits config (Raster.size image)) :
    Raster.size (downsample config image) =
      ((max 1 (int (times (Raster.size image).1 (scaleFor config (Raster.size image).1 (Raster.size image).2)))).toNat,
        (max 1 (int (times (Raster.size image).2 (scaleFor config (Raster.size image).1 (Raster.size image).2)))).toNat) := by
  have enabled : ¬(config.maxWidth ≤ 0 ∧ config.maxHeight ≤ 0) :=
    fun off => larger ⟨fun on => absurd on (by omega),fun on => absurd on (by omega)⟩
  have solid : ¬((Raster.size image).1 = 0 ∨ (Raster.size image).2 = 0) := by omega
  have below : ¬one.le (scaleFor config (Raster.size image).1 (Raster.size image).2) = true :=
    fun whole => larger ((fits_iff wide high).mpr ((one_le wide high computable).mp whole))
  simp only [downsample,if_neg enabled,if_neg solid,if_neg below]
  exact Raster.size_resize _ _ _ (by omega) (by omega)

theorem sides_computed (wide : 0 < size.1) (high : 0 < size.2) (computable : Computable config size) {exact : Nat × Nat}
    (shrunk : Shrunk config size exact (PiRuntime.scaleFor config size.1 size.2)) :
    Side size.1 exact.1 (max 1 (int (times size.1 (scaleFor config size.1 size.2)))).toNat (PiRuntime.scaleFor config size.1 size.2) ∧
      Side size.2 exact.2 (max 1 (int (times size.2 (scaleFor config size.1 size.2)))).toNat (PiRuntime.scaleFor config size.1 size.2) := by
  obtain ⟨narrow,low⟩ := sides_small wide high computable
  have across := times_near wide high computable wide narrow
  have down := times_near wide high computable high low
  have pixels := computable.pixels
  obtain ⟨bound,inside,ratio⟩ := shrunk.ratio
  rw [shrunk.small]
  rcases mem_limits.mp inside with ⟨enabled,rfl⟩ | ⟨enabled,rfl⟩
  · exact ⟨side_computed wide enabled ratio shrunk.shrinks across narrow (.inl rfl),
      side_computed wide enabled ratio shrunk.shrinks down narrow (.inr (by rwa [Nat.mul_comm]))⟩
  · exact ⟨side_computed high enabled ratio shrunk.shrinks across low (.inr pixels),
      side_computed high enabled ratio shrunk.shrinks down low (.inl rfl)⟩

theorem downsample_shrunk [Raster Image] {image : Image} (wide : 0 < (Raster.size image).1) (high : 0 < (Raster.size image).2)
    (computable : Computable config (Raster.size image)) (larger : ¬Fits config (Raster.size image)) :
    Nearly config (Raster.size image) (Raster.size (PiRuntime.downsample config image)) (Raster.size (downsample config image)) := by
  have shrunk := PiRuntime.downsample_shrunk wide high larger
  obtain ⟨across,down⟩ := sides_computed wide high computable shrunk
  obtain ⟨narrower,lower,fits,solid,same,_⟩ := shrunk.downsampled wide high larger
  obtain ⟨fitsWidth,fitsHeight⟩ := fits wide high
  have first := across.le
  have second := down.le
  rw [resized wide high computable larger]
  refine ⟨across,down,fun _ _ => ⟨by dsimp only; omega,by dsimp only; omega⟩,fun _ _ => ⟨?_,?_⟩,?_⟩
  · intro on
    have fit := fitsWidth on
    dsimp only
    omega
  · intro on
    have fit := fitsHeight on
    dsimp only
    omega
  · constructor
    · intro equal
      have one_side := congrArg Prod.fst equal
      have other_side := congrArg Prod.snd equal
      dsimp only at one_side other_side
      exact same.mp (Prod.ext (by omega) (by omega))
    · intro kept
      rcases kept with fits | flat
      · exact absurd fits larger
      · exact absurd flat (by omega)

-- In floating point the image is left alone exactly where it should be; a smaller
-- one has the exact size, or one pixel less on a side that comes out whole.
theorem downsample_nearly [Raster Image] (config : Ros2PublishConfig) (image : Image) (computable : Computable config (Raster.size image)) :
    Nearly config (Raster.size image) (Raster.size (PiRuntime.downsample config image)) (Raster.size (downsample config image)) ∧
      downsample config (downsample config image) = downsample config image := by
  by_cases kept : Fits config (Raster.size image) ∨ (Raster.size image).1 = 0 ∨ (Raster.size image).2 = 0
  · rw [downsample_kept computable kept,PiRuntime.downsample_kept kept]
    refine ⟨⟨.inl rfl,.inl rfl,fun wide high => ⟨wide,high⟩,fun wide high => kept.resolve_right (by omega),⟨fun _ => kept,fun _ => rfl⟩⟩,
      downsample_kept computable kept⟩
  · obtain ⟨larger,solid⟩ := not_or.mp kept
    have wide : 0 < (Raster.size image).1 := by omega
    have high : 0 < (Raster.size image).2 := by omega
    have nearly := downsample_shrunk wide high computable larger
    have exact := (PiRuntime.downsample_shrunk wide high larger).downsampled wide high larger
    have pixels := Nat.mul_le_mul (nearly.width.le.trans exact.narrower) (nearly.height.le.trans exact.lower)
    refine ⟨nearly,downsample_kept ⟨pixels.trans_lt computable.pixels,computable.maxWidth,computable.maxHeight⟩ (.inl (nearly.fits wide high))⟩

theorem downsample_nearly_panorama :
    Nearly ⟨"/dslr/dslr/image_raw",640,480,"172.31.1.252",7447⟩ (1077,400)
        (Raster.size (PiRuntime.downsample ⟨"/dslr/dslr/image_raw",640,480,"172.31.1.252",7447⟩ ((1077,400) : Nat × Nat)))
        (Raster.size (downsample ⟨"/dslr/dslr/image_raw",640,480,"172.31.1.252",7447⟩ ((1077,400) : Nat × Nat))) ∧
      downsample ⟨"/dslr/dslr/image_raw",640,480,"172.31.1.252",7447⟩
          (downsample ⟨"/dslr/dslr/image_raw",640,480,"172.31.1.252",7447⟩ ((1077,400) : Nat × Nat)) =
        downsample ⟨"/dslr/dslr/image_raw",640,480,"172.31.1.252",7447⟩ ((1077,400) : Nat × Nat) :=
  downsample_nearly _ ((1077,400) : Nat × Nat) ⟨by decide,lt_of_lt_of_le (by decide : (640 : Int) < 2 ^ 10) (pow_le_pow_right₀ (by decide) (by omega)),
    lt_of_lt_of_le (by decide : (480 : Int) < 2 ^ 9) (pow_le_pow_right₀ (by decide) (by omega))⟩

-- Here the width is 640 exactly, and 639 as computed.
example : downsample ⟨"/dslr/dslr/image_raw",640,480,"172.31.1.252",7447⟩ ((1077,400) : Nat × Nat) = (639,237) := by decide +kernel

end Floats
end ZenohDslr.PiRuntime
