import Mathlib.Data.Rat.Floor
import ZenohDslr.Boxes
import ZenohDslr.RuntimeSettings
namespace ZenohDslr.PiRuntime
open Boxes

universe u
variable {Image : Type u} {config : Ros2PublishConfig} {size small : Nat × Nat} {bound : ℚ × ℚ} {side : Nat} {scale : ℚ} {limit : Int}

-- A Pillow image as far as `_downsample` touches it: resized, it has the size asked for.
class Raster (Image : Type u) where
  size : Image → Nat × Nat
  resize : Image → Nat × Nat → Image
  size_resize : ∀ image width height, 0 < width → 0 < height → size (resize image (width,height)) = (width,height)

-- `int()` of a number drops what is behind the point.
def truncate (x : ℚ) : Int := x.num.tdiv x.den

def scaleFor (config : Ros2PublishConfig) (width height : Nat) : ℚ :=
  let scale : ℚ := 1
  let scale := if 0 < config.maxWidth then min scale (config.maxWidth / width) else scale
  if 0 < config.maxHeight then min scale (config.maxHeight / height) else scale

def downsample [Raster Image] (config : Ros2PublishConfig) (image : Image) : Image :=
  if config.maxWidth ≤ 0 ∧ config.maxHeight ≤ 0 then image
  else
    let (width,height) := Raster.size image
    if width = 0 ∨ height = 0 then image
    else
      let scale := scaleFor config width height
      if 1 ≤ scale then image
      else Raster.resize image ((max 1 (truncate (width * scale))).toNat,(max 1 (truncate (height * scale))).toNat)

def Fits (config : Ros2PublishConfig) (size : Nat × Nat) : Prop :=
  (0 < config.maxWidth → (size.1 : Int) ≤ config.maxWidth) ∧ (0 < config.maxHeight → (size.2 : Int) ≤ config.maxHeight)

structure AtWidth (config : Ros2PublishConfig) (size small : Nat × Nat) : Prop where
  enabled : 0 < config.maxWidth
  limit : (small.1 : Int) = config.maxWidth
  other : small.2 = max 1 (size.2 * config.maxWidth.toNat / size.1)

structure AtHeight (config : Ros2PublishConfig) (size small : Nat × Nat) : Prop where
  enabled : 0 < config.maxHeight
  limit : (small.2 : Int) = config.maxHeight
  other : small.1 = max 1 (size.1 * config.maxHeight.toNat / size.2)

structure Downsampled (config : Ros2PublishConfig) (size small : Nat × Nat) : Prop where
  narrower : small.1 ≤ size.1
  lower : small.2 ≤ size.2
  fits : 0 < size.1 → 0 < size.2 → Fits config small
  solid : 0 < size.1 → 0 < size.2 → 0 < small.1 ∧ 0 < small.2
  same : small = size ↔ Fits config size ∨ size.1 = 0 ∨ size.2 = 0
  met : small ≠ size → AtWidth config size small ∨ AtHeight config size small

-- The enabled limits, each beside the side it is for.
def limits (config : Ros2PublishConfig) (size : Nat × Nat) : List (ℚ × ℚ) :=
  (if 0 < config.maxWidth then [((size.1 : ℚ),(config.maxWidth : ℚ))] else []) ++
    if 0 < config.maxHeight then [((size.2 : ℚ),(config.maxHeight : ℚ))] else []

theorem scaleFor_limits (config : Ros2PublishConfig) (width height : Nat) :
    scaleFor config width height = scaleFrom 1 (limits config (width,height)) := by
  unfold scaleFor limits
  split <;> split <;> rfl

theorem mem_limits : bound ∈ limits config size ↔
    (0 < config.maxWidth ∧ bound = (↑size.1,↑config.maxWidth)) ∨ (0 < config.maxHeight ∧ bound = (↑size.2,↑config.maxHeight)) := by
  unfold limits
  split <;> split <;> simp_all

theorem limits_solid (wide : 0 < size.1) (high : 0 < size.2) : ∀ bound ∈ limits config size, 0 < bound.1 ∧ 0 < bound.2 := by
  intro bound inside
  rcases mem_limits.mp inside with ⟨enabled,rfl⟩ | ⟨enabled,rfl⟩
  · exact ⟨Nat.cast_pos.mpr wide,Int.cast_pos.mpr enabled⟩
  · exact ⟨Nat.cast_pos.mpr high,Int.cast_pos.mpr enabled⟩

theorem fits_limits : Fits config size ↔ ∀ bound ∈ limits config size, bound.1 * 1 ≤ bound.2 := by
  constructor
  · intro fits bound inside
    rcases mem_limits.mp inside with ⟨enabled,rfl⟩ | ⟨enabled,rfl⟩
    · simpa using (Int.cast_le (R := ℚ)).mpr (fits.1 enabled)
    · simpa using (Int.cast_le (R := ℚ)).mpr (fits.2 enabled)
  · intro all
    refine ⟨?_,?_⟩
    · intro enabled
      have inside : (size.1 : ℚ) * 1 ≤ config.maxWidth := all _ (mem_limits.mpr (Or.inl ⟨enabled,rfl⟩))
      rw [mul_one] at inside
      exact_mod_cast inside
    · intro enabled
      have inside : (size.2 : ℚ) * 1 ≤ config.maxHeight := all _ (mem_limits.mpr (Or.inr ⟨enabled,rfl⟩))
      rw [mul_one] at inside
      exact_mod_cast inside

section Scales
variable (wide : 0 < size.1) (high : 0 < size.2)
include wide high

theorem scaleFor_greatest : IsGreatest (Allowed 1 (limits config size)) (scaleFor config size.1 size.2) := by
  rw [scaleFor_limits]
  exact scaleFrom_greatest (fun bound inside => (limits_solid wide high bound inside).1)

theorem scaleFor_pos : 0 < scaleFor config size.1 size.2 := by
  rw [scaleFor_limits]
  exact scaleFrom_pos one_pos (fun bound inside => (limits_solid wide high bound inside).1)
    (fun bound inside => (limits_solid wide high bound inside).2)

theorem fits_iff : Fits config size ↔ 1 ≤ scaleFor config size.1 size.2 := by
  have greatest := @scaleFor_greatest config size wide high
  constructor
  · intro fits
    exact greatest.2 ⟨le_refl 1,fits_limits.mp fits⟩
  · intro whole
    have one : scaleFor config size.1 size.2 = 1 := le_antisymm greatest.1.1 whole
    have inside := greatest.1.2
    rw [one] at inside
    exact fits_limits.mpr inside

end Scales

theorem truncate_rounded (positive : 0 < scale) (side : Nat) : (max 1 (truncate (side * scale))).toNat = rounded side scale := by
  have nonneg : 0 ≤ (side : ℚ) * scale := mul_nonneg (Nat.cast_nonneg side) (le_of_lt positive)
  have floor : truncate (side * scale) = ⌊(side : ℚ) * scale⌋ := by
    rw [truncate,Int.tdiv_eq_ediv_of_nonneg (Rat.num_nonneg.mpr nonneg),← Rat.floor_def']
  rw [floor,rounded,← Int.floor_toNat]
  omega

theorem cast_limit (enabled : 0 < limit) : ((limit.toNat : Nat) : ℚ) = (limit : ℚ) := by
  have back : ((limit.toNat : Nat) : Int) = limit := Int.toNat_of_nonneg (le_of_lt enabled)
  exact_mod_cast congrArg (Int.cast : Int → ℚ) back

-- The size of the image that comes out, where it is made smaller.
structure Shrunk (config : Ros2PublishConfig) (size small : Nat × Nat) (scale : ℚ) : Prop where
  positive : 0 < scale
  shrinks : scale < 1
  greatest : IsGreatest (Allowed 1 (limits config size)) scale
  ratio : ∃ bound ∈ limits config size, scale = bound.2 / bound.1
  small : small = (rounded size.1 scale,rounded size.2 scale)

theorem rounded_fits {given : Nat} (enabled : 0 < limit) (inside : (given : ℚ) * scale ≤ limit) : (rounded given scale : Int) ≤ limit := by
  rw [← cast_limit enabled] at inside
  have capped := rounded_le_limit (by omega) inside
  omega

theorem Shrunk.fits (shrunk : Shrunk config size small scale) : Fits config small := by
  rw [shrunk.small]
  refine ⟨?_,?_⟩
  · intro enabled
    exact rounded_fits enabled (shrunk.greatest.1.2 _ (mem_limits.mpr (Or.inl ⟨enabled,rfl⟩)))
  · intro enabled
    exact rounded_fits enabled (shrunk.greatest.1.2 _ (mem_limits.mpr (Or.inr ⟨enabled,rfl⟩)))

theorem exact_axis (solid : 0 < side) (enabled : 0 < limit) (ratio : scale = (limit : ℚ) / side) (other : Nat) :
    (rounded side scale : Int) = limit ∧ rounded other scale = max 1 (other * limit.toNat / side) := by
  rw [← cast_limit enabled] at ratio
  have room : 0 < limit.toNat := by omega
  rw [ratio,rounded_exact solid room,rounded_ratio]
  exact ⟨by omega,rfl⟩

theorem Shrunk.met (shrunk : Shrunk config size small scale) (wide : 0 < size.1) (high : 0 < size.2) :
    AtWidth config size small ∨ AtHeight config size small := by
  obtain ⟨bound,inside,ratio⟩ := shrunk.ratio
  have small := shrunk.small
  rcases mem_limits.mp inside with ⟨enabled,rfl⟩ | ⟨enabled,rfl⟩
  · have axis := exact_axis wide enabled ratio size.2
    exact Or.inl ⟨enabled,by rw [small]; exact axis.1,by rw [small]; exact axis.2⟩
  · have axis := exact_axis high enabled ratio size.1
    exact Or.inr ⟨enabled,by rw [small]; exact axis.1,by rw [small]; exact axis.2⟩

-- Had the size stayed, it would fit, and the scale would be one.
theorem Shrunk.changed (shrunk : Shrunk config size small scale) : small ≠ size := by
  intro same
  have fits := shrunk.fits
  rw [same] at fits
  have whole : 1 ≤ scale := shrunk.greatest.2 ⟨le_refl 1,fits_limits.mp fits⟩
  exact absurd shrunk.shrinks (not_lt.mpr whole)

theorem downsample_kept [Raster Image] {image : Image}
    (kept : Fits config (Raster.size image) ∨ (Raster.size image).1 = 0 ∨ (Raster.size image).2 = 0) : downsample config image = image := by
  unfold downsample
  split
  · rfl
  · simp only
    split
    · rfl
    · rename_i solid
      have whole : 1 ≤ scaleFor config (Raster.size image).1 (Raster.size image).2 :=
        (fits_iff (by omega) (by omega)).mp (kept.resolve_right solid)
      rw [if_pos whole]

theorem downsample_shrunk [Raster Image] {image : Image} (wide : 0 < (Raster.size image).1) (high : 0 < (Raster.size image).2)
    (larger : ¬Fits config (Raster.size image)) :
    Shrunk config (Raster.size image) (Raster.size (downsample config image)) (scaleFor config (Raster.size image).1 (Raster.size image).2) := by
  have positive := @scaleFor_pos config (Raster.size image) wide high
  have below := not_le.mp (fun whole => larger ((fits_iff wide high).mpr whole))
  have enabled : ¬(config.maxWidth ≤ 0 ∧ config.maxHeight ≤ 0) :=
    fun off => larger ⟨fun on => absurd on (by omega),fun on => absurd on (by omega)⟩
  have solid : ¬((Raster.size image).1 = 0 ∨ (Raster.size image).2 = 0) := by omega
  refine ⟨positive,below,scaleFor_greatest wide high,?_,?_⟩
  · rcases scaleFrom_met 1 (limits config (Raster.size image)) with same | met
    · rw [← scaleFor_limits] at same
      exact absurd same (ne_of_lt below)
    · rwa [← scaleFor_limits] at met
  · simp only [downsample,if_neg enabled,if_neg solid,if_neg (not_le.mpr below),truncate_rounded positive]
    exact Raster.size_resize _ _ _ rounded_pos rounded_pos

theorem Shrunk.downsampled (shrunk : Shrunk config size small scale) (wide : 0 < size.1) (high : 0 < size.2)
    (larger : ¬Fits config size) : Downsampled config size small where
  narrower := by
    rw [shrunk.small]
    exact rounded_le_side wide (le_of_lt shrunk.shrinks)
  lower := by
    rw [shrunk.small]
    exact rounded_le_side high (le_of_lt shrunk.shrinks)
  fits := fun _ _ => shrunk.fits
  solid := by
    rw [shrunk.small]
    exact fun _ _ => ⟨rounded_pos,rounded_pos⟩
  same := by
    constructor
    · intro same
      exact absurd same shrunk.changed
    · intro kept
      rcases kept with fits | flat
      · exact absurd fits larger
      · exact absurd flat (by omega)
  met := fun _ => shrunk.met wide high

theorem kept_downsampled (kept : Fits config size ∨ size.1 = 0 ∨ size.2 = 0) : Downsampled config size size where
  narrower := le_refl _
  lower := le_refl _
  fits := fun wide high => kept.resolve_right (by omega)
  solid := fun wide high => ⟨wide,high⟩
  same := ⟨fun _ => kept,fun _ => rfl⟩
  met := fun changed => absurd rfl changed

theorem downsample_exact [Raster Image] (config : Ros2PublishConfig) (image : Image) :
    Downsampled config (Raster.size image) (Raster.size (downsample config image)) ∧
      downsample config (downsample config image) = downsample config image := by
  by_cases kept : Fits config (Raster.size image) ∨ (Raster.size image).1 = 0 ∨ (Raster.size image).2 = 0
  · rw [downsample_kept kept]
    exact ⟨kept_downsampled kept,downsample_kept kept⟩
  · obtain ⟨larger,solid⟩ := not_or.mp kept
    have wide : 0 < (Raster.size image).1 := by omega
    have high : 0 < (Raster.size image).2 := by omega
    have shrunk := downsample_shrunk wide high larger
    exact ⟨shrunk.downsampled wide high larger,downsample_kept (Or.inl shrunk.fits)⟩

-- An image of no content, which is its size.
instance : Raster (Nat × Nat) where
  size := id
  resize := fun _ size => size
  size_resize := fun _ _ _ _ _ => rfl

-- A line a thousand pixels wide and none high is passed on as it is.
theorem flat_image_kept : ¬Fits ⟨"/dslr/dslr/image_raw",640,480,"172.31.1.252",7447⟩
    (Raster.size (downsample ⟨"/dslr/dslr/image_raw",640,480,"172.31.1.252",7447⟩ ((1000,0) : Nat × Nat))) := by
  rw [downsample_kept (Or.inr (Or.inr rfl))]
  intro fits
  exact absurd (fits.1 (by decide)) (by decide)

end ZenohDslr.PiRuntime
