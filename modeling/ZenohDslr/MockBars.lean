import Mathlib.Logic.Denumerable
import ZenohDslr.MockFrame
import ZenohDslr.Strips
namespace ZenohDslr.PiRuntime

variable {Image : Type} {pil : Pillow Image} {width height x : Int} {bars : List Rectangle} {bar : Rectangle}

-- A capture ends with a frame of the configured size, or persisting it raised.
def Captures (pil : Pillow Image) (backend : MockCaptureBackend) : Prop :=
  ∀ (os : OperatingSystem) (now : Double) (dir : Directory) (captureId dateStr : String),
    (∃ error, (backend.capture pil os now dir captureId dateStr).1 = .error (.persistence error)) ∨
      ∃ captured, (backend.capture pil os now dir captureId dateStr).1 = .ok captured ∧
        captured.frame.width = backend.config.mockWidth ∧ captured.frame.height = backend.config.mockHeight ∧
        captured.synthesizedDate = some dateStr

structure Drawable (pil : Pillow Image) (width height : Int) : Prop where
  inside : ∀ bar ∈ barRectangles width height, 0 ≤ bar.x0 ∧ bar.x0 ≤ bar.x1 ∧ bar.x1 ≤ width
  high : ∀ bar ∈ barRectangles width height, bar.y0 = 0 ∧ 0 ≤ bar.y1 ∧ bar.y1 ≤ height
  covered : ∀ x, 0 ≤ x → x ≤ width → ∃ bar ∈ barRectangles width height, bar.x0 ≤ x ∧ x ≤ bar.x1
  captured : ∀ backend : MockCaptureBackend, backend.config.mockSynthesize = true →
    backend.config.mockWidth = width → backend.config.mockHeight = height → Captures pil backend

-- The bars are four strips of the width.
theorem bars_exact (width height : Int) : (barRectangles width height).map (fun bar => (bar.x0,bar.x1)) =
    (List.range 4).map (Strips.strip 4 width) := rfl

theorem bar_top (inside : bar ∈ barRectangles width height) : bar.y0 = 0 ∧ bar.y1 = barHeight height := by
  obtain ⟨place,_,rfl⟩ := List.mem_map.mp inside
  exact ⟨rfl,rfl⟩

theorem strip_of_bar (inside : bar ∈ barRectangles width height) : ∃ index < 4, (bar.x0,bar.x1) = Strips.strip 4 width index := by
  have there := List.mem_map_of_mem (f := fun bar : Rectangle => (bar.x0,bar.x1)) inside
  rw [bars_exact] at there
  obtain ⟨index,below,same⟩ := List.mem_map.mp there
  exact ⟨index,List.mem_range.mp below,same.symm⟩

theorem bar_of_strip (height : Int) {index : Nat} (below : index < 4) :
    ∃ bar ∈ barRectangles width height, (bar.x0,bar.x1) = Strips.strip 4 width index := by
  have there := List.mem_map_of_mem (f := Strips.strip 4 width) (List.mem_range.mpr below)
  rw [← bars_exact width height] at there
  obtain ⟨bar,inside,same⟩ := List.mem_map.mp there
  exact ⟨bar,inside,same⟩

theorem bars_inside_iff (height : Int) :
    (∀ bar ∈ barRectangles width height, 0 ≤ bar.x0 ∧ bar.x0 ≤ bar.x1 ∧ bar.x1 ≤ width) ↔ 3 ≤ width := by
  have strips := @Strips.inside_iff 4 width (by decide)
  constructor
  · intro all
    have within : ∀ index < 4, Strips.Inside width (Strips.strip 4 width index) := by
      intro index below
      obtain ⟨bar,inside,same⟩ := bar_of_strip height below
      rw [← same]
      exact ⟨(all bar inside).1,(all bar inside).2.1,(all bar inside).2.2⟩
    have room := strips.mp within
    omega
  · intro wide bar inside
    obtain ⟨index,below,same⟩ := strip_of_bar inside
    have within := strips.mpr (by omega) index below
    rw [← same] at within
    exact ⟨within.opened,within.ordered,within.closed⟩

theorem bars_cover (height : Int) (low : 0 ≤ x) (right : x ≤ width) : ∃ bar ∈ barRectangles width height, bar.x0 ≤ x ∧ x ≤ bar.x1 := by
  obtain ⟨index,below,first,last⟩ := @Strips.covered 4 width x (by decide) low right
  obtain ⟨bar,inside,same⟩ := bar_of_strip height below
  rw [← same] at first last
  exact ⟨bar,inside,first,last⟩

theorem bars_high_iff (width : Int) :
    (∀ bar ∈ barRectangles width height, bar.y0 = 0 ∧ 0 ≤ bar.y1 ∧ bar.y1 ≤ height) ↔ 0 < height := by
  constructor
  · intro all
    obtain ⟨bar,inside,_⟩ := @bar_of_strip width height 0 (by decide)
    have top := (all bar inside).2.2
    rw [(bar_top inside).2,barHeight] at top
    omega
  · intro positive bar inside
    rw [(bar_top inside).1,(bar_top inside).2,barHeight]
    omega

theorem drawBars_ok (ordered : ∀ bar ∈ bars, bar.x0 ≤ bar.x1 ∧ bar.y0 ≤ bar.y1) (image : Image) :
    ∃ after, drawBars pil image bars = .ok after ∧ pil.size after = pil.size image := by
  induction bars generalizing image with
  | nil => exact ⟨image,rfl,rfl⟩
  | cons bar rest ih =>
    obtain ⟨flat,tall⟩ := ordered bar List.mem_cons_self
    obtain ⟨next,once,kept⟩ := pil.drawn image bar flat tall
    obtain ⟨after,rest_drawn,same⟩ := ih (fun other inside => ordered other (List.mem_cons_of_mem bar inside)) next
    refine ⟨after,?_,same.trans kept⟩
    rw [drawBars,List.foldlM_cons,once]
    exact rest_drawn

-- One rectangle with its edges out of order ends the drawing, wherever it stands.
theorem drawBars_refused (inside : bar ∈ bars) (crossed : bar.x1 < bar.x0) (image : Image) :
    ∃ message, drawBars pil image bars = .error (.valueError message) := by
  induction bars generalizing image with
  | nil => cases inside
  | cons first rest ih =>
    rw [drawBars,List.foldlM_cons]
    cases once : pil.rectangle image first with
    | error message => exact ⟨message,rfl⟩
    | ok next =>
      rcases List.mem_cons.mp inside with rfl | behind
      · obtain ⟨message,refused⟩ := pil.refused image bar crossed
        rw [once] at refused
        cases refused
      · exact ih behind next

theorem bars_ordered (wide : 3 ≤ width) (positive : 0 < height) :
    ∀ bar ∈ barRectangles width height, bar.x0 ≤ bar.x1 ∧ bar.y0 ≤ bar.y1 := by
  intro bar inside
  have flat := ((bars_inside_iff height).mpr wide bar inside).2.1
  have tall := (bars_high_iff width).mpr positive bar inside
  exact ⟨flat,by omega⟩

theorem synthesize_ok (wide : 3 ≤ width) (positive : 0 < height) (dateStr : String) :
    ∃ payload, synthesizeDatedPng pil width height dateStr = .ok payload ∧
      pil.opened payload = if pil.accepts (width,height) then some (width,height) else none := by
  obtain ⟨after,drawn,same⟩ := drawBars_ok (bars_ordered wide positive) (pil.new (width,height) ⟨32,32,40⟩)
  have admitted : ¬(width ≤ 0 ∨ height ≤ 0) := by omega
  rw [pil.size_new width height _ (by omega) positive] at same
  refine ⟨_,by simp only [synthesizeDatedPng,if_neg admitted,drawn]; rfl,?_⟩
  rw [pil.opened_save,pil.size_text,pil.size_text,same]

-- The last bar of a frame one or two wide begins behind its end.
theorem narrow_raises (narrow : 0 < width ∧ width < 3) (positive : 0 < height) (dateStr : String) :
    ∃ message, synthesizeDatedPng pil width height dateStr = .error (.valueError message) := by
  have step : Strips.step 4 width = 1 := by
    rw [Strips.step]
    omega
  obtain ⟨bar,inside,edges⟩ := @bar_of_strip width height 3 (by decide)
  obtain ⟨left,right⟩ := Prod.mk.inj edges
  simp only [step,if_true] at left right
  have crossed : bar.x1 < bar.x0 := by omega
  obtain ⟨message,refused⟩ := @drawBars_refused Image pil _ _ inside crossed (pil.new (width,height) ⟨32,32,40⟩)
  have admitted : ¬(width ≤ 0 ∨ height ≤ 0) := by omega
  refine ⟨message,?_⟩
  simp only [synthesizeDatedPng,if_neg admitted,refused]
  rfl

theorem finalized_size {settings : Settings} {buffer : PersistenceBuffer} {os : OperatingSystem} {now : Double} {dir last : Directory}
    {captureId encoding : String} {payload : List UInt8} {sourcePath : Option String} {frame : CaptureResult}
    (finalized : finalizeCapture settings buffer os now dir captureId payload encoding width height sourcePath = (.ok frame,last)) :
    frame.width = width ∧ frame.height = height := by
  unfold finalizeCapture at finalized
  simp only at finalized
  split at finalized
  · cases finalized
  · cases finalized
    exact ⟨rfl,rfl⟩
  · cases finalized
    exact ⟨rfl,rfl⟩

section Capturing
variable {backend : MockCaptureBackend} {os : OperatingSystem} {now : Double} {dir : Directory} {captureId dateStr : String} {payload : List UInt8}

theorem payload_synthesized (synthesize : backend.config.mockSynthesize = true) :
    backend.payload pil dateStr = synthesizeDatedPng pil backend.config.mockWidth backend.config.mockHeight dateStr := by
  rw [MockCaptureBackend.payload,if_pos synthesize]

-- Read back with the size it was made with, the frame reaches the disk.
theorem capture_of_read (synthesize : backend.config.mockSynthesize = true) (made : backend.payload pil dateStr = .ok payload)
    (read : pil.opened payload = some (backend.config.mockWidth,backend.config.mockHeight)) :
    (∃ error, (backend.capture pil os now dir captureId dateStr).1 = .error (.persistence error)) ∨
      ∃ captured, (backend.capture pil os now dir captureId dateStr).1 = .ok captured ∧
        captured.frame.width = backend.config.mockWidth ∧ captured.frame.height = backend.config.mockHeight ∧
        captured.synthesizedDate = some dateStr := by
  have size : readDimensions pil payload = (backend.config.mockWidth,backend.config.mockHeight) := by
    rw [readDimensions,read]
    rfl
  simp only [MockCaptureBackend.capture,made,size,ne_eq,not_true_eq_false,and_false,if_false,synthesize,if_true]
  cases finalized : finalizeCapture backend.settings backend.persistence os now dir captureId payload backend.config.encoding
      backend.config.mockWidth backend.config.mockHeight none with
  | mk outcome last =>
    cases outcome with
    | error error => exact Or.inl ⟨error,rfl⟩
    | ok frame =>
      obtain ⟨wide,tall⟩ := finalized_size finalized
      exact Or.inr ⟨_,rfl,wide,tall,rfl⟩

theorem capture_of_unread (synthesize : backend.config.mockSynthesize = true) (made : backend.payload pil dateStr = .ok payload)
    (unread : pil.opened payload = none) (positive : 0 < backend.config.mockWidth) :
    (backend.capture pil os now dir captureId dateStr).1 =
      .error (.runtimeError (decodeMismatch 0 0 backend.config.mockWidth backend.config.mockHeight)) := by
  have size : readDimensions pil payload = (0,0) := by
    rw [readDimensions,unread]
    rfl
  have other : ((0,0) : Int × Int) ≠ (backend.config.mockWidth,backend.config.mockHeight) := by
    intro same
    have zero := (Prod.mk.inj same).1
    omega
  simp only [MockCaptureBackend.capture,made,size,if_pos (And.intro synthesize other)]

end Capturing

theorem captures_of_accepts {backend : MockCaptureBackend} (synthesize : backend.config.mockSynthesize = true)
    (wide : 3 ≤ backend.config.mockWidth) (positive : 0 < backend.config.mockHeight)
    (accepts : pil.accepts (backend.config.mockWidth,backend.config.mockHeight) = true) : Captures pil backend := by
  intro os now dir captureId dateStr
  obtain ⟨payload,made,read⟩ := @synthesize_ok Image pil _ _ wide positive dateStr
  rw [if_pos accepts] at read
  exact capture_of_read synthesize ((payload_synthesized synthesize).trans made) read

-- A frame too large to be opened again is taken for a failed encoding.
theorem accepts_of_captures {backend : MockCaptureBackend} (synthesize : backend.config.mockSynthesize = true)
    (wide : 3 ≤ backend.config.mockWidth) (positive : 0 < backend.config.mockHeight) (captures : Captures pil backend) :
    pil.accepts (backend.config.mockWidth,backend.config.mockHeight) = true := by
  by_contra large
  obtain ⟨payload,made,unread⟩ := @synthesize_ok Image pil _ _ wide positive ""
  rw [if_neg large] at unread
  have raised := @capture_of_unread Image pil backend (.quiet 0) .zero .empty "" "" payload synthesize
    ((payload_synthesized synthesize).trans made) unread (by omega)
  rcases captures (.quiet 0) .zero .empty "" "" with ⟨error,persisting⟩ | ⟨captured,fine,_⟩
  · rw [raised] at persisting
    cases persisting
  · rw [raised] at fine
    cases fine

theorem drawable_iff (pil : Pillow Image) (width height : Int) :
    Drawable pil width height ↔ 3 ≤ width ∧ 0 < height ∧ pil.accepts (width,height) = true := by
  constructor
  · intro drawable
    have wide := (bars_inside_iff height).mp drawable.inside
    have positive := (bars_high_iff width).mp drawable.high
    let backend : MockCaptureBackend := ⟨⟨"dslr","dslr","dslr/dslr/frames"⟩,{mockWidth := width,mockHeight := height},⟨{enabled := false}⟩⟩
    exact ⟨wide,positive,@accepts_of_captures Image pil backend rfl wide positive (drawable.captured backend rfl rfl rfl)⟩
  · rintro ⟨wide,positive,accepts⟩
    refine ⟨(bars_inside_iff height).mpr wide,(bars_high_iff width).mpr positive,fun x low right => bars_cover height low right,?_⟩
    intro backend synthesize sameWidth sameHeight
    subst sameWidth sameHeight
    exact captures_of_accepts synthesize wide positive accepts

-- Images of no content: each is its size, and a file is as long as the size is numbered.
def blankSheets : Pillow (Int × Int) where
  size := id
  new := fun size _ => size
  rectangle := fun image box => if box.x1 < box.x0 ∨ box.y1 < box.y0 then .error "x1 must be greater than or equal to x0" else .ok image
  text := fun image _ _ _ => image
  save := fun image => List.replicate (Encodable.encode image) 0
  opened := fun payload => (Encodable.decode payload.length : Option (Int × Int)).filter fun size => size.1 * size.2 ≤ 178956970
  accepts := fun size => size.1 * size.2 ≤ 178956970
  size_new := fun _ _ _ _ _ => rfl
  size_text := fun _ _ _ _ => rfl
  drawn := fun image box flat tall => ⟨image,if_neg (by omega),rfl⟩
  refused := fun _ _ crossed => ⟨_,if_pos (Or.inl crossed)⟩
  opened_save := fun image => by simp only [List.length_replicate,Encodable.encodek,Option.filter,id]

-- Two columns are too few for four bars.
theorem narrow_frame : ¬∀ width height : Int, 0 < width → 0 < height → Drawable blankSheets width height := by
  intro all
  have drawable := all 2 480 (by decide) (by decide)
  have wide := (bars_inside_iff 480).mp drawable.inside
  exact absurd wide (by decide)

end ZenohDslr.PiRuntime
