import ZenohDslr.Persistence
namespace ZenohDslr.PiRuntime

structure Color where
  red : Nat
  green : Nat
  blue : Nat
  deriving DecidableEq,Repr

structure Rectangle where
  x0 : Int
  y0 : Int
  x1 : Int
  y1 : Int
  fill : Color
  deriving DecidableEq,Repr

-- Pillow, as far as the mock frame needs it. A rectangle whose edges are not in
-- order is refused, everything else is drawn, and an encoded image is opened
-- again with its size unless it has more pixels than Pillow decodes.
structure Pillow (Image : Type) where
  size : Image → Int × Int
  new : Int × Int → Color → Image
  rectangle : Image → Rectangle → Except String Image
  text : Image → Int × Int → String → Color → Image
  save : Image → List UInt8
  opened : List UInt8 → Option (Int × Int)
  accepts : Int × Int → Bool
  size_new : ∀ width height color, 0 < width → 0 < height → size (new (width,height) color) = (width,height)
  size_text : ∀ image spot words color, size (text image spot words color) = size image
  drawn : ∀ image box, box.x0 ≤ box.x1 → box.y0 ≤ box.y1 → ∃ after, rectangle image box = .ok after ∧ size after = size image
  refused : ∀ image box, box.x1 < box.x0 → ∃ message, rectangle image box = .error message
  opened_save : ∀ image, opened (save image) = if accepts (size image) then some (size image) else none

-- The fields of `CaptureBackendConfig` the mock backend reads.
structure MockBackendConfig where
  encoding : String := "image/jpeg"
  mockSynthesize : Bool := true
  mockWidth : Int := 640
  mockHeight : Int := 480

inductive MockError where
  | valueError (message : String)
  | runtimeError (message : String)
  | persistence (error : OSError)
  deriving DecidableEq,Repr

structure MockFrame where
  frame : CaptureResult
  -- the key `capture` adds to the metadata
  synthesizedDate : Option String

structure MockCaptureBackend where
  settings : Settings
  config : MockBackendConfig
  persistence : PersistenceBuffer

-- A PNG of one pixel.
def mockImageBytes : List UInt8 :=
  [137,80,78,71,13,10,26,10,0,0,0,13,73,72,68,82,0,0,0,1,0,0,0,1,8,4,0,0,0,181,28,12,2,0,0,0,11,73,68,65,84,120,218,99,252,255,31,
    0,3,3,2,0,239,178,222,42,0,0,0,0,73,69,78,68,174,66,96,130]

def barColors : List Color := [⟨220,60,60⟩,⟨60,200,90⟩,⟨70,120,230⟩,⟨230,200,60⟩]

def barHeight (height : Int) : Int := max 1 (height / 8)

-- The rectangles the loop passes to Pillow.
def barRectangles (width height : Int) : List Rectangle :=
  let barWidth := max 1 (width / barColors.length)
  barColors.zipIdx.map fun (color,index) =>
    let x0 := index * barWidth
    let x1 := if index = barColors.length - 1 then width else x0 + barWidth
    ⟨x0,0,x1,barHeight height,color⟩

variable {Image : Type}

def drawBars (pil : Pillow Image) (image : Image) (bars : List Rectangle) : Except MockError Image :=
  bars.foldlM (fun image bar => (pil.rectangle image bar).mapError .valueError) image

def synthesizeDatedPng (pil : Pillow Image) (width height : Int) (dateStr : String) : Except MockError (List UInt8) :=
  if width ≤ 0 ∨ height ≤ 0 then
    .error (.valueError ("mock_width/mock_height must be positive, got " ++ toString width ++ "x" ++ toString height))
  else do
    let image := pil.new (width,height) ⟨32,32,40⟩
    let image ← drawBars pil image (barRectangles width height)
    let image := pil.text image (8,barHeight height + 8) ("CI MOCK " ++ dateStr) ⟨255,255,255⟩
    let image := pil.text image (8,barHeight height + 24) (toString width ++ "x" ++ toString height ++ " rgb8") ⟨200,200,200⟩
    return pil.save image

def readDimensions (pil : Pillow Image) (payload : List UInt8) : Int × Int := (pil.opened payload).getD (0,0)

def decodeMismatch (width height mockWidth mockHeight : Int) : String :=
  "synthesized mock frame decoded to " ++ toString width ++ "x" ++ toString height ++ ", expected " ++
    toString mockWidth ++ "x" ++ toString mockHeight ++ " (Pillow encode/decode mismatch?)"

namespace MockCaptureBackend

def payload (self : MockCaptureBackend) (pil : Pillow Image) (dateStr : String) : Except MockError (List UInt8) :=
  if self.config.mockSynthesize then synthesizeDatedPng pil self.config.mockWidth self.config.mockHeight dateStr
  else .ok mockImageBytes

-- The id and the day of the capture are its arguments.
def capture (self : MockCaptureBackend) (pil : Pillow Image) (os : OperatingSystem) (now : Double) (dir : Directory)
    (captureId dateStr : String) : Except MockError MockFrame × Directory :=
  match self.payload pil dateStr with
  | .error e => (.error e,dir)
  | .ok payload =>
    let (width,height) := readDimensions pil payload
    if self.config.mockSynthesize ∧ (width,height) ≠ (self.config.mockWidth,self.config.mockHeight) then
      (.error (.runtimeError (decodeMismatch width height self.config.mockWidth self.config.mockHeight)),dir)
    else
      match finalizeCapture self.settings self.persistence os now dir captureId payload self.config.encoding width height none with
      | (.error e,dir) => (.error (.persistence e),dir)
      | (.ok frame,dir) => (.ok ⟨frame,if self.config.mockSynthesize then some dateStr else none⟩,dir)

end MockCaptureBackend
end ZenohDslr.PiRuntime
