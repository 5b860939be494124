import ZenohDslr.FloatDownsampling
import ZenohDslr.ImageWalk
import ZenohDslr.MockBars
import ZenohDslr.RelayGateway
namespace ZenohDslr.Gateway
open PiRuntime Verifier

-- Pillow as the native publisher uses it: an image opened as RGB, and resized to
-- the size asked for.
structure Imaging where
  decodeRgb : List UInt8 → Option Rgb
  resize : Rgb → Nat × Nat → Rgb
  resized : ∀ image width height, 0 < width → 0 < height →
    ((resize image (width,height)).width,(resize image (width,height)).height) = (width,height)

def Rgb.size (image : Rgb) : Nat × Nat := (image.width,image.height)

-- A size whose sides and whose `step` fit their 32 bits.
def Sendable (size : Nat × Nat) : Prop := size.2 < 2 ^ 32 ∧ size.1 * 3 < 2 ^ 32

instance (size : Nat × Nat) : Decidable (Sendable size) := inferInstanceAs (Decidable (size.2 < 2 ^ 32 ∧ size.1 * 3 < 2 ^ 32))

namespace Imaging

@[reducible] def raster (imaging : Imaging) : Raster Rgb := ⟨Rgb.size,imaging.resize,imaging.resized⟩

def downsample (imaging : Imaging) (config : Ros2PublishConfig) (image : Rgb) : Rgb := @Floats.downsample Rgb imaging.raster config image

end Imaging

variable {config : Ros2PublishConfig} {imaging : Imaging} {stamp : Stamp} {frameId own given : String} {payload : List UInt8}
  {padding : Nat → UInt8} {rgb : Rgb}

section Mock
variable {Drawn : Type} {pil : Pillow Drawn} {backend : MockCaptureBackend} {os : OperatingSystem} {now : Double} {dir : Directory}
  {captureId dateStr : String} {mock : MockFrame} {width height : Int}

end Mock

section Paths
variable {gateway : ZenohDslrGateway} {receiver : Receiver} {frame : FrameEnvelope} {format : String}

def Published.image : Published → Option Image
  | .compressed _ => none
  | .raw message => some message

end Paths

end ZenohDslr.Gateway
