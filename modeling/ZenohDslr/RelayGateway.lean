import ZenohDslr.FrameMetadata
import ZenohDslr.ImageCdr
import ZenohDslr.RouterLocator
namespace ZenohDslr.Gateway
open PiRuntime

-- A Zenoh sample; the encoding is `str(sample.encoding)` where it is true.
structure Sample where
  keyExpr : String
  payload : List UInt8
  encoding : Option String
  attachment : Option String
  deriving DecidableEq,Repr

inductive GatewayError where
  | jsonDecode
  | attributeError
  | typeError
  | valueError
  | overflowError
  | assertionError
  deriving DecidableEq,Repr

-- The fields are what `metadata.get` gives, of whatever type.
structure FrameEnvelope where
  captureId : Json Double
  imageKey : Json Double
  payload : List UInt8
  encoding : Json Double
  width : Int
  height : Int

structure Stamp where
  sec : Int32
  nanosec : UInt32
  deriving DecidableEq,Repr

structure CompressedImage where
  stamp : Stamp
  frameId : String
  format : String
  data : List UInt8
  deriving DecidableEq,Repr

-- An RGB image: `tobytes()` has three bytes for a pixel.
structure Rgb where
  width : Nat
  height : Nat
  data : List UInt8
  whole : data.length = 3 * width * height

inductive Published where
  | compressed (message : CompressedImage)
  | raw (message : Verifier.Image)

-- What lies outside the node: the digits beyond ASCII that `int` takes, and Pillow,
-- which opens a payload as an RGB image or fails.
structure Receiver where
  decimal : Char → Option Nat
  decodeRgb : List UInt8 → Option Rgb

def truthy : Json Double → Bool
  | .null => false
  | .bool b => b
  | .int n => n ≠ 0
  | .float x => x.magnitude ≠ 0
  | .string s => s ≠ ""
  | .list items => !items.isEmpty
  | .object members => !members.isEmpty

-- `int(value)`
def toInt (decimal : Char → Option Nat) : Json Double → Except GatewayError Int
  | .int n => .ok n
  | .bool b => .ok (if b then 1 else 0)
  | .float x =>
    if x.isNaN then .error .valueError
    else if x.isInfinite then .error .overflowError
    else .ok (x.units.tdiv (2 ^ Double.grid))
  | .string s => (Picoros.int decimal s).mapError fun _ => .valueError
  | _ => .error .typeError

def loadMetadata : Option String → Except GatewayError (List (String × Json Double))
  | none => .ok []
  | some attachment =>
    match Json.loads attachment with
    | none => .error .jsonDecode
    | some (.object members) => .ok members
    | some _ => .error .attributeError

def get (members : List (String × Json Double)) (key : String) (default : Json Double) : Json Double :=
  (OrderedDict.find key members).getD default

-- `_on_frame` up to the publishing; without a capture id it only warns.
def envelope (receiver : Receiver) (sample : Sample) : Except GatewayError (Option FrameEnvelope) := do
  let metadata ← loadMetadata sample.attachment
  let captureId := get metadata "capture_id" .null
  if truthy captureId then
    let imageKey := get metadata "image_key" (.string sample.keyExpr)
    let encoding := sample.encoding.elim (get metadata "encoding" (.string "image/jpeg")) .string
    let width ← toInt receiver.decimal (get metadata "width" (.int 0))
    let height ← toInt receiver.decimal (get metadata "height" (.int 0))
    return some ⟨captureId,imageKey,sample.payload,encoding,width,height⟩
  else return none

def rawImage (stamp : Stamp) (cameraId : String) (image : Rgb) : Verifier.Image where
  sec := stamp.sec
  nanosec := stamp.nanosec
  frameId := cameraId
  height := UInt32.ofNat image.height
  width := UInt32.ofNat image.width
  encoding := "rgb8"
  isBigendian := 0
  step := UInt32.ofNat (image.width * 3)
  data := image.data

structure ZenohDslrGateway where
  cameraId : String
  frameKeyPrefix : String

namespace ZenohDslrGateway

-- The message classes check their fields: a format is a string, a size fits 32 bits.
def publishFrame (self : ZenohDslrGateway) (receiver : Receiver) (stamp : Stamp) (frame : FrameEnvelope) :
    List Published × Except GatewayError Unit :=
  match frame.encoding with
  | .string format =>
    let compressed := .compressed ⟨stamp,self.cameraId,format,frame.payload⟩
    match receiver.decodeRgb frame.payload with
    | none => ([compressed],.ok ())
    | some image =>
      if image.height < 2 ^ 32 ∧ image.width * 3 < 2 ^ 32 then ([compressed,.raw (rawImage stamp self.cameraId image)],.ok ())
      else ([compressed],.error .assertionError)
  | _ => ([],.error .assertionError)

def onFrame (self : ZenohDslrGateway) (receiver : Receiver) (stamp : Stamp) (sample : Sample) : List Published × Except GatewayError Unit :=
  match envelope receiver sample with
  | .error e => ([],.error e)
  | .ok none => ([],.ok ())
  | .ok (some frame) => self.publishFrame receiver stamp frame

end ZenohDslrGateway

-- What `session.put` makes of a frame; how Zenoh spells an encoding is a parameter.
def sampleOf (str : TargetPath → String) (spelled : String → String) (made : BackendFrame) : Sample :=
  ⟨made.frame.metadata.imageKey,made.frame.payload,some (spelled made.frame.encoding),some (made.attachment str)⟩

variable {settings : Settings} {captureId : String} {made : BackendFrame} {str : TargetPath → String} {spelled : String → String}
  {receiver : Receiver} {stamp : Stamp} {gateway : ZenohDslrGateway}

def envelopeOf (spelled : String → String) (made : BackendFrame) : FrameEnvelope where
  captureId := .string made.frame.captureId
  imageKey := .string made.frame.metadata.imageKey
  payload := made.frame.payload
  encoding := .string (spelled made.frame.encoding)
  width := made.frame.width
  height := made.frame.height

theorem envelope_restored (wellFormed : WellFormed settings captureId made) (named : captureId ≠ "") :
    envelope receiver (sampleOf str spelled made) = .ok (some (envelopeOf spelled made)) := by
  obtain ⟨members,read,values⟩ := @attachment_read _ _ _ str wellFormed
  have id : get members "capture_id" .null = .string made.frame.captureId := by
    rw [get,values _ (by decide),wellFormed.identified.1,← wellFormed.identified.2]
    rfl
  have key : get members "image_key" (.string made.frame.metadata.imageKey) = .string made.frame.metadata.imageKey := by
    rw [get,values _ (by decide)]
    rfl
  have width : get members "width" (.int 0) = .int made.frame.width := by
    rw [get,values _ (by decide),← wellFormed.sized.1]
    rfl
  have height : get members "height" (.int 0) = .int made.frame.height := by
    rw [get,values _ (by decide),← wellFormed.sized.2]
    rfl
  have present : truthy (.string made.frame.captureId) = true := by simpa [truthy,wellFormed.identified.1] using named
  simp only [envelope,sampleOf,loadMetadata,read]
  simp only [bind,Except.bind,id,present,if_true,key,width,height,toInt]
  rfl

theorem onFrame_sample (wellFormed : WellFormed settings captureId made) (named : captureId ≠ "") :
    gateway.onFrame receiver stamp (sampleOf str spelled made) = gateway.publishFrame receiver stamp (envelopeOf spelled made) := by
  rw [ZenohDslrGateway.onFrame,envelope_restored wellFormed named]

-- A republished frame without the time at which it was.
def forwarded : Published → Option (String × String × List UInt8)
  | .compressed message => some (message.frameId,message.format,message.data)
  | .raw _ => none

-- Once for each frame, whatever Pillow makes of its bytes.
theorem publishFrame_forwarded {frame : FrameEnvelope} {format : String} (text : frame.encoding = .string format) :
    (gateway.publishFrame receiver stamp frame).1.filterMap forwarded = [(gateway.cameraId,format,frame.payload)] := by
  unfold ZenohDslrGateway.publishFrame
  rw [text]
  dsimp only
  split
  · rfl
  · split <;> rfl

end ZenohDslr.Gateway
