import ZenohDslr.FloatText
import ZenohDslr.GPhoto2Capture
import ZenohDslr.MockFrame
namespace ZenohDslr.PiRuntime
open PyText

-- A frame as a backend returns it: what `_finalize_capture` makes, and the keys
-- `capture` itself then puts into the metadata.
structure BackendFrame where
  frame : CaptureResult
  added : List (String × Json Double)

def entry (key : String) (value : Option (Json Double)) : List (String × Json Double) := value.toList.map fun value => (key,value)

def Metadata.items (str : TargetPath → String) (self : Metadata) : List (String × Json Double) :=
  [("camera_id",.string self.cameraId),("camera_model",.string self.cameraModel),("capture_id",.string self.captureId),
    ("image_key",.string self.imageKey),("captured_at_unix",.float self.capturedAtUnix),("width",.int self.width),
    ("height",.int self.height),("encoding",.string self.encoding)] ++
  (entry "source_path" (self.sourcePath.map .string) ++ entry "persisted_path" (self.persistedPath.map fun path => .string (str path)))

-- `frame.metadata`; how `str` spells a path is a parameter.
def BackendFrame.metadata (str : TargetPath → String) (self : BackendFrame) : OrderedDict String (Json Double) :=
  (OrderedDict.empty.insertAll (self.frame.metadata.items str)).insertAll self.added

def BackendFrame.attachment (str : TargetPath → String) (self : BackendFrame) : String :=
  Json.dumps (.object (self.metadata str).items)

def MockFrame.made (self : MockFrame) : BackendFrame := ⟨self.frame,entry "synthesized_date" (self.synthesizedDate.map .string)⟩

def strings (items : List (String × String)) : List (String × Json Double) := items.map fun item => (item.1,.string item.2)

def GPhoto2Frame.made (self : GPhoto2Frame) : BackendFrame where
  frame := self.frame
  added := entry "gphoto2_stdout" (self.gphoto2Stdout.map .string) ++ entry "gphoto2_stderr" (self.gphoto2Stderr.map .string) ++
    entry "gphoto2_port" (self.gphoto2Port.map .string) ++ entry "exposure" (self.exposure.map fun applied => .object (strings applied.items)) ++
    [("downloaded_files",.list (self.downloadedFiles.map .string))]

-- What lies outside the command backend: `str.format`, the shell, the decoding of
-- stderr that ignores errors, and the image decoder.
structure ShellHost where
  format : (pattern cameraId cameraModel captureId : String) → Except CaptureError String
  run : (command : String) → Except CaptureError (List UInt8 × List UInt8)
  decodeIgnoring : List UInt8 → String
  readDimensions : List UInt8 → Int × Int

structure CommandCaptureBackend where
  settings : Settings
  encoding : String
  command : String
  persistence : PersistenceBuffer
  given : command ≠ ""

namespace CommandCaptureBackend

def create (settings : Settings) (encoding : String) (command : Option String) (persistence : PersistenceBuffer) :
    Except String CommandCaptureBackend :=
  if given : command.getD "" = "" then .error "command backend requires a command field"
  else .ok ⟨settings,encoding,command.getD "",persistence,given⟩

def capture (self : CommandCaptureBackend) (host : ShellHost) (os : OperatingSystem) (now : Double) (dir : Directory)
    (captureId : String) : Except CaptureError BackendFrame × Directory :=
  match host.format self.command self.settings.cameraId self.settings.cameraModel captureId with
  | .error e => (.error e,dir)
  | .ok command =>
    match host.run command with
    | .error e => (.error e,dir)
    | .ok (stdout,stderr) =>
      let (width,height) := host.readDimensions stdout
      match finalizeCapture self.settings self.persistence os now dir captureId stdout self.encoding width height none with
      | (.error e,dir) => (.error (.persistence e),dir)
      | (.ok frame,dir) => (.ok ⟨frame,entry "stderr" ((GPhoto2CaptureBackend.present (some (host.decodeIgnoring stderr))).map .string)⟩,dir)

end CommandCaptureBackend

structure BackendConfig extends CaptureBackendConfig, MockBackendConfig where
  type : String
  command : Option String := none

inductive CaptureBackend where
  | mock (backend : MockCaptureBackend)
  | command (backend : CommandCaptureBackend)
  | gphoto2 (backend : GPhoto2CaptureBackend)

def buildBackend (settings : Settings) (config : BackendConfig) (persistence : PersistenceBuffer) : Except String CaptureBackend :=
  if config.type = "mock" then .ok (.mock ⟨settings,config.toMockBackendConfig,persistence⟩)
  else if config.type = "command" then (CommandCaptureBackend.create settings config.encoding config.command persistence).map .command
  else if config.type = "gphoto2" then .ok (.gphoto2 ⟨settings,config.toCaptureBackendConfig,persistence⟩)
  else .error ("unsupported capture backend: " ++ config.type)

inductive CaptureRaised where
  | mock (error : MockError)
  | capture (error : CaptureError)
  deriving DecidableEq,Repr

-- Everything one capture meets outside the process.
structure Surroundings (Image : Type) where
  pil : Pillow Image
  shell : ShellHost
  host : Host
  os : OperatingSystem
  now : Double
  captureId : String
  dateStr : String
  tempDir : String

variable {Image : Type}

def CaptureBackend.capture (self : CaptureBackend) (world : Surroundings Image) (exposure : Option (OrderedDict String String))
    (dir : Directory) : Except CaptureRaised BackendFrame × Directory :=
  match self with
  | .mock backend =>
    let (outcome,dir) := backend.capture world.pil world.os world.now dir world.captureId world.dateStr
    ((outcome.map MockFrame.made).mapError .mock,dir)
  | .command backend =>
    let (outcome,dir) := backend.capture world.shell world.os world.now dir world.captureId
    (outcome.mapError .capture,dir)
  | .gphoto2 backend =>
    let shot := backend.capture world.host world.os world.now dir world.captureId world.tempDir exposure
    ((shot.outcome.map GPhoto2Frame.made).mapError .capture,shot.directory)

end ZenohDslr.PiRuntime
