import Mathlib.Data.Prod.Lex
import Mathlib.Data.String.Basic
import ZenohDslr.Persistence
import ZenohDslr.PyText
namespace ZenohDslr.PiRuntime
open PyText

-- The fields of `CaptureBackendConfig` the gphoto2 backend reads.
structure CaptureBackendConfig where
  encoding : String := "image/jpeg"
  port : Option String := none
  filenamePattern : String := "{capture_id}"
  keepOnCamera : Bool := false
  extraArgs : Option (List String) := none

inductive CaptureError where
  | pattern (message : String)
  | calledProcess (returncode : Int)
  | nothingDownloaded
  | read (path : String)
  | persistence (error : OSError)
  deriving DecidableEq,Repr

structure Downloaded where
  path : String
  name : String
  suffix : String
  deriving DecidableEq,Repr

structure Completed where
  stdout : String
  stderr : String
  -- what `iterdir` then lists in the temporary directory
  downloaded : List Downloaded

-- What lies outside the backend: `str.format` of the pattern, `str(Path(..) / ..)`,
-- gphoto2 itself, the files it leaves, and the image decoder.
structure Host where
  format : (pattern cameraId cameraModel captureId : String) → Except CaptureError String
  join : (directory name : String) → String
  run : (command : List String) → Except CaptureError Completed
  readBytes : (path : String) → Except CaptureError (List UInt8)
  readDimensions : List UInt8 → Int × Int

structure GPhoto2Frame where
  frame : CaptureResult
  -- the keys `capture` adds to the metadata
  gphoto2Stdout : Option String
  gphoto2Stderr : Option String
  gphoto2Port : Option String
  exposure : Option (OrderedDict String String)
  downloadedFiles : List String

-- One call of `capture`: the argv of `subprocess.run`, where it gets there, and
-- how the call ends.
structure Shot where
  ran : Option (List String)
  outcome : Except CaptureError GPhoto2Frame
  directory : Directory

-- Suffixes in lower case; no letter outside ASCII is lowered to one of these.
def encodingForSuffix (suffix fallback : String) : String :=
  match suffix.toLower with
  | ".jpg" | ".jpeg" => "image/jpeg"
  | ".png" => "image/png"
  | ".webp" => "image/webp"
  | _ => fallback

def sortKeyForDownload (path : Downloaded) : ℕ ×ₗ String :=
  let preferred :=
    match path.suffix.toLower with
    | ".jpg" | ".jpeg" => 0
    | ".png" => 1
    | ".webp" => 2
    | ".cr3" | ".cr2" | ".raw" => 10
    | _ => 20
  toLex (preferred,path.name)

structure GPhoto2CaptureBackend where
  settings : Settings
  config : CaptureBackendConfig
  persistence : PersistenceBuffer

namespace GPhoto2CaptureBackend

-- `if value:` of a string that may be missing.
def present (value : Option String) : Option String := value.filter (· ≠ "")

def setConfig (key text : String) : List String := ["--set-config",key ++ "=" ++ text]

-- The loop over the exposure: the command and the settings applied so far.
def applyExposure : List String × OrderedDict String String → List (String × String) → List String × OrderedDict String String
  | built,[] => built
  | (command,applied),(key,value) :: rest =>
    let text := strip value
    if text = "" then applyExposure (command,applied) rest
    else applyExposure (command ++ setConfig key text,applied.insert key text) rest

def buildCommand (self : GPhoto2CaptureBackend) (targetTemplate : String) (exposure : Option (OrderedDict String String)) :
    List String × OrderedDict String String :=
  let command := ["gphoto2"]
  let command := match present self.config.port with
    | some port => command ++ ["--port",port]
    | none => command
  let (command,applied) := applyExposure (command,.empty) ((exposure.map OrderedDict.items).getD [])
  let command := command ++ ["--capture-image-and-download","--force-overwrite","--filename",targetTemplate]
  let command := if self.config.keepOnCamera then command ++ ["--keep"] else command
  let command := command ++ self.config.extraArgs.getD []
  (command,applied)

-- From the downloaded files to the frame.
def finish (self : GPhoto2CaptureBackend) (host : Host) (os : OperatingSystem) (now : Double) (dir : Directory) (captureId : String)
    (applied : OrderedDict String String) (completed : Completed) : Except CaptureError GPhoto2Frame × Directory :=
  match StableSort.sortBy sortKeyForDownload completed.downloaded with
  | [] => (.error .nothingDownloaded,dir)
  | source :: others =>
    match host.readBytes source.path with
    | .error e => (.error e,dir)
    | .ok payload =>
      let encoding := encodingForSuffix source.suffix self.config.encoding
      let (width,height) := host.readDimensions payload
      match finalizeCapture self.settings self.persistence os now dir captureId payload encoding width height (some source.path) with
      | (.error e,dir) => (.error (.persistence e),dir)
      | (.ok frame,dir) =>
        (.ok {
          frame := frame
          gphoto2Stdout := present (some (strip completed.stdout))
          gphoto2Stderr := present (some (strip completed.stderr))
          gphoto2Port := present self.config.port
          exposure := if applied.items.isEmpty then none else some applied
          downloadedFiles := (source :: others).map Downloaded.path},dir)

def capture (self : GPhoto2CaptureBackend) (host : Host) (os : OperatingSystem) (now : Double) (dir : Directory)
    (captureId tempDir : String) (exposure : Option (OrderedDict String String)) : Shot :=
  match host.format self.config.filenamePattern self.settings.cameraId self.settings.cameraModel captureId with
  | .error e => ⟨none,.error e,dir⟩
  | .ok filenamePattern =>
    let targetTemplate := host.join tempDir (filenamePattern ++ ".%C")
    let (command,applied) := self.buildCommand targetTemplate exposure
    match host.run command with
    | .error e => ⟨some command,.error e,dir⟩
    | .ok completed =>
      let (outcome,dir) := self.finish host os now dir captureId applied completed
      ⟨some command,outcome,dir⟩

end GPhoto2CaptureBackend
end ZenohDslr.PiRuntime
