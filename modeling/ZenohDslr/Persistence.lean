import ZenohDslr.OrderedDict
import ZenohDslr.PiModels
import ZenohDslr.RollingWindow
import ZenohDslr.StableSort
namespace ZenohDslr.PiRuntime

-- `mtime` is `st_mtime`, of which only the order counts; `other` is whatever
-- `is_file()` denies.
inductive DirEntry where
  | regular (mtime : Int) (bytes : List UInt8)
  | other
  deriving DecidableEq,Repr

abbrev Directory := OrderedDict String DirEntry

structure StoredFile where
  name : String
  mtime : Int
  bytes : List UInt8
  deriving DecidableEq,Repr

def StoredFile.size (file : StoredFile) : Nat := file.bytes.length

def isFile (item : String × DirEntry) : Option StoredFile :=
  match item.2 with
  | .regular mtime bytes => some ⟨item.1,mtime,bytes⟩
  | .other => none

def regularFiles (dir : Directory) : List StoredFile := dir.items.filterMap isFile

-- `iterdir` lists a directory in an order of its own.
structure Listing (dir : Directory) where
  order : List (String × DirEntry)
  perm : order.Perm dir.items

inductive OSError where
  | write
  | scan
  | unlink (name : String)
  deriving DecidableEq,Repr

-- A write that raises may have left something else in the file.
inductive WriteOutcome where
  | complete
  | raised (left : Option (List UInt8))
  deriving DecidableEq,Repr

-- Bytes written to a name that is no regular file: a directory refuses them, a
-- FIFO or a device swallows them, a link to nothing gives a file after all.
inductive SpecialWrite where
  | refused
  | swallowed
  | created
  deriving DecidableEq,Repr

-- What the operating system makes of one `persist` call.
structure OperatingSystem where
  mtime : Int
  write : WriteOutcome
  special : SpecialWrite
  iterdir : (dir : Directory) → Listing dir
  scanRaises : Bool
  unlinkRaises : String → Bool

-- Nothing fails, and `iterdir` lists in the order of creation.
def OperatingSystem.quiet (mtime : Int) : OperatingSystem where
  mtime := mtime
  write := .complete
  special := .refused
  iterdir dir := ⟨dir.items,.refl _⟩
  scanRaises := false
  unlinkRaises _ := false

def suffixForEncoding (encoding : String) : String :=
  if encoding = "image/jpeg" then ".jpg"
  else if encoding = "image/png" then ".png"
  else if encoding = "image/webp" then ".webp"
  else ".bin"

-- Capture ids are `uuid4().hex`: without a '/' in it, the target lies in the
-- directory itself.
def CaptureResult.target (frame : CaptureResult) : String := frame.captureId ++ suffixForEncoding frame.encoding

structure PersistenceBuffer where
  config : PersistenceConfig

namespace PersistenceBuffer

def tenBytes : PersistenceBuffer := ⟨{maxBytes := 10}⟩

def writeBytes (os : OperatingSystem) (dir : Directory) (name : String) (payload : List UInt8) : Except OSError Unit × Directory :=
  match dir.get? name,os.special,os.write with
  | some .other,.refused,_ => (.error .write,dir)
  | some .other,.swallowed,.complete => (.ok (),dir)
  | some .other,.swallowed,.raised _ => (.error .write,dir)
  | _,_,.complete => (.ok (),dir.insert name (.regular os.mtime payload))
  | _,_,.raised none => (.error .write,dir)
  | _,_,.raised (some left) => (.error .write,dir.insert name (.regular os.mtime left))

-- `while total_bytes > max_bytes and files`: the oldest file goes.
def pruneLoop (maxBytes : Int) (unlinkRaises : String → Bool) : Int → List StoredFile → Directory → Except OSError Unit × Directory
  | _,[],dir => (.ok (),dir)
  | totalBytes,oldest :: files,dir =>
    if maxBytes < totalBytes then
      if unlinkRaises oldest.name then (.error (.unlink oldest.name),dir)
      else pruneLoop maxBytes unlinkRaises (totalBytes - oldest.size) files (dir.erase oldest.name)
    else (.ok (),dir)

def scan (os : OperatingSystem) (dir : Directory) : List StoredFile :=
  StableSort.sortBy StoredFile.mtime ((os.iterdir dir).order.filterMap isFile)

def prune (self : PersistenceBuffer) (os : OperatingSystem) (dir : Directory) : Except OSError Unit × Directory :=
  if os.scanRaises then (.error .scan,dir)
  else
    let files := scan os dir
    let totalBytes := RollingWindow.total StoredFile.size files
    pruneLoop self.config.maxBytes os.unlinkRaises totalBytes files dir

def persist (self : PersistenceBuffer) (os : OperatingSystem) (dir : Directory) (frame : CaptureResult) :
    Except OSError (Option TargetPath) × Directory :=
  if self.config.enabled = false then (.ok none,dir)
  else
    match writeBytes os dir frame.target frame.payload with
    | (.error e,dir) => (.error e,dir)
    | (.ok (),dir) =>
      match self.prune os dir with
      | (.error e,dir) => (.error e,dir)
      | (.ok (),dir) => (.ok (some ⟨self.config.directory,frame.target⟩),dir)

end PersistenceBuffer

def buildMetadata (settings : Settings) (now : Double) (captureId imageKey : String) (width height : Int) (encoding : String)
    (persistedPath : Option TargetPath) (sourcePath : Option String) : Metadata where
  cameraId := settings.cameraId
  cameraModel := settings.cameraModel
  captureId := captureId
  imageKey := imageKey
  capturedAtUnix := now
  width := width
  height := height
  encoding := encoding
  persistedPath := persistedPath
  sourcePath := sourcePath.filter (· ≠ "")

-- `_finalize_capture` of the capture backends.
def finalizeCapture (settings : Settings) (buffer : PersistenceBuffer) (os : OperatingSystem) (now : Double) (dir : Directory)
    (captureId : String) (payload : List UInt8) (encoding : String) (width height : Int) (sourcePath : Option String) :
    Except OSError CaptureResult × Directory :=
  let imageKey := settings.frameKeyPrefix ++ "/" ++ captureId
  let metadata := buildMetadata settings now captureId imageKey width height encoding none sourcePath
  let frame : CaptureResult := ⟨captureId,payload,encoding,width,height,metadata⟩
  match buffer.persist os dir frame with
  | (.error e,dir) => (.error e,dir)
  | (.ok none,dir) => (.ok frame,dir)
  | (.ok (some path),dir) => (.ok {frame with metadata := {metadata with persistedPath := some path}},dir)

end ZenohDslr.PiRuntime
