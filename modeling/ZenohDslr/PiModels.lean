import ZenohDslr.Double
namespace ZenohDslr.PiRuntime

structure Settings where
  cameraId : String
  cameraModel : String
  frameKeyPrefix : String

structure PersistenceConfig where
  enabled : Bool := true
  directory : String := "./captures"
  maxBytes : Int := 720 * 1024 * 1024

-- `directory / name`, the path of a persisted frame.
structure TargetPath where
  directory : String
  name : String
  deriving DecidableEq,Repr

structure Metadata where
  cameraId : String
  cameraModel : String
  captureId : String
  imageKey : String
  capturedAtUnix : Double
  width : Int
  height : Int
  encoding : String
  persistedPath : Option TargetPath
  sourcePath : Option String
  deriving DecidableEq,Repr

structure CaptureResult where
  captureId : String
  payload : List UInt8
  encoding : String
  width : Int
  height : Int
  metadata : Metadata
  deriving DecidableEq,Repr

end ZenohDslr.PiRuntime
