import ZenohDslr.PiModels
import ZenohDslr.SafeNames
namespace ZenohDslr.PiRuntime
open SafeNames

structure Ros2PublishConfig where
  topic : String
  maxWidth : Int
  maxHeight : Int
  routerIp : String
  routerPort : Int
  deriving DecidableEq,Repr

structure ExposureParamsConfig where
  nodeName : String
  routerIp : String
  routerPort : Int
  deriving DecidableEq,Repr

structure CoreTempPublishConfig where
  application : String
  topic : String
  routerIp : String
  routerPort : Int
  deriving DecidableEq,Repr

-- What the file says; `none` is a key it does not have.
structure Ros2PublishPayload where
  topic : Option String := none
  maxWidth : Option Int := none
  maxHeight : Option Int := none
  routerIp : Option String := none
  routerPort : Option Int := none

structure ExposurePayload where
  nodeName : Option String := none
  routerIp : Option String := none
  routerPort : Option Int := none

structure CoreTempPublishPayload where
  application : Option String := none
  topic : Option String := none
  routerIp : Option String := none
  routerPort : Option Int := none

structure Payload where
  cameraModel : Option String := none
  cameraId : Option String := none
  captureServiceName : Option String := none
  frameKeyPrefix : Option String := none
  deviceId : Option String := none
  ros2Publish : Ros2PublishPayload := {}
  exposure : ExposurePayload := {}
  coreTempPublish : CoreTempPublishPayload := {}

structure PiRuntimeSettings extends Settings where
  captureServiceName : String
  deviceId : String
  ros2Publish : Ros2PublishConfig
  exposure : ExposureParamsConfig
  coreTempPublish : CoreTempPublishConfig

-- `value or default` of a string that may be missing.
def given (value : Option String) (default : String) : String := if value.getD "" = "" then default else value.getD ""

-- `none` is a `gethostname` that raised.
def defaultDeviceId (hostname cameraId : Option String) : String :=
  let host := (PyText.split '.' (PyText.strip (hostname.getD ""))).headD ""
  given (some host) (given cameraId "device")

def ros2PublishFromPayload (payload : Ros2PublishPayload) (cameraId : String) : Ros2PublishConfig where
  topic := given payload.topic ("/dslr/" ++ cameraId ++ "/image_raw")
  maxWidth := payload.maxWidth.getD 640
  maxHeight := payload.maxHeight.getD 480
  routerIp := payload.routerIp.getD "172.31.1.252"
  routerPort := payload.routerPort.getD 7447

def exposureFromPayload (payload : ExposurePayload) (cameraId fallbackRouterIp : String) (fallbackRouterPort : Int) :
    ExposureParamsConfig where
  nodeName := given payload.nodeName ("dslr_" ++ cameraId)
  routerIp := payload.routerIp.getD fallbackRouterIp
  routerPort := payload.routerPort.getD fallbackRouterPort

def coreTempPublishFromPayload (payload : CoreTempPublishPayload) (deviceId : String) : CoreTempPublishConfig :=
  let application := payload.application.getD "pgwaam"
  let defaultTopic := "/" ++ ros2SafeName application ++ "/" ++ ros2SafeName deviceId ++ "/online/core_temp"
  {application,topic := given payload.topic defaultTopic,routerIp := payload.routerIp.getD "172.31.1.252",
    routerPort := payload.routerPort.getD 7447}

namespace Payload

def model (payload : Payload) : String := payload.cameraModel.getD (payload.cameraId.getD "dslr")

def camera (payload : Payload) : String := payload.cameraId.getD (slugifyCameraName payload.model)

def device (payload : Payload) (hostname : Option String) : String :=
  given payload.deviceId (defaultDeviceId hostname (some payload.camera))

end Payload

def PiRuntimeSettings.fromFile (hostname : Option String) (payload : Payload) : PiRuntimeSettings :=
  let cameraModel := payload.model
  let cameraId := payload.camera
  let captureServiceName := payload.captureServiceName.getD ("/dslr/" ++ cameraId ++ "/capture")
  let frameKeyPrefix := payload.frameKeyPrefix.getD ("dslr/" ++ cameraId ++ "/frames")
  let deviceId := payload.device hostname
  let ros2Publish := ros2PublishFromPayload payload.ros2Publish cameraId
  let exposure := exposureFromPayload payload.exposure cameraId ros2Publish.routerIp ros2Publish.routerPort
  let coreTempPublish := coreTempPublishFromPayload payload.coreTempPublish deviceId
  {cameraId,cameraModel,frameKeyPrefix,captureServiceName,deviceId,ros2Publish,exposure,coreTempPublish}

end ZenohDslr.PiRuntime
