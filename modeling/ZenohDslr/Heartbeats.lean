import ZenohDslr.FloatText
import ZenohDslr.RuntimeSettings
namespace ZenohDslr.PiRuntime

structure HeartbeatPayload where
  intervalS : Option Double := none
  zenohKey : Option String := none
  livelinessKey : Option String := none
  reportCoreTemp : Bool := true
  reportThrottled : Bool := true

structure HeartbeatConfig where
  intervalS : Double
  zenohKey : String
  livelinessKey : String
  reportCoreTemp : Bool
  reportThrottled : Bool

-- 5.0
def fiveSeconds : Double := ⟨0x4014000000000000⟩

def heartbeatFromPayload (payload : HeartbeatPayload) (cameraId : String) : HeartbeatConfig where
  intervalS := payload.intervalS.getD fiveSeconds
  zenohKey := given payload.zenohKey ("dslr/" ++ cameraId ++ "/heartbeat")
  livelinessKey := given payload.livelinessKey ("dslr/" ++ cameraId ++ "/alive")
  reportCoreTemp := payload.reportCoreTemp
  reportThrottled := payload.reportThrottled

-- What the heartbeat reads of the settings.
structure HeartbeatSettings extends Settings where
  captureServiceName : String
  heartbeat : HeartbeatConfig

-- What one round of `_loop` reads besides.
structure Probes where
  host : String
  now : Double
  coreTempC : Option Double
  throttled : Option String

def buildHeartbeatPayload (settings : HeartbeatSettings) (seq captureCount : Nat) (probes : Probes) : List (String × Json Double) :=
  [("status",.string "alive"),("camera_id",.string settings.cameraId),("camera_model",.string settings.cameraModel),
    ("host",.string probes.host),("capture_service",.string settings.captureServiceName),
    ("frame_key_prefix",.string settings.frameKeyPrefix),("seq",.int seq),("capture_count",.int captureCount),("ts",.float probes.now),
    ("interval_s",.float settings.heartbeat.intervalS),
    ("core_temp_c",if settings.heartbeat.reportCoreTemp then probes.coreTempC.elim .null .float else .null),
    ("throttled",if settings.heartbeat.reportThrottled then probes.throttled.elim .null .string else .null)]

def encodedHeartbeat (settings : HeartbeatSettings) (seq captureCount : Nat) (probes : Probes) : String :=
  Json.dumps (.object (buildHeartbeatPayload settings seq captureCount probes))

-- Two numbers of a heartbeat, as a monitor reads them.
structure Beat where
  seq : Int
  captureCount : Int
  deriving DecidableEq,Repr

def readInt (members : List (String × Json Double)) (key : String) : Option Int :=
  match OrderedDict.find key members with
  | some (.int n) => some n
  | _ => none

def readBeat (text : String) : Option Beat :=
  match Json.loads text with
  | some (.object members) =>
    match readInt members "seq",readInt members "capture_count" with
    | some seq,some captureCount => some ⟨seq,captureCount⟩
    | _,_ => none
  | _ => none

variable {settings : HeartbeatSettings} {seq captureCount : Nat} {probes : Probes}

theorem heartbeat_distinct : (Json.object (buildHeartbeatPayload settings seq captureCount probes)).Distinct := by
  refine ⟨?_,Json.distinctMembers_of ?_⟩
  · simp [buildHeartbeatPayload]
  · have optional : ∀ (report : Bool) (value : Json Double), value.Distinct → (if report then value else .null : Json Double).Distinct := by
      intro report value distinct
      cases report
      · trivial
      · exact distinct
    intro member inside
    simp only [buildHeartbeatPayload,List.mem_cons,List.not_mem_nil,or_false] at inside
    rcases inside with rfl | rfl | rfl | rfl | rfl | rfl | rfl | rfl | rfl | rfl | rfl | rfl <;> try trivial
    · apply optional
      cases probes.coreTempC <;> trivial
    · apply optional
      cases probes.throttled <;> trivial

-- A heartbeat is read as the numbers it was built from.
theorem readBeat_encoded : readBeat (encodedHeartbeat settings seq captureCount probes) = some ⟨seq,captureCount⟩ := by
  rw [readBeat,encodedHeartbeat,Json.loads_dumps _ heartbeat_distinct]
  rfl

end ZenohDslr.PiRuntime
