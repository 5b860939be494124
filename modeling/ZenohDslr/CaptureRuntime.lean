import Mathlib.Logic.Function.Basic
import ZenohDslr.PiModels
import ZenohDslr.Runs
namespace ZenohDslr.PiRuntime

universe u

-- How a call to something outside the runtime ends.
inductive Outcome where
  | returned
  | raised
  deriving DecidableEq,Repr

-- `message` is the object handed to `json.dumps`, item by item.
structure CaptureResponse where
  success : Bool
  message : List (String × String)
  deriving DecidableEq,Repr

def busyResponse (settings : Settings) : CaptureResponse where
  success := false
  message := [("camera_id",settings.cameraId),("camera_model",settings.cameraModel),("message","capture already in progress")]

def acceptedResponse (settings : Settings) (requestId : String) : CaptureResponse where
  success := true
  message := [("request_id",requestId),("camera_id",settings.cameraId),("camera_model",settings.cameraModel),
    ("frame_key_prefix",settings.frameKeyPrefix),("message","capture accepted")]

-- Where a call of `on_request` stands; `failed` raised before it took the lock,
-- `abandoned` after.
inductive RequestPc where
  | absent
  | entered
  | failed
  | acquired
  | identified (requestId : String)
  | abandoned
  | started (requestId : String)
  | answered (response : CaptureResponse)
  deriving DecidableEq,Repr

-- Where the thread of `do_capture` stands. `_capture_count += 1` is a load and a
-- store; `leaving` is the `finally` block.
inductive JobPc (φ : Type u) where
  | ready
  | exposed
  | captured (frame : φ)
  | blobPut (frame : φ)
  | loaded (frame : φ) (count : Nat)
  | counted (frame : φ)
  | leaving
  | finished

structure Call (φ : Type u) where
  request : RequestPc
  job : Option (JobPc φ)

inductive Action (φ : Type u) where
  | put (frame : φ)
  | publish (frame : φ)

structure Effect (φ : Type u) where
  call : Nat
  action : Action φ
  outcome : Outcome

structure PiDslrRuntime (φ : Type u) where
  settings : Settings
  -- `_ros2_image_publisher is not None`
  native : Bool
  captureLock : Bool
  captureCount : Nat
  calls : Nat → Call φ
  -- history: calls in the order in which they took the lock, attempted effects,
  -- values read by the heartbeat
  accepted : List Nat
  effects : List (Effect φ)
  heartbeats : List Nat

inductive Event (φ : Type u) where
  | enter (k : Nat) (outcome : Outcome)
  | acquire (k : Nat)
  | identify (k : Nat) (requestId : Option String)
  | spawn (k : Nat) (outcome : Outcome)
  | answer (k : Nat)
  | expose (k : Nat) (outcome : Outcome)
  | capture (k : Nat) (frame : Option φ)
  | put (k : Nat) (outcome : Outcome)
  | load (k : Nat)
  | store (k : Nat)
  | publish (k : Nat) (outcome : Outcome)
  | skip (k : Nat)
  | release (k : Nat)
  | heartbeat

namespace PiDslrRuntime
variable {φ : Type u}

def initial (settings : Settings) (native : Bool) : PiDslrRuntime φ :=
  ⟨settings,native,false,0,fun _ => ⟨.absent,none⟩,[],[],[]⟩

def update (self : PiDslrRuntime φ) (k : Nat) (call : Call φ) : PiDslrRuntime φ :=
  {self with calls := Function.update self.calls k call}

def withRequest (self : PiDslrRuntime φ) (k : Nat) (request : RequestPc) : PiDslrRuntime φ :=
  self.update k {self.calls k with request}

def withJob (self : PiDslrRuntime φ) (k : Nat) (job : JobPc φ) : PiDslrRuntime φ :=
  self.update k {self.calls k with job := some job}

def emit (self : PiDslrRuntime φ) (effect : Effect φ) : PiDslrRuntime φ := {self with effects := self.effects ++ [effect]}

-- One step of `on_request`, of `do_capture` or of the heartbeat; an event that
-- its thread is not at is no step.
def advance (self : PiDslrRuntime φ) : Event φ → Option (PiDslrRuntime φ)
  | .enter k outcome =>
    match (self.calls k).request,outcome with
    | .absent,.returned => some (self.withRequest k .entered)
    | .absent,.raised => some (self.withRequest k .failed)
    | _,_ => none
  | .acquire k =>
    match (self.calls k).request,self.captureLock with
    | .entered,true => some (self.withRequest k (.answered (busyResponse self.settings)))
    | .entered,false => some {self.withRequest k .acquired with captureLock := true,accepted := self.accepted ++ [k]}
    | _,_ => none
  | .identify k requestId =>
    match (self.calls k).request,requestId with
    | .acquired,some id => some (self.withRequest k (.identified id))
    | .acquired,none => some (self.withRequest k .abandoned)
    | _,_ => none
  | .spawn k outcome =>
    match (self.calls k).request,outcome with
    | .identified id,.returned => some (self.update k ⟨.started id,some .ready⟩)
    | .identified _,.raised => some (self.withRequest k .abandoned)
    | _,_ => none
  | .answer k =>
    match (self.calls k).request with
    | .started id => some (self.withRequest k (.answered (acceptedResponse self.settings id)))
    | _ => none
  | .expose k outcome =>
    match (self.calls k).job,outcome with
    | some .ready,.returned => some (self.withJob k .exposed)
    | some .ready,.raised => some (self.withJob k .leaving)
    | _,_ => none
  | .capture k frame =>
    match (self.calls k).job,frame with
    | some .exposed,some frame => some (self.withJob k (.captured frame))
    | some .exposed,none => some (self.withJob k .leaving)
    | _,_ => none
  | .put k outcome =>
    match (self.calls k).job,outcome with
    | some (.captured frame),.returned => some ((self.withJob k (.blobPut frame)).emit ⟨k,.put frame,.returned⟩)
    | some (.captured frame),.raised => some ((self.withJob k .leaving).emit ⟨k,.put frame,.raised⟩)
    | _,_ => none
  | .load k =>
    match (self.calls k).job with
    | some (.blobPut frame) => some (self.withJob k (.loaded frame self.captureCount))
    | _ => none
  | .store k =>
    match (self.calls k).job with
    | some (.loaded frame count) => some {self.withJob k (.counted frame) with captureCount := count + 1}
    | _ => none
  | .publish k outcome =>
    match (self.calls k).job,self.native with
    | some (.counted frame),true => some ((self.withJob k .leaving).emit ⟨k,.publish frame,outcome⟩)
    | _,_ => none
  | .skip k =>
    match (self.calls k).job,self.native with
    | some (.counted _),false => some (self.withJob k .leaving)
    | _,_ => none
  | .release k =>
    match (self.calls k).job with
    | some .leaving => some {self.withJob k .finished with captureLock := false}
    | _ => none
  | .heartbeat => some {self with heartbeats := self.heartbeats ++ [self.captureCount]}

end PiDslrRuntime
end ZenohDslr.PiRuntime
