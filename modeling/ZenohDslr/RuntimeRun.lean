import ZenohDslr.Attempts
import ZenohDslr.ParameterServices
namespace ZenohDslr.PiRuntime.Running
open Attempts Picoparams

-- `except Exception` lets an interrupt (KeyboardInterrupt, SystemExit) through.
inductive Raised where
  | exception
  | interrupt
  deriving DecidableEq,Repr

inductive Thing where
  | captureService
  | heartbeat
  | pgwaamOnline
  | coreTemp
  | node
  | parameterService (row : ParamService)
  | parameterEvents
  deriving DecidableEq,Repr

-- A thing has been created or started; its `stop` or `close` has been called.
inductive Mark where
  | up (thing : Thing)
  | down (thing : Thing)
  deriving DecidableEq,Repr

structure RunSettings where
  heartbeat : Bool
  pgwaamOnline : Bool
  -- the names of `exposure.params` where exposure is enabled
  exposure : Option (List String)
  coreTemp : Bool
  ros2Publish : Bool

-- How the steps of one run end. The loop makes these rounds and then finds the
-- stop event set, unless a round raises. `stop` is the `stop` or `close` of a
-- thing by its owner, `closeEntity` the second close of an endpoint by its node.
structure Course where
  captureService : Except Raised Unit
  heartbeat : Except Raised Unit
  pgwaamOnline : Except Raised Unit
  imports : Except Raised Unit
  declare : String → Except Raised Unit
  node : Except Raised Unit
  rcl : Except Raised Unit
  serviceServer : ParamService → Except Raised Unit
  repairTypes : ParamService → Except Raised Unit
  createPublisher : Except Raised Unit
  coreTemp : Except Raised Unit
  rounds : List (Except Raised Unit)
  stop : Thing → Except Raised Unit
  closeEntity : Thing → Except Raised Unit
  closeImage : Except Raised Unit

structure Site where
  log : List Mark
  -- `_entities` of the Node, `_services` and `_event_pub` of the ParameterServer
  entities : List Thing
  services : List Thing
  eventPub : Option Thing
  -- `_node` and `_server` of the ExposureParameterServer are set, both at once
  assigned : Bool
  deriving DecidableEq,Repr

namespace Site

def initial : Site := ⟨[],[],[],none,false⟩

def mark (self : Site) (mark : Mark) : Site := {self with log := self.log ++ [mark]}

def held (self : Site) (thing : Thing) : Site := {self with entities := self.entities ++ [thing]}

end Site

abbrev Step := EStateM Raised Site Unit

def swallow (body : Step) : Step := guarded body fun e =>
  match e with
  | .exception => return ()
  | .interrupt => throw .interrupt

-- Called is called, whether or not the call then raises.
def close (outcome : Thing → Except Raised Unit) (thing : Thing) : Step := do
  modify fun site => site.mark (.down thing)
  perform (outcome thing)

-- An interrupt leaves the loop with the rest unclosed.
def closeEach (outcome : Thing → Except Raised Unit) : List Thing → Step
  | [] => return ()
  | thing :: rest => do
    swallow (close outcome thing)
    closeEach outcome rest

-- `start` of a broadcaster: nothing when it is disabled.
def startBroadcaster (enabled : Bool) (thing : Thing) (outcome : Except Raised Unit) : Step :=
  if enabled then do
    perform outcome
    modify fun site => site.mark (.up thing)
  else return ()

def declareEach (course : Course) : List String → Step
  | [] => return ()
  | name :: rest => do
    perform (course.declare name)
    declareEach course rest

-- `Node.create_service`: the node holds the endpoint once its types are repaired.
def createService (course : Course) (row : ParamService) : Step := do
  perform (course.serviceServer row)
  modify fun site => site.mark (.up (.parameterService row))
  perform (course.repairTypes row)
  modify fun site => site.held (.parameterService row)

def createServices (course : Course) : List ParamService → Step
  | [] => return ()
  | row :: rest => do
    createService course row
    modify fun site => {site with services := site.services ++ [.parameterService row]}
    createServices course rest

-- `ParameterServer.start`
def startServer (course : Course) : Step := do
  perform course.rcl
  createServices course paramServices
  swallow (do
    perform course.createPublisher
    modify fun site => {(site.mark (.up .parameterEvents)).held .parameterEvents with eventPub := some .parameterEvents})

-- `ExposureParameterServer.start`: the fields are set behind everything else.
def startExposure (course : Course) (names : List String) : Step := do
  perform course.imports
  declareEach course names
  perform course.node
  modify fun site => site.mark (.up .node)
  startServer course
  modify fun site => {site with assigned := true}

def closeEventPub (course : Course) : Option Thing → Step
  | none => return ()
  | some publisher => do
    swallow (close course.stop publisher)
    modify fun site => {site with eventPub := none}

-- `ParameterServer.stop`
def stopServer (course : Course) : Step := do
  let site ← get
  closeEach course.stop site.services
  modify fun site => {site with services := []}
  closeEventPub course site.eventPub

-- `Node.close`
def closeNode (course : Course) : Step := do
  modify fun site => site.mark (.down .node)
  let site ← get
  closeEach course.closeEntity site.entities.reverse
  modify fun site => {site with entities := []}

-- `ExposureParameterServer.stop`
def stopExposure (course : Course) : Step := do
  let site ← get
  ensuring (if site.assigned then stopServer course else return ())
    (if site.assigned then swallow (closeNode course) else return ())

-- `if self._exposure is not None`
def ifExposure (settings : RunSettings) (body : List String → Step) : Step :=
  match settings.exposure with
  | none => return ()
  | some names => body names

-- From the construction of the capture service to the `try`.
def bringUp (settings : RunSettings) (course : Course) : Step := do
  startBroadcaster settings.heartbeat .heartbeat course.heartbeat
  startBroadcaster settings.pgwaamOnline .pgwaamOnline course.pgwaamOnline
  ifExposure settings (startExposure course)
  startBroadcaster settings.coreTemp .coreTemp course.coreTemp

def mainLoop : List (Except Raised Unit) → Step
  | [] => return ()
  | round :: rest => do
    perform round
    mainLoop rest

-- `stop` of a broadcaster, where there is one. It may be interrupted while it
-- waits for the thread.
def stopBroadcaster (course : Course) (here : Bool) (thing : Thing) : Step :=
  if here then close course.stop thing else return ()

def closeImagePublisher (settings : RunSettings) (course : Course) : Step :=
  if settings.ros2Publish then swallow (perform course.closeImage) else return ()

-- The `finally` block down to its last line: a step that raises leaves it.
def stopComponents (settings : RunSettings) (course : Course) : Step := do
  ifExposure settings fun _ => stopExposure course
  stopBroadcaster course settings.coreTemp .coreTemp
  stopBroadcaster course true .pgwaamOnline
  stopBroadcaster course true .heartbeat
  closeImagePublisher settings course

def takeDown (settings : RunSettings) (course : Course) : Step := do
  stopComponents settings course
  close course.stop .captureService

-- `PiDslrRuntime.run` behind `zenoh.open`.
def run (settings : RunSettings) (course : Course) : Step := do
  perform course.captureService
  modify fun site => site.mark (.up .captureService)
  bringUp settings course
  ensuring (mainLoop course.rounds) (takeDown settings course)

end ZenohDslr.PiRuntime.Running
