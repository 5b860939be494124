import ZenohDslr.Attempts
import Mathlib.Data.List.Basic
namespace ZenohDslr.PiRuntime
open Attempts

-- How each call of one publish ends; an exception is its text.
structure Sdk where
  imports : Except String Unit
  buildQosProfile : Except String Unit
  construct : Except String Unit
  timeCls : Except String Unit
  headerCls : Except String Unit
  keyexpr : Except String Unit
  decode : Except String Unit
  message : Except String Unit
  send : Except String Unit

structure Ros2ImagePublisher where
  routerIp : String
  routerPort : Int
  publisher : Option Nat
  timeCls : Bool
  headerCls : Bool
  warned : Bool
  -- history: warnings logged, publishers constructed so far and, of these, the
  -- ones never asked to close
  warnings : List String
  built : Nat
  live : List Nat
  deriving DecidableEq,Repr

namespace Ros2ImagePublisher

def create (routerIp : String) (routerPort : Int) : Ros2ImagePublisher :=
  ⟨routerIp,routerPort,none,false,false,false,[],0,[]⟩

def warn (text : String) (self : Ros2ImagePublisher) : Ros2ImagePublisher :=
  if self.warned then self else {self with warned := true,warnings := self.warnings ++ [text]}

def importsUnavailable (exc : String) : String := "ROS 2 image publish disabled: imports unavailable (" ++ exc ++ ")"

def initFailed (self : Ros2ImagePublisher) (exc : String) : String :=
  "ROS 2 image publisher init failed (" ++ self.routerIp ++ ":" ++ toString self.routerPort ++ "): " ++ exc

-- The second guarded block of `_ensure_publisher`.
def initialise (sdk : Sdk) : EStateM String Ros2ImagePublisher Nat := do
  perform sdk.buildQosProfile
  perform sdk.construct
  let self ← get
  modify fun self => {self with built := self.built + 1,live := self.live ++ [self.built]}
  perform sdk.timeCls
  modify fun self => {self with timeCls := true}
  perform sdk.headerCls
  modify fun self => {self with headerCls := true}
  modify fun later => {later with publisher := some self.built}
  perform sdk.keyexpr
  return self.built

def ensurePublisher (sdk : Sdk) : EStateM String Ros2ImagePublisher (Option Nat) := do
  let self ← get
  match self.publisher with
  | some publisher => return some publisher
  | none =>
    let imported ← guarded (do perform sdk.imports; return true)
      fun exc => do modify (warn (importsUnavailable exc)); return false
    if imported then
      guarded (do let publisher ← initialise sdk; return some publisher)
        fun exc => do modify (fun self => self.warn (self.initFailed exc)); return none
    else return none

-- Decoding, the message objects and the send, as far as they can fail.
def sendFrame (sdk : Sdk) : EStateM String Ros2ImagePublisher Unit := do
  perform sdk.decode
  let self ← get
  if self.timeCls ∧ self.headerCls then perform sdk.message
  else throw "'NoneType' object is not callable"
  perform sdk.send

def publish (sdk : Sdk) : EStateM String Ros2ImagePublisher Bool := do
  let publisher ← ensurePublisher sdk
  match publisher with
  | none => return false
  | some _ => guarded (do sendFrame sdk; return true) fun _ => return false

-- Asked to close counts, whether or not the call then raises.
def close (outcome : Except String Unit) : EStateM String Ros2ImagePublisher Unit := do
  let self ← get
  match self.publisher with
  | none => return ()
  | some publisher =>
    modify fun self => {self with live := self.live.erase publisher}
    guarded (perform outcome) fun _ => return ()
    modify fun self => {self with publisher := none}

end Ros2ImagePublisher

inductive PublisherCall where
  | publish (sdk : Sdk)
  | close (outcome : Except String Unit)

def Ros2ImagePublisher.advance (self : Ros2ImagePublisher) : PublisherCall → Option Ros2ImagePublisher
  | .publish sdk => some (after (Ros2ImagePublisher.publish sdk self))
  | .close outcome => some (after (Ros2ImagePublisher.close outcome self))

end ZenohDslr.PiRuntime
