import ZenohDslr.CaptureRuntime
namespace ZenohDslr.PiRuntime

-- The three timer threads. The heartbeat pulses before it waits and may mirror
-- its pulse to MQTT; the other two wait first and have a link only.
inductive Broadcaster where
  | heartbeat (mqtt : Bool)
  | pgwaamOnline
  | coreTemp
  deriving DecidableEq,Repr

namespace Broadcaster

def waitsFirst : Broadcaster → Bool
  | .heartbeat _ => false
  | _ => true

-- `session.put` comes before the link.
def putsFirst : Broadcaster → Bool
  | .heartbeat _ => true
  | _ => false

def hasLink : Broadcaster → Bool
  | .heartbeat mqtt => mqtt
  | _ => true

-- `publish_once` gives up on an unreadable probe.
def mayBeSilent : Broadcaster → Bool
  | .coreTemp => true
  | _ => false

-- `getattr(publisher, "keyexpr", "?")` stands between the assignment to
-- `_publisher` and the return.
def mayLoseLink : Broadcaster → Bool
  | .coreTemp => true
  | _ => false

end Broadcaster

inductive Prepared where
  | ready
  | silent
  | raised
  deriving DecidableEq,Repr

-- Where `_loop` stands; a link is an MQTT client or a ROS2Publisher. `ensuring`
-- is before the test of `_client` or `_publisher`, `fetching` before the read that
-- returns it, `created` has a new link that is not assigned yet.
inductive LoopPc where
  | top
  | waiting
  | woken
  | preparing
  | sending
  | ensuring
  | fetching
  | creating
  | created (link : Nat)
  | publishing (link : Nat)
  | ended
  deriving DecidableEq,Repr

-- Where the call of `stop` stands; `checking` is behind the join.
inductive StopPc where
  | notCalled
  | joining
  | checking
  | closing (link : Nat)
  | clearing
  | returned
  deriving DecidableEq,Repr

inductive BroadcastEvent where
  | look
  | wake
  | prepare (outcome : Prepared)
  | put
  | ensure
  | fetch
  | create (outcome : Outcome)
  | assign (outcome : Outcome)
  | publish
  | stopCalled
  | joined
  | check
  | close (outcome : Outcome)
  | clear
  deriving DecidableEq,Repr

structure Broadcast where
  kind : Broadcaster
  stopEvent : Bool
  -- `_mqtt._client` or `_publisher`
  slot : Option Nat
  loop : LoopPc
  stop : StopPc
  -- history: links made so far, the ones not closed, among them the ones whose
  -- close raised, pulses sent off
  made : Nat
  opened : List Nat
  hung : List Nat
  pulses : Nat
  deriving DecidableEq,Repr

namespace Broadcast

-- The thread starts; the pulse that `start` sends itself may have made a link.
def started (kind : Broadcaster) (linked : Bool) : Broadcast :=
  if linked then ⟨kind,false,some 0,.top,.notCalled,1,[0],[],0⟩ else ⟨kind,false,none,.top,.notCalled,0,[],[],0⟩

def afterPulse (self : Broadcast) : LoopPc := if self.kind.waitsFirst then .top else .waiting

def advance (self : Broadcast) : BroadcastEvent → Option Broadcast
  | .look =>
    match self.loop with
    | .top =>
      if self.stopEvent then some {self with loop := .ended}
      else some {self with loop := if self.kind.waitsFirst then .waiting else .preparing}
    | .woken => if self.stopEvent then some {self with loop := .ended} else some {self with loop := .preparing}
    | _ => none
  | .wake =>
    match self.loop with
    | .waiting => some {self with loop := if self.kind.waitsFirst then .woken else .top}
    | _ => none
  | .prepare outcome =>
    match self.loop,outcome with
    | .preparing,.ready => some {self with loop := if self.kind.putsFirst then .sending else .ensuring}
    | .preparing,.silent => if self.kind.mayBeSilent then some {self with loop := .top} else none
    | .preparing,.raised => some {self with loop := .ended}
    | _,_ => none
  | .put =>
    match self.loop with
    | .sending => some {self with pulses := self.pulses + 1,loop := if self.kind.hasLink then .ensuring else .waiting}
    | _ => none
  | .ensure =>
    match self.loop,self.slot with
    | .ensuring,some _ => some {self with loop := .fetching}
    | .ensuring,none => some {self with loop := .creating}
    | _,_ => none
  | .fetch =>
    match self.loop,self.slot with
    | .fetching,some link => some {self with loop := .publishing link}
    | .fetching,none => some {self with loop := self.afterPulse}
    | _,_ => none
  | .create outcome =>
    match self.loop,outcome with
    | .creating,.returned =>
      some {self with loop := .created self.made,made := self.made + 1,opened := self.opened ++ [self.made]}
    | .creating,.raised => some {self with loop := self.afterPulse}
    | _,_ => none
  | .assign outcome =>
    match self.loop,outcome with
    | .created link,.returned => some {self with slot := some link,loop := .publishing link}
    | .created link,.raised =>
      if self.kind.mayLoseLink then some {self with slot := some link,loop := self.afterPulse} else none
    | _,_ => none
  | .publish =>
    match self.loop with
    | .publishing _ => some {self with pulses := self.pulses + 1,loop := self.afterPulse}
    | _ => none
  | .stopCalled =>
    match self.stop with
    | .notCalled => some {self with stopEvent := true,stop := .joining}
    | _ => none
  -- `join(timeout=2.0)`: back when the thread has ended, or before that
  | .joined =>
    match self.stop with
    | .joining => some {self with stop := .checking}
    | _ => none
  | .check =>
    match self.stop,self.slot with
    | .checking,some link => some {self with stop := .closing link}
    | .checking,none => some {self with stop := .returned}
    | _,_ => none
  -- `loop_stop` and `disconnect`, or `close`: an exception is swallowed, and the link
  -- let go of whether or not it has been closed
  | .close outcome =>
    match self.stop,outcome with
    | .closing link,.returned => some {self with opened := self.opened.erase link,stop := .clearing}
    | .closing link,.raised => some {self with hung := self.hung ++ [link],stop := .clearing}
    | _,_ => none
  | .clear =>
    match self.stop with
    | .clearing => some {self with slot := none,stop := .returned}
    | _ => none

end Broadcast
end ZenohDslr.PiRuntime
