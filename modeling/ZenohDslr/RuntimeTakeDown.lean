import ZenohDslr.RuntimeRun
namespace ZenohDslr.PiRuntime.Running
open Attempts

variable {settings : RunSettings} {course : Course} {s t : Site} {thing : Thing}

theorem swallow_ok {body : Step} : swallow body s = .ok ⟨⟩ t ↔ body s = .ok ⟨⟩ t ∨ body s = .error .exception t := by
  unfold swallow guarded
  rcases body s with ⟨⟨⟩,u⟩ | ⟨_ | _,u⟩ <;> simp

-- A close is made however it ends; only an interrupt leaves the block.
theorem swallow_close {ending : Thing → Except Raised Unit} : swallow (close ending thing) s = .ok ⟨⟩ t ↔
    ending thing ≠ .error .interrupt ∧ s.mark (.down thing) = t := by
  rw [swallow_ok]
  unfold close
  rcases how : ending thing with (_ | _) | ⟨⟩ <;> simp [bind_apply]

theorem closeEach_ok {ending : Thing → Except Raised Unit} {things : List Thing} : closeEach ending things s = .ok ⟨⟩ t ↔
    (∀ thing ∈ things, ending thing ≠ .error .interrupt) ∧ {s with log := s.log ++ things.map .down} = t := by
  induction things generalizing s with
  | nil => simp [closeEach]
  | cons thing rest ih => simp [closeEach,then_ok,swallow_close,ih,and_assoc,Site.mark]

theorem stopServer_ok : stopServer course s = .ok ⟨⟩ t ↔
    (∀ thing ∈ s.services ++ s.eventPub.toList, course.stop thing ≠ .error .interrupt) ∧
      {s with log := s.log ++ (s.services ++ s.eventPub.toList).map .down,services := [],eventPub := none} = t := by
  cases held : s.eventPub <;>
    simp [stopServer,get_then,then_ok,closeEach_ok,closeEventPub,swallow_close,held,Site.mark,and_assoc,or_imp,forall_and]

theorem closeNode_ok : closeNode course s = .ok ⟨⟩ t ↔ (∀ thing ∈ s.entities, course.closeEntity thing ≠ .error .interrupt) ∧
    {s with log := s.log ++ (.node :: s.entities.reverse).map .down,entities := []} = t := by
  simp [closeNode,get_then,then_ok,closeEach_ok,Site.mark]

theorem closeEach_exception {ending : Thing → Except Raised Unit} (things : List Thing) :
    closeEach ending things s ≠ .error .exception t := by
  induction things generalizing s with
  | nil => simp [closeEach]
  | cons thing rest ih =>
    unfold closeEach swallow close
    rcases how : ending thing with (_ | _) | ⟨⟩ <;> simp [guarded,bind_apply,ih]

theorem swallow_closeNode : swallow (closeNode course) s = .ok ⟨⟩ t ↔ closeNode course s = .ok ⟨⟩ t := by
  rw [swallow_ok]
  refine or_iff_left ?_
  unfold closeNode
  simp only [bind_apply,modify_apply,get_apply]
  cases ran : closeEach course.closeEntity (s.mark (.down .node)).entities.reverse (s.mark (.down .node)) with
  | ok _ u => simp
  | error e u =>
    rintro same
    cases same
    exact closeEach_exception _ ran

-- What `stop` of the exposure server reaches, and what the `finally` does.
def exposureThings (settings : RunSettings) (s : Site) : List Thing :=
  if settings.exposure.isSome ∧ s.assigned then s.services ++ s.eventPub.toList ++ .node :: s.entities.reverse else []

def stopped (settings : RunSettings) (s : Site) : List Thing :=
  exposureThings settings s ++ (if settings.coreTemp then [.coreTemp] else []) ++ [.pgwaamOnline,.heartbeat,.captureService]

-- No close of the exposure server is interrupted, the node's second ones included.
def Closable (course : Course) (s : Site) : Prop :=
  (∀ thing ∈ s.services ++ s.eventPub.toList, course.stop thing ≠ .error .interrupt) ∧
    ∀ thing ∈ s.entities, course.closeEntity thing ≠ .error .interrupt

-- Where the steps of the `finally` block return, they leave this.
def withdrawn (settings : RunSettings) (s : Site) : Site :=
  if settings.exposure.isSome then
    {s with log := s.log ++ (exposureThings settings s).map .down, services := [], eventPub := none, entities := []}
  else s

def halted (here : Bool) (thing : Thing) (s : Site) : Site := if here then s.mark (.down thing) else s

def woundDown (settings : RunSettings) (s : Site) : Site :=
  ((halted settings.coreTemp .coreTemp (withdrawn settings s)).mark (.down .pgwaamOnline)).mark (.down .heartbeat)

theorem stopExposure_ok (assigned : s.assigned = true) : stopExposure course s = .ok ⟨⟩ t ↔ Closable course s ∧
    {s with
      log := s.log ++ (s.services ++ s.eventPub.toList ++ .node :: s.entities.reverse).map .down
      services := []
      eventPub := none
      entities := []} = t := by
  unfold stopExposure
  rw [get_then,if_pos assigned,if_pos assigned,ensuring_ok]
  simp only [stopServer_ok,swallow_closeNode,closeNode_ok]
  constructor
  · rintro ⟨_,⟨server,rfl⟩,node,rfl⟩
    exact ⟨⟨server,node⟩,by simp⟩
  · rintro ⟨⟨server,node⟩,rfl⟩
    exact ⟨_,⟨server,rfl⟩,node,by simp⟩

theorem ifExposure_ok (assigned : s.assigned = settings.exposure.isSome) :
    ifExposure settings (fun _ => stopExposure course) s = .ok ⟨⟩ t ↔
      (settings.exposure.isSome → Closable course s) ∧ withdrawn settings s = t := by
  unfold ifExposure withdrawn exposureThings
  cases here : settings.exposure with
  | none => simp
  | some names =>
    have on : s.assigned = true := by rw [assigned,here]; rfl
    simp [stopExposure_ok on,on]

theorem stopBroadcaster_ok (here : Bool) : stopBroadcaster course here thing s = .ok ⟨⟩ t ↔
    (here = true → course.stop thing = .ok ()) ∧ halted here thing s = t := by
  cases here with
  | false => simp [stopBroadcaster,halted]
  | true => simp [stopBroadcaster,halted,close,then_ok,perform_ok_iff]

theorem closeImagePublisher_ok : closeImagePublisher settings course s = .ok ⟨⟩ t ↔
    (settings.ros2Publish = true → course.closeImage ≠ .error .interrupt) ∧ s = t := by
  unfold closeImagePublisher
  cases settings.ros2Publish with
  | false => simp
  | true =>
    rw [if_pos rfl,swallow_ok]
    rcases course.closeImage with (_ | _) | ⟨⟩ <;> simp

theorem stopComponents_ok (assigned : s.assigned = settings.exposure.isSome) : stopComponents settings course s = .ok ⟨⟩ t ↔
    (settings.exposure.isSome → Closable course s) ∧ (settings.coreTemp = true → course.stop .coreTemp = .ok ()) ∧
      course.stop .pgwaamOnline = .ok () ∧ course.stop .heartbeat = .ok () ∧
      (settings.ros2Publish = true → course.closeImage ≠ .error .interrupt) ∧ woundDown settings s = t := by
  simp [stopComponents,then_ok,ifExposure_ok assigned,stopBroadcaster_ok,closeImagePublisher_ok,and_assoc,woundDown,halted]

theorem woundDown_log : (woundDown settings s).log ++ [.down .captureService] =
    s.log ++ (stopped settings s).map .down := by
  unfold woundDown stopped withdrawn halted exposureThings
  cases settings.exposure <;> cases settings.coreTemp <;> simp [Site.mark]

end ZenohDslr.PiRuntime.Running
