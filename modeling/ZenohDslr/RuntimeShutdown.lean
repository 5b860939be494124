import ZenohDslr.RuntimeTakeDown
namespace ZenohDslr.PiRuntime.Running
open Attempts Picoparams

variable {settings : RunSettings} {course : Course} {s t : Site} {thing other : Thing} {outcome : Except Raised Unit}
  {names : List String} {rows : List ParamService} {tracked : Thing → Prop} {started : List Mark} {ended : List Thing}

-- What was started is stopped later on.
def Stopped (tracked : Thing → Prop) (log : List Mark) : Prop :=
  ∀ before thing rest, log = before ++ .up thing :: rest → tracked thing → .down thing ∈ rest

-- The things `run` is answerable for; the endpoints are the node's.
def Component : Thing → Prop
  | .parameterService _ | .parameterEvents => False
  | _ => True

structure ExposureSmooth (course : Course) (names : List String) : Prop where
  imports : course.imports = .ok ()
  declare : ∀ name ∈ names, course.declare name = .ok ()
  node : course.node = .ok ()
  rcl : course.rcl = .ok ()
  services : ∀ row ∈ paramServices, course.serviceServer row = .ok () ∧ course.repairTypes row = .ok ()
  publisher : course.createPublisher ≠ .error .interrupt

-- No step between the construction of the capture service and the `try` raises,
-- an Exception of the publisher of /parameter_events apart.
structure Smooth (settings : RunSettings) (course : Course) : Prop where
  heartbeat : settings.heartbeat = true → course.heartbeat = .ok ()
  pgwaamOnline : settings.pgwaamOnline = true → course.pgwaamOnline = .ok ()
  exposure : ∀ names, settings.exposure = some names → ExposureSmooth course names
  coreTemp : settings.coreTemp = true → course.coreTemp = .ok ()

-- The endpoints of a parameter server that has started.
def endpoints (course : Course) : List Thing := paramServices.map .parameterService ++
  match course.createPublisher with
  | .ok _ => [.parameterEvents]
  | .error _ => []

-- The `finally` block comes down to the close of the capture service: no stop of a
-- broadcaster raises, and no close in front of it is interrupted.
structure Undisturbed (settings : RunSettings) (course : Course) : Prop where
  endpoints : settings.exposure.isSome → ∀ thing ∈ endpoints course,
    course.stop thing ≠ .error .interrupt ∧ course.closeEntity thing ≠ .error .interrupt
  coreTemp : settings.coreTemp = true → course.stop .coreTemp = .ok ()
  pgwaamOnline : course.stop .pgwaamOnline = .ok ()
  heartbeat : course.stop .heartbeat = .ok ()
  image : settings.ros2Publish = true → course.closeImage ≠ .error .interrupt

theorem stopped_append (covered : ∀ thing, .up thing ∈ started → thing ∈ ended) :
    Stopped tracked (started ++ ended.map .down) := by
  intro before thing rest split _
  rcases List.append_eq_append_iff.mp split with ⟨more,_,later⟩ | ⟨more,earlier,behind⟩
  · have inside : Mark.up thing ∈ ended.map Mark.down := by rw [later]; simp
    simp at inside
  · cases more with
    | nil =>
      have inside : Mark.up thing ∈ ended.map Mark.down := by
        have here : Mark.up thing :: rest = ended.map Mark.down := by simpa using behind
        rw [← here]
        exact List.mem_cons_self
      simp at inside
    | cons first more =>
      obtain ⟨rfl,rfl⟩ := List.cons.inj behind
      have inside : Mark.up thing ∈ started := by rw [earlier]; simp
      simp [covered thing inside]

theorem mainLoop_after (rounds : List (Except Raised Unit)) : after (mainLoop rounds s) = s := by
  induction rounds with
  | nil => rfl
  | cons round rest ih => cases round <;> simp [mainLoop,bind_apply,ih]

-- Where a start-up step returns, it leaves this.
def begun (enabled : Bool) (thing : Thing) (s : Site) : Site := if enabled then s.mark (.up thing) else s

def served (rows : List ParamService) (s : Site) : Site :=
  {s with
    log := s.log ++ rows.map fun row => .up (.parameterService row)
    entities := s.entities ++ rows.map .parameterService
    services := s.services ++ rows.map .parameterService}

def published (course : Course) (s : Site) : Site :=
  match course.createPublisher with
  | .ok _ => {(s.mark (.up .parameterEvents)).held .parameterEvents with eventPub := some .parameterEvents}
  | .error _ => s

def exposed (course : Course) (s : Site) : Site :=
  {published course (served paramServices (s.mark (.up .node))) with assigned := true}

def broughtUp (settings : RunSettings) (course : Course) (s : Site) : Site :=
  let started := begun settings.pgwaamOnline .pgwaamOnline (begun settings.heartbeat .heartbeat s)
  begun settings.coreTemp .coreTemp (if settings.exposure.isSome then exposed course started else started)

theorem startBroadcaster_ok (enabled : Bool) : startBroadcaster enabled thing outcome s = .ok ⟨⟩ t ↔
    (enabled = true → outcome = .ok ()) ∧ begun enabled thing s = t := by
  cases enabled with
  | false => simp [startBroadcaster,begun]
  | true => simp [startBroadcaster,begun,then_ok,perform_ok_iff]

theorem declareEach_ok : declareEach course names s = .ok ⟨⟩ t ↔ (∀ name ∈ names, course.declare name = .ok ()) ∧ s = t := by
  induction names with
  | nil => simp [declareEach]
  | cons name rest ih => simp [declareEach,then_ok,perform_ok_iff,ih,and_assoc]

theorem createServices_ok : createServices course rows s = .ok ⟨⟩ t ↔
    (∀ row ∈ rows, course.serviceServer row = .ok () ∧ course.repairTypes row = .ok ()) ∧ served rows s = t := by
  induction rows generalizing s with
  | nil => simp [createServices,served]
  | cons row rest ih =>
    simp [createServices,createService,then_ok,perform_ok_iff,ih,and_assoc,served,Site.held,Site.mark]

theorem startServer_ok : startServer course s = .ok ⟨⟩ t ↔ course.rcl = .ok () ∧
    (∀ row ∈ paramServices, course.serviceServer row = .ok () ∧ course.repairTypes row = .ok ()) ∧
    course.createPublisher ≠ .error .interrupt ∧ published course (served paramServices s) = t := by
  simp only [startServer,then_ok,perform_ok_iff,createServices_ok]
  rcases outcome : course.createPublisher with (_ | _) | _ <;>
    simp [swallow,guarded,published,bind_apply,outcome]

theorem startExposure_ok : startExposure course names s = .ok ⟨⟩ t ↔ ExposureSmooth course names ∧ exposed course s = t := by
  simp only [startExposure,then_ok,perform_ok_iff,declareEach_ok,startServer_ok]
  constructor
  · rintro ⟨_,⟨imports,rfl⟩,_,⟨declare,rfl⟩,_,⟨node,rfl⟩,_,opened,_,⟨rcl,services,publisher,rfl⟩,done⟩
    cases opened
    cases done
    exact ⟨⟨imports,declare,node,rcl,services,publisher⟩,rfl⟩
  · rintro ⟨smooth,rfl⟩
    exact ⟨_,⟨smooth.imports,rfl⟩,_,⟨smooth.declare,rfl⟩,_,⟨smooth.node,rfl⟩,_,rfl,_,
      ⟨smooth.rcl,smooth.services,smooth.publisher,rfl⟩,rfl⟩

theorem bringUp_ok : bringUp settings course s = .ok ⟨⟩ t ↔ Smooth settings course ∧ broughtUp settings course s = t := by
  simp only [bringUp,then_ok,startBroadcaster_ok]
  constructor
  · rintro ⟨_,⟨heartbeat,rfl⟩,_,⟨pgwaamOnline,rfl⟩,_,exposure,coreTemp,rfl⟩
    cases here : settings.exposure with
    | none =>
      rw [ifExposure,here] at exposure
      cases exposure
      exact ⟨⟨heartbeat,pgwaamOnline,by simp [here],coreTemp⟩,by simp [broughtUp,here]⟩
    | some names =>
      rw [ifExposure,here] at exposure
      obtain ⟨smooth,rfl⟩ := startExposure_ok.mp exposure
      refine ⟨⟨heartbeat,pgwaamOnline,fun other same => ?_,coreTemp⟩,by simp [broughtUp,here]⟩
      cases here.symm.trans same
      exact smooth
  · rintro ⟨smooth,rfl⟩
    refine ⟨_,⟨smooth.heartbeat,rfl⟩,_,⟨smooth.pgwaamOnline,rfl⟩,_,?_,smooth.coreTemp,rfl⟩
    cases here : settings.exposure with
    | none => simp [ifExposure,here]
    | some names => simpa [ifExposure,here] using startExposure_ok.mpr ⟨smooth.exposure names here,rfl⟩

theorem begun_log (enabled : Bool) : .up thing ∈ (begun enabled other s).log ↔
    .up thing ∈ s.log ∨ enabled = true ∧ thing = other := by
  cases enabled <;> simp [begun,Site.mark]

theorem begun_exposure (enabled : Bool) : exposureThings settings (begun enabled other s) = exposureThings settings s := by
  cases enabled <;> rfl

theorem exposed_reached (enabled : settings.exposure.isSome) (here : .up thing ∈ (exposed course s).log) :
    .up thing ∈ s.log ∨ thing ∈ exposureThings settings (exposed course s) := by
  have things : .up thing ∈ s.log ∨ thing = .node ∨ (∃ row ∈ paramServices, thing = .parameterService row) ∨
      course.createPublisher = .ok () ∧ thing = .parameterEvents := by
    cases outcome : course.createPublisher <;>
      simpa [exposed,published,outcome,served,Site.held,Site.mark,eq_comm] using here
  rcases things with earlier | rfl | ⟨row,listed,rfl⟩ | ⟨created,rfl⟩
  · exact .inl earlier
  · exact .inr (by simp [exposureThings,enabled,exposed])
  · right
    cases outcome : course.createPublisher <;>
      simp [exposureThings,enabled,exposed,published,outcome,served,Site.held,Site.mark,listed]
  · exact .inr (by simp [exposureThings,enabled,exposed,published,created])

-- A start-up that comes through leaves nothing running that the `finally` does not reach.
theorem broughtUp_reached (only : ∀ thing, .up thing ∈ s.log → thing = .captureService)
    (here : .up thing ∈ (broughtUp settings course s).log) : thing ∈ stopped settings (broughtUp settings course s) := by
  have started : ∀ thing, .up thing ∈ (begun settings.pgwaamOnline .pgwaamOnline (begun settings.heartbeat .heartbeat s)).log →
      thing ∈ [.pgwaamOnline,.heartbeat,.captureService] := by
    intro thing before
    rcases begun_log _ |>.mp before with before | ⟨_,rfl⟩
    · rcases begun_log _ |>.mp before with before | ⟨_,rfl⟩
      · simp [only thing before]
      · simp
    · simp
  unfold broughtUp stopped at *
  simp only [begun_exposure,List.mem_append]
  rcases begun_log _ |>.mp here with before | ⟨enabled,rfl⟩
  · split at before
    next enabled =>
      rcases exposed_reached enabled before with earlier | reached
      · exact .inr (started thing earlier)
      · rw [if_pos enabled]
        exact .inl (.inl reached)
    next => exact .inr (started thing before)
  · simp [enabled]

-- What a start-up that comes through leaves with the exposure server.
theorem exposed_held (blank : s.services = [] ∧ s.eventPub = none ∧ s.entities = []) :
    Closable course (exposed course s) ↔
      ∀ thing ∈ endpoints course, course.stop thing ≠ .error .interrupt ∧ course.closeEntity thing ≠ .error .interrupt := by
  have services : (exposed course s).services ++ (exposed course s).eventPub.toList = endpoints course := by
    cases made : course.createPublisher <;>
      simp [exposed,published,endpoints,made,served,Site.held,Site.mark,blank.1,blank.2.1]
  have entities : (exposed course s).entities = endpoints course := by
    cases made : course.createPublisher <;>
      simp [exposed,published,endpoints,made,served,Site.held,Site.mark,blank.2.2]
  rw [Closable,services,entities]
  constructor
  · rintro ⟨stops,closes⟩ thing inside
    exact ⟨stops thing inside,closes thing inside⟩
  · intro calm
    exact ⟨fun thing inside => (calm thing inside).1,fun thing inside => (calm thing inside).2⟩

-- The capture service is up, and so far nothing else.
def opened : Site := Site.initial.mark (.up .captureService)

theorem undisturbed_ok : stopComponents settings course (broughtUp settings course opened) = .ok ⟨⟩ t ↔
    Undisturbed settings course ∧ woundDown settings (broughtUp settings course opened) = t := by
  have assigned : (broughtUp settings course opened).assigned = settings.exposure.isSome := by
    unfold broughtUp begun
    cases settings.exposure <;> cases settings.coreTemp <;> cases settings.pgwaamOnline <;> cases settings.heartbeat <;> rfl
  have closable : (settings.exposure.isSome → Closable course (broughtUp settings course opened)) ↔ (settings.exposure.isSome →
      ∀ thing ∈ endpoints course, course.stop thing ≠ .error .interrupt ∧ course.closeEntity thing ≠ .error .interrupt) := by
    refine forall_congr' fun enabled => ?_
    rw [← exposed_held (s := begun settings.pgwaamOnline .pgwaamOnline (begun settings.heartbeat .heartbeat opened)) ?_]
    · simp only [broughtUp,enabled,if_true]
      unfold begun
      cases settings.coreTemp <;> rfl
    · unfold begun
      cases settings.pgwaamOnline <;> cases settings.heartbeat <;> exact ⟨rfl,rfl,rfl⟩
  rw [stopComponents_ok assigned,closable]
  constructor
  · rintro ⟨endpoints,coreTemp,pgwaamOnline,heartbeat,image,done⟩
    exact ⟨⟨endpoints,coreTemp,pgwaamOnline,heartbeat,image⟩,done⟩
  · rintro ⟨calm,done⟩
    exact ⟨calm.endpoints,calm.coreTemp,calm.pgwaamOnline,calm.heartbeat,calm.image,done⟩

-- The capture service is up and nobody has closed it.
structure Unclosed (s : Site) : Prop where
  up : .up .captureService ∈ s.log
  unclosed : .down .captureService ∉ s.log
  services : .captureService ∉ s.services
  eventPub : s.eventPub ≠ some .captureService
  entities : .captureService ∉ s.entities

theorem opened_unclosed : Unclosed opened := by
  constructor <;> simp [opened,Site.initial,Site.mark]

theorem unclosed_mark {mark : Mark} (held : Unclosed s) (other : mark ≠ .down .captureService) : Unclosed (s.mark mark) := by
  refine ⟨?_,?_,held.services,held.eventPub,held.entities⟩
  · exact List.mem_append_left _ held.up
  · intro closed
    rcases List.mem_append.mp closed with earlier | now
    · exact held.unclosed earlier
    · exact other (List.mem_singleton.mp now).symm

theorem unclosed_held (held : Unclosed s) (other : thing ≠ .captureService) : Unclosed (s.held thing) := by
  refine ⟨held.up,held.unclosed,held.services,held.eventPub,?_⟩
  intro inside
  rcases List.mem_append.mp inside with earlier | now
  · exact held.entities earlier
  · exact other (List.mem_singleton.mp now).symm

theorem keeps_up : Keeps Unclosed (modify fun site => site.mark (.up thing) : Step) :=
  keeps_modify fun _ held => unclosed_mark held (by simp)

theorem keeps_startBroadcaster (enabled : Bool) : Keeps Unclosed (startBroadcaster enabled thing outcome) := by
  cases enabled with
  | false => exact keeps_pure _
  | true => exact keeps_bind (keeps_perform _) fun _ => keeps_up

theorem keeps_declareEach : Keeps Unclosed (declareEach course names) := by
  induction names with
  | nil => exact keeps_pure _
  | cons name rest ih => exact keeps_bind (keeps_perform _) fun _ => ih

theorem keeps_createService (row : ParamService) : Keeps Unclosed (createService course row) :=
  keeps_bind (keeps_perform _) fun _ => keeps_bind keeps_up fun _ => keeps_bind (keeps_perform _) fun _ =>
    keeps_modify fun _ held => unclosed_held held (by simp)

theorem keeps_createServices : Keeps Unclosed (createServices course rows) := by
  induction rows with
  | nil => exact keeps_pure _
  | cons row rest ih =>
    refine keeps_bind (keeps_createService row) fun _ => keeps_bind (keeps_modify fun s held => ?_) fun _ => ih
    exact {held with services := by simp [held.services]}

theorem keeps_swallow {body : Step} (kept : Keeps Unclosed body) : Keeps Unclosed (swallow body) := by
  refine keeps_guarded kept fun e => ?_
  cases e <;> exact fun _ held => held

theorem keeps_startServer : Keeps Unclosed (startServer course) := by
  refine keeps_bind (keeps_perform _) fun _ => keeps_bind keeps_createServices fun _ => keeps_swallow ?_
  refine keeps_bind (keeps_perform _) fun _ => keeps_modify fun s held => ?_
  have marked : Unclosed (s.mark (.up .parameterEvents)) := unclosed_mark held (by simp)
  have pinned : Unclosed ((s.mark (.up .parameterEvents)).held .parameterEvents) := unclosed_held marked (by simp)
  exact {pinned with eventPub := by simp}

theorem keeps_startExposure : Keeps Unclosed (startExposure course names) := by
  refine keeps_bind (keeps_perform _) fun _ => keeps_bind keeps_declareEach fun _ => keeps_bind (keeps_perform _) fun _ => ?_
  refine keeps_bind keeps_up fun _ => keeps_bind keeps_startServer fun _ => ?_
  exact keeps_modify fun _ held => {held with}

theorem keeps_bringUp : Keeps Unclosed (bringUp settings course) := by
  have exposure : Keeps Unclosed (ifExposure settings (startExposure course)) := by
    unfold ifExposure
    split
    · exact keeps_pure _
    · exact keeps_startExposure
  exact keeps_bind (keeps_startBroadcaster _) fun _ => keeps_bind (keeps_startBroadcaster _) fun _ =>
    keeps_bind exposure fun _ => keeps_startBroadcaster _

theorem keeps_close {ending : Thing → Except Raised Unit} (other : thing ≠ .captureService) : Keeps Unclosed (close ending thing) :=
  keeps_bind (keeps_modify fun _ held => unclosed_mark held (by simpa using other)) fun _ => keeps_perform _

theorem keeps_closeEach {ending : Thing → Except Raised Unit} {things : List Thing} (other : .captureService ∉ things) :
    Keeps Unclosed (closeEach ending things) := by
  induction things with
  | nil => exact keeps_pure _
  | cons thing rest ih =>
    obtain ⟨first,behind⟩ := not_or.mp (mt List.mem_cons.mpr other)
    exact keeps_bind (keeps_swallow (keeps_close (Ne.symm first))) fun _ => ih behind

theorem keeps_stopServer : Keeps Unclosed (stopServer course) := by
  intro s held
  unfold stopServer
  rw [get_then]
  refine keeps_bind (keeps_closeEach held.services) (fun _ => keeps_bind (keeps_modify fun u kept => ?_) fun _ => ?_) s held
  · exact {kept with services := by simp}
  · cases publisher : s.eventPub with
    | none => exact keeps_pure _
    | some thing =>
      have other : thing ≠ .captureService := fun same => held.eventPub (by rw [publisher,same])
      exact keeps_bind (keeps_swallow (keeps_close other)) fun _ => keeps_modify fun u kept =>
        {kept with eventPub := Option.some_ne_none _ |>.symm}

theorem keeps_closeNode : Keeps Unclosed (closeNode course) := by
  refine keeps_bind (keeps_modify fun _ held => unclosed_mark held (by simp)) fun _ => ?_
  intro s held
  rw [get_then]
  have other : .captureService ∉ s.entities.reverse := by simpa using held.entities
  refine keeps_bind (keeps_closeEach other) (fun _ => keeps_modify fun u kept => ?_) s held
  exact {kept with entities := List.not_mem_nil}

theorem keeps_stopExposure : Keeps Unclosed (stopExposure course) := by
  intro s held
  unfold stopExposure
  rw [get_then,after_ensuring]
  cases s.assigned with
  | false => exact held
  | true => exact keeps_swallow keeps_closeNode _ (keeps_stopServer s held)

theorem keeps_stopBroadcaster (here : Bool) (other : thing ≠ .captureService) : Keeps Unclosed (stopBroadcaster course here thing) := by
  cases here with
  | false => exact keeps_pure _
  | true => exact keeps_close other

theorem keeps_stopComponents : Keeps Unclosed (stopComponents settings course) := by
  have exposure : Keeps Unclosed (ifExposure settings fun _ => stopExposure course) := by
    unfold ifExposure
    split
    · exact keeps_pure _
    · exact keeps_stopExposure
  have image : Keeps Unclosed (closeImagePublisher settings course) := by
    unfold closeImagePublisher
    split
    · exact keeps_swallow (keeps_perform _)
    · exact keeps_pure _
  exact keeps_bind exposure fun _ => keeps_bind (keeps_stopBroadcaster _ (by simp)) fun _ =>
    keeps_bind (keeps_stopBroadcaster _ (by simp)) fun _ => keeps_bind (keeps_stopBroadcaster _ (by simp)) fun _ => image

theorem unclosed_leaks (held : Unclosed s) (own : tracked .captureService) : ¬ Stopped tracked s.log := by
  intro all
  obtain ⟨before,rest,split⟩ := List.append_of_mem held.up
  refine held.unclosed ?_
  rw [split]
  simp [all before .captureService rest split own]

-- Behind a start-up that comes through, a `finally` block that does stops
-- everything, the endpoints as well; one that is left early leaves the capture
-- service open.
theorem smooth_stopped_iff (created : course.captureService = .ok ()) (smooth : Smooth settings course)
    (own : tracked .captureService) : Stopped tracked (after (run settings course .initial)).log ↔ Undisturbed settings course := by
  have up : bringUp settings course (Site.initial.mark (.up .captureService)) = .ok ⟨⟩ (broughtUp settings course opened) :=
    bringUp_ok.mpr ⟨smooth,rfl⟩
  have held : Unclosed (broughtUp settings course opened) := by
    have kept := @keeps_bringUp settings course opened opened_unclosed
    rwa [show bringUp settings course opened = _ from up] at kept
  have behind := @keeps_stopComponents settings course _ held
  simp only [run,bind_apply,created,perform_ok,modify_apply,up,after_ensuring,mainLoop_after,takeDown]
  cases down : stopComponents settings course (broughtUp settings course opened) with
  | ok _ t =>
    obtain ⟨undisturbed,rfl⟩ := undisturbed_ok.mp down
    have closed : ∀ ending : Thing → Except Raised Unit, ∀ u : Site,
        (after (close ending .captureService u)).log = u.log ++ [.down .captureService] := by
      intro ending u
      unfold close
      cases how : ending .captureService <;> simp [bind_apply,Site.mark]
    refine ⟨fun _ => undisturbed,fun _ => ?_⟩
    rw [closed,woundDown_log]
    refine stopped_append fun thing here => broughtUp_reached (fun other first => ?_) here
    simpa [opened,Site.initial,Site.mark] using first
  | error e t =>
    rw [down] at behind
    refine ⟨fun all => absurd all (unclosed_leaks behind own),fun undisturbed => ?_⟩
    have through := undisturbed_ok.mpr ⟨undisturbed,rfl⟩
    rw [down] at through
    cases through

-- Everything started is stopped, unless a step between the first construction
-- and the `try` raises, or one of the `finally` block in front of its last line.
theorem everything_stopped_iff : Stopped Component (after (run settings course .initial)).log ↔
    (∃ e, course.captureService = .error e) ∨ Smooth settings course ∧ Undisturbed settings course := by
  cases created : course.captureService with
  | error e =>
    have nothing : (after (run settings course .initial)).log = [] := by simp [run,bind_apply,created,Site.initial]
    rw [nothing]
    exact ⟨fun _ => .inl ⟨e,rfl⟩,fun _ => by simp [Stopped]⟩
  | ok _ =>
    constructor
    · intro all
      have smooth : Smooth settings course := Classical.byContradiction fun rough => by
        have held := @keeps_bringUp settings course (Site.initial.mark (.up .captureService)) opened_unclosed
        cases up : bringUp settings course (Site.initial.mark (.up .captureService)) with
        | ok _ t => exact rough (bringUp_ok.mp up).1
        | error e t =>
          simp only [run,bind_apply,created,perform_ok,modify_apply,up,after_error] at all held
          exact unclosed_leaks held trivial all
      exact .inr ⟨smooth,(smooth_stopped_iff created smooth trivial).mp all⟩
    · rintro (⟨e,raised⟩ | ⟨smooth,undisturbed⟩)
      · cases raised
      · exact (smooth_stopped_iff created smooth trivial).mpr undisturbed

-- The exposure parameters are on and pico-ros-py is not installed.
def withoutPicoRos : Course where
  captureService := .ok ()
  heartbeat := .ok ()
  pgwaamOnline := .ok ()
  imports := .error .exception
  declare _ := .ok ()
  node := .ok ()
  rcl := .ok ()
  serviceServer _ := .ok ()
  repairTypes _ := .ok ()
  createPublisher := .ok ()
  coreTemp := .ok ()
  rounds := []
  stop _ := .ok ()
  closeEntity _ := .ok ()
  closeImage := .ok ()

theorem missing_import_leaks :
    ¬ Stopped Component (after (run ⟨true,true,some ["iso"],true,false⟩ withoutPicoRos .initial)).log := by
  intro all
  have left := all [.up .captureService] .heartbeat [.up .pgwaamOnline] rfl trivial
  simp at left

end ZenohDslr.PiRuntime.Running
