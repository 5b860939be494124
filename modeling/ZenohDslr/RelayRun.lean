import ZenohDslr.FrameFlow
import ZenohDslr.KeyRouting
import ZenohDslr.MockBars
import ZenohDslr.RelayGateway
namespace ZenohDslr.Gateway
open PiRuntime Runs

-- One runtime, the gateway of its camera and a monitor of its heartbeats; which
-- keys a subscription takes is Zenoh's, the spelling of paths and of encodings
-- Python's and Zenoh's.
structure Wiring where
  settings : HeartbeatSettings
  native : Bool
  gateway : ZenohDslrGateway
  keys : KeyMatching
  receiver : Receiver
  str : TargetPath → String
  spelled : String → String

inductive Put where
  | frame (made : BackendFrame)
  | beat (text : String)

def Put.made : Put → Option BackendFrame
  | .frame made => some made
  | .beat _ => none

def Put.text : Put → Option String
  | .frame _ => none
  | .beat text => some text

structure Relay where
  runtime : PiDslrRuntime BackendFrame
  seq : Nat
  -- a heartbeat that is built and not put yet
  pulse : Option String
  -- put on the session, in order, and not routed yet
  wire : List Put
  -- history: what has been routed, with whether it arrived, and what the gateway
  -- has published
  routed : List (Put × Bool)
  published : List Published

-- A sample is lost when the session drops it.
inductive RelayEvent where
  | runtime (event : Event BackendFrame)
  | build (probes : Probes)
  | pulse (outcome : Outcome)
  | route (arrives : Bool) (stamp : Stamp)

namespace Wiring
variable {w : Wiring} {s t : Relay} {event : RelayEvent}

def sample (w : Wiring) : Put → Sample
  | .frame made => sampleOf w.str w.spelled made
  | .beat text => ⟨w.settings.heartbeat.zenohKey,Verifier.utf8 text,some (w.spelled ""),none⟩

def initial (w : Wiring) : Relay := ⟨.initial w.settings.toSettings w.native,0,none,[],[],[]⟩

-- What the gateway publishes of a sample that is routed to it.
def receive (w : Wiring) (stamp : Stamp) (sample : Sample) : List Published :=
  if w.keys.receives (frameKeyExpr w.gateway.frameKeyPrefix) sample.keyExpr then (w.gateway.onFrame w.receiver stamp sample).1 else []

def deliver (w : Wiring) (stamp : Stamp) (put : Put) : List Published := w.receive stamp (w.sample put)

-- The heartbeat thread reads the count, then puts; a put that raises is logged.
-- The session keeps the order of the puts and hands on no sample twice.
def advance (w : Wiring) (s : Relay) : RelayEvent → Option Relay
  | .runtime .heartbeat => none
  | .runtime event =>
    (s.runtime.advance event).map fun next =>
      {s with runtime := next,wire := s.wire ++ ((landed next.effects).drop (landed s.runtime.effects).length).map .frame}
  | .build probes =>
    match s.pulse with
    | some _ => none
    | none =>
      (s.runtime.advance .heartbeat).map fun next =>
        {s with runtime := next,pulse := some (encodedHeartbeat w.settings s.seq s.runtime.captureCount probes)}
  | .pulse outcome =>
    match s.pulse,outcome with
    | some text,.returned => some {s with seq := s.seq + 1,pulse := none,wire := s.wire ++ [.beat text]}
    | some _,.raised => some {s with seq := s.seq + 1,pulse := none}
    | none,_ => none
  | .route arrives stamp =>
    match s.wire with
    | [] => none
    | put :: rest =>
      let fresh := if arrives then w.deliver stamp put else []
      some {s with wire := rest,routed := s.routed ++ [(put,arrives)],published := s.published ++ fresh}

end Wiring

namespace Relay

-- Everything put so far, in order, and what of it has arrived.
def sent (s : Relay) : List Put := s.routed.map Prod.fst ++ s.wire

def arrived (s : Relay) : List Put := (s.routed.filter fun r => r.2).map Prod.fst

end Relay

-- A frame that a backend of these settings has captured under a name.
def Captured (settings : Settings) (made : BackendFrame) : Prop :=
  ∃ (Image : Type) (config : BackendConfig) (persistence : PersistenceBuffer) (backend : CaptureBackend) (world : Surroundings Image)
    (exposure : Option (OrderedDict String String)) (dir : Directory),
    world.captureId ≠ "" ∧ buildBackend settings config persistence = .ok backend ∧ (backend.capture world exposure dir).1 = .ok made

-- The key of the frame is one that Zenoh takes: ids are `uuid4().hex`.
structure Keyed (settings : Settings) (made : BackendFrame) : Prop where
  captured : Captured settings made
  plain : PlainChunk made.frame.captureId

-- The gateway is set to the prefix of its runtime, and that is a key.
structure Wiring.Tuned (w : Wiring) : Prop where
  prefixed : w.gateway.frameKeyPrefix = w.settings.frameKeyPrefix
  valid : ValidKey w.settings.frameKeyPrefix

-- What the gateway should make of a frame.
def Wiring.forward (w : Wiring) (made : BackendFrame) : String × String × List UInt8 :=
  (w.gateway.cameraId,w.spelled made.frame.encoding,made.frame.payload)

-- Each frame whose put returned is sent once, in the order of the puts; what the
-- gateway republishes are the frames that arrived, each once and unchanged.
structure Relayed (w : Wiring) (s : Relay) : Prop where
  order : s.sent.filterMap Put.made = landed s.runtime.effects
  exact : s.published.filterMap forwarded = (s.arrived.filterMap Put.made).map w.forward
  lost : (s.arrived.filterMap Put.made).Sublist (landed s.runtime.effects)
  complete : s.wire = [] → (∀ r ∈ s.routed, r.2 = true) → s.published.filterMap forwarded = (landed s.runtime.effects).map w.forward

variable {w : Wiring} {s t : Relay} {event : RelayEvent} {made : BackendFrame} {stamp : Stamp}

theorem wellFormed_of_captured {settings : Settings} (captured : Captured settings made) :
    ∃ captureId, captureId ≠ "" ∧ WellFormed settings captureId made := by
  obtain ⟨Image,config,persistence,backend,world,exposure,dir,named,built,captured⟩ := captured
  exact ⟨world.captureId,named,capture_wellFormed built captured⟩

def Good (settings : Settings) (made : BackendFrame) : Prop := ∃ captureId, PlainChunk captureId ∧ WellFormed settings captureId made

theorem good_of_keyed {settings : Settings} (keyed : Keyed settings made) : Good settings made := by
  obtain ⟨captureId,_,wellFormed⟩ := wellFormed_of_captured keyed.captured
  exact ⟨captureId,wellFormed.identified.1 ▸ keyed.plain,wellFormed⟩

theorem deliver_frame (tuned : w.Tuned) (good : Good w.settings.toSettings made) :
    (w.deliver stamp (.frame made)).filterMap forwarded = [w.forward made] := by
  obtain ⟨captureId,plain,wellFormed⟩ := good
  have key : (w.sample (.frame made)).keyExpr = w.settings.frameKeyPrefix ++ "/" ++ captureId := wellFormed.keyed
  rw [Wiring.deliver,Wiring.receive,key,tuned.prefixed,if_pos (receives_own w.keys tuned.valid plain),Wiring.sample,
    onFrame_sample wellFormed plain.1]
  exact publishFrame_forwarded rfl

theorem deliver_beat (text : String) : w.deliver stamp (.beat text) = [] := by
  unfold Wiring.deliver Wiring.receive
  split
  · rfl
  · rfl

structure Flowing (w : Wiring) (s : Relay) : Prop where
  carries : PiDslrRuntime.Carries (Good w.settings.toSettings) s.runtime
  order : s.sent.filterMap Put.made = landed s.runtime.effects
  exact : s.published.filterMap forwarded = (s.arrived.filterMap Put.made).map w.forward

theorem flowing_initial (w : Wiring) : Flowing w w.initial :=
  ⟨PiDslrRuntime.carries_initial _ _,rfl,rfl⟩

-- More put behind what is on the wire.
theorem flowing_put {next : PiDslrRuntime BackendFrame} {puts : List Put} (flowing : Flowing w s) (seq : Nat) (pulse : Option String)
    (carries : PiDslrRuntime.Carries (Good w.settings.toSettings) next)
    (fresh : landed next.effects = landed s.runtime.effects ++ puts.filterMap Put.made) :
    Flowing w ⟨next,seq,pulse,s.wire ++ puts,s.routed,s.published⟩ where
  carries := carries
  order := by
    have sent : Relay.sent ⟨next,seq,pulse,s.wire ++ puts,s.routed,s.published⟩ = s.sent ++ puts := by simp [Relay.sent]
    rw [sent,List.filterMap_append,flowing.order,fresh]
  exact := flowing.exact

theorem made_frames (frames : List BackendFrame) : (frames.map Put.frame).filterMap Put.made = frames := by
  induction frames with
  | nil => rfl
  | cons first rest ih => simp [Put.made,ih]

theorem landed_grown {runtime next : PiDslrRuntime BackendFrame} {event : Event BackendFrame} (step : runtime.advance event = some next) :
    landed next.effects = landed runtime.effects ++ (landed next.effects).drop (landed runtime.effects).length := by
  obtain ⟨new,added,_⟩ := (PiDslrRuntime.advance_flows step).effects
  simp [landed,added]

theorem runtime_step {event : Event BackendFrame} (step : w.advance s (.runtime event) = some t) : event ≠ .heartbeat ∧
    ∃ next, s.runtime.advance event = some next ∧
      t = ⟨next,s.seq,s.pulse,s.wire ++ ((landed next.effects).drop (landed s.runtime.effects).length).map .frame,s.routed,s.published⟩ := by
  cases event with
  | heartbeat => cases step
  | _ =>
    refine ⟨by simp,?_⟩
    obtain ⟨next,moved,same⟩ := Option.map_eq_some_iff.mp step
    exact ⟨next,moved,same.symm⟩

theorem good_sent (flowing : Flowing w s) {put : Put} (inside : put ∈ s.sent) : ∀ made, put.made = some made → Good w.settings.toSettings made := by
  intro made there
  have listed : made ∈ landed s.runtime.effects := by
    rw [← flowing.order]
    exact List.mem_filterMap.mpr ⟨put,inside,there⟩
  obtain ⟨effect,present,landing⟩ := List.mem_filterMap.mp listed
  rw [← PiDslrRuntime.landed_frame landing]
  exact flowing.carries.effects effect present

theorem deliver_forwarded (tuned : w.Tuned) {put : Put}
    (good : ∀ made, put.made = some made → Good w.settings.toSettings made) :
    (w.deliver stamp put).filterMap forwarded = put.made.toList.map w.forward := by
  cases put with
  | frame made => exact deliver_frame tuned (good made rfl)
  | beat text => rw [deliver_beat]; rfl

theorem flowing_step (tuned : w.Tuned) (flowing : Flowing w s)
    (captured : ∀ k made, event = .runtime (.capture k (some made)) → Good w.settings.toSettings made)
    (step : w.advance s event = some t) : Flowing w t := by
  cases event with
  | runtime event =>
    obtain ⟨_,next,moved,rfl⟩ := runtime_step step
    apply flowing_put flowing
    · exact PiDslrRuntime.carries_step flowing.carries moved fun k made same => captured k made (by rw [same])
    · rw [made_frames]
      exact landed_grown moved
  | build probes =>
    simp only [Wiring.advance] at step
    split at step
    · cases step
    · cases step
      have stepped : s.runtime.advance .heartbeat = some {s.runtime with heartbeats := s.runtime.heartbeats ++ [s.runtime.captureCount]} := rfl
      exact ⟨PiDslrRuntime.carries_step flowing.carries stepped (fun k made same => nomatch same),flowing.order,flowing.exact⟩
  | pulse outcome =>
    simp only [Wiring.advance] at step
    split at step
    · cases step
      exact flowing_put flowing _ _ flowing.carries (List.append_nil _).symm
    · cases step
      exact ⟨flowing.carries,flowing.order,flowing.exact⟩
    · cases step
  | route arrives stamp =>
    simp only [Wiring.advance] at step
    split at step
    · cases step
    · rename_i put rest front
      cases step
      have inside : put ∈ s.sent := by simp [Relay.sent,front]
      refine ⟨flowing.carries,?_,?_⟩
      · rw [← flowing.order]
        simp [Relay.sent,front]
      · have passed := @deliver_forwarded w stamp tuned put (good_sent flowing inside)
        cases arrives
        · simpa [Relay.arrived] using flowing.exact
        · rw [if_pos rfl,List.filterMap_append,passed,flowing.exact]
          cases put <;> simp [Relay.arrived,Put.made]

theorem arrived_sublist (s : Relay) : s.arrived.Sublist s.sent :=
  (List.filter_sublist.map Prod.fst).trans (List.sublist_append_left _ _)

theorem relayed_of_flowing (flowing : Flowing w s) : Relayed w s where
  order := flowing.order
  exact := flowing.exact
  lost := by
    rw [← flowing.order]
    exact (arrived_sublist s).filterMap Put.made
  complete drained all := by
    have whole : s.arrived = s.sent := by
      rw [Relay.arrived,Relay.sent,drained,List.append_nil,List.filter_eq_self.mpr all]
    rw [flowing.exact,whole,flowing.order]

theorem flowing_throughout (tuned : w.Tuned) (events : List RelayEvent)
    (keyed : ∀ k made, .runtime (.capture k (some made)) ∈ events → Keyed w.settings.toSettings made) :
    Throughout w.advance (Flowing w) w.initial events := by
  refine along_invariant (Flowing w) (fun _ event => ∀ k made, event = .runtime (.capture k (some made)) → Good w.settings.toSettings made)
    (fun _ _ _ flowing good step => flowing_step tuned flowing good step) (flowing_initial w) ?_
  intro done event rest t split ran k made same
  apply good_of_keyed
  apply keyed k made
  rw [split,same]
  exact List.mem_append_right done List.mem_cons_self

-- In every interleaving of requests, capture jobs, heartbeats, losses and arrivals.
theorem frames_relayed (tuned : w.Tuned) (events : List RelayEvent)
    (keyed : ∀ k made, .runtime (.capture k (some made)) ∈ events → Keyed w.settings.toSettings made) :
    Throughout w.advance (Relayed w) w.initial events :=
  fun done rest t split ran => relayed_of_flowing (flowing_throughout tuned events keyed done rest t split ran)

-- A camera whose command prints three bytes, and one request while the first
-- heartbeat is on its way.
def benchSettings (cameraId : String) : HeartbeatSettings where
  toSettings := (PiRuntimeSettings.fromFile none {cameraId := some cameraId}).toSettings
  captureServiceName := (PiRuntimeSettings.fromFile none {cameraId := some cameraId}).captureServiceName
  heartbeat := heartbeatFromPayload {} cameraId

def bench (cameraId : String) : Wiring where
  settings := benchSettings cameraId
  native := false
  gateway := ⟨cameraId,(benchSettings cameraId).frameKeyPrefix⟩
  keys := .chunkwise
  receiver := ⟨fun _ => none,fun _ => none⟩
  str := fun path => path.directory ++ "/" ++ path.name
  spelled := id

theorem bench_tuned {cameraId : String} (plain : PlainChunk cameraId) : (bench cameraId).Tuned := ⟨rfl,valid_frames plain⟩

def printedFrame (settings : Settings) : BackendFrame :=
  ⟨⟨"c0",[255,216,255],"image/jpeg",0,0,buildMetadata settings fiveSeconds "c0" (settings.frameKeyPrefix ++ "/" ++ "c0") 0 0 "image/jpeg" none none⟩,[]⟩

def benchWorld : Surroundings (Int × Int) where
  pil := blankSheets
  shell := ⟨fun pattern _ _ _ => .ok pattern,fun _ => .ok ([255,216,255],[]),fun _ => "",fun _ => (0,0)⟩
  host := ⟨fun pattern _ _ _ => .ok pattern,fun directory name => directory ++ "/" ++ name,fun _ => .error .nothingDownloaded,
    fun path => .error (.read path),fun _ => (0,0)⟩
  os := .quiet 0
  now := fiveSeconds
  captureId := "c0"
  dateStr := "2025-01-01"
  tempDir := "/tmp/zenoh-dslr-0"

theorem captured_printed (settings : Settings) : Captured settings (printedFrame settings) :=
  ⟨Int × Int,{type := "command",command := some "cat still.jpg"},⟨{enabled := false}⟩,
    .command ⟨settings,"image/jpeg","cat still.jpg",⟨{enabled := false}⟩,by simp⟩,benchWorld,none,OrderedDict.empty,by simp [benchWorld],rfl,rfl⟩

theorem keyed_printed (settings : Settings) : Keyed settings (printedFrame settings) :=
  ⟨captured_printed settings,show PlainChunk "c0" by decide⟩

-- What is read out of the attachment: every entry of the metadata, as it was put
-- in; of a time that is no number, that it is none.
def Attached (str : TargetPath → String) (made : BackendFrame) : Prop :=
  ∃ members, Json.loads (made.attachment str) = some (.object members) ∧ ∀ key ∈ metadataKeys,
    OrderedDict.find key members = (OrderedDict.find key (made.frame.metadata.items str)).map Json.settled ∧
      (made.frame.metadata.capturedAtUnix.isNaN = false → OrderedDict.find key members = OrderedDict.find key (made.frame.metadata.items str))

theorem attached_of_wellFormed {settings : Settings} {captureId : String} {str : TargetPath → String}
    (wellFormed : WellFormed settings captureId made) : Attached str made := by
  obtain ⟨members,read,values⟩ := @attachment_read _ _ _ str wellFormed
  refine ⟨members,read,fun key known => ⟨values key known,fun number => ?_⟩⟩
  rw [values key known,base_settled number]

-- Whatever a backend captures comes out of its sample as it went in, under the key
-- of its capture; the gateway is sent it where that is a key to Zenoh.
theorem capture_restored (matching : KeyMatching) {settings : Settings} {receiver : Receiver} {str : TargetPath → String} {spelled : String → String}
    (captured : Captured settings made) : Attached str made ∧ ∃ captureId, captureId ≠ "" ∧ made.frame.captureId = captureId ∧
      (sampleOf str spelled made).keyExpr = settings.frameKeyPrefix ++ "/" ++ captureId ∧
      (ValidKey settings.frameKeyPrefix → PlainChunk captureId →
        matching.receives (frameKeyExpr settings.frameKeyPrefix) (sampleOf str spelled made).keyExpr = true) ∧
      envelope receiver (sampleOf str spelled made) = .ok (some (envelopeOf spelled made)) := by
  obtain ⟨captureId,named,wellFormed⟩ := wellFormed_of_captured captured
  have key : (sampleOf str spelled made).keyExpr = settings.frameKeyPrefix ++ "/" ++ captureId := wellFormed.keyed
  refine ⟨attached_of_wellFormed wellFormed,captureId,named,wellFormed.identified.1,key,fun valid plain => ?_,envelope_restored wellFormed named⟩
  rw [key]
  exact receives_own matching valid plain

theorem capture_restored_printed : Attached (bench "cam0").str (printedFrame (benchSettings "cam0").toSettings) ∧
    ∃ captureId, captureId ≠ "" ∧ (printedFrame (benchSettings "cam0").toSettings).frame.captureId = captureId ∧
      (sampleOf (bench "cam0").str id (printedFrame (benchSettings "cam0").toSettings)).keyExpr =
        (benchSettings "cam0").frameKeyPrefix ++ "/" ++ captureId ∧
      (ValidKey (benchSettings "cam0").frameKeyPrefix → PlainChunk captureId →
        KeyMatching.chunkwise.receives (frameKeyExpr (benchSettings "cam0").frameKeyPrefix)
          (sampleOf (bench "cam0").str id (printedFrame (benchSettings "cam0").toSettings)).keyExpr = true) ∧
      envelope (bench "cam0").receiver (sampleOf (bench "cam0").str id (printedFrame (benchSettings "cam0").toSettings)) =
        .ok (some (envelopeOf id (printedFrame (benchSettings "cam0").toSettings))) :=
  capture_restored .chunkwise (captured_printed _)

def oneRequest (made : BackendFrame) : List RelayEvent :=
  [.runtime (.enter 0 .returned),.runtime (.acquire 0),.runtime (.identify 0 (some "r0")),.runtime (.spawn 0 .returned),.build ⟨"pi",fiveSeconds,none,none⟩,
    .runtime (.answer 0),.runtime (.expose 0 .returned),.runtime (.capture 0 (some made)),.runtime (.put 0 .returned),.pulse .returned,
    .runtime (.load 0),.runtime (.store 0),.runtime (.skip 0),.runtime (.release 0)]

theorem frames_relayed_bench : Throughout (bench "cam0").advance (Relayed (bench "cam0")) (bench "cam0").initial
    (oneRequest (printedFrame (benchSettings "cam0").toSettings) ++ [.route true ⟨0,0⟩,.route false ⟨0,0⟩]) :=
  frames_relayed (bench_tuned (by decide)) _ fun k made inside => by
    have same : k = 0 ∧ made = printedFrame (benchSettings "cam0").toSettings := by simpa [oneRequest] using inside
    rw [same.2]
    exact keyed_printed _

end ZenohDslr.Gateway
