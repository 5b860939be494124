import ZenohDslr.ArchivalPath
import ZenohDslr.PublisherLifecycle
import Mathlib.Data.List.Forall2
namespace ZenohDslr.PiRuntime
open Attempts Runs

-- The runtime together with the publisher that its jobs hand each frame to.
structure NativeRuntime where
  runtime : PiDslrRuntime CaptureResult
  publisher : Ros2ImagePublisher

inductive NativeEvent where
  | base (event : Event CaptureResult) (archival : event.native = false)
  | native (k : Nat) (sdk : Sdk)
  | close (outcome : Except String Unit)

structure BlobPut where
  call : Nat
  key : String
  payload : List UInt8
  encoding : String
  attachment : Metadata
  outcome : Outcome
  deriving DecidableEq,Repr

namespace NativeRuntime

def start (settings : Settings) (ros2Publish : Bool) (routerIp : String) (routerPort : Int) : NativeRuntime :=
  ⟨.initial settings ros2Publish,.create routerIp routerPort⟩

-- `if self._ros2_image_publisher is not None: publish(...)`, whose exception
-- would end the job as any other does.
def advance (self : NativeRuntime) : NativeEvent → Option NativeRuntime
  | .base event _ => (self.runtime.advance event).map ({self with runtime := ·})
  | .native k sdk =>
    if self.runtime.native then
      match Ros2ImagePublisher.publish sdk self.publisher with
      | .ok _ publisher => (self.runtime.advance (.publish k .returned)).map (⟨·,publisher⟩)
      | .error _ publisher => (self.runtime.advance (.publish k .raised)).map (⟨·,publisher⟩)
    else (self.runtime.advance (.skip k)).map ({self with runtime := ·})
  | .close outcome =>
    if self.runtime.native then some {self with publisher := after (Ros2ImagePublisher.close outcome self.publisher)} else some self

end NativeRuntime

namespace Ros2ImagePublisher
variable {self next : Ros2ImagePublisher}

theorem ensurePublisher_safe (sdk : Sdk) : Safe (ensurePublisher sdk) := by
  refine safe_bind safe_get fun self => ?_
  split
  · exact safe_pure _
  · refine safe_bind (safe_guarded _ fun exc => ?_) fun imported => ?_
    · exact safe_bind (safe_modify _) fun _ => safe_pure _
    · split
      · exact safe_guarded _ fun exc => safe_bind (safe_modify _) fun _ => safe_pure _
      · exact safe_pure _

-- Every statement that can raise stands in a guarded block.
theorem publish_safe (sdk : Sdk) : Safe (publish sdk) := by
  refine safe_bind (ensurePublisher_safe sdk) fun publisher => ?_
  split
  · exact safe_pure _
  · exact safe_guarded _ fun _ => safe_pure _

def WarnedOnce (self : Ros2ImagePublisher) : Prop := self.warnings.length = if self.warned then 1 else 0

theorem warn_once (text : String) (held : WarnedOnce self) : WarnedOnce (self.warn text) := by
  unfold warn
  split
  · exact held
  · rename_i silent
    have none_yet : self.warnings.length = 0 := by simpa [WarnedOnce,silent] using held
    simp [WarnedOnce,none_yet]

theorem initialise_keeps (sdk : Sdk) : Keeps WarnedOnce (initialise sdk) := by
  refine keeps_bind (keeps_perform _) fun _ => keeps_bind (keeps_perform _) fun _ => ?_
  refine keeps_bind (fun _ held => held) fun self => keeps_bind (keeps_modify fun _ held => held) fun _ => ?_
  refine keeps_bind (keeps_perform _) fun _ => keeps_bind (keeps_modify fun _ held => held) fun _ => ?_
  refine keeps_bind (keeps_perform _) fun _ => keeps_bind (keeps_modify fun _ held => held) fun _ => ?_
  refine keeps_bind (keeps_modify fun _ held => held) fun _ => ?_
  exact keeps_bind (keeps_perform _) fun _ => keeps_pure _

theorem ensurePublisher_keeps (sdk : Sdk) : Keeps WarnedOnce (ensurePublisher sdk) := by
  refine keeps_bind (fun _ held => held) fun self => ?_
  split
  · exact keeps_pure _
  · refine keeps_bind (keeps_guarded (keeps_bind (keeps_perform _) fun _ => keeps_pure _) fun exc => ?_) fun imported => ?_
    · exact keeps_bind (keeps_modify fun _ held => warn_once _ held) fun _ => keeps_pure _
    · split
      · refine keeps_guarded (keeps_bind (initialise_keeps sdk) fun _ => keeps_pure _) fun exc => ?_
        exact keeps_bind (keeps_modify fun _ held => warn_once _ held) fun _ => keeps_pure _
      · exact keeps_pure _

theorem advance_warned (call : PublisherCall) (held : WarnedOnce self) (step : self.advance call = some next) :
    WarnedOnce next := by
  cases call with
  | publish sdk =>
    cases step
    rw [publish_after]
    exact ensurePublisher_keeps sdk self held
  | close outcome =>
    cases step
    cases slot : self.publisher with
    | none => rw [close_empty outcome slot]; exact held
    | some publisher => rw [close_full outcome slot]; exact held

theorem warned_at_most_once (routerIp : String) (routerPort : Int) {calls : List PublisherCall}
    (ran : run advance (create routerIp routerPort) calls = some next) : next.warnings.length ≤ 1 := by
  have fresh : WarnedOnce (create routerIp routerPort) := rfl
  have held : WarnedOnce next := run_invariant WarnedOnce (fun _ call _ held step => advance_warned call held step) fresh ran
  unfold WarnedOnce at held
  split at held <;> omega

end Ros2ImagePublisher

-- The archive's side of an event: the native calls leave no trace of how they
-- ended, closing the publisher leaves none at all.
def NativeEvent.erase : NativeEvent → Option (Event CaptureResult)
  | .base event _ => some event.anonymous
  | .native k _ => some (.skip k)
  | .close _ => none

-- The same step of the same thread with the same outcome on the archival path.
inductive Alike : NativeEvent → NativeEvent → Prop where
  | same (event : Event CaptureResult) (archival : event.native = false) : Alike (.base event archival) (.base event archival)
  | identified (k : Nat) (first second : String) : Alike (.base (.identify k (some first)) rfl) (.base (.identify k (some second)) rfl)
  | native (k : Nat) (first second : Sdk) : Alike (.native k first) (.native k second)
  | closed (first second : Except String Unit) : Alike (.close first) (.close second)

def Effect.blobPut? (effect : Effect CaptureResult) : Option BlobPut :=
  match effect.action with
  | .put frame => some ⟨effect.call,frame.metadata.imageKey,frame.payload,frame.encoding,frame.metadata,effect.outcome⟩
  | .publish _ => none

def RequestPc.response? : RequestPc → Option CaptureResponse
  | .answered response => some response
  | _ => none

namespace NativeRuntime
variable {self other next : NativeRuntime} {k : Nat}

def blobPuts (self : NativeRuntime) : List BlobPut := self.runtime.effects.filterMap Effect.blobPut?

def job (self : NativeRuntime) (k : Nat) : Option (JobPc CaptureResult) := (self.runtime.calls k).job

def response? (self : NativeRuntime) (k : Nat) : Option CaptureResponse := (self.runtime.calls k).request.response?

structure Unaffected (self other : NativeRuntime) : Prop where
  puts : self.blobPuts = other.blobPuts
  responses : ∀ k, (self.response? k).map CaptureResponse.anonymous = (other.response? k).map CaptureResponse.anonymous
  count : self.runtime.captureCount = other.runtime.captureCount
  lock : self.runtime.captureLock = other.runtime.captureLock
  jobs : ∀ k, self.job k = other.job k

theorem blobPuts_archive (self : NativeRuntime) : self.blobPuts = self.runtime.archive.effects.filterMap Effect.blobPut? := by
  have same : ∀ effect : Effect CaptureResult,
      effect.blobPut? = (Option.guard Effect.archival effect).bind Effect.blobPut? := by
    intro effect
    obtain ⟨call,action,outcome⟩ := effect
    cases action <;> rfl
  simp only [blobPuts,PiDslrRuntime.archive,← List.filterMap_eq_filter,List.filterMap_filterMap]
  exact List.filterMap_congr fun effect _ => same effect

theorem response_archive (self : NativeRuntime) (k : Nat) :
    (self.response? k).map CaptureResponse.anonymous = (self.runtime.archive.calls k).request.response? := by
  rw [response?,PiDslrRuntime.archive_request]
  cases (self.runtime.calls k).request <;> rfl

theorem unaffected_of_archive (same : self.runtime.archive = other.runtime.archive) : Unaffected self other where
  puts := by rw [blobPuts_archive,blobPuts_archive,same]
  responses k := by rw [response_archive,response_archive,same]
  count := by simpa using congrArg PiDslrRuntime.captureCount same
  lock := by simpa using congrArg PiDslrRuntime.captureLock same
  jobs k := by simpa [job] using congrArg (fun s : PiDslrRuntime CaptureResult => (s.calls k).job) same

theorem advance_native (k : Nat) (native : self.runtime.native = true) (sdk : Sdk) : ∃ publisher outcome,
    self.advance (.native k sdk) = (self.runtime.advance (.publish k outcome)).map (⟨·,publisher⟩) := by
  obtain ⟨value,publisher,ran⟩ := Ros2ImagePublisher.publish_safe sdk self.publisher
  exact ⟨publisher,.returned,by simp only [advance,native,if_true,ran]⟩

theorem advance_disabled (off : self.runtime.native = false) (sdk : Sdk) :
    self.advance (.native k sdk) = (self.runtime.advance (.skip k)).map ({self with runtime := ·}) := by
  simp [advance,off]

theorem advance_view (self : NativeRuntime) (event : NativeEvent) :
    (self.advance event).map (fun s => s.runtime.archive) =
      follow PiDslrRuntime.advance self.runtime.archive event.erase := by
  cases event with
  | base event archival =>
    simp only [advance,NativeEvent.erase,follow,← PiDslrRuntime.advance_archive archival,Option.map_map]
    rfl
  | native k sdk =>
    simp only [NativeEvent.erase,follow]
    cases native : self.runtime.native with
    | true =>
      obtain ⟨publisher,outcome,ran⟩ := advance_native k native sdk
      rw [ran,← PiDslrRuntime.publish_archive native outcome,Option.map_map]
      rfl
    | false =>
      rw [advance_disabled native sdk,← PiDslrRuntime.skip_archive native,Option.map_map]
      rfl
  | close outcome =>
    simp only [advance,NativeEvent.erase,follow]
    split <;> rfl

theorem erase_alike {events others : List NativeEvent} (alike : List.Forall₂ Alike events others) :
    events.filterMap NativeEvent.erase = others.filterMap NativeEvent.erase := by
  induction alike with
  | nil => rfl
  | cons here _ ih => cases here <;> simp only [List.filterMap_cons,NativeEvent.erase,Event.anonymous,ih]

theorem run_alike (other : NativeRuntime) {events others : List NativeEvent} (alike : List.Forall₂ Alike events others)
    (start : self.runtime.archive = other.runtime.archive) (ran : run advance self events = some next) :
    ∃ reached, run advance other others = some reached ∧ Unaffected next reached := by
  have view : ∀ (s : NativeRuntime) (moves : List NativeEvent), (run advance s moves).map (fun s => s.runtime.archive) =
      run PiDslrRuntime.advance s.runtime.archive (moves.filterMap NativeEvent.erase) :=
    run_view (fun s : NativeRuntime => s.runtime.archive) NativeEvent.erase advance_view
  have first := view self events
  have second := view other others
  rw [← start,← erase_alike alike,← first,ran] at second
  obtain ⟨reached,ran',same⟩ := Option.map_eq_some_iff.mp second
  exact ⟨reached,ran',unaffected_of_archive same.symm⟩

theorem run_take {events : List NativeEvent} (ran : run advance self events = some next) (n : Nat) :
    ∃ middle, run advance self (events.take n) = some middle := by
  induction events generalizing self n with
  | nil => exact ⟨self,by simp [run]⟩
  | cons event rest ih =>
    cases n with
    | zero => exact ⟨self,rfl⟩
    | succ n =>
      obtain ⟨t,step,tail⟩ := run_cons_inv ran
      obtain ⟨middle,part⟩ := ih tail n
      exact ⟨middle,by rw [List.take_succ_cons,run_cons step]; exact part⟩

-- However the native call ends, its job comes to the `finally` block, and that
-- gives the lock back.
theorem native_leaves {frame : CaptureResult} (counted : self.job k = some (.counted frame)) (sdk : Sdk) :
    ∃ t, self.advance (.native k sdk) = some t ∧ t.job k = some .leaving := by
  unfold job at counted ⊢
  cases native : self.runtime.native with
  | true =>
    obtain ⟨publisher,outcome,ran⟩ := advance_native k native sdk
    rw [ran]
    simp [PiDslrRuntime.advance,counted,native,PiDslrRuntime.emit,PiDslrRuntime.withJob,PiDslrRuntime.update]
  | false =>
    rw [advance_disabled native sdk]
    simp [PiDslrRuntime.advance,counted,native,PiDslrRuntime.withJob,PiDslrRuntime.update]

theorem leaving_releases (leaving : self.job k = some .leaving) : ∃ t, self.advance (.base (.release k) rfl) = some t ∧
    t.job k = some .finished ∧ t.runtime.captureLock = false := by
  unfold job at leaving ⊢
  simp [advance,PiDslrRuntime.advance,leaving,PiDslrRuntime.withJob,PiDslrRuntime.update]

theorem native_path_invisible (settings : Settings) :
    (∀ (ros2Publish ros2Publish' : Bool) (routerIp routerIp' : String) (routerPort routerPort' : Int)
        (events others : List NativeEvent) (last : NativeRuntime), List.Forall₂ Alike events others →
      run advance (start settings ros2Publish routerIp routerPort) events = some last →
      ∀ n, ∃ s t, run advance (start settings ros2Publish routerIp routerPort) (events.take n) = some s ∧
        run advance (start settings ros2Publish' routerIp' routerPort') (others.take n) = some t ∧ Unaffected s t) ∧
    (∀ (s : NativeRuntime) (k : Nat),
      (∀ frame sdk, s.job k = some (.counted frame) → ∃ t, s.advance (.native k sdk) = some t ∧ t.job k = some .leaving) ∧
      (s.job k = some .leaving → ∃ t, s.advance (.base (.release k) rfl) = some t ∧ t.job k = some .finished ∧
        t.runtime.captureLock = false)) ∧
    (∀ (routerIp : String) (routerPort : Int) (calls : List PublisherCall) (publisher : Ros2ImagePublisher),
      run Ros2ImagePublisher.advance (.create routerIp routerPort) calls = some publisher →
      publisher.warnings.length ≤ 1 ∧ ∀ sdk, ∃ published next, Ros2ImagePublisher.publish sdk publisher = .ok published next) := by
  refine ⟨?_,?_,?_⟩
  · intro ros2Publish ros2Publish' routerIp routerIp' routerPort routerPort' events others last alike ran n
    obtain ⟨s,part⟩ := run_take ran n
    have same : (start settings ros2Publish routerIp routerPort).runtime.archive =
        (start settings ros2Publish' routerIp' routerPort').runtime.archive := rfl
    obtain ⟨t,other,unaffected⟩ := run_alike _ (List.forall₂_take n alike) same part
    exact ⟨s,t,part,other,unaffected⟩
  · intro s k
    exact ⟨fun frame sdk counted => native_leaves counted sdk,leaving_releases⟩
  · intro routerIp routerPort calls publisher ran
    exact ⟨Ros2ImagePublisher.warned_at_most_once routerIp routerPort ran,fun sdk => Ros2ImagePublisher.publish_safe sdk publisher⟩

-- One request of a camera with native publishing off, and the same one where the
-- SDK fails in the middle and the close raises.
def nativeRequest (requestId : String) (sdk : Sdk) (closing : Except String Unit) : List NativeEvent :=
  [.base (.enter 0 .returned) rfl,.base (.acquire 0) rfl,.base (.identify 0 (some requestId)) rfl,.base (.spawn 0 .returned) rfl,
    .base (.answer 0) rfl,.base (.expose 0 .returned) rfl,
    .base (.capture 0 (some ⟨"c0",[255,216,255],"image/jpeg",0,0,
      ⟨"dslr-a","EOS","c0","dslr/dslr-a/frames/c0",.zero,0,0,"image/jpeg",none,none⟩⟩)) rfl,
    .base (.put 0 .returned) rfl,.base (.load 0) rfl,.base (.store 0) rfl,.native 0 sdk,.base (.release 0) rfl,.close closing]

theorem nativeRequest_alike (first second : String) (sdk other : Sdk) (closing ending : Except String Unit) :
    List.Forall₂ Alike (nativeRequest first sdk closing) (nativeRequest second other ending) := by
  unfold nativeRequest
  repeat' constructor

theorem nativeRequest_runs (settings : Settings) (routerIp : String) (routerPort : Int) (requestId : String) (sdk : Sdk)
    (closing : Except String Unit) :
    ∃ last, run advance (start settings false routerIp routerPort) (nativeRequest requestId sdk closing) = some last := ⟨_,rfl⟩

theorem native_path_invisible_failing : ∃ s t,
    run advance (start ⟨"dslr-a","EOS","dslr/dslr-a/frames"⟩ false "127.0.0.1" 7447)
      (nativeRequest "r0" Ros2ImagePublisher.noTimeClass (.ok ())) = some s ∧
    run advance (start ⟨"dslr-a","EOS","dslr/dslr-a/frames"⟩ true "10.0.0.7" 7448)
      (nativeRequest "r1" Ros2ImagePublisher.noTimeClass (.error "session closed")) = some t ∧ Unaffected s t := by
  obtain ⟨last,ran⟩ := nativeRequest_runs ⟨"dslr-a","EOS","dslr/dslr-a/frames"⟩ "127.0.0.1" 7447 "r0" Ros2ImagePublisher.noTimeClass (.ok ())
  have alike := nativeRequest_alike "r0" "r1" Ros2ImagePublisher.noTimeClass Ros2ImagePublisher.noTimeClass (.ok ()) (.error "session closed")
  obtain ⟨s,t,first,second,unaffected⟩ := (native_path_invisible ⟨"dslr-a","EOS","dslr/dslr-a/frames"⟩).1 false true "127.0.0.1" "10.0.0.7"
    7447 7448 _ _ last alike ran 13
  exact ⟨s,t,first,second,unaffected⟩

end NativeRuntime
end ZenohDslr.PiRuntime
