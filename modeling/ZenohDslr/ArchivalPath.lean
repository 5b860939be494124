import ZenohDslr.CaptureMoves
namespace ZenohDslr.PiRuntime

universe u
variable {φ : Type u}

-- A response without what tells two accepted requests apart.
def CaptureResponse.anonymous (response : CaptureResponse) : CaptureResponse :=
  {response with message := response.message.map fun item => if item.1 = "request_id" then (item.1,"") else item}

def RequestPc.anonymous : RequestPc → RequestPc
  | .identified _ => .identified ""
  | .started _ => .started ""
  | .answered response => .answered response.anonymous
  | pc => pc

def Call.anonymous (call : Call φ) : Call φ := {call with request := call.request.anonymous}

def Effect.archival (effect : Effect φ) : Bool :=
  match effect.action with
  | .put _ => true
  | .publish _ => false

def Event.anonymous : Event φ → Event φ
  | .identify k (some _) => .identify k (some "")
  | event => event

def Event.native : Event φ → Bool
  | .publish _ _ | .skip _ => true
  | _ => false

theorem busyResponse_anonymous (settings : Settings) : (busyResponse settings).anonymous = busyResponse settings := by
  simp [busyResponse,CaptureResponse.anonymous]

theorem acceptedResponse_anonymous (settings : Settings) (requestId : String) :
    (acceptedResponse settings requestId).anonymous = acceptedResponse settings "" := by
  simp [acceptedResponse,CaptureResponse.anonymous]

namespace PiDslrRuntime
variable {s : PiDslrRuntime φ} {k : Nat}

-- The runtime as the archive sees it: no native path, no request ids. It is a
-- state of the same machine, and the runtime's steps are steps of it.
def archive (s : PiDslrRuntime φ) : PiDslrRuntime φ :=
  {s with native := false,calls := fun k => (s.calls k).anonymous,effects := s.effects.filter Effect.archival}

@[simp] theorem archive_request : (s.archive.calls k).request = (s.calls k).request.anonymous := rfl
@[simp] theorem archive_job : (s.archive.calls k).job = (s.calls k).job := rfl
@[simp] theorem archive_lock : s.archive.captureLock = s.captureLock := rfl
@[simp] theorem archive_count : s.archive.captureCount = s.captureCount := rfl
@[simp] theorem archive_native : s.archive.native = false := rfl
@[simp] theorem archive_settings : s.archive.settings = s.settings := rfl

theorem archive_update (call : Call φ) : (s.update k call).archive = s.archive.update k call.anonymous := by
  have calls : (fun j => (Function.update s.calls k call j).anonymous) =
      Function.update (fun j => (s.calls j).anonymous) k call.anonymous := by
    funext j
    by_cases here : j = k
    · subst here; simp
    · simp [here]
  simp [archive,update,calls]

theorem archive_withRequest (request : RequestPc) :
    (s.withRequest k request).archive = s.archive.withRequest k request.anonymous := archive_update _

theorem archive_withJob (job : JobPc φ) : (s.withJob k job).archive = s.archive.withJob k job := archive_update _

theorem archive_emit_put (frame : φ) (outcome : Outcome) :
    (s.emit ⟨k,.put frame,outcome⟩).archive = s.archive.emit ⟨k,.put frame,outcome⟩ := by
  simp [archive,emit,Effect.archival]

theorem archive_emit_publish (frame : φ) (outcome : Outcome) : (s.emit ⟨k,.publish frame,outcome⟩).archive = s.archive := by
  simp [archive,emit,Effect.archival]

theorem archive_acquired : ({s.withRequest k .acquired with captureLock := true,accepted := s.accepted ++ [k]} : PiDslrRuntime φ).archive =
    {s.archive.withRequest k .acquired with captureLock := true,accepted := s.archive.accepted ++ [k]} :=
  congrArg (fun t : PiDslrRuntime φ => {t with captureLock := true,accepted := s.accepted ++ [k]}) (archive_withRequest .acquired)

theorem archive_counted (job : JobPc φ) (count : Nat) :
    ({s.withJob k job with captureCount := count} : PiDslrRuntime φ).archive =
      {s.archive.withJob k job with captureCount := count} :=
  congrArg (fun t : PiDslrRuntime φ => {t with captureCount := count}) (archive_withJob job)

theorem archive_released (job : JobPc φ) : ({s.withJob k job with captureLock := false} : PiDslrRuntime φ).archive =
    {s.archive.withJob k job with captureLock := false} :=
  congrArg (fun t : PiDslrRuntime φ => {t with captureLock := false}) (archive_withJob job)

theorem advance_archive {event : Event φ} (archival : event.native = false) :
    (s.advance event).map archive = s.archive.advance event.anonymous := by
  cases event with
  | enter k outcome =>
    simp only [advance,Event.anonymous,archive_request]
    cases (s.calls k).request <;> cases outcome <;> simp [RequestPc.anonymous,archive_withRequest]
  | acquire k =>
    simp only [advance,Event.anonymous,archive_request,archive_lock]
    cases (s.calls k).request with
    | entered =>
      cases s.captureLock with
      | true => simp [RequestPc.anonymous,archive_withRequest,busyResponse_anonymous]
      | false => exact congrArg some archive_acquired
    | _ => cases s.captureLock <;> rfl
  | identify k requestId =>
    cases requestId <;> simp only [advance,Event.anonymous,archive_request] <;>
      cases (s.calls k).request <;> simp [RequestPc.anonymous,archive_withRequest]
  | spawn k outcome =>
    simp only [advance,Event.anonymous,archive_request]
    cases (s.calls k).request <;> cases outcome <;>
      simp [RequestPc.anonymous,archive_withRequest,archive_update,Call.anonymous]
  | answer k =>
    simp only [advance,Event.anonymous,archive_request]
    cases (s.calls k).request <;> simp [RequestPc.anonymous,archive_withRequest,acceptedResponse_anonymous]
  | expose k outcome =>
    simp only [advance,Event.anonymous,archive_job]
    split
    · exact congrArg some (archive_withJob _)
    · exact congrArg some (archive_withJob _)
    · rfl
  | capture k frame =>
    simp only [advance,Event.anonymous,archive_job]
    split
    · exact congrArg some (archive_withJob _)
    · exact congrArg some (archive_withJob _)
    · rfl
  | put k outcome =>
    simp only [advance,Event.anonymous,archive_job]
    split
    · simp [archive_emit_put,archive_withJob]
    · simp [archive_emit_put,archive_withJob]
    · rfl
  | load k =>
    simp only [advance,Event.anonymous,archive_job,archive_count]
    split
    · exact congrArg some (archive_withJob _)
    · rfl
  | store k =>
    simp only [advance,Event.anonymous,archive_job]
    split
    · exact congrArg some (archive_counted _ _)
    · rfl
  | publish k outcome => cases archival
  | skip k => cases archival
  | release k =>
    simp only [advance,Event.anonymous,archive_job]
    split
    · exact congrArg some (archive_released _)
    · rfl
  | heartbeat => rfl

-- Whatever the native publish does, the archive sees a job that had none to do.
theorem publish_archive (native : s.native = true) (outcome : Outcome) :
    (s.advance (.publish k outcome)).map archive = s.archive.advance (.skip k) := by
  simp only [advance,archive_job,archive_native,native]
  cases (s.calls k).job with
  | none => rfl
  | some job => cases job <;> simp [archive_emit_publish,archive_withJob]

theorem skip_archive (off : s.native = false) : (s.advance (.skip k)).map archive = s.archive.advance (.skip k) := by
  simp only [advance,archive_job,archive_native,off]
  cases (s.calls k).job with
  | none => rfl
  | some job => cases job <;> simp [archive_withJob]

end PiDslrRuntime
end ZenohDslr.PiRuntime
