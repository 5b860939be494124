import ZenohDslr.CaptureRuntime
import ZenohDslr.Persistence
namespace ZenohDslr.PiRuntime
open Runs

-- A frame as a capture backend hands it over.
def Finalized (settings : Settings) (frame : CaptureResult) : Prop :=
  ∃ buffer os now dir captureId payload encoding width height sourcePath,
    (finalizeCapture settings buffer os now dir captureId payload encoding width height sourcePath).1 = .ok frame

namespace PiDslrRuntime

structure Published (settings : Settings) (native : Bool) (response : CaptureResponse) (frame : CaptureResult) : Prop where
  made : ∃ events last k, run advance (initial settings native) events = some last ∧
    (∀ j captured, .capture j (some captured) ∈ events → Finalized settings captured) ∧
    (last.calls k).request = .answered response ∧ (⟨k,.put frame,.returned⟩ : Effect CaptureResult) ∈ last.effects
  accepted : response.success = true

-- The key under which an accepted call publishes is a function of its response.
def Correlated (settings : Settings) (native : Bool) : Prop :=
  ∃ keyOf : CaptureResponse → String, ∀ response frame, Published settings native response frame →
    frame.metadata.imageKey = keyOf response

-- One call from its request to its put. The request id and the capture id are
-- drawn at two places, so any pair of them occurs.
def singleCall (requestId : String) (frame : CaptureResult) : List (Event CaptureResult) :=
  [.enter 0 .returned,.acquire 0,.identify 0 (some requestId),.spawn 0 .returned,.answer 0,.expose 0 .returned,
    .capture 0 (some frame),.put 0 .returned]

theorem singleCall_runs (settings : Settings) (native : Bool) (requestId : String) (frame : CaptureResult) :
    ∃ last, run advance (initial settings native) (singleCall requestId frame) = some last ∧
      (last.calls 0).request = .answered (acceptedResponse settings requestId) ∧
      (⟨0,.put frame,.returned⟩ : Effect CaptureResult) ∈ last.effects := by
  refine ⟨_,rfl,?_,?_⟩
  · simp [PiDslrRuntime.emit,withJob,withRequest,update,initial]
  · simp [PiDslrRuntime.emit,withJob,withRequest,update,initial]

def blankFrame (settings : Settings) (captureId : String) : CaptureResult :=
  ⟨captureId,[],"image/jpeg",0,0,
    buildMetadata settings .zero captureId (settings.frameKeyPrefix ++ "/" ++ captureId) 0 0 "image/jpeg" none none⟩

theorem blankFrame_finalized (settings : Settings) (captureId : String) : Finalized settings (blankFrame settings captureId) :=
  ⟨⟨{enabled := false}⟩,.quiet 0,.zero,.empty,captureId,[],"image/jpeg",0,0,none,rfl⟩

theorem published_any (settings : Settings) (native : Bool) (requestId captureId : String) :
    Published settings native (acceptedResponse settings requestId) (blankFrame settings captureId) := by
  obtain ⟨last,ran,answered,put⟩ := singleCall_runs settings native requestId (blankFrame settings captureId)
  refine ⟨⟨_,last,0,ran,?_,answered,put⟩,rfl⟩
  intro j captured inside
  simp only [singleCall,List.mem_cons,List.not_mem_nil,reduceCtorEq,false_or,or_false,Event.capture.injEq,
    Option.some.injEq] at inside
  rw [inside.2]
  exact blankFrame_finalized settings captureId

theorem different_keys (settings : Settings) :
    (blankFrame settings "a").metadata.imageKey ≠ (blankFrame settings "b").metadata.imageKey := by
  intro same
  have letters := congrArg String.toList same
  simp [blankFrame,buildMetadata] at letters

theorem never_correlated (settings : Settings) (native : Bool) : ¬ Correlated settings native := by
  intro correlated
  obtain ⟨keyOf,all⟩ := correlated
  have first := all _ _ (published_any settings native "r" "a")
  have second := all _ _ (published_any settings native "r" "b")
  exact different_keys settings (first.trans second.symm)

-- The two captures of one camera: the same success message, two frame keys.
theorem two_frames_for_one_response : ¬ Correlated ⟨"ci_cam","mock","dslr/ci_cam/frames"⟩ false := by
  intro correlated
  obtain ⟨keyOf,all⟩ := correlated
  have first := all _ _ (published_any _ false "r" "a")
  have second := all _ _ (published_any _ false "r" "b")
  exact different_keys _ (first.trans second.symm)

end PiDslrRuntime
end ZenohDslr.PiRuntime
