import ZenohDslr.CaptureRuntime
import ZenohDslr.LockOwner
import ZenohDslr.Turns
namespace ZenohDslr.PiRuntime

universe u v
variable {φ : Type u}

-- A request that has not got as far as a job.
def RequestPc.early : RequestPc → Bool
  | .started _ | .answered _ => false
  | _ => true

-- The call has taken the lock.
def Call.taken (call : Call φ) : Bool :=
  call.job.isSome || match call.request with
    | .acquired | .identified _ | .abandoned => true
    | _ => false

-- It has taken the lock and its job has not given it back.
def Call.holding (call : Call φ) : Bool :=
  call.taken && match call.job with
    | some .finished => false
    | _ => true

-- A job whose put has returned and is not counted yet, with what it has read.
def Call.counting (call : Call φ) : Option (Option Nat) :=
  match call.job with
  | some (.blobPut _) => some none
  | some (.loaded _ count) => some (some count)
  | _ => none

-- A job was started exactly for the requests that are or will be answered so.
def Call.Coherent (call : Call φ) : Prop :=
  match call.request with
  | .started _ => call.job.isSome = true
  | .answered response => response.success = call.job.isSome
  | _ => call.job.isSome = false

-- Effects of a whole job: nothing, a put that raised, or a put that returned,
-- alone or followed by the native publish of the same frame.
def Complete (k : Nat) (own : List (Effect φ)) : Prop :=
  own = [] ∨ ∃ frame, own = [⟨k,.put frame,.raised⟩] ∨ own = [⟨k,.put frame,.returned⟩] ∨
    ∃ outcome, own = [⟨k,.put frame,.returned⟩,⟨k,.publish frame,outcome⟩]

def Footprint (k : Nat) (call : Call φ) (own : List (Effect φ)) : Prop :=
  match call.job with
  | none | some .ready | some .exposed | some (.captured _) => own = []
  | some (.blobPut frame) | some (.loaded frame _) | some (.counted frame) => own = [⟨k,.put frame,.returned⟩]
  | some .leaving | some .finished => Complete k own

def Effect.isPut (effect : Effect φ) : Bool :=
  match effect.action,effect.outcome with
  | .put _,.returned => true
  | _,_ => false

def puts (effects : List (Effect φ)) : Nat := (effects.filter Effect.isPut).length

namespace PiDslrRuntime

-- The steps that a call takes without touching anything that is shared.
structure Within (k : Nat) (before after : Call φ) : Prop where
  holding : after.holding = before.holding
  taken : after.taken = before.taken
  counting : after.counting = before.counting
  coherent : before.Coherent → after.Coherent
  footprint : ∀ own, Footprint k before own → Footprint k after own

-- All that one step can do to the shared state.
inductive Moves (s : PiDslrRuntime φ) : PiDslrRuntime φ → Prop where
  | within (k : Nat) (call : Call φ) (alike : Within k (s.calls k) call) : Moves s (s.update k call)
  | acquire (k : Nat) (free : s.captureLock = false) (entered : (s.calls k).request = .entered) :
      Moves s {s.withRequest k .acquired with captureLock := true,accepted := s.accepted ++ [k]}
  | put (k : Nat) (frame : φ) (ready : (s.calls k).job = some (.captured frame)) :
      Moves s ((s.withJob k (.blobPut frame)).emit ⟨k,.put frame,.returned⟩)
  | putRaised (k : Nat) (frame : φ) (ready : (s.calls k).job = some (.captured frame)) :
      Moves s ((s.withJob k .leaving).emit ⟨k,.put frame,.raised⟩)
  | load (k : Nat) (frame : φ) (ready : (s.calls k).job = some (.blobPut frame)) :
      Moves s (s.withJob k (.loaded frame s.captureCount))
  | store (k : Nat) (frame : φ) (count : Nat) (ready : (s.calls k).job = some (.loaded frame count)) :
      Moves s {s.withJob k (.counted frame) with captureCount := count + 1}
  | publish (k : Nat) (frame : φ) (outcome : Outcome) (ready : (s.calls k).job = some (.counted frame)) :
      Moves s ((s.withJob k .leaving).emit ⟨k,.publish frame,outcome⟩)
  | release (k : Nat) (ready : (s.calls k).job = some .leaving) :
      Moves s {s.withJob k .finished with captureLock := false}
  | heartbeat : Moves s {s with heartbeats := s.heartbeats ++ [s.captureCount]}

-- All that one step can do to the state of a request, and in which event.
inductive RequestMove (s : PiDslrRuntime φ) : Event φ → Nat → RequestPc → Prop where
  | entered : RequestMove s (.enter k .returned) k .entered
  | failed : RequestMove s (.enter k .raised) k .failed
  | refused (locked : s.captureLock = true) : RequestMove s (.acquire k) k (.answered (busyResponse s.settings))
  | acquired : RequestMove s (.acquire k) k .acquired
  | identified (id : String) : RequestMove s (.identify k (some id)) k (.identified id)
  | unidentified : RequestMove s (.identify k none) k .abandoned
  | started (id : String) : RequestMove s (.spawn k .returned) k (.started id)
  | unstarted : RequestMove s (.spawn k .raised) k .abandoned
  | answered (id : String) : RequestMove s (.answer k) k (.answered (acceptedResponse s.settings id))

variable {s t : PiDslrRuntime φ} {event : Event φ} {k : Nat}

theorem update_self (call : Call φ) : (s.update k call).calls k = call := Function.update_self ..

theorem update_other {j : Nat} (call : Call φ) (different : j ≠ k) : (s.update k call).calls j = s.calls j :=
  Function.update_of_ne different ..

theorem update_same {β : Type v} (view : Call φ → β) {call : Call φ} (same : view call = view (s.calls k)) (j : Nat) :
    view ((s.update k call).calls j) = view (s.calls j) := by
  by_cases here : j = k
  · rw [here,update_self,same]
  · rw [update_other call here]

theorem request_update {call : Call φ} (moved : RequestMove s event k call.request) (j : Nat) :
    ((s.update k call).calls j).request = (s.calls j).request ∨ RequestMove s event j ((s.update k call).calls j).request := by
  by_cases here : j = k
  · rw [here,update_self]; exact .inr moved
  · rw [update_other _ here]; exact .inl rfl

theorem request_job {job : JobPc φ} (j : Nat) : ((s.withJob k job).calls j).request = (s.calls j).request := by
  apply update_same Call.request
  rfl

theorem request_step (step : s.advance event = some t) (j : Nat) :
    (t.calls j).request = (s.calls j).request ∨ RequestMove s event j (t.calls j).request := by
  cases event with
  | enter k outcome =>
    dsimp only [advance] at step
    split at step
    · cases step; exact request_update .entered j
    · cases step; exact request_update .failed j
    · cases step
  | acquire k =>
    dsimp only [advance] at step
    split at step
    · rename_i locked; cases step; exact request_update (.refused locked) j
    · cases step; exact request_update .acquired j
    · cases step
  | identify k requestId =>
    dsimp only [advance] at step
    split at step
    · rename_i id _; cases step; exact request_update (.identified id) j
    · cases step; exact request_update .unidentified j
    · cases step
  | spawn k outcome =>
    dsimp only [advance] at step
    split at step
    · rename_i id _; cases step; exact request_update (.started id) j
    · cases step; exact request_update .unstarted j
    · cases step
  | answer k =>
    dsimp only [advance] at step
    split at step
    · rename_i id _; cases step; exact request_update (.answered id) j
    · cases step
  | heartbeat => cases step; exact .inl rfl
  | _ =>
    dsimp only [advance] at step
    split at step
    all_goals first
      | (cases step; exact .inl (request_job j))
      | cases step

theorem early_idle {call : Call φ} {request : RequestPc} (coherent : call.Coherent) (here : call.request = request)
    (early : request.early = true) : call.job = none := by
  obtain ⟨pc,job⟩ := call
  cases here
  cases pc with
  | started id => cases early
  | answered response => cases early
  | _ => exact Option.not_isSome_iff_eq_none.mp (Bool.eq_false_iff.mp coherent)

theorem moves_request {old new : RequestPc} (coherent : (s.calls k).Coherent) (here : (s.calls k).request = old)
    (early : old.early = true) (later : Call.Coherent (⟨new,none⟩ : Call φ))
    (same : Call.taken (⟨new,none⟩ : Call φ) = Call.taken (⟨old,none⟩ : Call φ)) : Moves s (s.withRequest k new) := by
  have idle := early_idle coherent here early
  have whole : s.calls k = ⟨old,none⟩ := by rw [← here,← idle]
  apply Moves.within k
  rw [whole]
  refine ⟨?_,same,rfl,fun _ => later,fun own held => held⟩
  simp only [Call.holding,same]

theorem moves_job {old new : JobPc φ} (here : (s.calls k).job = some old) (live : old ≠ .finished) (later : new ≠ .finished)
    (counting : Call.counting (⟨(s.calls k).request,some new⟩ : Call φ) = Call.counting ⟨(s.calls k).request,some old⟩)
    (footprint : ∀ own, Footprint k (⟨(s.calls k).request,some old⟩ : Call φ) own →
      Footprint k (⟨(s.calls k).request,some new⟩ : Call φ) own) : Moves s (s.withJob k new) := by
  have whole : s.calls k = ⟨(s.calls k).request,some old⟩ := by rw [← here]
  apply Moves.within k
  rw [whole]
  refine ⟨?_,rfl,counting,fun coherent => coherent,footprint⟩
  cases old <;> cases new <;> first | rfl | exact absurd rfl live | exact absurd rfl later

theorem moves_spawn {id : String} (coherent : (s.calls k).Coherent) (here : (s.calls k).request = .identified id) :
    Moves s (s.update k ⟨.started id,some .ready⟩) := by
  have idle := early_idle coherent here rfl
  have whole : s.calls k = ⟨.identified id,none⟩ := by rw [← here,← idle]
  apply Moves.within k
  rw [whole]
  exact ⟨rfl,rfl,rfl,fun _ => rfl,fun own held => held⟩

theorem moves_answer {id : String} (coherent : (s.calls k).Coherent) (here : (s.calls k).request = .started id) :
    Moves s (s.withRequest k (.answered (acceptedResponse s.settings id))) := by
  have running : (s.calls k).job.isSome = true := by
    unfold Call.Coherent at coherent
    rw [here] at coherent
    exact coherent
  refine .within k _ ⟨?_,?_,rfl,?_,fun own held => held⟩
  · simp [Call.holding,Call.taken,running]
  · simp [Call.taken,running]
  · intro _; exact running.symm

theorem advance_moves (coherent : ∀ k, (s.calls k).Coherent) (step : s.advance event = some t) : Moves s t := by
  cases event with
  | enter k outcome =>
    dsimp only [advance] at step
    split at step
    · rename_i here; cases step; exact moves_request (coherent k) here rfl rfl rfl
    · rename_i here; cases step; exact moves_request (coherent k) here rfl rfl rfl
    · cases step
  | acquire k =>
    dsimp only [advance] at step
    split at step
    · rename_i here _; cases step; exact moves_request (coherent k) here rfl rfl rfl
    · rename_i here free; cases step; exact .acquire k free here
    · cases step
  | identify k requestId =>
    dsimp only [advance] at step
    split at step
    · rename_i here; cases step; exact moves_request (coherent k) here rfl rfl rfl
    · rename_i here; cases step; exact moves_request (coherent k) here rfl rfl rfl
    · cases step
  | spawn k outcome =>
    dsimp only [advance] at step
    split at step
    · rename_i id here; cases step; exact moves_spawn (coherent k) here
    · rename_i id here; cases step; exact moves_request (coherent k) here rfl rfl rfl
    · cases step
  | answer k =>
    dsimp only [advance] at step
    split at step
    · rename_i id here; cases step; exact moves_answer (coherent k) here
    · cases step
  | expose k outcome =>
    dsimp only [advance] at step
    split at step
    · rename_i here; cases step; exact moves_job here (by simp) (by simp) rfl fun own held => held
    · rename_i here; cases step; exact moves_job here (by simp) (by simp) rfl fun own held => .inl held
    · cases step
  | capture k frame =>
    dsimp only [advance] at step
    split at step
    · rename_i here; cases step; exact moves_job here (by simp) (by simp) rfl fun own held => held
    · rename_i here; cases step; exact moves_job here (by simp) (by simp) rfl fun own held => .inl held
    · cases step
  | put k outcome =>
    dsimp only [advance] at step
    split at step
    · rename_i frame here; cases step; exact .put k frame here
    · rename_i frame here; cases step; exact .putRaised k frame here
    · cases step
  | load k =>
    dsimp only [advance] at step
    split at step
    · rename_i frame here; cases step; exact .load k frame here
    · cases step
  | store k =>
    dsimp only [advance] at step
    split at step
    · rename_i frame count here; cases step; exact .store k frame count here
    · cases step
  | publish k outcome =>
    dsimp only [advance] at step
    split at step
    · rename_i frame here _; cases step; exact .publish k frame outcome here
    · cases step
  | skip k =>
    dsimp only [advance] at step
    split at step
    · rename_i frame here _
      cases step
      exact moves_job here (by simp) (by simp) rfl fun own held => .inr ⟨frame,.inr (.inl held)⟩
    · cases step
  | release k =>
    dsimp only [advance] at step
    split at step
    · rename_i here; cases step; exact .release k here
    · cases step
  | heartbeat => cases step; exact .heartbeat

end PiDslrRuntime
end ZenohDslr.PiRuntime
