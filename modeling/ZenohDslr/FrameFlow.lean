import ZenohDslr.CaptureSerialisation
namespace ZenohDslr.PiRuntime

universe u
variable {φ : Type u}

-- The frame a job has in hand.
def Call.held (call : Call φ) : Option φ :=
  match call.job with
  | some (.captured frame) | some (.blobPut frame) | some (.loaded frame _) | some (.counted frame) => some frame
  | _ => none

def Effect.frame (effect : Effect φ) : φ :=
  match effect.action with
  | .put frame | .publish frame => frame

-- The frame of a put that returned.
def Effect.landed (effect : Effect φ) : Option φ :=
  match effect.action,effect.outcome with
  | .put frame,.returned => some frame
  | _,_ => none

def landed (effects : List (Effect φ)) : List φ := effects.filterMap Effect.landed

namespace PiDslrRuntime
variable {s t : PiDslrRuntime φ} {event : Event φ} {k : Nat}

-- All that one step can do to the frames: effects are added, of frames that were
-- in hand, and a frame comes into a hand by a capture.
structure Flows (s : PiDslrRuntime φ) (event : Event φ) (t : PiDslrRuntime φ) : Prop where
  settings : t.settings = s.settings
  effects : ∃ new, t.effects = s.effects ++ new ∧ ∀ effect ∈ new, ∃ k, (s.calls k).held = some effect.frame
  held : ∀ k frame, (t.calls k).held = some frame → (∃ j, (s.calls j).held = some frame) ∨ event = .capture k (some frame)
  heartbeats : event ≠ .heartbeat → t.heartbeats = s.heartbeats

theorem held_update {call : Call φ} {frame : φ} {j : Nat} (there : ((s.update k call).calls j).held = some frame) :
    (∃ i, (s.calls i).held = some frame) ∨ j = k ∧ call.held = some frame := by
  by_cases here : j = k
  · rw [here,update_self] at there
    exact .inr ⟨here,there⟩
  · rw [update_other call here] at there
    exact .inl ⟨j,there⟩

-- A step of one call without an effect, that captures nothing.
theorem flows_quiet {call : Call φ} (kept : ∀ frame, call.held = some frame → (s.calls k).held = some frame) :
    Flows s event (s.update k call) where
  settings := rfl
  effects := ⟨[],by simp [update],by simp⟩
  held j frame there := by
    rcases held_update there with old | ⟨_,new⟩
    · exact .inl old
    · exact .inl ⟨k,kept frame new⟩
  heartbeats _ := rfl

theorem flows_request (request : RequestPc) : Flows s event (s.withRequest k request) := flows_quiet fun _ held => held

theorem flows_job {old new : JobPc φ} (here : (s.calls k).job = some old)
    (kept : ∀ frame, Call.held (⟨.absent,some new⟩ : Call φ) = some frame → Call.held (⟨.absent,some old⟩ : Call φ) = some frame) :
    Flows s event (s.withJob k new) := by
  apply flows_quiet
  intro frame held
  have before : (s.calls k).held = Call.held (⟨.absent,some old⟩ : Call φ) := by simp only [Call.held,here]
  rw [before]
  exact kept frame held

-- An effect on top of a step that has none.
theorem flows_emit (k : Nat) {effect : Effect φ} (flows : Flows s event t) (quiet : t.effects = s.effects)
    (inHand : (s.calls k).held = some effect.frame) : Flows s event (t.emit effect) where
  settings := flows.settings
  effects := by
    refine ⟨[effect],by simp [emit,quiet],?_⟩
    intro other inside
    rw [List.mem_singleton.mp inside]
    exact ⟨k,inHand⟩
  held := flows.held
  heartbeats := flows.heartbeats

theorem flows_with {lock : Bool} {count : Nat} {accepted : List Nat} (flows : Flows s event t) :
    Flows s event {t with captureLock := lock,captureCount := count,accepted := accepted} :=
  ⟨flows.settings,flows.effects,flows.held,flows.heartbeats⟩

theorem advance_flows (step : s.advance event = some t) : Flows s event t := by
  cases event with
  | enter k outcome =>
    dsimp only [advance] at step
    split at step <;> cases step <;> exact flows_request _
  | acquire k =>
    dsimp only [advance] at step
    split at step
    · cases step; exact flows_request _
    · cases step; exact flows_with (flows_request _)
    · cases step
  | identify k requestId =>
    dsimp only [advance] at step
    split at step <;> cases step <;> exact flows_request _
  | spawn k outcome =>
    dsimp only [advance] at step
    split at step
    · cases step; exact flows_quiet (by simp [Call.held])
    · cases step; exact flows_request _
    · cases step
  | answer k =>
    dsimp only [advance] at step
    split at step <;> cases step
    exact flows_request _
  | expose k outcome =>
    dsimp only [advance] at step
    split at step <;> cases step
    · rename_i here; exact flows_job here (by simp [Call.held])
    · rename_i here; exact flows_job here (by simp [Call.held])
  | capture k frame =>
    dsimp only [advance] at step
    split at step <;> cases step
    · rename_i frame here
      refine ⟨rfl,⟨[],by simp [withJob,update],by simp⟩,?_,fun _ => rfl⟩
      intro j other there
      rcases held_update there with old | ⟨rfl,new⟩
      · exact .inl old
      · cases new; exact .inr rfl
    · rename_i here; exact flows_job here (by simp [Call.held])
  | put k outcome =>
    dsimp only [advance] at step
    split at step <;> cases step
    · rename_i frame here; exact flows_emit k (flows_job here fun _ held => held) rfl (by simp [Call.held,here,Effect.frame])
    · rename_i frame here; exact flows_emit k (flows_job here (by simp [Call.held])) rfl (by simp [Call.held,here,Effect.frame])
  | load k =>
    dsimp only [advance] at step
    split at step <;> cases step
    rename_i here; exact flows_job here fun _ held => held
  | store k =>
    dsimp only [advance] at step
    split at step <;> cases step
    rename_i here; exact flows_with (flows_job here fun _ held => held)
  | publish k outcome =>
    dsimp only [advance] at step
    split at step <;> cases step
    rename_i frame here _; exact flows_emit k (flows_job here (by simp [Call.held])) rfl (by simp [Call.held,here,Effect.frame])
  | skip k =>
    dsimp only [advance] at step
    split at step <;> cases step
    rename_i here _; exact flows_job here (by simp [Call.held])
  | release k =>
    dsimp only [advance] at step
    split at step <;> cases step
    rename_i here; exact flows_with (flows_job here (by simp [Call.held]))
  | heartbeat =>
    cases step
    exact ⟨rfl,⟨[],by simp,by simp⟩,fun k frame there => .inl ⟨k,there⟩,fun other => absurd rfl other⟩

-- Frames in hand and frames put are good, when captured frames are.
structure Carries (good : φ → Prop) (s : PiDslrRuntime φ) : Prop where
  held : ∀ k frame, (s.calls k).held = some frame → good frame
  effects : ∀ effect ∈ s.effects, good effect.frame

theorem carries_initial {good : φ → Prop} (settings : Settings) (native : Bool) : Carries good (initial settings native) :=
  ⟨fun _ _ held => (by cases held),fun _ inside => (by cases inside)⟩

theorem carries_step {good : φ → Prop} (carries : Carries good s) (step : s.advance event = some t)
    (captured : ∀ k frame, event = .capture k (some frame) → good frame) : Carries good t := by
  have flows := advance_flows step
  obtain ⟨new,added,source⟩ := flows.effects
  refine ⟨?_,?_⟩
  · intro k frame there
    rcases flows.held k frame there with ⟨j,old⟩ | fresh
    · exact carries.held j frame old
    · exact captured k frame fresh
  · intro effect inside
    rw [added] at inside
    rcases List.mem_append.mp inside with old | fresh
    · exact carries.effects effect old
    · obtain ⟨k,held⟩ := source effect fresh
      exact carries.held k effect.frame held

theorem landed_frame {effect : Effect φ} {frame : φ} (there : effect.landed = some frame) : effect.frame = frame := by
  unfold Effect.landed at there
  split at there
  · rename_i put _
    cases there
    simp [Effect.frame,put]
  · cases there

end PiDslrRuntime
end ZenohDslr.PiRuntime
