import ZenohDslr.CaptureSerialisation
namespace ZenohDslr.PiRuntime

universe u
variable {φ : Type u}

-- `on_request` has taken the lock and has neither returned nor raised.
def Call.accepting (call : Call φ) : Bool :=
  match call.request with
  | .acquired | .identified _ => true
  | _ => false

-- Its job was started and has not finished.
def Call.running (call : Call φ) : Bool :=
  match call.job with
  | none | some .finished => false
  | some _ => true

namespace PiDslrRuntime
variable {s t : PiDslrRuntime φ} {event : Event φ} {k : Nat}

-- The lock is held for a running job, or by a call that is still under way.
def NoLeak (s : PiDslrRuntime φ) : Prop :=
  s.captureLock = true → ∃ k, (s.calls k).accepting = true ∨ (s.calls k).running = true

def NextAccepted (s : PiDslrRuntime φ) : Prop :=
  (∀ k, (s.calls k).accepting = false ∧ (s.calls k).running = false) → ∀ k, (s.calls k).request = .entered →
    ∃ t, s.advance (.acquire k) = some t ∧ (t.calls k).request = .acquired

structure SafeLock (s : PiDslrRuntime φ) : Prop where
  noLeak : NoLeak s
  next : NextAccepted s

-- Neither the request id nor the worker thread failed to come into being.
def Smooth (_ : PiDslrRuntime φ) (event : Event φ) : Prop :=
  ∀ k, event ≠ .identify k none ∧ event ≠ .spawn k .raised

theorem next_of_noLeak (noLeak : NoLeak s) : NextAccepted s := by
  intro idle k entered
  have free : s.captureLock = false := by
    cases lock : s.captureLock with
    | false => rfl
    | true =>
      obtain ⟨j,held⟩ := noLeak lock
      rcases held with accepting | running
      · rw [(idle j).1] at accepting; cases accepting
      · rw [(idle j).2] at running; cases running
  refine ⟨{s.withRequest k .acquired with captureLock := true,accepted := s.accepted ++ [k]},?_,?_⟩
  · simp only [advance,entered,free]
  · change ((s.withRequest k .acquired).calls k).request = .acquired
    rw [withRequest,update_self]

theorem holding_cases {call : Call φ} (coherent : call.Coherent) : call.holding = true ↔
    call.accepting = true ∨ call.running = true ∨ call.request = .abandoned := by
  obtain ⟨request,job⟩ := call
  cases job with
  | none => cases request <;> simp [Call.holding,Call.taken,Call.accepting,Call.running]
  | some pc =>
    have unaccepting : Call.accepting (⟨request,some pc⟩ : Call φ) = false := by
      cases request <;> first | rfl | cases coherent
    have unabandoned : request ≠ .abandoned := by
      intro same
      rw [same] at coherent
      cases coherent
    cases pc <;> simp [Call.holding,Call.taken,Call.running,unaccepting,unabandoned]

-- A leaked lock is one that an abandoned call has left behind.
theorem noLeak_exact (orderly : Orderly s) : NoLeak s ↔ ∀ k, (s.calls k).request ≠ .abandoned := by
  constructor
  · intro noLeak k abandoned
    have held := (holding_cases (orderly.coherent k)).mpr (.inr (.inr abandoned))
    obtain ⟨j,busy⟩ := noLeak (orderly.exclusive.owned.held.mpr ⟨k,held⟩)
    have other : (s.calls j).holding = true := by
      apply (holding_cases (orderly.coherent j)).mpr
      rcases busy with accepting | running
      · exact .inl accepting
      · exact .inr (.inl running)
    have same := orderly.exclusive.owned.alone j k other held
    subst same
    have idle := early_idle (orderly.coherent j) abandoned rfl
    simp [Call.accepting,Call.running,abandoned,idle] at busy
  · intro kept lock
    obtain ⟨k,held⟩ := orderly.exclusive.owned.held.mp lock
    refine ⟨k,?_⟩
    rcases (holding_cases (orderly.coherent k)).mp held with accepting | running | abandoned
    · exact .inl accepting
    · exact .inr running
    · exact absurd abandoned (kept k)

theorem abandoned_of_unidentified (step : s.advance (.identify k none) = some t) : (t.calls k).request = .abandoned := by
  dsimp only [advance] at step
  split at step
  · rename_i id; cases id
  · cases step; rw [withRequest,update_self]
  · cases step

theorem abandoned_of_unstarted (step : s.advance (.spawn k .raised) = some t) : (t.calls k).request = .abandoned := by
  dsimp only [advance] at step
  split at step
  · rename_i outcome; cases outcome
  · cases step; rw [withRequest,update_self]
  · cases step

theorem noLeak_step (orderly : Orderly s) (noLeak : NoLeak s) (step : s.advance event = some t) : NoLeak t ↔ Smooth s event := by
  rw [noLeak_exact (orderly_step orderly step)]
  have before := (noLeak_exact orderly).mp noLeak
  constructor
  · intro kept k
    refine ⟨?_,?_⟩
    · intro same
      rw [same] at step
      exact kept k (abandoned_of_unidentified step)
    · intro same
      rw [same] at step
      exact kept k (abandoned_of_unstarted step)
  · intro smooth k abandoned
    rcases request_step step k with same | moved
    · exact before k (same.symm.trans abandoned)
    · rw [abandoned] at moved
      cases moved with
      | unidentified => exact (smooth k).1 rfl
      | unstarted => exact (smooth k).2 rfl

theorem safeLock_step (orderly : Orderly s) (safe : SafeLock s) (step : s.advance event = some t) : SafeLock t ↔ Smooth s event := by
  rw [← noLeak_step orderly safe.noLeak step]
  refine ⟨fun kept => kept.noLeak,fun noLeak => ⟨noLeak,next_of_noLeak noLeak⟩⟩

-- The lock is never leaked in a run exactly when no call fails between taking
-- the lock and starting its job.
theorem lock_safe_iff_smooth (settings : Settings) (native : Bool) {events : List (Event φ)} {last : PiDslrRuntime φ}
    (ran : Runs.run advance (initial settings native) events = some last) :
    Runs.Throughout advance SafeLock (initial settings native) events ↔
      Runs.Along advance Smooth (initial settings native) events := by
  have noLeak : NoLeak (initial settings native : PiDslrRuntime φ) := by
    intro locked
    cases locked
  apply Runs.throughout_iff_along Orderly SafeLock Smooth _ _ (initial_orderly settings native) ⟨noLeak,next_of_noLeak noLeak⟩ ran
  · intro s event t orderly step; exact orderly_step orderly step
  · intro s event t orderly safe step; exact safeLock_step orderly safe step

def failedCapture : List (Event Unit) :=
  [.enter 0 .returned,.acquire 0,.identify 0 (some "1f"),.spawn 0 .returned,.expose 0 .raised,.release 0]

theorem lock_safe_iff_smooth_failed : Runs.Throughout advance SafeLock (initial ⟨"dslr-a","EOS","cameras/a"⟩ false) failedCapture ↔
    Runs.Along advance Smooth (initial ⟨"dslr-a","EOS","cameras/a"⟩ false) failedCapture :=
  lock_safe_iff_smooth _ false rfl

-- The thread cannot be started: nobody is left to release the lock.
def unstartedThread : List (Event Unit) := [.enter 0 .returned,.acquire 0,.identify 0 (some "1f"),.spawn 0 .raised]

theorem unstarted_thread_keeps_lock :
    ¬ Runs.Throughout advance SafeLock (initial ⟨"dslr-a","EOS","cameras/a"⟩ true) unstartedThread := by
  intro safe
  obtain ⟨last,ran⟩ : ∃ last, Runs.run advance (initial ⟨"dslr-a","EOS","cameras/a"⟩ true) unstartedThread = some last := ⟨_,rfl⟩
  have orderly := Runs.run_invariant Orderly (fun _ _ _ orderly step => orderly_step orderly step) (initial_orderly _ _) ran
  have abandoned : (last.calls 0).request = .abandoned := by cases ran; rfl
  exact (noLeak_exact orderly).mp (safe _ [] _ (List.append_nil _).symm ran).noLeak 0 abandoned

end PiDslrRuntime
end ZenohDslr.PiRuntime
