import Mathlib.Data.List.Basic
namespace ZenohDslr.Runs

universe u v w

section Events
variable {σ : Type u} {ε : Type v} {advance : σ → ε → Option σ} {s t last : σ} {event : ε} {rest : List ε}

-- A machine whose events carry every choice of the schedule: which thread moves
-- and how the call it makes ends. All interleavings are then all event lists.
def run (advance : σ → ε → Option σ) : σ → List ε → Option σ
  | s,[] => some s
  | s,event :: rest => (advance s event).bind (run advance · rest)

-- What holds in every state a run visits, the first and the last included.
def Throughout (advance : σ → ε → Option σ) (holds : σ → Prop) (s : σ) (events : List ε) : Prop :=
  ∀ done rest t, events = done ++ rest → run advance s done = some t → holds t

-- What each event of a run meets in the state it is taken from.
def Along (advance : σ → ε → Option σ) (meets : σ → ε → Prop) (s : σ) (events : List ε) : Prop :=
  ∀ done event rest t, events = done ++ event :: rest → run advance s done = some t → meets t event

theorem run_cons (step : advance s event = some t) : run advance s (event :: rest) = run advance t rest := by
  simp [run,step]

theorem run_cons_inv (ran : run advance s (event :: rest) = some last) :
    ∃ t, advance s event = some t ∧ run advance t rest = some last :=
  Option.bind_eq_some_iff.mp ran

theorem run_total (total : ∀ s event, ∃ t, advance s event = some t) (s : σ) (events : List ε) :
    ∃ last, run advance s events = some last := by
  induction events generalizing s with
  | nil => exact ⟨s,rfl⟩
  | cons event rest ih =>
    obtain ⟨t,step⟩ := total s event
    rw [run_cons step]
    exact ih t

theorem run_invariant (holds : σ → Prop) (keeps : ∀ s event t, holds s → advance s event = some t → holds t)
    (start : holds s) {events : List ε} (ran : run advance s events = some last) : holds last := by
  induction events generalizing s with
  | nil => cases ran; exact start
  | cons event rest ih =>
    obtain ⟨t,step,tail⟩ := run_cons_inv ran
    exact ih (keeps s event t start step) tail

theorem throughout_nil {holds : σ → Prop} : Throughout advance holds s [] ↔ holds s := by
  constructor
  · intro all; exact all [] [] s rfl rfl
  · intro start done rest t split ran
    obtain ⟨rfl,rfl⟩ := List.nil_eq_append_iff.mp split
    cases ran; exact start

theorem throughout_cons {holds : σ → Prop} (step : advance s event = some t) :
    Throughout advance holds s (event :: rest) ↔ holds s ∧ Throughout advance holds t rest := by
  constructor
  · intro all
    refine ⟨all [] _ s rfl rfl,?_⟩
    intro done tail reached split ran
    exact all (event :: done) tail reached (by rw [split]; rfl) (by rw [run_cons step]; exact ran)
  · intro both done tail reached split ran
    obtain ⟨start,all⟩ := both
    cases done with
    | nil => cases ran; exact start
    | cons first done =>
      obtain ⟨rfl,tailSplit⟩ := List.cons.inj split
      rw [run_cons step] at ran
      exact all done tail reached tailSplit ran

theorem along_nil {meets : σ → ε → Prop} : Along advance meets s [] := by
  intro done event rest t split
  simp at split

theorem along_cons {meets : σ → ε → Prop} (step : advance s event = some t) :
    Along advance meets s (event :: rest) ↔ meets s event ∧ Along advance meets t rest := by
  constructor
  · intro all
    refine ⟨all [] _ _ s rfl rfl,?_⟩
    intro done next tail reached split ran
    exact all (event :: done) next tail reached (by rw [split]; rfl) (by rw [run_cons step]; exact ran)
  · intro both done next tail reached split ran
    obtain ⟨first,all⟩ := both
    cases done with
    | nil =>
      obtain ⟨rfl,rfl⟩ := List.cons.inj split
      cases ran; exact first
    | cons head done =>
      obtain ⟨rfl,tailSplit⟩ := List.cons.inj split
      rw [run_cons step] at ran
      exact all done next tail reached tailSplit ran

-- When a step keeps the property exactly if it meets the condition, a whole run
-- keeps it exactly if all its steps do: the first bad step is already visible.
theorem throughout_iff_along (sound holds : σ → Prop) (meets : σ → ε → Prop)
    (keeps : ∀ s event t, sound s → advance s event = some t → sound t)
    (exact_step : ∀ s event t, sound s → holds s → advance s event = some t → (holds t ↔ meets s event))
    {events : List ε} (valid : sound s) (start : holds s) (ran : run advance s events = some last) :
    Throughout advance holds s events ↔ Along advance meets s events := by
  induction events generalizing s with
  | nil => exact ⟨fun _ => along_nil,fun _ => throughout_nil.mpr start⟩
  | cons event rest ih =>
    obtain ⟨t,step,tail⟩ := run_cons_inv ran
    rw [throughout_cons step,along_cons step]
    have here := exact_step s event t valid start step
    constructor
    · intro both
      obtain ⟨_,all⟩ := both
      have next : holds t := all [] rest t rfl rfl
      exact ⟨here.mp next,(ih (keeps s event t valid step) next tail).mp all⟩
    · intro both
      obtain ⟨first,all⟩ := both
      have next := here.mpr first
      exact ⟨start,(ih (keeps s event t valid step) next tail).mpr all⟩

-- An invariant that a step keeps when it meets the condition holds all along a
-- run whose steps do.
theorem along_invariant (holds : σ → Prop) (meets : σ → ε → Prop)
    (keeps : ∀ s event t, holds s → meets s event → advance s event = some t → holds t) {events : List ε} (start : holds s)
    (met : Along advance meets s events) : Throughout advance holds s events := by
  intro done rest t split ran
  induction done generalizing s events with
  | nil => cases ran; exact start
  | cons event done ih =>
    obtain ⟨middle,step,tail⟩ := run_cons_inv ran
    subst split
    rw [List.cons_append,along_cons step] at met
    exact ih (keeps s event middle start met.1 step) met.2 rfl tail

-- Two machines in step: a view of the first moves as the second does, or stays
-- where an event is erased.
def follow {τ : Type u} {δ : Type v} (other : τ → δ → Option τ) (t : τ) : Option δ → Option τ
  | some move => other t move
  | none => some t

theorem run_view {τ : Type u} {δ : Type v} {other : τ → δ → Option τ} (view : σ → τ) (erase : ε → Option δ)
    (steps : ∀ s event, (advance s event).map view = follow other (view s) (erase event)) (s : σ) (events : List ε) :
    (run advance s events).map view = run other (view s) (events.filterMap erase) := by
  induction events generalizing s with
  | nil => rfl
  | cons event rest ih =>
    have here := steps s event
    cases erased : erase event with
    | none =>
      rw [erased] at here
      obtain ⟨t,step,same⟩ := Option.map_eq_some_iff.mp here
      rw [run_cons step,ih t,same,List.filterMap_cons_none erased]
    | some move =>
      rw [erased] at here
      rw [List.filterMap_cons_some erased]
      cases step : advance s event with
      | none =>
        rw [step] at here
        have stuck : other (view s) move = none := here.symm
        simp [run,step,stuck]
      | some t =>
        rw [step] at here
        have moved : other (view s) move = some (view t) := here.symm
        rw [run_cons step,run_cons moved,ih t]

-- The same from a state on that is sound, along steps that are admitted.
theorem run_followed {τ : Type u} {δ : Type v} {other : τ → δ → Option τ} (view : σ → τ) (erase : ε → Option δ) (sound : σ → Prop)
    (admits : ε → Prop) (steps : ∀ s event t, sound s → admits event → advance s event = some t →
      follow other (view s) (erase event) = some (view t)) (keeps : ∀ s event t, sound s → admits event → advance s event = some t → sound t)
    {events : List ε} (start : sound s) (admitted : ∀ event ∈ events, admits event) (ran : run advance s events = some last) :
    run other (view s) (events.filterMap erase) = some (view last) := by
  induction events generalizing s with
  | nil => cases ran; rfl
  | cons event rest ih =>
    obtain ⟨t,step,tail⟩ := run_cons_inv ran
    have first := admitted event List.mem_cons_self
    have here := steps s event t start first step
    have behind := ih (keeps s event t start first step) (fun e inside => admitted e (List.mem_cons_of_mem _ inside)) tail
    cases erased : erase event with
    | none =>
      rw [erased] at here
      have same : view s = view t := Option.some.inj here
      rw [List.filterMap_cons_none erased,same]
      exact behind
    | some move =>
      rw [erased] at here
      have moved : other (view s) move = some (view t) := here
      rw [List.filterMap_cons_some erased,run_cons moved]
      exact behind

end Events

section Served
variable {σ : Type u} {α : Type v} {β : Type w} {handle : σ → α → β × σ} {s : σ}

-- Requests answered one after another: each sees the state the one before left.
def serve (handle : σ → α → β × σ) : σ → List α → List (α × β) × σ
  | s,[] => ([],s)
  | s,request :: rest =>
    let next := handle s request
    let served := serve handle next.2 rest
    ((request,next.1) :: served.1,served.2)

@[simp] theorem serve_nil : serve handle s [] = ([],s) := rfl

@[simp] theorem serve_cons (request : α) (rest : List α) : serve handle s (request :: rest) =
    ((request,(handle s request).1) :: (serve handle (handle s request).2 rest).1,
      (serve handle (handle s request).2 rest).2) := rfl

theorem serve_run (requests : List α) :
    run (fun s request => some (handle s request).2) s requests = some (serve handle s requests).2 := by
  induction requests generalizing s with
  | nil => rfl
  | cons request rest ih => simpa [run] using ih

-- `admits` is what the run assumes of its requests; `relates` may read the
-- whole history of requests and answers.
theorem serve_history (admits : α → Prop) (relates : List (α × β) → σ → Prop)
    (keeps : ∀ history s request, relates history s → admits request →
      relates (history ++ [(request,(handle s request).1)]) (handle s request).2)
    {history : List (α × β)} {requests : List α} (start : relates history s)
    (admitted : ∀ request ∈ requests, admits request) :
    relates (history ++ (serve handle s requests).1) (serve handle s requests).2 := by
  induction requests generalizing s history with
  | nil => simpa using start
  | cons request rest ih =>
    have first := keeps history s request start (admitted request List.mem_cons_self)
    have tail := ih first (fun r member => admitted r (List.mem_cons_of_mem _ member))
    simpa [List.append_assoc] using tail

theorem serve_invariant (holds : σ → Prop) (keeps : ∀ s request, holds s → holds (handle s request).2)
    (requests : List α) (start : holds s) : holds (serve handle s requests).2 := by
  induction requests generalizing s with
  | nil => exact start
  | cons request rest ih => exact ih (keeps s request start)

end Served
end ZenohDslr.Runs
