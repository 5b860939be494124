import Mathlib.Logic.Basic
namespace ZenohDslr.Attempts

variable {ε σ α β : Type} {holds : σ → Prop} {s : σ}

-- Statements that may raise. What one has done to the state by then stays done,
-- and a handler goes on from there.
def perform (outcome : Except ε α) : EStateM ε σ α := fun s =>
  match outcome with
  | .ok value => .ok value s
  | .error e => .error e s

def guarded (body : EStateM ε σ α) (handler : ε → EStateM ε σ α) : EStateM ε σ α := fun s =>
  match body s with
  | .ok value t => .ok value t
  | .error e t => handler e t

-- `try: ... finally: ...`; what the second block raises replaces what the first raised.
def ensuring (body : EStateM ε σ α) (cleanup : EStateM ε σ PUnit) : EStateM ε σ α := fun s =>
  match body s with
  | .ok value t =>
    match cleanup t with
    | .ok _ u => .ok value u
    | .error e u => .error e u
  | .error e t =>
    match cleanup t with
    | .ok _ u => .error e u
    | .error later u => .error later u

def after : EStateM.Result ε σ α → σ
  | .ok _ s => s
  | .error _ s => s

def Safe (body : EStateM ε σ α) : Prop := ∀ s, ∃ value t, body s = .ok value t

def Keeps (holds : σ → Prop) (body : EStateM ε σ α) : Prop := ∀ s, holds s → holds (after (body s))

@[simp] theorem after_ok (value : α) : after (.ok value s : EStateM.Result ε σ α) = s := rfl
@[simp] theorem after_error (e : ε) : after (.error e s : EStateM.Result ε σ α) = s := rfl
@[simp] theorem perform_ok (value : α) : (perform (.ok value) : EStateM ε σ α) s = .ok value s := rfl
@[simp] theorem perform_error (e : ε) : (perform (.error e) : EStateM ε σ α) s = .error e s := rfl
@[simp] theorem pure_apply (value : α) : (pure value : EStateM ε σ α) s = .ok value s := rfl
@[simp] theorem get_apply : (get : EStateM ε σ σ) s = .ok s s := rfl
@[simp] theorem throw_apply (e : ε) : (throw e : EStateM ε σ α) s = .error e s := rfl
@[simp] theorem modify_apply (f : σ → σ) : (modify f : EStateM ε σ PUnit) s = .ok ⟨⟩ (f s) := rfl

theorem bind_apply (body : EStateM ε σ α) (next : α → EStateM ε σ β) : (body >>= next) s =
    match body s with
    | .ok value t => next value t
    | .error e t => .error e t := by
  simp only [bind,EStateM.bind]
  cases body s <;> rfl

theorem bind_ok {body : EStateM ε σ α} {next : α → EStateM ε σ β} {value : β} {t : σ} :
    (body >>= next) s = .ok value t ↔ ∃ middle u, body s = .ok middle u ∧ next middle u = .ok value t := by
  rw [bind_apply]
  cases body s with
  | ok middle u =>
    constructor
    · exact fun done => ⟨middle,u,rfl,done⟩
    · rintro ⟨_,_,same,done⟩
      cases same
      exact done
  | error e u => simp

theorem then_ok {body : EStateM ε σ PUnit} {next : PUnit → EStateM ε σ β} {value : β} {t : σ} :
    (body >>= next) s = .ok value t ↔ ∃ u, body s = .ok ⟨⟩ u ∧ next ⟨⟩ u = .ok value t := by
  rw [bind_ok]
  constructor
  · rintro ⟨⟨⟩,u,first,rest⟩
    exact ⟨u,first,rest⟩
  · rintro ⟨u,first,rest⟩
    exact ⟨⟨⟩,u,first,rest⟩

theorem get_then (next : σ → EStateM ε σ β) : (get >>= next) s = next s s := rfl

theorem perform_ok_iff {outcome : Except ε α} {value : α} {t : σ} :
    perform outcome s = .ok value t ↔ outcome = .ok value ∧ s = t := by
  cases outcome <;> simp [perform]

-- However the first block ends, the second runs on what it leaves.
theorem after_ensuring (body : EStateM ε σ α) (cleanup : EStateM ε σ PUnit) :
    after (ensuring body cleanup s) = after (cleanup (after (body s))) := by
  unfold ensuring
  cases body s with
  | ok value t => cases ran : cleanup t <;> simp [ran]
  | error e t => cases ran : cleanup t <;> simp [ran]

theorem ensuring_ok {body : EStateM ε σ α} {cleanup : EStateM ε σ PUnit} {value : α} {t : σ} :
    ensuring body cleanup s = .ok value t ↔ ∃ u, body s = .ok value u ∧ cleanup u = .ok ⟨⟩ t := by
  unfold ensuring
  cases body s with
  | error e u => cases ran : cleanup u <;> simp [ran]
  | ok result u =>
    constructor
    · intro both
      cases ran : cleanup u with
      | ok _ v =>
        simp only [ran] at both
        cases both
        exact ⟨u,rfl,ran⟩
      | error e v =>
        simp only [ran] at both
        cases both
    · rintro ⟨_,first,second⟩
      cases first
      simp only [second]

theorem safe_pure (value : α) : Safe (pure value : EStateM ε σ α) := fun s => ⟨value,s,rfl⟩

theorem safe_get : Safe (get : EStateM ε σ σ) := fun s => ⟨s,s,rfl⟩

theorem safe_modify (f : σ → σ) : Safe (modify f : EStateM ε σ PUnit) := fun s => ⟨⟨⟩,f s,rfl⟩

theorem safe_bind {body : EStateM ε σ α} {next : α → EStateM ε σ β} (first : Safe body)
    (rest : ∀ value, Safe (next value)) : Safe (body >>= next) := by
  intro s
  obtain ⟨value,t,ran⟩ := first s
  obtain ⟨result,u,last⟩ := rest value t
  exact ⟨result,u,by rw [bind_apply,ran]; exact last⟩

-- A guarded block is as safe as its handler, whatever the block does.
theorem safe_guarded (body : EStateM ε σ α) {handler : ε → EStateM ε σ α} (caught : ∀ e, Safe (handler e)) :
    Safe (guarded body handler) := by
  intro s
  cases ran : body s with
  | ok value t => exact ⟨value,t,by simp [guarded,ran]⟩
  | error e t =>
    obtain ⟨value,u,handled⟩ := caught e t
    exact ⟨value,u,by simp [guarded,ran,handled]⟩

theorem keeps_pure (value : α) : Keeps holds (pure value : EStateM ε σ α) := fun _ held => held

theorem keeps_perform (outcome : Except ε α) : Keeps holds (perform outcome : EStateM ε σ α) := by
  intro s held
  cases outcome <;> exact held

theorem keeps_modify {f : σ → σ} (kept : ∀ s, holds s → holds (f s)) : Keeps holds (modify f : EStateM ε σ PUnit) := kept

theorem keeps_bind {body : EStateM ε σ α} {next : α → EStateM ε σ β} (first : Keeps holds body)
    (rest : ∀ value, Keeps holds (next value)) : Keeps holds (body >>= next) := by
  intro s held
  have middle := first s held
  rw [bind_apply]
  cases ran : body s with
  | ok value t => exact rest value t (by simpa [ran] using middle)
  | error e t => simpa [ran] using middle

theorem keeps_guarded {body : EStateM ε σ α} {handler : ε → EStateM ε σ α} (first : Keeps holds body)
    (caught : ∀ e, Keeps holds (handler e)) : Keeps holds (guarded body handler) := by
  intro s held
  have middle := first s held
  cases ran : body s with
  | ok value t => simpa [guarded,ran] using middle
  | error e t =>
    have handled := caught e t (by simpa [ran] using middle)
    simpa [guarded,ran] using handled

end ZenohDslr.Attempts
