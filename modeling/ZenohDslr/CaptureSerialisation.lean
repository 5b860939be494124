import ZenohDslr.CaptureMoves
namespace ZenohDslr.PiRuntime.PiDslrRuntime

universe u
variable {φ : Type u} {s t : PiDslrRuntime φ} {event : Event φ} {k : Nat}

-- The lock, its holder and the order in which it was taken.
structure Exclusive (s : PiDslrRuntime φ) : Prop where
  owned : LockOwner.Owned s.captureLock fun k => (s.calls k).holding
  distinct : s.accepted.Nodup
  taken : ∀ k, k ∈ s.accepted ↔ (s.calls k).taken = true
  latest : ∀ k, (s.calls k).holding = true → s.accepted.getLast? = some k

structure Ordered (s : PiDslrRuntime φ) : Prop where
  turns : Turns.InTurns Effect.call s.accepted s.effects
  footprint : ∀ k, Footprint k (s.calls k) (Turns.own Effect.call k s.effects)

structure Counted (s : PiDslrRuntime φ) : Prop where
  settled : (∀ k, (s.calls k).counting = none) → puts s.effects = s.captureCount
  pending : ∀ k read, (s.calls k).counting = some read →
    puts s.effects = s.captureCount + 1 ∧ ∀ n, read = some n → n = s.captureCount
  reads : s.heartbeats.Pairwise (· ≤ ·)
  bounded : ∀ n ∈ s.heartbeats, n ≤ s.captureCount

theorem holding_job {old job : JobPc φ} (here : (s.calls k).job = some old) (live : old ≠ .finished) (later : job ≠ .finished)
    (j : Nat) : ((s.withJob k job).calls j).holding = (s.calls j).holding := by
  apply update_same Call.holding
  simp only [Call.holding,Call.taken,here]
  cases old <;> cases job <;> first | rfl | exact absurd rfl live | exact absurd rfl later

theorem taken_job {old job : JobPc φ} (here : (s.calls k).job = some old) (j : Nat) :
    ((s.withJob k job).calls j).taken = (s.calls j).taken := by
  apply update_same Call.taken
  simp only [Call.taken,here]
  rfl

theorem holding_live {job : JobPc φ} (here : (s.calls k).job = some job) (live : job ≠ .finished) : (s.calls k).holding = true := by
  simp only [Call.holding,Call.taken,here]
  cases job <;> first | rfl | exact absurd rfl live

theorem holding_of_counting {read : Option Nat} (here : (s.calls k).counting = some read) : (s.calls k).holding = true := by
  unfold Call.counting at here
  split at here
  · rename_i frame running; exact holding_live running (by simp)
  · rename_i frame count running; exact holding_live running (by simp)
  · cases here

theorem coherent_moves (coherent : ∀ k, (s.calls k).Coherent) (moved : Moves s t) (k : Nat) : (t.calls k).Coherent := by
  have job : ∀ {i : Nat} {old new : JobPc φ}, (s.calls i).job = some old → ((s.withJob i new).calls k).Coherent := by
    intro i old new here
    have same : Call.Coherent ({s.calls i with job := some new} : Call φ) = (s.calls i).Coherent := by
      simp only [Call.Coherent,here,Option.isSome_some]
    rw [withJob,update_same Call.Coherent same]
    exact coherent k
  cases moved with
  | within i call alike =>
    by_cases here : k = i
    · rw [here,update_self]; exact alike.coherent (coherent i)
    · rw [update_other call here]; exact coherent k
  | acquire i free entered =>
    by_cases here : k = i
    · have idle := early_idle (coherent i) entered rfl
      subst here
      change Call.Coherent (Function.update s.calls k _ k)
      rw [Function.update_self]
      simp [Call.Coherent,idle]
    · change Call.Coherent (Function.update s.calls i _ k)
      rw [Function.update_of_ne here]
      exact coherent k
  | put i frame ready => exact job ready
  | putRaised i frame ready => exact job ready
  | load i frame ready => exact job ready
  | store i frame count ready => exact job ready
  | publish i frame outcome ready => exact job ready
  | release i ready => exact job ready
  | heartbeat => exact coherent k

theorem exclusive_same (exclusive : Exclusive s) (lock : t.captureLock = s.captureLock) (accepted : t.accepted = s.accepted)
    (holding : ∀ j, (t.calls j).holding = (s.calls j).holding) (taken : ∀ j, (t.calls j).taken = (s.calls j).taken) :
    Exclusive t := by
  refine ⟨?_,?_,?_,?_⟩
  · rw [lock]; exact exclusive.owned.same holding
  · rw [accepted]; exact exclusive.distinct
  · intro j; rw [accepted,taken]; exact exclusive.taken j
  · intro j held; rw [accepted]; exact exclusive.latest j (holding j ▸ held)

theorem exclusive_acquire (coherent : ∀ k, (s.calls k).Coherent) (exclusive : Exclusive s) (free : s.captureLock = false)
    (entered : (s.calls k).request = .entered) :
    Exclusive {s.withRequest k .acquired with captureLock := true,accepted := s.accepted ++ [k]} := by
  have idle := early_idle (coherent k) entered rfl
  have owned := exclusive.owned
  rw [free] at owned
  have outside : k ∉ s.accepted := by
    rw [exclusive.taken k]
    simp [Call.taken,idle,entered]
  have others : ∀ j, j ≠ k → (s.withRequest k .acquired).calls j = s.calls j := fun j different => update_other _ different
  have mine : (s.withRequest k .acquired).calls k = ⟨.acquired,none⟩ := by
    rw [withRequest,update_self]
    dsimp only
    rw [idle]
  refine ⟨owned.take k ?_ ?_,?_,?_,?_⟩
  · change ((s.withRequest k .acquired).calls k).holding = true
    rw [mine]; rfl
  · intro j different
    change ((s.withRequest k .acquired).calls j).holding = (s.calls j).holding
    rw [others j different]
  · apply List.nodup_append.mpr
    refine ⟨exclusive.distinct,List.pairwise_singleton _ k,?_⟩
    intro a left b right same
    rw [List.mem_singleton.mp right] at same
    rw [same] at left
    exact outside left
  · intro j
    change j ∈ s.accepted ++ [k] ↔ ((s.withRequest k .acquired).calls j).taken = true
    by_cases here : j = k
    · simp [here,mine,Call.taken]
    · simp [others j here,← exclusive.taken j,here]
  · intro j held
    change (s.accepted ++ [k]).getLast? = some j
    change ((s.withRequest k .acquired).calls j).holding = true at held
    by_cases here : j = k
    · simp [here]
    · rw [others j here,owned.nobody j] at held
      cases held

theorem exclusive_release (exclusive : Exclusive s) (ready : (s.calls k).job = some .leaving) :
    Exclusive {s.withJob k .finished with captureLock := false} := by
  have gone : ((s.withJob k .finished).calls k).holding = false := by
    rw [withJob,update_self]
    simp [Call.holding]
  have owned : LockOwner.Owned false fun j => ((s.withJob k .finished).calls j).holding := by
    apply exclusive.owned.give (holding_live ready (by simp)) gone
    intro j different
    rw [withJob,update_other _ different]
  refine ⟨owned,exclusive.distinct,?_,?_⟩
  · intro j
    change j ∈ s.accepted ↔ ((s.withJob k .finished).calls j).taken = true
    rw [taken_job ready]
    exact exclusive.taken j
  · intro j held
    exact absurd held (Bool.eq_false_iff.mp (owned.nobody j))

theorem exclusive_job (exclusive : Exclusive s) {old new : JobPc φ} (ready : (s.calls k).job = some old) (live : old ≠ .finished)
    (later : new ≠ .finished) (lock : t.captureLock = s.captureLock) (accepted : t.accepted = s.accepted)
    (calls : t.calls = (s.withJob k new).calls) : Exclusive t := by
  apply exclusive_same exclusive lock accepted
  · rw [calls]; exact holding_job ready live later
  · rw [calls]; exact taken_job ready

theorem exclusive_moves (coherent : ∀ k, (s.calls k).Coherent) (exclusive : Exclusive s) (moved : Moves s t) : Exclusive t := by
  cases moved with
  | within k call alike =>
    exact exclusive_same exclusive rfl rfl (update_same Call.holding alike.holding) (update_same Call.taken alike.taken)
  | acquire k free entered => exact exclusive_acquire coherent exclusive free entered
  | put k frame ready => exact exclusive_job exclusive ready (by simp) (by simp) rfl rfl rfl
  | putRaised k frame ready => exact exclusive_job exclusive ready (by simp) (by simp) rfl rfl rfl
  | load k frame ready => exact exclusive_job exclusive ready (by simp) (by simp) rfl rfl rfl
  | store k frame count ready => exact exclusive_job exclusive ready (by simp) (by simp) rfl rfl rfl
  | publish k frame outcome ready => exact exclusive_job exclusive ready (by simp) (by simp) rfl rfl rfl
  | release k ready => exact exclusive_release exclusive ready
  | heartbeat => exact exclusive_same exclusive rfl rfl (fun _ => rfl) (fun _ => rfl)

-- Steps of a job that write nothing.
theorem ordered_job {job : JobPc φ} (ordered : Ordered s)
    (footprint : ∀ own, Footprint k (s.calls k) own → Footprint k {s.calls k with job := some job} own) (j : Nat) :
    Footprint j ((s.withJob k job).calls j) (Turns.own Effect.call j s.effects) := by
  by_cases here : j = k
  · rw [here,withJob,update_self]; exact footprint _ (ordered.footprint k)
  · rw [withJob,update_other _ here]; exact ordered.footprint j

-- Steps that write one effect: the one who holds the lock has the latest turn.
theorem ordered_emit {job old : JobPc φ} {effect : Effect φ} (exclusive : Exclusive s) (ordered : Ordered s)
    (ready : (s.calls k).job = some old) (live : old ≠ .finished) (mine : effect.call = k)
    (footprint : ∀ own, Footprint k (s.calls k) own → Footprint k {s.calls k with job := some job} (own ++ [effect])) :
    Ordered ((s.withJob k job).emit effect) := by
  have latest := exclusive.latest k (holding_live ready live)
  rw [← mine] at latest
  refine ⟨Turns.inTurns_snoc ordered.turns exclusive.distinct latest,?_⟩
  intro j
  change Footprint j ((s.withJob k job).calls j) (Turns.own Effect.call j (s.effects ++ [effect]))
  by_cases here : j = k
  · rw [here,withJob,update_self,Turns.own_snoc_self mine]
    exact footprint _ (ordered.footprint k)
  · rw [withJob,update_other _ here,Turns.own_snoc_other]
    · exact ordered.footprint j
    · rw [mine]; exact fun same => here same.symm

theorem ordered_moves (coherent : ∀ k, (s.calls k).Coherent) (exclusive : Exclusive s) (ordered : Ordered s) (moved : Moves s t) :
    Ordered t := by
  cases moved with
  | within k call alike =>
    refine ⟨ordered.turns,?_⟩
    intro j
    change Footprint j ((s.update k call).calls j) (Turns.own Effect.call j s.effects)
    by_cases here : j = k
    · rw [here,update_self]; exact alike.footprint _ (ordered.footprint k)
    · rw [update_other _ here]; exact ordered.footprint j
  | acquire k free entered =>
    have idle := early_idle (coherent k) entered rfl
    have nothing : Turns.own Effect.call k s.effects = [] := by
      have held := ordered.footprint k
      unfold Footprint at held
      rw [idle] at held
      exact held
    refine ⟨Turns.inTurns_turn ordered.turns nothing,?_⟩
    intro j
    change Footprint j ((s.withRequest k .acquired).calls j) (Turns.own Effect.call j s.effects)
    by_cases here : j = k
    · rw [here,withRequest,update_self]; exact ordered.footprint k
    · rw [withRequest,update_other _ here]; exact ordered.footprint j
  | put k frame ready =>
    apply ordered_emit exclusive ordered ready (by simp) rfl
    intro own held
    simp only [Footprint,ready] at held ⊢
    rw [held]; rfl
  | putRaised k frame ready =>
    apply ordered_emit exclusive ordered ready (by simp) rfl
    intro own held
    simp only [Footprint,ready] at held ⊢
    rw [held]; exact .inr ⟨frame,.inl rfl⟩
  | load k frame ready =>
    refine ⟨ordered.turns,ordered_job ordered ?_⟩
    intro own held
    simpa only [Footprint,ready] using held
  | store k frame count ready =>
    refine ⟨ordered.turns,ordered_job ordered ?_⟩
    intro own held
    simpa only [Footprint,ready] using held
  | publish k frame outcome ready =>
    apply ordered_emit exclusive ordered ready (by simp) rfl
    intro own held
    simp only [Footprint,ready] at held ⊢
    rw [held]; exact .inr ⟨frame,.inr (.inr ⟨outcome,rfl⟩)⟩
  | release k ready =>
    refine ⟨ordered.turns,ordered_job ordered ?_⟩
    intro own held
    simpa only [Footprint,ready] using held
  | heartbeat => exact ⟨ordered.turns,ordered.footprint⟩

theorem puts_snoc (effects : List (Effect φ)) (effect : Effect φ) :
    puts (effects ++ [effect]) = puts effects + if effect.isPut then 1 else 0 := by
  unfold puts
  rw [List.filter_append,List.length_append]
  cases counts : effect.isPut <;> simp [counts]

-- Nobody else is in the middle of counting while `k` holds the lock.
theorem counting_alone (exclusive : Exclusive s) (held : (s.calls k).holding = true) {j : Nat} (different : j ≠ k) :
    (s.calls j).counting = none := by
  cases here : (s.calls j).counting with
  | none => rfl
  | some read => exact absurd (exclusive.owned.alone j k (holding_of_counting here) held) different

theorem counted_same (counted : Counted s) (count : t.captureCount = s.captureCount) (reads : t.heartbeats = s.heartbeats)
    (effects : puts t.effects = puts s.effects) (counting : ∀ j, (t.calls j).counting = (s.calls j).counting) : Counted t := by
  refine ⟨?_,?_,?_,?_⟩
  · intro nobody
    rw [effects,count]
    exact counted.settled fun j => (counting j).symm.trans (nobody j)
  · intro j read here
    rw [effects,count]
    exact counted.pending j read ((counting j).symm.trans here)
  · rw [reads]; exact counted.reads
  · rw [reads,count]; exact counted.bounded

theorem counting_job {old job : JobPc φ} (here : (s.calls k).job = some old)
    (same : Call.counting (⟨(s.calls k).request,some job⟩ : Call φ) = Call.counting ⟨(s.calls k).request,some old⟩) (j : Nat) :
    ((s.withJob k job).calls j).counting = (s.calls j).counting := by
  apply update_same Call.counting
  have whole : s.calls k = ⟨(s.calls k).request,some old⟩ := by rw [← here]
  rw [whole]
  exact same

-- What a job that is counting sees: it is the only one.
theorem counting_mine {old new : JobPc φ} (exclusive : Exclusive s) (ready : (s.calls k).job = some old) (live : old ≠ .finished)
    {j : Nat} {read : Option Nat} (here : ((s.withJob k new).calls j).counting = some read) :
    Call.counting (⟨(s.calls k).request,some new⟩ : Call φ) = some read := by
  by_cases same : j = k
  · rw [same,withJob,update_self] at here
    exact here
  · rw [withJob,update_other _ same,counting_alone exclusive (holding_live ready live) same] at here
    cases here

theorem counting_now {new : JobPc φ} (nobody : ∀ j, ((s.withJob k new).calls j).counting = none) :
    Call.counting (⟨(s.calls k).request,some new⟩ : Call φ) = none := by
  have mine := nobody k
  rw [withJob,update_self] at mine
  exact mine

theorem counted_put (exclusive : Exclusive s) (counted : Counted s) {frame : φ} (ready : (s.calls k).job = some (.captured frame)) :
    Counted ((s.withJob k (.blobPut frame)).emit ⟨k,.put frame,.returned⟩) := by
  have before : puts s.effects = s.captureCount := by
    apply counted.settled
    intro j
    by_cases here : j = k
    · simp [here,Call.counting,ready]
    · exact counting_alone exclusive (holding_live ready (by simp)) here
  refine ⟨?_,?_,counted.reads,counted.bounded⟩
  · intro nobody
    cases counting_now nobody
  · intro j read here
    have mine := counting_mine exclusive ready (by simp) here
    cases mine
    refine ⟨?_,fun n found => by cases found⟩
    change puts (s.effects ++ [_]) = s.captureCount + 1
    rw [puts_snoc,before]
    rfl

theorem counted_load (exclusive : Exclusive s) (counted : Counted s) {frame : φ} (ready : (s.calls k).job = some (.blobPut frame)) :
    Counted (s.withJob k (.loaded frame s.captureCount)) := by
  have before := (counted.pending k none (by simp [Call.counting,ready])).1
  refine ⟨?_,?_,counted.reads,counted.bounded⟩
  · intro nobody
    cases counting_now nobody
  · intro j read here
    have mine := counting_mine exclusive ready (by simp) here
    cases mine
    exact ⟨before,fun n found => by cases found; rfl⟩

theorem counted_store (exclusive : Exclusive s) (counted : Counted s) {frame : φ} {count : Nat}
    (ready : (s.calls k).job = some (.loaded frame count)) : Counted {s.withJob k (.counted frame) with captureCount := count + 1} := by
  obtain ⟨before,read⟩ := counted.pending k (some count) (by simp [Call.counting,ready])
  have latest := read count rfl
  refine ⟨?_,?_,counted.reads,?_⟩
  · intro _
    change puts s.effects = count + 1
    rw [before,latest]
  · intro j read here
    cases counting_mine exclusive ready (by simp) here
  · intro n member
    have bound := counted.bounded n member
    change n ≤ count + 1
    omega

theorem counted_heartbeat (counted : Counted s) : Counted {s with heartbeats := s.heartbeats ++ [s.captureCount]} := by
  refine ⟨counted.settled,counted.pending,?_,?_⟩
  · apply List.pairwise_append.mpr
    refine ⟨counted.reads,List.pairwise_singleton _ _,?_⟩
    intro n member last here
    rw [List.mem_singleton.mp here]
    exact counted.bounded n member
  · intro n member
    rcases List.mem_append.mp member with earlier | last
    · exact counted.bounded n earlier
    · exact Nat.le_of_eq (List.mem_singleton.mp last)

theorem counted_moves (exclusive : Exclusive s) (counted : Counted s) (moved : Moves s t) : Counted t := by
  cases moved with
  | within k call alike => exact counted_same counted rfl rfl rfl (update_same Call.counting alike.counting)
  | acquire k free entered => exact counted_same counted rfl rfl rfl (update_same Call.counting rfl)
  | put k frame ready => exact counted_put exclusive counted ready
  | putRaised k frame ready => exact counted_same counted rfl rfl (puts_snoc _ _) (counting_job ready rfl)
  | load k frame ready => exact counted_load exclusive counted ready
  | store k frame count ready => exact counted_store exclusive counted ready
  | publish k frame outcome ready => exact counted_same counted rfl rfl (puts_snoc _ _) (counting_job ready rfl)
  | release k ready => exact counted_same counted rfl rfl rfl (counting_job ready rfl)
  | heartbeat => exact counted_heartbeat counted

structure Orderly (s : PiDslrRuntime φ) : Prop where
  coherent : ∀ k, (s.calls k).Coherent
  exclusive : Exclusive s
  ordered : Ordered s
  counted : Counted s

theorem initial_orderly (settings : Settings) (native : Bool) : Orderly (initial settings native : PiDslrRuntime φ) := by
  refine ⟨fun _ => rfl,⟨LockOwner.owned_free fun _ => rfl,List.nodup_nil,?_,?_⟩,⟨Turns.inTurns_nil,fun _ => rfl⟩,⟨fun _ => rfl,?_,.nil,?_⟩⟩
  · intro k; simp [initial,Call.taken]
  · intro k held; cases held
  · intro k read here; cases here
  · intro n member; cases member

theorem orderly_step (orderly : Orderly s) (step : s.advance event = some t) : Orderly t := by
  have moved := advance_moves orderly.coherent step
  exact ⟨coherent_moves orderly.coherent moved,exclusive_moves orderly.coherent orderly.exclusive moved,
    ordered_moves orderly.coherent orderly.exclusive orderly.ordered moved,
    counted_moves orderly.exclusive orderly.counted moved⟩

theorem complete_of_footprint {call : Call φ} {own : List (Effect φ)} (footprint : Footprint k call own) : Complete k own := by
  unfold Footprint at footprint
  split at footprint
  · exact .inl footprint
  · exact .inl footprint
  · exact .inl footprint
  · exact .inl footprint
  · rename_i frame _; exact .inr ⟨frame,.inr (.inl footprint)⟩
  · rename_i frame _ _; exact .inr ⟨frame,.inr (.inl footprint)⟩
  · rename_i frame _; exact .inr ⟨frame,.inr (.inl footprint)⟩
  · exact footprint
  · exact footprint

-- At most one call is between taking and giving back the lock; requests are
-- answered after what was done for them; effects come in whole blocks, in the
-- order of acceptance; and a free lock means a settled count.
structure Serialised (s : PiDslrRuntime φ) : Prop where
  alone : ∀ j k, (s.calls j).holding = true → (s.calls k).holding = true → j = k
  answers : ∀ k response, (s.calls k).request = .answered response → (response.success = true ↔ (s.calls k).job.isSome = true)
  jobs : ∀ k, (s.calls k).job.isSome = true →
    (∃ id, (s.calls k).request = .started id) ∨ ∃ response, (s.calls k).request = .answered response ∧ response.success = true
  distinct : s.accepted.Nodup
  order : Turns.InTurns Effect.call s.accepted s.effects
  blocks : ∀ k, Complete k (Turns.own Effect.call k s.effects)
  count : s.captureLock = false → s.captureCount = puts s.effects
  reads : s.heartbeats.Pairwise (· ≤ ·)

theorem serialised_of_orderly (orderly : Orderly s) : Serialised s := by
  refine ⟨orderly.exclusive.owned.alone,?_,?_,orderly.exclusive.distinct,orderly.ordered.turns,?_,?_,orderly.counted.reads⟩
  · intro k response here
    have coherent := orderly.coherent k
    unfold Call.Coherent at coherent
    rw [here] at coherent
    rw [coherent]
  · intro k running
    have coherent := orderly.coherent k
    unfold Call.Coherent at coherent
    split at coherent
    · rename_i id here; exact .inl ⟨id,here⟩
    · rename_i response here; exact .inr ⟨response,here,coherent.trans running⟩
    · rw [running] at coherent; cases coherent
  · intro k; exact complete_of_footprint (orderly.ordered.footprint k)
  · intro free
    have owned := orderly.exclusive.owned
    rw [free] at owned
    symm
    apply orderly.counted.settled
    intro k
    cases here : (s.calls k).counting with
    | none => rfl
    | some read =>
      have held := holding_of_counting here
      rw [owned.nobody k] at held
      cases held

-- The steps of a request that ends up refused: it comes in, and it is refused.
def Refusal (s : PiDslrRuntime φ) (event : Event φ) (t : PiDslrRuntime φ) : Prop :=
  (∃ k outcome, event = .enter k outcome) ∨
  ∃ k response, (s.calls k).request ≠ .answered response ∧ (t.calls k).request = .answered response ∧ response.success = false

def QuietRefusals (s : PiDslrRuntime φ) (event : Event φ) : Prop :=
  ∀ t, s.advance event = some t → Refusal s event t →
    t.captureLock = s.captureLock ∧ t.captureCount = s.captureCount ∧ ∀ j, (t.calls j).job = (s.calls j).job

theorem withRequest_frame (request : RequestPc) : (s.withRequest k request).captureLock = s.captureLock ∧
    (s.withRequest k request).captureCount = s.captureCount ∧ ∀ j, ((s.withRequest k request).calls j).job = (s.calls j).job :=
  ⟨rfl,rfl,update_same Call.job rfl⟩

theorem refusal_step (step : s.advance event = some t) {k : Nat} {response : CaptureResponse}
    (before : (s.calls k).request ≠ .answered response) (after : (t.calls k).request = .answered response)
    (refused : response.success = false) : t = s.withRequest k (.answered (busyResponse s.settings)) := by
  rcases request_step step k with same | moved
  · exact absurd (same.symm.trans after) before
  · rw [after] at moved
    cases moved with
    | refused locked =>
      dsimp only [advance] at step
      split at step
      · cases step; rfl
      · rename_i free; rw [locked] at free; cases free
      · cases step
    | answered id => cases refused

theorem quiet_refusals (s : PiDslrRuntime φ) (event : Event φ) : QuietRefusals s event := by
  intro t step refusal
  rcases refusal with ⟨k,outcome,rfl⟩ | ⟨k,response,before,after,refused⟩
  · dsimp only [advance] at step
    split at step
    · cases step; exact withRequest_frame _
    · cases step; exact withRequest_frame _
    · cases step
  · rw [refusal_step step before after refused]
    exact withRequest_frame _

theorem captures_serialised (settings : Settings) (native : Bool) (events : List (Event φ)) :
    Runs.Throughout advance Serialised (initial settings native) events ∧
      Runs.Along advance QuietRefusals (initial settings native) events := by
  refine ⟨?_,?_⟩
  · intro done rest t split ran
    apply serialised_of_orderly
    exact Runs.run_invariant Orderly (fun _ _ _ orderly step => orderly_step orderly step) (initial_orderly settings native) ran
  · intro done event rest t split ran
    exact quiet_refusals t event

end ZenohDslr.PiRuntime.PiDslrRuntime
