import ZenohDslr.RequestEffects
namespace ZenohDslr.Picoparams.ParameterServer
open Rcl DictParameterBackend

-- What an event tells an observer: its changed parameters, decoded.
def listed (event : ParameterEventMsg) : List (String × ParameterValue) := event.changedParameters.filterMap decoded

def observe (view : String → Option ParameterValue) (event : ParameterEventMsg) : String → Option ParameterValue :=
  Writes.assignAll view (listed event)

def mirror (initial : String → Option ParameterValue) (events : List ParameterEventMsg) : String → Option ParameterValue :=
  events.foldl observe initial

-- The observer that started from `initial` holds what the backend stores.
def Mirrored (initial : String → Option ParameterValue) (self : ParameterServer) : Prop :=
  mirror initial self.published = self.backend.valueOf

section Emitting
variable {self next : ParameterServer} {pub : EventPublisher} {changed : List (String × ParameterValue)}
  {initial : String → Option ParameterValue}

theorem parameterEvent_total (fqn : String) (encodable : ∀ write ∈ changed, ∃ msg, paramValueToMsg write.2 = .ok msg) :
    ∃ event, parameterEvent fqn changed = .ok event ∧ listed event = changed := by
  have total : ∀ write ∈ changed, ∃ msg, parameterMsg write.1 write.2 = .ok msg := by
    intro write member
    obtain ⟨msg,encoded⟩ := encodable write member
    exact ⟨⟨write.1,msg⟩,Fallible.bind_ok.mpr ⟨msg,encoded,rfl⟩⟩
  obtain ⟨messages,mapped⟩ := Fallible.mapM_total total
  refine ⟨_,Fallible.bind_ok.mpr ⟨messages,mapped,rfl⟩,?_⟩
  change messages.filterMap decoded = changed
  have related := Fallible.mapM_ok.mp mapped
  clear mapped total encodable
  induction related with
  | nil => rfl
  | @cons write message _ _ here _ ih =>
    obtain ⟨msg,encoded,whole⟩ := Fallible.bind_ok.mp here
    cases whole
    have read : decoded ⟨write.1,msg⟩ = some write := by
      simp [decoded,fromMsg_toMsg encoded,Except.toOption]
    rw [List.filterMap_cons_some read,ih]

-- A publisher that never fails sends exactly one event, listing the changes.
theorem emitEvent_published (publisher : self.eventPub = some pub) (reliable : ∀ sent event, pub.raises sent event = false)
    (encodable : ∀ write ∈ changed, ∃ msg, paramValueToMsg write.2 = .ok msg) :
    ∃ event, (self.emitEvent changed).published = self.published ++ [event] ∧ listed event = changed := by
  obtain ⟨event,built,lists⟩ := parameterEvent_total self.nodeFqn encodable
  refine ⟨event,?_,lists⟩
  simp [emitEvent,publisher,built,reliable]

theorem emitEvent_eventPub : (self.emitEvent changed).eventPub = self.eventPub := by
  unfold emitEvent
  split
  · rfl
  · split
    · rfl
    · split <;> rfl

theorem mirror_snoc (events : List ParameterEventMsg) (event : ParameterEventMsg) :
    mirror initial (events ++ [event]) = Writes.assignAll (mirror initial events) (listed event) := by
  rw [mirror,List.foldl_append]; rfl

end Emitting

section Streams
variable [Python] {self next : ParameterServer} {pub : EventPublisher} {params : List ParameterMsg}
  {initial : String → Option ParameterValue}

def setStep (self : ParameterServer) (params : List ParameterMsg) : Option ParameterServer := some (self.handleSet params).2

-- Every event of a request lists exactly the assignments that the request stored,
-- and they lead from the backend before it to the backend after it.
def Faithful (self : ParameterServer) (params : List ParameterMsg) : Prop :=
  ∃ fresh, (self.handleSet params).2.published = self.published ++ fresh ∧
    ∀ event ∈ fresh, listed event = stored self.backend params ∧ (∀ write ∈ listed event, (self.backend.params.get? write.1).isSome = true) ∧
      (self.handleSet params).2.backend = self.backend.assignAll (listed event)

-- Nothing cuts the loop short, or what it stored before the cut was already held.
def Uncut (self : ParameterServer) (params : List ParameterMsg) : Prop :=
  (∀ p ∈ params, (judge self.backend p).error? = none) ∨
  ∀ name value, Writes.last? (stored self.backend params) name = some value → self.backend.valueOf name = some value

theorem stored_encodable {backend : DictParameterBackend} :
    ∀ write ∈ stored backend params, ∃ msg, paramValueToMsg write.2 = .ok msg := by
  intro write member
  obtain ⟨p,_,accepted⟩ := List.mem_filterMap.mp member
  exact fromMsg_encodable (acceptedWrite_some accepted).2.1

theorem handleSet_state : (self.handleSet params).2 = (self.applySets params).2 := rfl

theorem handleSet_eventPub : (self.handleSet params).2.eventPub = self.eventPub := by
  rw [handleSet_state]
  cases outcome : failure self.backend params with
  | error e => rw [applySets_failed outcome]
  | ok through =>
    cases through
    rw [applySets_through outcome]
    dsimp only
    split
    · rfl
    · rw [emitEvent_eventPub]

theorem handleSet_cut {e : PyError} (cut : failure self.backend params = .error e) :
    (self.handleSet params).2.published = self.published := by
  rw [handleSet_state,applySets_failed cut]

-- A request that runs to its end publishes what it stored, or nothing if it
-- stored nothing.
theorem handleSet_published (publisher : self.eventPub = some pub) (reliable : ∀ sent event, pub.raises sent event = false)
    (through : failure self.backend params = .ok ()) :
    (stored self.backend params = [] ∧ (self.handleSet params).2.published = self.published) ∨
    ∃ event, (self.handleSet params).2.published = self.published ++ [event] ∧ listed event = stored self.backend params := by
  rw [handleSet_state,applySets_through through]
  dsimp only
  split
  · rename_i empty; exact .inl ⟨List.isEmpty_iff.mp empty,rfl⟩
  · right
    exact @emitEvent_published {self with backend := self.backend.assignAll (stored self.backend params)} pub _
      publisher reliable stored_encodable

theorem mirrored_step (publisher : self.eventPub = some pub) (reliable : ∀ sent event, pub.raises sent event = false)
    (same : Mirrored initial self) : Mirrored initial (self.handleSet params).2 ↔ Uncut self params := by
  have values : (self.handleSet params).2.backend.valueOf =
      Writes.assignAll self.backend.valueOf (stored self.backend params) := by
    rw [handleSet_backend]; exact assignAll_value fun write member => stored_declared member
  unfold Mirrored at same ⊢
  rw [values]
  cases outcome : failure self.backend params with
  | error e =>
    rw [handleSet_cut outcome,same]
    constructor
    · intro held; exact .inr ((Writes.assignAll_eq_self _).mp held.symm)
    · intro condition
      rcases condition with readable | held
      · rw [failure_of_decodable readable] at outcome; cases outcome
      · exact ((Writes.assignAll_eq_self _).mpr held).symm
  | ok through =>
    cases through
    refine ⟨fun _ => .inl (readable_of_failure outcome),fun _ => ?_⟩
    rcases handleSet_published publisher reliable outcome with ⟨nothing,quiet⟩ | ⟨event,sent,lists⟩
    · rw [quiet,nothing,same]; rfl
    · rw [sent,mirror_snoc,lists,same]

theorem faithful_step (publisher : self.eventPub = some pub) (reliable : ∀ sent event, pub.raises sent event = false) :
    Faithful self params := by
  cases outcome : failure self.backend params with
  | error e => exact ⟨[],by rw [handleSet_cut outcome,List.append_nil],fun event member => by cases member⟩
  | ok through =>
    cases through
    rcases handleSet_published publisher reliable outcome with ⟨_,quiet⟩ | ⟨event,sent,lists⟩
    · exact ⟨[],by rw [quiet,List.append_nil],fun event member => by cases member⟩
    · refine ⟨[event],sent,?_⟩
      intro other member
      rw [List.mem_singleton.mp member,lists]
      exact ⟨rfl,fun write inside => stored_declared inside,handleSet_backend⟩

-- Over a whole run the stream mirrors the store exactly as long as no request
-- is cut short after it changed something; what is sent is always true.
theorem events_mirror_iff_uncut (fqn : String) (backend : DictParameterBackend) (pub : EventPublisher)
    (reliable : ∀ sent event, pub.raises sent event = false) (requests : List (List ParameterMsg)) :
    (Runs.Throughout setStep (Mirrored backend.valueOf) ⟨fqn,backend,some pub,[]⟩ requests ∧
      Runs.Along setStep Faithful ⟨fqn,backend,some pub,[]⟩ requests) ↔
    Runs.Along setStep Uncut ⟨fqn,backend,some pub,[]⟩ requests := by
  have keeps : ∀ s params t, s.eventPub = some pub → setStep s params = some t → t.eventPub = some pub := by
    intro s params t publisher step
    cases step
    rw [handleSet_eventPub]; exact publisher
  have steps : ∀ s params t, s.eventPub = some pub → Mirrored backend.valueOf s → setStep s params = some t →
      (Mirrored backend.valueOf t ↔ Uncut s params) := by
    intro s params t publisher same step
    cases step
    exact mirrored_step publisher reliable same
  have ran : Runs.run setStep ⟨fqn,backend,some pub,[]⟩ requests = some (Runs.serve handleSet _ requests).2 :=
    Runs.serve_run requests
  have start : Mirrored backend.valueOf ⟨fqn,backend,some pub,[]⟩ := rfl
  have exactly := Runs.throughout_iff_along (fun s => s.eventPub = some pub) (Mirrored backend.valueOf) Uncut
    keeps steps rfl start ran
  constructor
  · intro both; exact exactly.mp both.1
  · intro uncut
    refine ⟨exactly.mpr uncut,?_⟩
    intro done params rest t split reached
    exact faithful_step (Runs.run_invariant (fun s => s.eventPub = some pub) keeps rfl reached) reliable

end Streams

def isoBackend : DictParameterBackend := (init fun _ => {}).declareOwn {name := "iso",value := .native (.int 100)} (.integer 100)

def steadyPublisher : EventPublisher := ⟨fun _ _ => false⟩

theorem events_mirror_iff_uncut_iso :
    (@Runs.Throughout _ _ (@setStep Python.bare) (Mirrored isoBackend.valueOf) ⟨"/camera",isoBackend,some steadyPublisher,[]⟩
        [[⟨"iso",{type := 2,integerValue := 200}⟩],[⟨"focus",{type := 14}⟩]] ∧
      Runs.Along (@setStep Python.bare) (@Faithful Python.bare) ⟨"/camera",isoBackend,some steadyPublisher,[]⟩
        [[⟨"iso",{type := 2,integerValue := 200}⟩],[⟨"focus",{type := 14}⟩]]) ↔
    Runs.Along (@setStep Python.bare) (@Uncut Python.bare) ⟨"/camera",isoBackend,some steadyPublisher,[]⟩
      [[⟨"iso",{type := 2,integerValue := 200}⟩],[⟨"focus",{type := 14}⟩]] :=
  @events_mirror_iff_uncut Python.bare "/camera" isoBackend steadyPublisher (fun _ _ => rfl) _

-- The second entry carries a type code no parameter type has.
def isoThenGarbage : List ParameterMsg := [⟨"iso",{type := 2,integerValue := 200}⟩,⟨"iso",{type := 14}⟩]

theorem undecodable_entry_hides_change :
    ¬ (Runs.Throughout (@setStep Python.bare) (Mirrored isoBackend.valueOf) ⟨"/camera",isoBackend,some steadyPublisher,[]⟩
        [isoThenGarbage] ∧
      Runs.Along (@setStep Python.bare) (@Faithful Python.bare) ⟨"/camera",isoBackend,some steadyPublisher,[]⟩
        [isoThenGarbage]) := by
  intro both
  have mirrored := both.1 [isoThenGarbage] [] _ rfl rfl
  exact absurd (congrFun mirrored "iso") (by decide)

end ZenohDslr.Picoparams.ParameterServer
