import ZenohDslr.ParameterServices
import ZenohDslr.Runs
namespace ZenohDslr.Picoparams
open Attempts Runs

-- The endpoints of the rows in turn, numbered from `n`.
def numbered : Nat → List ParamService → List Endpoint
  | _,[] => []
  | n,row :: rest => ⟨n,.service row⟩ :: numbered (n + 1) rest

theorem numbered_kind {n : Nat} {rows : List ParamService} {endpoint : Endpoint} (inside : endpoint ∈ numbered n rows) :
    ∃ row ∈ rows, endpoint.kind = .service row := by
  induction rows generalizing n with
  | nil => cases inside
  | cons row rest ih =>
    rcases List.mem_cons.mp inside with rfl | behind
    · exact ⟨row,List.mem_cons_self,rfl⟩
    · obtain ⟨other,there,same⟩ := ih behind
      exact ⟨other,List.mem_cons_of_mem _ there,same⟩

theorem numbered_none {n : Nat} {rows : List ParamService} {row : ParamService} (absent : row ∉ rows) :
    (numbered n rows).filter (fun endpoint => endpoint.kind = .service row) = [] := by
  rw [List.filter_eq_nil_iff]
  intro endpoint inside own
  obtain ⟨other,there,same⟩ := numbered_kind inside
  have equal : other = row := by simpa [same] using own
  exact absent (equal ▸ there)

theorem numbered_one {n : Nat} {rows : List ParamService} {row : ParamService} (distinct : rows.Nodup) (inside : row ∈ rows) :
    ((numbered n rows).filter fun endpoint => endpoint.kind = .service row).length = 1 := by
  induction rows generalizing n with
  | nil => cases inside
  | cons first rest ih =>
    obtain ⟨fresh,tail⟩ := List.nodup_cons.mp distinct
    rcases List.mem_cons.mp inside with rfl | behind
    · simp [numbered,numbered_none fresh]
    · have apart : first ≠ row := fun same => fresh (same ▸ behind)
      simpa [numbered,apart] using ih tail behind

-- Names and endpoints in step: a name finds the endpoint of its own row.
theorem numbered_found {n : Nat} {rows : List ParamService} {row : ParamService} (distinct : (rows.map ParamService.name).Nodup)
    (inside : row ∈ rows) : ∃ endpoint ∈ numbered n rows, endpoint.kind = .service row ∧
      ((numbered n rows).zip rows).find? (fun pair => pair.2.name = row.name) = some (endpoint,row) := by
  induction rows generalizing n with
  | nil => cases inside
  | cons first rest ih =>
    obtain ⟨fresh,tail⟩ := List.nodup_cons.mp distinct
    rcases List.mem_cons.mp inside with rfl | behind
    · exact ⟨⟨n,.service row⟩,List.mem_cons_self,rfl,by simp [numbered]⟩
    · have apart : first.name ≠ row.name := fun same => fresh (same ▸ List.mem_map_of_mem behind)
      obtain ⟨endpoint,there,own,found⟩ := ih (n := n + 1) tail behind
      exact ⟨endpoint,List.mem_cons_of_mem _ there,own,by simpa [numbered,apart] using found⟩

namespace ParameterServices
variable {self next : ParameterServices} {call : StartCall}

def withServices (self : ParameterServices) (rows : List ParamService) : ParameterServices :=
  {self with
    services := self.services ++ numbered self.created.length rows
    created := self.created ++ numbered self.created.length rows
    live := self.live ++ numbered self.created.length rows}

def withEventPub (self : ParameterServices) (publisher : Option Endpoint) : ParameterServices :=
  {self with
    eventPub := publisher
    created := self.created ++ publisher.toList
    live := self.live ++ publisher.toList}

-- The endpoint of the row whose types could not be repaired.
def withStray (self : ParameterServices) : Option ParamService → ParameterServices
  | none => self
  | some row =>
    {self with
      created := self.created ++ [⟨self.created.length,.service row⟩]
      live := self.live ++ [⟨self.created.length,.service row⟩]
      strays := self.strays ++ [⟨self.created.length,.service row⟩]}

def Creates (call : StartCall) (row : ParamService) : Prop := call.serviceServer row = .ok () ∧ call.repairTypes row = .ok ()

theorem withServices_nil : self.withServices [] = self := by simp [withServices,numbered]

theorem withServices_cons (row : ParamService) (rest : List ParamService) :
    (self.withServices [row]).withServices rest = self.withServices (row :: rest) := by
  simp [withServices,numbered]

theorem createService_ok {row : ParamService} (creates : Creates call row) : createService call row self =
    .ok ⟨self.created.length,.service row⟩
      {self with
        created := self.created ++ [⟨self.created.length,.service row⟩]
        live := self.live ++ [⟨self.created.length,.service row⟩]} := by
  simp only [createService,bind_apply,creates.1,creates.2,perform_ok,createEndpoint,get_apply,modify_apply,pure_apply]

-- A call that raises leaves nothing, or an endpoint behind it.
theorem createService_error {row : ParamService} (raises : ¬ Creates call row) : ∃ exc stray, (∀ other ∈ stray, other = row) ∧
    createService call row self = .error exc (self.withStray stray) := by
  cases built : call.serviceServer row with
  | error exc =>
    refine ⟨exc,none,fun _ absent => (by cases absent),?_⟩
    simp only [createService,bind_apply,built,perform_error,withStray]
  | ok _ =>
    cases repaired : call.repairTypes row with
    | ok _ => exact absurd ⟨built,repaired⟩ raises
    | error exc =>
      refine ⟨exc,some row,fun _ same => (by cases same; rfl),?_⟩
      simp only [createService,bind_apply,built,repaired,perform_ok,createEndpoint,get_apply,modify_apply,pure_apply,throw_apply,
        withStray]

theorem createServices_cons {row : ParamService} (creates : Creates call row) (rest : List ParamService) :
    createServices call (row :: rest) self = createServices call rest (self.withServices [row]) := by
  simp only [createServices,bind_apply,createService_ok creates,modify_apply]
  rfl

-- The loop gets through all rows, or stops behind the ones that came before the
-- first that raises.
theorem createServices_all {rows : List ParamService} (created : ∀ row ∈ rows, Creates call row) :
    createServices call rows self = .ok () (self.withServices rows) := by
  induction rows generalizing self with
  | nil => rw [withServices_nil]; rfl
  | cons row rest ih =>
    rw [createServices_cons (created row List.mem_cons_self),ih (fun other inside => created other (List.mem_cons_of_mem _ inside)),
      withServices_cons]

theorem createServices_some {rows : List ParamService} (raised : ¬ ∀ row ∈ rows, Creates call row) :
    ∃ exc done stray, done <+: rows ∧ (∀ row ∈ stray, row ∈ rows) ∧
      createServices call rows self = .error exc ((self.withServices done).withStray stray) := by
  induction rows generalizing self with
  | nil => exact absurd (fun row inside => by cases inside) raised
  | cons row rest ih =>
    by_cases first : Creates call row
    · have later : ¬ ∀ other ∈ rest, Creates call other := by
        intro all
        apply raised
        intro other inside
        rcases List.mem_cons.mp inside with rfl | behind
        · exact first
        · exact all other behind
      obtain ⟨exc,done,stray,part,own,ran⟩ := @ih (self.withServices [row]) later
      refine ⟨exc,row :: done,stray,List.cons_prefix_cons.mpr ⟨rfl,part⟩,fun other inside => List.mem_cons_of_mem _ (own other inside),?_⟩
      rw [createServices_cons first,ran,withServices_cons]
    · obtain ⟨exc,stray,own,ran⟩ := @createService_error self call row first
      refine ⟨exc,[],stray,List.nil_prefix,fun other inside => ?_,?_⟩
      · rw [own other inside]
        exact List.mem_cons_self
      · rw [withServices_nil]
        simp only [createServices,bind_apply,ran]

theorem withEventPub_none (quiet : self.eventPub = none) : self.withEventPub none = self := by
  cases self
  simp only at quiet
  simp [withEventPub,quiet]

theorem createEventPub_spec (call : StartCall) (quiet : self.eventPub = none) : ∃ publisher,
    (∀ endpoint, publisher = some endpoint → endpoint.kind = .parameterEvents) ∧
      createEventPub call self = .ok () (self.withEventPub publisher) := by
  simp only [createEventPub,bind_apply,get_apply]
  split
  · cases made : call.createPublisher with
    | error exc =>
      refine ⟨none,fun _ absent => (by cases absent),?_⟩
      rw [withEventPub_none quiet]
      rfl
    | ok _ =>
      refine ⟨some ⟨self.created.length,.parameterEvents⟩,fun _ same => (by cases same; rfl),rfl⟩
  · refine ⟨none,fun _ absent => (by cases absent),?_⟩
    rw [withEventPub_none quiet]
    rfl

theorem start_again (call : StartCall) (started : self.started = true) : start call self = .ok () self := by
  simp only [start,bind_apply,get_apply,started,if_true,pure_apply]

def Succeeds (call : StartCall) : Prop := call.imports = .ok () ∧ ∀ row ∈ paramServices, Creates call row

theorem start_succeeds (idle : self.started = false) (quiet : self.eventPub = none) (succeeds : Succeeds call) :
    ∃ publisher, (∀ endpoint, publisher = some endpoint → endpoint.kind = .parameterEvents) ∧
      start call self = .ok () {(self.withServices paramServices).withEventPub publisher with started := true} := by
  obtain ⟨publisher,own,ran⟩ := @createEventPub_spec (self.withServices paramServices) call quiet
  refine ⟨publisher,own,?_⟩
  simp only [start,bind_apply,get_apply,idle,Bool.false_eq_true,if_false,succeeds.1,perform_ok,createServices_all succeeds.2,ran,modify_apply]

theorem start_fails (idle : self.started = false) (fails : ¬ Succeeds call) : ∃ exc done stray, done <+: paramServices ∧
    (∀ row ∈ stray, row ∈ paramServices) ∧ start call self = .error exc ((self.withServices done).withStray stray) := by
  cases imported : call.imports with
  | error exc =>
    refine ⟨exc,[],none,List.nil_prefix,fun _ absent => (by cases absent),?_⟩
    rw [withServices_nil]
    simp only [start,bind_apply,get_apply,idle,Bool.false_eq_true,if_false,imported,perform_error,withStray]
  | ok _ =>
    have raised : ¬ ∀ row ∈ paramServices, Creates call row := fun all => fails ⟨imported,all⟩
    obtain ⟨exc,done,stray,part,own,ran⟩ := @createServices_some self call paramServices raised
    refine ⟨exc,done,stray,part,own,?_⟩
    simp only [start,bind_apply,get_apply,idle,Bool.false_eq_true,if_false,imported,perform_ok,ran]

theorem closeServices_live (close : Endpoint → Except String Unit) (services : List Endpoint) {rest : List Endpoint}
    (alive : self.live.Perm (services ++ rest)) :
    ∃ live, live.Perm rest ∧ closeServices close services self = .ok () {self with live} := by
  induction services generalizing self with
  | nil => exact ⟨self.live,alive,rfl⟩
  | cons srv others ih =>
    have shorter : (self.live.erase srv).Perm (others ++ rest) := by
      have erased := alive.erase srv
      rwa [List.cons_append,List.erase_cons_head] at erased
    obtain ⟨live,left,ran⟩ := @ih {self with live := self.live.erase srv} shorter
    refine ⟨live,left,?_⟩
    simp only [closeServices,bind_apply,modify_apply,guarded]
    cases close srv <;> exact ran

theorem closeEventPub_live (close : Endpoint → Except String Unit) {rest : List Endpoint}
    (alive : self.live.Perm (self.eventPub.toList ++ rest)) :
    ∃ live, live.Perm rest ∧ closeEventPub close self = .ok () {self with live,eventPub := none} := by
  cases publisher : self.eventPub with
  | none =>
    rw [publisher] at alive
    refine ⟨self.live,alive,?_⟩
    have same : self = {self with eventPub := none} := by rw [← publisher]
    simp only [closeEventPub,bind_apply,get_apply,publisher,pure_apply]
    exact congrArg _ same
  | some endpoint =>
    have erased := alive.erase endpoint
    rw [publisher,Option.toList_some,List.cons_append,List.erase_cons_head] at erased
    refine ⟨self.live.erase endpoint,erased,?_⟩
    simp only [closeEventPub,bind_apply,get_apply,publisher,modify_apply,guarded]
    cases close endpoint <;> rfl

-- A stop leaves open what it does not find: the strays.
theorem stop_spec (close : Endpoint → Except String Unit)
    (alive : self.live.Perm (self.services ++ (self.eventPub.toList ++ self.strays))) : ∃ live, live.Perm self.strays ∧
      stop close self = .ok () {self with services := [],live,eventPub := none,started := false} := by
  obtain ⟨reached,behind,first⟩ := closeServices_live close self.services alive
  obtain ⟨live,left,second⟩ := @closeEventPub_live {self with services := [],live := reached} close self.strays behind
  refine ⟨live,left,?_⟩
  simp only [stop,bind_apply,get_apply,first,modify_apply,second]

-- What every run keeps, whichever calls raise.
structure Sound (server : ParameterServices) : Prop where
  live : server.live.Perm (server.services ++ (server.eventPub.toList ++ server.strays))
  made : ∀ endpoint ∈ server.live, endpoint ∈ server.created
  services : ∀ endpoint ∈ server.services ++ server.strays, ∃ row ∈ paramServices, endpoint.kind = .service row
  eventPub : ∀ endpoint, server.eventPub = some endpoint → endpoint.kind = .parameterEvents
  quiet : server.started = false → server.eventPub = none
  running : server.phase = .running ↔ server.started = true

-- The service is answered with its own response class, and has one endpoint.
structure Served (server : ParameterServices) (row : ParamService) : Prop where
  answers : ∃ endpoint ∈ server.created, endpoint.kind = .service row ∧ server.responseClass row.name = .ok endpoint.responseClass?
  single : (server.live.filter fun endpoint => endpoint.kind = .service row).length = 1

structure Kept (server : ParameterServices) : Prop where
  served : server.phase = .running → ∀ row ∈ paramServices, Served server row
  closed : server.phase = .stopped → server.live = []

-- No start gets through all its calls on top of what a failed one has left, and
-- no stop comes behind a `create_service` that raised with its endpoint made.
def FromNothing (self : ParameterServices) : Call → Prop
  | .start attempt => self.started = false → Succeeds attempt → self.services = [] ∧ self.strays = []
  | .stop _ => self.strays = []

theorem names_distinct : (paramServices.map ParamService.name).Nodup := by decide

theorem Sound.quiet_live (sound : Sound self) (quiet : self.eventPub = none) : self.live.Perm (self.services ++ self.strays) := by
  simpa [quiet] using sound.live

theorem withServices_sound {rows : List ParamService} (sound : Sound self) (part : rows <+: paramServices)
    (quiet : self.eventPub = none) (phase : Phase) (idle : self.started = false) (failed : phase ≠ .running) :
    Sound {self.withServices rows with phase} := by
  have alive := sound.quiet_live quiet
  refine ⟨?_,?_,?_,?_,fun _ => quiet,?_⟩
  · have moved : (self.live ++ numbered self.created.length rows).Perm
        (self.services ++ numbered self.created.length rows ++ self.strays) := by
      refine (alive.append_right _).trans ?_
      rw [List.append_assoc,List.append_assoc]
      exact List.perm_append_comm.append_left _
    simpa [withServices,quiet] using moved
  · intro endpoint inside
    rcases List.mem_append.mp inside with old | new
    · exact List.mem_append_left _ (sound.made endpoint old)
    · exact List.mem_append_right _ new
  · intro endpoint inside
    rcases List.mem_append.mp inside with row | stray
    · rcases List.mem_append.mp row with old | new
      · exact sound.services endpoint (List.mem_append_left _ old)
      · obtain ⟨row,there,own⟩ := numbered_kind new
        exact ⟨row,part.subset there,own⟩
    · exact sound.services endpoint (List.mem_append_right _ stray)
  · intro endpoint full
    have absent : (none : Option Endpoint) = some endpoint := quiet.symm.trans full
    cases absent
  · exact ⟨fun run => absurd run failed,fun started => (by rw [show self.started = true from started] at idle; cases idle)⟩

theorem withStray_sound {stray : Option ParamService} (sound : Sound self) (own : ∀ row ∈ stray, row ∈ paramServices) :
    Sound (self.withStray stray) := by
  cases stray with
  | none => exact sound
  | some row =>
    refine ⟨?_,?_,?_,sound.eventPub,sound.quiet,sound.running⟩
    · have longer := sound.live.append_right [⟨self.created.length,.service row⟩]
      simpa [withStray] using longer
    · intro endpoint inside
      rcases List.mem_append.mp inside with old | new
      · exact List.mem_append_left _ (sound.made endpoint old)
      · exact List.mem_append_right _ new
    · intro endpoint inside
      rcases List.mem_append.mp inside with service | stray
      · exact sound.services endpoint (List.mem_append_left _ service)
      · rcases List.mem_append.mp stray with old | new
        · exact sound.services endpoint (List.mem_append_right _ old)
        · rw [List.mem_singleton.mp new]
          exact ⟨row,own row rfl,rfl⟩

theorem started_sound {publisher : Option Endpoint} (sound : Sound self) (quiet : self.eventPub = none)
    (own : ∀ endpoint, publisher = some endpoint → endpoint.kind = .parameterEvents) :
    Sound {(self.withServices paramServices).withEventPub publisher with started := true,phase := .running} := by
  have alive := sound.quiet_live quiet
  refine ⟨?_,?_,?_,own,fun idle => (by cases idle),⟨fun _ => rfl,fun _ => rfl⟩⟩
  · refine ((alive.append_right (numbered self.created.length paramServices)).append_right publisher.toList).trans ?_
    simp only [withServices,withEventPub,List.append_assoc]
    refine List.Perm.append_left _ ?_
    refine List.perm_append_comm.trans ?_
    rw [List.append_assoc]
  · intro endpoint inside
    rcases List.mem_append.mp inside with old | new
    · rcases List.mem_append.mp old with older | row
      · exact List.mem_append_left _ (List.mem_append_left _ (sound.made endpoint older))
      · exact List.mem_append_left _ (List.mem_append_right _ row)
    · exact List.mem_append_right _ new
  · intro endpoint inside
    rcases List.mem_append.mp inside with row | stray
    · rcases List.mem_append.mp row with old | new
      · exact sound.services endpoint (List.mem_append_left _ old)
      · exact numbered_kind new
    · exact sound.services endpoint (List.mem_append_right _ stray)

-- One endpoint per service exactly when none was open before: a leftover stays
-- open beside the new endpoint of its row.
theorem started_kept {publisher : Option Endpoint} (sound : Sound self) (quiet : self.eventPub = none)
    (own : ∀ endpoint, publisher = some endpoint → endpoint.kind = .parameterEvents) :
    Kept {(self.withServices paramServices).withEventPub publisher with started := true,phase := .running} ↔
      self.services = [] ∧ self.strays = [] := by
  have alive := sound.quiet_live quiet
  have distinct : paramServices.Nodup := List.Nodup.of_map _ names_distinct
  have silent : ∀ row : ParamService, publisher.toList.filter (fun endpoint => endpoint.kind = .service row) = [] := by
    intro row
    rw [List.filter_eq_nil_iff]
    intro endpoint inside
    have kind := own endpoint (Option.mem_toList.mp inside)
    simp [kind]
  constructor
  · intro kept
    cases left : self.services ++ self.strays with
    | nil => exact List.append_eq_nil_iff.mp left
    | cons endpoint rest =>
      have inside : endpoint ∈ self.services ++ self.strays := by simp [left]
      obtain ⟨row,there,kind⟩ := sound.services endpoint inside
      have single := (kept.served rfl row there).single
      have one : ((numbered self.created.length paramServices).filter fun endpoint => endpoint.kind = .service row).length = 1 :=
        numbered_one distinct there
      have older : 0 < (self.live.filter fun endpoint => endpoint.kind = .service row).length := by
        refine List.length_pos_of_mem (a := endpoint) ?_
        exact List.mem_filter.mpr ⟨alive.mem_iff.mpr inside,by simp [kind]⟩
      simp only [withServices,withEventPub,List.filter_append,List.length_append,silent,one,List.length_nil] at single
      omega
  · rintro ⟨empty,gone⟩
    have closed : self.live = [] := by
      rw [empty,gone] at alive
      exact alive.eq_nil
    refine ⟨fun _ row there => ⟨?_,?_⟩,fun stopped => (by cases stopped)⟩
    · obtain ⟨endpoint,new,kind,found⟩ := numbered_found (n := self.created.length) names_distinct there
      refine ⟨endpoint,?_,kind,?_⟩
      · exact List.mem_append_left _ (List.mem_append_right _ new)
      · simp [responseClass,withServices,withEventPub,empty,found]
    · have one : ((numbered self.created.length paramServices).filter fun endpoint => endpoint.kind = .service row).length = 1 :=
        numbered_one distinct there
      simp [withServices,withEventPub,closed,silent,one]

theorem kept_failed {server : ParameterServices} (failed : server.phase = .failed) : Kept server :=
  ⟨fun running => (by rw [failed] at running; cases running),fun stopped => (by rw [failed] at stopped; cases stopped)⟩

theorem stopped_exact (sound : Sound self) (close : Endpoint → Except String Unit) :
    Sound {after (stop close self) with phase := .stopped} ∧
      (Kept {after (stop close self) with phase := .stopped} ↔ self.strays = []) := by
  obtain ⟨live,left,ran⟩ := stop_spec close sound.live
  rw [ran]
  refine ⟨⟨by simpa using left,?_,?_,?_,fun _ => rfl,?_⟩,?_,?_⟩
  · intro endpoint inside
    apply sound.made
    refine sound.live.mem_iff.mpr (List.mem_append_right _ (List.mem_append_right _ ?_))
    exact left.mem_iff.mp inside
  · intro endpoint inside
    exact sound.services endpoint (List.mem_append_right _ (by simpa using inside))
  · intro endpoint full; cases full
  · exact ⟨fun running => (by cases running),fun started => (by cases started)⟩
  · intro kept
    have closed : live = [] := kept.closed rfl
    rw [closed] at left
    exact left.symm.eq_nil
  · intro gone
    rw [gone] at left
    exact ⟨fun running => (by cases running),fun _ => left.eq_nil⟩

theorem advance_exact (sound : Sound self) (call : Call) (step : self.advance call = some next) :
    Sound next ∧ (Kept self → (Kept next ↔ FromNothing self call)) := by
  cases call with
  | stop close =>
    cases step
    have stopped := stopped_exact sound close
    exact ⟨stopped.1,fun _ => stopped.2⟩
  | start attempt =>
    cases idle : self.started with
    | true =>
      simp only [advance,start_again attempt idle,Option.some.injEq] at step
      have running := sound.running.mpr idle
      have same : next = self := by rw [← step,← running]
      rw [same]
      refine ⟨sound,fun kept => ⟨fun _ fresh => ?_,fun _ => kept⟩⟩
      rw [idle] at fresh
      cases fresh
    | false =>
      have quiet := sound.quiet idle
      by_cases succeeds : Succeeds attempt
      · obtain ⟨publisher,own,ran⟩ := start_succeeds idle quiet succeeds
        simp only [advance,ran,Option.some.injEq] at step
        subst step
        refine ⟨started_sound sound quiet own,fun _ => ?_⟩
        rw [started_kept sound quiet own]
        constructor
        · intro empty _ _; exact empty
        · intro fromNothing; exact fromNothing idle succeeds
      · obtain ⟨exc,done,stray,part,own,ran⟩ := start_fails idle succeeds
        simp only [advance,ran,Option.some.injEq] at step
        have moved : next = ({self.withServices done with phase := .failed} : ParameterServices).withStray stray := by
          rw [← step]
          cases stray <;> rfl
        subst moved
        have sorted := withServices_sound sound part quiet .failed idle (by simp)
        refine ⟨withStray_sound sorted own,fun _ => ⟨fun _ _ granted => absurd granted succeeds,fun _ => ?_⟩⟩
        exact kept_failed (by cases stray <;> rfl)

theorem initial_sound (publishEvents : Bool) : Sound (initial publishEvents) ∧ Kept (initial publishEvents) := by
  refine ⟨⟨List.Perm.nil,?_,?_,?_,fun _ => rfl,?_⟩,fun running => (by cases running),fun stopped => (by cases stopped)⟩
  · intro endpoint inside; cases inside
  · intro endpoint inside; cases inside
  · intro endpoint full; cases full
  · exact ⟨fun running => (by cases running),fun started => (by cases started)⟩

theorem advance_total (self : ParameterServices) (call : Call) : ∃ next, self.advance call = some next := by
  cases call with
  | stop close => exact ⟨_,rfl⟩
  | start attempt =>
    simp only [advance]
    cases start attempt self <;> exact ⟨_,rfl⟩

theorem bookkeeping_iff_fromNothing (publishEvents : Bool) (calls : List Call) :
    Throughout advance Kept (initial publishEvents) calls ↔ Along advance FromNothing (initial publishEvents) calls := by
  obtain ⟨last,ran⟩ := run_total advance_total (initial publishEvents) calls
  obtain ⟨sound,kept⟩ := initial_sound publishEvents
  refine throughout_iff_along Sound Kept FromNothing ?_ ?_ sound kept ran
  · intro self call next held step
    exact (advance_exact held call step).1
  · intro self call next held fine step
    exact (advance_exact held call step).2 fine

def everything : StartCall := ⟨.ok (),fun _ => .ok (),fun _ => .ok (),.ok ()⟩

-- The router goes away behind the first service.
def firstOnly : StartCall :=
  {everything with serviceServer := fun row => if row.name = "list_parameters" then .ok () else .error "no route to router"}

-- A start that fails behind the first service and a start that succeeds: the
-- names are answered one row too early, and two list_parameters services are up.
theorem retried_start_misaligned : ¬ ∀ calls, Throughout advance Kept (initial true) calls := by
  intro always
  have kept := always [.start firstOnly,.start everything] [.start firstOnly,.start everything] [] _ rfl rfl
  have single := (kept.served rfl ⟨"list_parameters","rcl_interfaces/srv/ListParameters","_handle_list"⟩ (by decide)).single
  exact absurd single (by decide)

end ParameterServices
end ZenohDslr.Picoparams
