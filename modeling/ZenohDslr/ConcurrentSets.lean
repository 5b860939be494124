import ZenohDslr.AtomicSets
import ZenohDslr.Constraints
namespace ZenohDslr.Picoparams
open Rcl DictParameterBackend ParameterServer Runs

inductive SetRequest where
  | plain (params : List ParameterMsg)
  | atomic (params : List ParameterMsg)

-- Where the handler of a request stands: in front of an entry of `_apply_sets`, of
-- the validation or of the commit of `_handle_set_atomic`, or behind its answer.
inductive HandlerPc where
  | applying (rest : List ParameterMsg) (results : List (Bool × String)) (changed : List (String × ParameterValue))
  | previewing (rest : List ParameterMsg) (previews : List (String × ParameterValue))
  | committing (rest previews : List (String × ParameterValue))
  | answered (response : Except PyError Response)

structure Handler where
  request : SetRequest
  pc : HandlerPc

-- Requests to one server, each with a handler on a thread of its own.
structure Serving where
  server : ParameterServer
  handlers : Nat → Option Handler
  -- history: what has been stored, each with the request it was stored for
  log : List (Nat × (String × ParameterValue))

inductive ServingEvent where
  | arrive (k : Nat) (request : SetRequest)
  | turn (k : Nat)

def SetRequest.request : SetRequest → Request
  | .plain params => .setParameters params
  | .atomic params => .setParametersAtomically params

def SetRequest.entry : SetRequest → HandlerPc
  | .plain params => .applying params [] []
  | .atomic params => .previewing params []

structure Turn where
  server : ParameterServer
  pc : HandlerPc
  fresh : List (String × ParameterValue)

def setAnswer (results : List (Bool × String)) : Response := .setParameters (results.map fun result => ⟨result.1,result.2⟩)

variable {p : ParameterMsg} {params rest done : List ParameterMsg} {write : String × ParameterValue}

theorem previewLoop_append {backend : DictParameterBackend} (previews : List (String × ParameterValue))
    (valid : ready backend done = true) : previewLoop backend previews (done ++ rest) = previewLoop backend (previews ++ done.filterMap decoded) rest := by
  induction done generalizing previews with
  | nil => simp
  | cons p done ih =>
    obtain ⟨here,later⟩ := Bool.and_eq_true_iff.mp valid
    obtain ⟨known,readable⟩ := Bool.and_eq_true_iff.mp here
    have present : backend.ref p.name = some p.name := by simp [ref,known]
    obtain ⟨pv,read,_⟩ := Option.map_eq_some_iff.mp (Option.isSome_iff_exists.mp readable).choose_spec
    cases value : paramValueFromMsg (some p.value) with
    | error e => simp [value,Except.toOption] at read
    | ok pv =>
      rw [List.cons_append,previewLoop,value,present]
      dsimp only
      rw [ih _ later]
      simp [decoded,value,Except.toOption]

theorem ready_append {backend : DictParameterBackend} : ready backend (done ++ rest) = (ready backend done && ready backend rest) := by
  simp [ready]

-- What has been stored for one request, in order.
def Serving.own (s : Serving) (k : Nat) : List (String × ParameterValue) := (s.log.filter fun item => item.1 = k).map Prod.snd

theorem Serving.own_fresh (s : Serving) (k j : Nat) (server : ParameterServer) (handlers : Nat → Option Handler) (fresh : List (String × ParameterValue)) :
    Serving.own ⟨server,handlers,s.log ++ fresh.map (k,·)⟩ j = s.own j ++ if k = j then fresh else [] := by
  by_cases here : k = j <;> simp [Serving.own,here,List.filter_map,Function.comp_def]

section Turns
variable [Python]

-- One round of a loop, or what follows it; a call of `set` is not divided.
def ParameterServer.turn (self : ParameterServer) : HandlerPc → Option Turn
  | .applying [] results changed => some ⟨if changed.isEmpty then self else self.emitEvent changed,.answered (.ok (setAnswer results)),[]⟩
  | .applying (p :: rest) results changed =>
    match self.backend.ref p.name with
    | none => some ⟨self,.applying rest (results ++ [(false,"parameter not found")]) changed,[]⟩
    | some handle =>
      match paramValueFromMsg (some p.value) with
      | .error e => some ⟨self,.answered (.error e),[]⟩
      | .ok pv =>
        match self.backend.set handle pv with
        | (.error e,backend) => some ⟨{self with backend},.answered (.error e),[]⟩
        | (.ok (true,reason),backend) =>
          some ⟨{self with backend},.applying rest (results ++ [(true,reason)]) (changed ++ [(p.name,pv)]),[(p.name,pv)]⟩
        | (.ok (false,reason),backend) => some ⟨{self with backend},.applying rest (results ++ [(false,reason)]) changed,[]⟩
  | .previewing [] previews => some ⟨self,.committing previews previews,[]⟩
  | .previewing (p :: rest) previews =>
    match paramValueFromMsg (some p.value) with
    | .error e => some ⟨self,.answered (.error e),[]⟩
    | .ok pv =>
      match self.backend.ref p.name with
      | none => some ⟨self,.answered (.ok (.setParametersAtomically ⟨false,"parameter not found: " ++ p.name⟩)),[]⟩
      | some _ => some ⟨self,.previewing rest (previews ++ [(p.name,pv)]),[]⟩
  | .committing [] previews => some ⟨self.emitEvent previews,.answered (.ok (.setParametersAtomically ⟨true,""⟩)),[]⟩
  | .committing ((name,pv) :: rest) previews =>
    match self.backend.ref name with
    | none => some ⟨self,.answered (.error (.keyError "None")),[]⟩
    | some handle =>
      match self.backend.set handle pv with
      | (.error e,backend) => some ⟨{self with backend},.answered (.error e),[]⟩
      | (.ok (true,_),backend) => some ⟨{self with backend},.committing rest previews,[(name,pv)]⟩
      | (.ok (false,reason),backend) => some ⟨{self with backend},.answered (.ok (.setParametersAtomically ⟨false,reason⟩)),[]⟩
  | .answered _ => none

namespace Serving

def start (server : ParameterServer) : Serving := ⟨server,fun _ => none,[]⟩

def advance (s : Serving) : ServingEvent → Option Serving
  | .arrive k request =>
    match s.handlers k with
    | some _ => none
    | none => some {s with handlers := Function.update s.handlers k (some ⟨request,request.entry⟩)}
  | .turn k =>
    match s.handlers k with
    | none => none
    | some handler =>
      (s.server.turn handler.pc).map fun turn =>
        ⟨turn.server,Function.update s.handlers k (some ⟨handler.request,turn.pc⟩),s.log ++ turn.fresh.map (k,·)⟩

end Serving

variable {initial self : ParameterServer} {turn : Turn} {results : List (Bool × String)} {own changed previews later : List (String × ParameterValue)}
  {request : SetRequest} {pc : HandlerPc}

-- A turn as what the entry is judged to be.
theorem turn_entry (self : ParameterServer) (p : ParameterMsg) : self.turn (.applying (p :: rest) results changed) = some
    (match judge self.backend p with
    | .unknown => ⟨self,.applying rest (results ++ [(judge self.backend p).result]) changed,[]⟩
    | .undecodable e => ⟨self,.answered (.error e),[]⟩
    | .refused _ => ⟨self,.applying rest (results ++ [(judge self.backend p).result]) changed,[]⟩
    | .accepted pv => ⟨{self with backend := self.backend.assign (p.name,pv)},
        .applying rest (results ++ [(judge self.backend p).result]) (changed ++ [(p.name,pv)]),[(p.name,pv)]⟩) := by
  cases found : self.backend.params.get? p.name with
  | none =>
    have judged : judge self.backend p = .unknown := by simp [judge,descriptorOf,found]
    have missing : self.backend.ref p.name = none := by simp [ref,found]
    simp only [ParameterServer.turn,missing,judged,Judgement.result]
  | some entry =>
    have present : self.backend.ref p.name = some p.name := by simp [ref,found]
    have described : self.backend.descriptorOf p.name = some (self.backend.heap entry.descriptor) := by simp [descriptorOf,found]
    cases decoded : paramValueFromMsg (some p.value) with
    | error e =>
      have judged : judge self.backend p = .undecodable e := by simp [judge,described,decoded]
      simp only [ParameterServer.turn,present,decoded,judged]
    | ok pv =>
      cases verdict : refusal (self.backend.heap entry.descriptor) pv with
      | some reason =>
        have judged : judge self.backend p = .refused reason := by simp [judge,described,decoded,verdict]
        simp only [ParameterServer.turn,present,decoded,set_refused found verdict,judged,Judgement.result]
      | none =>
        have judged : judge self.backend p = .accepted pv := by simp [judge,described,decoded,verdict]
        simp only [ParameterServer.turn,present,decoded,set_accepted found verdict,judged,Judgement.result]

-- The writes of a request that is served alone, in order: of each entry that is
-- accepted before one that cannot be read, or of all entries in front of the first
-- refusal where the validation lets them through.
def SetRequest.writes (initial : ParameterServer) : SetRequest → List (String × ParameterValue)
  | .plain params => stored initial.backend params
  | .atomic params => atomicWrites initial.backend params

-- A request answered as it would be alone, with the same writes behind it.
structure AsAlone (initial : ParameterServer) (request : SetRequest) (response : Except PyError Response)
    (own : List (String × ParameterValue)) : Prop where
  answer : (initial.handle request.request).1 = response
  whole : own = request.writes initial
  stores : (initial.handle request.request).2.backend = initial.backend.assignAll own

-- How far a handler has come with its request, read off the schema alone.
def Placed (initial : ParameterServer) (own : List (String × ParameterValue)) : SetRequest → HandlerPc → Prop
  | .plain params,.applying rest results changed => ∃ done, params = done ++ rest ∧
      (∀ p ∈ done, (judge initial.backend p).error? = none) ∧ results = done.map (fun p => (judge initial.backend p).result) ∧
      changed = done.filterMap (acceptedWrite initial.backend) ∧ own = changed
  | .atomic params,.previewing rest previews => ∃ done, params = done ++ rest ∧ ready initial.backend done = true ∧
      previews = done.filterMap decoded ∧ own = []
  | .atomic params,.committing rest previews => ready initial.backend params = true ∧ previews = params.filterMap decoded ∧
      previews = own ++ rest ∧ ∀ write ∈ own, accepts initial.backend write = true
  | request,.answered response => AsAlone initial request response own
  | _,_ => False

-- All that one turn can do: some accepted assignments, for the handler's request.
structure Turned (initial before : ParameterServer) (own : List (String × ParameterValue)) (request : SetRequest) (turn : Turn) : Prop where
  placed : Placed initial (own ++ turn.fresh) request turn.pc
  stored : turn.server.backend = before.backend.assignAll turn.fresh
  accepted : ∀ write ∈ turn.fresh, accepts initial.backend write = true

theorem stored_behind (readable : ∀ p ∈ done, (judge initial.backend p).error? = none) :
    stored initial.backend (done ++ rest) = done.filterMap (acceptedWrite initial.backend) ++ stored initial.backend rest := by
  induction done with
  | nil => rfl
  | cons q done ih =>
    rw [List.cons_append,stored_cons (readable q List.mem_cons_self),ih fun p inside => readable p (List.mem_cons_of_mem _ inside)]
    cases accepted : acceptedWrite initial.backend q <;> simp [accepted]

theorem failure_behind (readable : ∀ p ∈ done, (judge initial.backend p).error? = none) :
    ParameterServer.failure initial.backend (done ++ rest) = ParameterServer.failure initial.backend rest := by
  induction done with
  | nil => rfl
  | cons q done ih =>
    rw [List.cons_append,failure_cons (readable q List.mem_cons_self),ih fun p inside => readable p (List.mem_cons_of_mem _ inside)]

theorem stops_here {e : PyError} (judged : judge initial.backend p = .undecodable e) :
    stored initial.backend (p :: rest) = [] ∧ ParameterServer.failure initial.backend (p :: rest) = .error e := by
  have stop : (judge initial.backend p).error? = some e := by rw [judged]; rfl
  simp [stored,reached,ParameterServer.failure,stop]

theorem handle_writes (initial : ParameterServer) (request : SetRequest) :
    (initial.handle request.request).2.backend = initial.backend.assignAll (request.writes initial) := by
  cases request with
  | plain params => exact handleSet_backend
  | atomic params => exact handleSetAtomic_backend

theorem asAlone_of_whole {response : Except PyError Response} (answer : (initial.handle request.request).1 = response)
    (whole : own = request.writes initial) : AsAlone initial request response own :=
  ⟨answer,whole,by rw [whole]; exact handle_writes initial request⟩

-- One more entry behind the loop, when it does not end it.
theorem placed_entry (placed : Placed initial own request (.applying (p :: rest) results changed))
    (readable : (judge initial.backend p).error? = none) :
    Placed initial (own ++ (acceptedWrite initial.backend p).toList) request
      (.applying rest (results ++ [(judge initial.backend p).result]) (changed ++ (acceptedWrite initial.backend p).toList)) := by
  cases request with
  | atomic => exact placed.elim
  | plain whole =>
    obtain ⟨done,rfl,before,rfl,rfl,rfl⟩ := placed
    refine ⟨done ++ [p],by simp,?_,by simp,?_,rfl⟩
    · intro q inside
      rcases List.mem_append.mp inside with old | last
      · exact before q old
      · rw [List.mem_singleton.mp last]
        exact readable
    · cases accepted : acceptedWrite initial.backend p <;> simp [accepted]

theorem applying_turned (same : SameSchema initial.backend self.backend)
    (placed : Placed initial own request (.applying params results changed)) (turned : self.turn (.applying params results changed) = some turn) :
    Turned initial self own request turn := by
  cases request with
  | atomic => exact placed.elim
  | plain whole =>
    cases params with
    | nil =>
      obtain ⟨done,rfl,readable,rfl,rfl,rfl⟩ := placed
      cases turned
      rw [List.append_nil]
      have through := failure_of_decodable readable
      have all : stored initial.backend done = done.filterMap (acceptedWrite initial.backend) := by
        rw [stored,reached_of_decodable readable]
      refine ⟨asAlone_of_whole ?_ ?_,?_,by simp⟩
      · change ((initial.applySets done).1.map _).map _ = _
        rw [applySets_through through]
        rfl
      · rw [SetRequest.writes,all,List.append_nil]
      · dsimp only
        split
        · rfl
        · exact emitEvent_backend _
    | cons p rest =>
      rw [turn_entry,judge_schema same] at turned
      cases judged : judge initial.backend p with
      | undecodable e =>
        obtain ⟨done,rfl,readable,rfl,rfl,rfl⟩ := placed
        rw [judged] at turned
        cases turned
        obtain ⟨nothing,cut⟩ := @stops_here p rest _ initial e judged
        refine ⟨asAlone_of_whole ?_ ?_,rfl,by simp⟩
        · change ((initial.applySets (done ++ p :: rest)).1.map _).map _ = _
          rw [applySets_failed ((failure_behind readable).trans cut)]
          rfl
        · rw [SetRequest.writes,stored_behind readable,nothing]
      | unknown =>
        have nothing : acceptedWrite initial.backend p = none := by simp [acceptedWrite,judged]
        rw [judged] at turned
        cases turned
        have next := placed_entry placed (by rw [judged]; rfl)
        rw [nothing,judged] at next
        exact ⟨by simpa using next,rfl,by simp⟩
      | refused reason =>
        have nothing : acceptedWrite initial.backend p = none := by simp [acceptedWrite,judged]
        rw [judged] at turned
        cases turned
        have next := placed_entry placed (by rw [judged]; rfl)
        rw [nothing,judged] at next
        exact ⟨by simpa using next,rfl,by simp⟩
      | accepted pv =>
        have written : acceptedWrite initial.backend p = some (p.name,pv) := by simp [acceptedWrite,judged]
        rw [judged] at turned
        cases turned
        have next := placed_entry placed (by rw [judged]; rfl)
        rw [written,judged] at next
        refine ⟨next,rfl,?_⟩
        intro write inside
        rw [List.mem_singleton.mp inside]
        obtain ⟨_,_,desc,found,passed⟩ := acceptedWrite_some written
        simp [accepts,found,passed]

-- A request that the validation stops stores nothing.
theorem stopped_alone {response : Except PyError Response} (invalid : ready initial.backend params = false)
    (answer : (initial.handleSetAtomic params).1.map .setParametersAtomically = response) : AsAlone initial (.atomic params) response [] := by
  refine asAlone_of_whole answer ?_
  rw [SetRequest.writes,atomicWrites,invalid]
  rfl

theorem previewing_turned (same : SameSchema initial.backend self.backend)
    (placed : Placed initial own request (.previewing params previews)) (turned : self.turn (.previewing params previews) = some turn) :
    Turned initial self own request turn := by
  cases request with
  | plain => exact placed.elim
  | atomic whole =>
    obtain ⟨done,rfl,valid,rfl,rfl⟩ := placed
    cases params with
    | nil =>
      cases turned
      rw [List.append_nil]
      exact ⟨⟨valid,rfl,rfl,by simp⟩,rfl,by simp⟩
    | cons p rest =>
      have before := @previewLoop_append (p :: rest) done initial.backend [] valid
      cases read : paramValueFromMsg (some p.value) with
      | error e =>
        simp only [ParameterServer.turn,read] at turned
        cases turned
        have invalid : ready initial.backend (done ++ p :: rest) = false := by simp [ready,decoded,read,Except.toOption]
        rw [previewLoop,read] at before
        exact ⟨stopped_alone invalid (by rw [handleSetAtomic,before]; rfl),rfl,by simp⟩
      | ok pv =>
        cases known : (initial.backend.params.get? p.name).isSome with
        | false =>
          have missing : self.backend.ref p.name = none := by simp [ref,same.declared,known]
          have absent : initial.backend.ref p.name = none := by simp [ref,known]
          simp only [ParameterServer.turn,read,missing] at turned
          cases turned
          have invalid : ready initial.backend (done ++ p :: rest) = false := by simp [ready,known]
          rw [previewLoop,read,absent] at before
          exact ⟨stopped_alone invalid (by rw [handleSetAtomic,before]; rfl),rfl,by simp⟩
        | true =>
          have present : self.backend.ref p.name = some p.name := by simp [ref,same.declared,known]
          simp only [ParameterServer.turn,read,present] at turned
          cases turned
          have decodes : decoded p = some (p.name,pv) := by simp [decoded,read,Except.toOption]
          refine ⟨⟨done ++ [p],by simp,?_,by simp [decodes],rfl⟩,rfl,by simp⟩
          rw [ready_append,valid]
          simp [ready,known,decodes]

theorem committing_turned (same : SameSchema initial.backend self.backend)
    (placed : Placed initial own request (.committing later previews)) (turned : self.turn (.committing later previews) = some turn) :
    Turned initial self own request turn := by
  cases request with
  | plain => exact placed.elim
  | atomic params =>
    obtain ⟨valid,rfl,split,accepted⟩ := placed
    have unrefused := firstRefusal_none accepted
    cases later with
    | nil =>
      cases turned
      rw [List.append_nil] at split
      refine ⟨asAlone_of_whole ?_ ?_,emitEvent_backend _,by simp⟩
      · change (initial.handleSetAtomic params).1.map _ = _
        rw [handleSetAtomic_ready valid,split,unrefused]
        rfl
      · rw [SetRequest.writes,atomicWrites,if_pos valid,split,List.takeWhile_eq_self_iff.mpr accepted,List.append_nil]
    | cons write later =>
      obtain ⟨name,pv⟩ := write
      have known : (initial.backend.params.get? name).isSome = true :=
        ready_declared valid (by rw [split]; exact List.mem_append_right own List.mem_cons_self)
      obtain ⟨entry,found⟩ := Option.isSome_iff_exists.mp (same.declared.trans known)
      have present : self.backend.ref name = some name := by simp [ref,found]
      have described : initial.backend.descriptorOf name = some (self.backend.heap entry.descriptor) := by
        rw [← same.descriptorOf]
        simp [descriptorOf,found]
      cases verdict : refusal (self.backend.heap entry.descriptor) pv with
      | some reason =>
        have stop : accepts initial.backend (name,pv) = false := by simp [accepts,described,verdict]
        have refused : firstRefusal initial.backend (own ++ (name,pv) :: later) = some reason := by
          have here := unrefused
          unfold firstRefusal at here ⊢
          rw [List.findSome?_append,here]
          simp [described,verdict]
        have kept : (own ++ (name,pv) :: later).takeWhile (accepts initial.backend) = own := by
          rw [List.takeWhile_append_of_pos accepted,List.takeWhile_cons,stop]
          simp
        simp only [ParameterServer.turn,present,set_refused found verdict] at turned
        cases turned
        refine ⟨asAlone_of_whole ?_ ?_,rfl,by simp⟩
        · change (initial.handleSetAtomic params).1.map _ = _
          rw [handleSetAtomic_ready valid,split,refused]
          rfl
        · rw [SetRequest.writes,atomicWrites,if_pos valid,split,kept,List.append_nil]
      | none =>
        have accept : accepts initial.backend (name,pv) = true := by simp [accepts,described,verdict]
        simp only [ParameterServer.turn,present,set_accepted found verdict] at turned
        cases turned
        refine ⟨⟨valid,rfl,by rw [split]; simp,?_⟩,rfl,?_⟩
        · intro write inside
          rcases List.mem_append.mp inside with old | last
          · exact accepted write old
          · rw [List.mem_singleton.mp last]
            exact accept
        · intro write inside
          rw [List.mem_singleton.mp inside]
          exact accept

theorem turn_turned (same : SameSchema initial.backend self.backend) (placed : Placed initial own request pc)
    (turned : self.turn pc = some turn) : Turned initial self own request turn := by
  cases pc with
  | applying params results changed => exact applying_turned same placed turned
  | previewing params previews => exact previewing_turned same placed turned
  | committing later previews => exact committing_turned same placed turned
  | answered response => cases turned

-- What has been stored for a request is the beginning of what it writes alone.
theorem placed_begins (placed : Placed initial own request pc) : own <+: request.writes initial := by
  cases request with
  | plain params =>
    cases pc with
    | applying rest results changed =>
      obtain ⟨done,rfl,readable,_,rfl,rfl⟩ := placed
      exact ⟨_,(stored_behind readable).symm⟩
    | previewing => exact placed.elim
    | committing => exact placed.elim
    | answered response => exact ⟨[],by rw [AsAlone.whole placed,List.append_nil]⟩
  | atomic params =>
    cases pc with
    | applying => exact placed.elim
    | previewing rest previews =>
      obtain ⟨_,_,_,_,rfl⟩ := placed
      exact List.nil_prefix
    | committing rest previews =>
      obtain ⟨valid,rfl,split,accepted⟩ := placed
      refine ⟨rest.takeWhile (accepts initial.backend),?_⟩
      rw [SetRequest.writes,atomicWrites,if_pos valid,split,List.takeWhile_append_of_pos accepted]
    | answered response => exact ⟨[],by rw [AsAlone.whole placed,List.append_nil]⟩

namespace Serving

-- What every interleaving of turns keeps.
structure Steady (initial : ParameterServer) (s : Serving) : Prop where
  store : s.server.backend = initial.backend.assignAll (s.log.map Prod.snd)
  accepted : ∀ write ∈ s.log.map Prod.snd, accepts initial.backend write = true
  placed : ∀ k handler, s.handlers k = some handler → Placed initial (s.own k) handler.request handler.pc
  strangers : ∀ k, s.handlers k = none → s.own k = []

variable {s t : Serving} {event : ServingEvent}

theorem placed_entering (initial : ParameterServer) (request : SetRequest) : Placed initial [] request request.entry := by
  cases request with
  | plain params => exact ⟨[],rfl,by simp,rfl,rfl,rfl⟩
  | atomic params => exact ⟨[],rfl,rfl,rfl,rfl⟩

theorem steady_step (steady : Steady initial s) (step : s.advance event = some t) : Steady initial t := by
  have same : SameSchema initial.backend s.server.backend := by
    rw [steady.store]
    exact assignAll_schema _ _
  cases event with
  | arrive k request =>
    simp only [advance] at step
    split at step
    · cases step
    · rename_i absent
      cases step
      refine ⟨steady.store,steady.accepted,?_,?_⟩
      · intro j handler there
        dsimp only at there
        by_cases here : j = k
        · rw [here,Function.update_self] at there
          cases there
          have nothing : Serving.own ⟨s.server,Function.update s.handlers k (some ⟨request,request.entry⟩),s.log⟩ j = [] := by
            rw [here]
            exact steady.strangers k absent
          rw [nothing]
          exact placed_entering initial request
        · rw [Function.update_of_ne here] at there
          exact steady.placed j handler there
      · intro j none_there
        dsimp only at none_there
        by_cases here : j = k
        · rw [here,Function.update_self] at none_there
          cases none_there
        · rw [Function.update_of_ne here] at none_there
          exact steady.strangers j none_there
  | turn k =>
    simp only [advance] at step
    split at step
    · cases step
    · rename_i handler there
      obtain ⟨turn,taken,rfl⟩ := Option.map_eq_some_iff.mp step
      have turned := turn_turned same (steady.placed k handler there) taken
      refine ⟨?_,?_,?_,?_⟩
      · rw [turned.stored,steady.store,← assignAll_append]
        simp [Function.comp_def]
      · intro write inside
        simp only [List.map_append,List.map_map,List.mem_append] at inside
        rcases inside with old | fresh
        · exact steady.accepted write old
        · exact turned.accepted write (by simpa [Function.comp_def] using fresh)
      · intro j other found
        rw [own_fresh]
        dsimp only at found
        by_cases here : j = k
        · rw [here,Function.update_self] at found
          cases found
          rw [here,if_pos rfl]
          exact turned.placed
        · rw [Function.update_of_ne here] at found
          rw [if_neg (Ne.symm here),List.append_nil]
          exact steady.placed j other found
      · intro j absent
        rw [own_fresh]
        dsimp only at absent
        by_cases here : j = k
        · rw [here,Function.update_self] at absent
          cases absent
        · rw [Function.update_of_ne here] at absent
          rw [if_neg (Ne.symm here),List.append_nil]
          exact steady.strangers j absent

-- The store is the accepted writes of all requests shuffled: those of a request are
-- the first of what it writes alone, in that order, and all of them once it is
-- answered; it is answered as if nothing ran beside it.
structure Shuffled (initial : ParameterServer) (s : Serving) : Prop where
  store : s.server.backend = initial.backend.assignAll (s.log.map Prod.snd)
  values : s.server.backend.valueOf = Writes.assignAll initial.backend.valueOf (s.log.map Prod.snd)
  accepted : ∀ write ∈ s.log.map Prod.snd, accepts initial.backend write = true
  strangers : ∀ k, s.handlers k = none → s.own k = []
  ordered : ∀ k handler, s.handlers k = some handler → s.own k <+: handler.request.writes initial
  alone : ∀ k handler response, s.handlers k = some handler → handler.pc = .answered response →
    AsAlone initial handler.request response (s.own k)
  constrained : (∀ name desc value, initial.backend.descriptorOf name = some desc → initial.backend.valueOf name = some value →
    Conforms desc value) → Constrained initial.backend s.server.backend

theorem shuffled_of_steady (steady : Steady initial s) : Shuffled initial s where
  store := steady.store
  values := by rw [steady.store,assignAll_value fun _ inside => accepts_declared (steady.accepted _ inside)]
  accepted := steady.accepted
  strangers := steady.strangers
  ordered k handler there := placed_begins (steady.placed k handler there)
  alone k handler response there answered := by
    have placed := steady.placed k handler there
    rw [answered] at placed
    cases request : handler.request <;> rw [request] at placed <;> exact placed
  constrained conforming := by
    rw [steady.store]
    exact (kept_assignAll (kept_refl conforming) steady.accepted).constrained

-- However the turns of any number of set requests interleave.
theorem concurrent_sets (initial : ParameterServer) (events : List ServingEvent) :
    Throughout advance (Shuffled initial) (start initial) events := by
  have first : Steady initial (start initial) := ⟨rfl,by simp [start],fun _ _ there => (by cases there),fun _ _ => rfl⟩
  intro done rest t split ran
  exact shuffled_of_steady (run_invariant (Steady initial) (fun _ _ _ steady step => steady_step steady step) first ran)

end Serving
end Turns
end ZenohDslr.Picoparams
