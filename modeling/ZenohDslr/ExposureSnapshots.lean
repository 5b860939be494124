import ZenohDslr.AtomicSets
import ZenohDslr.ExposureParams
import ZenohDslr.RequestEffects
import ZenohDslr.Sweeps
namespace ZenohDslr.PiRuntime.Overlap
open Picoparams Picoparams.ParameterServer Picoparams.DictParameterBackend ExposureParameterServer Runs Sweeps

section Collecting
variable {names : List String} {name : String} {seen other : List (Option String)} {out left right : OrderedDict String String}

-- The mapping built from what was read under one name after the other.
def enter (out : OrderedDict String String) (item : String × Option String) : OrderedDict String String :=
  match item.2 with
  | none => out
  | some text => out.insert item.1 text

def collect (out : OrderedDict String String) (items : List (String × Option String)) : OrderedDict String String :=
  items.foldl enter out

theorem enter_other {item : String × Option String} (different : name ≠ item.1) : (enter out item).get? name = out.get? name := by
  unfold enter
  split
  · rfl
  · exact OrderedDict.get?_insert_other _ different

theorem enter_self (fresh : out.get? name = none) (text : Option String) : (enter out (name,text)).get? name = text := by
  cases text with
  | none => exact fresh
  | some text => exact OrderedDict.get?_insert_self _

theorem collect_other {items : List (String × Option String)} (absent : ∀ item ∈ items, name ≠ item.1) :
    (collect out items).get? name = out.get? name := by
  induction items generalizing out with
  | nil => rfl
  | cons item rest ih =>
    have tail : (collect (enter out item) rest).get? name = (enter out item).get? name :=
      ih fun other inside => absent other (List.mem_cons_of_mem _ inside)
    exact tail.trans (enter_other (absent item List.mem_cons_self))

-- With distinct names the mapping tells what was read under each of them.
theorem collect_injective (distinct : names.Nodup) (absent : ∀ name ∈ names, left.get? name = none ∧ right.get? name = none)
    (first : seen.length = names.length) (second : other.length = names.length)
    (same : collect left (names.zip seen) = collect right (names.zip other)) : seen = other := by
  induction names generalizing seen other left right with
  | nil => rw [List.length_eq_zero_iff.mp first,List.length_eq_zero_iff.mp second]
  | cons name names ih =>
    obtain ⟨outside,distinct⟩ := List.nodup_cons.mp distinct
    cases seen with
    | nil => cases first
    | cons text seen =>
      cases other with
      | nil => cases second
      | cons others other =>
        have later : ∀ texts : List (Option String), ∀ item ∈ names.zip texts, name ≠ item.1 := by
          intro texts item inside equal
          exact outside (equal ▸ (List.of_mem_zip inside).1)
        have here := congrArg (fun d => d.get? name) same
        simp only [collect,List.zip_cons_cons,List.foldl_cons] at here same
        have fresh := absent name List.mem_cons_self
        have head : text = others := by
          rw [← collect,← collect,collect_other (later seen),collect_other (later other),enter_self fresh.1,enter_self fresh.2] at here
          exact here
        have tail : seen = other := by
          refine ih distinct ?_ (by simpa using first) (by simpa using second) same
          intro later inside
          have apart : later ≠ name := fun equal => outside (equal ▸ inside)
          rw [enter_other apart,enter_other apart]
          exact absent later (List.mem_cons_of_mem _ inside)
        rw [head,tail]

end Collecting

section Snapshots
variable [Python] {backend : DictParameterBackend} {previews done rest : List (String × ParameterValue)} {names : List String}
  {name : String} {seen : List (Option String)} {s last : Overlap} {turns : List Thread} {out : OrderedDict String String}
  {exposure : OrderedDict String String} {server : ParameterServer} {params : List Rcl.ParameterMsg}

def snapshot (exposure : OrderedDict String String) (backend : DictParameterBackend) : OrderedDict String String :=
  current ⟨exposure,some backend⟩

-- However the two threads take turns, `current` answers as before the request
-- or as after it.
def Untorn (exposure : OrderedDict String String) (server : ParameterServer) (params : List Rcl.ParameterMsg) : Prop :=
  ∀ turns last, run advance ⟨server.backend,params.filterMap decoded,exposure.keys,.empty⟩ turns = some last → last.names = [] →
    last.out = snapshot exposure server.backend ∨ last.out = snapshot exposure (server.handleSetAtomic params).2.backend

-- The text under a name once the writes are done.
def textAfter (backend : DictParameterBackend) (writes : List (String × ParameterValue)) (name : String) : Option String :=
  ((Writes.last? writes name).or (backend.valueOf name)).bind textOf

-- The request moves the text of one exposure name at most, and every name from
-- its first text to its last with no third one in between.
structure OneMove (names : List String) (backend : DictParameterBackend) (writes : List (String × ParameterValue)) : Prop where
  steady : ∀ name ∈ names, ∀ done rest, writes = done ++ rest →
    textAfter backend done name = textAfter backend [] name ∨ textAfter backend done name = textAfter backend writes name
  single : names.Pairwise fun a b =>
    textAfter backend [] a = textAfter backend writes a ∨ textAfter backend [] b = textAfter backend writes b

def shows (backend : DictParameterBackend) (name : String) : Option String := (backend.valueOf name).bind textOf

def store (backend : DictParameterBackend) (write : String × ParameterValue) : DictParameterBackend :=
  (backend.set write.1 write.2).2

theorem note_enter (backend : DictParameterBackend) (out : OrderedDict String String) (name : String) :
    note backend out name = enter out (name,shows backend name) := by
  cases found : backend.params.get? name with
  | none => simp [note,enter,shows,DictParameterBackend.valueOf,found]
  | some entry => cases text : textOf entry.value <;> simp [note,enter,shows,DictParameterBackend.valueOf,found,text]

theorem snapshot_collect (exposure : OrderedDict String String) (backend : DictParameterBackend) :
    snapshot exposure backend = collect .empty (exposure.keys.zip (exposure.keys.map (shows backend))) := by
  have rounds : ∀ (names : List String) out,
      names.foldl (note backend) out = collect out (names.zip (names.map (shows backend))) := by
    intro names
    induction names with
    | nil => intro out; rfl
    | cons name rest ih => intro out; simp [collect,note_enter,ih]
  exact rounds exposure.keys .empty

theorem run_sweep (ran : run advance s turns = some last) (finished : last.names = []) :
    ∃ seen, Sweep store shows s.backend s.previews s.names seen ∧ last.out = collect s.out (s.names.zip seen) := by
  induction turns generalizing s with
  | nil =>
    cases ran
    exact ⟨[],by rw [finished]; exact .finished _ _,by simp [collect]⟩
  | cons turn turns ih =>
    obtain ⟨t,step,tail⟩ := run_cons_inv ran
    obtain ⟨seen,sweep,out⟩ := ih tail
    cases turn with
    | capture =>
      simp only [advance] at step
      split at step
      · cases step
      · rename_i name names unread
        cases step
        refine ⟨shows s.backend name :: seen,by rw [unread]; exact .read _ _ _ _ _ sweep,?_⟩
        rw [out,unread,note_enter]
        rfl
    | service =>
      simp only [advance] at step
      split at step
      · cases step
      · rename_i name pv previews unset
        cases step
        exact ⟨seen,by rw [unset]; exact .write _ _ _ _ _ sweep,out⟩

theorem sweep_run (sweep : Sweep store shows backend previews names seen) (out : OrderedDict String String) :
    ∃ turns last, run advance ⟨backend,previews,names,out⟩ turns = some last ∧ last.names = [] ∧
      last.out = collect out (names.zip seen) := by
  induction sweep generalizing out with
  | finished backend previews => exact ⟨[],_,rfl,rfl,rfl⟩
  | read backend previews name names seen _ ih =>
    obtain ⟨turns,last,ran,finished,read⟩ := ih (note backend out name)
    refine ⟨.capture :: turns,last,ran,finished,?_⟩
    rw [read,note_enter]
    rfl
  | write backend write previews names seen _ ih =>
    obtain ⟨turns,last,ran,finished,read⟩ := ih out
    exact ⟨.service :: turns,last,ran,finished,read⟩

theorem sweep_length (sweep : Sweep store shows backend previews names seen) : seen.length = names.length :=
  (sweep_seen sweep).length_eq.symm

theorem answered (success : (server.handleSetAtomic params).1 = .ok ⟨true,""⟩) :
    (∀ write ∈ params.filterMap decoded, accepts server.backend write = true) ∧
      (server.handleSetAtomic params).2.backend = server.backend.assignAll (params.filterMap decoded) := by
  obtain ⟨valid,accepted⟩ := accepted_of_success success rfl
  refine ⟨accepted,?_⟩
  rw [handleSetAtomic_backend,atomicWrites,if_pos valid,List.takeWhile_eq_self_iff.mpr accepted]

theorem store_accepted {write : String × ParameterValue} (accepted : accepts backend write = true) :
    store backend write = backend.assign write := by
  unfold accepts at accepted
  split at accepted
  · cases accepted
  · rename_i desc found
    obtain ⟨entry,present,rfl⟩ := declared_of_descriptor found
    have unrefused := Option.isNone_iff_eq_none.mp accepted
    simp [store,set_accepted present unrefused]

theorem stores_accepted {writes : List (String × ParameterValue)} (accepted : ∀ write ∈ writes, accepts backend write = true) :
    writes.foldl store backend = backend.assignAll writes := by
  induction writes generalizing backend with
  | nil => rfl
  | cons write rest ih =>
    rw [List.foldl_cons,store_accepted (accepted write List.mem_cons_self)]
    apply ih
    intro other inside
    rw [accepts_schema (assign_schema backend write)]
    exact accepted other (List.mem_cons_of_mem _ inside)

theorem shows_after {writes : List (String × ParameterValue)} (accepted : ∀ write ∈ writes, accepts backend write = true)
    (name : String) : shows (writes.foldl store backend) name = textAfter backend writes name := by
  have declared := fun write member => accepts_declared (accepted write member)
  rw [shows,stores_accepted accepted,assignAll_value declared,Writes.assignAll_apply,textAfter]

theorem oneMove_exact (accepted : ∀ write ∈ previews, accepts backend write = true) :
    Steady store shows backend previews names ∧ Single store shows backend previews names ↔ OneMove names backend previews := by
  have start : ∀ name, shows backend name = textAfter backend [] name := fun _ => rfl
  have moment : ∀ done rest, previews = done ++ rest → ∀ name, shows (done.foldl store backend) name = textAfter backend done name := by
    intro done rest split name
    exact shows_after (fun write inside => accepted write (by simp [split,inside])) name
  have finish := moment previews [] (by simp)
  constructor
  · intro both
    refine ⟨?_,both.2.imp fun {a b} apart => by simpa only [start,finish] using apart⟩
    intro name inside done rest split
    simpa only [start,finish,moment done rest split] using both.1 name inside done rest split
  · intro move
    refine ⟨?_,move.single.imp fun {a b} apart => by simpa only [start,finish] using apart⟩
    intro name inside done rest split
    simpa only [start,finish,moment done rest split] using move.steady name inside done rest split

theorem untorn_whole (success : (server.handleSetAtomic params).1 = .ok ⟨true,""⟩) :
    Untorn exposure server params ↔ Whole store shows server.backend (params.filterMap decoded) exposure.keys := by
  obtain ⟨accepted,stored⟩ := answered success
  have finish : (server.handleSetAtomic params).2.backend = (params.filterMap decoded).foldl store server.backend := by
    rw [stored,stores_accepted accepted]
  have fresh : ∀ name ∈ exposure.keys, (OrderedDict.empty : OrderedDict String String).get? name = none ∧
      (OrderedDict.empty : OrderedDict String String).get? name = none := fun _ _ => ⟨rfl,rfl⟩
  unfold Untorn
  rw [finish,snapshot_collect,snapshot_collect]
  constructor
  · intro untorn seen sweep
    obtain ⟨turns,last,ran,finished,read⟩ := sweep_run sweep .empty
    have result := untorn turns last ran finished
    rw [read] at result
    rcases result with before | after
    · exact .inl (collect_injective exposure.distinct fresh (sweep_length sweep) (List.length_map _) before)
    · exact .inr (collect_injective exposure.distinct fresh (sweep_length sweep) (List.length_map _) after)
  · intro whole turns last ran finished
    obtain ⟨seen,sweep,read⟩ := run_sweep ran finished
    rw [read]
    rcases whole seen sweep with before | after
    · exact .inl (by rw [before])
    · exact .inr (by rw [after])

theorem untorn_iff_oneMove (success : (server.handleSetAtomic params).1 = .ok ⟨true,""⟩) :
    Untorn exposure server params ↔ OneMove exposure.keys server.backend (params.filterMap decoded) := by
  rw [untorn_whole success,whole_iff,oneMove_exact (answered success).1]

end Snapshots

def twoExposures : OrderedDict String String := (OrderedDict.empty.insert "iso" "100").insert "aperture" "5.6"

-- Both names as `start` declares them.
def exposureBackend : DictParameterBackend :=
  {((init (descriptors twoExposures.items)).declareWith {name := "iso",value := .native (.str "100"),descriptor := some 0} 0
      (.string "100")).declareWith {name := "aperture",value := .native (.str "5.6"),descriptor := some 1} 1 (.string "5.6") with
    onSet := some report}

def exposureServer : ParameterServer := ⟨"/dslr_camera",exposureBackend,none,[]⟩

def isoTo (text : String) : Rcl.ParameterMsg := ⟨"iso",{type := 4,stringValue := text}⟩
def apertureTo (text : String) : Rcl.ParameterMsg := ⟨"aperture",{type := 4,stringValue := text}⟩

-- Both names are assigned, the iso twice, and only its text moves.
def isoMoves : List Rcl.ParameterMsg := [isoTo "400",apertureTo "5.6",isoTo " 400 "]

theorem untorn_iff_oneMove_iso : @Untorn Python.bare twoExposures exposureServer isoMoves ↔
    @OneMove Python.bare twoExposures.keys exposureServer.backend
      [("iso",.string "400"),("aperture",.string "5.6"),("iso",.string " 400 ")] :=
  @untorn_iff_oneMove Python.bare twoExposures exposureServer isoMoves (by decide)

-- The capture reads the old iso, and the aperture behind both assignments.
theorem exposure_torn : ¬ ∀ exposure server params, @declared Python.bare exposure = .ok server.backend →
    (@handleSetAtomic Python.bare server params).1 = .ok ⟨true,""⟩ → @Untorn Python.bare exposure server params := by
  intro always
  have result := always twoExposures exposureServer [isoTo "400",apertureTo "8"] rfl (by decide)
    [.capture,.service,.service,.capture] _ rfl rfl
  rcases result with before | after
  · exact absurd (congrArg (fun d => d.get? "aperture") before) (by decide)
  · exact absurd (congrArg (fun d => d.get? "iso") after) (by decide)

end ZenohDslr.PiRuntime.Overlap
