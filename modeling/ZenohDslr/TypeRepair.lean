import ZenohDslr.Definitions
import ZenohDslr.TypeStore
namespace ZenohDslr.Picoserdes
open Picoparams Definitions

section Repairing
variable {κ μ : Type} {register : Register κ μ} {definitions : List (String × Fielddef κ)} {repair middle next : Repair κ μ}
  {ref storeType : String} {refs : List String} {fuel : Nat}

-- What one successful registration does to the definitions.
structure Added (definitions : List (String × Fielddef κ)) (name : String) (first last : String → Option (Fielddef κ)) : Prop where
  keeps : Extends first last
  defined : (last name).isSome = true
  dependencies : ∀ other, other ≠ name → first other = none → Closed Fielddef.refs last other
  known : ∀ other fd, first other = none → last other = some fd → (other,fd) ∈ definitions

-- The SDK adds definitions out of a finite stock, or raises and adds nothing.
def Registers (register : Register κ μ) (definitions : List (String × Fielddef κ)) : Prop :=
  ∀ session name, session.store.fielddefs.get? name = none →
    ((register session name).1 = .ok () ∧
      Added definitions name session.store.fielddefs.get? (register session name).2.store.fielddefs.get?) ∨
    ((∃ e, (register session name).1 = .error e) ∧ (register session name).2.store = session.store)

-- One alias that was assigned, with what was registered for it.
structure Assigned (definitions : List (String × Fielddef κ)) (ref : String) (repair next : Repair κ μ) : Prop where
  keeps : Extends repair.fielddef next.fielddef
  found : ∃ fd, next.fielddef ref = some fd ∧ next.fielddef (canonical ref) = some fd
  others : ∀ a, a ≠ ref → a ≠ canonical ref → repair.fielddef a = none → Closed Fielddef.refs next.fielddef a
  known : ∀ a fd, next.fielddef a = some fd → (∃ b, (b,fd) ∈ definitions) ∨ ∃ b, repair.fielddef b = some fd
  aliased : next.aliased = repair.aliased ++ [ref]
  refused : next.refused = repair.refused

def Raised (register : Register κ μ) (name : String) : Prop := ∃ session e, (register session name).1 = .error e

structure Refused (register : Register κ μ) (ref : String) (repair next : Repair κ μ) : Prop where
  fielddef : next.fielddef = repair.fielddef
  aliased : next.aliased = repair.aliased
  refused : next.refused = repair.refused ++ [canonical ref]
  raised : Raised register (canonical ref)

theorem assignAlias_fielddef {fd : Fielddef κ} (found : repair.fielddef (canonical ref) = some fd) :
    (assignAlias repair ref).fielddef = Function.update repair.fielddef ref (some fd) ∧
      (assignAlias repair ref).aliased = repair.aliased ++ [ref] ∧ (assignAlias repair ref).refused = repair.refused := by
  simp only [assignAlias,found]
  refine ⟨?_,trivial,trivial⟩
  funext name
  simp [Repair.fielddef,OrderedDict.get?_insert,Function.update_apply]

-- An alias over `base`, which grew out of the definitions before.
theorem assigned_update {base : String → Option (Fielddef κ)} {fd : Fielddef κ} (absent : repair.fielddef ref = none)
    (grown : Extends repair.fielddef base) (found : base (canonical ref) = some fd)
    (others : ∀ a, a ≠ canonical ref → repair.fielddef a = none → Closed Fielddef.refs base a)
    (known : ∀ a fd, base a = some fd → (∃ b, (b,fd) ∈ definitions) ∨ ∃ b, repair.fielddef b = some fd)
    (result : next.fielddef = Function.update base ref (some fd)) (aliased : next.aliased = repair.aliased ++ [ref])
    (refused : next.refused = repair.refused) : Assigned definitions ref repair next := by
  refine ⟨?_,⟨fd,by simp [result],?_⟩,?_,?_,aliased,refused⟩
  · intro a value here
    have apart : a ≠ ref := fun same => by simp [same,absent] at here
    simp [result,apart,grown a value here]
  · by_cases same : canonical ref = ref <;> simp [result,same,found]
  · intro a apart other missing b edge
    obtain ⟨value,here,inside⟩ := edge
    simp only [result,Function.update_of_ne apart] at here
    have there := others a other missing b ⟨value,here,inside⟩
    by_cases same : b = ref <;> simp [result,same,there]
  · intro a value here
    by_cases same : a = ref
    · simp only [result,same,Function.update_self,Option.some.injEq] at here
      subst here
      exact known _ _ found
    · simp only [result,Function.update_of_ne same] at here
      exact known a value here

theorem registerAlias_cases (contract : Registers register definitions) (absent : repair.fielddef ref = none) :
    Assigned definitions ref repair (registerAlias register repair ref) ∨
      Refused register ref repair (registerAlias register repair ref) := by
  cases present : repair.fielddef (canonical ref) with
  | some fd =>
    have step : registerAlias register repair ref = assignAlias repair ref := by simp [registerAlias,absent,present]
    obtain ⟨result,aliased,refused⟩ := assignAlias_fielddef present
    rw [step]
    refine .inl (assigned_update absent (.refl _) present ?_ (fun a fd here => .inr ⟨a,here⟩) result aliased refused)
    intro a _ missing
    exact (Grows.refl repair.fielddef).fresh a missing
  | none =>
    have asked := contract repair.session (canonical ref) present
    rcases outcome : register repair.session (canonical ref) with ⟨answer,session⟩
    rw [outcome] at asked
    rcases asked with ⟨succeeded,added⟩ | ⟨⟨e,raised⟩,same⟩
    · dsimp only at succeeded added
      subst succeeded
      have step : registerAlias register repair ref = assignAlias {repair with session} ref := by
        simp [registerAlias,absent,present,outcome]
      obtain ⟨fd,found⟩ := Option.isSome_iff_exists.mp added.defined
      have there : ({repair with session} : Repair κ μ).fielddef (canonical ref) = some fd := found
      obtain ⟨result,aliased,refused⟩ := assignAlias_fielddef there
      rw [step]
      refine .inl (assigned_update absent added.keeps found added.dependencies ?_ result aliased refused)
      intro a value here
      cases old : repair.fielddef a with
      | none => exact .inl ⟨a,added.known a value old here⟩
      | some before =>
        cases (added.keeps a before old).symm.trans here
        exact .inr ⟨a,old⟩
    · dsimp only at raised same
      subst raised
      have step : registerAlias register repair ref = {repair with session,refused := repair.refused ++ [canonical ref]} := by
        simp [registerAlias,absent,present,outcome]
      rw [step]
      refine .inr ⟨?_,rfl,rfl,repair.session,e,by rw [outcome]⟩
      funext name
      simp [Repair.fielddef,same]

-- What a finished part of the repair has done. As long as nothing was refused,
-- all that is new is closed.
structure Progress (register : Register κ μ) (definitions : List (String × Fielddef κ)) (repair next : Repair κ μ) : Prop where
  keeps : Extends repair.fielddef next.fielddef
  known : ∀ a fd, next.fielddef a = some fd → (∃ b, (b,fd) ∈ definitions) ∨ ∃ b, repair.fielddef b = some fd
  aliases : ∃ more, next.aliased = repair.aliased ++ more ∧ ∀ ref ∈ more, repair.fielddef ref = none ∧
    ∃ fd, next.fielddef ref = some fd ∧ next.fielddef (canonical ref) = some fd
  refusals : ∃ more, next.refused = repair.refused ++ more ∧ ∀ name ∈ more, Raised register name
  fresh : next.refused = [] → ∀ a, repair.fielddef a = none → Closed Fielddef.refs next.fielddef a

theorem Progress.refl (register : Register κ μ) (definitions : List (String × Fielddef κ)) (repair : Repair κ μ) : Progress register definitions repair repair := by
  refine ⟨.refl _,fun a fd here => .inr ⟨a,here⟩,⟨[],by simp,?_⟩,⟨[],by simp,?_⟩,fun _ => (Grows.refl repair.fielddef).fresh⟩
  · intro ref inside; cases inside
  · intro name inside; cases inside

theorem Progress.refused (progress : Progress register definitions repair next) (clean : next.refused = []) : repair.refused = [] := by
  obtain ⟨more,after,_⟩ := progress.refusals
  rw [clean] at after
  exact (List.nil_eq_append_iff.mp after).1

theorem Progress.refusals_trans (left : ∃ more, middle.refused = repair.refused ++ more ∧ ∀ name ∈ more, Raised register name)
    (right : Progress register definitions middle next) :
    ∃ more, next.refused = repair.refused ++ more ∧ ∀ name ∈ more, Raised register name := by
  obtain ⟨earlier,before,old⟩ := left
  obtain ⟨later,after,new⟩ := right.refusals
  refine ⟨earlier ++ later,by simp [after,before],?_⟩
  intro name inside
  rcases List.mem_append.mp inside with first | second
  · exact old name first
  · exact new name second

theorem undefined_before {first last : String → Option (Fielddef κ)} {name : String} (grown : Extends first last)
    (absent : last name = none) : first name = none := by
  cases found : first name with
  | none => rfl
  | some fd => simp [grown name fd found] at absent

theorem Progress.known_trans (left : ∀ a fd, middle.fielddef a = some fd → (∃ b, (b,fd) ∈ definitions) ∨ ∃ b, repair.fielddef b = some fd)
    (right : Progress register definitions middle next) (a : String) (fd : Fielddef κ) (here : next.fielddef a = some fd) :
    (∃ b, (b,fd) ∈ definitions) ∨ ∃ b, repair.fielddef b = some fd := by
  rcases right.known a fd here with stock | ⟨b,there⟩
  · exact .inl stock
  · exact left b fd there

theorem Progress.trans (left : Progress register definitions repair middle) (right : Progress register definitions middle next) :
    Progress register definitions repair next := by
  obtain ⟨earlier,before,old⟩ := left.aliases
  obtain ⟨later,after,new⟩ := right.aliases
  refine ⟨left.keeps.trans right.keeps,right.known_trans left.known,?_,right.refusals_trans left.refusals,?_⟩
  · refine ⟨earlier ++ later,by simp [after,before],?_⟩
    intro ref inside
    rcases List.mem_append.mp inside with first | second
    · obtain ⟨absent,fd,here,there⟩ := old ref first
      exact ⟨absent,fd,right.keeps _ _ here,right.keeps _ _ there⟩
    · obtain ⟨absent,found⟩ := new ref second
      exact ⟨undefined_before left.keeps absent,found⟩
  · intro clean
    have first : Grows Fielddef.refs repair.fielddef middle.fielddef := ⟨left.keeps,left.fresh (right.refused clean)⟩
    exact (first.trans ⟨right.keeps,right.fresh clean⟩).fresh

-- An alias and its canonical definition refer to the same names, so the repair
-- of the one closes the other.
theorem progress_assigned (absent : repair.fielddef ref = none) (assigned : Assigned definitions ref repair middle)
    (later : Progress register definitions middle next) (closed : next.refused = [] → Closed Fielddef.refs next.fielddef ref) :
    Progress register definitions repair next := by
  obtain ⟨fd,copied,original⟩ := assigned.found
  obtain ⟨more,after,new⟩ := later.aliases
  refine ⟨assigned.keeps.trans later.keeps,later.known_trans assigned.known,?_,?_,?_⟩
  · refine ⟨ref :: more,by simp [after,assigned.aliased],?_⟩
    intro other inside
    rcases List.mem_cons.mp inside with rfl | tail
    · exact ⟨absent,fd,later.keeps _ _ copied,later.keeps _ _ original⟩
    · obtain ⟨missing,found⟩ := new other tail
      exact ⟨undefined_before assigned.keeps missing,found⟩
  · rw [← assigned.refused]
    exact later.refusals
  · intro clean a missing
    cases found : middle.fielddef a with
    | none => exact later.fresh clean a found
    | some value =>
      by_cases same : a = ref
      · subst same
        exact closed clean
      · by_cases source : a = canonical ref
        · subst source
          intro b edge
          have inside := later.keeps.edge original edge
          exact closed clean b ⟨fd,later.keeps _ _ copied,inside⟩
        · exact later.keeps.closed found (assigned.others a same source missing)

theorem progress_refused (refused : Refused register ref repair middle) (later : Progress register definitions middle next) :
    Progress register definitions repair next ∧ next.refused ≠ [] := by
  have dirty : next.refused ≠ [] := by
    intro clean
    simpa [refused.refused] using later.refused clean
  have first : ∃ more, middle.refused = repair.refused ++ more ∧ ∀ name ∈ more, Raised register name :=
    ⟨[canonical ref],refused.refused,fun name inside => List.mem_singleton.mp inside ▸ refused.raised⟩
  obtain ⟨more,after,new⟩ := later.aliases
  refine ⟨⟨refused.fielddef ▸ later.keeps,refused.fielddef ▸ later.known,?_,later.refusals_trans first,fun clean => absurd clean dirty⟩,dirty⟩
  exact ⟨more,by rw [after,refused.aliased],refused.fielddef ▸ new⟩

-- What the loop needs to know of the recursive call.
def Recurses (register : Register κ μ) (definitions : List (String × Fielddef κ)) (recurse : Repair κ μ → String → Option (Repair κ μ)) : Prop :=
  ∀ repair name next, recurse repair name = some next →
    Progress register definitions repair next ∧ (next.refused = [] → Closed Fielddef.refs next.fielddef name)

-- One round of the loop on an undefined name.
theorem called_progress {recurse : Repair κ μ → String → Option (Repair κ μ)} (contract : Registers register definitions)
    (recurses : Recurses register definitions recurse) (absent : repair.fielddef ref = none)
    (called : recurse (registerAlias register repair ref) ref = some middle) :
    Progress register definitions repair middle ∧ (middle.refused = [] → (middle.fielddef ref).isSome = true) := by
  obtain ⟨inner,closed⟩ := recurses _ _ _ called
  rcases registerAlias_cases contract absent with assigned | refused
  · obtain ⟨fd,copied,_⟩ := assigned.found
    exact ⟨progress_assigned absent assigned inner closed,fun _ => inner.keeps.defined (by simp [copied])⟩
  · obtain ⟨progress,dirty⟩ := progress_refused refused inner
    exact ⟨progress,fun clean => absurd clean dirty⟩

theorem repairRefs_progress {recurse : Repair κ μ → String → Option (Repair κ μ)} (contract : Registers register definitions)
    (recurses : Recurses register definitions recurse) (repaired : repairRefs register recurse repair refs = some next) :
    Progress register definitions repair next ∧ (next.refused = [] → ∀ ref ∈ refs, (next.fielddef ref).isSome = true) := by
  induction refs generalizing repair with
  | nil =>
    cases repaired
    exact ⟨.refl register definitions _,fun _ ref inside => by cases inside⟩
  | cons ref rest ih =>
    unfold repairRefs at repaired
    split at repaired
    · rename_i defined
      obtain ⟨progress,others⟩ := ih repaired
      refine ⟨progress,fun clean other inside => ?_⟩
      rcases List.mem_cons.mp inside with rfl | tail
      · exact progress.keeps.defined defined
      · exact others clean other tail
    · rename_i undefined
      obtain ⟨middle,called,tail⟩ := Option.bind_eq_some_iff.mp repaired
      obtain ⟨here,defined⟩ := called_progress contract recurses (by simpa using undefined) called
      obtain ⟨outer,others⟩ := ih tail
      refine ⟨here.trans outer,fun clean other inside => ?_⟩
      rcases List.mem_cons.mp inside with rfl | later
      · exact outer.keeps.defined (defined (outer.refused clean))
      · exact others clean other later

theorem ensureNestedTypes_progress (contract : Registers register definitions) (fuel : Nat) :
    Recurses register definitions (ensureNestedTypes register fuel) := by
  induction fuel with
  | zero => intro repair name next ended; cases ended
  | succ fuel ih =>
    intro repair name next ended
    unfold ensureNestedTypes at ended
    split at ended
    · rename_i undefined
      cases ended
      exact ⟨.refl register definitions _,fun _ => (Grows.refl repair.fielddef).fresh name undefined⟩
    · rename_i fd found
      obtain ⟨progress,defined⟩ := repairRefs_progress contract ih ended
      refine ⟨progress,fun clean b edge => ?_⟩
      exact defined clean b (progress.keeps.edge found edge)

-- Every reference that can turn up is one of finitely many names.
def Within (names : Finset String) (repair : Repair κ μ) : Prop :=
  ∀ a fd, repair.fielddef a = some fd → ∀ ref ∈ fd.refs, ref ∈ names

theorem Within.step {names : Finset String} (within : Within names repair)
    (stock : ∀ item ∈ definitions, ∀ ref ∈ item.2.refs, ref ∈ names)
    (known : ∀ a fd, next.fielddef a = some fd → (∃ b, (b,fd) ∈ definitions) ∨ ∃ b, repair.fielddef b = some fd) :
    Within names next := by
  intro a fd here ref inside
  rcases known a fd here with ⟨b,listed⟩ | ⟨b,before⟩
  · exact stock (b,fd) listed ref inside
  · exact within b fd before ref inside

section Ending
variable {names : Finset String} {n : Nat}

theorem repairRefs_ends {recurse : Repair κ μ → String → Option (Repair κ μ)} (contract : Registers register definitions)
    (stock : ∀ item ∈ definitions, ∀ ref ∈ item.2.refs, ref ∈ names) (recurses : Recurses register definitions recurse)
    (deep : ∀ (repair : Repair κ μ) ref, Within names repair → missing names repair.fielddef ≤ n → ref ∈ names →
      repair.fielddef ref = none → ∃ next, recurse (registerAlias register repair ref) ref = some next)
    (within : Within names repair) (few : missing names repair.fielddef ≤ n) (inside : ∀ ref ∈ refs, ref ∈ names) :
    ∃ next, repairRefs register recurse repair refs = some next := by
  induction refs generalizing repair with
  | nil => exact ⟨repair,rfl⟩
  | cons ref rest ih =>
    have later : ∀ ref ∈ rest, ref ∈ names := fun other there => inside other (List.mem_cons_of_mem _ there)
    cases found : repair.fielddef ref with
    | some fd =>
      obtain ⟨next,repaired⟩ := ih within few later
      exact ⟨next,by simp [repairRefs,found,repaired]⟩
    | none =>
      obtain ⟨middle,called⟩ := deep repair ref within few (inside ref List.mem_cons_self) found
      have progress := (called_progress contract recurses found called).1
      obtain ⟨next,repaired⟩ := ih (within.step stock progress.known) (Nat.le_trans (missing_le progress.keeps) few) later
      exact ⟨next,by simp [repairRefs,found,called,repaired]⟩

-- Each alias that is assigned leaves one undefined name less, and a refused one
-- ends the recursion: as deep as there are undefined names is deep enough.
theorem ensureNestedTypes_ends (contract : Registers register definitions)
    (stock : ∀ item ∈ definitions, ∀ ref ∈ item.2.refs, ref ∈ names) (within : Within names repair)
    (few : missing names repair.fielddef ≤ n) (storeType : String) :
    ∃ next, ensureNestedTypes register (n + 1) repair storeType = some next := by
  induction n generalizing repair storeType with
  | zero =>
    unfold ensureNestedTypes
    split
    · exact ⟨repair,rfl⟩
    · rename_i fd found
      apply repairRefs_ends contract stock (ensureNestedTypes_progress contract 0) _ within few (within storeType fd found)
      intro repair ref _ few member absent
      have := missing_pos member absent
      omega
  | succ n ih =>
    unfold ensureNestedTypes
    split
    · exact ⟨repair,rfl⟩
    · rename_i fd found
      apply repairRefs_ends contract stock (ensureNestedTypes_progress contract (n + 1)) _ within few (within storeType fd found)
      intro repair ref within few member absent
      rcases registerAlias_cases contract absent with assigned | refused
      · obtain ⟨fd,copied,_⟩ := assigned.found
        have fewer := missing_lt assigned.keeps member absent (by simp [copied])
        exact ih (within.step stock assigned.known) (by omega) ref
      · have undefined : (registerAlias register repair ref).fielddef ref = none := by rw [refused.fielddef]; exact absent
        exact ⟨registerAlias register repair ref,by simp [ensureNestedTypes,undefined]⟩

theorem repairRefs_more {recurse further : Repair κ μ → String → Option (Repair κ μ)}
    (more : ∀ repair name next, recurse repair name = some next → further repair name = some next)
    (repaired : repairRefs register recurse repair refs = some next) : repairRefs register further repair refs = some next := by
  induction refs generalizing repair with
  | nil => exact repaired
  | cons ref rest ih =>
    unfold repairRefs at repaired ⊢
    split at repaired
    · rename_i defined
      rw [if_pos defined]
      exact ih repaired
    · rename_i undefined
      obtain ⟨middle,called,tail⟩ := Option.bind_eq_some_iff.mp repaired
      rw [if_neg undefined,more _ _ _ called]
      exact ih tail

theorem ensureNestedTypes_more {enough : Nat} (ended : ensureNestedTypes register enough repair storeType = some next)
    (plenty : enough ≤ fuel) : ensureNestedTypes register fuel repair storeType = some next := by
  induction enough generalizing fuel repair storeType next with
  | zero => cases ended
  | succ enough ih =>
    cases fuel with
    | zero => omega
    | succ fuel =>
      unfold ensureNestedTypes at ended ⊢
      split at ended
      · exact ended
      · exact repairRefs_more (fun _ _ _ called => ih called (by omega)) ended

end Ending

theorem repairRefs_idle {recurse : Repair κ μ → String → Option (Repair κ μ)}
    (defined : ∀ ref ∈ refs, (repair.fielddef ref).isSome = true) : repairRefs register recurse repair refs = some repair := by
  induction refs with
  | nil => rfl
  | cons ref rest ih =>
    rw [repairRefs,if_pos (defined ref List.mem_cons_self)]
    exact ih fun other inside => defined other (List.mem_cons_of_mem _ inside)

theorem ensureNestedTypes_idle (closed : Closed Fielddef.refs repair.fielddef storeType) (fuel : Nat) :
    ensureNestedTypes register (fuel + 1) repair storeType = some repair := by
  unfold ensureNestedTypes
  split
  · rfl
  · rename_i fd found
    exact repairRefs_idle fun ref inside => closed ref ⟨fd,found,inside⟩

-- All the names that definitions refer to.
def referred (items : List (String × Fielddef κ)) : Finset String := (items.flatMap fun item => item.2.refs).toFinset

theorem referred_mem {items : List (String × Fielddef κ)} {item : String × Fielddef κ} (listed : item ∈ items)
    (inside : ref ∈ item.2.refs) : ref ∈ referred items := by
  rw [referred,List.mem_toFinset]
  exact List.mem_flatMap.mpr ⟨item,listed,inside⟩

-- What a call of `ensure_nested_types` leaves behind.
structure Repaired (register : Register κ μ) (session : ZenohSession κ μ) (storeType : String) (result : Repair κ μ) : Prop where
  unchanged : ∀ name fd, session.store.fielddefs.get? name = some fd → result.fielddef name = some fd
  aliases : ∀ ref ∈ result.aliased, session.store.fielddefs.get? ref = none ∧
    ∃ fd, result.fielddef ref = some fd ∧ result.fielddef (canonical ref) = some fd
  refused : ∀ name ∈ result.refused, Raised register name
  reached : result.refused = [] → ∀ name, Relation.TransGen (Edge Fielddef.refs result.fielddef) storeType name →
    (result.fielddef name).isSome = true
  idle : result.refused = [] → ∀ fuel,
    ensureNestedTypes register (fuel + 1) ⟨result.session,[],[]⟩ storeType = some ⟨result.session,[],[]⟩

theorem repaired_of_progress {session : ZenohSession κ μ} {result : Repair κ μ}
    (others : ∀ name, name ≠ storeType → Closed Fielddef.refs session.store.fielddefs.get? name)
    (progress : Progress register definitions ⟨session,[],[]⟩ result)
    (closed : result.refused = [] → Closed Fielddef.refs result.fielddef storeType) : Repaired register session storeType result := by
  have all : result.refused = [] → ∀ name, Closed Fielddef.refs result.fielddef name := by
    intro clean name
    by_cases here : name = storeType
    · subst here
      exact closed clean
    · cases found : session.store.fielddefs.get? name with
      | none => exact progress.fresh clean name found
      | some fd => exact progress.keeps.closed found (others name here)
  obtain ⟨aliased,given,aliases⟩ := progress.aliases
  obtain ⟨refused,raising,refusals⟩ := progress.refusals
  rw [List.nil_append] at given raising
  refine ⟨progress.keeps,given ▸ aliases,raising ▸ refusals,fun clean name path => reached_defined (all clean) path,fun clean fuel => ?_⟩
  exact @ensureNestedTypes_idle κ μ register ⟨result.session,[],[]⟩ storeType (all clean storeType) fuel

-- The call ends, and where no registration raised the type graph is closed.
theorem ensureNestedTypes_repairs (contract : Registers register definitions) (session : ZenohSession κ μ) (storeType : String)
    (others : ∀ name, name ≠ storeType → Closed Fielddef.refs session.store.fielddefs.get? name) :
    ∃ enough result, (∀ fuel, enough ≤ fuel → ensureNestedTypes register fuel ⟨session,[],[]⟩ storeType = some result) ∧
      Repaired register session storeType result := by
  let names := referred (session.store.fielddefs.items ++ definitions)
  have stock : ∀ item ∈ definitions, ∀ ref ∈ item.2.refs, ref ∈ names := fun item listed ref inside =>
    referred_mem (List.mem_append_right _ listed) inside
  have within : Within names (⟨session,[],[]⟩ : Repair κ μ) := fun a fd found ref inside =>
    referred_mem (List.mem_append_left _ (OrderedDict.find_mem found)) inside
  obtain ⟨result,ended⟩ := ensureNestedTypes_ends contract stock within (Nat.le_refl _) storeType
  obtain ⟨progress,closed⟩ := ensureNestedTypes_progress contract _ _ _ _ ended
  exact ⟨_,result,fun fuel plenty => ensureNestedTypes_more ended plenty,repaired_of_progress others progress closed⟩

theorem Progress.closed {name : String} (progress : Progress register definitions repair next) (clean : next.refused = [])
    (closed : Closed Fielddef.refs repair.fielddef name) : Closed Fielddef.refs next.fielddef name := by
  cases found : repair.fielddef name with
  | none => exact progress.fresh clean name found
  | some fd => exact progress.keeps.closed found closed

theorem repairs_progress (contract : Registers register definitions) {names : List String}
    (ended : names.foldlM (ensureNestedTypes register fuel) repair = some next) :
    Progress register definitions repair next ∧ (next.refused = [] → ∀ name ∈ names, Closed Fielddef.refs next.fielddef name) := by
  induction names generalizing repair with
  | nil =>
    cases ended
    exact ⟨.refl register definitions _,fun _ name inside => by cases inside⟩
  | cons name rest ih =>
    obtain ⟨middle,first,tail⟩ := Option.bind_eq_some_iff.mp ended
    obtain ⟨here,closed⟩ := ensureNestedTypes_progress contract fuel _ _ _ first
    obtain ⟨outer,others⟩ := ih tail
    refine ⟨here.trans outer,fun clean other inside => ?_⟩
    rcases List.mem_cons.mp inside with rfl | later
    · exact outer.closed clean (closed (outer.refused clean))
    · exact others clean other later

-- After both types of a service are repaired no definition of the store refers
-- to an undefined name.
theorem repairServiceTypes_closes (contract : Registers register definitions) {session : ZenohSession κ μ} {result : Repair κ μ}
    {request response : Option String}
    (others : ∀ name, name ∉ storeTypes request response → Closed Fielddef.refs session.store.fielddefs.get? name)
    (ended : repairServiceTypes register fuel ⟨session,[],[]⟩ request response = some result) (clean : result.refused = [])
    (name : String) : Closed Fielddef.refs result.fielddef name := by
  obtain ⟨progress,closed⟩ := repairs_progress contract ended
  by_cases named : name ∈ storeTypes request response
  · exact closed clean name named
  · exact progress.closed clean (others name named)

end Repairing

-- A stock of definitions without dependencies, each registered under its name.
def registerFrom {κ : Type} (definitions : List (String × Fielddef κ)) : Register κ String := fun session name =>
  match OrderedDict.find name definitions with
  | none => (.error (.keyError name),session)
  | some fd =>
    (.ok (),⟨⟨session.store.fielddefs.insert name fd,session.store.types.insert name name⟩,session.registeredTypes.insert name name⟩)

theorem registerFrom_registers {κ : Type} (definitions : List (String × Fielddef κ)) :
    Registers (registerFrom definitions) definitions := by
  intro session name absent
  cases found : OrderedDict.find name definitions with
  | none => exact .inr (by simp [registerFrom,found])
  | some fd =>
    refine .inl ⟨by simp [registerFrom,found],?_⟩
    simp only [registerFrom,found]
    have other_first : ∀ other, other ≠ name → (session.store.fielddefs.insert name fd).get? other = session.store.fielddefs.get? other :=
      fun other apart => OrderedDict.get?_insert_other _ apart
    refine ⟨?_,by simp,?_,?_⟩
    · intro other value here
      have apart : other ≠ name := fun same => by simp [same,absent] at here
      rw [other_first other apart,here]
    · intro other apart missing b edge
      obtain ⟨value,here,_⟩ := edge
      simp [other_first other apart,missing] at here
    · intro other value missing here
      by_cases same : other = name
      · subst same
        cases (OrderedDict.get?_insert_self session.store.fielddefs).symm.trans here
        exact OrderedDict.find_mem found
      · simp [other_first other same,missing] at here

def parameterStock : List (String × Fielddef Unit) :=
  [("rcl_interfaces/msg/ParameterValue",⟨(),[("type",.base "uint8" 0),("string_value",.base "string" 0)]⟩)]

def getParametersResponse : String := "rcl_interfaces/srv/msg/GetParameters_Response"

def responseSession : ZenohSession Unit String :=
  ⟨⟨OrderedDict.empty.insert getParametersResponse ⟨(),[("values",.sequence (.name "rcl_interfaces/srv/msg/ParameterValue") 0)]⟩,.empty⟩,
    .empty⟩

theorem ensureNestedTypes_repairs_response : ∃ enough result,
    (∀ fuel, enough ≤ fuel → ensureNestedTypes (registerFrom parameterStock) fuel ⟨responseSession,[],[]⟩ getParametersResponse =
      some result) ∧
    Repaired (registerFrom parameterStock) responseSession getParametersResponse result := by
  refine ensureNestedTypes_repairs (registerFrom_registers parameterStock) responseSession getParametersResponse ?_
  intro name apart b edge
  obtain ⟨fd,found,_⟩ := edge
  simp only [responseSession,OrderedDict.get?_insert_other _ apart] at found
  cases found

-- The shadow name is given the fields of its canonical one.
example : (ensureNestedTypes (registerFrom parameterStock) 2 ⟨responseSession,[],[]⟩ getParametersResponse).map
    (fun result => (result.aliased,result.refused)) = some (["rcl_interfaces/srv/msg/ParameterValue"],[]) := by decide

end ZenohDslr.Picoserdes
