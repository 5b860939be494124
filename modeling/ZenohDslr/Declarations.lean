import ZenohDslr.Fallible
import ZenohDslr.ParameterBackend
namespace ZenohDslr.Picoparams.DictParameterBackend

-- Every entry's descriptor object carries the name of that entry, so echoing a
-- requested name into it changes nothing.
def Named (self : DictParameterBackend) : Prop :=
  ∀ name entry, self.params.get? name = some entry → (self.heap entry.descriptor).name = name

def Among (built : Nat) (given : List Nat) : DescriptorRef → Prop
  | .own k => k < built
  | .application i => i ∈ given

-- Entries use the objects `declare` built and the given application objects only.
def InUse (self : DictParameterBackend) (given : List Nat) : Prop :=
  ∀ name entry, self.params.get? name = some entry → Among self.built given entry.descriptor

variable {self next : DictParameterBackend} {call : Declaration} {calls : List Declaration} {pv : ParameterValue}
  {given : List Nat} {i : Nat}

theorem declare_cases [Python] (declared : self.declare call = .ok next) :
    ∃ pv, call.value.pv = .ok pv ∧ ((call.descriptor = none ∧ next = self.declareOwn call pv) ∨
      ∃ i, call.descriptor = some i ∧ next = self.declareWith call i pv) := by
  obtain ⟨pv,read,rest⟩ := Fallible.bind_ok.mp declared
  refine ⟨pv,read,?_⟩
  cases given : call.descriptor with
  | none => rw [given] at rest; cases rest; exact .inl ⟨rfl,rfl⟩
  | some i => rw [given] at rest; cases rest; exact .inr ⟨i,rfl,rfl⟩

theorem declareAll_cons [Python] (declared : self.declareAll (call :: calls) = .ok next) :
    ∃ middle, self.declare call = .ok middle ∧ middle.declareAll calls = .ok next := by
  unfold declareAll at declared
  rw [List.foldlM_cons] at declared
  exact Fallible.bind_ok.mp declared

theorem InUse.schema {after : DictParameterBackend} (used : self.InUse given) (same : SameSchema self after) : after.InUse given := by
  intro name entry found
  have refs := same.refs name
  rw [found] at refs
  obtain ⟨old,present,object⟩ := Option.map_eq_some_iff.mp refs.symm
  rw [same.built,← object]
  exact used name old present

theorem InUse.fresh (used : self.InUse given) {name : String} {entry : Entry} (found : self.params.get? name = some entry) :
    entry.descriptor ≠ .own self.built := by
  intro same
  have old := used name entry found
  rw [same] at old
  exact Nat.lt_irrefl _ old

theorem declareOwn_named (named : self.Named) (used : self.InUse given) : (self.declareOwn call pv).Named := by
  intro name entry found
  simp only [declareOwn,OrderedDict.get?_insert] at found
  split at found
  · rename_i here
    cases found
    simp [declareOwn,here]
  · simp only [declareOwn,Function.update_of_ne (used.fresh found)]
    exact named name entry found

theorem declareOwn_inUse (used : self.InUse given) : (self.declareOwn call pv).InUse given := by
  intro name entry found
  simp only [declareOwn,OrderedDict.get?_insert] at found
  split at found
  · cases found
    exact Nat.lt_succ_self _
  · have old := used name entry found
    cases place : entry.descriptor with
    | own k => rw [place] at old; exact Nat.lt_succ_of_lt old
    | application i => rw [place] at old; exact old

theorem declareWith_named (named : self.Named) (used : self.InUse given) (fresh : i ∉ given) :
    (self.declareWith call i pv).Named := by
  intro name entry found
  simp only [declareWith,OrderedDict.get?_insert] at found
  split at found
  · rename_i here
    cases found
    simp [declareWith,adopted,here]
  · have other : entry.descriptor ≠ .application i := by
      intro same
      have old := used name entry found
      rw [same] at old
      exact fresh old
    simp only [declareWith,Function.update_of_ne other]
    exact named name entry found

theorem declareWith_inUse (used : self.InUse given) : (self.declareWith call i pv).InUse (i :: given) := by
  intro name entry found
  simp only [declareWith,OrderedDict.get?_insert] at found
  split at found
  · cases found
    exact List.mem_cons_self
  · have old := used name entry found
    cases place : entry.descriptor with
    | own k => rw [place] at old; exact old
    | application j => rw [place] at old; exact List.mem_cons_of_mem _ old

-- Declaring keeps the names apart as long as no application object comes twice.
theorem declareAll_named [Python] (named : self.Named) (used : self.InUse given)
    (separate : (calls.filterMap Declaration.descriptor).Nodup)
    (fresh : ∀ i ∈ calls.filterMap Declaration.descriptor, i ∉ given)
    (declared : self.declareAll calls = .ok next) : next.Named := by
  induction calls generalizing self given with
  | nil => cases declared; exact named
  | cons call rest ih =>
    obtain ⟨middle,first,tail⟩ := declareAll_cons declared
    obtain ⟨pv,_,cases⟩ := declare_cases first
    rcases cases with ⟨own,rfl⟩ | ⟨i,object,rfl⟩
    · rw [List.filterMap_cons_none own] at separate fresh
      exact ih (declareOwn_named named used) (declareOwn_inUse used) separate fresh tail
    · rw [List.filterMap_cons_some object] at separate fresh
      obtain ⟨notLater,separate⟩ := List.nodup_cons.mp separate
      apply ih (declareWith_named named used (fresh i List.mem_cons_self)) (declareWith_inUse used) separate _ tail
      intro j member inside
      rcases List.mem_cons.mp inside with rfl | earlier
      · exact notLater member
      · exact fresh j (List.mem_cons_of_mem _ member) earlier

theorem named_of_declared [Python] {heap : DescriptorRef → ParameterDescriptor}
    (separate : (calls.filterMap Declaration.descriptor).Nodup)
    (declared : (init heap).declareAll calls = .ok next) : next.Named := by
  have empty : (init heap).InUse [] := by intro name entry found; cases found
  apply declareAll_named _ empty separate _ declared
  · intro name entry found; cases found
  · intro i _ inside; cases inside

-- After any `declare` calls, what is stored came out of one of them.
theorem declareAll_source [Python] (holds : ParameterValue → Prop)
    (start : ∀ name value, self.valueOf name = some value → holds value)
    (each : ∀ call ∈ calls, ∀ pv, call.value.pv = .ok pv → holds pv)
    (declared : self.declareAll calls = .ok next) : ∀ name value, next.valueOf name = some value → holds value := by
  induction calls generalizing self with
  | nil => cases declared; exact start
  | cons call rest ih =>
    obtain ⟨middle,first,tail⟩ := declareAll_cons declared
    apply ih _ (fun later member => each later (List.mem_cons_of_mem _ member)) tail
    intro name value held
    obtain ⟨pv,read,cases⟩ := declare_cases first
    have latest : (if name = call.name then some pv else self.valueOf name) = some value := by
      rcases cases with ⟨_,rfl⟩ | ⟨i,_,rfl⟩
      all_goals
        rw [← held]
        simp only [valueOf,declareOwn,declareWith,OrderedDict.get?_insert]
        split <;> rfl
    split at latest
    · cases latest; exact each call List.mem_cons_self _ read
    · exact start name value latest

end ZenohDslr.Picoparams.DictParameterBackend
