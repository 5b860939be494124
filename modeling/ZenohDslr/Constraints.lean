import ZenohDslr.RequestEffects
namespace ZenohDslr.Picoparams
namespace DictParameterBackend

-- What a descriptor promises about the value stored under it.
structure Conforms (desc : ParameterDescriptor) (value : ParameterValue) : Prop where
  typed : desc.dynamicTyping = false → value.type = desc.type
  integer : ∀ v r, value = .integer v → desc.integerRange = some r → r.fromValue ≤ v ∧ v ≤ r.toValue
  double : ∀ v r, value = .double v → desc.floatingPointRange = some r →
    r.fromValue.le v = true ∧ v.le r.toValue = true ∧ v.isNaN = false

structure Constrained (origin current : DictParameterBackend) : Prop where
  names : current.params.keys = origin.params.keys
  descriptors : ∀ name, current.descriptorOf name = origin.descriptorOf name
  constant : ∀ name desc, current.descriptorOf name = some desc → desc.readOnly = true →
    current.valueOf name = origin.valueOf name
  conforms : ∀ name desc value, current.descriptorOf name = some desc → current.valueOf name = some value →
    Conforms desc value

variable {origin self after : DictParameterBackend} {desc : ParameterDescriptor} {value : ParameterValue}
  {write : String × ParameterValue} {writes : List (String × ParameterValue)}

theorem refusal_none [Python] (passed : refusal desc value = none) :
    desc.readOnly = false ∧ (desc.dynamicTyping = false → value.type = desc.type) ∧ (checkRange desc value).1 = true := by
  unfold refusal at passed
  split at passed
  · cases passed
  · rename_i writable
    split at passed
    · cases passed
    · rename_i mistyped
      split at passed
      · rename_i inside
        refine ⟨Bool.eq_false_iff.mpr writable,?_,inside⟩
        intro static
        exact Classical.byContradiction fun different => mistyped ⟨static,different⟩
      · cases passed

theorem checkRange_integer [Python] {v : Int} {r : IntegerRange} (inside : (checkRange desc (.integer v)).1 = true)
    (bounded : desc.integerRange = some r) : r.fromValue ≤ v ∧ v ≤ r.toValue := by
  simp only [checkRange,bounded] at inside
  split at inside
  · assumption
  · cases inside

-- A chained comparison with NaN is false, so a range keeps NaN out as well.
theorem checkRange_double [Python] {v : Double} {r : FloatingPointRange} (inside : (checkRange desc (.double v)).1 = true)
    (bounded : desc.floatingPointRange = some r) :
    r.fromValue.le v = true ∧ v.le r.toValue = true ∧ v.isNaN = false := by
  simp only [checkRange,bounded] at inside
  split at inside
  · rename_i both
    obtain ⟨low,high⟩ := Bool.and_eq_true_iff.mp both
    exact ⟨low,high,Double.not_nan_of_le_left high⟩
  · cases inside

theorem conforms_of_refusal [Python] (passed : refusal desc value = none) : Conforms desc value := by
  obtain ⟨_,typed,inside⟩ := refusal_none passed
  refine ⟨typed,?_,?_⟩
  · intro v r same bounded
    rw [same] at inside
    exact checkRange_integer inside bounded
  · intro v r same bounded
    rw [same] at inside
    exact checkRange_double inside bounded

theorem Named.schema (named : origin.Named) (same : SameSchema origin self) : self.Named := by
  intro name entry found
  have refs := same.refs name
  rw [found] at refs
  obtain ⟨old,present,object⟩ := Option.map_eq_some_iff.mp refs.symm
  rw [same.heap,← object]
  exact named name old present

-- The names, the objects and their contents as at the start, and what they promise.
structure Kept (origin current : DictParameterBackend) : Prop where
  schema : SameSchema origin current
  constrained : Constrained origin current

theorem kept_refl (conforming : ∀ name desc value, origin.descriptorOf name = some desc → origin.valueOf name = some value →
    Conforms desc value) : Kept origin origin :=
  ⟨.refl origin,rfl,fun _ => rfl,fun _ _ _ _ => rfl,conforming⟩

theorem kept_assign [Python] (kept : Kept origin self) (accepted : ParameterServer.accepts self write = true) :
    Kept origin (self.assign write) := by
  have same := kept.schema.trans (assign_schema self write)
  unfold ParameterServer.accepts at accepted
  split at accepted
  · cases accepted
  · rename_i desc found
    have passed := Option.isNone_iff_eq_none.mp accepted
    obtain ⟨entry,present,_⟩ := ParameterServer.declared_of_descriptor found
    have unchanged : (self.assign write).descriptorOf = self.descriptorOf := (assign_schema self write).descriptorOf
    refine ⟨same,same.keys,congrFun same.descriptorOf,?_,?_⟩
    · intro name other described fixed
      rw [unchanged] at described
      rw [assign_value present,Writes.assign_apply]
      split
      · rename_i here
        rw [here,found] at described
        cases described
        rw [(refusal_none passed).1] at fixed
        cases fixed
      · exact kept.constrained.constant name other described fixed
    · intro name other value described held
      rw [unchanged] at described
      rw [assign_value present,Writes.assign_apply] at held
      split at held
      · rename_i here
        rw [here,found] at described
        cases described
        cases held
        exact conforms_of_refusal passed
      · exact kept.constrained.conforms name other value described held

theorem kept_assignAll [Python] (kept : Kept origin self) (accepted : ∀ write ∈ writes, ParameterServer.accepts self write = true) :
    Kept origin (self.assignAll writes) := by
  induction writes generalizing self with
  | nil => exact kept
  | cons write rest ih =>
    apply ih (kept_assign kept (accepted write List.mem_cons_self))
    intro later member
    rw [ParameterServer.accepts_schema (assign_schema self write)]
    exact accepted later (List.mem_cons_of_mem _ member)

end DictParameterBackend

namespace ParameterServer
open DictParameterBackend

theorem kept_handle [Python] {origin : DictParameterBackend} {self : ParameterServer} (named : origin.Named) (request : Request)
    (kept : Kept origin self.backend) : Kept origin (self.handle request).2.backend := by
  obtain ⟨done,accepted,result⟩ := handle_backend (named.schema kept.schema) request
  rw [result]
  exact kept_assignAll kept accepted

-- Whatever is asked of the six services, in whatever order, the descriptors
-- stay as declared and every stored value obeys its own.
theorem constraints_hold [Python] {heap : DescriptorRef → ParameterDescriptor} {calls : List Declaration}
    {backend : DictParameterBackend} (separate : (calls.filterMap Declaration.descriptor).Nodup)
    (declared : (init heap).declareAll calls = .ok backend)
    (conforming : ∀ name desc value, backend.descriptorOf name = some desc → backend.valueOf name = some value →
      Conforms desc value)
    (fqn : String) (onSet : Option OnSet) (pub : Option EventPublisher) (requests : List Request) :
    Constrained backend (Runs.serve handle ⟨fqn,{backend with onSet},pub,[]⟩ requests).2.backend := by
  have names : backend.Named := named_of_declared separate declared
  have named : ({backend with onSet} : DictParameterBackend).Named := names
  have start : Kept {backend with onSet} (⟨fqn,{backend with onSet},pub,[]⟩ : ParameterServer).backend := kept_refl conforming
  have kept := Runs.serve_invariant (fun s : ParameterServer => Kept {backend with onSet} s.backend)
    (fun _ request held => kept_handle named request held) requests start
  exact ⟨kept.constrained.names,kept.constrained.descriptors,kept.constrained.constant,kept.constrained.conforms⟩

def exposureDeclarations : List Declaration :=
  [{name := "iso",value := .native (.int 400),integerRange := some {fromValue := 100,toValue := 6400}},
    {name := "lens",value := .native (.str "50mm"),readOnly := true}]

def exposureBackend : DictParameterBackend :=
  ((init fun _ => {}).declareOwn
    {name := "iso",value := .native (.int 400),integerRange := some {fromValue := 100,toValue := 6400}} (.integer 400)).declareOwn
    {name := "lens",value := .native (.str "50mm"),readOnly := true} (.string "50mm")

theorem exposureBackend_conforms (name : String) (desc : ParameterDescriptor) (value : ParameterValue)
    (described : exposureBackend.descriptorOf name = some desc) (held : exposureBackend.valueOf name = some value) :
    Conforms desc value := by
  simp only [descriptorOf,valueOf,exposureBackend,declareOwn,OrderedDict.get?_insert] at described held
  split at described
  · rename_i lens
    rw [if_pos lens] at held
    cases described; cases held
    refine ⟨fun _ => rfl,?_,?_⟩
    · intro v r same; cases same
    · intro v r same; cases same
  · rename_i other
    rw [if_neg other] at held
    split at described
    · rename_i iso
      rw [if_pos iso] at held
      cases described; cases held
      refine ⟨fun _ => rfl,?_,?_⟩
      · intro v r same bounded; cases same; cases bounded; decide
      · intro v r same; cases same
    · cases described

theorem constraints_hold_exposure :
    Constrained exposureBackend (Runs.serve (@handle Python.bare) ⟨"/camera",{exposureBackend with onSet := none},none,[]⟩
      [.setParameters [⟨"iso",{type := 2,integerValue := 200}⟩,⟨"lens",{type := 4,stringValue := "85mm"}⟩],
        .describeParameters ["lens"]]).2.backend :=
  @constraints_hold Python.bare (fun _ => {}) exposureDeclarations exposureBackend (by decide) rfl exposureBackend_conforms
    "/camera" none none _

end ParameterServer
end ZenohDslr.Picoparams
