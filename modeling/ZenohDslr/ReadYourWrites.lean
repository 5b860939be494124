import ZenohDslr.RequestEffects
namespace ZenohDslr.Picoparams.ParameterServer
open Rcl DictParameterBackend

abbrev Turn := Request × Except PyError Response

-- The entries of one turn that were answered successful, as the client can
-- tell from the request and the answer alone.
def acknowledgedIn : Turn → List (String × ParameterValue)
  | (.setParameters params,.ok (.setParameters results)) =>
    (params.zip results).filterMap fun pair => if pair.2.successful then decoded pair.1 else none
  | _ => []

def acknowledged (history : List Turn) : List (String × ParameterValue) := history.flatMap acknowledgedIn

def expected (declared : DictParameterBackend) (history : List Turn) (name : String) : ParameterValue :=
  match declared.valueOf name with
  | none => .notSet
  | some initial => (Writes.last? (acknowledged history) name).getD initial

-- Reads, and set requests whose values carry the type codes of the enumeration.
def Admitted : Request → Prop
  | .setParameters params => ∀ p ∈ params, p.value.type.toNat ≤ 9
  | .setParametersAtomically _ => False
  | _ => True

structure Coherent (declared : DictParameterBackend) (history : List Turn) (server : ParameterServer) : Prop where
  values : server.backend.valueOf = Writes.assignAll declared.valueOf (acknowledged history)
  known : ∀ write ∈ acknowledged history, (declared.valueOf write.1).isSome = true
  sendable : ∀ write ∈ acknowledged history, ∃ msg, paramValueToMsg write.2 = .ok msg

variable {self : ParameterServer} {declared backend : DictParameterBackend} {history : List Turn} {names : List String}
  {params : List ParameterMsg} {turn : Turn}

theorem acknowledged_snoc : acknowledged (history ++ [turn]) = acknowledged history ++ acknowledgedIn turn := by
  simp [acknowledged]

theorem valueOf_isSome {name : String} : (backend.valueOf name).isSome = (backend.params.get? name).isSome := by
  simp [valueOf]

theorem coherent_known {name : String} (coherent : Coherent declared history self)
    (present : (self.backend.valueOf name).isSome = true) : (declared.valueOf name).isSome = true := by
  rw [coherent.values,Writes.assignAll_apply] at present
  cases written : Writes.last? (acknowledged history) name with
  | some value => exact coherent.known _ (Writes.last?_mem written)
  | none => rw [written] at present; simpa using present

-- A turn that acknowledges nothing and leaves the entries alone.
theorem coherent_quiet {next : ParameterServer} (coherent : Coherent declared history self)
    (same : next.backend.params = self.backend.params) (nothing : acknowledgedIn turn = []) :
    Coherent declared (history ++ [turn]) next := by
  have values : next.backend.valueOf = self.backend.valueOf := by
    unfold valueOf
    rw [same]
  refine ⟨?_,?_,?_⟩
  · rw [acknowledged_snoc,nothing,List.append_nil,values]; exact coherent.values
  · rw [acknowledged_snoc,nothing,List.append_nil]; exact coherent.known
  · rw [acknowledged_snoc,nothing,List.append_nil]; exact coherent.sendable

-- The value read under a name is the one the conversation lets expect.
theorem coherent_expected {name : String} (coherent : Coherent declared history self) :
    (self.backend.valueOf name).getD .notSet = expected declared history name := by
  rw [coherent.values,Writes.assignAll_apply]
  unfold expected
  cases initial : declared.valueOf name with
  | some value => cases Writes.last? (acknowledged history) name <;> rfl
  | none =>
    cases written : Writes.last? (acknowledged history) name with
    | none => rfl
    | some value =>
      have present := coherent.known _ (Writes.last?_mem written)
      rw [initial] at present
      cases present

section Conversation
variable [Python]

-- An entry is answered successful exactly when its value is stored.
theorem acceptedWrite_result (p : ParameterMsg) :
    (if (judge backend p).result.1 then decoded p else none) = acceptedWrite backend p := by
  cases found : backend.descriptorOf p.name with
  | none => simp [acceptedWrite,judge,found,Judgement.result]
  | some desc =>
    cases read : paramValueFromMsg (some p.value) with
    | error e => simp [acceptedWrite,judge,found,read,Judgement.result]
    | ok pv => cases verdict : refusal desc pv <;> simp [acceptedWrite,judge,found,read,verdict,Judgement.result,decoded,Except.toOption]

theorem acknowledgedIn_set (small : ∀ p ∈ params, p.value.type.toNat ≤ 9) :
    acknowledgedIn (.setParameters params,(self.handle (.setParameters params)).1) = stored self.backend params := by
  have readable : ∀ p ∈ params, (judge self.backend p).error? = none := decodable_of_codes small
  have answer : (self.handle (.setParameters params)).1 =
      .ok (.setParameters (params.map fun p => ⟨(judge self.backend p).result.1,(judge self.backend p).result.2⟩)) := by
    change (((self.applySets params).1.map _).map _) = _
    rw [applySets_through (failure_of_decodable readable)]
    simp [Except.map]
  rw [answer,stored,reached_of_decodable readable]
  clear answer small readable
  induction params with
  | nil => rfl
  | cons p rest ih =>
    simp only [acknowledgedIn,List.map_cons,List.zip_cons_cons,List.filterMap_cons] at ih ⊢
    rw [ih]
    rw [acceptedWrite_result]

theorem coherent_handle (coherent : Coherent declared history self) {request : Request} (admitted : Admitted request) :
    Coherent declared (history ++ [(request,(self.handle request).1)]) (self.handle request).2 := by
  cases request with
  | listParameters requested => exact coherent_quiet coherent rfl rfl
  | getParameters names => exact coherent_quiet coherent rfl rfl
  | getParameterTypes names => exact coherent_quiet coherent rfl rfl
  | describeParameters names => exact coherent_quiet coherent (describeLoop_params []) rfl
  | setParametersAtomically params => exact admitted.elim
  | setParameters params =>
    have wrote : (self.handle (.setParameters params)).2.backend = self.backend.assignAll (stored self.backend params) :=
      handleSet_backend
    refine ⟨?_,?_,?_⟩
    · rw [acknowledged_snoc,acknowledgedIn_set admitted,Writes.assignAll_append,← coherent.values,wrote]
      exact assignAll_value fun write member => stored_declared member
    · rw [acknowledged_snoc,acknowledgedIn_set admitted]
      intro write member
      rcases List.mem_append.mp member with old | new
      · exact coherent.known write old
      · apply coherent_known coherent
        rw [valueOf_isSome]
        exact stored_declared new
    · rw [acknowledged_snoc,acknowledgedIn_set admitted]
      intro write member
      rcases List.mem_append.mp member with old | new
      · exact coherent.sendable write old
      · obtain ⟨p,_,accepted⟩ := List.mem_filterMap.mp new
        exact fromMsg_encodable (acceptedWrite_some accepted).2.1

-- One get request on a server whose values can all be sent.
theorem handleGet_answers (sendable : ∀ name, ∃ msg, paramValueToMsg ((self.backend.valueOf name).getD .notSet) = .ok msg) :
    ∃ values, (self.handle (.getParameters names)).1 = .ok (.getParameters values) ∧
      List.Forall₂ (fun name msg => paramValueFromMsg (some msg) = .ok ((self.backend.valueOf name).getD .notSet) ∧
        UnselectedDefault msg) names values := by
  have total : ∀ pv ∈ names.map (fun name => (self.backend.valueOf name).getD .notSet), ∃ msg, paramValueToMsg pv = .ok msg := by
    intro pv member
    obtain ⟨name,_,rfl⟩ := List.mem_map.mp member
    exact sendable name
  obtain ⟨values,encoded⟩ := Fallible.mapM_total total
  refine ⟨values,?_,?_⟩
  · change (self.handleGet names).map _ = _
    rw [handleGet_exact.mpr (List.forall₂_map_left_iff.mp (Fallible.mapM_ok.mp encoded))]
    rfl
  · have related := Fallible.mapM_ok.mp encoded
    rw [List.forall₂_map_left_iff] at related
    exact related.imp fun name msg sent => ⟨fromMsg_toMsg sent,toMsg_unselected sent⟩

-- At any point of any conversation, reading names answers one message each: the
-- last acknowledged value, else the declared one, else NOT_SET.
theorem read_your_writes {heap : DescriptorRef → ParameterDescriptor} {calls : List Declaration} {backend : DictParameterBackend}
    (native : ∀ call ∈ calls, ∃ value, call.value = .native value ∧
      ∀ pv, ParameterValue.fromPython value = .ok pv → Int64Safe pv)
    (declared : (init heap).declareAll calls = .ok backend) (fqn : String) (onSet : Option OnSet) (pub : Option EventPublisher)
    (requests : List Request) (admitted : ∀ request ∈ requests, Admitted request) (names : List String) :
    ∃ values, ((Runs.serve handle ⟨fqn,{backend with onSet},pub,[]⟩ requests).2.handle (.getParameters names)).1 =
        .ok (.getParameters values) ∧
      List.Forall₂ (fun name msg =>
        paramValueFromMsg (some msg) = .ok (expected backend (Runs.serve handle ⟨fqn,{backend with onSet},pub,[]⟩ requests).1 name) ∧
        UnselectedDefault msg) names values := by
  have start : Coherent backend [] ⟨fqn,{backend with onSet},pub,[]⟩ := by
    refine ⟨rfl,?_,?_⟩
    all_goals intro write member; cases member
  have coherent := Runs.serve_history Admitted (Coherent backend) (fun _ _ _ held admitted => coherent_handle held admitted)
    start admitted
  rw [List.nil_append] at coherent
  have initial : ∀ name value, backend.valueOf name = some value → ∃ msg, paramValueToMsg value = .ok msg := by
    apply declareAll_source (fun value => ∃ msg, paramValueToMsg value = .ok msg) _ _ declared
    · intro name value held; cases held
    · intro call member pv read
      obtain ⟨value,given,safe⟩ := native call member
      rw [given] at read
      exact toMsg_total (safe pv read)
  have sendable : ∀ name, ∃ msg,
      paramValueToMsg (((Runs.serve handle ⟨fqn,{backend with onSet},pub,[]⟩ requests).2.backend.valueOf name).getD .notSet) =
        .ok msg := by
    intro name
    rw [coherent.values,Writes.assignAll_apply]
    cases written : Writes.last? (acknowledged (Runs.serve handle ⟨fqn,{backend with onSet},pub,[]⟩ requests).1) name with
    | some value => exact coherent.sendable _ (Writes.last?_mem written)
    | none =>
      cases held : backend.valueOf name with
      | none => exact ⟨_,rfl⟩
      | some value => exact initial name value held
  obtain ⟨values,answered,related⟩ := @handleGet_answers _ names _ sendable
  refine ⟨values,answered,related.imp ?_⟩
  intro name msg both
  rw [← coherent_expected coherent]
  exact both

end Conversation

def shutterDeclarations : List Declaration := [{name := "shutter",value := .native (.str "1/60")}]

def shutterBackend : DictParameterBackend :=
  (init fun _ => {}).declareOwn {name := "shutter",value := .native (.str "1/60")} (.string "1/60")

def shutterRequests : List Request :=
  [.setParameters [⟨"shutter",{type := 4,stringValue := "1/125"}⟩,⟨"iso",{type := 2,integerValue := 200}⟩],
    .getParameterTypes ["shutter"]]

theorem read_your_writes_shutter :
    ∃ values, (@handle Python.bare
        (Runs.serve (@handle Python.bare) ⟨"/camera",{shutterBackend with onSet := none},none,[]⟩ shutterRequests).2
        (.getParameters ["shutter","iso"])).1 = .ok (.getParameters values) ∧
      List.Forall₂ (fun name msg =>
        paramValueFromMsg (some msg) = .ok (expected shutterBackend
          (Runs.serve (@handle Python.bare) ⟨"/camera",{shutterBackend with onSet := none},none,[]⟩ shutterRequests).1 name) ∧
        UnselectedDefault msg) ["shutter","iso"] values := by
  apply @read_your_writes Python.bare (fun _ => {}) shutterDeclarations shutterBackend
  · intro call member
    rw [List.mem_singleton.mp member]
    refine ⟨_,rfl,?_⟩
    intro pv read
    cases read
    trivial
  · rfl
  · intro request member
    rcases List.mem_cons.mp member with rfl | later
    · intro p inside
      rcases List.mem_cons.mp inside with rfl | last
      · decide
      · rw [List.mem_singleton.mp last]; decide
    · rw [List.mem_singleton.mp later]; trivial

end ZenohDslr.Picoparams.ParameterServer
