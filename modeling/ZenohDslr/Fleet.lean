import ZenohDslr.RelayRun
namespace ZenohDslr.Gateway
open PiRuntime Runs

-- Many cameras on one router, each with its gateway: the router offers a sample
-- to every gateway, and each of them may miss it.
inductive FleetEvent (ι : Type) where
  | camera (k : ι) (event : RelayEvent)
  | route (k : ι) (arrives : ι → Bool) (stamp : ι → Stamp)

variable {ι : Type} [DecidableEq ι] {fleet : ι → Wiring} {s t : ι → Relay} {event : FleetEvent ι}

namespace Fleet

def offer (fleet : ι → Wiring) (k : ι) (put : Put) (rest : List Put) (arrives : Bool) (stamp : Stamp) (j : ι) (own : Relay) : Relay :=
  let fresh := if arrives then (fleet j).receive stamp ((fleet k).sample put) else []
  if j = k then {own with wire := rest,routed := own.routed ++ [(put,arrives)],published := own.published ++ fresh}
  else {own with published := own.published ++ fresh}

def advance (fleet : ι → Wiring) (s : ι → Relay) : FleetEvent ι → Option (ι → Relay)
  | .camera _ (.route _ _) => none
  | .camera k event => ((fleet k).advance (s k) event).map (Function.update s k)
  | .route k arrives stamp =>
    match (s k).wire with
    | [] => none
    | put :: rest => some fun j => offer fleet k put rest (arrives j) (stamp j) j (s j)

def initial (fleet : ι → Wiring) (k : ι) : Relay := (fleet k).initial

end Fleet

-- What one camera and its gateway have of an event of the fleet.
def FleetEvent.seenBy (j : ι) : FleetEvent ι → Option RelayEvent
  | .camera k event => if k = j then some event else none
  | .route k arrives stamp => if k = j then some (.route (arrives j) (stamp j)) else none

-- The frames of no camera lie under the prefix of another one's gateway.
structure Separate (fleet : ι → Wiring) : Prop where
  tuned : ∀ k, (fleet k).Tuned
  apart : ∀ j k, j ≠ k → ¬chunks (fleet j).settings.frameKeyPrefix <+: chunks (fleet k).settings.frameKeyPrefix

def FleetEvent.Captures (fleet : ι → Wiring) (event : FleetEvent ι) : Prop :=
  ∀ k i made, event = .camera k (.runtime (.capture i (some made))) → Keyed (fleet k).settings.toSettings made

omit [DecidableEq ι] in
theorem receive_other (separate : Separate fleet) {j k : ι} (other : j ≠ k) {put : Put} {stamp : Stamp}
    (good : ∀ made, put.made = some made → Good (fleet k).settings.toSettings made) :
    (fleet j).receive stamp ((fleet k).sample put) = [] := by
  cases put with
  | beat text =>
    unfold Wiring.receive
    split <;> rfl
  | frame made =>
    obtain ⟨captureId,plain,wellFormed⟩ := good made rfl
    have key : ((fleet k).sample (.frame made)).keyExpr = (fleet k).settings.frameKeyPrefix ++ "/" ++ captureId := wellFormed.keyed
    have outside : ¬(fleet j).keys.receives (frameKeyExpr (fleet j).settings.frameKeyPrefix)
        ((fleet k).settings.frameKeyPrefix ++ "/" ++ captureId) = true := by
      rw [receives_iff _ (separate.tuned j).valid (validKey_under (separate.tuned k).valid plain),chunks_append]
      intro under
      rcases List.prefix_or_prefix_of_prefix under (List.prefix_append _ _) with below | above
      · exact separate.apart j k other below
      · exact separate.apart k j other.symm above
    rw [Wiring.receive,(separate.tuned j).prefixed,key,if_neg outside]

-- One step of the fleet is a step of one camera, or none, to each.
theorem fleet_follows (separate : Separate fleet) (flowing : ∀ k, Flowing (fleet k) (s k)) (step : Fleet.advance fleet s event = some t) (j : ι) :
    follow (fleet j).advance (s j) (event.seenBy j) = some (t j) := by
  cases event with
  | camera k event =>
    have moved : ∃ next, (fleet k).advance (s k) event = some next ∧ t = Function.update s k next := by
      cases event with
      | route arrives stamp => cases step
      | _ =>
        obtain ⟨next,moved,same⟩ := Option.map_eq_some_iff.mp step
        exact ⟨next,moved,same.symm⟩
    obtain ⟨next,moved,rfl⟩ := moved
    by_cases own : k = j
    · subst own
      simpa [FleetEvent.seenBy,follow] using moved
    · simp [FleetEvent.seenBy,follow,own,Function.update_of_ne (Ne.symm own)]
  | route k arrives stamp =>
    simp only [Fleet.advance] at step
    split at step
    · cases step
    · rename_i put rest front
      cases step
      by_cases own : k = j
      · subst own
        simp [FleetEvent.seenBy,follow,Wiring.advance,Wiring.deliver,Fleet.offer,front]
      · have inside : put ∈ (s k).sent := by simp [Relay.sent,front]
        have nothing := @receive_other _ fleet separate j k (Ne.symm own) put (stamp j) (good_sent (flowing k) inside)
        simp [FleetEvent.seenBy,follow,Fleet.offer,own,Ne.symm own,nothing]

theorem fleet_keeps (separate : Separate fleet) (flowing : ∀ k, Flowing (fleet k) (s k)) (captures : event.Captures fleet)
    (step : Fleet.advance fleet s event = some t) (j : ι) : Flowing (fleet j) (t j) := by
  have follows := fleet_follows separate flowing step j
  cases seen : event.seenBy j with
  | none =>
    rw [seen] at follows
    rw [← Option.some.inj follows]
    exact flowing j
  | some own =>
    rw [seen] at follows
    apply flowing_step (separate.tuned j) (flowing j) ?_ follows
    intro i made same
    apply good_of_keyed
    apply captures j i made
    subst same
    cases event with
    | camera k event =>
      by_cases mine : k = j
      · simpa [FleetEvent.seenBy,mine] using seen
      · simp [FleetEvent.seenBy,mine] at seen
    | route k arrives stamp =>
      by_cases mine : k = j <;> simp [FleetEvent.seenBy,mine] at seen

-- What one camera and its gateway do is a run of theirs alone, and the gateway
-- republishes the frames of its own camera.
structure Isolated (fleet : ι → Wiring) (events : List (FleetEvent ι)) : Prop where
  alone : ∀ s j, run (Fleet.advance fleet) (Fleet.initial fleet) events = some s →
    run (fleet j).advance (fleet j).initial (events.filterMap (FleetEvent.seenBy j)) = some (s j)
  relayed : ∀ j, Throughout (Fleet.advance fleet) (fun s => Relayed (fleet j) (s j)) (Fleet.initial fleet) events

theorem fleet_flowing (separate : Separate fleet) {events : List (FleetEvent ι)} (captures : ∀ event ∈ events, event.Captures fleet) :
    Throughout (Fleet.advance fleet) (fun s => ∀ k, Flowing (fleet k) (s k)) (Fleet.initial fleet) events := by
  refine along_invariant (fun s : ι → Relay => ∀ k, Flowing (fleet k) (s k)) (fun _ event => event.Captures fleet)
    (fun _ _ _ flowing captures step => fleet_keeps separate flowing captures step) (fun k => flowing_initial (fleet k)) ?_
  intro done event rest t split ran
  apply captures event
  rw [split]
  exact List.mem_append_right done List.mem_cons_self

-- In every interleaving of the fleet.
theorem fleet_isolated (separate : Separate fleet) {events : List (FleetEvent ι)} (captures : ∀ event ∈ events, event.Captures fleet) :
    Isolated fleet events where
  alone _ j ran :=
    run_followed (fun s : ι → Relay => s j) (FleetEvent.seenBy j) (fun s => ∀ k, Flowing (fleet k) (s k)) (FleetEvent.Captures fleet)
      (fun _ _ _ flowing _ step => fleet_follows separate flowing step j)
      (fun _ _ _ flowing captures step => fleet_keeps separate flowing captures step) (fun k => flowing_initial (fleet k)) captures ran
  relayed j done rest t split ran := relayed_of_flowing (fleet_flowing separate captures done rest t split ran j)

def eosId : Bool → String
  | false => "Canon_EOS_6D"
  | true => "Canon_EOS_M50"

theorem eos_chunk (k : Bool) : PlainChunk (eosId k) := by
  cases k <;> decide

theorem eos_separate : Separate fun k => bench (eosId k) where
  tuned k := bench_tuned (eos_chunk k)
  apart j k other := by
    have first : chunks (bench (eosId j)).settings.frameKeyPrefix = ["dslr",eosId j,"frames"] := chunks_frames (eos_chunk j).whole
    have second : chunks (bench (eosId k)).settings.frameKeyPrefix = ["dslr",eosId k,"frames"] := chunks_frames (eos_chunk k).whole
    rw [first,second]
    revert other
    cases j <;> cases k <;> simp [eosId]

-- Both cameras capture at the same time, and both samples come to both gateways.
def twoRequests : List (FleetEvent Bool) :=
  let request := fun k => (oneRequest (printedFrame (benchSettings (eosId k)).toSettings)).map (FleetEvent.camera k)
  (request false).take 5 ++ request true ++ (request false).drop 5 ++ [.route true (fun _ => true) fun _ => ⟨0,0⟩,.route false (fun _ => true) fun _ => ⟨0,0⟩]

theorem twoRequests_captures : ∀ event ∈ twoRequests, event.Captures fun k => bench (eosId k) := by
  intro event inside k i made same
  subst same
  have drawn : made = printedFrame (benchSettings (eosId k)).toSettings := by
    simp [twoRequests,oneRequest] at inside
    rcases inside with ⟨rfl,_,rfl⟩ | ⟨rfl,_,rfl⟩ <;> rfl
  rw [drawn]
  exact keyed_printed _

theorem fleet_isolated_eos : Isolated (fun k => bench (eosId k)) twoRequests := fleet_isolated eos_separate twoRequests_captures

end ZenohDslr.Gateway
