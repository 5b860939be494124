import ZenohDslr.GraphSession
import ZenohDslr.LockOwner
namespace ZenohDslr.Picoros

-- Inside a `create_*`, from taking the lock to giving it back.
def Task.creating : Task → Bool
  | .idle | .outside _ _ => false
  | _ => true

def Task.pinning : Task → Bool
  | .pinned _ _ | .read _ _ _ | .left _ _ => true
  | _ => false

-- What a thread may rely on where it stands.
def Task.Valid (s : GraphSession) : Task → Prop
  | .idle | .unpinned => True
  | .locked node => ∃ nodeId, s.nodes[node]? = some nodeId
  | .saved node original => original = .fresh ∧ ∃ nodeId, s.nodes[node]? = some nodeId
  | .pinned node original | .left node original =>
    original = .fresh ∧ ∃ nodeId, s.nodes[node]? = some nodeId ∧ s.getNextNodeId = .pinned nodeId
  | .read node original nodeId => original = .fresh ∧ s.nodes[node]? = some nodeId ∧ s.getNextNodeId = .pinned nodeId
  | .outside .fresh nodeId => nodeId ∈ s.issued ∧ nodeId ∉ s.nodes
  | .outside (.pinned _) nodeId => nodeId ∈ s.nodes

namespace GraphSession
variable {s t : GraphSession} {event : Event} {k : Nat} {task : Task}

structure Consistent (s : GraphSession) : Prop where
  owned : LockOwner.Owned s.identityLock fun k => (s.tasks k).creating
  unpinned : (∀ k, (s.tasks k).pinning = false) → s.getNextNodeId = .fresh
  tasks : ∀ k, (s.tasks k).Valid s
  nodes : ∀ nodeId ∈ s.nodes, nodeId ∈ s.issued
  endpoints : ∀ e ∈ s.endpoints, e.nodeId ∈ s.issued ∧ ∀ i, e.owner = some i → s.nodes[i]? = some e.nodeId

-- The graph identity of every endpoint is that of its Node, and of no other.
structure Identity (s : GraphSession) : Prop where
  distinct : s.nodes.Nodup
  owners : ∀ e ∈ s.endpoints, ∀ i, e.owner = some i → s.nodes[i]? = some e.nodeId
  outside : ∀ e ∈ s.endpoints, e.owner = none → e.nodeId ∉ s.nodes
  restored : (∀ k, (s.tasks k).creating = false) → s.getNextNodeId = .fresh

-- No node and no endpoint of its own gets its id from a pin in place.
def Unpinned (s : GraphSession) : Event → Prop
  | .initNode _ => s.getNextNodeId = .fresh
  | .buildOutside k => ∀ source nodeId, s.tasks k = .outside source nodeId → source = .fresh
  | _ => True

theorem atTask_self : (s.atTask k task).tasks k = task := Function.update_self ..

theorem atTask_other {j : Nat} (different : j ≠ k) : (s.atTask k task).tasks j = s.tasks j := Function.update_of_ne different ..

theorem atTask_same {β : Type} (view : Task → β) (same : view task = view (s.tasks k)) (j : Nat) :
    view ((s.atTask k task).tasks j) = view (s.tasks j) := by
  by_cases here : j = k
  · rw [here,atTask_self,same]
  · rw [atTask_other here]

theorem creating_of_pinning (pinning : task.pinning = true) : task.creating = true := by
  cases task <;> first | rfl | cases pinning

-- What a thread relies on: the nodes, the ids in use and, inside a pin, the pin.
theorem valid_frame (valid : task.Valid s) (nodes : t.nodes = s.nodes) (issued : ∀ nodeId ∈ s.issued, nodeId ∈ t.issued)
    (allocator : task.pinning = true → t.getNextNodeId = s.getNextNodeId) : task.Valid t := by
  cases task with
  | idle => trivial
  | unpinned => trivial
  | locked node => simpa only [Task.Valid,nodes] using valid
  | saved node original => simpa only [Task.Valid,nodes] using valid
  | pinned node original => simpa only [Task.Valid,nodes,allocator rfl] using valid
  | read node original nodeId => simpa only [Task.Valid,nodes,allocator rfl] using valid
  | left node original => simpa only [Task.Valid,nodes,allocator rfl] using valid
  | outside source nodeId =>
    cases source with
    | fresh =>
      obtain ⟨known,apart⟩ := valid
      refine ⟨issued nodeId known,?_⟩
      rw [nodes]; exact apart
    | pinned pinnedId => simpa only [Task.Valid,nodes] using valid

theorem allocate_cases {nodeId : Nat} (allocated : s.allocate nodeId = some t) :
    (s.getNextNodeId = .fresh ∧ nodeId ∉ s.issued ∧ t = {s with issued := s.issued ++ [nodeId]}) ∨
    (s.getNextNodeId = .pinned nodeId ∧ t = s) := by
  unfold allocate at allocated
  split at allocated
  · rename_i fresh
    split at allocated
    · cases allocated
    · rename_i unused; cases allocated; exact .inl ⟨fresh,unused,rfl⟩
  · rename_i pinnedId pinned
    split at allocated
    · rename_i same; cases allocated; rw [same]; exact .inr ⟨pinned,rfl⟩
    · cases allocated

-- A pin in place is that of a node.
theorem pinned_node (consistent : Consistent s) {nodeId : Nat} (pinned : s.getNextNodeId = .pinned nodeId) : nodeId ∈ s.nodes := by
  by_cases nobody : ∀ k, (s.tasks k).pinning = false
  · rw [consistent.unpinned nobody] at pinned
    cases pinned
  · obtain ⟨k,pinning⟩ := Classical.not_forall.mp nobody
    have valid := consistent.tasks k
    have named : ∀ {node own : Nat}, s.nodes[node]? = some own → s.getNextNodeId = .pinned own → nodeId ∈ s.nodes := by
      intro node own found same
      rw [pinned] at same
      cases same
      exact List.mem_of_getElem? found
    cases here : s.tasks k with
    | pinned node original =>
      rw [here] at valid
      obtain ⟨_,own,found,same⟩ := valid
      exact named found same
    | read node original own =>
      rw [here] at valid
      exact named valid.2.1 valid.2.2
    | left node original =>
      rw [here] at valid
      obtain ⟨_,own,found,same⟩ := valid
      exact named found same
    | _ => rw [here] at pinning; exact absurd rfl pinning

theorem Consistent.valid (consistent : Consistent s) (here : s.tasks k = task) : task.Valid s := by
  rw [← here]
  exact consistent.tasks k

theorem consistent_task (consistent : Consistent s) {old : Task} (here : s.tasks k = old) (creating : task.creating = old.creating)
    (pinning : task.pinning = old.pinning) (valid : task.Valid s) : Consistent (s.atTask k task) := by
  rw [← here] at creating pinning
  refine ⟨consistent.owned.same (atTask_same Task.creating creating),?_,?_,consistent.nodes,consistent.endpoints⟩
  · intro nobody
    apply consistent.unpinned
    intro j
    exact (atTask_same Task.pinning pinning j).symm.trans (nobody j)
  · intro j
    have whole : ((s.atTask k task).tasks j).Valid s := by
      by_cases mine : j = k
      · rw [mine,atTask_self]; exact valid
      · rw [atTask_other mine]; exact consistent.tasks j
    exact valid_frame whole rfl (fun _ known => known) (fun _ => rfl)

theorem consistent_issue (consistent : Consistent s) (nodeId : Nat) : Consistent {s with issued := s.issued ++ [nodeId]} := by
  refine ⟨consistent.owned,consistent.unpinned,?_,?_,?_⟩
  · intro k
    exact valid_frame (consistent.tasks k) rfl (fun _ known => List.mem_append_left _ known) (fun _ => rfl)
  · intro own member; exact List.mem_append_left _ (consistent.nodes own member)
  · intro e member
    obtain ⟨known,owner⟩ := consistent.endpoints e member
    exact ⟨List.mem_append_left _ known,owner⟩

theorem consistent_endpoint (consistent : Consistent s) {e : Endpoint} (known : e.nodeId ∈ s.issued)
    (owner : ∀ i, e.owner = some i → s.nodes[i]? = some e.nodeId) : Consistent {s with endpoints := s.endpoints ++ [e]} := by
  refine ⟨consistent.owned,consistent.unpinned,?_,consistent.nodes,?_⟩
  · intro k
    exact valid_frame (consistent.tasks k) rfl (fun _ known => known) (fun _ => rfl)
  · intro other member
    rcases List.mem_append.mp member with old | new
    · exact consistent.endpoints other old
    · rw [List.mem_singleton.mp new]; exact ⟨known,owner⟩

theorem getElem?_grow {i nodeId : Nat} (new : Nat) (found : s.nodes[i]? = some nodeId) : (s.nodes ++ [new])[i]? = some nodeId := by
  obtain ⟨bound,_⟩ := List.getElem?_eq_some_iff.mp found
  rw [List.getElem?_append_left bound]
  exact found

theorem consistent_node (consistent : Consistent s) {nodeId : Nat} (known : nodeId ∈ s.issued)
    (apart : ∀ k other, s.tasks k = .outside .fresh other → other ≠ nodeId) : Consistent {s with nodes := s.nodes ++ [nodeId]} := by
  refine ⟨consistent.owned,consistent.unpinned,?_,?_,?_⟩
  · intro k
    have valid := consistent.tasks k
    change (s.tasks k).Valid _
    cases here : s.tasks k with
    | idle => trivial
    | unpinned => trivial
    | locked node =>
      rw [here] at valid
      obtain ⟨own,found⟩ := valid
      exact ⟨own,getElem?_grow nodeId found⟩
    | saved node original =>
      rw [here] at valid
      obtain ⟨restores,own,found⟩ := valid
      exact ⟨restores,own,getElem?_grow nodeId found⟩
    | pinned node original =>
      rw [here] at valid
      obtain ⟨restores,own,found,pin⟩ := valid
      exact ⟨restores,own,getElem?_grow nodeId found,pin⟩
    | read node original own =>
      rw [here] at valid
      obtain ⟨restores,found,pin⟩ := valid
      exact ⟨restores,getElem?_grow nodeId found,pin⟩
    | left node original =>
      rw [here] at valid
      obtain ⟨restores,own,found,pin⟩ := valid
      exact ⟨restores,own,getElem?_grow nodeId found,pin⟩
    | outside source other =>
      rw [here] at valid
      cases source with
      | fresh =>
        obtain ⟨used,outside⟩ := valid
        refine ⟨used,?_⟩
        intro member
        rcases List.mem_append.mp member with old | new
        · exact outside old
        · exact apart k other here (List.mem_singleton.mp new)
      | pinned pinnedId => exact List.mem_append_left _ valid
  · intro own member
    rcases List.mem_append.mp member with old | new
    · exact consistent.nodes own old
    · rw [List.mem_singleton.mp new]; exact known
  · intro e member
    obtain ⟨used,owner⟩ := consistent.endpoints e member
    exact ⟨used,fun i mine => getElem?_grow nodeId (owner i mine)⟩

theorem unpinning_alone (consistent : Consistent s) (mine : (s.tasks k).creating = true) {j : Nat} (different : j ≠ k) :
    (s.tasks j).pinning = false := by
  apply Bool.eq_false_iff.mpr
  intro pinning
  exact different (consistent.owned.alone j k (creating_of_pinning pinning) mine)

-- The thread inside the lock moves the pin.
theorem consistent_allocator (consistent : Consistent s) (allocator : Allocator) (mine : (s.tasks k).creating = true)
    (creating : task.creating = true) (valid : task.Valid {s with getNextNodeId := allocator})
    (restored : task.pinning = false → allocator = .fresh) : Consistent {s.atTask k task with getNextNodeId := allocator} := by
  refine ⟨consistent.owned.same (atTask_same Task.creating (creating.trans mine.symm)),?_,?_,consistent.nodes,consistent.endpoints⟩
  · intro nobody
    apply restored
    have now := nobody k
    change ((s.atTask k task).tasks k).pinning = false at now
    rw [atTask_self] at now
    exact now
  · intro j
    change ((s.atTask k task).tasks j).Valid _
    by_cases here : j = k
    · rw [here,atTask_self]
      exact valid_frame valid rfl (fun _ known => known) (fun _ => rfl)
    · rw [atTask_other here]
      refine valid_frame (consistent.tasks j) rfl (fun _ known => known) ?_
      intro pinning
      rw [unpinning_alone consistent mine here] at pinning
      cases pinning

theorem consistent_lock (consistent : Consistent s) {node nodeId : Nat} (idle : s.tasks k = .idle) (free : s.identityLock = false)
    (found : s.nodes[node]? = some nodeId) : Consistent {s.atTask k (.locked node) with identityLock := true} := by
  have owned := consistent.owned
  rw [free] at owned
  refine ⟨owned.take k ?_ ?_,?_,?_,consistent.nodes,consistent.endpoints⟩
  · change ((s.atTask k (.locked node)).tasks k).creating = true
    rw [atTask_self]; rfl
  · intro j different
    change ((s.atTask k (.locked node)).tasks j).creating = _
    rw [atTask_other different]
  · intro nobody
    apply consistent.unpinned
    intro j
    exact (atTask_same Task.pinning (by rw [idle]; rfl) j).symm.trans (nobody j)
  · intro j
    change ((s.atTask k (.locked node)).tasks j).Valid _
    by_cases here : j = k
    · rw [here,atTask_self]; exact ⟨nodeId,found⟩
    · rw [atTask_other here]
      exact valid_frame (consistent.tasks j) rfl (fun _ known => known) (fun _ => rfl)

theorem consistent_release (consistent : Consistent s) (done : s.tasks k = .unpinned) :
    Consistent {s.atTask k .idle with identityLock := false} := by
  refine ⟨consistent.owned.give (by rw [done]; rfl) ?_ ?_,?_,?_,consistent.nodes,consistent.endpoints⟩
  · change ((s.atTask k .idle).tasks k).creating = false
    rw [atTask_self]; rfl
  · intro j different
    change ((s.atTask k .idle).tasks j).creating = _
    rw [atTask_other different]
  · intro nobody
    apply consistent.unpinned
    intro j
    exact (atTask_same Task.pinning (by rw [done]; rfl) j).symm.trans (nobody j)
  · intro j
    change ((s.atTask k .idle).tasks j).Valid _
    by_cases here : j = k
    · rw [here,atTask_self]; trivial
    · rw [atTask_other here]
      exact valid_frame (consistent.tasks j) rfl (fun _ known => known) (fun _ => rfl)

theorem consistent_initNode (consistent : Consistent s) {next : GraphSession} {nodeId : Nat}
    (allocated : s.allocate nodeId = some next) : Consistent {next with nodes := next.nodes ++ [nodeId]} := by
  rcases allocate_cases allocated with ⟨_,unused,rfl⟩ | ⟨pinned,rfl⟩
  · apply consistent_node (consistent_issue consistent nodeId) (List.mem_append_right _ List.mem_cons_self)
    intro k other here same
    have known := (consistent.valid here).1
    rw [same] at known
    exact unused known
  · have member := pinned_node consistent pinned
    apply consistent_node consistent (consistent.nodes nodeId member)
    intro k other here same
    have apart := (consistent.valid here).2
    rw [same] at apart
    exact apart member

theorem consistent_readOutside (consistent : Consistent s) {next : GraphSession} {nodeId : Nat} (idle : s.tasks k = .idle)
    (allocated : s.allocate nodeId = some next) : Consistent (next.atTask k (.outside s.getNextNodeId nodeId)) := by
  rcases allocate_cases allocated with ⟨fresh,unused,rfl⟩ | ⟨pinned,rfl⟩
  · refine consistent_task (consistent_issue consistent nodeId) idle rfl rfl ?_
    rw [fresh]
    exact ⟨List.mem_append_right _ List.mem_cons_self,fun member => unused (consistent.nodes nodeId member)⟩
  · refine consistent_task consistent idle rfl rfl ?_
    rw [pinned]
    exact pinned_node consistent pinned

theorem consistent_readPinned (consistent : Consistent s) {next : GraphSession} {node nodeId : Nat} {original : Allocator}
    (here : s.tasks k = .pinned node original) (allocated : s.allocate nodeId = some next) :
    Consistent (next.atTask k (.read node original nodeId)) := by
  obtain ⟨restores,own,found,pin⟩ := consistent.valid here
  rcases allocate_cases allocated with ⟨fresh,_,_⟩ | ⟨pinned,rfl⟩
  · rw [pin] at fresh
    cases fresh
  · rw [pin] at pinned
    cases pinned
    exact consistent_task consistent here rfl rfl ⟨restores,found,pin⟩

theorem consistent_step (consistent : Consistent s) (step : s.advance event = some t) : Consistent t := by
  cases event with
  | initNode nodeId =>
    obtain ⟨next,allocated,rfl⟩ := Option.map_eq_some_iff.mp step
    exact consistent_initNode consistent allocated
  | lock k node =>
    dsimp only [advance] at step
    split at step
    · rename_i idle free found; cases step; exact consistent_lock consistent idle free found
    · cases step
  | save k =>
    dsimp only [advance] at step
    split at step
    · rename_i node here
      cases step
      refine consistent_task consistent here rfl rfl ⟨consistent.unpinned ?_,consistent.valid here⟩
      intro j
      by_cases mine : j = k
      · rw [mine,here]; rfl
      · exact unpinning_alone consistent (by rw [here]; rfl) mine
    · cases step
  | pin k =>
    dsimp only [advance] at step
    split at step
    · rename_i node original here
      obtain ⟨nodeId,found,rfl⟩ := Option.map_eq_some_iff.mp step
      refine consistent_allocator consistent _ (by rw [here]; rfl) rfl ⟨(consistent.valid here).1,nodeId,found,rfl⟩ ?_
      intro unpinned; cases unpinned
    · cases step
  | readPinned k nodeId =>
    dsimp only [advance] at step
    split at step
    · rename_i node original here
      obtain ⟨next,allocated,rfl⟩ := Option.map_eq_some_iff.mp step
      exact consistent_readPinned consistent here allocated
    · cases step
  | build k =>
    dsimp only [advance] at step
    split at step
    · rename_i node original nodeId here
      obtain ⟨restores,found,pin⟩ := consistent.valid here
      cases step
      have left : Consistent (s.atTask k (.left node original)) :=
        consistent_task consistent here rfl rfl ⟨restores,nodeId,found,pin⟩
      apply consistent_endpoint left
      · exact consistent.nodes nodeId (List.mem_of_getElem? found)
      · intro i owner; cases owner; exact found
    · cases step
  | raise k =>
    dsimp only [advance] at step
    split at step
    · rename_i node original here
      have valid := consistent.valid here
      cases step
      exact consistent_task consistent here rfl rfl valid
    · rename_i node original nodeId here
      obtain ⟨restores,found,pin⟩ := consistent.valid here
      cases step
      exact consistent_task consistent here rfl rfl ⟨restores,nodeId,found,pin⟩
    · cases step
  | unpin k =>
    dsimp only [advance] at step
    split at step
    · rename_i node original here
      cases step
      exact consistent_allocator consistent _ (by rw [here]; rfl) rfl trivial (fun _ => (consistent.valid here).1)
    · cases step
  | release k =>
    dsimp only [advance] at step
    split at step
    · rename_i done; cases step; exact consistent_release consistent done
    · cases step
  | readOutside k nodeId =>
    dsimp only [advance] at step
    split at step
    · rename_i idle
      obtain ⟨next,allocated,rfl⟩ := Option.map_eq_some_iff.mp step
      exact consistent_readOutside consistent idle allocated
    · cases step
  | buildOutside k =>
    dsimp only [advance] at step
    split at step
    · rename_i source nodeId here
      have valid := consistent.valid here
      cases step
      have idle : Consistent (s.atTask k .idle) := consistent_task consistent here rfl rfl trivial
      apply consistent_endpoint idle
      · cases source with
        | fresh => exact valid.1
        | pinned pinnedId => exact consistent.nodes nodeId valid
      · intro i owner; cases owner
    · cases step
  | raiseOutside k =>
    dsimp only [advance] at step
    split at step
    · rename_i source nodeId here; cases step; exact consistent_task consistent here rfl rfl trivial
    · cases step

theorem initial_consistent : Consistent initial := by
  refine ⟨LockOwner.owned_free fun _ => rfl,fun _ => rfl,fun _ => trivial,?_,?_⟩
  · intro nodeId member; cases member
  · intro e member; cases member

-- The part of the identity that a step can break; the rest always holds.
def Apart (s : GraphSession) : Prop := s.nodes.Nodup ∧ ∀ e ∈ s.endpoints, e.owner = none → e.nodeId ∉ s.nodes

theorem identity_exact (consistent : Consistent s) : Identity s ↔ Apart s := by
  constructor
  · intro identity; exact ⟨identity.distinct,identity.outside⟩
  · intro apart
    refine ⟨apart.1,?_,apart.2,?_⟩
    · intro e member i owner; exact (consistent.endpoints e member).2 i owner
    · intro nobody
      apply consistent.unpinned
      intro k
      apply Bool.eq_false_iff.mpr
      intro pinning
      have creating := creating_of_pinning pinning
      rw [nobody k] at creating
      cases creating

theorem apart_same (apart : Apart s) (nodes : t.nodes = s.nodes) (endpoints : t.endpoints = s.endpoints) : Apart t := by
  unfold Apart
  rw [nodes,endpoints]
  exact apart

theorem allocate_frame {nodeId : Nat} (allocated : s.allocate nodeId = some t) : t.nodes = s.nodes ∧ t.endpoints = s.endpoints := by
  rcases allocate_cases allocated with ⟨_,_,rfl⟩ | ⟨_,rfl⟩
  · exact ⟨rfl,rfl⟩
  · exact ⟨rfl,rfl⟩

theorem apart_initNode (consistent : Consistent s) (apart : Apart s) {next : GraphSession} {nodeId : Nat}
    (allocated : s.allocate nodeId = some next) :
    Apart {next with nodes := next.nodes ++ [nodeId]} ↔ s.getNextNodeId = .fresh := by
  rcases allocate_cases allocated with ⟨fresh,unused,rfl⟩ | ⟨pinned,rfl⟩
  · refine ⟨fun _ => fresh,fun _ => ⟨?_,?_⟩⟩
    · apply List.nodup_append.mpr
      refine ⟨apart.1,List.pairwise_singleton _ _,?_⟩
      intro own member new here same
      rw [List.mem_singleton.mp here] at same
      rw [same] at member
      exact unused (consistent.nodes nodeId member)
    · intro e member foreign inside
      rcases List.mem_append.mp inside with old | new
      · exact apart.2 e member foreign old
      · have used := (consistent.endpoints e member).1
        rw [List.mem_singleton.mp new] at used
        exact unused used
  · constructor
    · intro broken
      obtain ⟨_,_,different⟩ := List.nodup_append.mp broken.1
      exact absurd rfl (different nodeId (pinned_node consistent pinned) nodeId List.mem_cons_self)
    · intro fresh
      rw [pinned] at fresh
      cases fresh

theorem apart_buildOutside (consistent : Consistent s) (apart : Apart s) {source : Allocator} {nodeId : Nat}
    (here : s.tasks k = .outside source nodeId) :
    Apart {s.atTask k .idle with endpoints := s.endpoints ++ [⟨none,nodeId⟩]} ↔ source = .fresh := by
  have valid := consistent.valid here
  cases source with
  | fresh =>
    refine ⟨fun _ => rfl,fun _ => ⟨apart.1,?_⟩⟩
    intro e member foreign
    rcases List.mem_append.mp member with old | new
    · exact apart.2 e old foreign
    · rw [List.mem_singleton.mp new]; exact valid.2
  | pinned pinnedId =>
    constructor
    · intro broken
      exact absurd valid (broken.2 _ (List.mem_append_right _ List.mem_cons_self) rfl)
    · intro same; cases same

theorem identity_step (consistent : Consistent s) (identity : Identity s) (step : s.advance event = some t) :
    Identity t ↔ Unpinned s event := by
  rw [identity_exact (consistent_step consistent step)]
  have apart := (identity_exact consistent).mp identity
  cases event with
  | initNode nodeId =>
    obtain ⟨next,allocated,rfl⟩ := Option.map_eq_some_iff.mp step
    exact apart_initNode consistent apart allocated
  | buildOutside k =>
    dsimp only [advance] at step
    split at step
    · rename_i source nodeId here
      cases step
      rw [apart_buildOutside consistent apart here]
      constructor
      · intro fresh other own same
        rw [here] at same
        cases same
        exact fresh
      · intro unpinned; exact unpinned source nodeId here
    · cases step
  | build k =>
    refine ⟨fun _ => trivial,fun _ => ?_⟩
    dsimp only [advance] at step
    split at step
    · cases step
      refine ⟨apart.1,?_⟩
      intro e member foreign
      rcases List.mem_append.mp member with old | new
      · exact apart.2 e old foreign
      · rw [List.mem_singleton.mp new] at foreign
        cases foreign
    · cases step
  | readPinned k nodeId =>
    refine ⟨fun _ => trivial,fun _ => ?_⟩
    dsimp only [advance] at step
    split at step
    · obtain ⟨next,allocated,rfl⟩ := Option.map_eq_some_iff.mp step
      exact apart_same apart (allocate_frame allocated).1 (allocate_frame allocated).2
    · cases step
  | readOutside k nodeId =>
    refine ⟨fun _ => trivial,fun _ => ?_⟩
    dsimp only [advance] at step
    split at step
    · obtain ⟨next,allocated,rfl⟩ := Option.map_eq_some_iff.mp step
      exact apart_same apart (allocate_frame allocated).1 (allocate_frame allocated).2
    · cases step
  | pin k =>
    refine ⟨fun _ => trivial,fun _ => ?_⟩
    dsimp only [advance] at step
    split at step
    · obtain ⟨nodeId,_,rfl⟩ := Option.map_eq_some_iff.mp step
      exact apart_same apart rfl rfl
    · cases step
  | _ =>
    refine ⟨fun _ => trivial,fun _ => ?_⟩
    dsimp only [advance] at step
    split at step
    all_goals first
      | (cases step; exact apart_same apart rfl rfl)
      | cases step

-- Over any interleaving, graph identities stay one-to-one with Nodes exactly as
-- long as no id is taken from a pin without the lock.
theorem identity_iff_unpinned {events : List Event} {last : GraphSession} (ran : Runs.run advance initial events = some last) :
    Runs.Throughout advance Identity initial events ↔ Runs.Along advance Unpinned initial events := by
  have start : Identity initial := (identity_exact initial_consistent).mpr ⟨List.nodup_nil,fun e member => by cases member⟩
  apply Runs.throughout_iff_along Consistent Identity Unpinned _ _ initial_consistent start ran
  · intro s event t consistent step; exact consistent_step consistent step
  · intro s event t consistent identity step; exact identity_step consistent identity step

def publisherThenNode : List Event :=
  [.initNode 1,.lock 0 0,.save 0,.pin 0,.readPinned 0 1,.build 0,.unpin 0,.release 0,.initNode 2,.readOutside 1 3,.buildOutside 1]

theorem identity_iff_unpinned_publisher : Runs.Throughout advance Identity initial publisherThenNode ↔
    Runs.Along advance Unpinned initial publisherThenNode :=
  identity_iff_unpinned rfl

-- A Node is constructed while another one creates an endpoint.
def nodeDuringPin : List Event := [.initNode 1,.lock 0 0,.save 0,.pin 0,.initNode 1]

theorem node_during_pin_shares_id : ¬ Runs.Throughout advance Identity initial nodeDuringPin := by
  intro identity
  have last := identity nodeDuringPin [] _ (List.append_nil _).symm rfl
  exact absurd last.distinct (by decide)

end GraphSession
end ZenohDslr.Picoros
