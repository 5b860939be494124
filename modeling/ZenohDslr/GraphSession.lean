import Mathlib.Logic.Function.Basic
import ZenohDslr.Runs
namespace ZenohDslr.Picoros

-- What `session.get_next_node_id` is bound to.
inductive Allocator where
  | fresh
  | pinned (nodeId : Nat)
  deriving DecidableEq,Repr

-- Where a thread stands: inside a `create_*` of some node, with the allocator
-- that `_pinned_node_id` has saved, or inside the constructor of an endpoint
-- that belongs to no node, with the allocator it called.
inductive Task where
  | idle
  | locked (node : Nat)
  | saved (node : Nat) (original : Allocator)
  | pinned (node : Nat) (original : Allocator)
  | read (node : Nat) (original : Allocator) (nodeId : Nat)
  | left (node : Nat) (original : Allocator)
  | unpinned
  | outside (source : Allocator) (nodeId : Nat)
  deriving DecidableEq,Repr

structure Endpoint where
  -- the node whose `create_*` made it
  owner : Option Nat
  nodeId : Nat
  deriving DecidableEq,Repr

structure GraphSession where
  getNextNodeId : Allocator
  identityLock : Bool
  -- `_node_id` of every Node object, in the order of construction
  nodes : List Nat
  endpoints : List Endpoint
  tasks : Nat → Task
  -- history: what the original allocator has returned
  issued : List Nat

inductive Event where
  | initNode (nodeId : Nat)
  | lock (k node : Nat)
  | save (k : Nat)
  | pin (k : Nat)
  | readPinned (k nodeId : Nat)
  | build (k : Nat)
  | raise (k : Nat)
  | unpin (k : Nat)
  | release (k : Nat)
  | readOutside (k nodeId : Nat)
  | buildOutside (k : Nat)
  | raiseOutside (k : Nat)
  deriving DecidableEq,Repr

namespace GraphSession

def initial : GraphSession := ⟨.fresh,false,[],[],fun _ => .idle,[]⟩

def atTask (self : GraphSession) (k : Nat) (task : Task) : GraphSession :=
  {self with tasks := Function.update self.tasks k task}

-- A call of the allocator: the original one never returns an id twice.
def allocate (self : GraphSession) (nodeId : Nat) : Option GraphSession :=
  match self.getNextNodeId with
  | .fresh => if nodeId ∈ self.issued then none else some {self with issued := self.issued ++ [nodeId]}
  | .pinned pinnedId => if nodeId = pinnedId then some self else none

def advance (self : GraphSession) : Event → Option GraphSession
  -- `Node.__init__`, which takes no lock
  | .initNode nodeId => (self.allocate nodeId).map fun next => {next with nodes := next.nodes ++ [nodeId]}
  | .lock k node =>
    match self.tasks k,self.identityLock,self.nodes[node]? with
    | .idle,false,some _ => some {self.atTask k (.locked node) with identityLock := true}
    | _,_,_ => none
  | .save k =>
    match self.tasks k with
    | .locked node => some (self.atTask k (.saved node self.getNextNodeId))
    | _ => none
  | .pin k =>
    match self.tasks k with
    | .saved node original =>
      (self.nodes[node]?).map fun nodeId => {self.atTask k (.pinned node original) with getNextNodeId := .pinned nodeId}
    | _ => none
  | .readPinned k nodeId =>
    match self.tasks k with
    | .pinned node original => (self.allocate nodeId).map fun next => next.atTask k (.read node original nodeId)
    | _ => none
  | .build k =>
    match self.tasks k with
    | .read node original nodeId =>
      some {self.atTask k (.left node original) with endpoints := self.endpoints ++ [⟨some node,nodeId⟩]}
    | _ => none
  | .raise k =>
    match self.tasks k with
    | .pinned node original | .read node original _ => some (self.atTask k (.left node original))
    | _ => none
  | .unpin k =>
    match self.tasks k with
    | .left _ original => some {self.atTask k .unpinned with getNextNodeId := original}
    | _ => none
  | .release k =>
    match self.tasks k with
    | .unpinned => some {self.atTask k .idle with identityLock := false}
    | _ => none
  | .readOutside k nodeId =>
    match self.tasks k with
    | .idle => (self.allocate nodeId).map fun next => next.atTask k (.outside self.getNextNodeId nodeId)
    | _ => none
  | .buildOutside k =>
    match self.tasks k with
    | .outside _ nodeId => some {self.atTask k .idle with endpoints := self.endpoints ++ [⟨none,nodeId⟩]}
    | _ => none
  | .raiseOutside k =>
    match self.tasks k with
    | .outside _ _ => some (self.atTask k .idle)
    | _ => none

end GraphSession
end ZenohDslr.Picoros
