import ZenohDslr.BroadcasterLinks
namespace ZenohDslr.PiRuntime
open Runs

-- Outside a pulse: the next thing that counts is a look at the stop flag.
def LoopPc.calm : LoopPc → Bool
  | .top | .waiting | .woken | .ended => true
  | _ => false

def LoopPc.making : LoopPc → Bool
  | .creating | .created _ => true
  | _ => false

-- The link that is open and not assigned yet.
def LoopPc.pending : LoopPc → List Nat
  | .created link => [link]
  | _ => []

def StopPc.early : StopPc → Bool
  | .notCalled | .joining => true
  | _ => false

namespace Broadcast
variable {s t : Broadcast} {event : BroadcastEvent}

def NothingOpen (s : Broadcast) : Prop := s.stop = .returned → s.opened = []

def Quiet (s : Broadcast) (event : BroadcastEvent) : Prop :=
  s.stop = .returned → ∀ t, s.advance event = some t → t.pulses = s.pulses ∧ t.made = s.made

-- After `stop` has returned nothing is published or made, and nothing is open.
def StaysStopped (s : Broadcast) (events : List BroadcastEvent) : Prop :=
  Throughout advance NothingOpen s events ∧ Along advance Quiet s events

-- The join returns with the loop outside a pulse, and the close does not raise.
structure StopsCalm (s : Broadcast) (event : BroadcastEvent) : Prop where
  joins : event = .joined → s.loop.calm = true
  closes : event ≠ .close .raised

structure Running (s : Broadcast) : Prop where
  owned : s.opened = s.slot.toList ++ s.loop.pending
  unfilled : s.loop.making = true → s.slot = none
  fetched : s.loop = .fetching → s.slot ≠ none
  flagged : s.stop = .joining → s.stopEvent = true

-- How far the call of `stop` has come with the link.
def Closed (s : Broadcast) : Prop :=
  match s.stop with
  | .checking => s.opened = s.slot.toList
  | .closing link => s.slot = some link ∧ s.opened = [link]
  | .clearing | .returned => s.opened = []
  | _ => False

structure Settled (s : Broadcast) : Prop where
  flagged : s.stopEvent = true
  calm : s.loop.calm = true
  closed : Closed s

theorem started_running (kind : Broadcaster) (linked : Bool) : Running (started kind linked) := by
  cases linked
  · exact ⟨rfl,fun making => (by cases making),fun fetching => (by cases fetching),fun joining => (by cases joining)⟩
  · exact ⟨rfl,fun making => (by cases making),fun fetching => (by cases fetching),fun joining => (by cases joining)⟩

-- Neither a link in hand nor about to make or fetch one.
def plain : LoopPc → Bool
  | .fetching | .creating | .created _ => false
  | _ => true

-- The loop moves on without a link changing hands. With the flag set a calm loop
-- can only come to its end.
structure Steers (s : Broadcast) (pc : LoopPc) (pulses : Nat) : Prop where
  before : s.loop.pending = []
  after : pc.pending = []
  unfilled : pc.making = true → s.slot = none
  fetched : pc = .fetching → s.slot ≠ none
  quiet : s.loop.calm = true → s.stopEvent = true → pc.calm = true ∧ pulses = s.pulses

-- All that one step can do.
inductive Move (s : Broadcast) : BroadcastEvent → Broadcast → Prop where
  | steer (event : BroadcastEvent) (pc : LoopPc) (pulses : Nat) (steers : Steers s pc pulses) : Move s event {s with loop := pc,pulses}
  | create (event : BroadcastEvent) (here : s.loop = .creating) :
    Move s event {s with loop := .created s.made,made := s.made + 1,opened := s.opened ++ [s.made]}
  | assign (event : BroadcastEvent) (link : Nat) (pc : LoopPc) (here : s.loop = .created link) (after : plain pc = true) :
    Move s event {s with slot := some link,loop := pc}
  | stopCalled (event : BroadcastEvent) (here : s.stop = .notCalled) :
    Move s event {s with stopEvent := true,stop := .joining}
  | joined (here : s.stop = .joining) : Move s .joined {s with stop := .checking}
  | full (event : BroadcastEvent) (link : Nat) (here : s.stop = .checking) (full : s.slot = some link) :
    Move s event {s with stop := .closing link}
  | empty (event : BroadcastEvent) (here : s.stop = .checking) (empty : s.slot = none) :
    Move s event {s with stop := .returned}
  | close (event : BroadcastEvent) (link : Nat) (here : s.stop = .closing link) :
    Move s event {s with opened := s.opened.erase link,stop := .clearing}
  | hang (link : Nat) (here : s.stop = .closing link) :
    Move s (.close .raised) {s with hung := s.hung ++ [link],stop := .clearing}
  | clear (event : BroadcastEvent) (here : s.stop = .clearing) : Move s event {s with slot := none,stop := .returned}

theorem plain_facts {pc : LoopPc} (simple : plain pc = true) : pc.pending = [] ∧ pc.making = false ∧ pc ≠ .fetching := by
  cases pc <;> first | (cases simple; done) | exact ⟨rfl,rfl,by simp⟩

theorem afterPulse_plain (s : Broadcast) : plain s.afterPulse = true := by
  unfold afterPulse
  split <;> rfl

theorem steers_plain {old pc : LoopPc} {pulses : Nat} (here : s.loop = old) (before : old.pending = []) (after : plain pc = true)
    (quiet : old.calm = true → s.stopEvent = true → pc.calm = true ∧ pulses = s.pulses) : Steers s pc pulses := by
  obtain ⟨pending,unmade,unfetched⟩ := plain_facts after
  subst here
  exact ⟨before,pending,fun made => (by rw [made] at unmade; cases unmade),fun fetching => absurd fetching unfetched,quiet⟩

theorem steers_busy {old pc : LoopPc} {pulses : Nat} (here : s.loop = old) (before : old.pending = []) (busy : old.calm = false)
    (after : plain pc = true) : Steers s pc pulses :=
  steers_plain here before after fun calm => by rw [busy] at calm; cases calm

theorem move_of_step (step : s.advance event = some t) : Move s event t := by
  cases event with
  | look =>
    dsimp only [advance] at step
    split at step
    · rename_i here
      split at step
      · cases step
        exact .steer _ .ended s.pulses (steers_plain here rfl rfl fun _ _ => ⟨rfl,rfl⟩)
      · rename_i unset
        cases step
        refine .steer _ _ s.pulses (steers_plain here rfl ?_ fun _ set => absurd set unset)
        cases s.kind.waitsFirst <;> rfl
    · rename_i here
      split at step
      · cases step
        exact .steer _ .ended s.pulses (steers_plain here rfl rfl fun _ _ => ⟨rfl,rfl⟩)
      · rename_i unset
        cases step
        exact .steer _ .preparing s.pulses (steers_plain here rfl rfl fun _ set => absurd set unset)
    · cases step
  | wake =>
    dsimp only [advance] at step
    split at step
    · rename_i here
      cases step
      refine .steer _ _ s.pulses (steers_plain here rfl ?_ fun _ _ => ⟨?_,rfl⟩)
      · cases s.kind.waitsFirst <;> rfl
      · cases s.kind.waitsFirst <;> rfl
    · cases step
  | prepare outcome =>
    dsimp only [advance] at step
    split at step
    · rename_i here
      cases step
      refine .steer _ _ s.pulses (steers_busy here rfl rfl ?_)
      cases s.kind.putsFirst <;> rfl
    · rename_i here
      split at step
      · cases step
        exact .steer _ .top s.pulses (steers_busy here rfl rfl rfl)
      · cases step
    · rename_i here
      cases step
      exact .steer _ .ended s.pulses (steers_busy here rfl rfl rfl)
    · cases step
  | put =>
    dsimp only [advance] at step
    split at step
    · rename_i here
      cases step
      refine .steer _ _ (s.pulses + 1) (steers_busy here rfl rfl ?_)
      cases s.kind.hasLink <;> rfl
    · cases step
  | ensure =>
    dsimp only [advance] at step
    split at step
    · rename_i here full
      cases step
      exact .steer _ .fetching s.pulses ⟨by rw [here]; rfl,rfl,fun making => (by cases making),fun _ => by simp [full],
        fun calm => by rw [here] at calm; cases calm⟩
    · rename_i here empty
      cases step
      exact .steer _ .creating s.pulses ⟨by rw [here]; rfl,rfl,fun _ => empty,fun fetching => (by cases fetching),
        fun calm => by rw [here] at calm; cases calm⟩
    · cases step
  | fetch =>
    dsimp only [advance] at step
    split at step
    · rename_i link here _
      cases step
      exact .steer _ (.publishing link) s.pulses (steers_busy here rfl rfl rfl)
    · rename_i here _
      cases step
      exact .steer _ s.afterPulse s.pulses (steers_busy here rfl rfl (afterPulse_plain s))
    · cases step
  | create outcome =>
    dsimp only [advance] at step
    split at step
    · rename_i here
      cases step
      exact .create _ here
    · rename_i here
      cases step
      exact .steer _ s.afterPulse s.pulses (steers_busy here rfl rfl (afterPulse_plain s))
    · cases step
  | assign outcome =>
    dsimp only [advance] at step
    split at step
    · rename_i link here
      cases step
      exact .assign _ link (.publishing link) here rfl
    · rename_i link here
      split at step
      · cases step
        exact .assign _ link s.afterPulse here (afterPulse_plain s)
      · cases step
    · cases step
  | publish =>
    dsimp only [advance] at step
    split at step
    · rename_i link here
      cases step
      exact .steer _ s.afterPulse (s.pulses + 1) (steers_busy here rfl rfl (afterPulse_plain s))
    · cases step
  | stopCalled =>
    dsimp only [advance] at step
    split at step
    · rename_i here; cases step; exact .stopCalled _ here
    · cases step
  | joined =>
    dsimp only [advance] at step
    split at step
    · rename_i here; cases step; exact .joined here
    · cases step
  | check =>
    dsimp only [advance] at step
    split at step
    · rename_i link here full; cases step; exact .full _ link here full
    · rename_i here empty; cases step; exact .empty _ here empty
    · cases step
  | close outcome =>
    dsimp only [advance] at step
    split at step
    · rename_i link here; cases step; exact .close _ link here
    · rename_i link here; cases step; exact .hang link here
    · cases step
  | clear =>
    dsimp only [advance] at step
    split at step
    · rename_i here; cases step; exact .clear _ here
    · cases step

theorem running_step (running : Running s) (step : s.advance event = some t) (after : t.stop.early = true) : Running t := by
  cases move_of_step step with
  | steer event pc pulses steers =>
    have owned : s.opened = s.slot.toList := by simpa [steers.before] using running.owned
    exact ⟨by simp [owned,steers.after],steers.unfilled,steers.fetched,running.flagged⟩
  | create event here =>
    have empty := running.unfilled (by rw [here]; rfl)
    have none_open : s.opened = [] := by simpa [here,empty,LoopPc.pending] using running.owned
    exact ⟨by simp [none_open,empty,LoopPc.pending],fun _ => empty,fun fetching => (by cases fetching),running.flagged⟩
  | assign event link pc here simple =>
    obtain ⟨pending,unmade,unfetched⟩ := plain_facts simple
    have empty := running.unfilled (by rw [here]; rfl)
    have alone : s.opened = [link] := by simpa [here,empty,LoopPc.pending] using running.owned
    refine ⟨by simp [alone,pending],fun made => ?_,fun fetching => absurd fetching unfetched,running.flagged⟩
    rw [show pc.making = true from made] at unmade
    cases unmade
  | stopCalled event here => exact ⟨running.owned,running.unfilled,running.fetched,fun _ => rfl⟩
  | joined | full | empty | close | hang | clear => cases after

theorem settled_step (settled : Settled s) (closes : event ≠ .close .raised) (step : s.advance event = some t) :
    Settled t ∧ t.pulses = s.pulses ∧ t.made = s.made := by
  have outside : ∀ pc, s.loop = pc → pc.calm = true := fun pc here => here ▸ settled.calm
  have closed := settled.closed
  cases move_of_step step with
  | steer event pc pulses steers =>
    obtain ⟨calm,silent⟩ := steers.quiet settled.calm settled.flagged
    exact ⟨⟨settled.flagged,calm,closed⟩,silent,rfl⟩
  | create event here => cases outside _ here
  | assign event link pc here => cases outside _ here
  | stopCalled event here | joined here =>
    rw [Closed,here] at closed
    exact closed.elim
  | full event link here full =>
    rw [Closed,here] at closed
    exact ⟨⟨settled.flagged,settled.calm,full,by rw [closed,full]; rfl⟩,rfl,rfl⟩
  | empty event here empty =>
    rw [Closed,here] at closed
    exact ⟨⟨settled.flagged,settled.calm,by simpa [Closed,empty] using closed⟩,rfl,rfl⟩
  | close event link here =>
    rw [Closed,here] at closed
    exact ⟨⟨settled.flagged,settled.calm,by simp [Closed,closed.2]⟩,rfl,rfl⟩
  | hang link here => exact absurd rfl closes
  | clear event here =>
    rw [Closed,here] at closed
    exact ⟨⟨settled.flagged,settled.calm,closed⟩,rfl,rfl⟩

theorem settled_nothing (settled : Settled s) : NothingOpen s := by
  intro returned
  have closed := settled.closed
  rw [Closed,returned] at closed
  exact closed

theorem settled_quiet (settled : Settled s) (event : BroadcastEvent) : Quiet s event := by
  intro returned t step
  have closes : event ≠ .close .raised := by
    rintro rfl
    simp [advance,returned] at step
  exact (settled_step settled closes step).2

theorem joined_settled (running : Running s) (calm : s.loop.calm = true) (here : s.stop = .joining) :
    Settled {s with stop := .checking} := by
  refine ⟨running.flagged here,calm,?_⟩
  have clear : s.loop.pending = [] := by cases pc : s.loop <;> first | rfl | (rw [pc] at calm; cases calm)
  simpa [Closed,clear] using running.owned

-- Before the join the loop runs as it likes; behind a calm join it is settled.
def Orderly (s : Broadcast) : Prop := s.stop.early = true ∧ Running s ∨ Settled s

theorem joined_inv (step : s.advance .joined = some t) : s.stop = .joining ∧ t = {s with stop := .checking} := by
  dsimp only [advance] at step
  split at step
  · rename_i here
    cases step
    exact ⟨here,rfl⟩
  · cases step

-- Only the return of the join ends what is before it.
theorem early_step (step : s.advance event = some t) :
    t.stop.early = s.stop.early ∨ event = .joined ∧ s.stop = .joining ∧ t = {s with stop := .checking} := by
  cases move_of_step step with
  | steer | create | assign => exact .inl rfl
  | stopCalled event here => exact .inl (by rw [here]; rfl)
  | joined here => exact .inr ⟨rfl,here,rfl⟩
  | full event link here | empty event here | close event link here | hang link here | clear event here =>
    exact .inl (by rw [here]; rfl)

theorem orderly_step (orderly : Orderly s) (meets : StopsCalm s event) (step : s.advance event = some t) : Orderly t := by
  rcases orderly with ⟨early,running⟩ | settled
  · rcases early_step step with same | ⟨event_joined,here,rfl⟩
    · rw [early] at same
      exact .inl ⟨same,running_step running step same⟩
    · exact .inr (joined_settled running (meets.joins event_joined) here)
  · exact .inr (settled_step settled meets.closes step).1

theorem orderly_nothing (orderly : Orderly s) : NothingOpen s := by
  rcases orderly with ⟨early,_⟩ | settled
  · intro returned
    rw [returned] at early
    cases early
  · exact settled_nothing settled

theorem orderly_quiet (orderly : Orderly s) (event : BroadcastEvent) : Quiet s event := by
  rcases orderly with ⟨early,_⟩ | settled
  · intro returned
    rw [returned] at early
    cases early
  · exact settled_quiet settled event

theorem staysStopped_of_orderly (orderly : Orderly s) {events : List BroadcastEvent} (calm : Along advance StopsCalm s events) :
    StaysStopped s events := by
  have always := along_invariant Orderly StopsCalm (fun _ _ _ held meets step => orderly_step held meets step) orderly calm
  refine ⟨?_,?_⟩
  · intro done rest t split ran
    exact orderly_nothing (always done rest t split ran)
  · intro done event rest t split ran
    exact orderly_quiet (always done (event :: rest) t split ran) event

theorem early_running {kind : Broadcaster} {linked : Bool} {events : List BroadcastEvent}
    (ran : run advance (started kind linked) events = some s) (early : s.stop.early = true) : Running s := by
  have keeps : ∀ (s : Broadcast) event t, (s.stop.early = true → Running s) → s.advance event = some t →
      t.stop.early = true → Running t := by
    intro s event t held step after
    rcases early_step step with same | ⟨_,_,rfl⟩
    · exact running_step (held (same ▸ after)) step after
    · cases after
  exact run_invariant (fun s => s.stop.early = true → Running s) keeps (fun _ => started_running kind linked) ran early

theorem settled_stays (settled : Settled s) {events : List BroadcastEvent} (closes : .close .raised ∉ events) : StaysStopped s events := by
  have met : Along advance (fun _ event => event ≠ .close .raised) s events := by
    rintro done event rest t rfl _ rfl
    exact closes (List.mem_append_right done List.mem_cons_self)
  have always := along_invariant Settled _ (fun _ _ _ held closes step => (settled_step held closes step).1) settled met
  refine ⟨?_,?_⟩
  · intro done rest t split ran
    exact settled_nothing (always done rest t split ran)
  · intro done event rest t split ran
    exact settled_quiet (always done (event :: rest) t split ran) event

-- Some continuation pulses, makes a link or leaves one open after the return, though
-- no close raises.
def Breaks (s : Broadcast) : Prop := ∃ events, .close .raised ∉ events ∧ ¬ StaysStopped s events

theorem breaks_step (step : s.advance event = some t) (closes : event ≠ .close .raised) (later : Breaks t) : Breaks s := by
  obtain ⟨events,others,broken⟩ := later
  refine ⟨event :: events,?_,fun both => broken ⟨?_,?_⟩⟩
  · rw [List.mem_cons]
    rintro (same | inside)
    · exact closes same.symm
    · exact others inside
  · exact ((throughout_cons step).mp both.1).2
  · exact ((along_cons step).mp both.2).2

theorem breaks_now (returned : s.stop = .returned) (step : s.advance event = some t)
    (loud : t.pulses ≠ s.pulses ∨ t.made ≠ s.made) : Breaks s := by
  have closes : .close .raised ∉ [event] := by
    rw [List.mem_singleton]
    rintro rfl
    simp [advance,returned] at step
  refine ⟨[event],closes,fun both => ?_⟩
  have quiet := both.2 [] event [] s rfl rfl returned t step
  rcases loud with pulsed | made
  · exact pulsed quiet.1
  · exact made quiet.2

theorem publishing_breaks {link : Nat} (returned : s.stop = .returned) (here : s.loop = .publishing link) : Breaks s := by
  have step : s.advance .publish = some {s with pulses := s.pulses + 1,loop := s.afterPulse} := by simp [advance,here]
  exact breaks_now returned step (.inl (by simp))

theorem creating_breaks (returned : s.stop = .returned) (here : s.loop = .creating) : Breaks s := by
  have step : s.advance (.create .returned) =
      some {s with loop := .created s.made,made := s.made + 1,opened := s.opened ++ [s.made]} := by simp [advance,here]
  exact breaks_now returned step (.inr (by simp))

theorem ensuring_breaks (returned : s.stop = .returned) (empty : s.slot = none) (here : s.loop = .ensuring) : Breaks s := by
  have step : s.advance .ensure = some {s with loop := .creating} := by simp [advance,here,empty]
  exact breaks_step step (by simp) (creating_breaks returned rfl)

theorem sending_breaks (returned : s.stop = .returned) (here : s.loop = .sending) : Breaks s := by
  have step : s.advance .put =
      some {s with pulses := s.pulses + 1,loop := if s.kind.hasLink then .ensuring else .waiting} := by simp [advance,here]
  exact breaks_now returned step (.inl (by simp))

theorem preparing_breaks (returned : s.stop = .returned) (empty : s.slot = none) (here : s.loop = .preparing) : Breaks s := by
  have step : s.advance (.prepare .ready) = some {s with loop := if s.kind.putsFirst then .sending else .ensuring} := by
    simp [advance,here]
  apply breaks_step step (by simp)
  cases s.kind.putsFirst
  · exact ensuring_breaks returned empty rfl
  · exact sending_breaks returned rfl

theorem created_breaks {link : Nat} (returned : s.stop = .returned) (here : s.loop = .created link) : Breaks s := by
  have step : s.advance (.assign .returned) = some {s with slot := some link,loop := .publishing link} := by
    simp [advance,here]
  exact breaks_step step (by simp) (publishing_breaks returned rfl)

-- What is left of `stop` takes no time and leaves the loop where it is.
theorem breaks_returned (checking : s.stop = .checking)
    (later : ∀ opened, Breaks {s with slot := none,opened,stop := .returned}) : Breaks s := by
  cases slot : s.slot with
  | none =>
    have check : s.advance .check = some {s with stop := .returned} := by simp [advance,checking,slot]
    have whole : ({s with stop := .returned} : Broadcast) = {s with slot := none,opened := s.opened,stop := .returned} := by
      rw [← slot]
    rw [whole] at check
    exact breaks_step check (by simp) (later s.opened)
  | some link =>
    have check : s.advance .check = some {s with stop := .closing link} := by simp [advance,checking,slot]
    exact breaks_step check (by simp) (@breaks_step _ _ (.close .returned) rfl (by simp) (@breaks_step _ _ .clear rfl (by simp) (later _)))

theorem joined_breaks (running : Running s) (busy : s.loop.calm = false) : Breaks {s with stop := .checking} := by
  cases here : s.loop with
  | top | waiting | woken | ended => rw [here] at busy; cases busy
  | preparing => exact breaks_returned rfl fun _ => preparing_breaks rfl rfl rfl
  | sending => exact breaks_returned rfl fun _ => sending_breaks rfl rfl
  | ensuring => exact breaks_returned rfl fun _ => ensuring_breaks rfl rfl rfl
  | creating => exact breaks_returned rfl fun _ => creating_breaks rfl rfl
  | created link => exact breaks_returned rfl fun _ => created_breaks rfl rfl
  | publishing link => exact breaks_returned rfl fun _ => publishing_breaks rfl rfl
  | fetching =>
    obtain ⟨link,full⟩ := Option.ne_none_iff_exists'.mp (running.fetched here)
    have fetch : ({s with loop := .fetching,stop := .checking} : Broadcast).advance .fetch =
        some {s with loop := .publishing link,stop := .checking} := by simp [advance,full]
    refine breaks_step fetch (by simp) (breaks_returned rfl fun opened => ?_)
    exact @publishing_breaks {s with loop := .publishing link,slot := none,opened,stop := .returned} link rfl rfl

-- Behind the close nothing takes an open link back.
theorem open_step {link : Nat} (late : s.stop = .clearing ∨ s.stop = .returned) (inside : link ∈ s.opened) (step : s.advance event = some t) :
    (t.stop = .clearing ∨ t.stop = .returned) ∧ link ∈ t.opened := by
  cases move_of_step step with
  | steer | assign => exact ⟨late,inside⟩
  | create => exact ⟨late,List.mem_append_left _ inside⟩
  | clear => exact ⟨.inr rfl,inside⟩
  | stopCalled event here | joined here | full event link here | empty event here | close event link here | hang link here =>
    rw [here] at late
    rcases late with early | early <;> cases early

-- A link whose close raises is open from then on.
theorem hung_open {kind : Broadcaster} {linked : Bool} {events rest : List BroadcastEvent} {u : Broadcast}
    (ran : run advance (started kind linked) events = some s) (step : s.advance (.close .raised) = some t)
    (later : run advance t rest = some u) : u.opened ≠ [] := by
  have here := run_invariant Linked (fun _ _ _ before step => linked_step before step) (linked_started kind linked) ran
  cases stage : s.stop with
  | closing link =>
    obtain ⟨_,_,opened,_⟩ := closing_alone here stage
    have next : t = {s with hung := s.hung ++ [link],stop := .clearing} := by simpa [advance,stage] using step.symm
    have kept := run_invariant (fun s => (s.stop = .clearing ∨ s.stop = .returned) ∧ link ∈ s.opened)
      (fun _ _ _ before step => open_step before.1 before.2 step) (by rw [next]; exact ⟨.inl rfl,by simp [opened]⟩) later
    exact List.ne_nil_of_mem kept.2
  | _ => simp [advance,stage] at step

theorem staysStopped_iff_stopsCalm (kind : Broadcaster) (linked : Bool) :
    (∀ events, Along advance StopsCalm (started kind linked) events → StaysStopped (started kind linked) events) ∧
    (∀ events s t, run advance (started kind linked) events = some s → s.advance .joined = some t →
      ((∀ rest, .close .raised ∉ rest → StaysStopped t rest) ↔ s.loop.calm = true)) ∧
    (∀ events s t, run advance (started kind linked) events = some s → s.advance (.close .raised) = some t →
      ∀ rest u, run advance t rest = some u → u.opened ≠ []) := by
  refine ⟨?_,?_,?_⟩
  · intro events calm
    exact staysStopped_of_orderly (.inl ⟨by cases linked <;> rfl,started_running kind linked⟩) calm
  · intro events s t ran step
    obtain ⟨here,rfl⟩ := joined_inv step
    have running := early_running ran (by rw [here]; rfl)
    constructor
    · intro stays
      cases calm : s.loop.calm with
      | true => rfl
      | false =>
        obtain ⟨rest,closes,broken⟩ := joined_breaks running calm
        exact absurd (stays rest closes) broken
    · intro calm rest closes
      exact settled_stays (joined_settled running calm here) closes
  · intro events s t ran step rest u later
    exact hung_open ran step later

-- The loop of the online pulse is about to make its client when the join gives
-- up: the client is made, and a pulse goes out, after `stop` has returned.
def slowConnect : List BroadcastEvent :=
  [.look,.wake,.look,.prepare .ready,.ensure,.stopCalled,.joined,.check,.create .returned]

theorem stopped_pulse_goes_on : ¬ ∀ kind linked events, StaysStopped (started kind linked) events := by
  intro always
  have nothing := (always .pgwaamOnline false slowConnect).1 slowConnect [] _ rfl rfl rfl
  cases nothing

end Broadcast
end ZenohDslr.PiRuntime
