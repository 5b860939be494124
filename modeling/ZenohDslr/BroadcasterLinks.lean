import ZenohDslr.Broadcasters
namespace ZenohDslr.PiRuntime
open Runs

-- The link that is made and not assigned yet, and the places on the way to it.
def LoopPc.unassigned : LoopPc → Option Nat
  | .created link => some link
  | _ => none

def LoopPc.toAssign : LoopPc → Bool
  | .creating | .created _ => true
  | _ => false

namespace Broadcast
variable {s t : Broadcast} {event : BroadcastEvent} {pc : LoopPc} {link : Nat}

def links (s : Broadcast) : List Nat := s.slot.toList ++ s.loop.unassigned.toList

-- What is open is what the broadcaster has and what could not be closed, but while
-- `stop` has closed the link and not let go of it; `stop` closes one at most.
structure Linked (s : Broadcast) : Prop where
  unfilled : s.loop.toAssign = true → s.slot = none
  opened : s.stop ≠ .clearing → s.opened = s.hung ++ s.links
  closing : ∀ link, s.stop = .closing link → s.slot = some link
  clearing : s.stop = .clearing → s.slot ≠ none ∧ s.opened = s.hung
  before : s.stop ≠ .clearing → s.stop ≠ .returned → s.hung = [] ∧ s.made = s.opened.length
  counted : s.opened.length ≤ s.made
  made : s.made + s.hung.length ≤ s.opened.length + 1

theorem unassigned_toAssign (here : s.loop.unassigned = some link) : s.loop.toAssign = true := by
  cases place : s.loop <;> simp_all [LoopPc.unassigned,LoopPc.toAssign]

theorem linked_started (kind : Broadcaster) (linked : Bool) : Linked (started kind linked) := by
  cases linked
  · exact ⟨by simp [started],fun _ => rfl,by simp [started],by simp [started],fun _ _ => ⟨rfl,rfl⟩,by simp [started],by simp [started]⟩
  · exact ⟨by simp [started,LoopPc.toAssign],fun _ => rfl,by simp [started],by simp [started],fun _ _ => ⟨rfl,rfl⟩,by simp [started],
      by simp [started]⟩

-- The loop goes on with the link in hand, if any.
theorem linked_loop (linked : Linked s) (pulses : Nat) (same : pc.unassigned = s.loop.unassigned) (unfilled : pc.toAssign = true → s.slot = none) :
    Linked {s with pulses := pulses,loop := pc} where
  unfilled := unfilled
  opened unclear := by
    rw [links,same]
    exact linked.opened unclear
  closing := linked.closing
  clearing := linked.clearing
  before := linked.before
  counted := linked.counted
  made := linked.made

theorem linked_idle (linked : Linked s) (pulses : Nat) (before : s.loop.unassigned = none) (vacant : pc.unassigned = none) (idle : pc.toAssign = false) :
    Linked {s with pulses := pulses,loop := pc} :=
  linked_loop linked pulses (vacant.trans before.symm) fun making => by rw [idle] at making; cases making

-- Without a link in the slot `stop` has none to close.
theorem linked_create (linked : Linked s) (here : s.loop = .creating) :
    Linked {s with loop := .created s.made,made := s.made + 1,opened := s.opened ++ [s.made]} := by
  have empty : s.slot = none := linked.unfilled (by simp [here,LoopPc.toAssign])
  have unclear : s.stop ≠ .clearing := fun clearing => (linked.clearing clearing).1 empty
  have nothing : s.opened = s.hung := by
    rw [linked.opened unclear]
    simp [links,empty,here,LoopPc.unassigned]
  have counted := linked.counted
  have made := linked.made
  refine ⟨fun _ => empty,fun _ => ?_,linked.closing,fun clearing => absurd clearing unclear,fun before running => ?_,?_,?_⟩
  · simp [links,empty,nothing,LoopPc.unassigned]
  · obtain ⟨none_hung,same⟩ := linked.before before running
    exact ⟨none_hung,by simp [same]⟩
  · simpa using counted
  · simp only [List.length_append,List.length_singleton]
    omega

theorem linked_assign (linked : Linked s) (here : s.loop = .created link) (vacant : pc.unassigned = none) (idle : pc.toAssign = false) :
    Linked {s with slot := some link,loop := pc} := by
  have empty : s.slot = none := linked.unfilled (by simp [here,LoopPc.toAssign])
  have unclear : s.stop ≠ .clearing := fun clearing => (linked.clearing clearing).1 empty
  refine ⟨fun making => ?_,fun _ => ?_,fun other closing => ?_,fun clearing => absurd clearing unclear,linked.before,linked.counted,linked.made⟩
  · rw [idle] at making
    cases making
  · have same : s.opened = s.hung ++ s.links := linked.opened unclear
    have alone : s.links = [link] := by simp [links,empty,here,LoopPc.unassigned]
    rw [same,alone,links,vacant]
    rfl
  · have filled := linked.closing other closing
    rw [empty] at filled
    cases filled

-- `stop` goes on without touching a link.
theorem linked_stop (linked : Linked s) {next : StopPc} (before : s.stop ≠ .clearing) (running : s.stop ≠ .returned) (stopEvent : Bool)
    (after : next ≠ .clearing) (closing : ∀ link, next = .closing link → s.slot = some link) : Linked {s with stopEvent := stopEvent,stop := next} where
  unfilled := linked.unfilled
  opened _ := linked.opened before
  closing := closing
  clearing clearing := absurd clearing after
  before _ _ := linked.before before running
  counted := linked.counted
  made := linked.made

-- The link to close is the only one there is.
theorem closing_alone (linked : Linked s) (here : s.stop = .closing link) : s.slot = some link ∧ s.hung = [] ∧ s.opened = [link] ∧ s.made = 1 := by
  have filled := linked.closing link here
  have unassigned : s.loop.unassigned = none := by
    cases place : s.loop.unassigned with
    | none => rfl
    | some other =>
      rw [linked.unfilled (unassigned_toAssign place)] at filled
      cases filled
  obtain ⟨none_hung,made⟩ := linked.before (by simp [here]) (by simp [here])
  have opened : s.opened = [link] := by
    rw [linked.opened (by simp [here]),none_hung]
    simp [links,filled,unassigned]
  exact ⟨filled,none_hung,opened,by rw [made,opened]; rfl⟩

theorem linked_close (linked : Linked s) (here : s.stop = .closing link) : Linked {s with opened := s.opened.erase link,stop := .clearing} := by
  obtain ⟨filled,none_hung,opened,made⟩ := closing_alone linked here
  exact ⟨linked.unfilled,fun unclear => absurd rfl unclear,fun other closing => (by cases closing),
    fun _ => ⟨by simp [filled],by simp [opened,none_hung]⟩,fun unclear => absurd rfl unclear,by simp [opened],by simp [opened,none_hung,made]⟩

theorem linked_hang (linked : Linked s) (here : s.stop = .closing link) : Linked {s with hung := s.hung ++ [link],stop := .clearing} := by
  obtain ⟨filled,none_hung,opened,made⟩ := closing_alone linked here
  exact ⟨linked.unfilled,fun unclear => absurd rfl unclear,fun other closing => (by cases closing),
    fun _ => ⟨by simp [filled],by simp [opened,none_hung]⟩,fun unclear => absurd rfl unclear,linked.counted,by simp [opened,none_hung,made]⟩

theorem linked_clear (linked : Linked s) (here : s.stop = .clearing) : Linked {s with slot := none,stop := .returned} := by
  obtain ⟨filled,nothing⟩ := linked.clearing here
  have unassigned : s.loop.unassigned = none := by
    cases place : s.loop.unassigned with
    | none => rfl
    | some other => exact absurd (linked.unfilled (unassigned_toAssign place)) filled
  refine ⟨fun _ => rfl,fun _ => ?_,fun other closing => (by cases closing),fun clearing => (by cases clearing),fun _ running => absurd rfl running,
    linked.counted,linked.made⟩
  simp [links,nothing,unassigned]

theorem afterPulse_idle (s : Broadcast) : s.afterPulse.unassigned = none ∧ s.afterPulse.toAssign = false := by
  unfold afterPulse
  split <;> exact ⟨rfl,rfl⟩

theorem publish_inv (step : s.advance .publish = some t) :
    ∃ link, s.loop = .publishing link ∧ t = {s with pulses := s.pulses + 1,loop := s.afterPulse} := by
  cases here : s.loop with
  | publishing link => exact ⟨link,rfl,by simpa [advance,here] using step.symm⟩
  | _ => simp [advance,here] at step

-- All cases of a step, by where the loop and the call of `stop` stand.
theorem linked_step (linked : Linked s) (step : s.advance event = some t) : Linked t := by
  cases event with
  | look =>
    dsimp only [advance] at step
    split at step
    · rename_i here
      split at step <;> cases step
      · exact linked_idle linked _ (by rw [here]; rfl) rfl rfl
      · refine linked_idle linked _ (by rw [here]; rfl) ?_ ?_
        · split <;> rfl
        · split <;> rfl
    · rename_i here
      split at step <;> cases step
      · exact linked_idle linked _ (by rw [here]; rfl) rfl rfl
      · exact linked_idle linked _ (by rw [here]; rfl) rfl rfl
    · cases step
  | wake =>
    dsimp only [advance] at step
    split at step <;> cases step
    rename_i here
    refine linked_idle linked _ (by rw [here]; rfl) ?_ ?_
    · split <;> rfl
    · split <;> rfl
  | prepare outcome =>
    dsimp only [advance] at step
    split at step
    · rename_i here
      cases step
      refine linked_idle linked _ (by rw [here]; rfl) ?_ ?_
      · split <;> rfl
      · split <;> rfl
    · rename_i here
      split at step <;> cases step
      exact linked_idle linked _ (by rw [here]; rfl) rfl rfl
    · rename_i here
      cases step
      exact linked_idle linked _ (by rw [here]; rfl) rfl rfl
    · cases step
  | put =>
    dsimp only [advance] at step
    split at step <;> cases step
    rename_i here
    refine linked_idle linked _ (by rw [here]; rfl) ?_ ?_
    · split <;> rfl
    · split <;> rfl
  | ensure =>
    dsimp only [advance] at step
    split at step <;> cases step
    · rename_i here _
      exact linked_idle linked _ (by rw [here]; rfl) rfl rfl
    · rename_i here empty
      exact linked_loop linked _ (by rw [here]; rfl) fun _ => empty
  | fetch =>
    dsimp only [advance] at step
    split at step <;> cases step
    · rename_i here _
      exact linked_idle linked _ (by rw [here]; rfl) rfl rfl
    · rename_i here _
      exact linked_idle linked _ (by rw [here]; rfl) (afterPulse_idle s).1 (afterPulse_idle s).2
  | create outcome =>
    dsimp only [advance] at step
    split at step <;> cases step
    · rename_i here
      exact linked_create linked here
    · rename_i here
      exact linked_idle linked _ (by rw [here]; rfl) (afterPulse_idle s).1 (afterPulse_idle s).2
  | assign outcome =>
    dsimp only [advance] at step
    split at step
    · rename_i here
      cases step
      exact linked_assign linked here rfl rfl
    · rename_i here
      split at step <;> cases step
      exact linked_assign linked here (afterPulse_idle s).1 (afterPulse_idle s).2
    · cases step
  | publish =>
    obtain ⟨link,here,rfl⟩ := publish_inv step
    exact linked_idle linked _ (by rw [here]; rfl) (afterPulse_idle s).1 (afterPulse_idle s).2
  | stopCalled =>
    dsimp only [advance] at step
    split at step <;> cases step
    rename_i here
    exact linked_stop linked (by simp [here]) (by simp [here]) _ (by simp) (by simp)
  | joined =>
    dsimp only [advance] at step
    split at step <;> cases step
    rename_i here
    exact linked_stop linked (by simp [here]) (by simp [here]) _ (by simp) (by simp)
  | check =>
    dsimp only [advance] at step
    split at step <;> cases step
    · rename_i here filled
      exact linked_stop linked (by simp [here]) (by simp [here]) _ (by simp) fun other closing => by cases closing; exact filled
    · rename_i here _
      exact linked_stop linked (by simp [here]) (by simp [here]) _ (by simp) (by simp)
  | close outcome =>
    dsimp only [advance] at step
    split at step <;> cases step
    · rename_i here
      exact linked_close linked here
    · rename_i here
      exact linked_hang linked here
  | clear =>
    dsimp only [advance] at step
    split at step <;> cases step
    rename_i here
    exact linked_clear linked here

end Broadcast
end ZenohDslr.PiRuntime
