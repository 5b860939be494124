import ZenohDslr.RelayRun
namespace ZenohDslr.Gateway
open PiRuntime PiDslrRuntime Runs

variable {w : Wiring} {s t : Relay} {event : RelayEvent} {before after : List Put} {text : String}

def framesIn (puts : List Put) : Nat := (puts.filterMap Put.made).length

def beatsIn (puts : List Put) : Nat := (puts.filterMap Put.text).length

-- A later heartbeat has a higher number and counts no fewer captures.
def Rises (first second : String) : Prop :=
  ∃ a b, readBeat first = some a ∧ readBeat second = some b ∧ a.seq < b.seq ∧ a.captureCount ≤ b.captureCount

-- A heartbeat counts no frame put behind it, and is numbered behind all
-- heartbeats before it.
structure Placed (before : List Put) (text : String) (seq count : Nat) : Prop where
  read : readBeat text = some ⟨seq,count⟩
  numbered : beatsIn before ≤ seq
  counted : count ≤ framesIn before

-- Of the frames put before the last heartbeat it misses one at most.
def Fresh (before : List Put) (text : String) : Prop := ∃ seq count : Nat, readBeat text = some ⟨seq,count⟩ ∧ framesIn before ≤ count + 1

structure Monitored (s : Relay) : Prop where
  placed : ∀ before text after, s.sent = before ++ .beat text :: after → ∃ seq count, Placed before text seq count
  fresh : ∀ before first between second after, s.sent = before ++ .beat first :: between ++ .beat second :: after → Fresh before second
  rising : (s.arrived.filterMap Put.text).Pairwise Rises

-- A heartbeat that is built: behind all heartbeats sent, whatever is put before
-- it is put.
structure Due (s : Relay) (text : String) (count : Nat) : Prop where
  read : readBeat text = some ⟨s.seq,count⟩
  listed : count ∈ s.runtime.heartbeats
  counted : count ≤ framesIn s.sent
  fresh : ∀ before first after, s.sent = before ++ .beat first :: after → framesIn before ≤ count + 1
  rising : ∀ first ∈ s.sent.filterMap Put.text, Rises first text

structure Beating (s : Relay) : Prop where
  orderly : Orderly s.runtime
  order : s.sent.filterMap Put.made = landed s.runtime.effects
  numbered : beatsIn s.sent ≤ s.seq
  placed : ∀ before text after, s.sent = before ++ .beat text :: after →
    ∃ seq count, Placed before text seq count ∧ seq < s.seq ∧ count ∈ s.runtime.heartbeats
  fresh : ∀ before first between second after, s.sent = before ++ .beat first :: between ++ .beat second :: after → Fresh before second
  rising : (s.sent.filterMap Put.text).Pairwise Rises
  due : ∀ text, s.pulse = some text → ∃ count, Due s text count

-- A member of a list put together lies in the one part or in the other.
theorem split_append {α : Type} {xs ys front back : List α} {x : α} (split : xs ++ ys = front ++ x :: back) :
    (∃ rest, xs = front ++ x :: rest) ∨ ∃ rest, ys = rest ++ x :: back ∧ front = xs ++ rest := by
  rcases List.append_eq_append_iff.mp split with ⟨rest,front,tail⟩ | ⟨rest,whole,tail⟩
  · exact .inr ⟨rest,tail,front⟩
  · cases rest with
    | nil =>
      rw [List.append_nil] at whole
      exact .inr ⟨[],by simpa using tail.symm,by simp [whole]⟩
    | cons y rest =>
      obtain ⟨rfl,_⟩ := List.cons.inj tail
      exact .inl ⟨rest,whole⟩

theorem landed_length (effects : List (Effect BackendFrame)) : (landed effects).length = puts effects := by
  have same : ∀ effect : Effect BackendFrame, effect.landed.isSome = effect.isPut := by
    rintro ⟨call,action,outcome⟩
    cases action <;> cases outcome <;> rfl
  rw [landed,puts,List.length_filterMap_eq_countP,List.countP_eq_length_filter]
  congr 2
  exact funext same

theorem count_bounds {runtime : PiDslrRuntime BackendFrame} (orderly : Orderly runtime) :
    runtime.captureCount ≤ (landed runtime.effects).length ∧ (landed runtime.effects).length ≤ runtime.captureCount + 1 := by
  rw [landed_length]
  by_cases busy : ∃ k read, (runtime.calls k).counting = some read
  · obtain ⟨k,read,counting⟩ := busy
    have one := (orderly.counted.pending k read counting).1
    omega
  · have settled := orderly.counted.settled fun k => by
      cases counting : (runtime.calls k).counting with
      | none => rfl
      | some read => exact absurd ⟨k,read,counting⟩ busy
    omega

theorem texts_frames (frames : List BackendFrame) : (frames.map Put.frame).filterMap Put.text = [] := by
  induction frames with
  | nil => rfl
  | cons first rest ih => exact ih

theorem beating_initial (w : Wiring) : Beating w.initial where
  orderly := initial_orderly _ _
  order := rfl
  numbered := Nat.le_refl 0
  placed before text after split := by simp [Wiring.initial,Relay.sent] at split
  fresh before first between second after split := by simp [Wiring.initial,Relay.sent] at split
  rising := .nil
  due text waiting := by cases waiting

theorem framesIn_append (front back : List Put) : framesIn (front ++ back) = framesIn front + framesIn back := by
  simp [framesIn]

-- A heartbeat among frames that follow others is one of the others.
theorem split_frames {sent front back : List Put} {frames : List BackendFrame} {text : String}
    (split : sent ++ frames.map Put.frame = front ++ .beat text :: back) : ∃ rest, sent = front ++ .beat text :: rest := by
  rcases split_append split with old | ⟨rest,new,_⟩
  · exact old
  · have inside : Put.beat text ∈ frames.map Put.frame := by rw [new]; exact List.mem_append_right _ List.mem_cons_self
    simp at inside

-- Frames put behind the rest leave the heartbeats where they stand.
theorem beating_frames {next : PiDslrRuntime BackendFrame} {frames : List BackendFrame} (beating : Beating s)
    (orderly : Orderly next) (grown : landed next.effects = landed s.runtime.effects ++ frames)
    (kept : next.heartbeats = s.runtime.heartbeats) :
    Beating ⟨next,s.seq,s.pulse,s.wire ++ frames.map .frame,s.routed,s.published⟩ := by
  have sent : Relay.sent ⟨next,s.seq,s.pulse,s.wire ++ frames.map .frame,s.routed,s.published⟩ = s.sent ++ frames.map .frame := by simp [Relay.sent]
  have texts : (s.sent ++ frames.map Put.frame).filterMap Put.text = s.sent.filterMap Put.text := by
    rw [List.filterMap_append,texts_frames,List.append_nil]
  refine ⟨orderly,?_,?_,?_,?_,?_,?_⟩
  · rw [sent,List.filterMap_append,beating.order,made_frames,grown]
  · rw [sent,beatsIn,texts]
    exact beating.numbered
  · intro before text after split
    rw [sent] at split
    obtain ⟨rest,old⟩ := split_frames split
    rw [kept]
    exact beating.placed before text rest old
  · intro before first between second after split
    rw [sent] at split
    obtain ⟨rest,old⟩ := split_frames split
    exact beating.fresh before first between second rest old
  · rw [sent,texts]
    exact beating.rising
  · intro text waiting
    obtain ⟨count,due⟩ := beating.due text waiting
    refine ⟨count,due.read,?_,?_,?_,?_⟩
    · rw [kept]
      exact due.listed
    · rw [sent,framesIn_append]
      exact Nat.le_add_right_of_le due.counted
    · intro before first after split
      rw [sent] at split
      obtain ⟨rest,old⟩ := split_frames split
      exact due.fresh before first rest old
    · rw [sent,texts]
      exact due.rising

theorem beating_build {probes : Probes} (beating : Beating s) :
    Beating {s with runtime := {s.runtime with heartbeats := s.runtime.heartbeats ++ [s.runtime.captureCount]},
                    pulse := some (encodedHeartbeat w.settings s.seq s.runtime.captureCount probes)} := by
  have bounds := count_bounds beating.orderly
  rw [← beating.order] at bounds
  refine ⟨@orderly_step _ _ _ .heartbeat beating.orderly rfl,beating.order,beating.numbered,?_,beating.fresh,beating.rising,?_⟩
  · intro before text after split
    obtain ⟨seq,count,placed,below,listed⟩ := beating.placed before text after split
    exact ⟨seq,count,placed,below,List.mem_append_left _ listed⟩
  · intro text waiting
    cases waiting
    refine ⟨s.runtime.captureCount,readBeat_encoded,List.mem_append_right _ List.mem_cons_self,bounds.1,?_,?_⟩
    · intro before first after split
      have within : framesIn before ≤ framesIn s.sent := by
        have whole : s.sent = before ++ .beat first :: after := split
        rw [whole,framesIn_append]
        exact Nat.le_add_right _ _
      exact Nat.le_trans within bounds.2
    · intro first inside
      obtain ⟨put,there,found⟩ := List.mem_filterMap.mp inside
      obtain ⟨before,after,split⟩ := List.append_of_mem there
      have beat : put = .beat first := by cases put <;> cases found; rfl
      rw [beat] at split
      obtain ⟨seq,count,placed,below,listed⟩ := beating.placed before first after split
      refine ⟨_,_,placed.read,readBeat_encoded,?_,?_⟩
      · exact Int.ofNat_lt.mpr below
      · exact Int.ofNat_le.mpr (beating.orderly.counted.bounded count listed)

theorem beating_lost (beating : Beating s) : Beating {s with seq := s.seq + 1,pulse := none} := by
  refine ⟨beating.orderly,beating.order,Nat.le_succ_of_le beating.numbered,?_,beating.fresh,beating.rising,?_⟩
  · intro before text after split
    obtain ⟨seq,count,placed,below,listed⟩ := beating.placed before text after split
    exact ⟨seq,count,placed,Nat.lt_succ_of_lt below,listed⟩
  · intro text waiting
    cases waiting

theorem split_last {sent front back : List Put} {text other : String} (split : sent ++ [Put.beat text] = front ++ .beat other :: back) :
    (∃ rest, sent = front ++ .beat other :: rest) ∨ sent = front ∧ text = other := by
  rcases split_append split with old | ⟨rest,new,front⟩
  · exact .inl old
  · cases rest with
    | nil =>
      obtain ⟨same,_⟩ := List.cons.inj new
      exact .inr ⟨by rw [front,List.append_nil],Put.beat.inj same⟩
    | cons first rest => simp at new

theorem beating_pulse {fresh : String} (beating : Beating s) (waiting : s.pulse = some fresh) :
    Beating {s with seq := s.seq + 1,pulse := none,wire := s.wire ++ [.beat fresh]} := by
  obtain ⟨last,due⟩ := beating.due fresh waiting
  have sent : Relay.sent {s with seq := s.seq + 1,pulse := none,wire := s.wire ++ [.beat fresh]} = s.sent ++ [Put.beat fresh] := by simp [Relay.sent]
  have texts : (s.sent ++ [Put.beat fresh]).filterMap Put.text = s.sent.filterMap Put.text ++ [fresh] := by simp [Put.text]
  refine ⟨beating.orderly,?_,?_,?_,?_,?_,?_⟩
  · rw [sent,List.filterMap_append,beating.order]
    simp [Put.made]
  · rw [sent,beatsIn,texts,List.length_append]
    exact Nat.succ_le_succ beating.numbered
  · intro before text after split
    rw [sent] at split
    rcases split_last split with ⟨rest,old⟩ | ⟨rfl,rfl⟩
    · obtain ⟨seq,count,placed,below,listed⟩ := beating.placed before text rest old
      exact ⟨seq,count,placed,Nat.lt_succ_of_lt below,listed⟩
    · exact ⟨s.seq,last,⟨due.read,beating.numbered,due.counted⟩,Nat.lt_succ_self _,due.listed⟩
  · intro before first between second after split
    rw [sent] at split
    rcases split_last split with ⟨rest,old⟩ | ⟨whole,rfl⟩
    · exact beating.fresh before first between second rest old
    · exact ⟨s.seq,last,due.read,due.fresh before first between whole⟩
  · rw [sent,texts]
    refine List.pairwise_append.mpr ⟨beating.rising,List.pairwise_singleton _ _,?_⟩
    intro first inside second here
    rw [List.mem_singleton.mp here]
    exact due.rising first inside
  · intro text waiting
    cases waiting

-- What is routed stays sent.
theorem beating_route {put : Put} {rest : List Put} {arrives : Bool} {published : List Published} (beating : Beating s)
    (front : s.wire = put :: rest) : Beating ⟨s.runtime,s.seq,s.pulse,rest,s.routed ++ [(put,arrives)],published⟩ := by
  have same : Relay.sent ⟨s.runtime,s.seq,s.pulse,rest,s.routed ++ [(put,arrives)],published⟩ = s.sent := by simp [Relay.sent,front]
  refine ⟨beating.orderly,?_,?_,?_,?_,?_,?_⟩
  · rw [same]; exact beating.order
  · rw [same]; exact beating.numbered
  · rw [same]; exact beating.placed
  · rw [same]; exact beating.fresh
  · rw [same]; exact beating.rising
  · intro text waiting
    obtain ⟨count,due⟩ := beating.due text waiting
    refine ⟨count,due.read,due.listed,?_,?_,?_⟩
    · rw [same]; exact due.counted
    · rw [same]; exact due.fresh
    · rw [same]; exact due.rising

theorem beating_step (beating : Beating s) (step : w.advance s event = some t) : Beating t := by
  cases event with
  | runtime event =>
    obtain ⟨other,next,moved,rfl⟩ := runtime_step step
    exact beating_frames beating (orderly_step beating.orderly moved) (landed_grown moved) ((advance_flows moved).heartbeats other)
  | build probes =>
    simp only [Wiring.advance] at step
    split at step
    · cases step
    · cases step
      exact beating_build beating
  | pulse outcome =>
    simp only [Wiring.advance] at step
    split at step
    · rename_i waiting
      cases step
      exact beating_pulse beating waiting
    · cases step
      exact beating_lost beating
    · cases step
  | route arrives stamp =>
    simp only [Wiring.advance] at step
    split at step
    · cases step
    · rename_i front
      cases step
      exact beating_route beating front

theorem monitored_of_beating (beating : Beating s) : Monitored s where
  placed before text after split := by
    obtain ⟨seq,count,placed,_⟩ := beating.placed before text after split
    exact ⟨seq,count,placed⟩
  fresh := beating.fresh
  rising := beating.rising.sublist ((arrived_sublist s).filterMap Put.text)

-- In every interleaving, also with frames between the count and its heartbeat,
-- with puts that raise and with heartbeats that are lost.
theorem heartbeats_monitored (w : Wiring) (events : List RelayEvent) : Throughout w.advance Monitored w.initial events :=
  fun _ _ _ _ ran => monitored_of_beating (run_invariant Beating (fun _ _ _ beating step => beating_step beating step) (beating_initial w) ran)

end ZenohDslr.Gateway
