import Mathlib.Data.List.Basic
import ZenohDslr.Attempts
import ZenohDslr.Runs
namespace ZenohDslr.PiRuntime
open Attempts Runs

-- How each call of one publish, and of one close, ends; an exception is its text.
structure MqttCalls where
  importable : Except String Unit
  construct : Except String Unit
  authenticate : Except String Unit
  connect : Except String Unit
  loopStart : Except String Unit
  publish : Except String Unit

structure MqttStop where
  loopStop : Except String Unit
  disconnect : Except String Unit

structure MqttPublisher where
  host : String
  port : Int
  username : Option String
  client : Option Nat
  warned : Bool
  -- history: warnings logged, clients constructed so far, the ones whose network
  -- loop runs, the ones whose loop could not be stopped
  warnings : List String
  made : Nat
  running : List Nat
  hung : List Nat

namespace MqttPublisher

def create (host : String) (port : Int) (username : Option String) : MqttPublisher := ⟨host,port,username,none,false,[],0,[],[]⟩

def warn (text : String) (self : MqttPublisher) : MqttPublisher :=
  if self.warned then self else {self with warned := true,warnings := self.warnings ++ [text]}

def notImportable (exc : String) : String := "MQTT heartbeat disabled: paho-mqtt not importable (" ++ exc ++ ")"

def connectFailed (self : MqttPublisher) (exc : String) : String :=
  "MQTT heartbeat connect failed (" ++ self.host ++ ":" ++ toString self.port ++ "): " ++ exc

-- The second guarded block of `_ensure_client`: the client is made, given its
-- login, connected and kept.
def startLoop (calls : MqttCalls) (client : Nat) : EStateM String MqttPublisher Nat := do
  perform calls.connect
  perform calls.loopStart
  modify fun self => {self with running := self.running ++ [client]}
  modify fun self => {self with client := some client}
  return client

def connect (calls : MqttCalls) : EStateM String MqttPublisher Nat := do
  perform calls.construct
  let self ← get
  modify fun self => {self with made := self.made + 1}
  if self.username.getD "" ≠ "" then perform calls.authenticate
  startLoop calls self.made

def ensureClient (calls : MqttCalls) : EStateM String MqttPublisher (Option Nat) := do
  let self ← get
  match self.client with
  | some client => return some client
  | none =>
    let importable ← guarded (do perform calls.importable; return true)
      fun exc => do modify (warn (notImportable exc)); return false
    if importable then
      guarded (do let client ← connect calls; return some client)
        fun exc => do modify (fun self => self.warn (self.connectFailed exc)); return none
    else return none

def publish (calls : MqttCalls) : EStateM String MqttPublisher Bool := do
  let client ← ensureClient calls
  match client with
  | none => return false
  | some _ => guarded (do perform calls.publish; return true) fun _ => return false

def close (stop : MqttStop) : EStateM String MqttPublisher Unit := do
  let self ← get
  match self.client with
  | none => return ()
  | some client =>
    modify fun self => if stop.loopStop.isOk then self else {self with hung := self.hung ++ [client]}
    guarded (do
      perform stop.loopStop
      modify fun self => {self with running := self.running.erase client}
      perform stop.disconnect) fun _ => return ()
    modify fun self => {self with client := none}

end MqttPublisher

inductive MqttCall where
  | publish (calls : MqttCalls)
  | close (stop : MqttStop)

-- The caller gets on only where the call returns to it.
def MqttPublisher.advance (self : MqttPublisher) : MqttCall → Option MqttPublisher
  | .publish calls =>
    match MqttPublisher.publish calls self with
    | .ok _ next => some next
    | .error _ _ => none
  | .close stop =>
    match MqttPublisher.close stop self with
    | .ok _ next => some next
    | .error _ _ => none

namespace MqttPublisher
variable {self next : MqttPublisher} {calls : MqttCalls} {stop : MqttStop}

theorem ensureClient_safe (calls : MqttCalls) : Safe (ensureClient calls) := by
  refine safe_bind safe_get fun self => ?_
  split
  · exact safe_pure _
  · refine safe_bind (safe_guarded _ fun exc => ?_) fun importable => ?_
    · exact safe_bind (safe_modify _) fun _ => safe_pure _
    · split
      · exact safe_guarded _ fun exc => safe_bind (safe_modify _) fun _ => safe_pure _
      · exact safe_pure _

theorem publish_safe (calls : MqttCalls) : Safe (publish calls) := by
  refine safe_bind (ensureClient_safe calls) fun client => ?_
  split
  · exact safe_pure _
  · exact safe_guarded _ fun _ => safe_pure _

theorem close_safe (stop : MqttStop) : Safe (close stop) := by
  refine safe_bind safe_get fun self => ?_
  split
  · exact safe_pure _
  · refine safe_bind (safe_modify _) fun _ => safe_bind (safe_guarded _ fun _ => safe_pure _) fun _ => ?_
    exact safe_modify _

-- What a call does to the loops: nothing, one more that its client is kept for,
-- or the end of the one there was.
inductive Ledger (self next : MqttPublisher) : Prop where
  | unchanged (slot : next.client = self.client) (loops : next.running = self.running) (stuck : next.hung = self.hung)
      (counted : self.made ≤ next.made)
  | linked (empty : self.client = none) (slot : next.client = some self.made) (loops : next.running = self.running ++ [self.made])
      (stuck : next.hung = self.hung) (counted : self.made < next.made)
  | stopped (client : Nat) (full : self.client = some client) (slot : next.client = none) (loops : next.running = self.running.erase client)
      (stuck : next.hung = self.hung) (counted : self.made ≤ next.made)
  | abandoned (client : Nat) (full : self.client = some client) (slot : next.client = none) (loops : next.running = self.running)
      (stuck : next.hung = self.hung ++ [client]) (counted : self.made ≤ next.made)

theorem warn_ledger (text : String) (ledger : Ledger self next) : Ledger self (next.warn text) := by
  unfold warn
  split
  · exact ledger
  · cases ledger with
    | unchanged slot loops stuck counted => exact .unchanged slot loops stuck counted
    | linked empty slot loops stuck counted => exact .linked empty slot loops stuck counted
    | stopped client full slot loops stuck counted => exact .stopped client full slot loops stuck counted
    | abandoned client full slot loops stuck counted => exact .abandoned client full slot loops stuck counted

-- A client is kept only behind its loop's start, the last call that can fail.
theorem connect_ledger (calls : MqttCalls) (empty : self.client = none) : Ledger self (after (connect calls self)) := by
  obtain ⟨importable,construct,authenticate,link,loopStart,handed⟩ := calls
  cases construct with
  | error exc => exact .unchanged rfl rfl rfl (Nat.le_refl _)
  | ok _ =>
    have counted : self.made ≤ self.made + 1 := Nat.le_succ _
    have started : Ledger self (after (startLoop ⟨importable,.ok (),authenticate,link,loopStart,handed⟩ self.made
        {self with made := self.made + 1})) := by
      cases link with
      | error exc => exact .unchanged rfl rfl rfl counted
      | ok _ =>
        cases loopStart with
        | error exc => exact .unchanged rfl rfl rfl counted
        | ok _ => exact .linked empty rfl rfl rfl (Nat.lt_succ_self _)
    simp only [connect,bind_apply,get_apply,modify_apply,perform_ok]
    split
    · cases authenticate with
      | error exc => exact .unchanged rfl rfl rfl counted
      | ok _ => exact started
    · exact started

theorem ensureClient_ledger (calls : MqttCalls) (self : MqttPublisher) : Ledger self (after (ensureClient calls self)) := by
  have idle : Ledger self self := .unchanged rfl rfl rfl (Nat.le_refl _)
  simp only [ensureClient,bind_apply,get_apply]
  cases slot : self.client with
  | some client => exact idle
  | none =>
    cases imported : calls.importable with
    | error exc =>
      simp only [guarded,bind_apply,perform_error,modify_apply,pure_apply]
      exact warn_ledger _ idle
    | ok _ =>
      have ledger := connect_ledger calls slot
      simp only [guarded,bind_apply,perform_ok,pure_apply,if_true]
      cases ran : connect calls self with
      | ok client t => simpa [ran] using ledger
      | error exc t =>
        rw [ran,after_error] at ledger
        exact warn_ledger _ ledger

theorem publish_after (calls : MqttCalls) (self : MqttPublisher) : after (publish calls self) = after (ensureClient calls self) := by
  simp only [publish,bind_apply]
  cases ensureClient calls self with
  | error exc t => rfl
  | ok client t =>
    cases client with
    | none => rfl
    | some client =>
      simp only [guarded,bind_apply]
      cases calls.publish <;> rfl

theorem close_ledger (stop : MqttStop) (self : MqttPublisher) : Ledger self (after (close stop self)) := by
  obtain ⟨loopStop,disconnect⟩ := stop
  simp only [close,bind_apply,get_apply]
  cases slot : self.client with
  | none => exact .unchanged rfl rfl rfl (Nat.le_refl _)
  | some client =>
    cases loopStop with
    | error exc => exact .abandoned client slot rfl rfl rfl (Nat.le_refl _)
    | ok _ => cases disconnect <;> exact .stopped client slot rfl rfl rfl (Nat.le_refl _)

theorem publish_advance (calls : MqttCalls) (self : MqttPublisher) :
    self.advance (.publish calls) = some (after (publish calls self)) := by
  obtain ⟨value,t,ran⟩ := publish_safe calls self
  simp [advance,ran]

theorem close_advance (stop : MqttStop) (self : MqttPublisher) : self.advance (.close stop) = some (after (close stop self)) := by
  obtain ⟨value,t,ran⟩ := close_safe stop self
  simp [advance,ran]

theorem advance_ledger (call : MqttCall) (step : self.advance call = some next) : Ledger self next := by
  cases call with
  | publish calls =>
    rw [publish_advance,publish_after] at step
    cases step
    exact ensureClient_ledger calls self
  | close stop =>
    rw [close_advance] at step
    cases step
    exact close_ledger stop self

def WarnedOnce (self : MqttPublisher) : Prop := self.warnings.length = if self.warned then 1 else 0

theorem warn_once (text : String) (held : WarnedOnce self) : WarnedOnce (self.warn text) := by
  unfold warn
  split
  · exact held
  · rename_i silent
    have none_yet : self.warnings.length = 0 := by simpa [WarnedOnce,silent] using held
    simp [WarnedOnce,none_yet]

theorem connect_keeps (calls : MqttCalls) : Keeps WarnedOnce (connect calls) := by
  have started : ∀ client, Keeps WarnedOnce (startLoop calls client) := by
    intro client
    refine keeps_bind (keeps_perform _) fun _ => keeps_bind (keeps_perform _) fun _ => ?_
    exact keeps_bind (keeps_modify fun _ held => held) fun _ => keeps_bind (keeps_modify fun _ held => held) fun _ => keeps_pure _
  refine keeps_bind (keeps_perform _) fun _ => keeps_bind (fun _ held => held) fun self => ?_
  refine keeps_bind (keeps_modify fun _ held => held) fun _ => ?_
  split
  · exact keeps_bind (keeps_perform _) fun _ => started _
  · exact started _

theorem ensureClient_keeps (calls : MqttCalls) : Keeps WarnedOnce (ensureClient calls) := by
  refine keeps_bind (fun _ held => held) fun self => ?_
  split
  · exact keeps_pure _
  · refine keeps_bind (keeps_guarded (keeps_bind (keeps_perform _) fun _ => keeps_pure _) fun exc => ?_) fun importable => ?_
    · exact keeps_bind (keeps_modify fun _ held => warn_once _ held) fun _ => keeps_pure _
    · split
      · refine keeps_guarded (keeps_bind (connect_keeps calls) fun _ => keeps_pure _) fun exc => ?_
        exact keeps_bind (keeps_modify fun _ held => warn_once _ held) fun _ => keeps_pure _
      · exact keeps_pure _

theorem close_warned (stop : MqttStop) (held : WarnedOnce self) : WarnedOnce (after (close stop self)) := by
  obtain ⟨loopStop,disconnect⟩ := stop
  simp only [close,bind_apply,get_apply]
  cases self.client with
  | none => exact held
  | some client =>
    cases loopStop with
    | error exc => exact held
    | ok _ => cases disconnect <;> exact held

theorem advance_warned (call : MqttCall) (held : WarnedOnce self) (step : self.advance call = some next) : WarnedOnce next := by
  cases call with
  | publish calls =>
    rw [publish_advance,publish_after] at step
    cases step
    exact ensureClient_keeps calls self held
  | close stop =>
    rw [close_advance] at step
    cases step
    exact close_warned stop held

-- The loops that run are those no close could stop and the current client's, each
-- of its own client.
structure Tidy (publisher : MqttPublisher) : Prop where
  loops : publisher.running = publisher.hung ++ publisher.client.toList
  apart : publisher.running.Nodup
  numbered : ∀ client ∈ publisher.running, client < publisher.made
  warned : WarnedOnce publisher

theorem advance_tidy (call : MqttCall) (held : self.Tidy) (step : self.advance call = some next) : Tidy next := by
  obtain ⟨loops,apart,numbered,warned⟩ := held
  have once := advance_warned call warned step
  cases advance_ledger call step with
  | unchanged slot same stuck counted =>
    refine ⟨by rw [same,stuck,slot,loops],by rw [same]; exact apart,?_,once⟩
    intro client inside
    rw [same] at inside
    exact Nat.lt_of_lt_of_le (numbered client inside) counted
  | linked empty slot same stuck counted =>
    have fresh : self.made ∉ self.running := fun inside => absurd (numbered _ inside) (Nat.lt_irrefl _)
    refine ⟨by rw [same,stuck,slot,loops,empty]; simp,?_,?_,once⟩
    · rw [same]
      exact List.nodup_append.mpr ⟨apart,List.pairwise_singleton _ _,by
        intro a inside b last equal
        rw [List.mem_singleton.mp last] at equal
        exact fresh (equal ▸ inside)⟩
    · intro client inside
      rw [same,List.mem_append,List.mem_singleton] at inside
      rcases inside with old | rfl
      · exact Nat.lt_trans (numbered client old) counted
      · exact counted
  | stopped client full slot same stuck counted =>
    have listed : self.running = self.hung ++ [client] := by rw [loops,full]; rfl
    have outside : client ∉ self.hung := by
      rw [listed] at apart
      exact fun inside => (List.nodup_append.mp apart).2.2 client inside client (List.mem_singleton_self _) rfl
    refine ⟨?_,by rw [same]; exact apart.erase _,?_,once⟩
    · rw [same,listed,stuck,slot,List.erase_append_right _ outside]
      simp
    · intro other inside
      rw [same] at inside
      exact Nat.lt_of_lt_of_le (numbered other (List.mem_of_mem_erase inside)) counted
  | abandoned client full slot same stuck counted =>
    refine ⟨by rw [same,loops,full,stuck,slot]; simp,by rw [same]; exact apart,?_,once⟩
    intro other inside
    rw [same] at inside
    exact Nat.lt_of_lt_of_le (numbered other inside) counted

-- Whatever the broker and its library do, no call of publish or close raises; one
-- warning is logged at most, and the network loops left running are the kept
-- client's and those that no close could stop.
theorem broker_never_breaks (host : String) (port : Int) (username : Option String) (calls : List MqttCall) :
    ∃ last, run advance (create host port username) calls = some last ∧ last.warnings.length ≤ 1 ∧
      last.running = last.hung ++ last.client.toList ∧ last.running.Nodup := by
  have total : ∀ self call, ∃ next, advance self call = some next := by
    intro self call
    cases call with
    | publish calls => exact ⟨_,publish_advance calls self⟩
    | close stop => exact ⟨_,close_advance stop self⟩
  obtain ⟨last,ran⟩ := run_total total (create host port username) calls
  have fresh : Tidy (create host port username) := ⟨rfl,List.nodup_nil,by simp [create],rfl⟩
  have tidy : Tidy last := run_invariant Tidy (fun _ call _ held step => advance_tidy call held step) fresh ran
  have once := tidy.warned
  refine ⟨last,ran,?_,tidy.loops,tidy.apart⟩
  unfold WarnedOnce at once
  split at once <;> omega

end MqttPublisher
end ZenohDslr.PiRuntime
