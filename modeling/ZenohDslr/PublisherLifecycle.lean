import ZenohDslr.ImagePublisher
import ZenohDslr.Runs
namespace ZenohDslr.PiRuntime
open Attempts Runs

-- The initialisation that gets as far as a publisher and then fails to load one
-- of the two message classes.
def Sdk.halfBuilt (sdk : Sdk) : Bool :=
  sdk.imports.isOk && sdk.buildQosProfile.isOk && sdk.construct.isOk && !(sdk.timeCls.isOk && sdk.headerCls.isOk)

namespace Ros2ImagePublisher
variable {self next last : Ros2ImagePublisher} {sdk : Sdk}

@[simp] theorem warn_publisher (text : String) (self : Ros2ImagePublisher) : (self.warn text).publisher = self.publisher := by
  unfold warn; split <;> rfl

@[simp] theorem warn_live (text : String) (self : Ros2ImagePublisher) : (self.warn text).live = self.live := by
  unfold warn; split <;> rfl

-- What an attempt does to the publishers: nothing, one more that is kept, or one
-- more that nothing refers to.
inductive Ledger (self next : Ros2ImagePublisher) : Prop where
  | unchanged (slot : next.publisher = self.publisher) (alive : next.live = self.live)
  | kept (fresh : Nat) (slot : next.publisher = some fresh) (alive : next.live = self.live ++ [fresh])

def Dropped (self next : Ros2ImagePublisher) : Prop :=
  next.publisher = none ∧ ∃ fresh, next.live = self.live ++ [fresh]

theorem initialise_ledger (sdk : Sdk) (empty : self.publisher = none) :
    if sdk.buildQosProfile.isOk && sdk.construct.isOk && !(sdk.timeCls.isOk && sdk.headerCls.isOk) then
      Dropped self (after (initialise sdk self))
    else Ledger self (after (initialise sdk self)) := by
  obtain ⟨_,qos,construct,timeCls,headerCls,keyexpr,_,_,_⟩ := sdk
  cases qos with
  | error exc => exact .unchanged rfl rfl
  | ok _ =>
    cases construct with
    | error exc => exact .unchanged rfl rfl
    | ok _ =>
      cases timeCls with
      | error exc => exact ⟨empty,self.built,rfl⟩
      | ok _ =>
        cases headerCls with
        | error exc => exact ⟨empty,self.built,rfl⟩
        | ok _ => cases keyexpr <;> exact .kept self.built rfl rfl

theorem ensurePublisher_full {publisher : Nat} (full : self.publisher = some publisher) :
    ensurePublisher sdk self = .ok (some publisher) self := by
  simp [ensurePublisher,bind_apply,full]

theorem ensurePublisher_importsFailed {exc : String} (empty : self.publisher = none) (failed : sdk.imports = .error exc) :
    ensurePublisher sdk self = .ok none (self.warn (importsUnavailable exc)) := by
  simp only [ensurePublisher,bind_apply,get_apply,empty,guarded,failed,perform_error,modify_apply,pure_apply]
  rfl

theorem ensurePublisher_imported (empty : self.publisher = none) (imported : sdk.imports = .ok ()) :
    ensurePublisher sdk self =
      match initialise sdk self with
      | .ok publisher next => .ok (some publisher) next
      | .error exc next => .ok none (next.warn (next.initFailed exc)) := by
  simp only [ensurePublisher,bind_apply,get_apply,empty,guarded,imported,perform_ok,pure_apply,if_true]
  cases initialise sdk self <;> simp

theorem sendFrame_same (sdk : Sdk) (self : Ros2ImagePublisher) : after (sendFrame sdk self) = self := by
  simp only [sendFrame,bind_apply,get_apply]
  cases sdk.decode with
  | error exc => rfl
  | ok _ =>
    by_cases loaded : self.timeCls ∧ self.headerCls
    · simp only [perform_ok,loaded,and_self,if_true,bind_apply]
      cases sdk.message with
      | error exc => rfl
      | ok _ => cases sdk.send <;> rfl
    · simp only [perform_ok,loaded,if_false,bind_apply,throw_apply]
      rfl

theorem publish_after (sdk : Sdk) (self : Ros2ImagePublisher) :
    after (publish sdk self) = after (ensurePublisher sdk self) := by
  simp only [publish,bind_apply]
  cases ensurePublisher sdk self with
  | error exc next => rfl
  | ok publisher next =>
    cases publisher with
    | none => rfl
    | some publisher =>
      have same := sendFrame_same sdk next
      simp only [guarded,bind_apply]
      cases sent : sendFrame sdk next <;> simpa [sent] using same

theorem publish_ledger (sdk : Sdk) (empty : self.publisher = none) :
    if sdk.halfBuilt then Dropped self (after (publish sdk self)) else Ledger self (after (publish sdk self)) := by
  rw [publish_after]
  cases imported : sdk.imports with
  | error exc =>
    rw [ensurePublisher_importsFailed empty imported]
    simp only [Sdk.halfBuilt,imported]
    exact .unchanged (warn_publisher _ _) (warn_live _ _)
  | ok _ =>
    have ledger := initialise_ledger sdk empty
    rw [ensurePublisher_imported empty imported]
    have same : sdk.halfBuilt =
        (sdk.buildQosProfile.isOk && sdk.construct.isOk && !(sdk.timeCls.isOk && sdk.headerCls.isOk)) := by
      simp [Sdk.halfBuilt,imported,Except.isOk,Except.toBool]
    rw [same]
    cases ran : initialise sdk self with
    | ok publisher next => simpa [ran] using ledger
    | error exc next =>
      rw [ran] at ledger
      split at ledger
      · rename_i half
        rw [if_pos half]
        exact ⟨by simpa using ledger.1,by simpa using ledger.2⟩
      · rename_i whole
        rw [if_neg whole]
        cases ledger with
        | unchanged slot alive => exact .unchanged (by simpa using slot) (by simpa using alive)
        | kept fresh slot alive => exact .kept fresh (by simpa using slot) (by simpa using alive)

theorem publish_full {publisher : Nat} (sdk : Sdk) (full : self.publisher = some publisher) :
    after (publish sdk self) = self := by
  rw [publish_after,ensurePublisher_full full]
  rfl

theorem close_empty (outcome : Except String Unit) (empty : self.publisher = none) : after (close outcome self) = self := by
  simp only [close,bind_apply,get_apply,empty]
  rfl

theorem close_full {publisher : Nat} (outcome : Except String Unit) (full : self.publisher = some publisher) :
    after (close outcome self) = {self with live := self.live.erase publisher,publisher := none} := by
  simp only [close,bind_apply,get_apply,full,modify_apply,guarded]
  cases outcome <;> rfl

-- One live publisher while `_publisher` is set, none while it is not.
def Balanced (self : Ros2ImagePublisher) : Prop := self.live.length = if self.publisher.isSome then 1 else 0

def Referenced (self : Ros2ImagePublisher) : Prop := ∀ publisher, self.publisher = some publisher → publisher ∈ self.live

-- The call does not build a publisher it then has no message classes for.
def Whole (self : Ros2ImagePublisher) (call : PublisherCall) : Prop :=
  ∀ sdk, call = .publish sdk → self.publisher = none → sdk.halfBuilt = false

theorem advance_referenced (call : PublisherCall) (held : Referenced self) (step : self.advance call = some next) :
    Referenced next := by
  cases call with
  | publish sdk =>
    cases step
    cases slot : self.publisher with
    | some publisher => rw [publish_full sdk slot]; exact held
    | none =>
      have ledger := publish_ledger sdk slot
      split at ledger
      · intro publisher full
        rw [ledger.1] at full
        cases full
      · cases ledger with
        | unchanged still alive =>
          intro publisher full
          rw [still,slot] at full
          cases full
        | kept fresh filled alive =>
          intro publisher full
          rw [filled] at full
          cases full
          simp [alive]
  | close outcome =>
    cases step
    cases slot : self.publisher with
    | none => rw [close_empty outcome slot]; exact held
    | some publisher =>
      rw [close_full outcome slot]
      intro other full
      cases full

theorem advance_balanced (call : PublisherCall) (held : Referenced self) (balanced : Balanced self)
    (step : self.advance call = some next) : Balanced next ↔ Whole self call := by
  cases call with
  | publish sdk =>
    cases step
    cases slot : self.publisher with
    | some publisher =>
      rw [publish_full sdk slot]
      refine ⟨fun _ other _ empty => ?_,fun _ => balanced⟩
      rw [slot] at empty
      cases empty
    | none =>
      have ledger := publish_ledger sdk slot
      have none_live : self.live.length = 0 := by simpa [Balanced,slot] using balanced
      split at ledger
      · rename_i half
        obtain ⟨empty,fresh,alive⟩ := ledger
        constructor
        · intro claimed
          simp [Balanced,empty,alive] at claimed
        · intro whole
          rw [whole sdk rfl slot] at half
          cases half
      · rename_i whole
        refine ⟨fun _ other same _ => ?_,fun _ => ?_⟩
        · cases same
          simpa using whole
        · cases ledger with
          | unchanged still alive => simpa [Balanced,still,alive,slot] using none_live
          | kept fresh filled alive => simp [Balanced,filled,alive,none_live]
  | close outcome =>
    cases step
    refine ⟨fun _ sdk same => (by cases same),fun _ => ?_⟩
    cases slot : self.publisher with
    | none => rw [close_empty outcome slot]; exact balanced
    | some publisher =>
      have single : self.live.length = 1 := by simpa [Balanced,slot] using balanced
      rw [close_full outcome slot]
      simp [Balanced,List.length_erase_of_mem (held publisher slot),single]

theorem balanced_iff_whole (routerIp : String) (routerPort : Int) (calls : List PublisherCall) :
    Throughout advance Balanced (create routerIp routerPort) calls ↔ Along advance Whole (create routerIp routerPort) calls := by
  have total : ∀ self call, ∃ next, advance self call = some next := by
    intro self call
    cases call <;> exact ⟨_,rfl⟩
  obtain ⟨last,ran⟩ := run_total total (create routerIp routerPort) calls
  refine throughout_iff_along Referenced Balanced Whole ?_ ?_ ?_ rfl ran
  · intro self call next held step
    exact advance_referenced call held step
  · intro self call next held balanced step
    exact advance_balanced call held balanced step
  · intro publisher full
    cases full

-- A router that lets the publisher be built while the Time definition cannot be
-- loaded: the first publish leaves a live publisher that no close will reach.
def noTimeClass : Sdk :=
  ⟨.ok (),.ok (),.ok (),.error "builtin_interfaces/msg/Time not found",.ok (),.ok (),.ok (),.ok (),.ok ()⟩

theorem half_built_publisher_leaks :
    ¬ ∀ calls, Throughout advance Balanced (create "127.0.0.1" 7447) calls := by
  intro always
  have balanced : (1 : Nat) = 0 := always [.publish noTimeClass] [.publish noTimeClass] [] _ rfl rfl
  exact Nat.one_ne_zero balanced

end Ros2ImagePublisher
end ZenohDslr.PiRuntime
