import ZenohDslr.Pruning
import ZenohDslr.Runs
namespace ZenohDslr.PiRuntime
open RollingWindow

-- One `persist` call, with what the operating system makes of it.
structure PersistCall where
  frame : CaptureResult
  os : OperatingSystem

def PersistCall.written (call : PersistCall) : StoredFile := ⟨call.frame.target,call.os.mtime,call.frame.payload⟩

def PersistCall.target (call : PersistCall) : String := call.frame.target

-- No file operation fails.
structure PersistCall.Smooth (call : PersistCall) : Prop where
  write : call.os.write = .complete
  scan : call.os.scanRaises = false
  unlink : ∀ name, call.os.unlinkRaises name = false

def Later (dir : Directory) (call : PersistCall) : Prop := ∀ file ∈ regularFiles dir, file.mtime < call.os.mtime

def ByMtime (files : List StoredFile) : Prop := files.Pairwise fun earlier later => earlier.mtime ≤ later.mtime

variable {dir next : Directory} {name : String} {call : PersistCall} {rest : List PersistCall} {buffer : PersistenceBuffer}

theorem regularFiles_insert (mtime : Int) (bytes : List UInt8) (absent : dir.get? name = none) :
    regularFiles (dir.insert name (.regular mtime bytes)) = regularFiles dir ++ [⟨name,mtime,bytes⟩] := by
  unfold regularFiles
  rw [OrderedDict.items_insert_absent dir absent,List.filterMap_append]
  rfl

namespace PersistenceBuffer

def advance (buffer : PersistenceBuffer) (dir : Directory) (call : PersistCall) : Option Directory :=
  some (buffer.persist call.os dir call.frame).2

-- One arrangement of the initial files serves the whole run, however `iterdir`
-- lists files of equal `mtime` from call to call.
def RollsExactly (buffer : PersistenceBuffer) (dir : Directory) (calls : List PersistCall) : Prop :=
  ∃ initial, initial.Perm (regularFiles dir) ∧ ByMtime initial ∧
    ∀ done rest, calls = done ++ rest → done ≠ [] → ∃ last kept, Runs.run buffer.advance dir done = some last ∧
      LongestFitting StoredFile.size buffer.config.maxBytes (initial ++ done.map PersistCall.written) kept ∧
      ByMtime kept ∧ (regularFiles last).Perm kept

theorem writeBytes_smooth (smooth : call.Smooth) (fresh : dir.get? call.target = none) :
    writeBytes call.os dir call.frame.target call.frame.payload =
      (.ok (),dir.insert call.target (.regular call.os.mtime call.frame.payload)) := by
  have vacant : dir.get? call.frame.target ≠ some .other := by
    intro taken
    exact absurd (fresh.symm.trans taken) (by simp)
  rw [writeBytes_returns fun refused => ?_,landed,if_neg fun swallowed => vacant swallowed.1]
  · rfl
  · rcases refused with ⟨taken,_⟩ | raised
    · exact vacant taken
    · exact raised smooth.write

-- What one call does: it lists the files with the new one behind the others,
-- and leaves the window of that list.
theorem advance_window (enabled : buffer.config.enabled = true) (smooth : call.Smooth) (fresh : dir.get? call.target = none) :
    ∃ files next, buffer.advance dir call = some next ∧ ByMtime files ∧ files.Perm (regularFiles dir ++ [call.written]) ∧
      (regularFiles next).Perm (keep StoredFile.size buffer.config.maxBytes files) ∧
      ∀ name, name ≠ call.target → dir.get? name = none → next.get? name = none := by
  let stored := dir.insert call.target (.regular call.os.mtime call.frame.payload)
  have persisted := persist_through enabled (writeBytes_smooth smooth fresh) smooth.scan fun file _ => smooth.unlink file.name
  have listed : (scan call.os stored).Perm (regularFiles stored) := scan_perm call.os stored
  refine ⟨scan call.os stored,_,by rw [advance,persisted],StableSort.sortBy_sorted _,?_,?_,?_⟩
  · have appended : regularFiles stored = regularFiles dir ++ [call.written] := regularFiles_insert _ _ fresh
    rw [← appended]
    exact listed
  · apply regularFiles_eraseAll
    rw [dropped_append_keep]
    exact listed.symm
  · intro name other absent
    change (eraseAll stored _).get? name = none
    rw [get?_eraseAll,OrderedDict.get?_insert_other dir other,absent]
    split <;> rfl

-- Back over one call: an arrangement of what it left, behind the files that it
-- removed, is one of what it found, with the new file at the end.
theorem arrange_before {maxBytes : Int} {files again present : List StoredFile} {new : StoredFile} (room : 0 ≤ maxBytes)
    (ordered : ByMtime files) (listed : files.Perm (present ++ [new])) (below : ∀ file ∈ present, file.mtime < new.mtime)
    (same : again.Perm (keep StoredFile.size maxBytes files)) (againOrdered : ByMtime again) :
    ∃ initial, initial.Perm present ∧ ByMtime initial ∧ keep StoredFile.size maxBytes (initial ++ [new]) = again := by
  have sorted : ByMtime (dropped StoredFile.size maxBytes files ++ again) := rearranged_pairwise ordered same againOrdered
  have whole : (dropped StoredFile.size maxBytes files ++ again).Perm (present ++ [new]) := by
    have rejoined := same.append_left (dropped StoredFile.size maxBytes files)
    rw [dropped_append_keep] at rejoined
    exact rejoined.trans listed
  obtain ⟨initial,split,arranged⟩ := StableSort.sorted_last sorted whole below
  have kept : keep StoredFile.size maxBytes (dropped StoredFile.size maxBytes files ++ again) = again := keep_rearranged room same
  rw [split] at sorted kept
  exact ⟨initial,arranged,(List.pairwise_append.mp sorted).1,kept⟩

-- Over a run, with the window of the whole history written out. The induction
-- is on the calls: an arrangement for the rest of the run is taken back over
-- the first call.
theorem rolls_along (enabled : buffer.config.enabled = true) (room : 0 ≤ buffer.config.maxBytes) (calls : List PersistCall)
    (smooth : ∀ call ∈ calls, call.Smooth) (distinct : (calls.map PersistCall.target).Nodup)
    (fresh : ∀ call ∈ calls, dir.get? call.target = none) (later : Runs.Along buffer.advance Later dir calls) :
    ∃ initial, initial.Perm (regularFiles dir) ∧ ByMtime initial ∧
      ∀ done rest, calls = done ++ rest → done ≠ [] → ∃ last, Runs.run buffer.advance dir done = some last ∧
        ByMtime (keep StoredFile.size buffer.config.maxBytes (initial ++ done.map PersistCall.written)) ∧
        (regularFiles last).Perm (keep StoredFile.size buffer.config.maxBytes (initial ++ done.map PersistCall.written)) := by
  induction calls generalizing dir with
  | nil =>
    refine ⟨StableSort.sortBy StoredFile.mtime (regularFiles dir),StableSort.sortBy_perm _,StableSort.sortBy_sorted _,?_⟩
    intro done rest split called
    exact absurd (List.append_eq_nil_iff.mp split.symm).1 called
  | cons call calls ih =>
    obtain ⟨files,next,step,ordered,listed,window,absent⟩ :=
      advance_window enabled (smooth call List.mem_cons_self) (fresh call List.mem_cons_self)
    obtain ⟨apart,distinct⟩ := List.nodup_cons.mp distinct
    obtain ⟨first,later⟩ := (Runs.along_cons step).mp later
    have freshNext : ∀ other ∈ calls, next.get? other.target = none := by
      intro other member
      apply absent _ _ (fresh other (List.mem_cons_of_mem _ member))
      intro same
      exact apart (same ▸ List.mem_map_of_mem member)
    obtain ⟨again,arranged,againOrdered,rolls⟩ :=
      ih (fun other member => smooth other (List.mem_cons_of_mem _ member)) distinct freshNext later
    obtain ⟨initial,initialPerm,initialOrdered,kept⟩ :=
      arrange_before room ordered listed first (arranged.trans window) againOrdered
    refine ⟨initial,initialPerm,initialOrdered,?_⟩
    intro done tail parts called
    cases done with
    | nil => exact absurd rfl called
    | cons head done =>
      obtain ⟨rfl,tailParts⟩ := List.cons.inj parts
      rw [Runs.run_cons step,List.map_cons]
      cases done with
      | nil =>
        rw [List.map_nil,kept]
        exact ⟨next,rfl,againOrdered,arranged.symm⟩
      | cons second done =>
        rw [List.map_cons,List.append_cons,← keep_keep_append,kept]
        exact rolls _ _ tailParts (List.cons_ne_nil _ _)

theorem rolling_window_exact (enabled : buffer.config.enabled = true) (room : 0 ≤ buffer.config.maxBytes) (calls : List PersistCall)
    (smooth : ∀ call ∈ calls, call.Smooth) (distinct : (calls.map PersistCall.target).Nodup)
    (fresh : ∀ call ∈ calls, dir.get? call.target = none) (later : Runs.Along buffer.advance Later dir calls) :
    buffer.RollsExactly dir calls := by
  obtain ⟨initial,arranged,ordered,rolls⟩ := rolls_along enabled room calls smooth distinct fresh later
  refine ⟨initial,arranged,ordered,?_⟩
  intro done rest split called
  obtain ⟨last,ran,sorted,window⟩ := rolls done rest split called
  exact ⟨last,_,ran,longestFitting_keep room _,sorted,window⟩

def frameOf (captureId encoding : String) (payload : List UInt8) : CaptureResult :=
  ⟨captureId,payload,encoding,1,1,⟨"dslr-a","EOS",captureId,"cameras/a/" ++ captureId,Double.zero,1,1,encoding,none,none⟩⟩

def oneFrame : Directory := OrderedDict.empty.insert "00.jpg" (.regular 5 [1,2,3,4,5,6])

def twoCalls : List PersistCall :=
  [⟨frameOf "01" "image/jpeg" [1,2,3,4,5,6],.quiet 6⟩,⟨frameOf "02" "image/jpeg" [7,8,9],.quiet 7⟩]

theorem quiet_smooth (frame : CaptureResult) (mtime : Int) : PersistCall.Smooth ⟨frame,.quiet mtime⟩ := ⟨rfl,rfl,fun _ => rfl⟩

theorem rolling_window_exact_two : tenBytes.RollsExactly oneFrame twoCalls := by
  apply rolling_window_exact rfl (by decide) twoCalls
  · intro call member
    rcases List.mem_pair.mp member with rfl | rfl <;> exact quiet_smooth _ _
  · decide
  · decide
  · refine (Runs.along_cons rfl).mpr ⟨?_,(Runs.along_cons rfl).mpr ⟨?_,Runs.along_nil⟩⟩
    · unfold Later; decide
    · unfold Later; decide

-- A target that was in the directory before: the old file is gone without
-- having been pruned.
def overwrittenFile : Directory := OrderedDict.empty.insert "a.bin" (.regular 0 [1])

def overwritingCall : PersistCall := ⟨frameOf "a" "image/x-raw" [1,2],.quiet 1⟩

theorem overwritten_file_leaves_window :
    (tenBytes.config.enabled = true ∧ 0 ≤ tenBytes.config.maxBytes ∧ (∀ call ∈ [overwritingCall], call.Smooth) ∧
      ([overwritingCall].map PersistCall.target).Nodup ∧ Runs.Along tenBytes.advance Later overwrittenFile [overwritingCall]) ∧
    ¬ tenBytes.RollsExactly overwrittenFile [overwritingCall] := by
  refine ⟨⟨rfl,by decide,?_,by decide,(Runs.along_cons rfl).mpr ⟨by unfold Later; decide,Runs.along_nil⟩⟩,?_⟩
  · intro call member
    rw [List.mem_singleton.mp member]
    exact quiet_smooth _ _
  · intro rolls
    obtain ⟨initial,arranged,_,rolls⟩ := rolls
    obtain ⟨last,kept,ran,window,_,present⟩ := rolls [overwritingCall] [] rfl (by simp)
    have single : (regularFiles overwrittenFile) = [⟨"a.bin",0,[1]⟩] := by decide
    rw [single] at arranged
    rw [List.perm_singleton.mp arranged] at window
    have both := window.longest _ (List.suffix_refl _) (by decide)
    cases ran
    have count := present.length_eq
    have one : (regularFiles (tenBytes.persist overwritingCall.os overwrittenFile overwritingCall.frame).2).length = 1 := by decide
    rw [one] at count
    rw [← count] at both
    exact absurd both (by decide)

end PersistenceBuffer
end ZenohDslr.PiRuntime
