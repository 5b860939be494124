import ZenohDslr.Persistence
namespace ZenohDslr.PiRuntime
open RollingWindow

def eraseAll (dir : Directory) (names : List String) : Directory := names.foldl OrderedDict.erase dir

variable {dir : Directory} {name : String} {files : List StoredFile} {maxBytes : Int} {unlinkRaises : String → Bool}
  {os : OperatingSystem}

theorem get?_eraseAll (dir : Directory) (names : List String) :
    (eraseAll dir names).get? name = if name ∈ names then none else dir.get? name := by
  induction names generalizing dir with
  | nil => rfl
  | cons first rest ih =>
    change (eraseAll (dir.erase first) rest).get? name = _
    rw [ih]
    by_cases here : name = first
    · subst here
      rw [OrderedDict.get?_erase_self]
      simp
    · rw [OrderedDict.get?_erase_other dir here]
      simp [here]

theorem isFile_name {item : String × DirEntry} {file : StoredFile} (found : isFile item = some file) : file.name = item.1 := by
  unfold isFile at found
  split at found
  · cases found; rfl
  · cases found

theorem filterMap_names (items : List (String × DirEntry)) : ((items.filterMap isFile).map StoredFile.name).Sublist (items.map Prod.fst) := by
  induction items with
  | nil => exact .slnil
  | cons item rest ih =>
    cases found : isFile item with
    | none => rw [List.filterMap_cons_none found]; exact ih.cons _
    | some file =>
      rw [List.filterMap_cons_some found,List.map_cons,List.map_cons,isFile_name found]
      exact ih.cons_cons _

theorem regularFiles_names (dir : Directory) : ((regularFiles dir).map StoredFile.name).Nodup :=
  dir.distinct.sublist (filterMap_names dir.items)

theorem regularFiles_erase (dir : Directory) (name : String) :
    regularFiles (dir.erase name) = (regularFiles dir).filter fun file => file.name ≠ name := by
  change (dir.items.filter fun item => decide (item.1 ≠ name)).filterMap isFile = (dir.items.filterMap isFile).filter _
  rw [List.filterMap_filter,List.filter_filterMap]
  apply List.filterMap_congr
  intro item _
  cases found : isFile item with
  | none => simp
  | some file => by_cases here : item.1 = name <;> simp [Option.filter,isFile_name found,here]

theorem scan_perm (os : OperatingSystem) (dir : Directory) : (PersistenceBuffer.scan os dir).Perm (regularFiles dir) :=
  (StableSort.sortBy_perm _).trans ((os.iterdir dir).perm.filterMap isFile)

namespace PersistenceBuffer

-- The running total is the size of the files still in the list.
theorem running_total (oldest : StoredFile) (files : List StoredFile) :
    (total StoredFile.size (oldest :: files) : Int) - oldest.size = total StoredFile.size files := by
  rw [total_cons]
  omega

theorem pruneLoop_through (dir : Directory) (fine : ∀ file ∈ dropped StoredFile.size maxBytes files, unlinkRaises file.name = false) :
    pruneLoop maxBytes unlinkRaises (total StoredFile.size files) files dir =
      (.ok (),eraseAll dir ((dropped StoredFile.size maxBytes files).map StoredFile.name)) := by
  induction files generalizing dir with
  | nil => rfl
  | cons oldest rest ih =>
    by_cases heavy : maxBytes < total StoredFile.size (oldest :: rest)
    · rw [dropped_over heavy] at fine ⊢
      rw [pruneLoop,if_pos heavy,fine oldest List.mem_cons_self,running_total]
      exact ih _ fun file member => fine file (List.mem_cons_of_mem _ member)
    · rw [dropped_within heavy,pruneLoop,if_neg heavy]
      rfl

theorem pruneLoop_raises (dir : Directory)
    (bad : ∃ file ∈ dropped StoredFile.size maxBytes files, unlinkRaises file.name = true) :
    ∃ e next, pruneLoop maxBytes unlinkRaises (total StoredFile.size files) files dir = (.error e,next) := by
  induction files generalizing dir with
  | nil => obtain ⟨_,member,_⟩ := bad; cases member
  | cons oldest rest ih =>
    by_cases heavy : maxBytes < total StoredFile.size (oldest :: rest)
    · rw [dropped_over heavy] at bad
      rw [pruneLoop,if_pos heavy,running_total]
      cases here : unlinkRaises oldest.name with
      | true => exact ⟨_,_,rfl⟩
      | false =>
        obtain ⟨file,member,raises⟩ := bad
        rcases List.mem_cons.mp member with rfl | later
        · rw [here] at raises; cases raises
        · exact ih _ ⟨file,later,raises⟩
    · rw [dropped_within heavy] at bad
      obtain ⟨_,member,_⟩ := bad
      cases member

theorem prune_through {self : PersistenceBuffer} (scans : os.scanRaises = false)
    (fine : ∀ file ∈ dropped StoredFile.size self.config.maxBytes (scan os dir), os.unlinkRaises file.name = false) :
    self.prune os dir =
      (.ok (),eraseAll dir ((dropped StoredFile.size self.config.maxBytes (scan os dir)).map StoredFile.name)) := by
  unfold prune
  rw [scans]
  exact pruneLoop_through dir fine

section Persisting
variable {self : PersistenceBuffer} {frame : CaptureResult} {written : Directory} {target : String} {payload : List UInt8}

-- The bytes go to something that is no regular file, and stays none.
def Swallowed (os : OperatingSystem) (dir : Directory) (name : String) : Prop :=
  dir.get? name = some .other ∧ os.special = .swallowed

instance (os : OperatingSystem) (dir : Directory) (name : String) : Decidable (Swallowed os dir name) :=
  inferInstanceAs (Decidable (_ ∧ _))

def Refused (os : OperatingSystem) (dir : Directory) (name : String) : Prop :=
  dir.get? name = some .other ∧ os.special = .refused ∨ os.write ≠ .complete

-- The directory behind a write that returns.
def landed (os : OperatingSystem) (dir : Directory) (name : String) (payload : List UInt8) : Directory :=
  if Swallowed os dir name then dir else dir.insert name (.regular os.mtime payload)

theorem writeBytes_returns (returns : ¬ Refused os dir target) :
    writeBytes os dir target payload = (.ok (),landed os dir target payload) := by
  obtain ⟨unrefused,complete⟩ := not_or.mp returns
  have wrote : os.write = .complete := Classical.not_not.mp complete
  cases found : dir.get? target with
  | none => simp [writeBytes,landed,Swallowed,found,wrote]
  | some entry =>
    cases entry with
    | regular mtime bytes => simp [writeBytes,landed,Swallowed,found,wrote]
    | other =>
      cases special : os.special with
      | refused => exact absurd ⟨found,special⟩ unrefused
      | swallowed => simp [writeBytes,landed,Swallowed,found,wrote,special]
      | created => simp [writeBytes,landed,Swallowed,found,wrote,special]

theorem writeBytes_fails (bad : Refused os dir target) : ∃ e next, writeBytes os dir target payload = (.error e,next) := by
  rcases bad with ⟨found,special⟩ | raised
  · exact ⟨.write,dir,by simp [writeBytes,found,special]⟩
  · cases wrote : os.write with
    | complete => exact absurd wrote raised
    | raised left =>
      unfold writeBytes
      rw [wrote]
      split <;> first | exact ⟨_,_,rfl⟩ | contradiction

theorem persist_through (enabled : self.config.enabled = true)
    (wrote : writeBytes os dir frame.target frame.payload = (.ok (),written)) (scans : os.scanRaises = false)
    (fine : ∀ file ∈ dropped StoredFile.size self.config.maxBytes (scan os written), os.unlinkRaises file.name = false) :
    self.persist os dir frame = (.ok (some ⟨self.config.directory,frame.target⟩),
      eraseAll written ((dropped StoredFile.size self.config.maxBytes (scan os written)).map StoredFile.name)) := by
  simp [persist,enabled,wrote,prune_through scans fine]

theorem persist_stops (enabled : self.config.enabled = true)
    (wrote : writeBytes os dir frame.target frame.payload = (.ok (),written))
    (bad : os.scanRaises = true ∨
      ∃ file ∈ dropped StoredFile.size self.config.maxBytes (scan os written), os.unlinkRaises file.name = true) :
    ∃ e next, self.persist os dir frame = (.error e,next) := by
  cases scans : os.scanRaises with
  | true => exact ⟨.scan,written,by simp [persist,enabled,wrote,prune,scans]⟩
  | false =>
    rcases bad with never | raises
    · rw [scans] at never; cases never
    · obtain ⟨e,next,stopped⟩ := pruneLoop_raises written raises
      exact ⟨e,next,by simp [persist,enabled,wrote,prune,scans,stopped]⟩

end Persisting

-- Erasing the files in front of a list of distinct names leaves the rest.
theorem regularFiles_eraseAll {front back : List StoredFile} (same : (regularFiles dir).Perm (front ++ back)) :
    (regularFiles (eraseAll dir (front.map StoredFile.name))).Perm back := by
  induction front generalizing dir with
  | nil => exact same
  | cons file rest ih =>
    apply @ih (dir.erase file.name)
    have distinct := ((same.map StoredFile.name).nodup_iff).mp (regularFiles_names dir)
    rw [List.cons_append,List.map_cons] at distinct
    obtain ⟨apart,_⟩ := List.nodup_cons.mp distinct
    rw [regularFiles_erase]
    have erased := same.filter fun other => decide (other.name ≠ file.name)
    rw [List.cons_append,List.filter_cons_of_neg (by simp)] at erased
    have others : (rest ++ back).filter (fun other => decide (other.name ≠ file.name)) = rest ++ back := by
      apply List.filter_eq_self.mpr
      intro other member
      apply decide_eq_true
      intro equal
      exact apart (List.mem_map.mpr ⟨other,member,equal⟩)
    rw [others] at erased
    exact erased

end PersistenceBuffer
end ZenohDslr.PiRuntime
