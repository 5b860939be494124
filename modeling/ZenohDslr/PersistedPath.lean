import ZenohDslr.Pruning
namespace ZenohDslr.PiRuntime
open RollingWindow

-- The files that sort behind `target`: the later ones, and those of the same
-- `mtime` that `iterdir` lists after it.
def behind (target : String) (mtime : Int) : List StoredFile → List StoredFile
  | [] => []
  | file :: rest =>
    if file.name = target then rest.filter fun other => mtime ≤ other.mtime
    else if mtime < file.mtime then file :: behind target mtime rest
    else behind target mtime rest

variable {target : String} {mtime : Int} {pre post : List StoredFile} {new : StoredFile} {dir next : Directory}
  {os : OperatingSystem} {buffer : PersistenceBuffer} {frame : CaptureResult} {payload : List UInt8}

theorem behind_split (apart : ∀ file ∈ pre, file.name ≠ target) (here : new.name = target) :
    behind target mtime (pre ++ new :: post) =
      pre.filter (fun other => mtime < other.mtime) ++ post.filter fun other => mtime ≤ other.mtime := by
  induction pre with
  | nil => rw [List.nil_append,behind,if_pos here,List.filter_nil,List.nil_append]
  | cons file rest ih =>
    have later := ih fun other member => apart other (List.mem_cons_of_mem _ member)
    rw [List.cons_append,behind,if_neg (apart file List.mem_cons_self),later]
    by_cases newer : mtime < file.mtime
    · rw [if_pos newer,List.filter_cons_of_pos (by simpa using newer),List.cons_append]
    · rw [if_neg newer,List.filter_cons_of_neg (by simpa using newer)]

namespace PersistenceBuffer

-- A path that `persist` returns names a file of the directory itself, with the
-- bytes of the frame.
def PathReal (buffer : PersistenceBuffer) (os : OperatingSystem) (dir : Directory) (frame : CaptureResult) : Prop :=
  ∀ path next, buffer.persist os dir frame = (.ok (some path),next) →
    path = ⟨buffer.config.directory,frame.target⟩ ∧ '/' ∉ path.name.toList ∧ ∃ mtime, next.get? path.name = some (.regular mtime frame.payload)

def MetadataReal (settings : Settings) (buffer : PersistenceBuffer) (os : OperatingSystem) (now : Double) (dir : Directory)
    (frame : CaptureResult) (sourcePath : Option String) : Prop :=
  ∀ result next, finalizeCapture settings buffer os now dir frame.captureId frame.payload frame.encoding frame.width frame.height
      sourcePath = (.ok result,next) →
    ∀ path, result.metadata.persistedPath = some path → ∃ mtime, next.get? path.name = some (.regular mtime result.payload)

-- A call fails on the way, or the bytes land in a regular file, and it fits with
-- what sorts behind it.
def Survives (buffer : PersistenceBuffer) (os : OperatingSystem) (dir : Directory) (frame : CaptureResult) : Prop :=
  let written := landed os dir frame.target frame.payload
  Refused os dir frame.target ∨ os.scanRaises = true ∨
    (∃ file ∈ dropped StoredFile.size buffer.config.maxBytes (scan os written), os.unlinkRaises file.name = true) ∨
    ¬ Swallowed os dir frame.target ∧
      frame.payload.length + total StoredFile.size (behind frame.target os.mtime ((os.iterdir written).order.filterMap isFile)) ≤
        buffer.config.maxBytes

theorem target_plain (plain : '/' ∉ frame.captureId.toList) : '/' ∉ frame.target.toList := by
  have suffix : '/' ∉ (suffixForEncoding frame.encoding).toList := by
    unfold suffixForEncoding
    split_ifs <;> decide
  rw [CaptureResult.target,String.toList_append]
  exact List.not_mem_append plain suffix

-- The new file in the listing, with what sorts behind it.
theorem scan_split (os : OperatingSystem) (present : dir.get? target = some (.regular mtime payload)) : ∃ front back,
    scan os dir = front ++ ⟨target,mtime,payload⟩ :: back ∧
    total StoredFile.size back = total StoredFile.size (behind target mtime ((os.iterdir dir).order.filterMap isFile)) := by
  have listed : (⟨target,mtime,payload⟩ : StoredFile) ∈ (os.iterdir dir).order.filterMap isFile :=
    List.mem_filterMap.mpr ⟨_,(os.iterdir dir).perm.mem_iff.mpr (OrderedDict.find_mem present),rfl⟩
  obtain ⟨pre,post,split⟩ := List.append_of_mem listed
  have distinct : (((os.iterdir dir).order.filterMap isFile).map StoredFile.name).Nodup :=
    (((os.iterdir dir).perm.filterMap isFile).map StoredFile.name).nodup_iff.mpr (regularFiles_names dir)
  rw [split,List.map_append,List.map_cons] at distinct
  have apart : ∀ file ∈ pre, file.name ≠ target := by
    intro file member
    exact (List.nodup_append.mp distinct).2.2 _ (List.mem_map_of_mem member) target List.mem_cons_self
  obtain ⟨front,back,sorted,_,rearranged⟩ := StableSort.sortBy_split StoredFile.mtime pre post ⟨target,mtime,payload⟩
  refine ⟨front,back,?_,?_⟩
  · rw [scan,split]; exact sorted
  · rw [split,behind_split apart rfl]
    exact total_perm rearranged

theorem scan_names (os : OperatingSystem) (dir : Directory) : ((scan os dir).map StoredFile.name).Nodup :=
  ((scan_perm os dir).map StoredFile.name).nodup_iff.mpr (regularFiles_names dir)

-- Pruning takes the new file exactly when it does not fit with what is behind it.
theorem target_dropped (os : OperatingSystem) (maxBytes : Int) (present : dir.get? target = some (.regular mtime payload)) :
    target ∈ (dropped StoredFile.size maxBytes (scan os dir)).map StoredFile.name ↔
      maxBytes < payload.length + total StoredFile.size (behind target mtime ((os.iterdir dir).order.filterMap isFile)) := by
  obtain ⟨front,back,split,sizes⟩ := scan_split os present
  have whole : total StoredFile.size (⟨target,mtime,payload⟩ :: back) = payload.length + total StoredFile.size back := total_cons _
  rw [← sizes]
  constructor
  · intro member
    apply Classical.byContradiction
    intro light
    have kept : (⟨target,mtime,payload⟩ : StoredFile) ∈ keep StoredFile.size maxBytes (scan os dir) := by
      rw [split]
      exact kept_of_within (by omega)
    have distinct := scan_names os dir
    rw [← dropped_append_keep (scan os dir),List.map_append] at distinct
    exact (List.nodup_append.mp distinct).2.2 target member target (List.mem_map.mpr ⟨_,kept,rfl⟩) rfl
  · intro heavy
    have first : front ++ [⟨target,mtime,payload⟩] <+: dropped StoredFile.size maxBytes (scan os dir) := by
      rw [split]
      exact dropped_of_over (by omega)
    exact List.mem_map.mpr ⟨_,first.subset (List.mem_append_right _ List.mem_cons_self),rfl⟩

theorem pathReal_of_error {e : OSError} (raised : buffer.persist os dir frame = (.error e,next)) : PathReal buffer os dir frame := by
  intro path left returned
  rw [raised] at returned
  cases returned

-- When nothing raises, only the pruning of the new file itself is in the way, or
-- that there is none.
theorem pathReal_through (enabled : buffer.config.enabled = true) (plain : '/' ∉ frame.captureId.toList)
    (returns : ¬ Refused os dir frame.target) (scans : os.scanRaises = false)
    (fine : ∀ file ∈ dropped StoredFile.size buffer.config.maxBytes (scan os (landed os dir frame.target frame.payload)),
      os.unlinkRaises file.name = false) :
    PathReal buffer os dir frame ↔ ¬ Swallowed os dir frame.target ∧ frame.payload.length + total StoredFile.size
      (behind frame.target os.mtime ((os.iterdir (landed os dir frame.target frame.payload)).order.filterMap isFile)) ≤
        buffer.config.maxBytes := by
  have persisted := persist_through enabled (writeBytes_returns returns) scans fine
  by_cases swallowed : Swallowed os dir frame.target
  · refine ⟨fun real => ?_,fun both => absurd swallowed both.1⟩
    obtain ⟨_,_,mtime,held⟩ := real _ _ persisted
    rw [get?_eraseAll,landed,if_pos swallowed,swallowed.1] at held
    split at held <;> cases held
  have present : (landed os dir frame.target frame.payload).get? frame.target = some (.regular os.mtime frame.payload) := by
    rw [landed,if_neg swallowed]
    exact OrderedDict.get?_insert_self dir
  have taken := target_dropped os buffer.config.maxBytes present
  constructor
  · intro real
    obtain ⟨_,_,mtime,held⟩ := real _ _ persisted
    refine ⟨swallowed,Classical.byContradiction fun heavy => ?_⟩
    rw [get?_eraseAll,if_pos (taken.mpr (by omega))] at held
    cases held
  · intro fits path next returned
    rw [persisted] at returned
    cases returned
    refine ⟨rfl,target_plain plain,os.mtime,?_⟩
    rw [get?_eraseAll,if_neg]
    · exact present
    · intro inside
      have heavy := taken.mp inside
      omega

theorem pathReal_exact (enabled : buffer.config.enabled = true) (plain : '/' ∉ frame.captureId.toList) :
    PathReal buffer os dir frame ↔ Survives buffer os dir frame := by
  by_cases fails : Refused os dir frame.target
  · obtain ⟨e,left,stopped⟩ : ∃ e next, writeBytes os dir frame.target frame.payload = (.error e,next) := writeBytes_fails fails
    have raised : buffer.persist os dir frame = (.error e,left) := by simp [persist,enabled,stopped]
    exact ⟨fun _ => .inl fails,fun _ => pathReal_of_error raised⟩
  by_cases bad : os.scanRaises = true ∨ ∃ file ∈ dropped StoredFile.size buffer.config.maxBytes
      (scan os (landed os dir frame.target frame.payload)), os.unlinkRaises file.name = true
  · obtain ⟨e,left,stopped⟩ := persist_stops enabled (writeBytes_returns fails) bad
    refine ⟨fun _ => .inr ?_,fun _ => pathReal_of_error stopped⟩
    rcases bad with scans | raises
    · exact .inl scans
    · exact .inr (.inl raises)
  · obtain ⟨scans,unlinks⟩ := not_or.mp bad
    rw [pathReal_through enabled plain fails (Bool.eq_false_iff.mpr scans)
      fun file member => Bool.eq_false_iff.mpr fun raises => unlinks ⟨file,member,raises⟩]
    constructor
    · intro fits; exact .inr (.inr (.inr fits))
    · intro survives
      rcases survives with failed | never | raises | fits
      · exact absurd failed fails
      · exact absurd never scans
      · exact absurd raises unlinks
      · exact fits

-- `persist` looks at the name, the payload and nothing else of a frame.
theorem persist_congr {other : CaptureResult} (id : other.captureId = frame.captureId) (bytes : other.payload = frame.payload)
    (encoding : other.encoding = frame.encoding) : buffer.persist os dir other = buffer.persist os dir frame := by
  have name : other.target = frame.target := by rw [CaptureResult.target,id,encoding,CaptureResult.target]
  unfold persist
  rw [name,bytes]

theorem metadataReal_of_pathReal {settings : Settings} {now : Double} {sourcePath : Option String}
    (real : PathReal buffer os dir frame) : MetadataReal settings buffer os now dir frame sourcePath := by
  intro result next finished path named
  let plain : CaptureResult := ⟨frame.captureId,frame.payload,frame.encoding,frame.width,frame.height,
    buildMetadata settings now frame.captureId (settings.frameKeyPrefix ++ "/" ++ frame.captureId) frame.width frame.height
      frame.encoding none sourcePath⟩
  have same : buffer.persist os dir plain = buffer.persist os dir frame := persist_congr rfl rfl rfl
  unfold finalizeCapture at finished
  dsimp only at finished
  rw [same] at finished
  split at finished
  · cases finished
  · cases finished; cases named
  · rename_i returned left persisted
    cases finished
    cases named
    exact (real _ _ persisted).2.2

-- The path of a persisted frame, in the answer and in the metadata, is that of
-- its bytes exactly when the frame survives its own pruning.
theorem persisted_path_real_iff (settings : Settings) (now : Double) (sourcePath : Option String)
    (enabled : buffer.config.enabled = true) (plain : '/' ∉ frame.captureId.toList) :
    (PathReal buffer os dir frame ∧ MetadataReal settings buffer os now dir frame sourcePath) ↔ Survives buffer os dir frame := by
  rw [← pathReal_exact enabled plain]
  exact ⟨fun both => both.1,fun real => ⟨real,metadataReal_of_pathReal real⟩⟩

-- A frame written after the clock has stepped back, next to an older one that
-- looks newer.
def clockSteppedBack : OperatingSystem := .quiet 3

def earlierFrames : Directory := OrderedDict.empty.insert "00.jpg" (.regular 5 [1,2,3,4,5,6])

def sixByteFrame : CaptureResult :=
  ⟨"01",[1,2,3,4,5,6],"image/jpeg",1,1,⟨"dslr-a","EOS","01","cameras/a/01",Double.zero,1,1,"image/jpeg",none,none⟩⟩

theorem persisted_path_real_iff_back :
    (PathReal tenBytes clockSteppedBack earlierFrames sixByteFrame ∧
      MetadataReal ⟨"dslr-a","EOS","cameras/a"⟩ tenBytes clockSteppedBack Double.zero earlierFrames sixByteFrame none) ↔
    Survives tenBytes clockSteppedBack earlierFrames sixByteFrame :=
  persisted_path_real_iff ⟨"dslr-a","EOS","cameras/a"⟩ Double.zero none rfl (by decide)

theorem stepped_back_path_dangles :
    ¬ (PathReal tenBytes clockSteppedBack earlierFrames sixByteFrame ∧
      MetadataReal ⟨"dslr-a","EOS","cameras/a"⟩ tenBytes clockSteppedBack Double.zero earlierFrames sixByteFrame none) := by
  intro real
  obtain ⟨_,_,mtime,held⟩ := real.1 ⟨"./captures","01.jpg"⟩ _ rfl
  cases held

end PersistenceBuffer
end ZenohDslr.PiRuntime
