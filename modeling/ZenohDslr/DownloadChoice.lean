import ZenohDslr.FrameMetadata
namespace ZenohDslr.PiRuntime

-- The same end of gphoto2, its files listed in another order.
def Relisted : Except CaptureError Completed → Except CaptureError Completed → Prop
  | .ok a,.ok b => b.stdout = a.stdout ∧ b.stderr = a.stderr ∧ b.downloaded.Perm a.downloaded
  | .error e,.error f => f = e
  | _,_ => False

-- Files of one directory have names of their own.
def OneDirectory (host : Host) : Prop :=
  ∀ command completed, host.run command = .ok completed → (completed.downloaded.map Downloaded.name).Nodup

def jpeg (path : Downloaded) : Bool := path.suffix.toLower = ".jpg" || path.suffix.toLower = ".jpeg"

-- The frame is made of the first file by rank and name, and is a JPEG where there
-- is one; the others are only named.
structure Chosen (fallback : String) (host : Host) (completed : Completed) (shot : GPhoto2Frame) (source : Downloaded) : Prop where
  inside : source ∈ completed.downloaded
  first : ∀ other ∈ completed.downloaded, sortKeyForDownload source ≤ sortKeyForDownload other
  read : host.readBytes source.path = .ok shot.frame.payload
  encoding : shot.frame.encoding = encodingForSuffix source.suffix fallback
  preferred : completed.downloaded.any jpeg = true → shot.frame.encoding = "image/jpeg"
  named : shot.downloadedFiles.Perm (completed.downloaded.map Downloaded.path)

structure DownloadChoice (backend : GPhoto2CaptureBackend) (host : Host) (again : List String → Except CaptureError Completed) (os : OperatingSystem)
    (now : Double) (dir : Directory) (captureId tempDir : String) (exposure : Option (OrderedDict String String)) : Prop where
  same : backend.capture {host with run := again} os now dir captureId tempDir exposure = backend.capture host os now dir captureId tempDir exposure
  chosen : ∀ shot, (backend.capture host os now dir captureId tempDir exposure).outcome = .ok shot →
    ∃ command completed source, (backend.capture host os now dir captureId tempDir exposure).ran = some command ∧
      host.run command = .ok completed ∧ Chosen backend.config.encoding host completed shot source

variable {backend : GPhoto2CaptureBackend} {host : Host} {again : List String → Except CaptureError Completed} {os : OperatingSystem} {now : Double}
  {dir : Directory} {captureId tempDir : String} {exposure : Option (OrderedDict String String)} {completed : Completed} {shot : GPhoto2Frame}
  {source path : Downloaded} {applied : OrderedDict String String}

theorem sortKey_name {other : Downloaded} (same : sortKeyForDownload path = sortKeyForDownload other) : path.name = other.name :=
  congrArg Prod.snd (toLex.injective same)

theorem sorted_relisted {files others : List Downloaded} (names : (files.map Downloaded.name).Nodup) (same : others.Perm files) :
    StableSort.sortBy sortKeyForDownload others = StableSort.sortBy sortKeyForDownload files :=
  StableSort.sortBy_congr (fun _ first _ second keys => List.inj_on_of_nodup_map names first second (sortKey_name keys)) same

theorem capture_relisted (relisted : ∀ command, Relisted (host.run command) (again command)) (one : OneDirectory host) :
    backend.capture {host with run := again} os now dir captureId tempDir exposure = backend.capture host os now dir captureId tempDir exposure := by
  unfold GPhoto2CaptureBackend.capture
  cases host.format backend.config.filenamePattern backend.settings.cameraId backend.settings.cameraModel captureId with
  | error e => rfl
  | ok filenamePattern =>
    dsimp only
    generalize backend.buildCommand _ exposure = built
    have here := relisted built.1
    cases ended : host.run built.1 with
    | error e =>
      cases other : again built.1 with
      | error f =>
        rw [ended,other] at here
        rw [show f = e from here]
      | ok b => rw [ended,other] at here; exact here.elim
    | ok a =>
      cases other : again built.1 with
      | error f => rw [ended,other] at here; exact here.elim
      | ok b =>
        rw [ended,other] at here
        obtain ⟨stdout,stderr,files⟩ := here
        have sorted := sorted_relisted (one _ a ended) files
        simp only [GPhoto2CaptureBackend.finish,sorted,stdout,stderr]

theorem jpeg_rank (here : jpeg path = true) : (ofLex (sortKeyForDownload path)).1 = 0 := by
  rw [jpeg,Bool.or_eq_true,decide_eq_true_eq,decide_eq_true_eq] at here
  rcases here with jpg | jpeg
  · simp [sortKeyForDownload,jpg]
  · simp [sortKeyForDownload,jpeg]

theorem rank_encoding (first : (ofLex (sortKeyForDownload path)).1 = 0) (fallback : String) : encodingForSuffix path.suffix fallback = "image/jpeg" := by
  unfold sortKeyForDownload at first
  unfold encodingForSuffix
  split at first
  · rename_i same; simp [same]
  · rename_i same; simp [same]
  all_goals simp at first

-- Nothing ranks before a JPEG but another one.
theorem preferred_jpeg {files : List Downloaded} (first : ∀ other ∈ files, sortKeyForDownload source ≤ sortKeyForDownload other)
    (some : files.any jpeg = true) (fallback : String) : encodingForSuffix source.suffix fallback = "image/jpeg" := by
  obtain ⟨other,inside,here⟩ := List.any_eq_true.mp some
  apply rank_encoding
  have below : (ofLex (sortKeyForDownload source)).1 ≤ (ofLex (sortKeyForDownload other)).1 := by
    rcases Prod.Lex.le_iff.mp (first other inside) with less | ⟨same,_⟩
    · exact le_of_lt less
    · exact le_of_eq same
  rw [jpeg_rank here] at below
  exact Nat.le_zero.mp below

theorem finish_chosen {last : Directory} (finished : backend.finish host os now dir captureId applied completed = (.ok shot,last)) :
    ∃ source, Chosen backend.config.encoding host completed shot source := by
  have files := @StableSort.sortBy_perm _ _ _ sortKeyForDownload completed.downloaded
  have sorted := @StableSort.sortBy_sorted _ _ _ sortKeyForDownload completed.downloaded
  unfold GPhoto2CaptureBackend.finish at finished
  split at finished
  · cases finished
  · rename_i source others listed
    rw [listed] at files sorted
    have first : ∀ other ∈ completed.downloaded, sortKeyForDownload source ≤ sortKeyForDownload other := by
      intro other inside
      rcases List.mem_cons.mp (files.mem_iff.mpr inside) with rfl | behind
      · exact le_refl _
      · exact (List.pairwise_cons.mp sorted).1 other behind
    split at finished
    · cases finished
    · rename_i payload read
      dsimp only at finished
      split at finished
      · cases finished
      · rename_i made
        cases finished
        obtain ⟨_,rfl⟩ := finalizeCapture_made made
        exact ⟨source,files.mem_iff.mp List.mem_cons_self,first,read,rfl,fun some => preferred_jpeg first some _,files.map Downloaded.path⟩

theorem capture_chosen (captured : (backend.capture host os now dir captureId tempDir exposure).outcome = .ok shot) :
    ∃ command completed source, (backend.capture host os now dir captureId tempDir exposure).ran = some command ∧
      host.run command = .ok completed ∧ Chosen backend.config.encoding host completed shot source := by
  unfold GPhoto2CaptureBackend.capture at captured ⊢
  cases formatted : host.format backend.config.filenamePattern backend.settings.cameraId backend.settings.cameraModel captureId with
  | error e => rw [formatted] at captured; cases captured
  | ok filenamePattern =>
    rw [formatted] at captured
    dsimp only at captured ⊢
    generalize backend.buildCommand _ exposure = built at captured ⊢
    cases ended : host.run built.1 with
    | error e => rw [ended] at captured; cases captured
    | ok completed =>
      rw [ended] at captured
      dsimp only at captured ⊢
      obtain ⟨source,chosen⟩ := finish_chosen (Prod.ext captured rfl)
      exact ⟨built.1,completed,source,rfl,ended,chosen⟩

-- Whatever order the directory lists its files in.
theorem download_choice (relisted : ∀ command, Relisted (host.run command) (again command)) (one : OneDirectory host) :
    DownloadChoice backend host again os now dir captureId tempDir exposure where
  same := capture_relisted relisted one
  chosen _ captured := capture_chosen captured

-- A camera that leaves a raw file and a JPEG of the same shot.
def rawAndJpeg : Host where
  format pattern _ _ _ := .ok pattern
  join directory name := directory ++ "/" ++ name
  run _ := .ok ⟨"","",[⟨"/tmp/shot.CR3","shot.CR3",".CR3"⟩,⟨"/tmp/shot.JPG","shot.JPG",".JPG"⟩]⟩
  readBytes path := if path = "/tmp/shot.JPG" then .ok [255,216,255] else .ok [0]
  readDimensions _ := (0,0)

def jpegFirst (_ : List String) : Except CaptureError Completed :=
  .ok ⟨"","",[⟨"/tmp/shot.JPG","shot.JPG",".JPG"⟩,⟨"/tmp/shot.CR3","shot.CR3",".CR3"⟩]⟩

theorem download_choice_raw : DownloadChoice ⟨⟨"eos","EOS R6","dslr/eos/frames"⟩,{},⟨{enabled := false}⟩⟩ rawAndJpeg jpegFirst (.quiet 0) .zero .empty "c0"
    "/tmp" none := by
  apply download_choice
  · exact fun _ => ⟨rfl,rfl,.swap _ _ _⟩
  · intro command completed ran
    cases ran
    simp

end ZenohDslr.PiRuntime
