import ZenohDslr.CaptureBackends
namespace ZenohDslr.PiRuntime

variable {settings : Settings} {captureId : String} {made : BackendFrame} {frame : CaptureResult} {Image : Type}
  {str : TargetPath → String} {key : String} {dir last : Directory}

def metadataKeys : List String :=
  ["camera_id","camera_model","capture_id","image_key","captured_at_unix","width","height","encoding","source_path","persisted_path"]

-- The frame and its metadata tell the same, and what the backend adds leaves that
-- alone.
structure WellFormed (settings : Settings) (captureId : String) (made : BackendFrame) : Prop where
  identified : made.frame.captureId = captureId ∧ made.frame.metadata.captureId = captureId
  keyed : made.frame.metadata.imageKey = settings.frameKeyPrefix ++ "/" ++ captureId
  owned : made.frame.metadata.cameraId = settings.cameraId ∧ made.frame.metadata.cameraModel = settings.cameraModel
  encoded : made.frame.metadata.encoding = made.frame.encoding
  sized : made.frame.metadata.width = made.frame.width ∧ made.frame.metadata.height = made.frame.height
  apart : ∀ item ∈ made.added, item.1 ∉ metadataKeys
  distinct : ∀ item ∈ made.added, item.2.Distinct

theorem finalizeCapture_made {buffer : PersistenceBuffer} {os : OperatingSystem} {now : Double} {payload : List UInt8} {encoding : String}
    {width height : Int} {sourcePath : Option String}
    (finished : finalizeCapture settings buffer os now dir captureId payload encoding width height sourcePath = (.ok frame,last)) :
    ∃ persisted, frame = ⟨captureId,payload,encoding,width,height,
      {buildMetadata settings now captureId (settings.frameKeyPrefix ++ "/" ++ captureId) width height encoding none sourcePath with
        persistedPath := persisted}⟩ := by
  unfold finalizeCapture at finished
  dsimp only at finished
  split at finished
  · cases finished
  · cases finished; exact ⟨none,rfl⟩
  · cases finished; exact ⟨_,rfl⟩

theorem wellFormed_finalized {buffer : PersistenceBuffer} {os : OperatingSystem} {now : Double} {payload : List UInt8} {encoding : String}
    {width height : Int} {sourcePath : Option String} {added : List (String × Json Double)}
    (finished : finalizeCapture settings buffer os now dir captureId payload encoding width height sourcePath = (.ok frame,last))
    (apart : ∀ item ∈ added, item.1 ∉ metadataKeys) (distinct : ∀ item ∈ added, item.2.Distinct) :
    WellFormed settings captureId ⟨frame,added⟩ := by
  obtain ⟨persisted,rfl⟩ := finalizeCapture_made finished
  exact ⟨⟨rfl,rfl⟩,rfl,⟨rfl,rfl⟩,rfl,⟨rfl,rfl⟩,apart,distinct⟩

theorem entry_item {value : Option (Json Double)} {item : String × Json Double} (inside : item ∈ entry key value) :
    item.1 = key ∧ item.2 ∈ value := by
  obtain ⟨found,there,rfl⟩ := List.mem_map.mp inside
  exact ⟨rfl,Option.mem_toList.mp there⟩

theorem string_distinct {value : Option String} {item : Json Double} (inside : item ∈ value.map Json.string) : item.Distinct := by
  obtain ⟨text,_,rfl⟩ := Option.map_eq_some_iff.mp inside
  trivial

theorem strings_distinct (items : List (String × String)) (keys : (items.map Prod.fst).Nodup) :
    (Json.object (strings items) : Json Double).Distinct := by
  refine ⟨?_,Json.distinctMembers_of ?_⟩
  · simpa [strings,Function.comp_def] using keys
  · intro member inside
    obtain ⟨item,_,rfl⟩ := List.mem_map.mp inside
    trivial

theorem mock_wellFormed {backend : MockCaptureBackend} {pil : Pillow Image} {os : OperatingSystem} {now : Double} {dateStr : String}
    {mock : MockFrame} (captured : backend.capture pil os now dir captureId dateStr = (.ok mock,last)) :
    WellFormed backend.settings captureId mock.made := by
  unfold MockCaptureBackend.capture at captured
  split at captured
  · cases captured
  · dsimp only at captured
    split at captured
    · cases captured
    · split at captured
      · cases captured
      · rename_i finished
        cases captured
        refine wellFormed_finalized finished ?_ ?_
        · intro item inside
          rw [(entry_item inside).1]
          decide
        · exact fun item inside => string_distinct (entry_item inside).2

theorem command_wellFormed {backend : CommandCaptureBackend} {host : ShellHost} {os : OperatingSystem} {now : Double}
    (captured : backend.capture host os now dir captureId = (.ok made,last)) : WellFormed backend.settings captureId made := by
  unfold CommandCaptureBackend.capture at captured
  split at captured
  · cases captured
  · split at captured
    · cases captured
    · dsimp only at captured
      split at captured
      · cases captured
      · rename_i finished
        cases captured
        refine wellFormed_finalized finished ?_ ?_
        · intro item inside
          rw [(entry_item inside).1]
          decide
        · exact fun item inside => string_distinct (entry_item inside).2

theorem gphoto2_made {shot : GPhoto2Frame} {item : String × Json Double} (inside : item ∈ shot.made.added) :
    item.1 ∉ metadataKeys ∧ item.2.Distinct := by
  simp only [GPhoto2Frame.made,List.mem_append,List.mem_singleton] at inside
  rcases inside with (((stdout | stderr) | port) | exposure) | rfl
  · obtain ⟨name,value⟩ := entry_item stdout; exact ⟨by rw [name]; decide,string_distinct value⟩
  · obtain ⟨name,value⟩ := entry_item stderr; exact ⟨by rw [name]; decide,string_distinct value⟩
  · obtain ⟨name,value⟩ := entry_item port; exact ⟨by rw [name]; decide,string_distinct value⟩
  · obtain ⟨name,value⟩ := entry_item exposure
    refine ⟨by rw [name]; decide,?_⟩
    obtain ⟨applied,_,same⟩ := Option.map_eq_some_iff.mp value
    rw [← same]
    exact strings_distinct applied.items applied.distinct
  · refine ⟨by simp [metadataKeys],Json.distinctItems_of ?_⟩
    intro path there
    obtain ⟨text,_,rfl⟩ := List.mem_map.mp there
    trivial

theorem gphoto2_wellFormed {backend : GPhoto2CaptureBackend} {host : Host} {os : OperatingSystem} {now : Double} {tempDir : String}
    {exposure : Option (OrderedDict String String)} {shot : GPhoto2Frame}
    (captured : (backend.capture host os now dir captureId tempDir exposure).outcome = .ok shot) :
    WellFormed backend.settings captureId shot.made := by
  unfold GPhoto2CaptureBackend.capture at captured
  split at captured
  · cases captured
  · dsimp only at captured
    split at captured
    · cases captured
    · rename_i completed ran
      unfold GPhoto2CaptureBackend.finish at captured
      split at captured
      · cases captured
      · split at captured
        · cases captured
        · dsimp only at captured
          split at captured
          · cases captured
          · rename_i finished
            cases captured
            exact wellFormed_finalized finished (fun item inside => (gphoto2_made inside).1) fun item inside => (gphoto2_made inside).2

theorem ok_of_mapError {α β ε : Type} {outcome : Except α β} {wrap : α → ε} {b : β} (ended : outcome.mapError wrap = .ok b) : outcome = .ok b := by
  cases outcome <;> cases ended
  rfl

theorem ok_of_map {α β ε : Type} {outcome : Except ε α} {turn : α → β} {b : β} (ended : outcome.map turn = .ok b) :
    ∃ a, outcome = .ok a ∧ turn a = b := by
  cases outcome <;> cases ended
  exact ⟨_,rfl,rfl⟩

-- Whatever backend the settings name, its frames are well formed.
theorem capture_wellFormed {config : BackendConfig} {persistence : PersistenceBuffer} {backend : CaptureBackend} {world : Surroundings Image}
    {exposure : Option (OrderedDict String String)} (built : buildBackend settings config persistence = .ok backend)
    (captured : (backend.capture world exposure dir).1 = .ok made) : WellFormed settings world.captureId made := by
  unfold buildBackend at built
  split_ifs at built
  · cases built
    obtain ⟨mock,ended,rfl⟩ := ok_of_map (ok_of_mapError captured)
    exact mock_wellFormed (Prod.ext ended rfl)
  · obtain ⟨command,created,rfl⟩ := ok_of_map built
    unfold CommandCaptureBackend.create at created
    split at created
    · cases created
    · cases created
      exact command_wellFormed (Prod.ext (ok_of_mapError captured) rfl)
  · cases built
    obtain ⟨shot,ended,rfl⟩ := ok_of_map (ok_of_mapError captured)
    exact gphoto2_wellFormed ended

theorem base_distinct (metadata : Metadata) : ((metadata.items str).map Prod.fst).Nodup := by
  unfold Metadata.items entry
  cases metadata.sourcePath <;> cases metadata.persistedPath <;> simp

theorem base_flat (metadata : Metadata) : ∀ item ∈ metadata.items str, item.2.Distinct := by
  unfold Metadata.items entry
  cases metadata.sourcePath <;> cases metadata.persistedPath <;> simp [Json.Distinct]

theorem metadata_base (wellFormed : WellFormed settings captureId made) (known : key ∈ metadataKeys) :
    (made.metadata str).get? key = OrderedDict.find key (made.frame.metadata.items str) := by
  have outside : key ∉ made.added.map Prod.fst := by
    intro inside
    obtain ⟨item,there,rfl⟩ := List.mem_map.mp inside
    exact wellFormed.apart item there known
  have filled := @OrderedDict.insertAll_items _ _ _ OrderedDict.empty _ (@base_distinct str made.frame.metadata) fun _ _ => rfl
  rw [BackendFrame.metadata,OrderedDict.get?_insertAll_other outside,OrderedDict.get?,filled]
  rfl

theorem metadata_distinct (wellFormed : WellFormed settings captureId made) : (Json.object (made.metadata str).items).Distinct := by
  refine ⟨(made.metadata str).distinct,Json.distinctMembers_of ?_⟩
  intro member inside
  rcases OrderedDict.mem_insertAll inside with base | added
  · rcases OrderedDict.mem_insertAll base with nothing | base
    · cases nothing
    · exact base_flat made.frame.metadata member base
  · exact wellFormed.distinct member added

-- A time that is a number is read back bit for bit, and nothing else is a float.
theorem base_settled {metadata : Metadata} (number : metadata.capturedAtUnix.isNaN = false) :
    (OrderedDict.find key (metadata.items str)).map Json.settled = OrderedDict.find key (metadata.items str) := by
  have whole : ∀ item ∈ metadata.items str, Json.settled item.2 = item.2 := by
    unfold Metadata.items entry
    cases metadata.sourcePath <;> cases metadata.persistedPath <;> simp [Json.settled,Double.settle_number number]
  cases found : OrderedDict.find key (metadata.items str) with
  | none => rfl
  | some value => exact congrArg some (whole (key,value) (OrderedDict.find_mem found))

-- What a receiver of the attachment reads under a key of the metadata.
theorem attachment_read (wellFormed : WellFormed settings captureId made) : ∃ members, Json.loads (made.attachment str) = some (.object members) ∧
    ∀ key ∈ metadataKeys, OrderedDict.find key members = (OrderedDict.find key (made.frame.metadata.items str)).map Json.settled := by
  refine ⟨_,Json.loads_dumps _ (metadata_distinct wellFormed),?_⟩
  intro key known
  rw [Json.find_settledMembers,← metadata_base wellFormed known]
  rfl

end ZenohDslr.PiRuntime
