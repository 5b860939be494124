import ZenohDslr.ExposureSnapshots
import ZenohDslr.GPhoto2Capture
namespace ZenohDslr.PiRuntime.GPhoto2CaptureBackend
open Picoparams ExposureParameterServer Overlap PyText

variable {self : GPhoto2CaptureBackend} {items pairs : List (String × String)} {command : List String}
  {applied : OrderedDict String String}

-- What the loop of `capture` keeps of one item.
def kept (item : String × String) : Option (String × String) :=
  if strip item.2 = "" then none else some (item.1,strip item.2)

def setConfigs (pairs : List (String × String)) : List String := pairs.flatMap fun pair => setConfig pair.1 pair.2

-- The command in front of the settings and behind them.
def opening (self : GPhoto2CaptureBackend) : List String :=
  match present self.config.port with
  | some port => ["gphoto2","--port",port]
  | none => ["gphoto2"]

def shooting (self : GPhoto2CaptureBackend) (targetTemplate : String) : List String :=
  ["--capture-image-and-download","--force-overwrite","--filename",targetTemplate] ++
    (if self.config.keepOnCamera then ["--keep"] else []) ++ self.config.extraArgs.getD []

theorem applyExposure_eq (command : List String) (applied : OrderedDict String String) (items : List (String × String)) :
    applyExposure (command,applied) items =
      (command ++ setConfigs (items.filterMap kept),applied.insertAll (items.filterMap kept)) := by
  induction items generalizing command applied with
  | nil => simp [applyExposure,setConfigs,OrderedDict.insertAll]
  | cons item rest ih =>
    obtain ⟨key,value⟩ := item
    by_cases blank : strip value = ""
    · simp [applyExposure,kept,blank,ih]
    · simp [applyExposure,kept,blank,ih,setConfigs,OrderedDict.insertAll]

theorem buildCommand_eq (targetTemplate : String) (exposure : Option (OrderedDict String String)) :
    self.buildCommand targetTemplate exposure =
      (self.opening ++ setConfigs (((exposure.map OrderedDict.items).getD []).filterMap kept) ++ self.shooting targetTemplate,
        OrderedDict.empty.insertAll (((exposure.map OrderedDict.items).getD []).filterMap kept)) := by
  unfold buildCommand opening shooting
  cases present self.config.port <;> cases self.config.keepOnCamera <;> simp [applyExposure_eq]

theorem kept_same (clean : ∀ pair ∈ pairs, strip pair.2 = pair.2 ∧ pair.2 ≠ "") : pairs.filterMap kept = pairs := by
  induction pairs with
  | nil => rfl
  | cons pair rest ih =>
    obtain ⟨stripped,nonempty⟩ := clean pair List.mem_cons_self
    have tail := ih fun other inside => clean other (List.mem_cons_of_mem _ inside)
    simp [kept,stripped,nonempty,tail]

theorem capture_ran (host : Host) (os : OperatingSystem) (now : Double) (dir : Directory) (captureId tempDir : String)
    (exposure : Option (OrderedDict String String)) : (self.capture host os now dir captureId tempDir exposure).ran =
    (host.format self.config.filenamePattern self.settings.cameraId self.settings.cameraModel captureId).toOption.map
      fun name => (self.buildCommand (host.join tempDir (name ++ ".%C")) exposure).1 := by
  unfold capture
  split
  · rename_i failed; simp [failed,Except.toOption]
  · rename_i name formatted
    simp only [formatted,Except.toOption,Option.map_some]
    split <;> rfl

theorem capture_exposure {host : Host} {os : OperatingSystem} {now : Double} {dir : Directory} {captureId tempDir : String}
    {exposure : Option (OrderedDict String String)} {frame : GPhoto2Frame}
    (taken : (self.capture host os now dir captureId tempDir exposure).outcome = .ok frame) : ∃ targetTemplate,
    frame.exposure = if (self.buildCommand targetTemplate exposure).2.items.isEmpty then none
      else some (self.buildCommand targetTemplate exposure).2 := by
  unfold capture at taken
  split at taken
  · cases taken
  · rename_i name _
    refine ⟨host.join tempDir (name ++ ".%C"),?_⟩
    dsimp only at taken
    split at taken
    · cases taken
    · unfold finish at taken
      split at taken
      · cases taken
      · split at taken
        · cases taken
        · dsimp only at taken
          split at taken
          · cases taken
          · cases taken
            rfl

section Reaching
variable [Python] {params : OrderedDict String String} {backend : DictParameterBackend} {key text : String} {value : ParameterValue}

-- The text a declared key contributes: of its current value, neither `None` nor blank.
def Contributes (backend : DictParameterBackend) (key text : String) : Prop :=
  ∃ value, backend.valueOf key = some value ∧ nativeValue value ≠ .none ∧ text = strip (str (nativeValue value)) ∧ text ≠ ""

theorem textOf_present (present : nativeValue value ≠ .none) :
    textOf value = if strip (str (nativeValue value)) = "" then none else some (strip (str (nativeValue value))) := by
  unfold textOf
  cases native : nativeValue value with
  | none => exact absurd native present
  | _ => rfl

theorem textOf_exact : textOf value = some text ↔
    nativeValue value ≠ .none ∧ text = strip (str (nativeValue value)) ∧ text ≠ "" := by
  by_cases missing : nativeValue value = .none
  · simp [textOf,missing]
  · rw [textOf_present missing]
    split
    · rename_i blank
      simp [blank]
    · rename_i solid
      constructor
      · intro same
        cases same
        exact ⟨missing,rfl,solid⟩
      · rintro ⟨_,rfl,_⟩
        rfl

theorem shows_exact : shows backend key = some text ↔ Contributes backend key text := by
  simp only [shows,Option.bind_eq_some_iff,textOf_exact,Contributes]

def contributions (params : OrderedDict String String) (backend : DictParameterBackend) : List (String × String) :=
  params.keys.filterMap fun key => (shows backend key).map fun text => (key,text)

theorem contributions_keys (params : OrderedDict String String) (backend : DictParameterBackend) :
    ((contributions params backend).map Prod.fst).Sublist params.keys := by
  have same : ∀ key pair, (shows backend key).map (fun text => (key,text)) = some pair → pair.1 = key := by
    intro key pair made
    obtain ⟨text,_,rfl⟩ := Option.map_eq_some_iff.mp made
    rfl
  have keys := OrderedDict.filterMap_keys same params.keys
  simpa [contributions] using keys

theorem mem_contributions : (key,text) ∈ contributions params backend ↔ key ∈ params.keys ∧ Contributes backend key text := by
  simp [contributions,shows_exact]

theorem contributions_clean : ∀ pair ∈ contributions params backend, strip pair.2 = pair.2 ∧ pair.2 ≠ "" := by
  rintro ⟨key,text⟩ inside
  obtain ⟨_,value,_,_,rfl,nonempty⟩ := mem_contributions.mp inside
  exact ⟨strip_strip _,nonempty⟩

-- `current` filters and strips once, in the order of declaration.
theorem current_items (params : OrderedDict String String) (backend : DictParameterBackend) :
    (current ⟨params,some backend⟩).items = contributions params backend := by
  have filled : ∀ (names : List String) out, names.foldl (note backend) out =
      out.insertAll (names.filterMap fun key => (shows backend key).map fun text => (key,text)) := by
    intro names
    induction names with
    | nil => intro out; rfl
    | cons name rest ih =>
      intro out
      rw [List.foldl_cons,ih,note_enter]
      cases text : shows backend name <;> simp [enter,text,OrderedDict.insertAll]
  have distinct := params.distinct.sublist (contributions_keys params backend)
  change (params.keys.foldl (note backend) .empty).items = _
  rw [filled]
  exact OrderedDict.insertAll_items distinct fun _ _ => rfl

-- The settings stand between what the command is without them; the second part
-- begins with the shot; the frame tells the same settings. Without a file name
-- there is no command.
structure Reaches (pairs : List (String × String)) (name : Except CaptureError String) (shot bare : Shot) : Prop where
  argv : ∀ text, name = .ok text → ∃ front back, shot.ran = some (front ++ setConfigs pairs ++ back) ∧
    bare.ran = some (front ++ back) ∧ back.head? = some "--capture-image-and-download"
  nameless : ∀ e, name = .error e → shot.ran = none ∧ bare.ran = none ∧ shot.outcome = .error e ∧ bare.outcome = .error e
  told : ∀ frame, shot.outcome = .ok frame → frame.exposure.map OrderedDict.items = if setConfigs pairs = [] then none else some pairs

-- For every store under the declared keys, the ones set requests lead to included.
theorem exposure_reaches_gphoto2 (params : OrderedDict String String) (backend : DictParameterBackend)
    (self : GPhoto2CaptureBackend) (host : Host) (os : OperatingSystem) (now : Double) (dir : Directory) (captureId tempDir : String) :
    ∃ pairs, (pairs.map Prod.fst).Sublist params.keys ∧
      (∀ key text, (key,text) ∈ pairs ↔ key ∈ params.keys ∧ Contributes backend key text) ∧
      Reaches pairs (host.format self.config.filenamePattern self.settings.cameraId self.settings.cameraModel captureId)
        (self.capture host os now dir captureId tempDir (some (current ⟨params,some backend⟩)))
        (self.capture host os now dir captureId tempDir none) := by
  have same : ((((some (current ⟨params,some backend⟩)).map OrderedDict.items).getD []).filterMap kept) =
      contributions params backend := by
    rw [Option.map_some,Option.getD_some,current_items,kept_same contributions_clean]
  refine ⟨contributions params backend,contributions_keys params backend,fun key text => mem_contributions,?_,?_,?_⟩
  · intro text formatted
    refine ⟨self.opening,self.shooting (host.join tempDir (text ++ ".%C")),?_,?_,?_⟩
    · rw [capture_ran,formatted,Except.toOption,Option.map_some,buildCommand_eq,same]
    · rw [capture_ran,formatted,Except.toOption,Option.map_some,buildCommand_eq]
      simp [setConfigs]
    · simp [shooting]
  · intro e failed
    simp [capture,failed]
  · intro frame taken
    obtain ⟨targetTemplate,told⟩ := capture_exposure taken
    have distinct := params.distinct.sublist (contributions_keys params backend)
    have filled := @OrderedDict.insertAll_items _ _ _ OrderedDict.empty _ distinct fun _ _ => rfl
    rw [told,buildCommand_eq,same]
    simp only [filled]
    cases listed : contributions params backend with
    | nil => simp [OrderedDict.empty,setConfigs]
    | cons pair rest =>
      rw [listed] at filled
      simpa [OrderedDict.empty,setConfigs,setConfig] using filled

end Reaching
end ZenohDslr.PiRuntime.GPhoto2CaptureBackend
