import ZenohDslr.RuntimeSettings
namespace ZenohDslr.PiRuntime
open SafeNames Collapsing

variable {value token application device slug : String} {hostname : Option String} {payload : Payload}

-- A name token of ROS 2, and a name all of whose tokens are ones.
def LegalToken (token : String) : Prop :=
  token ≠ "" ∧ token.toList.all wordChar = true ∧ token.toList.head?.any digit = false

instance : Decidable (LegalToken token) :=
  inferInstanceAs (Decidable (token ≠ "" ∧ token.toList.all wordChar = true ∧ token.toList.head?.any digit = false))

-- The empty piece in front of an absolute name is no token of it.
def tokens (name : String) : List String :=
  let cut := PyText.split '/' name
  if cut.head? = some "" then cut.tail else cut

def LegalName (name : String) : Prop := ∀ token ∈ tokens name, LegalToken token

-- Of the letters and digits in the text, the first is a digit.
def digitLed (value : String) : Bool := (value.toList.find? alphanumeric).any digit

structure DefaultNamesLegal (hostname : Option String) (payload : Payload) : Prop where
  coreTemp : payload.coreTempPublish.topic.getD "" = "" →
    LegalName (PiRuntimeSettings.fromFile hostname payload).coreTempPublish.topic
  image : payload.cameraId = none → payload.ros2Publish.topic.getD "" = "" →
    LegalName (PiRuntimeSettings.fromFile hostname payload).ros2Publish.topic
  service : payload.cameraId = none → payload.captureServiceName = none →
    LegalName (PiRuntimeSettings.fromFile hostname payload).captureServiceName

-- No text a default name is made from has a digit in front of its letters.
structure NoneDigitLed (hostname : Option String) (payload : Payload) : Prop where
  coreTemp : payload.coreTempPublish.topic.getD "" = "" →
    digitLed (payload.coreTempPublish.application.getD "pgwaam") = false ∧ digitLed (payload.device hostname) = false
  camera : payload.cameraId = none → payload.ros2Publish.topic.getD "" = "" ∨ payload.captureServiceName = none →
    digitLed (payload.cameraModel.getD "dslr") = false

theorem head_cleaned {keep : Char → Bool} {fallback : String} (meets : ∀ c, alphanumeric c = (keep c && c != '_')) (value : String) :
    (cleaned keep fallback value).toList.head? = (value.toList.find? alphanumeric).or fallback.toList.head? := by
  rw [cleaned,String.toList_ofList]
  exact head?_sanitized (fun c plain => wordChar_solid (alphanumeric_wordChar plain)) meets value.toList

-- A clean token falls short of a legal one by a digit in front only.
theorem legal_of_clean {keep : Char → Bool} (narrow : ∀ c, keep c = true → wordChar c = true) (clean : Clean keep '_' token.toList) :
    LegalToken token ↔ token.toList.head?.any digit = false := by
  refine ⟨fun legal => legal.2.2,fun start => ⟨?_,?_,start⟩⟩
  · simpa using clean.nonempty
  · rw [List.all_eq_true]
    intro c inside
    rcases clean.drawn c inside with kept | rfl
    · exact narrow c kept
    · decide

theorem started_iff {front : Option Char} {home : Char} (solid : digit home = false) :
    (front.or (some home)).any digit = false ↔ front.any digit = false := by
  cases front with
  | none => simpa using solid
  | some c => simp

-- Where the characters that stay are the letters, the digits and at most the mark.
theorem legal_cleaned {keep : Char → Bool} {fallback : String} {home : Char} (plain : ∀ c, c ≠ '_' → keep c = alphanumeric c)
    (clean : Clean keep '_' (cleaned keep fallback value).toList) (narrow : ∀ c, keep c = true → wordChar c = true)
    (front : fallback.toList.head? = some home) (solid : digit home = false) :
    LegalToken (cleaned keep fallback value) ↔ digitLed value = false := by
  have meets : ∀ c, alphanumeric c = (keep c && c != '_') := by
    intro c
    by_cases mark : c = '_'
    · rw [mark]
      simp only [bne_self_eq_false,Bool.and_false]
      decide
    · simp [plain c mark,mark]
  rw [legal_of_clean narrow clean,head_cleaned meets,front]
  exact started_iff solid

theorem legal_slug (value : String) : LegalToken (slugifyCameraName value) ↔ digitLed value = false :=
  legal_cleaned (fun _ _ => rfl) (slug_clean value) (fun _ => alphanumeric_wordChar) rfl (by decide)

theorem legal_safe (value : String) : LegalToken (ros2SafeName value) ↔ digitLed value = false := by
  have plain : ∀ c, c ≠ '_' → wordChar c = alphanumeric c := by
    intro c other
    simp [wordChar,other]
  exact legal_cleaned plain (safe_clean value) (fun _ word => word) rfl (by decide)

theorem whole_of_clean {keep : Char → Bool} (narrow : ∀ c, keep c = true → wordChar c = true) (clean : Clean keep '_' token.toList) :
    '/' ∉ token.toList := by
  intro inside
  rcases clean.drawn '/' inside with kept | mark
  · exact absurd (narrow '/' kept) (by decide)
  · exact absurd mark (by decide)

theorem tokens_absolute {parts : List String} (whole : ∀ part ∈ parts, '/' ∉ part.toList) :
    tokens (PyText.join '/' ("" :: parts)) = parts := by
  have cut : PyText.split '/' (PyText.join '/' ("" :: parts)) = "" :: parts := by
    apply PyText.split_join (by simp)
    intro part inside
    rcases List.mem_cons.mp inside with rfl | behind
    · simp
    · exact whole part behind
  simp [tokens,cut]

theorem core_tokens (whole : '/' ∉ application.toList) (single : '/' ∉ device.toList) :
    tokens ("/" ++ application ++ "/" ++ device ++ "/online/core_temp") = [application,device,"online","core_temp"] := by
  have joined : "/" ++ application ++ "/" ++ device ++ "/online/core_temp" =
      PyText.join '/' ["",application,device,"online","core_temp"] := by
    apply String.toList_injective
    simp [PyText.join]
  rw [joined,tokens_absolute]
  intro part inside
  simp only [List.mem_cons,List.not_mem_nil,or_false] at inside
  rcases inside with rfl | rfl | rfl | rfl
  · exact whole
  · exact single
  · decide
  · decide

theorem dslr_tokens {last : String} (whole : '/' ∉ slug.toList) (single : '/' ∉ last.toList) :
    tokens ("/dslr/" ++ slug ++ ("/" ++ last)) = ["dslr",slug,last] := by
  have joined : "/dslr/" ++ slug ++ ("/" ++ last) = PyText.join '/' ["","dslr",slug,last] := by
    apply String.toList_injective
    simp [PyText.join]
  rw [joined,tokens_absolute]
  intro part inside
  simp only [List.mem_cons,List.not_mem_nil,or_false] at inside
  rcases inside with rfl | rfl | rfl
  · decide
  · exact whole
  · exact single

theorem core_legal (application device : String) :
    LegalName ("/" ++ ros2SafeName application ++ "/" ++ ros2SafeName device ++ "/online/core_temp") ↔
      digitLed application = false ∧ digitLed device = false := by
  have safe : ∀ value : String, '/' ∉ (ros2SafeName value).toList := fun value => whole_of_clean (fun _ word => word) (safe_clean value)
  have online : LegalToken "online" ∧ LegalToken "core_temp" := by decide
  rw [LegalName,core_tokens (safe application) (safe device)]
  simp [legal_safe,online]

theorem dslr_legal {last : String} (legal : LegalToken last) (single : '/' ∉ last.toList) (model : String) :
    LegalName ("/dslr/" ++ slugifyCameraName model ++ ("/" ++ last)) ↔ digitLed model = false := by
  have dslr : LegalToken "dslr" := by decide
  have whole : '/' ∉ (slugifyCameraName model).toList := whole_of_clean (fun _ => alphanumeric_wordChar) (slug_clean model)
  rw [LegalName,dslr_tokens whole single]
  simp [legal_slug,legal,dslr]

theorem core_topic (plain : payload.coreTempPublish.topic.getD "" = "") :
    (PiRuntimeSettings.fromFile hostname payload).coreTempPublish.topic =
      "/" ++ ros2SafeName (payload.coreTempPublish.application.getD "pgwaam") ++ "/" ++
        ros2SafeName (payload.device hostname) ++ "/online/core_temp" := by
  simp [PiRuntimeSettings.fromFile,coreTempPublishFromPayload,given,plain]

theorem camera_slug (omitted : payload.cameraId = none) : payload.camera = slugifyCameraName (payload.cameraModel.getD "dslr") := by
  simp [Payload.camera,Payload.model,omitted]

theorem image_topic (omitted : payload.cameraId = none) (plain : payload.ros2Publish.topic.getD "" = "") :
    (PiRuntimeSettings.fromFile hostname payload).ros2Publish.topic =
      "/dslr/" ++ slugifyCameraName (payload.cameraModel.getD "dslr") ++ ("/" ++ "image_raw") := by
  simp [PiRuntimeSettings.fromFile,ros2PublishFromPayload,given,plain,camera_slug omitted]

theorem service_name (omitted : payload.cameraId = none) (plain : payload.captureServiceName = none) :
    (PiRuntimeSettings.fromFile hostname payload).captureServiceName =
      "/dslr/" ++ slugifyCameraName (payload.cameraModel.getD "dslr") ++ ("/" ++ "capture") := by
  simp [PiRuntimeSettings.fromFile,plain,camera_slug omitted]

theorem image_legal (omitted : payload.cameraId = none) (plain : payload.ros2Publish.topic.getD "" = "") :
    LegalName (PiRuntimeSettings.fromFile hostname payload).ros2Publish.topic ↔
      digitLed (payload.cameraModel.getD "dslr") = false := by
  rw [image_topic omitted plain]
  exact dslr_legal (by decide) (by decide) _

theorem service_legal (omitted : payload.cameraId = none) (plain : payload.captureServiceName = none) :
    LegalName (PiRuntimeSettings.fromFile hostname payload).captureServiceName ↔
      digitLed (payload.cameraModel.getD "dslr") = false := by
  rw [service_name omitted plain]
  exact dslr_legal (by decide) (by decide) _

theorem default_names_legal_iff (hostname : Option String) (payload : Payload) :
    DefaultNamesLegal hostname payload ↔ NoneDigitLed hostname payload := by
  constructor
  · intro legal
    refine ⟨?_,?_⟩
    · intro plain
      have topic := legal.coreTemp plain
      rw [core_topic plain] at topic
      exact (core_legal _ _).mp topic
    · intro omitted either
      rcases either with plain | plain
      · exact (image_legal omitted plain).mp (legal.image omitted plain)
      · exact (service_legal omitted plain).mp (legal.service omitted plain)
  · intro letters
    refine ⟨?_,?_,?_⟩
    · intro plain
      rw [core_topic plain]
      exact (core_legal _ _).mpr (letters.coreTemp plain)
    · intro omitted plain
      exact (image_legal omitted plain).mpr (letters.camera omitted (Or.inl plain))
    · intro omitted plain
      exact (service_legal omitted plain).mpr (letters.camera omitted (Or.inr plain))

-- The device id `4cam`.
theorem digit_led_device : ¬∀ (hostname : Option String) (payload : Payload), DefaultNamesLegal hostname payload := by
  intro all
  have topic := (all (some "raspberrypi") {deviceId := some "4cam"}).coreTemp rfl
  rw [core_topic rfl] at topic
  have started := ((core_legal _ _).mp topic).2
  exact absurd started (by decide)

end ZenohDslr.PiRuntime
