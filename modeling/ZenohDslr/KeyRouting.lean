import ZenohDslr.DerivedNames
import ZenohDslr.Heartbeats
import ZenohDslr.KeyExpressions
import ZenohDslr.Segments
namespace ZenohDslr.Gateway
open KeyExpressions PiRuntime

variable {a b id frameKeyPrefix key : String}

-- Zenoh keys: chunks between slashes, `*` for one chunk and `**` for any number.
def chunks (key : String) : List String := PyText.split '/' key

def piece (chunk : String) : Piece String := if chunk = "**" then .many else if chunk = "*" then .one else .spelled chunk

def reservedLetters : List Char := ['/','*','$','?','#']

-- A chunk that stands for itself alone: no wildcard in it, none of the characters
-- that Zenoh reserves, and no `@`, which `**` passes over, in front.
def PlainChunk (chunk : String) : Prop :=
  chunk ≠ "" ∧ chunk.toList.head? ≠ some '@' ∧ chunk.toList.any reservedLetters.contains = false

instance (chunk : String) : Decidable (PlainChunk chunk) := inferInstanceAs (Decidable (_ ∧ _))

def ValidKey (key : String) : Prop := ∀ chunk ∈ chunks key, PlainChunk chunk

-- A pattern in the canonical form, `**` at the end if at all.
def ValidExpr (keyExpr : String) : Prop := ∃ front last, chunks keyExpr = front ++ last ∧
  (∀ chunk ∈ front, PlainChunk chunk ∨ chunk = "*") ∧ (last = [] ∨ last = ["**"])

-- Which samples a subscription is sent is Zenoh's to say; what is relied on is
-- the documented meaning of the wildcards on keys that have none.
structure KeyMatching where
  receives : String → String → Bool
  documented : ∀ keyExpr key, ValidExpr keyExpr → ValidKey key →
    receives keyExpr key = accepts ((chunks keyExpr).map piece) (chunks key)

-- The meaning of the wildcards, taken for keys of any kind.
def KeyMatching.chunkwise : KeyMatching := ⟨fun keyExpr key => accepts ((chunks keyExpr).map piece) (chunks key),fun _ _ _ _ => rfl⟩

-- What the gateway subscribes to.
def frameKeyExpr (frameKeyPrefix : String) : String := frameKeyPrefix ++ "/**"

theorem chunks_append (before after : String) : chunks (before ++ "/" ++ after) = chunks before ++ chunks after := by
  have cut := List.splitOn_append_cons_self (a := '/') before.toList after.toList
  have whole : (before ++ "/" ++ after).toList = before.toList ++ '/' :: after.toList := by simp
  rw [chunks,PyText.split,whole,cut,List.map_append]
  rfl

theorem chunks_whole (whole : '/' ∉ id.toList) : chunks id = [id] := by
  rw [chunks,PyText.split,List.splitOn_eq_singleton whole,List.map_singleton,String.ofList_toList]

theorem PlainChunk.whole (plain : PlainChunk id) : '/' ∉ id.toList := fun inside =>
  List.any_eq_false.mp plain.2.2 '/' inside (by decide)

theorem PlainChunk.spelled (plain : PlainChunk id) : piece id = .spelled id := by
  have several : id ≠ "**" := fun same => absurd plain (by rw [same]; decide)
  have single : id ≠ "*" := fun same => absurd plain (by rw [same]; decide)
  rw [piece,if_neg several,if_neg single]

theorem chunks_frames_expr : chunks (frameKeyExpr frameKeyPrefix) = chunks frameKeyPrefix ++ ["**"] := by
  have cut := chunks_append frameKeyPrefix "**"
  rw [String.append_assoc] at cut
  rw [frameKeyExpr,show ("/**" : String) = "/" ++ "**" from rfl,cut,@chunks_whole "**" (by decide)]

-- The image key of a capture.
theorem validKey_under (valid : ValidKey frameKeyPrefix) (plain : PlainChunk id) : ValidKey (frameKeyPrefix ++ "/" ++ id) := by
  intro chunk inside
  rw [chunks_append,chunks_whole plain.whole] at inside
  rcases List.mem_append.mp inside with front | last
  · exact valid chunk front
  · rw [List.mem_singleton.mp last]
    exact plain

theorem receives_iff (matching : KeyMatching) (valid : ValidKey frameKeyPrefix) (named : ValidKey key) :
    matching.receives (frameKeyExpr frameKeyPrefix) key = true ↔ chunks frameKeyPrefix <+: chunks key := by
  have expr : ValidExpr (frameKeyExpr frameKeyPrefix) :=
    ⟨_,["**"],chunks_frames_expr,fun chunk inside => .inl (valid chunk inside),.inr rfl⟩
  have spelled : (chunks frameKeyPrefix).map piece = (chunks frameKeyPrefix).map .spelled :=
    List.map_congr_left fun chunk inside => (valid chunk inside).spelled
  rw [matching.documented _ _ expr named,chunks_frames_expr,List.map_append,spelled]
  exact accepts_under

-- A gateway is sent every frame put under the prefix it is for.
theorem receives_own (matching : KeyMatching) (valid : ValidKey frameKeyPrefix) (plain : PlainChunk id) :
    matching.receives (frameKeyExpr frameKeyPrefix) (frameKeyPrefix ++ "/" ++ id) = true := by
  rw [receives_iff matching valid (validKey_under valid plain),chunks_append]
  exact List.prefix_append _ _

-- The names a camera takes under `dslr`.
theorem chunks_dslr {last : String} (whole : '/' ∉ id.toList) (single : '/' ∉ last.toList) :
    chunks ("dslr/" ++ id ++ ("/" ++ last)) = ["dslr",id,last] := by
  have joined : "dslr/" ++ id ++ ("/" ++ last) = PyText.join '/' ["dslr",id,last] := by
    apply String.toList_injective
    simp [PyText.join]
  rw [chunks,joined]
  apply PyText.split_join (by simp)
  intro part inside
  simp only [List.mem_cons,List.not_mem_nil,or_false] at inside
  rcases inside with rfl | rfl | rfl
  · simp
  · exact whole
  · exact single

theorem chunks_frames (whole : '/' ∉ id.toList) : chunks ("dslr/" ++ id ++ "/frames") = ["dslr",id,"frames"] := by
  rw [show ("/frames" : String) = "/" ++ "frames" from rfl]
  exact chunks_dslr whole (by simp)

-- A camera id that the file gives is one plain chunk.
def OneChunk (payload : Payload) : Prop := ∀ id, payload.cameraId = some id → PlainChunk id

theorem slug_plain (model : String) : PlainChunk (SafeNames.slugifyCameraName model) := by
  have clean := SafeNames.slug_clean model
  refine ⟨fun empty => clean.nonempty (by rw [empty]; rfl),fun marked => ?_,List.any_eq_false.mpr fun c inside reserved => ?_⟩
  · rcases clean.drawn '@' (List.mem_of_mem_head? marked) with kept | mark
    · exact absurd kept (by decide)
    · exact absurd mark (by decide)
  · simp only [reservedLetters,List.contains_iff_mem,List.mem_cons,List.not_mem_nil,or_false] at reserved
    rcases clean.drawn c inside with kept | mark
    · rcases reserved with rfl | rfl | rfl | rfl | rfl <;> exact absurd kept (by decide)
    · rcases reserved with rfl | rfl | rfl | rfl | rfl <;> exact absurd mark (by decide)

theorem camera_chunk {payload : Payload} (chunk : OneChunk payload) : PlainChunk payload.camera := by
  cases named : payload.cameraId with
  | some id =>
    have same : payload.camera = id := by simp [Payload.camera,named]
    rw [same]
    exact chunk id named
  | none =>
    have same : payload.camera = SafeNames.slugifyCameraName payload.model := by simp [Payload.camera,named]
    rw [same]
    exact slug_plain payload.model

theorem valid_dslr {last : String} (plain : PlainChunk id) (own : PlainChunk last) : ValidKey ("dslr/" ++ id ++ ("/" ++ last)) := by
  intro chunk inside
  rw [chunks_dslr plain.whole own.whole] at inside
  simp only [List.mem_cons,List.not_mem_nil,or_false] at inside
  rcases inside with rfl | rfl | rfl
  · decide
  · exact plain
  · exact own

theorem valid_frames (plain : PlainChunk id) : ValidKey ("dslr/" ++ id ++ "/frames") :=
  @valid_dslr id "frames" plain (by decide)

-- What the gateway of one camera takes of another one's keys.
structure OwnKeysOnly (matching : KeyMatching) (prefixOfOne : String) (same : Prop) (prefixOfOther : String) (beats : HeartbeatConfig) : Prop where
  frames : ∀ captureId, PlainChunk captureId →
    (matching.receives (frameKeyExpr prefixOfOne) (prefixOfOther ++ "/" ++ captureId) = true ↔ same)
  heartbeats : matching.receives (frameKeyExpr prefixOfOne) beats.zenohKey = false
  token : matching.receives (frameKeyExpr prefixOfOne) beats.livelinessKey = false

theorem others_refused {last : String} (matching : KeyMatching) (plain : PlainChunk a) (others : PlainChunk b) (short : PlainChunk last)
    (other : "frames" ≠ last) : matching.receives (frameKeyExpr ("dslr/" ++ a ++ "/frames")) ("dslr/" ++ b ++ ("/" ++ last)) = false := by
  rw [Bool.eq_false_iff]
  intro taken
  rw [receives_iff matching (valid_frames plain) (valid_dslr others short),chunks_frames plain.whole,
    chunks_dslr others.whole short.whole] at taken
  simp [other] at taken

-- With the default prefixes a gateway takes the frames of the cameras of its own
-- id, and no heartbeat and no token of any camera.
theorem default_keys_apart (matching : KeyMatching) {one another : Payload} (hostname : Option String) (heartbeat : HeartbeatPayload)
    (chunk : OneChunk one) (single : OneChunk another) (plain : one.frameKeyPrefix = none) (unset : another.frameKeyPrefix = none)
    (untold : heartbeat.zenohKey.getD "" = "") (unnamed : heartbeat.livelinessKey.getD "" = "") :
    OwnKeysOnly matching (PiRuntimeSettings.fromFile hostname one).frameKeyPrefix (one.camera = another.camera)
      (PiRuntimeSettings.fromFile hostname another).frameKeyPrefix (heartbeatFromPayload heartbeat another.camera) := by
  have plainOne := camera_chunk chunk
  have plainOther := camera_chunk single
  have first : (PiRuntimeSettings.fromFile hostname one).frameKeyPrefix = "dslr/" ++ one.camera ++ "/frames" := by simp [PiRuntimeSettings.fromFile,plain]
  have second : (PiRuntimeSettings.fromFile hostname another).frameKeyPrefix = "dslr/" ++ another.camera ++ "/frames" := by
    simp [PiRuntimeSettings.fromFile,unset]
  rw [first,second]
  refine ⟨?_,?_,?_⟩
  · intro captureId named
    rw [receives_iff matching (valid_frames plainOne) (validKey_under (valid_frames plainOther) named),chunks_append,
      chunks_frames plainOne.whole,chunks_frames plainOther.whole]
    simp
  · have key : (heartbeatFromPayload heartbeat another.camera).zenohKey = "dslr/" ++ another.camera ++ ("/" ++ "heartbeat") := by
      simp [heartbeatFromPayload,given,untold,String.append_assoc]
    rw [key]
    exact others_refused matching plainOne plainOther (by decide) (by simp)
  · have key : (heartbeatFromPayload heartbeat another.camera).livelinessKey = "dslr/" ++ another.camera ++ ("/" ++ "alive") := by
      simp [heartbeatFromPayload,given,unnamed,String.append_assoc]
    rw [key]
    exact others_refused matching plainOne plainOther (by decide) (by simp)

theorem default_keys_apart_eos : OwnKeysOnly .chunkwise (PiRuntimeSettings.fromFile none {cameraId := some "Canon_EOS_6D"}).frameKeyPrefix
    (({cameraId := some "Canon_EOS_6D"} : Payload).camera = ({cameraId := some "Canon_EOS_M50"} : Payload).camera)
    (PiRuntimeSettings.fromFile none {cameraId := some "Canon_EOS_M50"}).frameKeyPrefix
    (heartbeatFromPayload {} ({cameraId := some "Canon_EOS_M50"} : Payload).camera) :=
  default_keys_apart .chunkwise none {} (by rintro id ⟨⟩; decide) (by rintro id ⟨⟩; decide) rfl rfl rfl rfl

end ZenohDslr.Gateway
