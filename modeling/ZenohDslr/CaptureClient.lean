import ZenohDslr.FrameFlow
import ZenohDslr.RelayGateway
namespace ZenohDslr.Gateway
open PiRuntime Runs

-- The reply of the capture service, and the line the client then logs.
structure ServiceReply where
  success : Bool
  message : String
  deriving DecidableEq,Repr

inductive Logged where
  | info (text : String)
  | error (text : String)
  deriving DecidableEq,Repr

def floatText (x : Double) : String :=
  match Floats.spell x with
  | .inl .nan => "nan"
  | .inl .infinity => "inf"
  | .inl .minusInfinity => "-inf"
  | .inr d => String.ofList d.text

-- `%s` of what `json.loads` gives; how a list or a dict looks is a parameter.
def shown (nested : Json Double → String) : Json Double → String
  | .null => "None"
  | .bool b => if b then "True" else "False"
  | .int n => toString n
  | .float x => floatText x
  | .string s => s
  | value => nested value

-- `call`; no reply is a future without a result.
def CaptureClient.call (nested : Json Double → String) (available : Bool) (reply : Option ServiceReply) : Except GatewayError Logged :=
  if available = false then .ok (.error "service did not become available before timeout")
  else
    match reply with
    | none => .ok (.error "service call failed or timed out")
    | some response =>
      if response.success = false then .ok (.error ("capture failed: " ++ response.message))
      else do
        let metadata ← loadMetadata (some response.message)
        let field := fun key => shown nested (get metadata key .null)
        return .info ("capture_id=" ++ field "capture_id" ++ " image_key=" ++ field "image_key" ++ " encoding=" ++ field "encoding" ++ " " ++
          field "width" ++ "x" ++ field "height" ++ " message=" ++ field "message")

-- What `on_request` returns, as the service sends it.
def replyOf (response : CaptureResponse) : ServiceReply := ⟨response.success,Json.dumps (.object (strings response.message) : Json Double)⟩

def Answer (settings : Settings) (response : CaptureResponse) : Prop :=
  response = busyResponse settings ∨ ∃ id, response = acceptedResponse settings id

-- Of a request that is accepted the client logs no capture: what it looks for is
-- not in the answer.
def blindLine : String := "capture_id=None image_key=None encoding=None NonexNone message=capture accepted"

universe u
variable {φ : Type u} {settings : Settings} {s t : PiDslrRuntime φ} {event : Event φ} {response : CaptureResponse} {nested : Json Double → String}

structure Told (settings : Settings) (nested : Json Double → String) (call : Call φ) (response : CaptureResponse) : Prop where
  restored : Json.loads (replyOf response).message = some (.object (strings response.message) : Json Double)
  accepted : call.job.isSome = true → CaptureClient.call nested true (some (replyOf response)) = .ok (.info blindLine)
  refused : call.job.isSome = false →
    CaptureClient.call nested true (some (replyOf response)) = .ok (.error ("capture failed: " ++ (replyOf (busyResponse settings)).message))

theorem answer_distinct (answer : Answer settings response) : (response.message.map Prod.fst).Nodup := by
  rcases answer with rfl | ⟨id,rfl⟩
  · simp [busyResponse]
  · simp [acceptedResponse]

theorem settled_strings (items : List (String × String)) : Json.settledMembers (strings items) = (strings items : List (String × Json Double)) := by
  induction items with
  | nil => rfl
  | cons item rest ih => exact congrArg ((item.1,Json.string item.2) :: ·) ih

theorem reply_restored (answer : Answer settings response) :
    Json.loads (replyOf response).message = some (.object (strings response.message) : Json Double) := by
  rw [replyOf,Json.loads_dumps _ (strings_distinct _ (answer_distinct answer)),Json.settled,settled_strings]

theorem call_accepted (id : String) : CaptureClient.call nested true (some (replyOf (acceptedResponse settings id))) = .ok (.info blindLine) := by
  have read : loadMetadata (some (replyOf (acceptedResponse settings id)).message) = .ok (strings (acceptedResponse settings id).message) := by
    rw [loadMetadata,reply_restored (.inr ⟨id,rfl⟩)]
  have success : (replyOf (acceptedResponse settings id)).success = true := rfl
  simp only [CaptureClient.call,success,read,reduceCtorEq,if_false]
  rfl

theorem call_refused : CaptureClient.call nested true (some (replyOf (busyResponse settings))) =
    .ok (.error ("capture failed: " ++ (replyOf (busyResponse settings)).message)) := rfl

-- Every request that is answered is answered from the settings.
theorem answers_step (answers : ∀ k response, (s.calls k).request = .answered response → Answer s.settings response)
    (step : s.advance event = some t) : ∀ k response, (t.calls k).request = .answered response → Answer t.settings response := by
  intro k response here
  rw [(PiDslrRuntime.advance_flows step).settings]
  rcases PiDslrRuntime.request_step step k with same | moved
  · exact answers k response (same.symm.trans here)
  · rw [here] at moved
    cases moved with
    | refused => exact .inl rfl
    | answered id => exact .inr ⟨id,rfl⟩

structure Answering (settings : Settings) (s : PiDslrRuntime φ) : Prop where
  orderly : PiDslrRuntime.Orderly s
  same : s.settings = settings
  answers : ∀ k response, (s.calls k).request = .answered response → Answer s.settings response

theorem answering_step (answering : Answering settings s) (step : s.advance event = some t) : Answering settings t :=
  ⟨PiDslrRuntime.orderly_step answering.orderly step,(PiDslrRuntime.advance_flows step).settings.trans answering.same,
    answers_step answering.answers step⟩

theorem told_of_answering (answering : Answering settings s) {k : Nat} (here : (s.calls k).request = .answered response) :
    Told settings nested (s.calls k) response := by
  have answer := answering.answers k response here
  have coherent : response.success = (s.calls k).job.isSome := by
    have whole := answering.orderly.coherent k
    rw [Call.Coherent,here] at whole
    exact whole
  rw [answering.same] at answer
  refine ⟨reply_restored answer,?_,?_⟩
  · intro started
    rcases answer with rfl | ⟨id,rfl⟩
    · rw [started] at coherent
      cases coherent
    · exact call_accepted id
  · intro idle
    rcases answer with rfl | ⟨id,rfl⟩
    · exact call_refused
    · rw [idle] at coherent
      cases coherent

-- In every interleaving, for every request that is answered.
theorem answers_told (settings : Settings) (native : Bool) (nested : Json Double → String) (events : List (Event φ)) :
    Throughout PiDslrRuntime.advance (fun s : PiDslrRuntime φ => ∀ k response, (s.calls k).request = .answered response →
      Told settings nested (s.calls k) response) (.initial settings native) events := by
  intro done rest s split ran k response here
  have start : Answering settings (PiDslrRuntime.initial settings native : PiDslrRuntime φ) :=
    ⟨PiDslrRuntime.initial_orderly settings native,rfl,fun _ _ absent => by cases absent⟩
  exact told_of_answering (run_invariant (Answering settings) (fun _ _ _ answering step => answering_step answering step) start ran) here

end ZenohDslr.Gateway
