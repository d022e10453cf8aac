import NodeAgent.Domain.ModelBackend
import NodeAgent.Transport.Redaction

/-!
# Streamed and whole answers

The runtime server and the local backend answer a chat request with the whole
text or with one event a word.  The events carry the words of the text, with a
blank in front of each but the first.
-/

namespace NodeAgent

/-- The id is chosen by the response itself. -/
structure ChatCompletionResponse where
  id : String
  model : String
  content : String
  deploymentId : String
  routedHotkey : String

inductive StreamEvent where
  | data (chunk : Json)
  | done

namespace ChatCompletionResponse

variable (response : ChatCompletionResponse)

/-- `response.model_dump(mode="json")` -/
def dump : Json :=
  .obj [("id", .str response.id), ("model", .str response.model),
    ("content", .str response.content),
    ("deployment_id", .str response.deploymentId),
    ("routed_hotkey", .str response.routedHotkey)]

def chunk (choice : List (String × Json)) : Json :=
  .obj [("id", .str response.id), ("object", .str "chat.completion.chunk"),
    ("model", .str response.model),
    ("deployment_id", .str response.deploymentId),
    ("routed_hotkey", .str response.routedHotkey),
    ("choices", .arr [.obj (("index", .int 0) :: choice)])]

def wordChunk (index : Nat) (word : String) : Json :=
  response.chunk [("delta",
    .obj [("content", .str (if index = 0 then word else " " ++ word))])]

def terminal : Json :=
  response.chunk [("delta", .obj []), ("finish_reason", .str "stop")]

def events (words : List String) : List StreamEvent :=
  (words.mapIdx fun index word => .data (response.wordChunk index word)) ++
    [.data response.terminal, .done]

end ChatCompletionResponse

/-! ## The runtime server -/

namespace RuntimeRequestHandler

structure Handler where
  deploymentId : String
  hotkey : String
  modelBackend : TextGenerationBackend

inductive Reply where
  | json (status : Nat) (body : Json)
  | stream (events : List StreamEvent)

def buildResponse (libraries : ModelLibraries) (handler : Handler)
    (request : ChatCompletionRequest) (id : String) (n : Nat) :
    ChatCompletionResponse where
  id := id
  model := request.model
  content := handler.modelBackend.generateText libraries request n
  deploymentId := handler.deploymentId
  routedHotkey := handler.hotkey

def sendStream (response : ChatCompletionResponse) : List StreamEvent :=
  response.events (split response.content)

def doPost (libraries : ModelLibraries) (handler : Handler) (path : String)
    (request : ChatCompletionRequest) (id : String) (n : Nat) : Reply :=
  if path ≠ "/v1/chat/completions" then
    .json 404 (.obj [("detail", .str "not found")])
  else
    let response := buildResponse libraries handler request id n
    if request.stream then .stream (sendStream response)
    else .json 200 response.dump

end RuntimeRequestHandler

/-! ## The local backend -/

namespace LocalArtifactInferenceBackend

def runtimeBackend (libraries : ModelLibraries) (runtime : UnifiedRuntimeRecord)
    (manifest : Option RuntimeManifest) : Except Exn TextGenerationBackend :=
  match manifest with
  | none => .error (.inferenceRuntimeError
      "runtime manifest missing from runtime state" "invoke_inference")
  | some manifest => createTextGenerationBackend libraries manifest
      (orText runtime.image "unknown-image") true

def response (runtime : UnifiedRuntimeRecord) (request : ChatCompletionRequest)
    (id content : String) : ChatCompletionResponse where
  id := id
  model := request.model
  content := content
  deploymentId := runtime.deploymentId
  routedHotkey := runtime.hotkey

def invoke (libraries : ModelLibraries) (runtime : UnifiedRuntimeRecord)
    (manifest : Option RuntimeManifest) (request : ChatCompletionRequest)
    (id : String) (n : Nat) : Except Exn ChatCompletionResponse := do
  let backend ← runtimeBackend libraries runtime manifest
  .ok (response runtime request id (backend.generateText libraries request n))

/-- Two generations: one for the response, and one for its words. -/
def stream (libraries : ModelLibraries) (runtime : UnifiedRuntimeRecord)
    (manifest : Option RuntimeManifest) (request : ChatCompletionRequest)
    (id : String) (n : Nat) : Except Exn (List StreamEvent) := do
  let backend ← runtimeBackend libraries runtime manifest
  let whole := { request with stream := false }
  let response := response runtime request id
    (backend.generateText libraries whole n)
  .ok (response.events (backend.streamTokens libraries whole (n + 1)))

end LocalArtifactInferenceBackend

/-! ## What a client puts together -/

def deltaContent (chunk : Json) : String :=
  match chunk.get? [.key "choices", .index 0, .key "delta", .key "content"] with
  | some (.str text) => text
  | _ => ""

def StreamEvent.content : StreamEvent → String
  | .data chunk => deltaContent chunk
  | .done => ""

/-- The contents of all deltas, one behind the other. -/
def received (events : List StreamEvent) : String :=
  String.join (events.map StreamEvent.content)

/-- The text of an answer, streamed or whole. -/
def RuntimeRequestHandler.Reply.text : Reply → String
  | .json _ body =>
      match body.get? [.key "content"] with
      | some (.str text) => text
      | _ => ""
  | .stream events => received events

theorem received_append (events events' : List StreamEvent) :
    received (events ++ events') = received events ++ received events' := by
  rw [received, List.map_append, String.join_append]
  rfl

theorem join_map_blank (word : String) (words : List String) :
    word ++ String.join (words.map (" " ++ ·)) =
      " ".intercalate (word :: words) := by
  induction words generalizing word with
  | nil => simp
  | cons next words ih =>
      rw [List.map_cons, String.join_cons, String.intercalate_cons_cons, ← ih,
        String.append_assoc, String.append_assoc]

namespace ChatCompletionResponse

@[simp] theorem content_wordChunk (response : ChatCompletionResponse)
    (index : Nat) (word : String) :
    StreamEvent.content (.data (response.wordChunk index word)) =
      if index = 0 then word else " " ++ word := rfl

theorem contents_later (response : ChatCompletionResponse)
    (words : List String) :
    (words.mapIdx fun index word =>
        StreamEvent.data (response.wordChunk (index + 1) word)).map
        StreamEvent.content = words.map (" " ++ ·) :=
  List.ext_getElem (by simp) fun index _ _ => by simp

theorem received_last (response : ChatCompletionResponse) :
    received [.data response.terminal, .done] = "" := rfl

theorem received_events (response : ChatCompletionResponse)
    (words : List String) :
    received (response.events words) = " ".intercalate words := by
  rw [events, received_append, received_last, String.append_empty]
  cases words with
  | nil => rfl
  | cons word words =>
      rw [List.mapIdx_cons, received, List.map_cons, String.join_cons,
        contents_later, content_wordChunk, if_pos rfl, join_map_blank]

end ChatCompletionResponse

theorem toList_intercalate_split (text : String) :
    (" ".intercalate (split text)).toList =
      [' '].intercalate (Text.words text.toList) := by
  simp [split, Function.comp_def]

theorem intercalate_split_eq_iff {text other : String} :
    " ".intercalate (split text) = other ↔
      Text.SingleBlanks other.toList ∧
        Text.words text.toList = Text.words other.toList := by
  rw [← String.toList_inj, toList_intercalate_split,
    Text.intercalate_words_eq_iff]

theorem received_sendStream_iff (response : ChatCompletionResponse) :
    received (RuntimeRequestHandler.sendStream response) = response.content ↔
      Text.SingleBlanks response.content.toList := by
  rw [RuntimeRequestHandler.sendStream, response.received_events,
    intercalate_split_eq_iff]
  simp

/-! ## When both clients get the same text -/

def SameText (libraries : ModelLibraries) (runtime : UnifiedRuntimeRecord)
    (manifest : Option RuntimeManifest) (request : ChatCompletionRequest)
    (id : String) (k m : Nat) : Prop :=
  ∀ answer,
    LocalArtifactInferenceBackend.invoke libraries runtime manifest request id k =
      .ok answer →
    ∃ events,
      LocalArtifactInferenceBackend.stream libraries runtime manifest request id
        m = .ok events ∧ received events = answer.content

/--
The text that is returned, the k-th that is generated, has only single blanks,
and the one that is streamed, the n-th, has the same words.  An image has to be
generated alike.
-/
def TextGenerationBackend.StreamsAlike (libraries : ModelLibraries)
    (request : ChatCompletionRequest) (k n : Nat) :
    TextGenerationBackend → Prop
  | .diffusion pipe => pipe.generateText request n = pipe.generateText request k
  | backend =>
      Text.SingleBlanks (backend.generateText libraries request k).toList ∧
        Text.words (backend.generateText libraries request n).toList =
          Text.words (backend.generateText libraries request k).toList

theorem generateText_stream (libraries : ModelLibraries)
    (request : ChatCompletionRequest) (stream : Bool) (n : Nat)
    (backend : TextGenerationBackend) :
    backend.generateText libraries { request with stream := stream } n =
      backend.generateText libraries request n := by
  cases backend <;> rfl

theorem streamTokens_iff (libraries : ModelLibraries)
    (request : ChatCompletionRequest) (k n : Nat)
    (backend : TextGenerationBackend) :
    " ".intercalate (backend.streamTokens libraries
        { request with stream := false } n) =
        backend.generateText libraries request k ↔
      backend.StreamsAlike libraries request k n := by
  cases backend with
  | diffusion pipe =>
      simp only [TextGenerationBackend.streamTokens, generateText_stream,
        String.intercalate_singleton]
      rfl
  | manifest backend =>
      simp only [TextGenerationBackend.streamTokens, generateText_stream]
      exact intercalate_split_eq_iff
  | causalLM model =>
      simp only [TextGenerationBackend.streamTokens, generateText_stream]
      exact intercalate_split_eq_iff

theorem sameText_iff (libraries : ModelLibraries)
    (runtime : UnifiedRuntimeRecord) (manifest : Option RuntimeManifest)
    (request : ChatCompletionRequest) (id : String) (k m : Nat) :
    SameText libraries runtime manifest request id k m ↔
      ∀ backend, LocalArtifactInferenceBackend.runtimeBackend libraries runtime
          manifest = .ok backend →
        backend.StreamsAlike libraries request k (m + 1) := by
  unfold SameText LocalArtifactInferenceBackend.invoke
    LocalArtifactInferenceBackend.stream
  cases LocalArtifactInferenceBackend.runtimeBackend libraries runtime
      manifest with
  | error e =>
      refine iff_of_true (fun answer h => ?_) (fun backend h => ?_)
      · cases h
      · cases h
  | ok backend =>
      have hstreams := streamTokens_iff libraries request k (m + 1) backend
      constructor
      · rintro h _ ⟨⟩
        obtain ⟨events, hevents, htext⟩ := h _ rfl
        obtain rfl := Except.ok.inj hevents
        rw [ChatCompletionResponse.received_events] at htext
        exact hstreams.mp htext
      · rintro h answer hanswer
        obtain rfl := Except.ok.inj hanswer
        refine ⟨_, rfl, ?_⟩
        rw [ChatCompletionResponse.received_events]
        exact hstreams.mpr (h backend rfl)

open RuntimeRequestHandler in
/--
A streamed text is the whole one exactly if the whole one has only single blanks
between its words, in the runtime server's answers and in the local backend's.
-/
theorem streamed_iff (response : ChatCompletionResponse)
    (libraries : ModelLibraries) (handler : Handler)
    (runtime : UnifiedRuntimeRecord) (manifest : Option RuntimeManifest)
    (request : ChatCompletionRequest) (id : String) (n k m : Nat) :
    (received (sendStream response) = response.content ↔
      Text.SingleBlanks response.content.toList) ∧
    ((doPost libraries handler "/v1/chat/completions"
          { request with stream := true } id n).text =
        (doPost libraries handler "/v1/chat/completions"
          { request with stream := false } id n).text ↔
      Text.SingleBlanks
        (handler.modelBackend.generateText libraries request n).toList) ∧
    (SameText libraries runtime manifest request id k m ↔
      ∀ backend, LocalArtifactInferenceBackend.runtimeBackend libraries
          runtime manifest = .ok backend →
        backend.StreamsAlike libraries request k (m + 1)) := by
  refine ⟨received_sendStream_iff response, ?_,
    sameText_iff libraries runtime manifest request id k m⟩
  rw [← generateText_stream libraries request true]
  exact received_sendStream_iff
    (buildResponse libraries handler { request with stream := true } id n)

/-! ## A corpus with a word of punctuation -/

/-- Nothing can be loaded, and the first item is chosen each time. -/
def bareLibraries : ModelLibraries where
  lower := lower
  draw _ _ := 0
  loadCausalLM _ := .error "hf runtime dependency missing: transformers"
  loadDiffusion _ := .error "diffusion runtime dependency missing: torch"

def ellipsisManifest : RuntimeManifest where
  runtimeKind := some "local-cpu-textgen"
  seedCorpus := some (.str "hello ... world hello")

def localRuntime : UnifiedRuntimeRecord where
  deploymentId := "dep-1"
  workloadId := "wl-1"
  hotkey := "hk-1"
  workloadKind := .inference
  status := .ready

def greeting : ChatCompletionRequest where
  model := "local"
  messages := [⟨"user", "hello"⟩]
  maxTokens := some 8

/-- The dots become an empty token, which leaves two blanks in a row. -/
theorem not_sameText_ellipsis :
    ¬SameText bareLibraries localRuntime (some ellipsisManifest) greeting "id" 0
      0 ∧
    ¬received (RuntimeRequestHandler.sendStream
        ⟨"id", "local", "hello\nworld", "dep-1", "hk-1"⟩) = "hello\nworld" := by
  constructor
  · rw [sameText_iff]
    intro h
    have halike := h _ rfl
    exact halike.1.starts ' ' rfl (by decide)
  · rw [received_sendStream_iff]
    intro h
    exact absurd (h.blanks '\n' (by decide) (by decide)) (by decide)

end NodeAgent
