import NodeAgent.Foundation.Words
import NodeAgent.Domain.Inference

/-!
# Text generation backends

A causal language model or a diffusion model where one can be loaded, and the
bigram generator over the manifest's seed corpus.
-/

namespace NodeAgent

structure ChatMessage where
  role : String
  content : String

structure ChatCompletionRequest where
  model : String
  messages : List ChatMessage
  maxTokens : Option Int := none
  temperature : Option Rat := none
  stream : Bool := false

structure RuntimeManifest where
  runtimeKind : Option String := none
  modelIdentifier : Option String := none
  tokenizerIdentifier : Option String := none
  modelRevision : Option String := none
  seedCorpus : Option Json := none

/-- What `_seed_for` hashes. -/
structure SeedMaterial where
  modelIdentifier : String
  tokenizerIdentifier : String
  prompt : String
  maxTokens : Option Int
  temperature : Option Rat

/--
A loaded causal model: the decoded new tokens and the decoded whole output of
the n-th generation, for a prompt, a token budget and a temperature.
-/
structure CausalLM where
  generate : String → Int → Rat → Nat → String × String

structure DiffusionPipe where
  image : String → Nat → String

/-- What the backends use of libraries. -/
structure ModelLibraries where
  /-- `str.lower` -/
  lower : String → String
  /--
  The last of the choices of a generator with this seed, as an index, when the
  choices were made among so many items each.
  -/
  draw : SeedMaterial → List Nat → Nat
  loadCausalLM : RuntimeManifest → Except String CausalLM
  loadDiffusion : RuntimeManifest → Except String DiffusionPipe

/-- `text.split()` -/
def split (text : String) : List String :=
  (Text.words text.toList).map String.ofList

/-- `text.strip()` and `text.strip(chars)` -/
def stripOf (dropped : Char → Bool) (text : String) : String :=
  String.ofList ((text.toList.dropWhile dropped).reverse.dropWhile dropped).reverse

/-- `max(8, min(int(payload.max_tokens or 24), limit))` -/
def tokenBudget (request : ChatCompletionRequest) (limit : Int) : Int :=
  let wanted := match request.maxTokens with
    | some n => if n ≠ 0 then n else 24
    | none => 24
  max 8 (min wanted limit)

/-- `" ".join(message.content for message in payload.messages if ...)` -/
def joinContents (messages : List ChatMessage) : String :=
  " ".intercalate ((messages.map ChatMessage.content).filter (· ≠ ""))

/-! ## The bigram generator -/

structure ManifestFallbackBackend where
  modelIdentifier : String
  tokenizerIdentifier : String
  /-- The pairs of neighbouring tokens, segment by segment. -/
  bigrams : List (String × String)
  nonempty : bigrams ≠ []

namespace ManifestFallbackBackend

def punctuation : List Char :=
  ['.', ',', ':', ';', '!', '?', '(', ')', '[', ']', '\x7b', '\x7d', '\"', '\'']

def tokenize (libraries : ModelLibraries) (text : String) : List String :=
  ((split text).filter fun token => stripOf Text.isSpace token ≠ "").map
    fun token => libraries.lower (stripOf (· ∈ punctuation) token)

def normalizeCorpus : Option Json → List String
  | some (.str text) => [text]
  | some (.arr items) => items.filterMap fun
      | .str text => if stripOf Text.isSpace text ≠ "" then some text else none
      | _ => none
  | _ => []

def neighbours (tokens : List String) : List (String × String) :=
  tokens.zip tokens.tail

def create (libraries : ModelLibraries) (manifest : RuntimeManifest)
    (image : String) : Except Exn ManifestFallbackBackend :=
  let modelIdentifier := orText manifest.modelIdentifier image
  let corpus := normalizeCorpus manifest.seedCorpus
  if corpus = [] then
    .error (.modelBackendError "runtime manifest missing seed_corpus")
  else
    let bigrams := corpus.flatMap fun segment =>
      neighbours (tokenize libraries segment)
    if h : bigrams = [] then
      .error (.modelBackendError
        "runtime manifest produced an empty language graph")
    else
      .ok { modelIdentifier
            tokenizerIdentifier :=
              orText manifest.tokenizerIdentifier modelIdentifier
            bigrams, nonempty := h }

variable (backend : ManifestFallbackBackend)

/-- `self._graph.get(token)`, empty for a token that nothing follows. -/
def options (token : String) : List String :=
  backend.bigrams.filterMap fun (current, next) =>
    if current = token then some next else none

/-- `sorted(self._graph.keys())` -/
def keys : List String :=
  ((backend.bigrams.map Prod.fst).dedup).insertionSort (· ≤ ·)

/-- A random generator and the choices it has made. -/
structure Sampler where
  seed : SeedMaterial
  chosen : List Nat := []

/-- `rng.choice(items)` -/
def Sampler.choice (libraries : ModelLibraries) (rng : Sampler)
    (items : List String) : String × Sampler :=
  let chosen := rng.chosen ++ [items.length]
  (items.getD (libraries.draw rng.seed chosen % items.length) "",
    { rng with chosen })

def nextTokens (libraries : ModelLibraries) :
    Nat → String → Sampler → List String
  | 0, _, _ => []
  | budget + 1, current, rng =>
      let (found, rng) := if backend.options current ≠ [] then
          (backend.options current, rng)
        else
          let (key, rng) := rng.choice libraries backend.keys
          (backend.options key, rng)
      let (next, rng) := rng.choice libraries found
      next :: nextTokens libraries budget next rng

def generateTokens (libraries : ModelLibraries) (prompt : String) (budget : Int)
    (rng : Sampler) : List String :=
  let (current, rng) := match (tokenize libraries prompt).getLast? with
    | some last =>
        if backend.options last ≠ [] then (last, rng)
        else rng.choice libraries backend.keys
    | none => rng.choice libraries backend.keys
  backend.nextTokens libraries budget.toNat current rng

def generatedTokens (libraries : ModelLibraries)
    (request : ChatCompletionRequest) : List String :=
  let prompt := joinContents request.messages
  backend.generateTokens libraries prompt (tokenBudget request 24)
    { seed :=
        { modelIdentifier := backend.modelIdentifier
          tokenizerIdentifier := backend.tokenizerIdentifier
          prompt := prompt
          maxTokens := request.maxTokens
          temperature := request.temperature } }

def generateText (libraries : ModelLibraries)
    (request : ChatCompletionRequest) : String :=
  " ".intercalate (backend.generatedTokens libraries request)

end ManifestFallbackBackend

/-! ## The loaded models -/

namespace CausalLM

def promptText (request : ChatCompletionRequest) : String :=
  "\n".intercalate
    ((request.messages.map fun message => s!"{message.role}: {message.content}") ++
      ["assistant:"])

def generateText (model : CausalLM) (request : ChatCompletionRequest)
    (n : Nat) : String :=
  let (new, whole) := model.generate (promptText request)
    (tokenBudget request 32) (request.temperature.getD (7 / 10)) n
  if stripOf Text.isSpace new ≠ "" then stripOf Text.isSpace new
  else stripOf Text.isSpace whole

end CausalLM

def DiffusionPipe.generateText (pipe : DiffusionPipe)
    (request : ChatCompletionRequest) (n : Nat) : String :=
  let prompt := joinContents
    (request.messages.filter fun message => message.role = "user")
  if prompt = "" then "[No prompt provided]"
  else s!"![Generated image](data:image/png;base64,{pipe.image prompt n})"

/-! ## The backend of a manifest -/

inductive TextGenerationBackend where
  | manifest (backend : ManifestFallbackBackend)
  | causalLM (model : CausalLM)
  | diffusion (pipe : DiffusionPipe)

namespace TextGenerationBackend

def generateText (libraries : ModelLibraries) (request : ChatCompletionRequest)
    (n : Nat) : TextGenerationBackend → String
  | .manifest backend => backend.generateText libraries request
  | .causalLM model => model.generateText request n
  | .diffusion pipe => pipe.generateText request n

def streamTokens (libraries : ModelLibraries) (request : ChatCompletionRequest)
    (n : Nat) (backend : TextGenerationBackend) : List String :=
  match backend with
  | .diffusion _ => [backend.generateText libraries request n]
  | _ => split (backend.generateText libraries request n)

end TextGenerationBackend

def createTextGenerationBackend (libraries : ModelLibraries)
    (manifest : RuntimeManifest) (image : String) (allowFallback : Bool) :
    Except Exn TextGenerationBackend :=
  let fallback := (ManifestFallbackBackend.create libraries manifest image).map
    TextGenerationBackend.manifest
  let orFallback {α : Type} (wrap : α → TextGenerationBackend)
      (load : RuntimeManifest → Except String α) :
      Except Exn TextGenerationBackend :=
    match if truthy manifest.modelIdentifier then load manifest
        else .error "runtime manifest missing model_identifier" with
    | .ok model => .ok (wrap model)
    | .error message =>
        if allowFallback then fallback else .error (.modelBackendError message)
  let runtimeKind := orText manifest.runtimeKind "hf-causal-lm"
  if runtimeKind = "local-cpu-textgen" then fallback
  else if runtimeKind = "diffusion" then
    orFallback .diffusion libraries.loadDiffusion
  else if runtimeKind ≠ "hf-causal-lm" ∧ runtimeKind ≠ "vllm" then
    .error (.modelBackendError s!"unsupported runtime_kind: {runtimeKind}")
  else orFallback .causalLM libraries.loadCausalLM

end NodeAgent
