import NodeAgent.Domain.Inference
import NodeAgent.Domain.MultinodeCommand
import NodeAgent.Foundation.Options

/-!
# The command line of an inference container

The words of `docker run` as the launcher appends them, for a single node and,
rewritten, for a rank of a distributed replica.
-/

namespace NodeAgent

open Effectful

inductive GpuMode where
  | gpus
  | runtime
  | envOnly
  deriving DecidableEq, Repr

/-- The words that `gpu_docker_flags` returns. -/
def gpuDockerWords (mode : GpuMode) (deviceIds : List Nat) : List String :=
  let devices := if deviceIds = [] then "all"
    else ",".intercalate (deviceIds.map toString)
  match mode with
  | .gpus =>
      if deviceIds = [] then ["--gpus", "all"]
      else ["--gpus", "\"device=" ++ devices ++ "\""]
  | .runtime =>
      ["--runtime=nvidia", "-e", s!"NVIDIA_VISIBLE_DEVICES={devices}"]
  | .envOnly => ["-e", s!"NVIDIA_VISIBLE_DEVICES={devices}"]

/-- The rest of an artifact's payload: what only the command line reads. -/
structure ServePayload where
  hfToken : Option String := none
  serveAsName : Option String := none
  tensorParallelSize : Option Int := none
  maxModelLen : Option Int := none
  /-- The words of `vllm_entry`. -/
  vllmEntry : List String := []

structure LaunchHost where
  gpuMode : GpuMode
  /-- `HF_TOKEN` or `HUGGING_FACE_HUB_TOKEN`, or empty -/
  hfToken : String
  /-- The Hugging Face cache, if it exists. -/
  hfCache : Option String

namespace DockerInferenceBackend

def visionMarkers : List String :=
  ["-vl-", "-vl/", "vl-instruct", "vision-instruct", "-vision-", "vision-chat",
    "phi-3-vision", "phi-3.5-vision", "llava", "idefics", "cogvlm"]

def looksLikeVisionModel (modelId : String) : Bool :=
  visionMarkers.any fun marker => contains marker (lower modelId)

/-- The first `(\d+)\.(\d+)` of a text. -/
def searchVersion : List Char → Option (Nat × Nat)
  | [] => none
  | c :: rest =>
      let major := (c :: rest).takeWhile Char.isDigit
      match (c :: rest).dropWhile Char.isDigit with
      | '.' :: tail =>
          let minor := tail.takeWhile Char.isDigit
          if major = [] ∨ minor = [] then searchVersion rest
          else some (major.foldl (fun n d => 10 * n + Decimal.digitValue d) 0,
            minor.foldl (fun n d => 10 * n + Decimal.digitValue d) 0)
      | _ => searchVersion rest

/-- vLLM from 0.10 on, and whatever has no version to read. -/
def vllmImageUsesJsonMmLimit (image : String) : Bool :=
  match searchVersion image.toList with
  | none => true
  | some (major, minor) => 0 < major ∨ 10 ≤ minor

def modelId (runtime : UnifiedRuntimeRecord) (artifact : ArtifactBundle) :
    String :=
  orText runtime.modelIdentifier artifact.image

def hfToken (payload : ServePayload) (host : LaunchHost) : String :=
  match payload.hfToken with
  | some token => if strip token ≠ "" then token else host.hfToken
  | none => host.hfToken

def tokenFlags (payload : ServePayload) (host : LaunchHost) : List String :=
  if hfToken payload host ≠ "" then
    ["-e", s!"HUGGING_FACE_HUB_TOKEN={hfToken payload host}",
      "-e", s!"HF_TOKEN={hfToken payload host}"]
  else []

def cacheFlags (host : LaunchHost) : List String :=
  match host.hfCache with
  | some cache => ["-v", s!"{cache}:/root/.cache/huggingface"]
  | none => []

def dockerFlags (s : Settings) (runtime : UnifiedRuntimeRecord)
    (payload : ServePayload) (host : LaunchHost) (port : Nat) : List String :=
  ["docker", "run", "-d", "--name", containerName runtime.deploymentId,
    "--shm-size", "8g", "-p", s!"{s.dockerHost}:{port}:8000"] ++
  gpuDockerWords host.gpuMode (runtime.metadata.gpuDevices.getD []) ++
  tokenFlags payload host ++ cacheFlags host

def servedNames (modelId : String) (payload : ServePayload) : List String :=
  match payload.serveAsName with
  | some name => if name ≠ "" ∧ name ≠ modelId then [modelId, name] else [modelId]
  | none => [modelId]

def maxModelLen (modelId : String) (payload : ServePayload) : Option Int :=
  match payload.maxModelLen with
  | some n => if n ≠ 0 then some n
      else if looksLikeVisionModel modelId then some 16384 else none
  | none => if looksLikeVisionModel modelId then some 16384 else none

def namedOptions (modelId image : String) (payload : ServePayload) :
    List (String × String) :=
  (match payload.tensorParallelSize with
    | some n => if n > 1 then [("--tensor-parallel-size", toString n)] else []
    | none => []) ++
  (match maxModelLen modelId payload with
    | some n => [("--max-model-len", toString n)]
    | none => []) ++
  (if looksLikeVisionModel modelId then
    [("--limit-mm-per-prompt",
      if vllmImageUsesJsonMmLimit image then "\x7b\"image\": 4\x7d"
      else "image=4")]
  else [])

/-- The words behind the image. -/
def serveArgv (modelId image : String) (diffusion : Bool)
    (payload : ServePayload) : List String :=
  ["--model", modelId, "--host", "0.0.0.0", "--port", "8000"] ++
  if diffusion then []
  else
    ["--gpu-memory-utilization", "0.9", "--trust-remote-code",
      "--served-model-name"] ++ servedNames modelId payload ++
    Options.flatten (namedOptions modelId image payload)

def distributedVllmEntry : List String :=
  ["python3", "-m", "vllm.entrypoints.openai.api_server"]

def serveEntry (payload : ServePayload) : List String :=
  if payload.vllmEntry = [] then distributedVllmEntry else payload.vllmEntry

/-- The command that a start runs, rewritten for a rank of a replica. -/
def startCommand (s : Settings) (runtime : UnifiedRuntimeRecord)
    (artifact : ArtifactBundle) (payload : ServePayload) (host : LaunchHost)
    (port : Nat) (params : Option LaunchParams) : DockerCommand :=
  let image := (runCommand s runtime artifact port none).image
  let flags := dockerFlags s runtime payload host port
  let argv := serveArgv (modelId runtime artifact) image (isDiffusion artifact)
    payload
  match params with
  | none => { flags, image, args := .server argv }
  | some p =>
      buildDockerCommand flags image argv p (serveEntry payload)

end DockerInferenceBackend

/-! ## Where a container's server answers -/

def launcherOptions : List String :=
  ["--model", "--host", "--gpu-memory-utilization", "--served-model-name",
    "--tensor-parallel-size", "--pipeline-parallel-size",
    "--distributed-executor-backend", "--max-model-len",
    "--limit-mm-per-prompt"]

/--
What the image's server makes of words.  Which other options it has, and how it
takes a word that is none, is up to the server.
-/
structure Server where
  word : String → Options.Word
  /-- The words of a command that its entry leaves to the server. -/
  own : List String → Option (List String)
  plain : ∀ text : String, text.toList.head? ≠ some '-' →
    word text = .argument
  number : ∀ z : Int, word z.repr = .argument
  port : word "--port" = .asked none
  trust : word "--trust-remote-code" = .option false
  takes : ∀ option ∈ launcherOptions, word option = .option true
  standard : own DockerInferenceBackend.distributedVllmEntry = some []
  behind : ∀ entry words, own (entry ++ "--model" :: words) =
    (own entry).map (· ++ "--model" :: words)

namespace DockerCommand

def ownWords (cmd : DockerCommand) (server : Server) : Option (List String) :=
  match cmd.args with
  | .server words => some words
  | .shell text =>
      (text.findSome? fun
        | .cmd (.serve words) => some words
        | _ => none).bind server.own

/-- `option value` stands among the words before the image. -/
def HasFlag (cmd : DockerCommand) (option value : String) : Prop :=
  ∃ before after, cmd.flags = before ++ option :: value :: after

def GivenPort (cmd : DockerCommand) (server : Server) (port : Int) : Prop :=
  ∃ words, cmd.ownWords server = some words ∧
    Options.leaves server.word parseInt? words none = some (some port)

/-- A request to the port of this address of the host reaches the server. -/
def ServesAt (cmd : DockerCommand) (server : Server) (address : String)
    (port : Nat) : Prop :=
  ∃ given, cmd.GivenPort server given ∧
    (cmd.HasFlag "-p" s!"{address}:{port}:{given}" ∨
      (cmd.HasFlag "--network" "host" ∧ given = port))

end DockerCommand

/-! ## Words that a rewrite leaves out -/

theorem stripPairs_drop {drop : List String} {word : String}
    (h : word ∈ drop) (value : String) (rest : List String) :
    stripPairs drop (word :: value :: rest) = stripPairs drop rest := by
  rw [stripPairs, if_pos h]

theorem stripPairs_keep {drop : List String} {word : String}
    (h : word ∉ drop) (rest : List String) :
    stripPairs drop (word :: rest) = word :: stripPairs drop rest := by
  cases rest <;> simp [stripPairs, h]

theorem stripPairs_append {drop kept : List String}
    (h : ∀ word ∈ kept, word ∉ drop) (rest : List String) :
    stripPairs drop (kept ++ rest) = kept ++ stripPairs drop rest := by
  induction kept with
  | nil => rfl
  | cons word kept ih =>
      rw [List.cons_append, stripPairs_keep (h word (by simp)),
        ih fun other hother => h other (by simp [hother]), List.cons_append]

theorem mem_stripPairs {drop words : List String} {word : String}
    (h : word ∈ stripPairs drop words) : word ∉ drop ∧ word ∈ words := by
  fun_induction stripPairs drop words with
  | case1 => simp at h
  | case2 => simp at h
  | case3 first hdrop skipped rest ih =>
      have := ih h
      simp [this]
  | case4 first rest hkeep ih =>
      rcases List.mem_cons.mp h with rfl | hrest
      · simp [hkeep]
      · have := ih hrest
        simp [this]

theorem mem_setShmSize {words : List String} {word : String}
    (h : word ∈ setShmSize words) :
    word ∈ ["docker", "run", "--shm-size", distributedShmSize] ∨
      word ∈ words := by
  unfold setShmSize at h
  split at h
  · rename_i rest heq
    have hrest : ∀ w ∈ rest, w ∈ words := by
      intro w hw
      have hmem : w ∈ stripPairs ["--shm-size"] words := by
        rw [heq]
        simp [hw]
      exact (mem_stripPairs hmem).2
    simp only [List.mem_cons] at h ⊢
    rcases h with h | h | h | h | h
    all_goals simp_all
  · simp only [List.mem_cons] at h ⊢
    rcases h with h | h | h
    · simp [h]
    · simp [h]
    · exact .inr (mem_stripPairs h).2

def rewritten : List String := ["-p", "--publish", "--shm-size", "--network"]

theorem not_rewritten_of_append {first : String} (hfirst : first.toList.head?.any (· ≠ '-'))
    (rest : String) : first ++ rest ∉ rewritten := by
  intro hmem
  have hdash : ∀ word ∈ rewritten, word.toList.head? = some '-' := by decide
  have h := hdash _ hmem
  rw [String.toList_append, List.head?_append] at h
  cases hhead : first.toList.head? with
  | none => simp [hhead] at hfirst
  | some c => simp_all

theorem not_rewritten_visible (devices : String) :
    s!"NVIDIA_VISIBLE_DEVICES={devices}" ∉ rewritten :=
  @not_rewritten_of_append "NVIDIA_VISIBLE_DEVICES=" (by decide) devices

theorem gpuDockerWords_kept (mode : GpuMode) (devices : List Nat) :
    ∀ word ∈ gpuDockerWords mode devices, word ∉ rewritten := by
  unfold gpuDockerWords
  dsimp only
  generalize (if devices = [] then "all" else _) = shown
  have hvisible := not_rewritten_visible shown
  have hquoted : "\"device=" ++ shown ++ "\"" ∉ rewritten := by
    rw [String.append_assoc]
    exact not_rewritten_of_append (by decide) _
  cases mode with
  | gpus =>
      by_cases hall : devices = []
      · simp only [if_pos hall]
        decide
      · simp only [if_neg hall]
        simp only [List.forall_mem_cons]
        exact ⟨by decide, hquoted, by simp⟩
  | runtime =>
      simp only [List.forall_mem_cons]
      exact ⟨by decide, by decide, hvisible, by simp⟩
  | envOnly =>
      simp only [List.forall_mem_cons]
      exact ⟨by decide, hvisible, by simp⟩

theorem setShmSize_run (rest : List String) :
    setShmSize ("docker" :: "run" :: rest) =
      "docker" :: "run" :: "--shm-size" :: distributedShmSize ::
        stripPairs ["--shm-size"] rest := by
  rw [setShmSize, stripPairs_keep (by decide), stripPairs_keep (by decide)]
  rfl

namespace DockerInferenceBackend

theorem not_published (dockerFlags serveArgv vllmEntry : List String)
    (image : String) (p : LaunchParams) :
    "-p" ∉ (buildDockerCommand dockerFlags image serveArgv p vllmEntry).flags := by
  intro h
  simp only [buildDockerCommand, List.mem_append] at h
  rcases h with ((h | h) | h) | h
  · rcases mem_setShmSize h with hword | hword
    · revert hword
      decide
    · exact (mem_stripPairs hword).1 (by simp)
  · revert h
    decide
  · revert h
    decide
  · revert h
    decide

/-! ## The port that is left among the words -/

def servedAlias (modelId : String) (payload : ServePayload) : Option String :=
  payload.serveAsName.filter fun name => name ≠ "" ∧ name ≠ modelId

def namesLeft (server : Server) (drop : List String) (modelId : String)
    (options : List (String × String)) : Option String → Option Int
  -- A dropped name takes the word behind it with it.
  | none => if modelId ∈ drop ∧ options = [] then none else some 8000
  | some name =>
      if modelId ∈ drop then none
      else if name ∈ drop then some 8000
      else match server.word name with
        | .argument | .option false => some 8000
        | .asked (some port) => parseInt? port
        | .option true | .asked none | .unknown => none

def portLeft (server : Server) (drop : List String) (diffusion : Bool)
    (modelId image : String) (payload : ServePayload) : Option Int :=
  if modelId ∉ drop ∧ server.word modelId ≠ .argument then none
  else if diffusion then some 8000
  else namesLeft server drop modelId (namedOptions modelId image payload)
    (servedAlias modelId payload)

theorem serveArgv_eq (modelId image : String) (diffusion : Bool)
    (payload : ServePayload) :
    serveArgv modelId image diffusion payload =
      "--model" :: modelId :: "--host" :: "0.0.0.0" :: "--port" :: "8000" ::
        if diffusion then [] else
          "--gpu-memory-utilization" :: "0.9" :: "--trust-remote-code" ::
            "--served-model-name" :: modelId ::
              ((servedAlias modelId payload).toList ++
                Options.flatten (namedOptions modelId image payload)) := by
  have hnames : servedNames modelId payload =
      modelId :: (servedAlias modelId payload).toList := by
    unfold servedNames servedAlias
    cases payload.serveAsName with
    | none => rfl
    | some name =>
        by_cases hempty : name = "" <;> by_cases hsame : name = modelId <;>
          simp [Option.filter, hempty, hsame]
  rw [serveArgv, hnames]
  cases diffusion with
  | true => rfl
  | false =>
      simp only [Bool.false_eq_true, if_false, List.cons_append,
        List.nil_append]

theorem stripPairs_nil (words : List String) : stripPairs [] words = words := by
  induction words with
  | nil => rfl
  | cons word words ih => rw [stripPairs_keep (by simp), ih]

section Words

open Options

variable {server : Server} {drop after : List String} {left : Option Int}
variable {options : List (String × String)}

theorem stripPairs_flatten (h : ∀ pair ∈ options, pair.2 ∉ drop) :
    stripPairs drop (flatten options) =
      flatten (options.filter fun pair => pair.1 ∉ drop) := by
  induction options with
  | nil => rfl
  | cons pair options ih =>
      obtain ⟨hvalue, hrest⟩ := List.forall_mem_cons.mp h
      change stripPairs drop (pair.1 :: pair.2 :: flatten options) = _
      by_cases hdrop : pair.1 ∈ drop
      · rw [stripPairs_drop hdrop, ih hrest, List.filter_cons_of_neg (by simpa)]
      · rw [stripPairs_keep hdrop, stripPairs_keep hvalue, ih hrest,
          List.filter_cons_of_pos (by simpa)]
        rfl

theorem dropped_takes (hdrop : drop ⊆ parallelismFlags) {name : String}
    (h : name ∈ drop) : server.word name = .option true := by
  have hsubset : parallelismFlags ⊆ launcherOptions := by decide
  exact server.takes name (hsubset (hdrop h))

theorem argument_kept (hdrop : drop ⊆ parallelismFlags) {name : String}
    (h : server.word name = .argument) : name ∉ drop := fun hmem => by
  simp [dropped_takes hdrop hmem] at h

theorem namedOptions_pairs (server : Server) (modelId image : String)
    (payload : ServePayload) :
    ArePairs server.word (namedOptions modelId image payload) := by
  have htakes := server.takes
  have hlimit : server.word (if vllmImageUsesJsonMmLimit image then
      "\x7b\"image\": 4\x7d" else "image=4") = .argument :=
    server.plain _ (by split <;> decide)
  intro pair hpair
  simp only [namedOptions, List.mem_append] at hpair
  rcases hpair with (hsize | hlen) | hvision
  · split at hsize
    · split at hsize
      · obtain rfl := List.mem_singleton.mp hsize
        exact ⟨htakes "--tensor-parallel-size" (by decide), server.number _⟩
      · simp at hsize
    · simp at hsize
  · split at hlen
    · obtain rfl := List.mem_singleton.mp hlen
      exact ⟨htakes "--max-model-len" (by decide), server.number _⟩
    · simp at hlen
  · split at hvision
    · obtain rfl := List.mem_singleton.mp hvision
      exact ⟨htakes "--limit-mm-per-prompt" (by decide), hlimit⟩
    · simp at hvision

theorem leaves_options (hdrop : drop ⊆ parallelismFlags)
    (hpairs : ArePairs server.word options) :
    leaves server.word parseInt? (stripPairs drop (flatten options) ++ after)
      left = leaves server.word parseInt? after left := by
  rw [stripPairs_flatten fun pair hpair =>
    argument_kept hdrop (hpairs pair hpair).2]
  exact leaves_pairs fun pair hpair => hpairs pair (List.mem_of_mem_filter hpair)

theorem nextArgument_options (hdrop : drop ⊆ parallelismFlags)
    (hpairs : ArePairs server.word options)
    (hafter : nextArgument server.word after = none) :
    nextArgument server.word (stripPairs drop (flatten options) ++ after) =
      none := by
  rw [stripPairs_flatten fun pair hpair =>
    argument_kept hdrop (hpairs pair hpair).2]
  exact ArePairs.nextArgument
    (fun pair hpair => hpairs pair (List.mem_of_mem_filter hpair)) hafter

section Names

variable (hdrop : drop ⊆ parallelismFlags)
variable (hpairs : ArePairs server.word options)
variable (hafter : nextArgument server.word after = none)
variable (hread : ∀ left,
  leaves server.word parseInt? after left = some left)
include hdrop hpairs hafter hread

theorem leaves_names_without_model {modelId : String} (hdropped : modelId ∈ drop)
    (name : Option String) :
    leaves server.word parseInt? ("--served-model-name" ::
        (stripPairs drop (modelId :: (name.toList ++ flatten options)) ++
          after)) (some 8000) =
      (namesLeft server drop modelId options name).map some := by
  have hnames : server.word "--served-model-name" = .option true :=
    server.takes _ (by decide)
  cases name with
  | none =>
      cases options with
      | nil =>
          have hnil : stripPairs drop [modelId] = [] := by
            simp [stripPairs, hdropped]
          change leaves _ _ ("--served-model-name" ::
            (stripPairs drop [modelId] ++ after)) _ = _
          rw [hnil, List.nil_append, leaves_stops (.inl hnames) hafter]
          simp [namesLeft, hdropped]
      | cons pair options =>
          obtain ⟨⟨-, hvalue⟩, hpairs⟩ := List.forall_mem_cons.mp hpairs
          change leaves _ _ ("--served-model-name" :: (stripPairs drop
            (modelId :: pair.1 :: pair.2 :: flatten options) ++ after)) _ = _
          rw [stripPairs_drop hdropped,
            stripPairs_keep (argument_kept hdrop hvalue), List.cons_append,
            leaves_takes hnames hvalue, leaves_options hdrop hpairs, hread]
          simp [namesLeft]
  | some name =>
      have hnone := nextArgument_options hdrop hpairs hafter
      change leaves _ _ ("--served-model-name" :: (stripPairs drop
        (modelId :: name :: flatten options) ++ after)) _ = _
      rw [stripPairs_drop hdropped, leaves_stops (.inl hnames) hnone]
      simp [namesLeft, hdropped]

theorem leaves_second_name {modelId : String} (hkept : modelId ∉ drop)
    (name : String) :
    leaves server.word parseInt?
        (stripPairs drop (name :: flatten options) ++ after) (some 8000) =
      (namesLeft server drop modelId options (some name)).map some := by
  have hrest : leaves server.word parseInt?
      (stripPairs drop (flatten options) ++ after) (some 8000) = _ :=
    leaves_options hdrop hpairs
  have hnone := nextArgument_options hdrop hpairs hafter
  by_cases hname : name ∈ drop
  · simp only [namesLeft, hkept, hname, if_true, if_false]
    cases options with
    | nil =>
        have hnil : stripPairs drop [name] = [] := by
          simp [stripPairs, hname]
        change leaves _ _ (stripPairs drop [name] ++ after) _ = _
        rw [hnil, List.nil_append, hread]
        rfl
    | cons pair options =>
        obtain ⟨⟨-, hvalue⟩, hpairs⟩ := List.forall_mem_cons.mp hpairs
        change leaves _ _ (stripPairs drop
          (name :: pair.1 :: pair.2 :: flatten options) ++ after) _ = _
        rw [stripPairs_drop hname,
          stripPairs_keep (argument_kept hdrop hvalue), List.cons_append,
          leaves_argument hvalue, leaves_options hdrop hpairs, hread]
        rfl
  · rw [stripPairs_keep hname, List.cons_append]
    simp only [namesLeft, hkept, hname, if_false]
    cases hword : server.word name with
    | argument => rw [leaves_argument hword, hrest, hread]; rfl
    | unknown => rw [leaves_unknown hword]; rfl
    | option takes =>
        cases takes with
        | false => rw [leaves_alone hword, hrest, hread]; rfl
        | true => rw [leaves_stops (.inl hword) hnone]; rfl
    | asked port =>
        cases port with
        | none => rw [leaves_stops (.inr hword) hnone]; rfl
        | some port =>
            rw [leaves_asked_value hword]
            simp only [leaves_options hdrop hpairs, hread]
            cases parseInt? port <;> rfl

theorem leaves_names {modelId : String} (hmodel : modelId ∈ drop ∨
      server.word modelId = .argument) (name : Option String) :
    leaves server.word parseInt? ("--served-model-name" ::
        (stripPairs drop (modelId :: (name.toList ++ flatten options)) ++
          after)) (some 8000) =
      (namesLeft server drop modelId options name).map some := by
  have hnames : server.word "--served-model-name" = .option true :=
    server.takes _ (by decide)
  by_cases hdropped : modelId ∈ drop
  · exact leaves_names_without_model hdrop hpairs hafter hread hdropped name
  · have hargument := hmodel.resolve_left hdropped
    rw [stripPairs_keep hdropped, List.cons_append, leaves_takes hnames hargument]
    cases name with
    | none =>
        change leaves _ _ (stripPairs drop (flatten options) ++ after) _ = _
        rw [leaves_options hdrop hpairs, hread]
        simp [namesLeft, hdropped]
    | some name =>
        exact leaves_second_name hdrop hpairs hafter hread hdropped name

end Names

theorem leaves_serveArgv (hdrop : drop ⊆ parallelismFlags)
    (hafter : nextArgument server.word after = none)
    (hread : ∀ left, leaves server.word parseInt? after left = some left)
    (modelId image : String) (diffusion : Bool) (payload : ServePayload)
    (left : Option Int) :
    leaves server.word parseInt?
        (stripPairs drop (serveArgv modelId image diffusion payload) ++ after)
        left =
      (portLeft server drop diffusion modelId image payload).map some := by
  have hkeep : ∀ {option : String}, option ∉ parallelismFlags →
      ∀ words, stripPairs drop (option :: words) =
        option :: stripPairs drop words :=
    fun h => stripPairs_keep fun hmem => h (hdrop hmem)
  have htakes := server.takes
  have hport : ∀ left words, leaves server.word parseInt?
      ("--port" :: "8000" :: words) left =
        leaves server.word parseInt? words (some 8000) :=
    fun left words => leaves_asked server.port (server.plain _ (by decide))
      (by decide +kernel)
  rw [serveArgv_eq, hkeep (by decide), List.cons_append]
  generalize htail : (if diffusion = true then [] else _) = tail
  have hhost : "0.0.0.0" ∉ parallelismFlags := by decide
  have hnetwork : ∀ left, leaves server.word parseInt? (stripPairs drop
      ("--port" :: "8000" :: tail) ++ after) left =
        leaves server.word parseInt? (stripPairs drop tail ++ after)
          (some 8000) := fun left => by
    rw [hkeep (by decide), hkeep (by decide)]
    exact hport left _
  have htail : (modelId ∈ drop ∨ server.word modelId = .argument) →
      leaves server.word parseInt? (stripPairs drop tail ++ after)
        (some 8000) =
      (portLeft server drop diffusion modelId image payload).map some := by
    intro hmodel
    have hmodel' : ¬(modelId ∉ drop ∧ server.word modelId ≠ .argument) := by
      tauto
    rw [portLeft, if_neg hmodel', ← htail]
    cases diffusion with
    | true => exact hread _
    | false =>
        simp only [Bool.false_eq_true, if_false]
        rw [hkeep (by decide), hkeep (by decide), hkeep (by decide),
          hkeep (by decide)]
        simp only [List.cons_append]
        rw [leaves_takes (htakes _ (by decide)) (server.plain _ (by decide)),
          leaves_alone server.trust,
          leaves_names hdrop (namedOptions_pairs server _ _ _) hafter hread
            hmodel]
  by_cases hdropped : modelId ∈ drop
  · rw [stripPairs_drop hdropped, hkeep hhost, List.cons_append,
      leaves_takes (htakes _ (by decide)) (server.plain _ (by decide)),
      hnetwork, htail (.inl hdropped)]
  · rw [stripPairs_keep hdropped, List.cons_append]
    by_cases hmodel : server.word modelId = .argument
    · rw [leaves_takes (htakes _ (by decide)) hmodel, hkeep (by decide),
        hkeep hhost, List.cons_append, List.cons_append,
        leaves_takes (htakes _ (by decide)) (server.plain _ (by decide)),
        hnetwork, htail (.inr hmodel)]
    · rw [leaves_stops (.inl (htakes _ (by decide)))
        (by simp [nextArgument, hmodel])]
      simp [portLeft, hdropped, hmodel]

end Words

variable (s : Settings) (runtime : UnifiedRuntimeRecord)
  (artifact : ArtifactBundle) (payload : ServePayload) (host : LaunchHost)
  (port : Nat)

theorem single_published :
    (startCommand s runtime artifact payload host port none).HasFlag "-p"
      (toString s.dockerHost ++ ":" ++ toString port ++ ":" ++ "8000") := by
  have hport : toString s.dockerHost ++ ":" ++ toString port ++ ":" ++ "8000" =
      s!"{s.dockerHost}:{port}:8000" := by
    rw [String.append_assoc]
    rfl
  rw [hport]
  exact ⟨["docker", "run", "-d", "--name",
    containerName runtime.deploymentId, "--shm-size", "8g"], _, rfl⟩

theorem rank_hostNetwork (p : LaunchParams) :
    (startCommand s runtime artifact payload host port (some p)).HasFlag
      "--network" "host" := by
  refine ⟨setShmSize (stripPortPublish (dockerFlags s runtime payload host port)),
    dockerUlimitFlags ++ ["--entrypoint", "sh"], ?_⟩
  simp [startCommand, buildDockerCommand, dockerNetworkFlags]

theorem rank_gpuWords (p : LaunchParams) : ∃ before after,
    (startCommand s runtime artifact payload host port (some p)).flags =
      before ++ gpuDockerWords host.gpuMode
        (runtime.metadata.gpuDevices.getD []) ++ after := by
  have hkept := gpuDockerWords_kept host.gpuMode
    (runtime.metadata.gpuDevices.getD [])
  have hname : containerName runtime.deploymentId ∉ rewritten :=
    not_rewritten_of_append (by decide) _
  simp only [rewritten, List.mem_cons, List.not_mem_nil, or_false,
    not_or] at hkept hname
  simp only [startCommand, buildDockerCommand, dockerFlags]
  generalize gpuDockerWords host.gpuMode
    (runtime.metadata.gpuDevices.getD []) = gpus at hkept ⊢
  generalize containerName runtime.deploymentId = name at hname ⊢
  simp only [List.append_assoc]
  generalize tokenFlags payload host ++ cacheFlags host = rest
  have hwords : ["docker", "run", "-d", "--name", name, "--shm-size", "8g",
      "-p", s!"{s.dockerHost}:{port}:8000"] ++ (gpus ++ rest) =
      ["docker", "run", "-d", "--name"] ++ (name :: "--shm-size" :: "8g" ::
        "-p" :: s!"{s.dockerHost}:{port}:8000" :: (gpus ++ rest)) := rfl
  have hpublished : stripPortPublish (["docker", "run", "-d", "--name"] ++
      (name :: "--shm-size" :: "8g" :: "-p" ::
        s!"{s.dockerHost}:{port}:8000" :: (gpus ++ rest))) =
      "docker" :: "run" :: "-d" :: "--name" :: name :: "--shm-size" :: "8g" ::
        (gpus ++ stripPortPublish rest) := by
    rw [stripPortPublish, stripPairs_append (by decide),
      stripPairs_keep (by simp [hname]), stripPairs_keep (by decide),
      stripPairs_keep (by decide), stripPairs_drop (by decide),
      stripPairs_append fun word hword => by simp [hkept word hword]]
    rfl
  rw [hwords, hpublished, setShmSize_run, stripPairs_keep (by decide),
    stripPairs_keep (by decide), stripPairs_keep (by simp [hname]),
    stripPairs_drop (by decide),
    stripPairs_append fun word hword => by simp [hkept word hword]]
  exact ⟨["docker", "run", "--shm-size", distributedShmSize, "-d", "--name",
    name], _, by simp [List.append_assoc]; rfl⟩

open Shell.Token RankCommand in
theorem rank_rayStart (p : LaunchParams) : ∃ text,
    (startCommand s runtime artifact payload host port (some p)).args =
      .shell text ∧ (∃ start, cmd (rayStart start) ∈ text) ∧
    ∀ start, cmd (rayStart start) ∈ text →
      start.numGpus = (buildRayStartCommand p).numGpus := by
  refine ⟨_, rfl, ?_⟩
  by_cases hhead : p.isHead
  · simp [if_pos hhead, buildHeadEntrypoint, Shell.joinAnd, List.intercalate,
      rayBootstrap, buildNicPinCommand, buildClusterWaitCommand]
  · simp [if_neg hhead, buildWorkerEntrypoint, rayBootstrap,
      buildNicPinCommand]

theorem startCommand_runCommand (params : Option LaunchParams) :
    let cmd := startCommand s runtime artifact payload host port params
    let run := runCommand s runtime artifact port
      (params.map (·.toMultiNodeParams))
    cmd.image = run.image ∧
    (∀ entry ∈ run.publish, cmd.HasFlag "-p"
      (toString s.dockerHost ++ ":" ++ toString entry.1 ++ ":" ++
        toString entry.2)) ∧
    (run.publish = [] → "-p" ∉ cmd.flags) ∧
    (run.hostNetwork → cmd.HasFlag "--network" "host") := by
  cases params with
  | none =>
      refine ⟨rfl, fun entry hentry => ?_, by simp [runCommand],
        by simp [runCommand]⟩
      obtain rfl : entry = (port, 8000) := by simpa [runCommand] using hentry
      have hpublished := single_published s runtime artifact payload host port
      have hport : toString (8000 : Nat) = "8000" := rfl
      simpa only [hport] using hpublished
  | some p =>
      exact ⟨rfl, by simp [runCommand], fun _ => not_published _ _ _ _ p,
        fun _ => rank_hostNetwork s runtime artifact payload host port p⟩

/-! ## Which port is published, and which is given -/

theorem not_rewritten_of_colon {word : String} (h : ':' ∈ word.toList) :
    word ∉ rewritten := by
  have hcolon : ∀ option ∈ rewritten, ':' ∉ option.toList := by decide
  exact fun hmem => hcolon word hmem h

theorem tokenFlags_kept : ∀ word ∈ tokenFlags payload host,
    word ∉ rewritten := by
  have hhub := @not_rewritten_of_append "HUGGING_FACE_HUB_TOKEN=" (by decide)
    (hfToken payload host)
  have htoken := @not_rewritten_of_append "HF_TOKEN=" (by decide)
    (hfToken payload host)
  unfold tokenFlags
  split
  · simp only [List.forall_mem_cons]
    exact ⟨by decide, hhub, by decide, htoken, by simp⟩
  · simp

theorem cacheFlags_kept : ∀ word ∈ cacheFlags host, word ∉ rewritten := by
  have hcolon : ∀ cache : String,
      ':' ∈ s!"{cache}:/root/.cache/huggingface".toList := fun cache => by
    rw [String.toList_append]
    exact List.mem_append_right _ (by decide)
  unfold cacheFlags
  split
  · simp only [List.forall_mem_cons]
    exact ⟨by decide, not_rewritten_of_colon (hcolon _), by simp⟩
  · simp

theorem dockerFlags_published : ∃ before after,
    dockerFlags s runtime payload host port =
      before ++ "-p" :: s!"{s.dockerHost}:{port}:8000" :: after ∧
    ∀ option ∈ ["-p", "--network"], option ∉ before ∧
      option ∉ s!"{s.dockerHost}:{port}:8000" :: after := by
  have hpublished : s!"{s.dockerHost}:{port}:8000" ∉ rewritten := by
    apply not_rewritten_of_colon
    rw [String.toList_append]
    exact List.mem_append_right _ (by decide)
  have hname : containerName runtime.deploymentId ∉ rewritten :=
    not_rewritten_of_append (by decide) _
  refine ⟨["docker", "run", "-d", "--name",
    containerName runtime.deploymentId, "--shm-size", "8g"],
    gpuDockerWords host.gpuMode (runtime.metadata.gpuDevices.getD []) ++
      tokenFlags payload host ++ cacheFlags host, ?_, ?_⟩
  · simp only [dockerFlags, List.append_assoc, List.cons_append,
      List.nil_append]
  · intro option hoption
    have hrewritten : option ∈ rewritten := by
      have hsubset : ["-p", "--network"] ⊆ rewritten := by decide
      exact hsubset hoption
    have hothers : option ∉ ["docker", "run", "-d", "--name", "--shm-size",
        "8g"] := by
      revert option
      decide
    have hafter : ∀ word ∈ s!"{s.dockerHost}:{port}:8000" ::
        (gpuDockerWords host.gpuMode (runtime.metadata.gpuDevices.getD []) ++
          tokenFlags payload host ++ cacheFlags host), word ∉ rewritten := by
      simp only [List.forall_mem_cons, List.forall_mem_append]
      exact ⟨hpublished, ⟨gpuDockerWords_kept _ _, tokenFlags_kept _ _⟩,
        cacheFlags_kept _⟩
    refine ⟨fun hmem => ?_, fun hmem => hafter option hmem hrewritten⟩
    have hne : option ≠ containerName runtime.deploymentId := by
      rintro rfl
      exact hname hrewritten
    simp_all

theorem single_hasFlag_iff (given : Int) :
    (startCommand s runtime artifact payload host port none).HasFlag "-p"
      s!"{s.dockerHost}:{port}:{given}" ↔ given = 8000 := by
  obtain ⟨before, after, hflags, hoptions⟩ :=
    dockerFlags_published s runtime payload host port
  obtain ⟨hbefore, hafter⟩ := hoptions "-p" (by simp)
  have hpublished : s!"{s.dockerHost}:{port}:8000" =
      s!"{s.dockerHost}:{port}:{(8000 : Int)}" := by
    rw [show toString ":8000" = ":" ++ toString (8000 : Int) from rfl,
      ← String.append_assoc]
    rfl
  change (∃ before' after', dockerFlags s runtime payload host port = _) ↔ _
  rw [hflags]
  constructor
  · rintro ⟨before', after', heq⟩
    obtain ⟨-, -, hrest⟩ :=
      (List.append_cons_inj_of_notMem hbefore hafter).mp heq
    obtain ⟨hport, -⟩ := List.cons.inj hrest
    rw [hpublished] at hport
    exact (Decimal.int_repr_injective
      ((String.append_right_inj _).mp hport)).symm
  · rintro rfl
    exact ⟨before, after, by rw [hpublished]⟩

theorem single_not_network (before after : List String) :
    (startCommand s runtime artifact payload host port none).flags ≠
      before ++ "--network" :: "host" :: after := by
  obtain ⟨first, last, hflags, hoptions⟩ :=
    dockerFlags_published s runtime payload host port
  obtain ⟨hfirst, hlast⟩ := hoptions "--network" (by simp)
  intro heq
  have hmem : "--network" ∈ dockerFlags s runtime payload host port := by
    rw [show dockerFlags s runtime payload host port = _ from heq]
    simp
  rw [hflags, List.mem_append, List.mem_cons] at hmem
  rcases hmem with h | h | h
  · exact hfirst h
  · exact absurd h (by decide)
  · exact hlast h

variable (server : Server)

theorem givenPort_single_iff (given : Int) :
    (startCommand s runtime artifact payload host port none).GivenPort server
        given ↔
      portLeft server [] (isDiffusion artifact) (modelId runtime artifact)
        (runCommand s runtime artifact port none).image payload =
          some given := by
  have hnone : Options.nextArgument server.word [] = none := rfl
  have hleft := leaves_serveArgv (List.nil_subset _) hnone (fun _ => rfl)
    (modelId runtime artifact) (runCommand s runtime artifact port none).image
    (isDiffusion artifact) payload none
  rw [List.append_nil, stripPairs_nil] at hleft
  simp only [DockerCommand.GivenPort, DockerCommand.ownWords, startCommand,
    Option.some.injEq, exists_eq_left', hleft]
  cases portLeft server [] (isDiffusion artifact) (modelId runtime artifact)
    (runCommand s runtime artifact port none).image payload <;> simp

def EntryReads (payload : ServePayload) : Prop :=
  ∃ words left, server.own (serveEntry payload) = some words ∧
    Options.leaves server.word parseInt? words none = some left

theorem givenPort_head_iff {p : LaunchParams} (h : p.isHead) (given : Int) :
    (startCommand s runtime artifact payload host port (some p)).GivenPort
        server given ↔
      EntryReads server payload ∧
        portLeft server parallelismFlags (isDiffusion artifact)
          (modelId runtime artifact)
          (runCommand s runtime artifact port none).image payload =
            some given := by
  have hdegrees : Options.ArePairs server.word
      [("--tensor-parallel-size", toString p.tensorParallelSize),
        ("--pipeline-parallel-size", toString p.pipelineParallelSize),
        ("--distributed-executor-backend", "ray")] := by
    simp only [Options.ArePairs, List.forall_mem_cons]
    exact ⟨⟨server.takes _ (by decide), server.number _⟩,
      ⟨server.takes _ (by decide), server.number _⟩,
      ⟨server.takes _ (by decide), server.plain _ (by decide)⟩, by simp⟩
  have hnone : Options.nextArgument server.word
      (buildDistributedVllmFlags p ++ []) = none :=
    hdegrees.nextArgument rfl
  have hread : ∀ left, Options.leaves server.word parseInt?
      (buildDistributedVllmFlags p ++ []) left = some left :=
    fun left => Options.leaves_pairs hdegrees
  rw [List.append_nil] at hnone hread
  have hleft := leaves_serveArgv (List.Subset.refl parallelismFlags) hnone hread
    (modelId runtime artifact) (runCommand s runtime artifact port none).image
    (isDiffusion artifact) payload
  obtain ⟨rest, hargv⟩ : ∃ rest, stripPairs parallelismFlags (serveArgv
      (modelId runtime artifact) (runCommand s runtime artifact port none).image
      (isDiffusion artifact) payload) = "--model" :: rest :=
    ⟨_, by rw [serveArgv_eq, stripPairs_keep (by decide)]⟩
  rw [hargv] at hleft
  have hown : (startCommand s runtime artifact payload host port
      (some p)).ownWords server = (server.own (serveEntry payload)).map
        (· ++ "--model" :: (rest ++ buildDistributedVllmFlags p)) := by
    rw [← server.behind, ← List.cons_append, ← hargv, ← List.append_assoc,
      startCommand, buildDockerCommand, if_pos h]
    rfl
  have hstops : Options.nextArgument server.word
      ("--model" :: (rest ++ buildDistributedVllmFlags p)) = none := by
    simp [Options.nextArgument, server.takes "--model" (by decide)]
  simp only [DockerCommand.GivenPort, hown, EntryReads]
  cases server.own (serveEntry payload) with
  | none => simp
  | some words =>
      simp only [Option.map_some, Option.some.injEq, exists_eq_left',
        Options.leaves_append hstops, exists_and_left]
      cases Options.leaves server.word parseInt? words none with
      | none => simp
      | some left =>
          rw [Option.bind_some, ← List.cons_append, hleft left]
          cases portLeft server parallelismFlags (isDiffusion artifact)
            (modelId runtime artifact)
            (runCommand s runtime artifact port none).image payload <;> simp

theorem single_servesAt_iff :
    (startCommand s runtime artifact payload host port none).ServesAt server
        s.dockerHost port ↔
      portLeft server [] (isDiffusion artifact) (modelId runtime artifact)
        (runCommand s runtime artifact port none).image payload =
          some 8000 := by
  rw [← givenPort_single_iff s runtime artifact payload host]
  constructor
  · rintro ⟨given, hgiven, hflag | ⟨⟨before, after, hnetwork⟩, -⟩⟩
    · rwa [(single_hasFlag_iff s runtime artifact payload host port
        given).mp hflag] at hgiven
    · exact absurd hnetwork (single_not_network s runtime artifact payload
        host port before after)
  · exact fun hgiven => ⟨8000, hgiven, .inl ((single_hasFlag_iff s runtime
      artifact payload host port 8000).mpr rfl)⟩

theorem head_servesAt_iff {p : LaunchParams} (h : p.isHead) :
    (startCommand s runtime artifact payload host port (some p)).ServesAt
        server s.dockerHost port ↔
      EntryReads server payload ∧
        portLeft server parallelismFlags (isDiffusion artifact)
          (modelId runtime artifact)
          (runCommand s runtime artifact port none).image payload =
            some (port : Int) := by
  rw [← givenPort_head_iff s runtime artifact payload host port server h]
  constructor
  · rintro ⟨given, hgiven, ⟨before, after, hflags⟩ | ⟨-, rfl⟩⟩
    · have hpublished : "-p" ∈ (startCommand s runtime artifact payload host
          port (some p)).flags := by
        rw [hflags]
        simp
      exact absurd hpublished (not_published _ _ _ _ p)
    · exact hgiven
  · exact fun hgiven => ⟨port, hgiven, .inr
      ⟨rank_hostNetwork s runtime artifact payload host port p, rfl⟩⟩

/-- The words leave the server the port at which it is to answer. -/
def LeavesPort (params : Option LaunchParams) : Prop :=
  match params with
  | none =>
      portLeft server [] (isDiffusion artifact) (modelId runtime artifact)
        (runCommand s runtime artifact port none).image payload = some 8000
  | some _ => EntryReads server payload ∧
      portLeft server parallelismFlags (isDiffusion artifact)
        (modelId runtime artifact)
        (runCommand s runtime artifact port none).image payload =
          some (port : Int)

def plainHost : LaunchHost := ⟨.gpus, "", none⟩

def headRuntime : UnifiedRuntimeRecord where
  deploymentId := "inf-1"
  workloadId := "workload"
  hotkey := "hotkey"
  workloadKind := .inference
  status := .starting
  modelIdentifier := some "moonshot/kimi-k3"

def headArtifact : ArtifactBundle where
  image := "vllm/vllm-openai:v0.19.1"
  stagedArtifactPath := "inf-1.artifact.json"
  runtimeKind := "vllm"
  modelIdentifier := some "moonshot/kimi-k3"
  multiNode := none

def headParams : LaunchParams where
  role := .head
  rank := 0
  hasHeadHost := true
  tensorParallelSize := 8
  pipelineParallelSize := 2
  gpusPerNode := 8
  nodeCount := 2
  headPort := 6379
  clusterWaitSeconds := 1800
  headHost := "10.0.0.1"
  named := rfl

def optionWord (text : String) : Options.Word :=
  if text = "--port" then .asked none
  else if text ∈ launcherOptions then .option true
  else if text = "--trust-remote-code" then .option false
  else if text.toList.take 7 = "--port=".toList then
    .asked (some (String.ofList (text.toList.drop 7)))
  else .unknown

theorem int_repr_not_option (z : Int) : ¬(z.repr.toList.head? = some '-' ∧
    ¬z.repr.toList.tail.all Char.isDigit) := by
  have hdigits : ∀ n : Nat, ∀ c ∈ (Nat.repr n).toList, c.isDigit := by
    intro n c hc
    rw [Nat.toList_repr] at hc
    exact Nat.isDigit_of_mem_toDigits (by omega) (by omega) hc
  rintro ⟨hhead, htail⟩
  cases z with
  | ofNat n =>
      have hdash := hdigits n '-' (List.mem_of_mem_head? hhead)
      exact absurd hdash (by decide)
  | negSucc n =>
      rw [show (Int.negSucc n).repr = "-" ++ Nat.repr (n + 1) from rfl,
        String.toList_append] at htail
      exact htail (List.all_eq_true.mpr (hdigits (n + 1)))

def ownWords (words : List String) : Option (List String) :=
  if words.take 3 = distributedVllmEntry then some (words.drop 3) else none

theorem ownWords_append (entry words : List String) :
    ownWords (entry ++ "--model" :: words) =
      (ownWords entry).map (· ++ "--model" :: words) := by
  unfold ownWords
  by_cases hlen : 3 ≤ entry.length
  · rw [List.take_append_of_le_length hlen, List.drop_append_of_le_length hlen]
    split <;> rfl
  · have hmodel : "--model" ∈ (entry ++ "--model" :: words).take 3 := by
      rw [List.take_append, List.mem_append]
      obtain ⟨n, hn⟩ : ∃ n, 3 - entry.length = n + 1 :=
        ⟨2 - entry.length, by omega⟩
      rw [hn]
      exact .inr (by simp)
    have hlonger : (entry ++ "--model" :: words).take 3 ≠
        distributedVllmEntry := fun heq => by
      rw [heq] at hmodel
      exact absurd hmodel (by decide)
    have hshorter : entry.take 3 ≠ distributedVllmEntry := fun heq => by
      have hthree := congrArg List.length heq
      rw [List.length_take, show distributedVllmEntry.length = 3 from rfl]
        at hthree
      omega
    rw [if_neg hlonger, if_neg hshorter]
    rfl

def plainServer : Server where
  word text :=
    if text.toList.head? = some '-' ∧ ¬text.toList.tail.all Char.isDigit then
      optionWord text
    else .argument
  own := ownWords
  plain text h := if_neg fun hoption => h hoption.1
  number z := if_neg (int_repr_not_option z)
  port := by decide
  trust := by decide
  takes := by decide
  standard := rfl
  behind := ownWords_append

end DockerInferenceBackend

end NodeAgent
