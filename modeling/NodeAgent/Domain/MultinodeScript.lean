import NodeAgent.Domain.InferenceCommand
import NodeAgent.Domain.VllmImage
import NodeAgent.Foundation.ShellWords

/-!
# The texts that the ranks' shells run

`docker run` of a rank word for word, with the shell text as one of the words.
-/

namespace NodeAgent

/-! ## Base64 -/

def base64Digit (n : Nat) : Char :=
  ("ABCDEFGHIJKLMNOPQRSTUVWXYZabcdefghijklmnopqrstuvwxyz0123456789+/".toList)[n]?.getD '='

/-- `b64encode` of some bytes. -/
def base64 : List UInt8 → List Char
  | a :: b :: c :: rest =>
      let n := a.toNat * 65536 + b.toNat * 256 + c.toNat
      [base64Digit (n / 262144), base64Digit (n / 4096 % 64),
        base64Digit (n / 64 % 64), base64Digit (n % 64)] ++ base64 rest
  | [a, b] =>
      let n := a.toNat * 1024 + b.toNat * 4
      [base64Digit (n / 4096), base64Digit (n / 64 % 64), base64Digit (n % 64), '=']
  | [a] =>
      let n := a.toNat * 16
      [base64Digit (n / 64), base64Digit (n % 64), '=', '=']
  | [] => []

/-! ## The texts -/

namespace RankScript

def rayBootstrap : String :=
  "command -v ray >/dev/null 2>&1 || pip install -q \"ray[default]\""

def nicProbe (addressPrefix : String) : String :=
  "import socket,fcntl,struct,os\n" ++
  "p=\"" ++ addressPrefix ++ "\"\n" ++
  "r=\"\"\n" ++
  "for i in sorted(os.listdir(\"/sys/class/net\")):\n" ++
  "    try:\n" ++
  "        s=socket.socket(socket.AF_INET,socket.SOCK_DGRAM)\n" ++
  "        a=socket.inet_ntoa(fcntl.ioctl(s.fileno(),0x8915,struct.pack(\"256s\",i[:15].encode()))[20:24])\n" ++
  "        if a.startswith(p):\n" ++
  "            r=i\n" ++
  "            break\n" ++
  "    except OSError:\n" ++
  "        pass\n" ++
  "print(r)\n"

def buildNicPinCommand (headHost : String) : String :=
  let blob := String.ofList
    (base64 (nicProbe (NodeAgent.nicPrefix headHost)).toUTF8.toList)
  "echo " ++ blob ++ " | base64 -d > /tmp/gc_nic.py; " ++
    "GC_NIC=$(python3 /tmp/gc_nic.py); " ++
    "[ -n \"$GC_NIC\" ] && export NCCL_SOCKET_IFNAME=$GC_NIC " ++
    "GLOO_SOCKET_IFNAME=$GC_NIC NCCL_IB_DISABLE=1; " ++
    "echo \"greencompute: pinned NCCL/Gloo to $\x7bGC_NIC:-auto\x7d\""

def buildRayStartCommand (p : LaunchParams) : String :=
  let common := s!"--num-gpus={p.gpusPerNode} --disable-usage-stats " ++
    s!"--object-store-memory={rayObjectStoreBytes}"
  if p.isHead then s!"ray start --head --port={p.headPort} {common}"
  else s!"ray start --address={p.headHost}:{p.headPort} {common}"

def clusterWait (expected seconds : Int) : String :=
  let snippet := "\n".intercalate
    ["import ray, sys, time",
      "ray.init(address='auto')",
      s!"expected = {expected}",
      s!"deadline = time.time() + {seconds}",
      "gpus = lambda: ray.cluster_resources().get('GPU', 0)",
      "while gpus() < expected and time.time() < deadline:",
      "    time.sleep(5)",
      "sys.exit(0 if gpus() >= expected else 1)"]
  s!"python3 -c \"{snippet}\""

def buildClusterWaitCommand (p : LaunchParams) : String :=
  clusterWait p.totalGpus p.clusterWaitSeconds

def buildWorkerEntrypoint (p : LaunchParams) : String :=
  s!"{rayBootstrap}; " ++
  s!"{buildNicPinCommand p.headHost}; " ++
  s!"deadline=$(( $(date +%s) + {p.clusterWaitSeconds} )); " ++
  s!"until {buildRayStartCommand p} --block; do " ++
  "  if [ $(date +%s) -ge $deadline ]; then " ++
  s!"    echo \"multi-node worker: head {p.headHost}:{p.headPort} " ++
  s!"unreachable after {p.clusterWaitSeconds}s\" >&2; exit 1; " ++
  "  fi; " ++
  s!"  echo \"waiting for ray head {p.headHost}:{p.headPort}...\"; " ++
  "  sleep 10; " ++
  "done"

/-- What the head does before it serves. -/
def headPreamble (p : LaunchParams) : List String :=
  [rayBootstrap, buildNicPinCommand p.headHost, buildRayStartCommand p,
    buildClusterWaitCommand p]

def buildHeadEntrypoint (p : LaunchParams) (vllmArgv : List String) : String :=
  " && ".intercalate (headPreamble p ++ [" ".intercalate vllmArgv])

def distributedVllmEntry : String :=
  "python3 -m vllm.entrypoints.openai.api_server"

def headArgv (vllmEntry : String) (serveArgv : List String) (p : LaunchParams) :
    List String :=
  vllmEntry :: stripParallelismFlags serveArgv ++ buildDistributedVllmFlags p

def rankText (serveArgv : List String) (p : LaunchParams) (vllmEntry : String) :
    String :=
  if p.isHead then buildHeadEntrypoint p (headArgv vllmEntry serveArgv p)
  else buildWorkerEntrypoint p

/-- `build_docker_command`: all words, the last of them the text. -/
def buildDockerCommand (dockerFlags : List String) (image : String)
    (serveArgv : List String) (p : LaunchParams) (vllmEntry : String) :
    List String :=
  setShmSize (stripPortPublish dockerFlags) ++ dockerNetworkFlags ++
    dockerUlimitFlags ++ ["--entrypoint", "sh"] ++
    [image, "-c", rankText serveArgv p vllmEntry]

end RankScript

/-! ## The text of the head's commands -/

open RankScript in
def RankCommand.text : RankCommand → String
  | .findRay => "command -v ray >/dev/null 2>&1"
  | .installRay => "pip install -q \"ray[default]\""
  | .writeNicProbe addressPrefix =>
      "echo " ++ String.ofList (base64 (nicProbe addressPrefix).toUTF8.toList) ++
        " | base64 -d > /tmp/gc_nic.py"
  | .runNicProbe => "GC_NIC=$(python3 /tmp/gc_nic.py)"
  | .nicFound => "[ -n \"$GC_NIC\" ]"
  | .exportNic =>
      "export NCCL_SOCKET_IFNAME=$GC_NIC GLOO_SOCKET_IFNAME=$GC_NIC NCCL_IB_DISABLE=1"
  | .echo text => "echo \"" ++ text ++ "\""
  | .rayStart start =>
      (match start.place with
        | .head port => s!"ray start --head --port={port} "
        | .address address => s!"ray start --address={address} ") ++
      s!"--num-gpus={start.numGpus} --disable-usage-stats " ++
      s!"--object-store-memory={start.objectStoreMemory}" ++
      if start.block then " --block" else ""
  | .clusterWait expected seconds => RankScript.clusterWait expected seconds
  | .serve words => " ".intercalate words
  | .setDeadline seconds => s!"deadline=$(( $(date +%s) + {seconds} ))"
  | .deadlinePassed => "[ $(date +%s) -ge $deadline ]"
  | .sleep seconds => s!"sleep {seconds}"

def tokenText : Shell.Token RankCommand → String
  | .cmd command => command.text
  | .exit status => s!"exit {status}"
  | .andIf => " && "
  | .orIf => " || "
  | .semi => "; "
  | .untilT => "until "
  | .doT => "do "
  | .doneT => "done"
  | .ifT => "if "
  | .thenT => "then "
  | .fiT => "fi"

theorem text_rayStart {p : LaunchParams} (hhead : p.isHead = true) :
    (RankCommand.rayStart (buildRayStartCommand p)).text =
      RankScript.buildRayStartCommand p := by
  unfold RankScript.buildRayStartCommand buildRayStartCommand RankCommand.text
  generalize rayObjectStoreBytes = bytes
  simp [hhead, String.append_assoc]
  rfl

theorem text_nicPin (headHost : String) :
    String.join ((buildNicPinCommand headHost).map tokenText) =
      RankScript.buildNicPinCommand headHost := by
  have htail : " | base64 -d > /tmp/gc_nic.py" ++ ("; " ++
      (RankCommand.runNicProbe.text ++ ("; " ++ (RankCommand.nicFound.text ++
        (" && " ++ (RankCommand.exportNic.text ++ ("; " ++ (RankCommand.echo
          "greencompute: pinned NCCL/Gloo to $\x7bGC_NIC:-auto\x7d").text))))))) =
      " | base64 -d > /tmp/gc_nic.py; " ++
        ("GC_NIC=$(python3 /tmp/gc_nic.py); " ++
          ("[ -n \"$GC_NIC\" ] && export NCCL_SOCKET_IFNAME=$GC_NIC " ++
            ("GLOO_SOCKET_IFNAME=$GC_NIC NCCL_IB_DISABLE=1; " ++
              "echo \"greencompute: pinned NCCL/Gloo to $\x7bGC_NIC:-auto\x7d\""))) := by
    decide +kernel
  have hprobe : (RankCommand.writeNicProbe (nicPrefix headHost)).text =
      "echo " ++ String.ofList (base64
        (RankScript.nicProbe (nicPrefix headHost)).toUTF8.toList) ++
        " | base64 -d > /tmp/gc_nic.py" := rfl
  rw [RankScript.buildNicPinCommand]
  simp only [buildNicPinCommand, List.map_cons, List.map_nil, tokenText,
    String.join_cons, String.join_nil, String.append_empty, hprobe,
    String.append_assoc, htail]

theorem tokenText_headEntrypoint {p : LaunchParams} (hhead : p.isHead = true)
    (vllmArgv : List String) :
    String.join ((buildHeadEntrypoint p vllmArgv).map tokenText) =
      RankScript.buildHeadEntrypoint p vllmArgv := by
  have hbootstrap : String.join (rayBootstrap.map tokenText) =
      RankScript.rayBootstrap := by decide +kernel
  have hwait : (buildClusterWaitCommand p).text =
      RankScript.buildClusterWaitCommand p := rfl
  have hserve : (RankCommand.serve vllmArgv).text = " ".intercalate vllmArgv := rfl
  simp only [buildHeadEntrypoint, Shell.joinAnd, List.intercalate_cons_cons,
    List.intercalate_singleton, List.map_append, String.join_append,
    hbootstrap, text_nicPin]
  simp [tokenText, text_rayStart hhead, hwait, hserve,
    RankScript.buildHeadEntrypoint, RankScript.headPreamble,
    String.append_assoc]

/-! ## Options of a command line -/

/-- An option: a word, or a name with its value as the next word. -/
inductive CliOption where
  | word (text : String)
  | valued (name value : String)
  deriving DecidableEq, Repr

namespace CliOption

def words : CliOption → List String
  | .word text => [text]
  | .valued name value => [name, value]

def gives (names : List String) : CliOption → Bool
  | .valued name _ => name ∈ names
  | .word _ => false

/-- The names take a value, so that none stands alone or is itself a value. -/
def Respects (names : List String) : CliOption → Prop
  | .word text => text ∉ names
  | .valued _ value => value ∉ names

end CliOption

def commandLine (options : List CliOption) : List String :=
  options.flatMap CliOption.words

/-- The options but for those that give one of the names a value. -/
def without (names : List String) (options : List CliOption) : List CliOption :=
  options.filter fun option => !option.gives names

variable {names : List String} {options : List CliOption}

theorem commandLine_cons (option : CliOption) (rest : List CliOption) :
    commandLine (option :: rest) = option.words ++ commandLine rest := rfl

theorem stripPairs_commandLine
    (h : ∀ option ∈ options, option.Respects names) :
    stripPairs names (commandLine options) =
      commandLine (without names options) := by
  induction options with
  | nil => rfl
  | cons option rest ih =>
      obtain ⟨hoption, hrest⟩ := List.forall_mem_cons.mp h
      cases option with
      | word text =>
          have hkeep : without names (.word text :: rest) =
            .word text :: without names rest := rfl
          rw [hkeep, commandLine_cons, commandLine_cons, ← ih hrest]
          exact stripPairs_keep hoption _
      | valued name value =>
          by_cases hname : name ∈ names
          · have hdrop : without names (.valued name value :: rest) =
                without names rest := by
              simp [without, CliOption.gives, hname]
            rw [hdrop, ← ih hrest]
            exact stripPairs_drop hname value _
          · have hkeep : without names (.valued name value :: rest) =
                .valued name value :: without names rest := by
              simp [without, CliOption.gives, hname]
            rw [hkeep, commandLine_cons, commandLine_cons, ← ih hrest]
            exact (stripPairs_keep hname _).trans
              (congrArg _ (stripPairs_keep hoption _))

theorem without_without (names' : List String) (options : List CliOption) :
    without names' (without names options) =
      without (names ++ names') options := by
  rw [without, without, without, List.filter_filter]
  refine List.filter_congr fun option _ => ?_
  cases option <;> simp [CliOption.gives, Bool.and_comm]

theorem mem_without {option : CliOption} (h : option ∈ without names options) :
    option ∈ options ∧ option.gives names = false := by
  simpa [without] using h

theorem not_mem_commandLine_without
    (h : ∀ option ∈ options, option.Respects names) {name : String}
    (hname : name ∈ names) : name ∉ commandLine (without names options) := by
  simp only [commandLine, List.mem_flatMap, not_exists, not_and]
  intro option hoption hmem
  obtain ⟨hin, hgives⟩ := mem_without hoption
  have hrespects := h option hin
  cases option with
  | word text =>
      obtain rfl : name = text := by simpa [CliOption.words] using hmem
      exact hrespects hname
  | valued name' value =>
      simp only [CliOption.words, List.mem_cons, List.not_mem_nil,
        or_false] at hmem
      rcases hmem with rfl | rfl
      · simp [CliOption.gives, hname] at hgives
      · exact hrespects hname

/-! ## The rewritten command -/

def publishNames : List String := ["-p", "--publish"]

def parallelismNames : List String :=
  ["--tensor-parallel-size", "--pipeline-parallel-size",
    "--distributed-executor-backend"]

theorem CliOption.Respects.mono {names names' : List String}
    (hsubset : names ⊆ names') {option : CliOption}
    (h : option.Respects names') : option.Respects names := by
  cases option with
  | word text => exact fun hmem => h (hsubset hmem)
  | valued name value => exact fun hmem => h (hsubset hmem)

theorem setShmSize_stripPortPublish
    (h : ∀ option ∈ options,
      option.Respects (publishNames ++ ["--shm-size"])) :
    setShmSize (stripPortPublish ("docker" :: "run" :: commandLine options)) =
      ["docker", "run", "--shm-size", "32g"] ++
        commandLine (without (publishNames ++ ["--shm-size"]) options) := by
  have hpublish : stripPortPublish ("docker" :: "run" :: commandLine options) =
      "docker" :: "run" :: commandLine (without publishNames options) := by
    rw [← stripPairs_commandLine fun option hoption =>
      (h option hoption).mono (by simp)]
    rw [stripPortPublish, stripPairs_keep (by decide), stripPairs_keep (by decide)]
    rfl
  have hshm : stripPairs ["--shm-size"]
      ("docker" :: "run" :: commandLine (without publishNames options)) =
      "docker" :: "run" ::
        commandLine (without (publishNames ++ ["--shm-size"]) options) := by
    rw [stripPairs_keep (by decide), stripPairs_keep (by decide),
      stripPairs_commandLine fun option hoption =>
        (h option (mem_without hoption).1).mono (by simp), without_without]
  rw [setShmSize, hpublish, hshm]
  rfl

/-- The parallelism of the topology, as the server is given it. -/
def degrees (p : LaunchParams) : List (String × String) :=
  [("--tensor-parallel-size", toString p.tensorParallelSize),
    ("--pipeline-parallel-size", toString p.pipelineParallelSize),
    ("--distributed-executor-backend", "ray")]

theorem parallelismName_ne_repr {name : String} (hname : name ∈ parallelismNames)
    (z : Int) : z.repr ≠ name := by
  have hletter : 'e' ∈ name.toList := by
    simp only [parallelismNames, List.mem_cons, List.not_mem_nil,
      or_false] at hname
    rcases hname with rfl | rfl | rfl <;> simp
  exact Decimal.int_repr_ne hletter (by decide) (by decide) z

theorem degrees_given (p : LaunchParams) {before : List String}
    (hbefore : ∀ name ∈ parallelismNames, name ∉ before) :
    ∀ degree ∈ degrees p,
      (before ++ buildDistributedVllmFlags p).count degree.1 = 1 ∧
        optionValue degree.1 (before ++ buildDistributedVllmFlags p) =
          some degree.2 := by
  have hcount : ∀ name ∈ parallelismNames,
      (before ++ buildDistributedVllmFlags p).count name = 1 := by
    intro name hname
    have hdegree := parallelismName_ne_repr hname
    rw [List.count_append, List.count_eq_zero.mpr (hbefore name hname)]
    simp only [parallelismNames, List.mem_cons, List.not_mem_nil,
      or_false] at hname
    rcases hname with rfl | rfl | rfl <;>
      simp [buildDistributedVllmFlags, hdegree]
  intro degree hdegree
  simp only [degrees, List.mem_cons, List.not_mem_nil, or_false] at hdegree
  rcases hdegree with rfl | rfl | rfl
  · exact ⟨hcount _ (by simp [parallelismNames]),
      optionValue_tensorParallel p before⟩
  · exact ⟨hcount _ (by simp [parallelismNames]),
      optionValue_pipelineParallel p before⟩
  · refine ⟨hcount _ (by simp [parallelismNames]), ?_⟩
    have hsplit : before ++ buildDistributedVllmFlags p =
        (before ++ ["--tensor-parallel-size", toString p.tensorParallelSize,
          "--pipeline-parallel-size", toString p.pipelineParallelSize]) ++
          ["--distributed-executor-backend", "ray"] := by
      simp [buildDistributedVllmFlags]
    rw [hsplit]
    exact optionValue_append (optionValue_last (by decide)) _

namespace RankScript

/--
A rank's command shares more memory and publishes nothing, keeps every other
option in order, and ends with a shell and its text.  The head's text ends with
the server and the topology's degrees; the worker's is the same for all servers.
-/
theorem buildDockerCommand_eq (options serve : List CliOption)
    (image vllmEntry : String) (p : LaunchParams)
    (hoptions : ∀ option ∈ options,
      option.Respects (publishNames ++ ["--shm-size"]))
    (hserve : ∀ option ∈ serve, option.Respects parallelismNames) :
    ∃ script,
      buildDockerCommand ("docker" :: "run" :: commandLine options) image
          (commandLine serve) p vllmEntry =
        ["docker", "run", "--shm-size", "32g"] ++
          commandLine (without (publishNames ++ ["--shm-size"]) options) ++
          ["--network", "host", "--ulimit", "nofile=65536:524288",
            "--entrypoint", "sh", image, "-c", script] ∧
      (p.isHead = true → ∃ argv,
        script = " && ".intercalate (headPreamble p ++
          [" ".intercalate (vllmEntry :: argv)]) ∧
        argv = commandLine (without parallelismNames serve) ++
          buildDistributedVllmFlags p ∧
        ∀ degree ∈ degrees p,
          argv.count degree.1 = 1 ∧ optionValue degree.1 argv = some degree.2) ∧
      (p.isHead = false → ∀ serveArgv,
        buildDockerCommand ("docker" :: "run" :: commandLine options) image
            serveArgv p vllmEntry =
          buildDockerCommand ("docker" :: "run" :: commandLine options) image
            (commandLine serve) p vllmEntry) := by
  refine ⟨rankText (commandLine serve) p vllmEntry, ?_, fun hhead => ?_,
    fun hworker serveArgv => ?_⟩
  · rw [buildDockerCommand, setShmSize_stripPortPublish hoptions,
      List.append_assoc, List.append_assoc, List.append_assoc,
      List.append_assoc, List.append_assoc]
    rfl
  · rw [rankText, if_pos hhead]
    refine ⟨commandLine (without parallelismNames serve) ++
      buildDistributedVllmFlags p, ?_, rfl, ?_⟩
    · have hstrip : stripParallelismFlags (commandLine serve) =
        commandLine (without parallelismNames serve) :=
        stripPairs_commandLine hserve
      rw [buildHeadEntrypoint, headArgv, hstrip]
      rfl
    · exact degrees_given p fun name hname =>
        not_mem_commandLine_without hserve hname
  · simp [buildDockerCommand, rankText, hworker]

theorem buildDockerCommand_eq_head :
    ∃ script, buildDockerCommand
        ["docker", "run", "-d", "--shm-size", "8g", "-p", "127.0.0.1:40123:8000",
          "--gpus", "all"] "vllm/vllm-openai:v0.8.5"
        ["--model", "m", "--tensor-parallel-size", "8"]
        DockerInferenceBackend.headParams distributedVllmEntry =
      ["docker", "run", "--shm-size", "32g", "-d", "--gpus", "all",
        "--network", "host", "--ulimit", "nofile=65536:524288",
        "--entrypoint", "sh", "vllm/vllm-openai:v0.8.5", "-c", script] := by
  obtain ⟨script, h, -⟩ := buildDockerCommand_eq
    [.word "-d", .valued "--shm-size" "8g", .valued "-p" "127.0.0.1:40123:8000",
      .valued "--gpus" "all"]
    [.valued "--model" "m", .valued "--tensor-parallel-size" "8"]
    "vllm/vllm-openai:v0.8.5" distributedVllmEntry
    DockerInferenceBackend.headParams
    (by simp [CliOption.Respects, publishNames])
    (by simp [CliOption.Respects, parallelismNames])
  exact ⟨script, h⟩

/-! ## The words of the server's command -/

theorem plain_of_numeric {word : String} (hne : word ≠ "")
    (hword : ∀ c ∈ word.toList, c = '-' ∨ c.isDigit) :
    Shell.Plain word.toList := by
  have hchar : ∀ c : Char, c = '-' ∨ c.isDigit →
      (!Shell.isBlank c ∧ !Shell.isQuoting c ∧ !Shell.isActive c) ∧
        !Shell.isActiveFirst c := by
    intro c hc
    have hspecial : ∀ d : Char, d ≠ '-' → d.isDigit = false → c ≠ d := by
      rintro d hminus hdigit rfl
      rcases hc with hc | hc
      · exact hminus hc
      · simp [hdigit] at hc
    simp [Shell.isBlank, Shell.isQuoting, Shell.isActive, Shell.isActiveFirst,
      hspecial]
  have hbracket : '[' ∉ word.toList := fun hmem =>
    absurd (hword '[' hmem) (by decide)
  refine ⟨by simpa using hne, fun c hc => (hchar c (hword c hc)).1,
    fun c hc => (hchar c (hword c (List.mem_of_mem_head? hc))).2, ?_⟩
  simp [Shell.hasBracketExpression_of_notMem hbracket]

theorem plain_degrees (p : LaunchParams) :
    ∀ word ∈ buildDistributedVllmFlags p, Shell.Plain word.toList := by
  have hint : ∀ z : Int, Shell.Plain z.repr.toList := fun z =>
    plain_of_numeric (Decimal.int_repr_ne_empty z) fun _ =>
      Decimal.mem_int_repr
  simp only [buildDistributedVllmFlags, List.forall_mem_cons]
  exact ⟨by decide, hint _, by decide, hint _, by decide, by decide, by simp⟩

/-! ## What is lost of the arguments -/

/-- The room that the words of a command take. -/
abbrev cost (words : List String) : Nat :=
  Shell.cost (words.map String.toList)

theorem cost_cons (word : String) (words : List String) :
    cost (word :: words) = Shell.size word.toList + 1 + cost words := rfl

theorem flag_size {flag : String} (h : flag ∈ parallelismFlags) :
    0 < Shell.size flag.toList := by
  revert flag
  decide

theorem cost_strip (words : List String) :
    cost (stripParallelismFlags words) ≤ cost words ∧
      ((∃ word ∈ words, word ∈ parallelismFlags) →
        cost (stripParallelismFlags words) < cost words) := by
  unfold stripParallelismFlags
  fun_induction stripPairs parallelismFlags words with
  | case1 => simp
  | case2 word h => simp [cost, Shell.cost]
  | case3 word h value rest ih =>
      simp only [cost_cons]
      exact ⟨by omega, fun _ => by omega⟩
  | case4 word rest h ih =>
      simp only [cost_cons]
      refine ⟨by omega, fun hflag => ?_⟩
      simp only [List.exists_mem_cons_iff, h, false_or] at hflag
      have := ih.2 hflag
      omega

theorem cost_strip_degree {flag degree : String}
    (hflag : flag ∈ parallelismFlags) (hdegree : Shell.size degree.toList = 0)
    (before after : List String) :
    cost (stripParallelismFlags (before ++ flag :: degree :: after)) ≤
        cost (before ++ after) ∧
      ((∃ word ∈ before ++ after, word ∈ parallelismFlags) →
        cost (stripParallelismFlags (before ++ flag :: degree :: after)) <
          cost (before ++ after)) := by
  unfold stripParallelismFlags
  fun_induction stripPairs parallelismFlags before with
  | case1 =>
      rw [List.nil_append, stripPairs_drop hflag]
      exact cost_strip after
  | case2 word h =>
      have hsize := flag_size h
      have hrest := (cost_strip (degree :: after)).1
      rw [stripParallelismFlags, cost_cons, hdegree] at hrest
      rw [List.singleton_append, stripPairs_drop h, List.singleton_append,
        cost_cons]
      exact ⟨by omega, fun _ => by omega⟩
  | case3 word h value rest ih =>
      simp only [List.cons_append, cost_cons, stripPairs_drop h]
      exact ⟨by omega, fun _ => by omega⟩
  | case4 word rest h ih =>
      simp only [List.cons_append, cost_cons, stripPairs_keep h]
      refine ⟨by omega, fun hflags => ?_⟩
      simp only [List.exists_mem_cons_iff, h, false_or] at hflags
      have := ih.2 hflags
      omega

/-! ## The arguments of the replica's server -/

/--
The single node's arguments without the degree that the launcher appends from
the allocated GPUs, which those of the topology take the place of.
-/
def replicaArgv (modelId image : String) (diffusion : Bool)
    (payload : ServePayload) : List String :=
  DockerInferenceBackend.serveArgv modelId image diffusion
    { payload with tensorParallelSize := none }

open DockerInferenceBackend in
theorem namedOptions_degree (modelId image : String) (payload : ServePayload) :
    ∃ after, Options.flatten (namedOptions modelId image
        { payload with tensorParallelSize := none }) = after ∧
      (Options.flatten (namedOptions modelId image payload) = after ∨
        ∃ n : Nat, Options.flatten (namedOptions modelId image payload) =
          "--tensor-parallel-size" :: toString n :: after) := by
  refine ⟨_, rfl, ?_⟩
  unfold namedOptions
  cases payload.tensorParallelSize with
  | none => exact .inl rfl
  | some n =>
      by_cases hn : n > 1
      · obtain ⟨m, rfl⟩ := Int.eq_ofNat_of_zero_le (show 0 ≤ n by omega)
        refine .inr ⟨m, ?_⟩
        simp only [if_pos hn]
        rfl
      · refine .inl ?_
        simp only [if_neg hn]
        rfl

open DockerInferenceBackend in
theorem serveArgv_replicaArgv (modelId image : String) (diffusion : Bool)
    (payload : ServePayload) : ∃ before after,
    replicaArgv modelId image diffusion payload = before ++ after ∧
    (serveArgv modelId image diffusion payload = before ++ after ∨
      ∃ n : Nat, serveArgv modelId image diffusion payload =
        before ++ "--tensor-parallel-size" :: toString n :: after) := by
  obtain ⟨after, hreplica, hsingle⟩ :=
    namedOptions_degree modelId image payload
  cases diffusion with
  | true =>
      exact ⟨_, [], (List.append_nil _).symm, .inl (List.append_nil _).symm⟩
  | false =>
      refine ⟨["--model", modelId, "--host", "0.0.0.0", "--port", "8000"] ++
        (["--gpu-memory-utilization", "0.9", "--trust-remote-code",
          "--served-model-name"] ++ servedNames modelId payload), after, ?_, ?_⟩
      · rw [replicaArgv, serveArgv, if_neg Bool.false_ne_true, hreplica,
          ← List.append_assoc]
        rfl
      · rcases hsingle with h | ⟨n, h⟩
        · refine .inl ?_
          rw [serveArgv, if_neg Bool.false_ne_true, h, ← List.append_assoc]
        · refine .inr ⟨n, ?_⟩
          rw [serveArgv, if_neg Bool.false_ne_true, h, ← List.append_assoc]

variable {modelId image : String} {diffusion : Bool} {payload : ServePayload}

theorem strip_serveArgv (h : ∀ word ∈ replicaArgv modelId image diffusion
      payload, word ∉ parallelismFlags) :
    stripParallelismFlags (DockerInferenceBackend.serveArgv modelId image
      diffusion payload) = replicaArgv modelId image diffusion payload := by
  obtain ⟨before, after, hargv, hsingle⟩ :=
    serveArgv_replicaArgv modelId image diffusion payload
  rw [hargv] at h ⊢
  obtain ⟨hbefore, hafter⟩ := List.forall_mem_append.mp h
  have hstrip : stripPairs parallelismFlags after = after := by
    simpa [stripPairs] using stripPairs_append hafter []
  rw [stripParallelismFlags]
  rcases hsingle with hsingle | ⟨n, hsingle⟩
  · rw [hsingle, stripPairs_append hbefore, hstrip]
  · rw [hsingle, stripPairs_append hbefore, stripPairs_drop (by decide),
      hstrip]

theorem cost_strip_serveArgv (h : ∃ word ∈ replicaArgv modelId image diffusion
      payload, word ∈ parallelismFlags) :
    cost (stripParallelismFlags (DockerInferenceBackend.serveArgv modelId image
        diffusion payload)) <
      cost (replicaArgv modelId image diffusion payload) := by
  obtain ⟨before, after, hargv, hsingle⟩ :=
    serveArgv_replicaArgv modelId image diffusion payload
  rw [hargv] at h ⊢
  rcases hsingle with hsingle | ⟨n, hsingle⟩
  · rw [hsingle]
    exact (cost_strip _).2 h
  · have hdigits : Shell.size (toString n).toList = 0 :=
      List.countP_eq_zero.mpr fun c hc => by
        simpa using Decimal.isDigit_digits hc
    rw [hsingle]
    exact (cost_strip_degree (by decide) hdigits before after).2 h

theorem headArgv_words_iff {vllmEntry : String} {entry : List String}
    (hentry : Shell.words vllmEntry = some entry) (p : LaunchParams) :
    Shell.words (" ".intercalate (headArgv vllmEntry
        (DockerInferenceBackend.serveArgv modelId image diffusion payload) p)) =
        some (entry ++ (replicaArgv modelId image diffusion payload ++
          buildDistributedVllmFlags p)) ↔
      ∀ word ∈ replicaArgv modelId image diffusion payload,
        Shell.Plain word.toList ∧ word ∉ parallelismFlags := by
  have hne : ∀ words : List String, words ++ buildDistributedVllmFlags p ≠
      [] := by
    simp [buildDistributedVllmFlags]
  have hcost : ∀ words : List String,
      cost (words ++ buildDistributedVllmFlags p) =
        cost words + cost (buildDistributedVllmFlags p) := fun words => by
    rw [cost, List.map_append, Shell.cost_append]
  have hcancel : ∀ found : Option (List String), ∀ words,
      found.map (entry ++ ·) = some (entry ++ words) ↔ found = some words := by
    rintro (_ | found) words <;> simp
  rw [headArgv, List.cons_append, Shell.words_append hentry (hne _), hcancel]
  by_cases hflags : ∀ word ∈ replicaArgv modelId image diffusion payload,
      word ∉ parallelismFlags
  · rw [strip_serveArgv hflags, Shell.words_joined_iff, List.forall_mem_append,
      and_iff_left (plain_degrees p)]
    exact forall₂_congr fun word hword =>
      (and_iff_left (hflags word hword)).symm
  · refine iff_of_false (fun hwords => ?_) fun h =>
      hflags fun word hword => (h word hword).2
    push Not at hflags
    have hlost := cost_strip_serveArgv hflags
    have hle : cost (_ ++ _) ≤ cost (_ ++ _) :=
      Shell.words_cost_le (hne _) hwords
    rw [hcost, hcost] at hle
    omega

theorem rankText_eq_iff {p : LaunchParams} (hhead : p.isHead = true)
    (serveArgv : List String) (vllmEntry serve : String) :
    rankText serveArgv p vllmEntry =
        " && ".intercalate (headPreamble p ++ [serve]) ↔
      serve = " ".intercalate (headArgv vllmEntry serveArgv p) := by
  have hpreamble : headPreamble p ≠ [] := by simp [headPreamble]
  rw [rankText, if_pos hhead, buildHeadEntrypoint,
    String.intercalate_append_of_ne_nil hpreamble (by simp),
    String.intercalate_append_of_ne_nil hpreamble (by simp),
    String.intercalate_singleton, String.intercalate_singleton,
    String.append_right_inj]
  exact eq_comm

/--
The head's shell gives the server the words of the entry and of the arguments
exactly if the shell takes every argument for the one word that it is, and none
is the name of a flag that is dropped.
-/
theorem serveWords_iff {p : LaunchParams} (hhead : p.isHead = true)
    {vllmEntry : String} {entry : List String}
    (hentry : Shell.words vllmEntry = some entry) (modelId image : String)
    (diffusion : Bool) (payload : ServePayload) :
    ∃ serve,
      rankText (DockerInferenceBackend.serveArgv modelId image diffusion
          payload) p vllmEntry =
        " && ".intercalate (headPreamble p ++ [serve]) ∧
      (Shell.words serve = some (entry ++
          (replicaArgv modelId image diffusion payload ++
            buildDistributedVllmFlags p)) ↔
        ∀ word ∈ replicaArgv modelId image diffusion payload,
          Shell.Plain word.toList ∧ word ∉ parallelismFlags) :=
  ⟨" ".intercalate (headArgv vllmEntry _ p),
    (rankText_eq_iff hhead _ vllmEntry _).mpr rfl, headArgv_words_iff hentry p⟩

theorem words_distributedVllmEntry :
    Shell.words distributedVllmEntry =
      some DockerInferenceBackend.distributedVllmEntry := by
  decide +kernel

/-- A model for eight GPUs on each node, which is served under two names. -/
def kimiPayload : ServePayload :=
  { serveAsName := some "kimi[k3", tensorParallelSize := some 8 }

open DockerInferenceBackend in
theorem serveWords_iff_text :
    ∃ serve,
      rankText (serveArgv "moonshot/kimi-k3" "vllm" false kimiPayload)
          headParams RankScript.distributedVllmEntry =
        " && ".intercalate (headPreamble headParams ++ [serve]) ∧
      Shell.words serve = some (DockerInferenceBackend.distributedVllmEntry ++
        (replicaArgv "moonshot/kimi-k3" "vllm" false kimiPayload ++
          buildDistributedVllmFlags headParams)) := by
  obtain ⟨serve, htext, hwords⟩ := serveWords_iff (p := headParams) rfl
    words_distributedVllmEntry "moonshot/kimi-k3" "vllm" false kimiPayload
  exact ⟨serve, htext, hwords.mpr (by decide +kernel)⟩

open DockerInferenceBackend in
/-- The shell takes the JSON value of a vision model apart. -/
theorem vision_words_differ :
    validateParams headParams.toMultiNodeParams = [] ∧
    ∀ serve,
      rankText (serveArgv "Qwen/Qwen2-VL-7B-Instruct" VllmImage.cu130.text
          false {}) headParams RankScript.distributedVllmEntry =
        " && ".intercalate (headPreamble headParams ++ [serve]) →
      Shell.words serve ≠ some (DockerInferenceBackend.distributedVllmEntry ++
        (replicaArgv "Qwen/Qwen2-VL-7B-Instruct" VllmImage.cu130.text false
          {} ++ buildDistributedVllmFlags headParams)) := by
  refine ⟨by decide, fun serve htext hwords => ?_⟩
  rw [(rankText_eq_iff rfl _ _ serve).mp htext,
    headArgv_words_iff words_distributedVllmEntry] at hwords
  have hplain := (hwords "\x7b\"image\": 4\x7d" (by decide +kernel)).1
  exact absurd hplain (by decide +kernel)

end RankScript

end NodeAgent
