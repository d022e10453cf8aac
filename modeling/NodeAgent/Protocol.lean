import NodeAgent.Foundation.Decimal
import NodeAgent.Foundation.Text
import Mathlib.Data.Rat.Defs
import Mathlib.Data.List.Basic

/-!
# Records exchanged with the control plane

The records of `greencompute_protocol` with the fields that the agent reads or
writes.  Timestamps are left out: the agent writes them and never reads them.
-/

namespace NodeAgent

/-- A JSON value, as it reaches the agent in a metadata dictionary. -/
inductive Json where
  | null
  | bool (value : Bool)
  | int (value : Int)
  | float (value : Rat)
  | str (value : String)
  | arr (items : List Json)
  | obj (fields : List (String × Json))

inductive WorkloadKind where
  | inference
  | pod
  | vm
  | other (name : String)
  deriving DecidableEq, Repr

inductive RuntimeStatus where
  | accepted
  | preparing
  | starting
  | ready
  | suspended
  | failed
  | terminated
  deriving DecidableEq, Repr

inductive DeploymentState where
  | pending
  | scheduled
  | pulling
  | starting
  | ready
  | draining
  | suspended
  | failed
  | terminated
  deriving DecidableEq, Repr

/-- The rank role of a distributed replica; `none` is an absent key. -/
structure MultiNodeDict where
  role : Option Json := none
  rank : Option Json := none
  headHost : Option Json := none
  nodeCount : Option Json := none
  gpusPerNode : Option Json := none
  tensorParallelSize : Option Json := none
  pipelineParallelSize : Option Json := none
  headPort : Option Json := none
  clusterWaitSeconds : Option Json := none

structure LeaseAssignment where
  deploymentId : String
  workloadId : String
  hotkey : String
  nodeId : Option String := none
  status : Option String := none
  /-- `some` is a dictionary with at least one key. -/
  multiNode : Option MultiNodeDict := none

structure WorkloadRequirements where
  gpuCount : Int
  memoryGb : Int := 0

structure WorkloadRuntime where
  modelIdentifier : Option String := none
  runtimeKind : Option String := none

structure WorkloadMetadata where
  template : Option String := none
  requestedPorts : List Json := []
  volumeSizeGb : Option Json := none
  sshPublicKeys : List String := []
  runtimeKind : Option String := none
  buildId : Option String := none
  artifactUri : Option String := none
  artifactDigest : Option String := none
  tensorParallelSize : Option Json := none
  hfToken : Option String := none

structure WorkloadSpec where
  workloadId : String
  name : String
  kind : WorkloadKind
  image : Option String := none
  requirements : Option WorkloadRequirements := none
  runtime : Option WorkloadRuntime := none
  metadata : WorkloadMetadata := {}

structure Deployment where
  state : DeploymentState
  deriving DecidableEq, Repr

structure VolumeRecord where
  deploymentId : String
  hotkey : String
  nodeId : Option String
  path : String
  sizeGb : Int
  deriving DecidableEq, Repr

structure RuntimeMetadata where
  multiNode : Option MultiNodeDict := none
  gpuDevices : Option (List Nat) := none
  gpuCount : Option Int := none
  image : Option String := none
  sshPublicKeys : List String := []
  sshPrivateKey : Option String := none
  sshVerified : Option Bool := none
  portAllocations : List (Nat × Nat) := []
  containerName : Option String := none
  multiNodeRole : Option String := none
  backendStarted : Option Bool := none

structure UnifiedRuntimeRecord where
  deploymentId : String
  workloadId : String
  hotkey : String
  nodeId : Option String := none
  workloadKind : WorkloadKind
  status : RuntimeStatus
  currentStage : String := ""
  metadata : RuntimeMetadata := {}
  gpuFraction : Rat := 0
  modelIdentifier : Option String := none
  image : Option String := none
  runtimeMode : Option String := none
  backendName : Option String := none
  stagedArtifactPath : Option String := none
  runtimeDir : Option String := none
  runtimeUrl : Option String := none
  processId : Option Nat := none
  containerId : Option String := none
  vmId : Option String := none
  endpoint : Option String := none
  template : Option String := none
  memoryGbAllocated : Option Int := none
  sshHost : Option String := none
  sshPort : Option Nat := none
  sshUsername : Option String := none
  sshFingerprint : Option String := none
  volumePath : Option String := none
  volumeSizeGb : Option Int := none
  portMappings : List (Nat × Nat) := []
  lastError : Option String := none
  failureClass : Option String := none

structure DeploymentStatusUpdate where
  deploymentId : String
  state : DeploymentState
  endpoint : Option String := none
  sshPrivateKey : Option String := none
  portMappings : Option (List (Nat × Nat)) := none
  readyInstances : Option Nat := none
  error : Option String := none

/-! ## Exceptions -/

inductive Exn where
  | controlPlaneHTTPError
  | gpuAllocationError (message : String)
  | inferenceRuntimeError (message stage : String)
  | modelBackendError (message : String)
  | podError (message : String)
  | vmError (message : String)
  | volumeError (message : String)
  | sshError (message : String)
  | httpError (message : String)
  | urlError (message : String)
  | timeoutError (message : String)
  | jsonDecodeError (message : String)
  | timeoutExpired (message : String)
  | fileNotFoundError (message : String)
  | permissionError (message : String)
  | osError (message : String)
  | valueError
  | typeError
  | overflowError
  | unexpected (message : String)
  deriving DecidableEq, Repr

namespace Exn

/-- `str(exc)`, where the agent puts it into a record or a report. -/
def message : Exn → String
  | .gpuAllocationError m | .inferenceRuntimeError m _ | .modelBackendError m
  | .podError m | .vmError m | .volumeError m | .sshError m | .httpError m
  | .urlError m | .timeoutError m | .jsonDecodeError m | .timeoutExpired m
  | .fileNotFoundError m | .permissionError m | .osError m | .unexpected m => m
  | _ => ""

def isControlPlaneHTTPError : Exn → Bool
  | .controlPlaneHTTPError => true
  | _ => false

/-- `except (FileNotFoundError, subprocess.TimeoutExpired)`. -/
def isMissingOrTimeout : Exn → Bool
  | .fileNotFoundError _ | .timeoutExpired _ => true
  | _ => false

/-- `except (HTTPError, URLError, TimeoutError)`. -/
def isHTTPFailure : Exn → Bool
  | .httpError _ | .urlError _ | .timeoutError _ => true
  | _ => false

/-- `FileNotFoundError` and `PermissionError` are kinds of `OSError`. -/
def isOSError : Exn → Bool
  | .osError _ | .fileNotFoundError _ | .permissionError _
  | .urlError _ | .httpError _ | .timeoutError _ => true
  | _ => false

end Exn

/-! ## Python conversions -/

/-- Python's truth value of an optional string: absent and empty are false. -/
def truthy : Option String → Bool
  | none => false
  | some text => text ≠ ""

/-- How an optional text appears in a formatted string. -/
def shown (text : Option String) : String := text.getD "None"

/-- `str.lower` on the ASCII letters. -/
def lower (text : String) : String :=
  String.ofList (text.toList.map Char.toLower)

/-- `int(text)`: an optional sign and decimal digits, with single underscores. -/
def parseInt? (text : String) : Option Int :=
  match Text.trim Text.isNumberSpace (text.toList.map Decimal.asciiDigit) with
  | '-' :: digits => (Decimal.digitsToNat? digits).map fun n => -(n : Int)
  | '+' :: digits => (Decimal.digitsToNat? digits).map fun n => (n : Int)
  | digits => (Decimal.digitsToNat? digits).map fun n => (n : Int)

/-- `text.strip()` -/
def strip (text : String) : String := String.ofList (Text.strip text.toList)

/-- `int(value)`: numbers truncate, booleans count, text is parsed. -/
def Json.toInt : Json → Except Exn Int
  | .bool b => .ok (if b then 1 else 0)
  | .int n => .ok n
  | .float q => .ok (q.num.tdiv q.den)
  | .str text =>
      match parseInt? text with
      | some n => .ok n
      | none => .error .valueError
  | .null | .arr _ | .obj _ => .error .typeError

open Decimal in
theorem parseInt?_of_digit {c : Char} {rest : List Char} (hc : c.isDigit)
    (hascii : ∀ d ∈ c :: rest, 32 < d.toNat ∧ d.toNat < 128) :
    parseInt? (String.ofList (c :: rest)) =
      (digitsToNat? (c :: rest)).map fun n => (n : Int) := by
  have htrim : Text.trim Text.isNumberSpace (c :: rest) = c :: rest :=
    Text.trim_kept fun d hd => Text.isNumberSpace_of_lt (hascii d hd)
  rw [parseInt?, String.toList_ofList,
    map_asciiDigit fun d hd => (hascii d hd).2, htrim]
  split
  · next heq =>
      obtain ⟨rfl, -⟩ := List.cons.inj heq
      exact absurd hc (by decide)
  · next heq =>
      obtain ⟨rfl, -⟩ := List.cons.inj heq
      exact absurd hc (by decide)
  · rfl

open Decimal in
theorem parseInt?_digits (n : Nat) :
    parseInt? (String.ofList (digits n)) = some (n : Int) := by
  have hvalue := digitsToNat?_digits n
  have hall : ∀ c ∈ digits n, c.isDigit := fun c => isDigit_digits
  cases hdigits : digits n with
  | nil => exact absurd hdigits (digits_ne_nil n)
  | cons c rest =>
      rw [hdigits] at hvalue hall
      rw [parseInt?_of_digit (hall c (by simp)) fun d hd =>
        ascii_of_isDigit (hall d hd), hvalue]
      rfl

open Decimal in
theorem parseInt?_range (first last : Nat) :
    parseInt? (String.ofList (digits first ++ '-' :: digits last)) = none := by
  have hascii : ∀ c ∈ digits first ++ '-' :: digits last,
      32 < c.toNat ∧ c.toNat < 128 := by
    simp only [List.forall_mem_append, List.forall_mem_cons]
    exact ⟨fun c hc => ascii_of_isDigit (isDigit_digits hc), by decide,
      fun c hc => ascii_of_isDigit (isDigit_digits hc)⟩
  have hvalue := digitsToNat?_range first last
  have hall : ∀ c ∈ digits first, c.isDigit := fun c => isDigit_digits
  cases hdigits : digits first with
  | nil => exact absurd hdigits (digits_ne_nil first)
  | cons c rest =>
      rw [hdigits, List.cons_append] at hascii hvalue
      rw [hdigits] at hall
      rw [List.cons_append, parseInt?_of_digit (hall c (by simp)) hascii, hvalue]
      rfl

/-- Python's truth value of a JSON value. -/
def Json.truthy : Json → Bool
  | .null => false
  | .bool b => b
  | .int n => n ≠ 0
  | .float q => q ≠ 0
  | .str text => text ≠ ""
  | .arr items => !items.isEmpty
  | .obj fields => !fields.isEmpty

end NodeAgent
