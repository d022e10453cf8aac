import NodeAgent.Application.Ownership
import NodeAgent.Application.Repertoire

/-!
# The host ports that records name

Ready and suspended pods name disjoint host ports, as long as a start is only
offered ports that none of them names, and no pod whose start was cut short is
suspended with a port that another one has taken since.
-/

namespace NodeAgent

open Effectful Program Agent

def recordedPorts (runtime : UnifiedRuntimeRecord) : List Nat :=
  runtime.sshPort.toList ++ runtime.metadata.portAllocations.map Prod.snd

def KeepsPorts (runtime : UnifiedRuntimeRecord) : Prop :=
  runtime.workloadKind = .pod ∧
    (runtime.status = .ready ∨ runtime.status = .suspended)

instance (runtime : UnifiedRuntimeRecord) : Decidable (KeepsPorts runtime) :=
  inferInstanceAs (Decidable (_ ∧ _))

def PortsApart (table : RuntimeTable) : Prop :=
  ∀ b d other runtime, b ≠ d → table.get? b = some other →
    table.get? d = some runtime → KeepsPorts other → KeepsPorts runtime →
    List.Disjoint (recordedPorts other) (recordedPorts runtime)

/-- No such pod but for `d` itself names one of the ports. -/
def OthersApart (table : RuntimeTable) (d : String) (ports : List Nat) :
    Prop :=
  ∀ b other, b ≠ d → table.get? b = some other → KeepsPorts other →
    List.Disjoint (recordedPorts other) ports

/-- No ready or suspended pod names the port. -/
def Unnamed (table : RuntimeTable) (port : Nat) : Prop :=
  ∀ b other, table.get? b = some other → KeepsPorts other →
    port ∉ recordedPorts other

def Published (w : World) (port : Nat) : Prop :=
  ∃ c ∈ w.containers, c.running = true ∧
    ∃ entry ∈ c.publish, entry.1 = port

def PortsSeen (w : World) : (e : Effect) → Except Exn e.Ret → Prop
  | .probe (.chooseFreePort _ _), .ok port => ¬Published w port
  | .probe (.isPortFree port), .ok free => free = true → ¬Published w port
  | .probe (.dockerPort container inner), .ok (some port) =>
      ∃ c ∈ w.containers, c.answersTo container = true ∧
        (port, inner) ∈ c.publish
  | _, _ => True

def portHost : Machine Effect Effect.Ret Exn World where
  Step w e r w' := PortsSeen w e r ∧ (host anyResult).Step w e r w'

def OffersUnnamed (table : RuntimeTable) :
    (e : Effect) → Except Exn e.Ret → Prop
  | .probe (.chooseFreePort _ _), .ok port => Unnamed table port
  | .probe (.isPortFree port), .ok free => free = true → Unnamed table port
  | _, _ => True

def SuspendsApart (w : World) : Effect → Prop
  | .upsertRuntime runtime => runtime.workloadKind = .pod →
      runtime.status = .suspended → ∀ before,
      w.runtimes.get? runtime.deploymentId = some before →
      before.status = .starting →
      OthersApart w.runtimes runtime.deploymentId (recordedPorts runtime)
  | _ => True

/-- The steps of such a host that heed the records. -/
def heeding : Machine Effect Effect.Ret Exn World where
  Step w e r w' := (OffersUnnamed w.runtimes e r ∧ SuspendsApart w e) ∧
    portHost.Step w e r w'

/-- In memory and in the state file. -/
def PortsSound (w : World) : Prop :=
  PortsApart w.runtimes ∧ PortsApart w.stateFile

def WritesApart (w : World) : Effect → Prop
  | .upsertRuntime runtime => KeepsPorts runtime →
      OthersApart w.runtimes runtime.deploymentId (recordedPorts runtime)
  | _ => True

def PortGuard (w : World) (e : Effect) : Prop :=
  PortsSound w ∧ (SuspendsApart w e → WritesApart w e)

variable {s : Settings} {w w' : World} {e : Effect} {r : Except Exn e.Ret}
variable {table : RuntimeTable} {d : String} {ports : List Nat}
variable {runtime : UnifiedRuntimeRecord} {α : Type} {p : Agent α}

theorem heeding_refines : Refines heeding := fun _ _ _ _ h => h.2.2.2

/-! ## One call -/

theorem PortsApart.others (h : PortsApart table)
    (hget : table.get? d = some runtime) (hkeeps : KeepsPorts runtime) :
    OthersApart table d (recordedPorts runtime) :=
  fun _ _ hb hother hkept => h _ _ _ _ hb hother hget hkept hkeeps

theorem OthersApart.upsert (h : OthersApart table d ports)
    (hid : runtime.deploymentId = d) :
    OthersApart (table.upsert runtime) d ports := by
  intro b other hb hother hkept
  rw [Table.get?_upsert, if_neg (by rw [hid]; exact hb.symm)] at hother
  exact h b other hb hother hkept

theorem PortsApart.upsert (h : PortsApart table)
    (hwrite : KeepsPorts runtime →
      OthersApart table runtime.deploymentId (recordedPorts runtime)) :
    PortsApart (table.upsert runtime) := by
  intro b c other runtime' hne hother hget hkept hkept'
  rw [Table.get?_upsert] at hother hget
  split at hother
  · rename_i hb
    cases hother
    rw [if_neg fun hc => hne (hb.symm.trans hc)] at hget
    exact (hwrite hkept c runtime' (by rw [hb]; exact hne.symm) hget
      hkept').symm
  · split at hget
    · rename_i hb hc
      cases hget
      exact hwrite hkept' b other (by rw [hc]; exact hne) hother hkept
    · exact h b c other runtime' hne hother hget hkept hkept'

theorem PortsApart.remove (h : PortsApart table) (b : String) :
    PortsApart (table.remove b) := by
  intro c c' other runtime hne hother hget
  rw [Table.get?_remove] at hother hget
  split at hother
  · cases hother
  · split at hget
    · cases hget
    · exact h c c' other runtime hne hother hget

theorem PortsSound.saved (h : PortsSound w) {ok : Bool}
    (htable : PortsApart table) : PortsSound (w.saved table ok) := by
  refine ⟨htable, ?_⟩
  cases ok with
  | true => exact htable
  | false => exact h.2

theorem PortsSound.answer (h : PortsSound w) (he : WritesApart w e)
    (a : Answer e) : PortsSound (w.answer e a).2 := by
  by_cases hbooks : World.touchesBooks e = false
  · obtain ⟨hruntimes, hfile, -, -⟩ := World.perform_books hbooks w a
    unfold PortsSound at h ⊢
    simp only [World.answer, hruntimes, hfile]
    exact h
  · cases e with
    | upsertRuntime runtime => exact h.saved (h.1.upsert he)
    | removeRuntime b => exact h.saved (h.1.remove b)
    | _ => first | exact h | exact absurd rfl hbooks

theorem PortsSound.step (h : PortsSound w)
    (he : SuspendsApart w e → WritesApart w e)
    (hstep : heeding.Step w e r w') : PortsSound w' := by
  obtain ⟨a, -, -, rfl⟩ := heeding_refines.answered hstep
  exact h.answer (he hstep.1.2) a

theorem PortsSound.restart (h : PortsSound w) : PortsSound (w.restart s) :=
  ⟨h.2, h.2⟩

theorem init_portsSound : PortsSound (.init s) := by
  have hempty : PortsApart .empty := by
    intro b d other runtime _ hother
    simp at hother
  exact ⟨hempty, hempty⟩

/-! ## Programs that write no pod as ready or suspended -/

def Aside : Effect → Prop
  | .upsertRuntime _ | .removeRuntime _ => False
  | _ => True

abbrev KeepsSound (p : Agent α) : Prop :=
  Keeps heeding PortGuard PortsSound p

theorem Aside.writesApart (h : Aside e) : WritesApart w e := by
  cases e <;> first | exact trivial | exact h.elim

theorem aside_of_plain (h : Plain e) : Aside e := by
  cases e <;> first | exact trivial | exact h.elim

theorem aside_of_backendCall (h : BackendCall anyContainer d e) :
    Aside e := by
  cases e <;> first | exact trivial | exact h.elim

theorem Aside.runtimes (h : Aside e) (a : Answer e) :
    (w.answer e a).2.runtimes = w.runtimes := by
  by_cases hbooks : World.touchesBooks e = false
  · exact (World.perform_books hbooks w a).1
  · cases e <;> first | rfl | exact h.elim | exact absurd rfl hbooks

theorem keeps_call (he : ∀ w, WritesApart w e) : KeepsSound (perform e) :=
  keeps_perform (fun w h => ⟨h, fun _ => he w⟩) fun w _ _ h hstep =>
    h.step (fun _ => he w) hstep

theorem keeps_write (h : ¬KeepsPorts runtime) :
    KeepsSound (upsertRuntime runtime) :=
  keeps_call fun _ hkeeps => absurd hkeeps h

theorem sat_aside {answers : (e : Effect) → Except Exn e.Ret → Prop}
    {calls : Effect → Prop} {Q : α → Prop} (hp : Within answers calls p Q)
    (hcalls : ∀ e, calls e → Aside e)
    (hanswers : ∀ w e r w', w.runtimes = table → heeding.Step w e r w' →
      answers e r)
    (h : PortsSound w ∧ w.runtimes = table) :
    Sat heeding PortGuard p (fun r w' =>
      (PortsSound w' ∧ w'.runtimes = table) ∧ ∀ a, r = .ok a → Q a) w := by
  refine (Always.sat_keeping (I := fun w => PortsSound w ∧
    w.runtimes = table) hp ?_ h).mono ?_ fun _ _ h => h
  · intro w₁ e r w₂ h₁ he hstep
    have hafter := h₁.1.step (fun _ => (hcalls e he).writesApart) hstep
    refine ⟨hanswers w₁ e r w₂ h₁.2 hstep, hafter, ?_⟩
    obtain ⟨a, -, -, rfl⟩ := heeding_refines.answered hstep
    exact ((hcalls e he).runtimes a).trans h₁.2
  · exact fun w₁ e h₁ => ⟨h₁.1.1, fun _ => (hcalls e h₁.2).writesApart⟩

theorem sat_plainly {Q : α → Prop}
    (hp : Within (fun _ _ => True) Plain p Q)
    (h : PortsSound w ∧ w.runtimes = table) :
    Sat heeding PortGuard p (fun r w' =>
      (PortsSound w' ∧ w'.runtimes = table) ∧ ∀ a, r = .ok a → Q a) w :=
  sat_aside hp (fun _ => aside_of_plain) (fun _ _ _ _ _ _ => trivial) h

theorem sat_backend {Q : α → Prop}
    (hp : Within (Typed s anyContainer) (BackendCall anyContainer d) p Q)
    (h : PortsSound w ∧ w.runtimes = table) :
    Sat heeding PortGuard p (fun r w' =>
      (PortsSound w' ∧ w'.runtimes = table) ∧ ∀ a, r = .ok a → Q a) w :=
  sat_aside hp (fun _ => aside_of_backendCall)
    (fun _ _ _ _ _ hstep => host_typed s (heeding_refines.host hstep)) h

theorem keeps_plainly (hp : Within (fun _ _ => True) Plain p fun _ => True) :
    KeepsSound p :=
  fun _ h => (sat_plainly hp ⟨h, rfl⟩).weaken fun _ _ h => h.1.1

theorem keeps_backend_attempt {β : Type} {Q : α → Prop}
    {f : Except Exn α → Agent β}
    (hp : Within (Typed s anyContainer) (BackendCall anyContainer d) p Q)
    (hok : ∀ a, Q a → KeepsSound (f (.ok a)))
    (herror : ∀ x, KeepsSound (f (.error x))) :
    KeepsSound (attempt p >>= f) := by
  intro w h
  refine sat_bind'.mpr (sat_attempt.mpr
    ((sat_backend hp ⟨h, rfl⟩).weaken fun r w' h' => ?_))
  rw [andThen_ok]
  cases r with
  | ok a => exact hok a (h'.2 a rfl) w' h'.1.1
  | error x => exact herror x w' h'.1.1

theorem keeps_report (update : DeploymentStatusUpdate) :
    KeepsSound (report update) :=
  keeps_plainly (report_calls (fun _ he => he) update)

theorem keeps_failRuntime (error : String) :
    KeepsSound (failRuntime runtime error) := by
  unfold failRuntime
  refine keeps_bind (keeps_call fun _ => trivial) fun _ => ?_
  refine keeps_bind (keeps_write fun h => by simp [KeepsPorts] at h)
    fun _ => ?_
  exact keeps_report _

theorem keeps_terminateRuntime (reported : Bool) :
    KeepsSound (terminateRuntime s runtime reported) := by
  unfold terminateRuntime
  refine keeps_bind (keeps_call fun _ => trivial) fun _ => ?_
  refine keeps_bind (keeps_ignoring
    (keeps_plainly (stopBackend_calls fun _ he => he))) fun _ => ?_
  refine keeps_bind (keeps_write fun h => by simp [KeepsPorts] at h)
    fun _ => ?_
  exact keeps_onlyIf fun _ => keeps_report _

theorem allocateOrFail_ports (gpuCount : Int)
    (h : PortsSound w ∧ w.runtimes = table) :
    Sat heeding PortGuard (allocateOrFail runtime gpuCount) (fun r w' =>
      PortsSound w' ∧ ∀ devices, r = .ok (some devices) →
        w'.runtimes = table) w := by
  unfold allocateOrFail
  refine Sat.bind (sat_plainly (foreignBusyDevices_within
    (fun _ => trivial) trivial) h) (fun avoid w₁ h₁ => ?_)
    fun x w₁ h₁ => ⟨h₁.1.1, by simp⟩
  refine sat_bind'.mpr (sat_attempt.mpr ((sat_plainly (within_perform
    (by trivial) fun _ _ => trivial) h₁.1).weaken fun r w₂ h₂ => ?_))
  rw [andThen_ok]
  cases r with
  | ok devices => exact ⟨h₂.1.1, fun _ _ => h₂.1.2⟩
  | error x =>
      dsimp only
      split
      · refine Sat.bind (keeps_failRuntime _ w₂ h₂.1.1)
          (fun _ w₃ h₃ => ?_) fun x w₃ h₃ => ⟨h₃, by simp⟩
        exact ⟨h₃, fun _ heq => nomatch heq⟩
      · exact ⟨h₂.1.1, fun _ heq => nomatch heq⟩

theorem keeps_allocateOrFail (gpuCount : Int) :
    KeepsSound (allocateOrFail runtime gpuCount) :=
  fun _ h => (allocateOrFail_ports gpuCount ⟨h, rfl⟩).weaken
    fun _ _ h => h.1

/-! ## Inference and VMs -/

theorem keeps_launchInference (hkind : runtime.workloadKind = .inference)
    (workload : WorkloadSpec) (artifact : ArtifactBundle) :
    KeepsSound (launchInference s runtime workload artifact) := by
  unfold launchInference
  refine keeps_bind (keeps_call fun _ => trivial) fun dir => ?_
  have hstarting : (startingInference s runtime workload artifact
      dir).workloadKind = .inference := hkind
  generalize startingInference s runtime workload artifact dir = starting
    at hstarting ⊢
  refine keeps_bind (keeps_write fun h => by
    simp [KeepsPorts, hstarting] at h) fun _ => ?_
  refine keeps_backend_attempt (startRuntime_within (s := s) hstarting
    (Ledger.belongs_any _) artifact) ?_ ?_
  · rintro started ⟨-, hkept, -⟩
    have hready : (readyInference s started).workloadKind = .inference :=
      hkept.workloadKind.trans hstarting
    refine keeps_bind (keeps_write fun h => by
      simp [KeepsPorts, hready] at h) fun _ => ?_
    exact keeps_report _
  · intro x
    split
    · rename_i heq
      cases heq
    · exact keeps_failRuntime _
    · exact keeps_raise _

theorem keeps_startInferenceRuntime
    (hkind : runtime.workloadKind = .inference) (workload : WorkloadSpec) :
    KeepsSound (startInferenceRuntime s runtime workload) := by
  unfold startInferenceRuntime
  refine keeps_bind (keeps_allocateOrFail _) fun allocated => ?_
  cases allocated with
  | none => exact keeps_pure _
  | some devices =>
      refine keeps_backend_attempt (s := s) (d := runtime.deploymentId)
        (Within.files (stageFor_files (by rfl) workload))
        (fun artifact _ => ?_) fun x => ?_
      · exact keeps_launchInference (by exact hkind) _ _
      · split
        · rename_i heq
          cases heq
        · exact keeps_failRuntime _
        · exact keeps_raise _

theorem keeps_startVmRuntime (hkind : runtime.workloadKind ≠ .pod)
    (workload : WorkloadSpec) :
    KeepsSound (startVmRuntime s runtime workload) := by
  unfold startVmRuntime
  refine keeps_bind (keeps_allocateOrFail _) fun allocated => ?_
  cases allocated with
  | none => exact keeps_pure _
  | some devices =>
      have hstarting : (startingVm runtime devices
          (requestedGpus workload)).workloadKind ≠ .pod := hkind
      dsimp only
      generalize startingVm runtime devices (requestedGpus workload) =
        starting at hstarting ⊢
      refine keeps_bind (keeps_write fun h => hstarting h.1) fun _ => ?_
      refine keeps_backend_attempt
        (Within.files (startVm_files (s := s) (Ledger.belongs_any starting)))
        ?_ ?_
      · rintro started ⟨-, hkept, -⟩
        refine keeps_bind (keeps_write fun h => ?_) fun _ => keeps_report _
        exact hstarting (hkept.workloadKind.symm.trans h.1)
      · intro x
        split
        · rename_i heq
          cases heq
        · exact keeps_failRuntime _
        · exact keeps_raise _

theorem keeps_redispatch (hkind : runtime.workloadKind ≠ .pod) :
    KeepsSound (redispatch s runtime) := by
  unfold redispatch
  refine keeps_bind (keeps_call fun _ => trivial) fun _ => ?_
  refine keeps_bind (keeps_plainly (workloadToResume_calls fun _ he => he))
    fun found => ?_
  cases found with
  | none => exact keeps_pure _
  | some workload =>
      refine keeps_bind (keeps_write fun h => hkind h.1) fun _ => ?_
      split
      · exact keeps_startInferenceRuntime (by assumption) _
      · exact keeps_startVmRuntime (by exact hkind) _
      · exact keeps_pure _
      · exact keeps_pure _

end NodeAgent
