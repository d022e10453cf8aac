import NodeAgent.Application.Retention

/-!
# Passes while the control plane cannot be reached

A lease list that cannot be fetched counts as empty, so the pass tears down
whatever has no need of a lease to be torn down.
-/

namespace NodeAgent

open Effectful Program Agent

/-- `list_leases` fails; `get_deployment` answers as given, or fails too. -/
def unreachable (deployments : String → Except Exn (Option Deployment)) :
    Permitted
  | .listLeases _, r => r = .error .controlPlaneHTTPError
  | .getDeployment d, r => r = deployments d
  | _, _ => True

def SaysTerminated : Except Exn (Option Deployment) → Prop
  | .ok (some deployment) => deployment.state = .terminated
  | _ => False

def World.statusOf (w : World) (d : String) : Option RuntimeStatus :=
  (w.runtimes.get? d).map (·.status)

def StopsContainer : Effect → Prop
  | .dockerStop _ _ | .dockerRm _ _ => True
  | _ => False

/-- No container was stopped or removed, no GPU released, no status changed. -/
structure Harmless (w w' : World) : Prop where
  containers : ∀ event ∈ issued w w', ¬StopsContainer event.call
  gpus : ∀ d, w'.allocator.getAllocation d = w.allocator.getAllocation d
  statuses : ∀ d, w'.statusOf d = w.statusOf d

/-- A runtime that a pass without leases does not tear down. -/
def OutlivesOutage (deployments : String → Except Exn (Option Deployment))
    (runtime : UnifiedRuntimeRecord) : Prop :=
  runtime.status = .terminated ∨ runtime.status = .suspended ∧
    ¬SaysTerminated (deployments runtime.deploymentId)

variable {s : Settings} {permitted : Permitted} {w w' w₀ : World}
variable {deployments : String → Except Exn (Option Deployment)}
variable {runtime : UnifiedRuntimeRecord}

theorem unreachable_heard {hotkey : String}
    {r : Except Exn (Effect.listLeases hotkey).Ret}
    (hstep : (host (unreachable deployments)).Step w (.listLeases hotkey) r w') :
    heard r = [] := by
  obtain rfl : r = .error .controlPlaneHTTPError := hstep.1
  rfl

/-! ## Runtimes that outlive the outage -/

def LeavesBooks {α : Type} (permitted : Permitted) (w₀ : World) (p : Agent α) :
    Prop :=
  Keeps (host permitted) (fun _ e => ¬StopsContainer e)
    (fun w => w.runtimes = w₀.runtimes ∧ w.allocator = w₀.allocator) p

theorem asking_leavesBooks {e : Effect} (htouches : World.touchesBooks e = false)
    (hstops : ¬StopsContainer e) : LeavesBooks permitted w₀ (perform e) := by
  refine keeps_perform (fun _ _ => hstops) fun w r w' h hstep => ?_
  obtain ⟨a, -, -, rfl⟩ := host_refines.answered hstep
  obtain ⟨hruntimes, -, hallocator, -⟩ := World.perform_books htouches w a
  exact ⟨hruntimes.trans h.1, hallocator.trans h.2⟩

theorem cleanUp_outlives (h : OutlivesOutage deployments runtime) (w : World) :
    Sat (host (unreachable deployments)) (fun _ e => ¬StopsContainer e)
      (cleanUp s [] [] runtime)
      (fun r w' => r = .ok () ∧ w'.runtimes = w.runtimes ∧
        w'.allocator = w.allocator) w := by
  rw [cleanUp, if_neg List.not_mem_nil]
  rcases h with hstatus | ⟨hstatus, hsays⟩
  · rw [hstatus]
    exact ⟨rfl, rfl, rfl⟩
  · rw [hstatus]
    refine sat_step_attempt host_refines id fun a _ hstep => ?_
    have hanswer : a.result = deployments runtime.deploymentId := hstep.1
    simp only [World.perform]
    split
    · rename_i deployment hresult
      split
      · rename_i hterminated
        rw [← hanswer, hresult] at hsays
        exact absurd hterminated hsays
      · exact ⟨rfl, rfl, rfl⟩
    · exact ⟨rfl, rfl, rfl⟩
    · exact ⟨rfl, rfl, rfl⟩

theorem reconcileOnce_leavesBooks (hotkey : String)
    (h : ∀ d runtime, w₀.runtimes.get? d = some runtime →
      OutlivesOutage deployments runtime) :
    LeavesBooks (unreachable deployments) w₀ (reconcileOnce s hotkey) := by
  refine keeps_reconcileOnce (L := fun leases => leases = [])
    (fun e he => asking_leavesBooks
      (World.untouched_of_owner he.owner_eq_none) ?_)
    host_refines (fun _ _ _ hstep => unreachable_heard hstep) ?_ ?_
  · cases e <;> first | exact id | exact he.elim
  · rintro _ rfl lease hmem
    cases hmem
  · rintro _ rfl w snapshotted ⟨hruntimes, -⟩ hmem
    rw [hruntimes] at hmem
    refine fun w h' => (cleanUp_outlives
      (h _ _ (Table.mem_snapshot_iff.mp hmem)) w).weaken fun r w' hw => ?_
    exact ⟨hw.2.1.trans h'.1, hw.2.2.trans h'.2⟩

/-! ## Runtimes that do not -/

theorem terminateRuntime_marks (runtime : UnifiedRuntimeRecord)
    (reported : Bool) (w : World) :
    Sat (host permitted) (fun _ _ => True) (terminateRuntime s runtime reported)
      (fun _ w' => w'.statusOf runtime.deploymentId = some .terminated) w := by
  unfold terminateRuntime
  refine sat_step_bind host_refines trivial fun _ _ _ => ?_
  have hstop := always_swallowing (Within.backend
    (stopBackend_stops (s := s) (Ledger.belongs_any runtime))).always
  refine sat_bind'.mpr ((backend_host host_refines (fun _ _ _ => trivial)
    hstop).weaken ?_)
  rintro _ w' ⟨rfl, -⟩
  have hreport : ∀ w₂ : World, w₂.statusOf runtime.deploymentId =
      some .terminated → Sat (host permitted) (fun _ _ => True)
        (onlyIf reported (report {
          deploymentId := runtime.deploymentId, state := .terminated }))
        (fun _ w₃ => w₃.statusOf runtime.deploymentId = some .terminated)
        w₂ := by
    intro w₂ h
    cases reported with
    | false => exact h
    | true =>
        refine sat_ignoring.mpr (sat_step_perform host_refines trivial
          fun a _ _ => ?_)
        cases hresult : a.result with
        | ok =>
            simp only [World.perform, hresult]
            exact h
        | error x =>
            simp only [World.perform, hresult]
            split <;> exact h
  rw [andThen_ok]
  refine sat_step_bind host_refines trivial fun a _ _ => ?_
  have hmarked : (w'.answer (.upsertRuntime { runtime with
      status := .terminated, currentStage := "terminated" }) a).2.statusOf
        runtime.deploymentId = some .terminated := by
    simp [World.answer, World.perform, World.statusOf, World.saved,
      Table.get?_upsert]
  cases hresult : a.result with
  | ok => simpa only [World.perform, hresult, andThen_ok] using hreport _ hmarked
  | error x => simpa only [World.perform, hresult, andThen_error] using hmarked

theorem cleanUp_changes (h : ¬OutlivesOutage deployments runtime) (w : World) :
    Sat (host (unreachable deployments)) (fun _ _ => True)
      (cleanUp s [] [] runtime)
      (fun _ w' => w'.statusOf runtime.deploymentId ≠ some runtime.status)
      w := by
  have hterminate : runtime.status ≠ .terminated → ∀ reported,
      Sat (host (unreachable deployments)) (fun _ _ => True)
        (terminateRuntime s runtime reported)
        (fun _ w' => w'.statusOf runtime.deploymentId ≠ some runtime.status)
        w := by
    intro hstatus reported
    refine (terminateRuntime_marks runtime reported w).weaken fun _ _ hw => ?_
    rw [hw]
    exact fun heq => hstatus (Option.some.inj heq).symm
  rw [cleanUp, if_neg List.not_mem_nil]
  split
  · rename_i hstatus
    exact absurd (.inl hstatus) h
  · rename_i hstatus
    have hsays : SaysTerminated (deployments runtime.deploymentId) := by
      by_contra hsays
      exact h (.inr ⟨hstatus, hsays⟩)
    refine sat_step_attempt host_refines trivial fun a _ hstep => ?_
    have hanswer : a.result = deployments runtime.deploymentId := hstep.1
    rw [← hanswer] at hsays
    simp only [World.perform]
    split
    · rename_i deployment hresult
      rw [hresult] at hsays
      rw [if_pos (show deployment.state = .terminated from hsays)]
      refine sat_bind'.mpr ((terminateRuntime_marks runtime true _).weaken ?_)
      rintro (x | ⟨⟩) w₂ hmarked
      · rw [andThen_error, hmarked, hstatus]
        simp
      · rw [andThen_ok]
        refine sat_step_perform host_refines trivial fun a _ _ => ?_
        simp [World.answer, World.perform, World.statusOf, World.saved,
          Table.get?_remove]
    · rename_i hresult
      rw [hresult] at hsays
      exact hsays.elim
    · rename_i hresult
      rw [hresult] at hsays
      exact hsays.elim
  · rename_i hnotTerminated _
    exact hterminate hnotTerminated _

theorem other_statusOf {α : Type} {p : Agent α} {b d : String}
    {status : Option RuntimeStatus} (hb : b ≠ d)
    (hp : Within (Typed s anyContainer) (Local s anyContainer b) p
      fun _ => True) :
    Keeps (host permitted) (fun _ _ => True) (fun w => w.statusOf d = status)
      p := by
  refine keeps_of_always hp.always (fun _ _ _ _ => trivial)
    fun w e r w' h he hstep => ⟨host_typed s hstep, ?_⟩
  have hrecord : w'.runtimes.get? d = w.runtimes.get? d :=
    congrArg Ledger.record (host_frame he hstep hb.symm)
  rw [World.statusOf, hrecord]
  exact h

/--
The first runtime in the snapshot that needs a lease is reached and changed,
and what comes after it is about other deployments.
-/
theorem forEach_cleanUp_changes {runtimes : List UnifiedRuntimeRecord}
    (hnodup : (runtimes.map (·.deploymentId)).Nodup)
    (h : ∃ runtime ∈ runtimes, ¬OutlivesOutage deployments runtime)
    (w : World) :
    Sat (host (unreachable deployments)) (fun _ _ => True)
      (forEach (cleanUp s [] []) runtimes)
      (fun _ w' => ∃ runtime ∈ runtimes,
        w'.statusOf runtime.deploymentId ≠ some runtime.status) w := by
  induction runtimes generalizing w with
  | nil => obtain ⟨_, hmem, -⟩ := h; cases hmem
  | cons first rest ih =>
      rw [List.map_cons, List.nodup_cons] at hnodup
      rw [forEach, sat_bind]
      by_cases hfirst : OutlivesOutage deployments first
      · have hrest : ∃ runtime ∈ rest, ¬OutlivesOutage deployments runtime := by
          obtain ⟨runtime, hmem, hneeds⟩ := h
          rcases List.mem_cons.mp hmem with rfl | hmem
          · exact absurd hfirst hneeds
          · exact ⟨runtime, hmem, hneeds⟩
        refine (cleanUp_outlives hfirst w).mono (fun _ _ _ => trivial) ?_
        rintro _ w₁ ⟨rfl, -⟩
        refine (ih hnodup.2 hrest w₁).weaken fun r w₂ hchanged => ?_
        obtain ⟨runtime, hmem, hchanged⟩ := hchanged
        exact ⟨runtime, List.mem_cons_of_mem _ hmem, hchanged⟩
      · refine (cleanUp_changes hfirst w).weaken fun r w₁ hchanged => ?_
        cases r with
        | error x => exact ⟨first, by simp, hchanged⟩
        | ok =>
            have hkept : Keeps (host (unreachable deployments))
                (fun _ _ => True) (fun w => w.statusOf first.deploymentId =
                  w₁.statusOf first.deploymentId)
                (forEach (cleanUp s [] []) rest) := by
              refine keeps_forEach fun runtime hmem => other_statusOf ?_
                (cleanUp_local (Ledger.belongs_any runtime) [] [])
              exact fun heq => hnodup.1 (List.mem_map.mpr ⟨runtime, hmem, heq⟩)
            refine (hkept w₁ rfl).weaken fun r w₂ hsame => ?_
            exact ⟨first, by simp, hsame ▸ hchanged⟩

theorem reconcileOnce_changes (hotkey : String) (hlock : w.reconcileLock = false)
    (h : ∃ d runtime, w.runtimes.get? d = some runtime ∧
      ¬OutlivesOutage deployments runtime) :
    Sat (host (unreachable deployments)) (fun _ _ => True)
      (reconcileOnce s hotkey)
      (fun _ w' => ∃ d, w'.statusOf d ≠ w.statusOf d) w := by
  obtain ⟨d, runtime, hget, hneeds⟩ := h
  have hloop := forEach_cleanUp_changes (s := s) w.runtimes.snapshot_nodup
    ⟨runtime, Table.mem_snapshot_iff.mpr (Table.key_of_get? hget ▸ hget),
      hneeds⟩
  have hpass : ∀ w₁ : World, w₁.runtimes = w.runtimes →
      Sat (host (unreachable deployments)) (fun _ _ => True)
        (reconcileOnceLocked s hotkey)
        (fun _ w' => ∃ d, w'.statusOf d ≠ w.statusOf d) w₁ := by
    intro w₁ hruntimes
    unfold reconcileOnceLocked
    refine sat_bind'.mpr ?_
    unfold syncLeases
    refine sat_step_attempt host_refines trivial fun a _ hstep => ?_
    have hresult : a.result = .error .controlPlaneHTTPError := hstep.1
    simp only [World.perform, hresult, Exn.isControlPlaneHTTPError, if_true]
    rw [sat_pure, andThen_ok]
    refine sat_bind'.mpr (show andThen _ _ _ _ (.ok ()) _ from ?_)
    rw [andThen_ok]
    refine sat_step_bind host_refines trivial fun a _ _ => ?_
    simp only [World.perform, World.answer, hruntimes, andThen_ok]
    refine (hloop _).weaken fun r w' hchanged => ?_
    obtain ⟨changed, hmem, hchanged⟩ := hchanged
    have hstatus : w.statusOf changed.deploymentId = some changed.status := by
      rw [World.statusOf, Table.mem_snapshot_iff.mp hmem]
      rfl
    exact ⟨changed.deploymentId, hstatus ▸ hchanged⟩
  unfold reconcileOnce underReconcileLock
  refine sat_step_bind host_refines trivial fun a _ _ => ?_
  simp only [World.perform, hlock, Bool.not_false, andThen_ok, if_true]
  refine sat_bind'.mpr (sat_attempt.mpr ((hpass
    (w.answer .acquireReconcileLock a).2 rfl).weaken fun r w₁ hw => ?_))
  rw [andThen_ok]
  refine sat_step_bind host_refines trivial fun a _ _ => ?_
  simp only [World.perform, andThen_ok]
  split <;> exact hw

/--
A pass that cannot list its leases does no harm exactly when every runtime is
terminated already, or is suspended and not known to be terminated.
-/
theorem unreachable_pass_harmless_iff {hotkey : String} {r : Except Exn Unit}
    (hlock : w.reconcileLock = false)
    (hpass : Exec (host (unreachable deployments)) (reconcileOnce s hotkey)
      w r w') :
    Harmless w w' ↔ ∀ d runtime, w.runtimes.get? d = some runtime →
      OutlivesOutage deployments runtime := by
  constructor
  · intro hharmless d runtime hget
    by_contra hneeds
    obtain ⟨b, hchanged⟩ := (reconcileOnce_changes hotkey hlock
      ⟨d, runtime, hget, hneeds⟩).exec hpass
    exact hchanged (hharmless.statuses b)
  · intro h
    have hsat := reconcileOnce_leavesBooks (s := s) hotkey h w ⟨rfl, rfl⟩
    have hlogged := (Sat.logged host_refines hsat
      (c := fun event => ¬StopsContainer event.call)
      fun _ _ _ _ hguard _ => hguard).exec hpass
    obtain ⟨⟨hruntimes, hallocator⟩, hstops⟩ := hlogged
    exact ⟨hstops.issued, fun d => by rw [hallocator],
      fun d => by rw [World.statusOf, hruntimes]; rfl⟩

/-! ## One ready pod -/

/-- The control plane is down; docker and the files work. -/
def outage : Environment := fun w e =>
  match e with
  | .listLeases _ => { result := .error .controlPlaneHTTPError }
  | .getDeployment _ => { result := .error .controlPlaneHTTPError }
  | e => podHost [] w e

theorem outage_unreachable :
    outage.Respects (unreachable fun _ => .error .controlPlaneHTTPError) := by
  intro w e
  cases e <;> first | exact trivial | rfl

/-- The pod of a tenant is torn down because a list of leases did not come. -/
theorem unreachable_pass_tears_down :
    ∃ w', (∃ r, Exec
        (host (unreachable fun _ => .error .controlPlaneHTTPError))
        (reconcileOnce {} "hotkey") onePodNode r w') ∧
      onePodNode.statusOf "pod-1" = some .ready ∧
      w'.statusOf "pod-1" = some .terminated ∧
      onePodNode.containers ≠ [] ∧ w'.containers = [] ∧
      onePodNode.allocator.getAllocation "pod-1" = {0} ∧
      w'.allocator.getAllocation "pod-1" = ∅ := by
  obtain ⟨r, hexec⟩ := replayed_exec outage_unreachable
    (p := reconcileOnce {} "hotkey") (w := onePodNode) rfl
  exact ⟨_, ⟨r, hexec⟩, rfl, rfl, List.cons_ne_nil _ _, rfl, rfl, rfl⟩

/-- The same pod, suspended before the outage, is left alone. -/
theorem unreachable_pass_harmless_suspended :
    ∃ w', (∃ r, Exec
        (host (unreachable fun _ => .error .controlPlaneHTTPError))
        (reconcileOnce {} "hotkey") suspendedPodNode r w') ∧
      Harmless suspendedPodNode w' := by
  obtain ⟨r, hexec⟩ := replayed_exec outage_unreachable
    (p := reconcileOnce {} "hotkey") (w := suspendedPodNode) rfl
  refine ⟨_, ⟨r, hexec⟩, (unreachable_pass_harmless_iff rfl hexec).mpr ?_⟩
  intro d runtime hget
  change (if "pod-1" = d then some _ else none) = some runtime at hget
  split at hget
  · cases hget
    exact .inr ⟨rfl, id⟩
  · cases hget

end NodeAgent
