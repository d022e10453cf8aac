import NodeAgent.Application.Holdings

/-!
# Staged artifacts and runtime directories

An inference deployment's files are gone when its record is terminated or
removed, for as long as no record is torn down that has files but neither a
process nor a container, or that does not name its files.
-/

namespace NodeAgent

open Effectful Program Agent Holding

variable {s : Settings} {w : World} {e : Effect} {d b : String}
variable {runtime : UnifiedRuntimeRecord}

/-- A staged artifact or a runtime directory of the deployment. -/
def HasFiles (w : World) (d : String) : Prop :=
  World.stagedPath d ∈ w.stagedArtifacts ∨
    World.runtimeDirPath d ∈ w.runtimeDirs

def filesMadeBy : Effect → Option String
  | .stageArtifact d _ _ | .makeRuntimeDir d => some d
  | _ => none

def TouchesFiles : Effect → Prop
  | .stageArtifact _ _ _ | .makeRuntimeDir _ | .deleteRuntimeDir _ _
  | .deleteStagedArtifact _ _ => True
  | _ => False

theorem stagedPath_injective (h : World.stagedPath b = World.stagedPath d) :
    b = d := (String.append_left_inj _).mp h

theorem runtimeDirPath_injective
    (h : World.runtimeDirPath b = World.runtimeDirPath d) : b = d :=
  (String.append_left_inj _).mp h

theorem World.perform_files (he : ¬TouchesFiles e) (w : World)
    (a : Answer e) :
    (w.perform e a).2.stagedArtifacts = w.stagedArtifacts ∧
      (w.perform e a).2.runtimeDirs = w.runtimeDirs := by
  cases e with
  | stageArtifact _ _ _ => exact absurd trivial he
  | makeRuntimeDir _ => exact absurd trivial he
  | deleteRuntimeDir _ _ => exact absurd trivial he
  | deleteStagedArtifact _ _ => exact absurd trivial he
  | dockerRun command =>
      cases h : a.created <;> simp [perform, withContainer, h]
  | dockerRm owner target =>
      by_cases h : a.tookEffect <;> simp [perform, h, withoutContainer]
  | dockerStop owner target =>
      by_cases h : a.tookEffect <;> simp [perform, h, setRunning]
  | dockerStart owner target =>
      by_cases h : a.tookEffect <;> simp [perform, h, setRunning]
  | spawnServer owner => cases h : a.result <;> simp [perform, h]
  | terminatePid owner pid => by_cases h : a.tookEffect <;> simp [perform, h]
  | createVolume volume => by_cases h : a.tookEffect <;> simp [perform, h]
  | deleteVolume volume => by_cases h : a.tookEffect <;> simp [perform, h]
  | _ => exact ⟨rfl, rfl⟩

theorem files_kept (w : World) (e : Effect) (a : Answer e) (d : String)
    (h : HasFiles (w.answer e a).2 d) :
    HasFiles w d ∨ filesMadeBy e = some d := by
  by_cases he : TouchesFiles e
  · cases e with
    | stageArtifact b uri digest =>
        by_cases htook : a.tookEffect
        · simp only [HasFiles, World.answer, World.perform, htook, if_true,
            Finset.mem_insert] at h
          rcases h with (heq | h) | h
          · exact .inr (congrArg some (stagedPath_injective heq).symm)
          · exact .inl (.inl h)
          · exact .inl (.inr h)
        · simp only [HasFiles, World.answer, World.perform, htook] at h
          exact .inl h
    | makeRuntimeDir b =>
        by_cases htook : a.tookEffect
        · simp only [HasFiles, World.answer, World.perform, htook, if_true,
            Finset.mem_insert] at h
          rcases h with h | heq | h
          · exact .inl (.inl h)
          · exact .inr (congrArg some (runtimeDirPath_injective heq).symm)
          · exact .inl (.inr h)
        · simp only [HasFiles, World.answer, World.perform, htook] at h
          exact .inl h
    | deleteRuntimeDir owner path =>
        by_cases htook : a.tookEffect
        · simp only [HasFiles, World.answer, World.perform, htook, if_true,
            Finset.mem_erase] at h
          exact .inl (h.imp id And.right)
        · simp only [HasFiles, World.answer, World.perform, htook] at h
          exact .inl h
    | deleteStagedArtifact owner path =>
        by_cases htook : a.tookEffect
        · simp only [HasFiles, World.answer, World.perform, htook, if_true,
            Finset.mem_erase] at h
          exact .inl (h.imp And.right id)
        · simp only [HasFiles, World.answer, World.perform, htook] at h
          exact .inl h
    | _ => exact he.elim
  · obtain ⟨hstaged, hdirs⟩ := World.perform_files he w a
    simp only [HasFiles, World.answer, hstaged, hdirs] at h
    exact .inl h

def tenantFiles : Holding where
  has := HasFiles
  madeBy := filesMadeBy
  spent status := status = .terminated
  accepted := rfl
  kept := files_kept
  restarted _ _ _ h := h
  empty _ _ h := by simp [HasFiles, World.init] at h
  plain e he := by cases e <;> first | rfl | exact he.elim
  run _ := rfl
  write _ := rfl
  remove _ := rfl

def MindsFiles (w : World) : Effect → Prop
  | .upsertRuntime runtime => runtime.status = .terminated →
      (HasFiles w runtime.deploymentId →
        runtime.workloadKind = .inference ∧ hasBackend runtime = true) ∧
      (World.runtimeDirPath runtime.deploymentId ∈ w.runtimeDirs →
        runtime.runtimeDir =
          some (World.runtimeDirPath runtime.deploymentId)) ∧
      (World.stagedPath runtime.deploymentId ∈ w.stagedArtifacts →
        runtime.stagedArtifactPath =
          some (World.stagedPath runtime.deploymentId))
  | _ => True

instance (w : World) (e : Effect) : Decidable (MindsFiles w e) := by
  unfold MindsFiles HasFiles
  split <;> infer_instance

def deletionsWork : Permitted
  | .dockerRm _ _, r => ∀ x, r = .error x → x.isMissingOrTimeout = true
  | .deleteRuntimeDir _ _, r | .deleteStagedArtifact _ _, r =>
      World.isOk r = true
  | _, _ => True

/-- The steps of a host on which deletions work that mind the files. -/
def attentive : Machine Effect Effect.Ret Exn World :=
  (host deletionsWork).when MindsFiles

theorem attentive_prudent : Prudent tenantFiles attentive MindsFiles where
  refines _ _ _ _ h := h.2.2
  meets _ _ _ _ h := h.1
  failing w runtime hminds hstatus hspent := by
    simp [tenantFiles, hstatus] at hspent

theorem attentive_removes : RemovesContainers attentive :=
  fun _ _ _ x _ hstep => hstep.2.1 x rfl

/-! ## Starting -/

/-- Calls that neither end nor remove a record. -/
def Fosters : Effect → Prop
  | .upsertRuntime runtime => runtime.status ≠ .terminated
  | .removeRuntime _ => False
  | _ => True

theorem fosters_repertoire : Repertoire Fosters := by
  refine ⟨fun e he => ?_, fun _ hstatus => hstatus⟩
  cases e <;> first | exact trivial | exact he.elim

theorem filesMadeBy_of_local (he : Local s anyContainer d e)
    (h : filesMadeBy e = some b) : b = d := by
  cases e with
  | stageArtifact c uri digest => exact he.owner_eq h
  | makeRuntimeDir c => exact he.owner_eq h
  | _ => cases h

theorem harmless_of_fosters (he : Local s anyContainer d e) (h : Fosters e)
    (hlive : tenantFiles.Live w d) : tenantFiles.Harmless w e := by
  cases e with
  | upsertRuntime runtime =>
      intro hspent
      exact absurd (by simpa [tenantFiles] using hspent) h
  | removeRuntime c => exact h.elim
  | _ =>
      intro c hc
      rw [filesMadeBy_of_local he hc]
      exact hlive

theorem startInferenceRuntime_files (workload : WorkloadSpec)
    (hkind : runtime.workloadKind = .inference)
    (h : tenantFiles.Covered w)
    (hlive : tenantFiles.Live w runtime.deploymentId) :
    Sat attentive (Guarded tenantFiles MindsFiles)
      (startInferenceRuntime s runtime workload)
      (fun _ => tenantFiles.Covered) w := by
  have hM := attentive_prudent
  have hlocal : Within (Typed s anyContainer)
      (Local s anyContainer runtime.deploymentId)
      (startInferenceRuntime s runtime workload) fun _ => True :=
    startInferenceRuntime_local hkind ⟨rfl, fun _ _ _ => trivial⟩ workload
  have hfosters : Within (Typed s anyContainer) Fosters
      (startInferenceRuntime s runtime workload) fun _ => True :=
    startInferenceRuntime_calls fosters_repertoire (fun _ _ _ _ => trivial)
      (fun _ => ⟨trivial, fun _ _ => trivial⟩) workload
  have hkeeps : Keeps attentive (Guarded tenantFiles MindsFiles)
      (fun w => tenantFiles.Covered w ∧
        tenantFiles.Live w runtime.deploymentId)
      (startInferenceRuntime s runtime workload) := by
    refine keeps_of_always (Always.and hlocal hfosters) ?_ ?_
    · exact fun w e h he =>
        ⟨h.1, fun _ => harmless_of_fosters he.1 he.2 h.2⟩
    · intro w e r w' h he hstep
      have hharmless := harmless_of_fosters he.1 he.2 h.2
      refine ⟨host_typed s (hM.refines.host hstep),
        hM.step h.1 (fun _ => hharmless) hstep, ?_⟩
      obtain ⟨a, -, -, rfl⟩ := hM.refines.answered hstep
      refine live_answer h.2 ?_ ?_ a
      · rintro runtime' rfl -
        simpa [tenantFiles] using
          (show runtime'.status ≠ .terminated from he.2)
      · rintro rfl
        exact he.2
  exact (hkeeps w ⟨h, hlive⟩).weaken fun _ _ h => h.1

theorem resumeRuntime_files :
    Keeps attentive (Guarded tenantFiles MindsFiles) tenantFiles.Covered
      (resumeRuntime s runtime) := by
  have hM := attentive_prudent
  unfold resumeRuntime
  refine keeps_bind (keeps_attempt
    (keeps_tame hM (reacquire_calls tame_repertoire.plain))) fun r => ?_
  split
  · split
    · exact keeps_pure _
    · exact keeps_raise _
  · split
    · exact keeps_tame hM (resumePodRuntime_calls tame_repertoire)
    · unfold redispatch
      refine keeps_bind (keeps_tame_call hM (tame_of_plain (by trivial)))
        fun _ => ?_
      refine keeps_bind
        (keeps_tame hM (workloadToResume_calls tame_repertoire.plain))
        fun found => ?_
      cases found with
      | none => exact keeps_pure _
      | some workload =>
          intro w h
          dsimp only
          generalize haccepted : { runtime with
            status := .accepted, currentStage := "accepted" } = accepted
          have hstatus : accepted.status = .accepted := by
            rw [← haccepted]
          have hkind : accepted.workloadKind = runtime.workloadKind := by
            rw [← haccepted]
          have htame : tenantFiles.Tame (.upsertRuntime accepted) :=
            tame_repertoire.write accepted (by simp [hstatus])
          refine sat_step_bind hM.refines ⟨h, hM.harmless_of_tame htame⟩
            fun a _ hstep => ?_
          have hafter := hM.step h (hM.harmless_of_tame htame) hstep
          cases hresult : (w.perform (.upsertRuntime accepted) a).1 with
          | error x => exact hafter
          | ok u =>
              have hlive := live_written (H := tenantFiles) hresult
                (by rw [hstatus, tenantFiles.accepted])
              simp only [andThen_ok]
              split
              · exact startInferenceRuntime_files workload
                  (hkind.trans (by assumption)) hafter hlive
              · exact keeps_tame hM
                  (startVmRuntime_calls tame_repertoire _) _ hafter
              · exact hafter
              · exact hafter

/-! ## Teardown -/

theorem stopRuntime_files (h : tenantFiles.Covered w) :
    Sat attentive (Guarded tenantFiles MindsFiles)
      (InferenceBackend.stopRuntime s runtime)
      (fun r w' => (∃ stopped, r = .ok stopped) ∧ tenantFiles.Covered w')
      w := by
  have hM := attentive_prudent
  unfold InferenceBackend.stopRuntime
  split
  · unfold DockerInferenceBackend.stopRuntime
    refine Sat.bind (m := fun r w' => r = .ok () ∧ tenantFiles.Covered w')
      (sat_onlyIf.mpr ?_) (fun _ w' h' => ⟨⟨_, rfl⟩, h'.2⟩)
      fun x w' h' => nomatch h'.1
    split
    · exact removeContainer_covered hM attentive_removes _ _ h
    · exact ⟨rfl, h⟩
  · unfold ProcessInferenceBackend.stopRuntime
    split
    · exact ⟨⟨_, rfl⟩, h⟩
    · refine Sat.bind (m := fun r w' => r = .ok () ∧ tenantFiles.Covered w')
        (sat_onlyIf.mpr ?_) (fun _ w' h' => ⟨⟨_, rfl⟩, h'.2⟩)
        fun x w' h' => nomatch h'.1
      split
      · have htame : tenantFiles.Tame (.terminatePid runtime.deploymentId
            (runtime.processId.getD 0)) := tame_of_plain trivial
        refine sat_step_perform hM.refines ⟨h, hM.harmless_of_tame htame⟩
          fun a _ hstep => ⟨rfl, ?_⟩
        exact hM.step h (hM.harmless_of_tame htame) hstep
      · exact ⟨rfl, h⟩
  · exact ⟨⟨_, rfl⟩, h⟩

theorem deleteRuntimeDir_files {path : String} (h : tenantFiles.Covered w) :
    Sat attentive (Guarded tenantFiles MindsFiles) (deleteRuntimeDir d path)
      (fun r w' => r = .ok () ∧ tenantFiles.Covered w' ∧
        path ∉ w'.runtimeDirs) w := by
  have hM := attentive_prudent
  have htame : tenantFiles.Tame (.deleteRuntimeDir d path) :=
    tame_of_plain trivial
  refine sat_step_perform hM.refines ⟨h, hM.harmless_of_tame htame⟩
    fun a hallows hstep => ?_
  have hok : World.isOk a.result = true := hstep.2.1
  have htook : a.tookEffect = true := by
    simpa [World.allows, hok] using hallows
  refine ⟨?_, hM.step h (hM.harmless_of_tame htame) hstep, ?_⟩
  · cases hresult : a.result with
    | ok u => simp [World.perform, hresult]
    | error x => simp [hresult, World.isOk] at hok
  · simp [World.answer, World.perform, htook]

theorem deleteStagedArtifact_files {path : String} {I : Finset String → Prop}
    (h : tenantFiles.Covered w) (hdirs : I w.runtimeDirs) :
    Sat attentive (Guarded tenantFiles MindsFiles)
      (deleteStagedArtifact d path)
      (fun _ w' => tenantFiles.Covered w' ∧ I w'.runtimeDirs ∧
        path ∉ w'.stagedArtifacts) w := by
  have hM := attentive_prudent
  have htame : tenantFiles.Tame (.deleteStagedArtifact d path) :=
    tame_of_plain trivial
  refine sat_step_perform hM.refines ⟨h, hM.harmless_of_tame htame⟩
    fun a hallows hstep => ?_
  have hok : World.isOk a.result = true := hstep.2.1
  have htook : a.tookEffect = true := by
    simpa [World.allows, hok] using hallows
  refine ⟨hM.step h (hM.harmless_of_tame htame) hstep, ?_, ?_⟩
  · simpa [World.answer, World.perform, htook] using hdirs
  · simp [World.answer, World.perform, htook]

theorem truthy_runtimeDirPath (d : String) :
    truthy (some (World.runtimeDirPath d)) = true := by
  simp [truthy, World.runtimeDirPath]

theorem truthy_stagedPath (d : String) :
    truthy (some (World.stagedPath d)) = true := by
  simp [truthy, World.stagedPath]

theorem deleteStaged_deletes (h : tenantFiles.Covered w) :
    Sat attentive (Guarded tenantFiles MindsFiles) (deleteStaged runtime)
      (fun _ w' => tenantFiles.Covered w' ∧
        (∀ b, runtime.runtimeDir = some (World.runtimeDirPath b) →
          World.runtimeDirPath b ∉ w'.runtimeDirs) ∧
        ∀ b, runtime.stagedArtifactPath = some (World.stagedPath b) →
          World.stagedPath b ∉ w'.stagedArtifacts) w := by
  unfold deleteStaged
  refine Sat.bind (m := fun r w' => r = .ok () ∧ tenantFiles.Covered w' ∧
    ∀ b, runtime.runtimeDir = some (World.runtimeDirPath b) →
      World.runtimeDirPath b ∉ w'.runtimeDirs) (sat_onlyIf.mpr ?_)
    (fun _ w₁ h₁ => sat_onlyIf.mpr ?_) fun x w₁ h₁ => nomatch h₁.1
  · split
    · refine (deleteRuntimeDir_files h).weaken fun r w₁ h₁ => ?_
      refine ⟨h₁.1, h₁.2.1, fun b hb => ?_⟩
      rw [hb] at h₁
      exact h₁.2.2
    · rename_i hnone
      refine ⟨rfl, h, fun b hb => ?_⟩
      exact absurd (hb ▸ truthy_runtimeDirPath b) hnone
  · split
    · refine (deleteStagedArtifact_files (I := fun dirs =>
        ∀ b, runtime.runtimeDir = some (World.runtimeDirPath b) →
          World.runtimeDirPath b ∉ dirs) h₁.2.1 h₁.2.2).weaken
        fun r w₂ h₂ => ⟨h₂.1, h₂.2.1, fun b hb => ?_⟩
      rw [hb] at h₂
      exact h₂.2.2
    · rename_i hnone
      refine ⟨h₁.2.1, h₁.2.2, fun b hb => ?_⟩
      exact absurd (hb ▸ truthy_stagedPath b) hnone

theorem files_cleared : Clears tenantFiles attentive MindsFiles s := by
  intro runtime w h
  have hM := attentive_prudent
  by_cases hbackend :
      runtime.workloadKind = .inference ∧ hasBackend runtime = true
  · unfold stopBackend
    rw [hbackend.1]
    simp only [hbackend.2, if_true]
    refine Sat.bind (stopRuntime_files h) (fun _ w₁ h₁ => ?_)
      fun x w₁ h₁ => ?_
    · refine (deleteStaged_deletes h₁.2).weaken fun _ w₂ h₂ => ?_
      refine ⟨h₂.1, fun hminds hhas => ?_⟩
      obtain ⟨-, hdir, hstaged⟩ := hminds rfl
      rcases hhas with hhas | hhas
      · exact h₂.2.2 _ (hstaged hhas) hhas
      · exact h₂.2.1 _ (hdir hhas) hhas
    · obtain ⟨⟨_, hstopped⟩, -⟩ := h₁
      cases hstopped
  · refine (keeps_tame hM (stopBackend_calls tame_repertoire.plain) w h).weaken
      fun _ w' h' => ⟨h', fun hminds hhas => ?_⟩
    exact hbackend ((hminds rfl).1 hhas)

/-! ## Every run -/

/-- In every run that minds the files, a record that is not over has each. -/
theorem files_recorded (h : CrashRun s attentive w) :
    ∀ d, HasFiles w d → ∃ runtime, w.runtimes.get? d = some runtime ∧
      runtime.status ≠ .terminated := by
  have hM := attentive_prudent
  have hvolumes : MakesVolumes tenantFiles.Tame :=
    fun _ => ⟨rfl, by simp, by simp⟩
  have hcovered : tenantFiles.Covered w := by
    refine crashRun_covered hM files_cleared (startLease_keeps hM ?_)
      (fun _ => resumeRuntime_files) h
    intro runtime workload w hkind h hlive
    unfold dispatch
    split
    · exact startInferenceRuntime_files workload
        (hkind.trans (by assumption)) h hlive
    · exact keeps_tame hM (startPodRuntime_calls tame_repertoire tame_pods
        hvolumes _) w h
    · exact keeps_tame hM (startVmRuntime_calls tame_repertoire _) w h
    · exact keeps_tame hM (failRuntime_calls tame_repertoire _) w h
  intro d hd
  obtain ⟨⟨runtime, hget, hspent⟩, -⟩ := hcovered d hd
  exact ⟨runtime, hget, by simpa [tenantFiles] using hspent⟩

/-! ## Model servers -/

def modelHost (leases : List LeaseAssignment) : Environment :=
  cooperative leases (fun _ => some llama) fun _ => none

theorem modelHost_deletes (leases : List LeaseAssignment)
    (checks : World → Effect → Bool) :
    Follows (host deletionsWork) (modelHost leases) checks := by
  intro w e _ hallows
  refine ⟨?_, _, hallows, rfl⟩
  cases e with
  | dockerRm owner target => exact fun x heq => nomatch heq
  | deleteRuntimeDir owner path => exact rfl
  | deleteStagedArtifact owner path => exact rfl
  | _ => exact trivial

theorem modelHost_attentive (leases : List LeaseAssignment) :
    Follows attentive (modelHost leases)
      fun w e => decide (MindsFiles w e) :=
  fun w e hchecks hallows => ⟨of_decide_eq_true hchecks,
    modelHost_deletes leases (fun _ _ => true) w e rfl hallows⟩

def modelPass (s : Settings) (leases : List LeaseAssignment)
    (checks : World → Effect → Bool) : Agent Unit × World :=
  replayFor (modelHost leases) checks 200 (reconcileOnce s "hotkey") (.init s)

def twoModelsStarted : Agent Unit × World :=
  modelPass { gpuCount := 2 } [leaseOn "chat-1", leaseOn "chat-2"]
    fun w e => decide (MindsFiles w e)

def oneModelTornDown : Agent Unit × World :=
  replayFor (modelHost []) (fun w e => decide (MindsFiles w e)) 100
    (Request.program { gpuCount := 2 } (.terminate "chat-1")) twoModelsStarted.2

/-- Its files are gone, and the others have their record. -/
theorem files_recorded_oneModelTornDown :
    ¬HasFiles oneModelTornDown.2 "chat-1" ∧ HasFiles oneModelTornDown.2 "chat-2" ∧
    ∃ runtime, oneModelTornDown.2.runtimes.get? "chat-2" = some runtime ∧
      runtime.status ≠ .terminated := by
  have hstarted : Exec attentive (reconcileOnce { gpuCount := 2 } "hotkey")
      (.init { gpuCount := 2 }) (.ok ()) twoModelsStarted.2 :=
    replayFor_exec (modelHost_attentive _) 200 rfl
  have htornDown : Exec attentive
      (Request.program { gpuCount := 2 } (.terminate "chat-1"))
      twoModelsStarted.2 (.ok ()) oneModelTornDown.2 :=
    replayFor_exec (modelHost_attentive _) 100 rfl
  have hfiles : HasFiles oneModelTornDown.2 "chat-2" := by
    unfold HasFiles
    decide +kernel
  refine ⟨?_, hfiles, files_recorded
    (.serve (.serve .boot (.reconcile "hotkey") hstarted)
      (.terminate "chat-1") htornDown) "chat-2" hfiles⟩
  unfold HasFiles
  decide +kernel

def fallbackTerminated : Agent Unit × World :=
  replayFor (modelHost []) (fun _ _ => true) 100
    (Request.program { inferenceBackend := .fallback } (.terminate "chat-1"))
    (modelPass { inferenceBackend := .fallback } [leaseOn "chat-1"]
      fun _ _ => true).2

/-- The staged artifact and the directory outlive the terminated record. -/
theorem fallback_leaves_files : ∃ w,
    CrashRun { inferenceBackend := .fallback } (host deletionsWork) w ∧
      World.stagedPath "chat-1" ∈ w.stagedArtifacts ∧
      World.runtimeDirPath "chat-1" ∈ w.runtimeDirs ∧
      (w.runtimes.get? "chat-1").map (·.status) = some .terminated := by
  have hpass : Exec (host deletionsWork)
      (reconcileOnce { inferenceBackend := .fallback } "hotkey")
      (.init { inferenceBackend := .fallback }) (.ok ())
      (modelPass { inferenceBackend := .fallback } [leaseOn "chat-1"]
        fun _ _ => true).2 :=
    replayFor_exec (modelHost_deletes _ _) 200 rfl
  have hteardown : Exec (host deletionsWork)
      (Request.program { inferenceBackend := .fallback }
        (.terminate "chat-1"))
      (modelPass { inferenceBackend := .fallback } [leaseOn "chat-1"]
        fun _ _ => true).2 (.ok ()) fallbackTerminated.2 :=
    replayFor_exec (modelHost_deletes _ _) 100 rfl
  exact ⟨_, .serve (.serve .boot (.reconcile "hotkey") hpass)
    (.terminate "chat-1") hteardown, by decide +kernel, by decide +kernel, rfl⟩

end NodeAgent
