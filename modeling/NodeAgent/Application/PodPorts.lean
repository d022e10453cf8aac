import NodeAgent.Application.PortRecords

/-!
# Pods with host ports of their own

From the ports that a start is offered to the record that it writes as ready,
and on through suspends and resumes: ready and suspended pods share no port.
-/

namespace NodeAgent

open Effectful Program Agent

variable {s : Settings} {w w' : World} {e : Effect} {r : Except Exn e.Ret}
variable {table : RuntimeTable} {d : String} {ports : List Nat}
variable {runtime : UnifiedRuntimeRecord} {α : Type} {p : Agent α}

def IsProbe (e : Effect) : Prop := ∃ question, e = .probe question

theorem isProbe (question : Probe) : IsProbe (.probe question) :=
  ⟨question, rfl⟩

/-! ## The ports that a start is offered -/

theorem chooseFreePort_unnamed (start stop : Nat) :
    Within (OffersUnnamed table) IsProbe
      (probe (.chooseFreePort start stop)) (Unnamed table) :=
  within_perform (isProbe _) fun _ h => h

theorem setUpSsh_unnamed :
    Within (OffersUnnamed table) IsProbe (setUpSsh s)
      fun ssh => Unnamed table ssh.1 := by
  unfold setUpSsh
  refine within_bind (chooseFreePort_unnamed _ _) fun port hport => ?_
  exact within_bind (probe_within isProbe _) fun _ _ => within_pure hport

theorem chooseUnusedPort_unnamed (used : List Nat) (rounds : Nat) :
    Within (OffersUnnamed table) IsProbe (chooseUnusedPort s used rounds)
      (Unnamed table) := by
  induction rounds with
  | zero =>
      unfold chooseUnusedPort
      exact within_bind (probe_within isProbe .never) fun hopeless _ =>
        hopeless.elim
  | succ rounds ih =>
      unfold chooseUnusedPort
      refine within_bind (chooseFreePort_unnamed _ _) fun port hport => ?_
      split
      · exact ih
      · exact within_pure hport

theorem sameNumberFree_unnamed (used : List Nat) (containerPort : Nat) :
    Within (OffersUnnamed table) IsProbe
      (sameNumberFree s used containerPort)
      fun free => free = true → Unnamed table containerPort := by
  unfold sameNumberFree
  split
  · exact within_perform (isProbe _) fun _ h => h
  · exact within_pure (by simp)

theorem choosePort_unnamed (used : List Nat) (containerPort : Nat)
    {sameNumber : Bool} (h : sameNumber = true → Unnamed table containerPort) :
    Within (OffersUnnamed table) IsProbe
      (choosePort s used containerPort sameNumber) (Unnamed table) := by
  unfold choosePort
  split
  · exact within_pure (h (by assumption))
  · exact within_bind (probe_within isProbe _)
      fun _ _ => chooseUnusedPort_unnamed _ _

theorem assignPorts_unnamed (requested : List Nat)
    (assigned : List (Nat × Nat))
    (h : ∀ entry ∈ assigned, Unnamed table entry.2) :
    Within (OffersUnnamed table) IsProbe (assignPorts s assigned requested)
      fun assigned => ∀ entry ∈ assigned, Unnamed table entry.2 := by
  induction requested generalizing assigned with
  | nil => exact within_pure h
  | cons containerPort rest ih =>
      unfold assignPorts
      refine within_bind (sameNumberFree_unnamed _ _) fun free hfree => ?_
      refine within_bind (within_attempt_ok (choosePort_unnamed _ _ hfree))
        fun r hr => ?_
      split
      · rename_i hostPort
        refine ih _ fun entry hentry => ?_
        rcases List.mem_append.mp hentry with hentry | hentry
        · exact h entry hentry
        · obtain rfl := List.mem_singleton.mp hentry
          exact hr _ rfl
      · split
        · exact within_pure h
        · exact within_raise

theorem sat_offered {Q : α → Prop}
    (hp : Within (OffersUnnamed table) IsProbe p Q)
    (h : PortsSound w ∧ w.runtimes = table) :
    Sat heeding PortGuard p (fun r w' =>
      (PortsSound w' ∧ w'.runtimes = table) ∧ ∀ a, r = .ok a → Q a) w := by
  refine sat_aside hp ?_ (fun w e r w' heq hstep => ?_) h
  · rintro e ⟨question, rfl⟩
    exact trivial
  · rw [← heq]
    exact hstep.1.1

theorem othersApart_of_unnamed (h : ∀ port ∈ ports, Unnamed table port) :
    OthersApart table d ports := by
  intro b other _ hget hkeeps port hother hport
  exact h port hport b other hget hkeeps hother

/-! ## The ports that docker reads back -/

def PublishesOnly (w : World) (id : String) (ports : List Nat) : Prop :=
  ∀ c ∈ w.containers, c.answersTo id = true →
    ∀ entry ∈ c.publish, entry.1 ∈ ports

def ReadsBack (id : String) (ports : List Nat) :
    (e : Effect) → Except Exn e.Ret → Prop
  | .probe (.dockerPort container _), .ok (some port) =>
      container = id → port ∈ ports
  | _, _ => True

theorem readBackPort_published {id : String} {inner requested : Nat}
    (h : requested ∈ ports) :
    Within (ReadsBack id ports) IsProbe
      (ProcessPodBackend.readBackPort id inner requested)
      fun port => port ∈ ports := by
  unfold ProcessPodBackend.readBackPort
  refine within_bind (within_attempt_ok (Q := fun found : Option Nat =>
    ∀ port, found = some port → port ∈ ports)
    (within_perform (isProbe _) ?_)) fun r hr => ?_
  · rintro _ hreads port rfl
    exact hreads rfl
  · split
    · exact within_pure (hr _ rfl _ rfl)
    · exact within_pure h
    · split
      · exact within_pure h
      · exact within_raise

theorem readBackSshPort_published {id : String} {sshPort : Option Nat}
    (h : ∀ port, sshPort = some port → port ∈ ports) :
    Within (ReadsBack id ports) IsProbe
      (ProcessPodBackend.readBackSshPort id sshPort)
      fun found => ∀ port ∈ found.toList, port ∈ ports := by
  cases sshPort with
  | none => exact within_pure (by simp)
  | some port =>
      rw [ProcessPodBackend.readBackSshPort]
      split
      · rename_i hzero
        exact within_pure (by simpa [hzero] using h port rfl)
      · refine within_bind (readBackPort_published (h port rfl))
          fun actual hactual => ?_
        exact within_pure (by simpa using hactual)

theorem sat_readBack {Q : α → Prop} {id : String}
    (hp : Within (ReadsBack id ports) IsProbe p Q)
    (h : (PortsSound w ∧ w.runtimes = table) ∧ PublishesOnly w id ports) :
    Sat heeding PortGuard p (fun r w' =>
      ((PortsSound w' ∧ w'.runtimes = table) ∧ PublishesOnly w' id ports) ∧
        ∀ a, r = .ok a → Q a) w := by
  refine (Always.sat_keeping (I := fun w => (PortsSound w ∧
    w.runtimes = table) ∧ PublishesOnly w id ports) hp ?_ h).mono ?_
    fun _ _ h => h
  · rintro w₁ e r w₂ h₁ ⟨question, rfl⟩ hstep
    have hwrites : WritesApart w₁ (.probe question) := trivial
    have hafter := h₁.1.1.step (fun _ => hwrites) hstep
    have hseen : PortsSeen w₁ (.probe question) r := hstep.2.1
    obtain ⟨a, -, rfl, rfl⟩ := heeding_refines.answered hstep
    refine ⟨?_, ⟨hafter, h₁.1.2⟩, h₁.2⟩
    cases question with
    | dockerPort container inner =>
        cases hresult :
            (w₁.perform (.probe (.dockerPort container inner)) a).1 with
        | error x => exact trivial
        | ok found =>
            rw [hresult] at hseen
            cases found with
            | none => exact trivial
            | some port =>
                rintro rfl
                obtain ⟨c, hc, hanswers, hentry⟩ := hseen
                exact h₁.2 c hc hanswers _ hentry
    | _ => exact trivial
  · rintro w₁ e ⟨h₁, question, rfl⟩
    exact ⟨h₁.1.1, fun _ => trivial⟩

theorem dockerRun_publishes {command : DockerRun} {error : Exn → Exn}
    (hpublish : ∀ entry ∈ command.publish, entry.1 ∈ ports)
    (h : PortsSound w ∧ w.runtimes = table) :
    Sat heeding PortGuard (orNotAvailable error (dockerRun command))
      (fun r w' => (PortsSound w' ∧ w'.runtimes = table) ∧
        ∀ result, r = .ok result → result.returncode = 0 →
          PublishesOnly w' (strip result.stdout) ports) w := by
  unfold orNotAvailable
  have hwrites : WritesApart w (.dockerRun command) := trivial
  refine sat_step_attempt heeding_refines ⟨h.1, fun _ => hwrites⟩
    fun a hallows hstep => ?_
  have hafter := h.1.step (fun _ => hwrites) hstep
  have htable : (w.answer (.dockerRun command) a).2.runtimes = table :=
    (Aside.runtimes (by trivial) a).trans h.2
  cases hresult : (w.perform (.dockerRun command) a).1 with
  | error x =>
      dsimp only
      split
      · exact ⟨⟨hafter, htable⟩, fun _ heq => nomatch heq⟩
      · exact ⟨⟨hafter, htable⟩, fun _ heq => nomatch heq⟩
  | ok completed =>
      refine ⟨⟨hafter, htable⟩, ?_⟩
      rintro result heq hzero
      cases heq
      have hcreated : a.created = some (strip completed.stdout, true) := by
        simp only [World.perform] at hresult
        simp only [World.allows, hresult, hzero, Bool.and_eq_true] at hallows
        simpa using hallows.1
      obtain ⟨-, -, -, hall⟩ := World.allows_created hallows hcreated
      intro c hc hanswers
      simp only [World.answer, World.perform, hcreated,
        World.withContainer] at hc
      rcases List.mem_append.mp hc with hc | hc
      · rw [(hall c hc).1] at hanswers
        cases hanswers
      · obtain rfl := List.mem_singleton.mp hc
        exact hpublish

/-! ## Starting a pod -/

theorem publish_recorded (image : String) :
    ∀ entry ∈ (ProcessPodBackend.runCommand s runtime image).publish,
      entry.1 ∈ recordedPorts runtime := by
  intro entry hentry
  simp only [ProcessPodBackend.runCommand] at hentry
  rcases List.mem_append.mp hentry with hentry | hentry
  · unfold ProcessPodBackend.sshPublish at hentry
    cases hport : runtime.sshPort with
    | none => simp [hport] at hentry
    | some port =>
        by_cases hzero : port = 0
        · simp [hport, hzero] at hentry
        · simp only [hport, if_neg hzero, List.mem_singleton] at hentry
          simp [recordedPorts, hport, hentry]
  · obtain ⟨allocation, hmem, rfl⟩ := List.mem_map.mp hentry
    refine List.mem_append_right _ ?_
    exact List.mem_map.mpr ⟨allocation, hmem, rfl⟩

structure SamePorts (before after : UnifiedRuntimeRecord) : Prop where
  deploymentId : after.deploymentId = before.deploymentId
  ports : ∀ port ∈ recordedPorts after, port ∈ recordedPorts before

theorem OthersApart.same {before after : UnifiedRuntimeRecord}
    (h : OthersApart table d (recordedPorts before))
    (hsame : SamePorts before after) :
    OthersApart table d (recordedPorts after) :=
  fun b other hb hget hkeeps port hother hport =>
    h b other hb hget hkeeps hother (hsame.ports port hport)

theorem recordedPorts_ssh {port : Nat} (h : runtime.sshPort = some port) :
    port ∈ recordedPorts runtime := by
  simp [recordedPorts, h]

theorem processStartPod_ports (workload : WorkloadSpec)
    (h : PortsSound w ∧ w.runtimes = table) :
    Sat heeding PortGuard (ProcessPodBackend.startPod s runtime workload)
      (fun r w' => (PortsSound w' ∧ w'.runtimes = table) ∧
        ∀ started, r = .ok started → SamePorts runtime started) w := by
  have hplain : AdmitsPlain Plain := fun _ he => he
  have hraised : ∀ (x : Exn) (w' : World),
      PortsSound w' ∧ w'.runtimes = table →
      (PortsSound w' ∧ w'.runtimes = table) ∧
        ∀ started, Except.error x = .ok started → SamePorts runtime started :=
    fun _ _ h => ⟨h, fun _ heq => nomatch heq⟩
  unfold ProcessPodBackend.startPod
  refine Sat.bind (sat_plainly (removeContainer_calls hplain _ _) h)
    (fun _ w₁ h₁ => ?_) fun x w₁ h₁ => hraised x w₁ h₁.1
  refine Sat.bind (sat_plainly (within_onlyIf fun _ =>
    probe_within hplain.probe _) h₁.1)
    (fun _ w₂ h₂ => ?_) fun x w₂ h₂ => hraised x w₂ h₂.1
  split
  · exact hraised _ w₂ h₂.1
  · refine Sat.bind (dockerRun_publishes (publish_recorded _) h₂.1)
      (fun result w₃ h₃ => ?_) fun x w₃ h₃ => hraised x w₃ h₃.1
    split
    · exact hraised _ w₃ h₃.1
    · rename_i hzero
      have hpublishes := h₃.2 result rfl (not_not.mp hzero)
      refine Sat.bind (sat_readBack (readBackSshPort_published
        fun port hport => recordedPorts_ssh hport) ⟨h₃.1, hpublishes⟩)
        (fun sshPort w₄ h₄ => ?_) fun x w₄ h₄ => hraised x w₄ h₄.1.1
      refine Sat.bind (sat_plainly (verifyPorts_within hplain.probe _ _)
        h₄.1.1) (fun mappings w₅ h₅ => ?_) fun x w₅ h₅ => hraised x w₅ h₅.1
      refine ⟨h₅.1, ?_⟩
      rintro started heq
      cases heq
      refine ⟨rfl, fun port hport => ?_⟩
      rcases List.mem_append.mp hport with hport | hport
      · exact h₄.2 sshPort rfl port hport
      · exact List.mem_append_right _ hport

theorem startPod_ports (workload : WorkloadSpec)
    (h : PortsSound w ∧ w.runtimes = table) :
    Sat heeding PortGuard (PodBackend.startPod s runtime workload)
      (fun r w' => (PortsSound w' ∧ w'.runtimes = table) ∧
        ∀ started, r = .ok started → SamePorts runtime started) w := by
  unfold PodBackend.startPod
  split
  · exact processStartPod_ports workload h
  · refine ⟨h, ?_⟩
    rintro started heq
    cases heq
    exact ⟨rfl, fun _ hport => hport⟩

theorem write_ports (h : PortsSound w)
    (hothers : SuspendsApart w (.upsertRuntime runtime) →
      OthersApart w.runtimes runtime.deploymentId (recordedPorts runtime)) :
    Sat heeding PortGuard (upsertRuntime runtime) (fun _ => PortsSound) w := by
  have hwrites : SuspendsApart w (.upsertRuntime runtime) →
      WritesApart w (.upsertRuntime runtime) :=
    fun hsuspends _ => hothers hsuspends
  refine sat_step_perform heeding_refines ⟨h, hwrites⟩ fun a _ hstep => ?_
  exact h.step hwrites hstep

theorem launchPod_ports (workload : WorkloadSpec) (setup : PodSetup)
    (h : PortsSound w)
    (hothers : OthersApart w.runtimes runtime.deploymentId
      (recordedPorts (startingPod s runtime workload setup))) :
    Sat heeding PortGuard (launchPod s runtime workload setup)
      (fun _ => PortsSound) w := by
  unfold launchPod
  have hid : (startingPod s runtime workload setup).deploymentId =
      runtime.deploymentId := rfl
  have hstatus : (startingPod s runtime workload setup).status = .starting :=
    rfl
  generalize startingPod s runtime workload setup = starting at *
  have hwrites : WritesApart w (.upsertRuntime starting) := fun hkeeps => by
    simp [KeepsPorts, hstatus] at hkeeps
  refine sat_step_bind heeding_refines ⟨h, fun _ => hwrites⟩
    fun a _ hstep => ?_
  have hafter := h.step (fun _ => hwrites) hstep
  have hothers' : OthersApart
      (w.answer (.upsertRuntime starting) a).2.runtimes
      starting.deploymentId (recordedPorts starting) := by
    rw [hid]
    exact hothers.upsert hid
  generalize (w.answer (.upsertRuntime starting) a).2 = w₁ at hafter hothers'
  cases (w.perform (.upsertRuntime starting) a).1 with
  | error x => exact hafter
  | ok u =>
      refine sat_bind'.mpr (sat_attempt.mpr ((startPod_ports workload
        ⟨hafter, rfl⟩).weaken fun r w₂ h₂ => ?_))
      rw [andThen_ok]
      obtain ⟨⟨hsound, htable⟩, hstarted⟩ := h₂
      cases r with
      | error x =>
          split
          · rename_i heq
            cases heq
          · exact keeps_failRuntime _ w₂ hsound
          · exact hsound
      | ok started =>
          have hsame := hstarted started rfl
          refine Sat.bind (sat_plainly (waitForReady_within
            (fun _ => trivial) _ _) ⟨hsound, htable⟩)
            (fun verified w₃ h₃ => ?_) fun x w₃ h₃ => h₃.1.1
          refine Sat.bind (write_ports h₃.1.1 fun _ => ?_)
            (fun _ w₄ h₄ => keeps_report _ w₄ h₄) fun x w₄ h₄ => h₄
          have hready : SamePorts starting (readyPod started verified) :=
            ⟨hsame.deploymentId, hsame.ports⟩
          rw [h₃.1.2, hready.deploymentId]
          exact hothers'.same hready

theorem startPodRuntime_ports (workload : WorkloadSpec) (h : PortsSound w) :
    Sat heeding PortGuard (startPodRuntime s runtime workload)
      (fun _ => PortsSound) w := by
  unfold startPodRuntime
  refine sat_bind'.mpr (sat_attempt.mpr ((sat_offered setUpSsh_unnamed
    ⟨h, rfl⟩).weaken fun r w₁ h₁ => ?_))
  rw [andThen_ok]
  cases r with
  | error x =>
      dsimp only
      split
      · exact keeps_failRuntime _ w₁ h₁.1.1
      · exact h₁.1.1
  | ok ssh =>
      obtain ⟨sshPort, privateKey, publicKey⟩ := ssh
      have hssh := h₁.2 _ rfl
      refine Sat.bind (sat_offered (assignPorts_unnamed _ [] (by simp)) h₁.1)
        (fun ports w₂ h₂ => ?_) fun x w₂ h₂ => h₂.1.1
      have hports := h₂.2 ports rfl
      refine Sat.bind (allocateOrFail_ports _ h₂.1)
        (fun allocated w₃ h₃ => ?_) fun x w₃ h₃ => h₃.1
      cases allocated with
      | none => exact h₃.1
      | some devices =>
          have htable := h₃.2 devices rfl
          dsimp only
          split
          · exact h₃.1
          · rename_i sizeGb _
            have hcreate : Within (fun _ _ => True) Aside
                (createVolume (volumeFor s runtime sizeGb))
                fun _ => True :=
              within_perform (by trivial) fun _ _ => trivial
            refine sat_bind'.mpr (sat_attempt.mpr ((sat_aside hcreate
              (fun _ he => he) (fun _ _ _ _ _ _ => trivial)
              ⟨h₃.1, htable⟩).weaken fun r w₄ h₄ => ?_))
            rw [andThen_ok]
            cases r with
            | error x =>
                dsimp only
                split
                · exact keeps_failRuntime _ w₄ h₄.1.1
                · exact h₄.1.1
            | ok u =>
                refine Sat.bind (sat_plainly (within_perform (by trivial)
                  fun _ _ => trivial) h₄.1) (fun _ w₅ h₅ => ?_)
                  fun x w₅ h₅ => h₅.1.1
                refine launchPod_ports workload _ h₅.1.1 ?_
                rw [h₅.1.2]
                refine othersApart_of_unnamed fun port hport => ?_
                rcases List.mem_append.mp hport with hport | hport
                · have heq : some sshPort = some port :=
                    Option.mem_toList.mp hport
                  cases heq
                  exact hssh
                · obtain ⟨entry, hentry, rfl⟩ := List.mem_map.mp hport
                  exact hports entry hentry

/-! ## Suspending and resuming a pod -/

theorem pausedOrMarked_ports (hkind : runtime.workloadKind = .pod) :
    Within (fun _ _ => True) Plain (pausedOrMarked s runtime) fun paused =>
      SamePorts runtime paused ∧ paused.workloadKind = .pod ∧
        paused.status = .suspended := by
  have hpause : Within (fun _ _ => True) Plain (pauseBackend s runtime)
      fun paused => SamePorts runtime paused ∧ paused.workloadKind = .pod ∧
        paused.status = .suspended := by
    simp only [pauseBackend, hkind]
    unfold PodBackend.pausePod
    split
    · unfold ProcessPodBackend.pausePod
      refine within_bind (within_onlyIf fun _ =>
        stopContainer_calls (fun _ he => he) _ _) fun _ _ => ?_
      exact within_pure ⟨⟨rfl, fun _ hport => hport⟩, hkind, rfl⟩
    · exact within_pure ⟨⟨rfl, fun _ hport => hport⟩, hkind, rfl⟩
  unfold pausedOrMarked
  refine within_bind (within_attempt_ok hpause) fun r hr => ?_
  split
  · exact within_pure (hr _ rfl)
  · exact within_pure ⟨⟨rfl, fun _ hport => hport⟩, hkind, rfl⟩

/-- A pod that was ready keeps what is its own; one that was starting is
suspended with ports of its own by assumption. -/
theorem suspendRuntime_ports (h : PortsSound w)
    (hget : w.runtimes.get? runtime.deploymentId = some runtime)
    (hstatus : runtime.status = .ready ∨ runtime.status = .starting) :
    Sat heeding PortGuard (suspendRuntime s runtime) (fun _ => PortsSound)
      w := by
  unfold suspendRuntime
  refine Sat.bind (sat_plainly (plain_calls (e := .release _)
    (fun _ he => he) trivial) ⟨h, rfl⟩)
    (fun _ w₁ h₁ => ?_) fun x w₁ h₁ => h₁.1.1
  by_cases hkind : runtime.workloadKind = .pod
  · refine Sat.bind (sat_plainly (pausedOrMarked_ports hkind) h₁.1)
      (fun paused w₂ h₂ => ?_) fun x w₂ h₂ => h₂.1.1
    obtain ⟨hsame, hpaused, hsuspended⟩ := h₂.2 paused rfl
    refine Sat.bind (write_ports h₂.1.1 fun hsuspends => ?_)
      (fun _ w₃ h₃ => keeps_report _ w₃ h₃) fun x w₃ h₃ => h₃
    rcases hstatus with hready | hstarting
    · have hothers := h.1.others hget ⟨hkind, .inl hready⟩
      rw [h₂.1.2, hsame.deploymentId]
      exact hothers.same hsame
    · refine hsuspends hpaused hsuspended runtime ?_ hstarting
      rw [h₂.1.2, hsame.deploymentId, hget]
  · refine Sat.bind (sat_backend (Within.backend (pausedOrMarked_stops (s := s)
      (Ledger.belongs_any runtime))) h₁.1)
      (fun paused w₂ h₂ => ?_) fun x w₂ h₂ => h₂.1.1
    obtain ⟨-, hkept, -⟩ := h₂.2 paused rfl
    have hpaused : ¬KeepsPorts paused := fun hkeeps =>
      hkind (hkept.workloadKind.symm.trans hkeeps.1)
    refine Sat.bind (keeps_write hpaused w₂ h₂.1.1)
      (fun _ w₃ h₃ => keeps_report _ w₃ h₃) fun x w₃ h₃ => h₃

theorem resumePod_ports :
    Within (fun _ _ => True) Plain (PodBackend.resumePod s runtime)
      (SamePorts runtime) := by
  have hplain : AdmitsPlain Plain := fun _ he => he
  unfold PodBackend.resumePod
  split
  · unfold ProcessPodBackend.resumePod
    refine within_bind (Q := fun _ => True) ?_
      fun _ _ => within_pure ⟨rfl, fun _ hport => hport⟩
    unfold ProcessPodBackend.restartContainer
    split
    · refine within_bind (orNotAvailable_within (plain_calls hplain trivial))
        fun result _ => ?_
      split
      · exact within_raise
      · exact within_pure trivial
    · exact within_pure trivial
  · exact within_pure ⟨rfl, fun _ hport => hport⟩

theorem resumePodRuntime_ports (h : PortsSound w)
    (hothers : OthersApart w.runtimes runtime.deploymentId
      (recordedPorts runtime)) :
    Sat heeding PortGuard (resumePodRuntime s runtime) (fun _ => PortsSound)
      w := by
  unfold resumePodRuntime
  refine sat_bind'.mpr (sat_attempt.mpr ((sat_plainly resumePod_ports
    ⟨h, rfl⟩).weaken fun r w₁ h₁ => ?_))
  rw [andThen_ok]
  obtain ⟨⟨hsound, htable⟩, hresumed⟩ := h₁
  rw [← htable] at hothers
  split
  · rename_i resumed
    have hsame := hresumed resumed rfl
    refine Sat.bind (write_ports hsound fun _ => ?_)
      (fun _ w₂ h₂ => keeps_report _ w₂ h₂) fun x w₂ h₂ => h₂
    rw [hsame.deploymentId]
    exact hothers.same hsame
  · refine Sat.bind (sat_plainly (plain_calls (e := .release _)
      (fun _ he => he) trivial) ⟨hsound, rfl⟩)
      (fun _ w₂ h₂ => ?_) fun x w₂ h₂ => h₂.1.1
    refine write_ports h₂.1.1 fun _ => ?_
    rw [h₂.1.2]
    exact hothers
  · exact hsound

theorem resumeRuntime_ports (h : PortsSound w)
    (hget : w.runtimes.get? runtime.deploymentId = some runtime)
    (hstatus : runtime.status = .suspended) :
    Sat heeding PortGuard (resumeRuntime s runtime) (fun _ => PortsSound)
      w := by
  unfold resumeRuntime
  refine sat_bind'.mpr (sat_attempt.mpr ((sat_plainly (reacquire_calls
    fun _ he => he) ⟨h, rfl⟩).weaken fun r w₁ h₁ => ?_))
  rw [andThen_ok]
  cases r with
  | error x =>
      dsimp only
      split
      · exact h₁.1.1
      · exact h₁.1.1
  | ok devices =>
      dsimp only
      split
      · rename_i hkind
        refine resumePodRuntime_ports h₁.1.1 ?_
        have hothers := h.1.others hget ⟨hkind, .inr hstatus⟩
        rw [h₁.1.2]
        exact hothers
      · exact keeps_redispatch (by assumption) w₁ h₁.1.1

/-! ## Whole requests -/

theorem keeps_startLease (lease : LeaseAssignment) :
    KeepsSound (startLease s lease) := by
  have hdispatch : ∀ {runtime : UnifiedRuntimeRecord}
      {workload : WorkloadSpec}, runtime.workloadKind = workload.kind →
      KeepsSound (dispatch s runtime workload) := by
    intro runtime workload hkind
    unfold dispatch
    split
    · rename_i hinference
      exact keeps_startInferenceRuntime (hkind.trans hinference) workload
    · exact fun _ h => startPodRuntime_ports workload h
    · rename_i hvm
      exact keeps_startVmRuntime (by simp [hkind, hvm]) workload
    · exact keeps_failRuntime _
  have hreconcile : KeepsSound (reconcileWorkload s lease) := by
    unfold reconcileWorkload
    refine keeps_bind (keeps_call fun _ => trivial) fun found => ?_
    split
    · exact keeps_call fun _ => trivial
    · refine keeps_bind (keeps_write fun hkeeps => ?_)
        fun _ => hdispatch (by rfl)
      simp [KeepsPorts, acceptedRuntime] at hkeeps
  unfold startLease
  refine keeps_bind (keeps_attempt hreconcile) fun r => ?_
  split
  · exact keeps_pure _
  · exact keeps_ignoring (keeps_call fun _ => trivial)

theorem keeps_handleLease (lease : LeaseAssignment) :
    KeepsSound (handleLease s lease) := by
  intro w h
  unfold handleLease
  have hwrites : WritesApart w (.getRuntime lease.deploymentId) := trivial
  refine sat_step_bind heeding_refines ⟨h, fun _ => hwrites⟩
    fun a _ hstep => ?_
  have hafter := h.step (fun _ => hwrites) hstep
  have hretry : ∀ existing, KeepsSound (do
      terminateRuntime s existing false
      removeRuntime lease.deploymentId
      startLease s lease) := fun existing =>
    keeps_bind (keeps_terminateRuntime false) fun _ =>
      keeps_bind (keeps_call fun _ => trivial) fun _ => keeps_startLease lease
  simp only [World.perform, andThen_ok]
  cases hget : w.runtimes.get? lease.deploymentId with
  | none =>
      dsimp only
      split
      · exact hafter
      · exact keeps_startLease lease _ hafter
  | some existing =>
      have hexisting : w.runtimes.get? existing.deploymentId =
          some existing := by
        rw [Table.key_of_get? hget]
        exact hget
      dsimp only
      split
      · split
        · exact suspendRuntime_ports hafter hexisting (.inl (by assumption))
        · exact suspendRuntime_ports hafter hexisting (.inr (by assumption))
        · exact hafter
      · split
        · exact resumeRuntime_ports hafter hexisting (by assumption)
        · exact hretry existing _ hafter
        · exact hretry existing _ hafter
        all_goals exact hafter

theorem request_ports (request : Request) :
    KeepsSound (request.program s) := by
  refine keeps_request (fun e he => keeps_call fun w => ?_)
    (fun _ _ => keeps_terminateRuntime _) (fun _ => ?_) heeding_refines
    keeps_handleLease request
  · cases e <;> first | exact trivial | exact he.elim
  · exact keeps_bind (keeps_terminateRuntime _) fun _ =>
      keeps_call fun _ => trivial

/--
In every run whose starts are only offered ports that no ready or suspended
pod names, and whose pods that were still starting are suspended with ports
of their own, ready and suspended pods name disjoint host ports.
-/
theorem ports_apart (h : CrashRun s heeding w) : PortsSound w := by
  refine h.keeps init_portsSound (fun request w _ => request_ports request w)
    (fun w e hguard => ?_) fun w hsound => hsound.restart
  exact hguard.1

/-! ## Two pods -/

def isPublished (w : World) (port : Nat) : Bool :=
  w.containers.any fun c => c.running && c.publish.any (·.1 = port)

theorem isPublished_iff {port : Nat} :
    isPublished w port = true ↔ Published w port := by
  simp [isPublished, Published]

def publishing (leases : List LeaseAssignment) : Environment :=
  fun w e => match e with
    | .probe (.chooseFreePort start stop) =>
        match (List.range' start (stop - start)).find? (!isPublished w ·) with
        | some port => { result := .ok port }
        | none => { result := .error (.unexpected "no free port") }
    | .probe (.isPortFree port) => { result := .ok (!isPublished w port) }
    | .probe (.dockerPort container inner) => {
        result := .ok do
          let c ← w.containers.find? (·.answersTo container)
          let entry ← c.publish.find? (·.2 = inner)
          pure entry.1 }
    | e => podHost leases w e

theorem publishing_seen (leases : List LeaseAssignment) :
    PortsSeen w e (w.perform e (publishing leases w e)).1 := by
  cases e with
  | probe question =>
      cases question with
      | chooseFreePort start stop =>
          simp only [World.perform, publishing]
          split
          · rename_i port hfind
            have hfree : isPublished w port = false := by
              simpa using List.find?_some hfind
            simp [PortsSeen, ← isPublished_iff, hfree]
          · exact trivial
      | isPortFree port =>
          simp [World.perform, publishing, PortsSeen, ← isPublished_iff]
      | dockerPort container inner =>
          simp only [World.perform, publishing]
          cases hfind : w.containers.find? (·.answersTo container) with
          | none => exact trivial
          | some c =>
              cases hentry : c.publish.find? (·.2 = inner) with
              | none => simp [PortsSeen, hentry]
              | some entry =>
                  simp only [Option.bind_eq_bind, Option.bind_some, hentry]
                  have hanswers : c.answersTo container = true := by
                    simpa using List.find?_some hfind
                  refine ⟨c, List.mem_of_find?_eq_some hfind, hanswers, ?_⟩
                  have hinner : entry.2 = inner := by
                    simpa using List.find?_some hentry
                  rw [← hinner]
                  exact List.mem_of_find?_eq_some hentry
      | _ => exact trivial
  | _ => exact trivial

theorem publishing_follows (leases : List LeaseAssignment) :
    Follows portHost (publishing leases) fun _ _ => true :=
  fun _ _ _ hallows => ⟨publishing_seen leases, trivial, _, hallows, rfl⟩

def namesPort (w : World) (port : Nat) : Bool :=
  w.runtimes.snapshot.any fun other =>
    decide (KeepsPorts other) && decide (port ∈ recordedPorts other)

/-- The calls whose answers heed the records, as far as they are suspends of
nothing that was starting. -/
def heeds (leases : List LeaseAssignment) (w : World) : Effect → Bool
  | .probe (.chooseFreePort start stop) =>
      match (publishing leases w (.probe (.chooseFreePort start stop))).result
      with
      | .ok port => !namesPort w port
      | .error _ => true
  | .probe (.isPortFree port) => !namesPort w port
  | .upsertRuntime runtime => runtime.status ≠ .suspended
  | _ => true

theorem unnamed_of_namesPort {port : Nat} (h : namesPort w port = false) :
    Unnamed w.runtimes port := by
  intro b other hget hkeeps hport
  have hmem : other ∈ w.runtimes.snapshot := by
    rw [Table.mem_snapshot_iff, Table.key_of_get? hget]
    exact hget
  simp only [namesPort, List.any_eq_false, Bool.and_eq_true,
    decide_eq_true_eq] at h
  exact h other hmem ⟨hkeeps, hport⟩

theorem publishing_heeding (leases : List LeaseAssignment) :
    Follows heeding (publishing leases) (heeds leases) := by
  intro w e hchecks hallows
  refine ⟨⟨?_, ?_⟩, publishing_follows leases w e rfl hallows⟩
  · cases e with
    | probe question =>
        cases question with
        | chooseFreePort start stop =>
            simp only [heeds] at hchecks
            simp only [World.answer, World.perform]
            split at hchecks
            · rename_i port hport
              rw [hport]
              exact unnamed_of_namesPort (by simpa using hchecks)
            · rename_i x hx
              rw [hx]
              exact trivial
        | isPortFree port =>
            intro _
            exact unnamed_of_namesPort (by simpa [heeds] using hchecks)
        | _ => exact trivial
    | _ => exact trivial
  · cases e with
    | upsertRuntime runtime =>
        intro _ hsuspended
        simp [heeds, hsuspended] at hchecks
    | _ => exact trivial

def bothStarted : Agent Unit × World :=
  replayFor (publishing [leaseOn "pod-1", leaseOn "pod-2"])
    (heeds [leaseOn "pod-1", leaseOn "pod-2"]) 100
    (reconcileOnce { gpuCount := 2 } "hotkey") (.init { gpuCount := 2 })

theorem ports_apart_bothStarted : ∃ first second,
    bothStarted.2.runtimes.get? "pod-1" = some first ∧
    bothStarted.2.runtimes.get? "pod-2" = some second ∧
    KeepsPorts first ∧ KeepsPorts second ∧
    recordedPorts first ≠ [] ∧ recordedPorts second ≠ [] ∧
    List.Disjoint (recordedPorts first) (recordedPorts second) := by
  have hexec : Exec heeding (reconcileOnce { gpuCount := 2 } "hotkey")
      (.init { gpuCount := 2 }) (.ok ()) bothStarted.2 :=
    replayFor_exec (publishing_heeding _) 100 rfl
  have hsound := ports_apart (.serve .boot (.reconcile "hotkey") hexec)
  have hfirst : KeepsPorts ((bothStarted.2.runtimes.get? "pod-1").get rfl) :=
    by decide +kernel
  have hsecond : KeepsPorts ((bothStarted.2.runtimes.get? "pod-2").get rfl) :=
    by decide +kernel
  exact ⟨_, _, rfl, rfl, hfirst, hsecond, by decide +kernel,
    by decide +kernel,
    hsound.1 "pod-1" "pod-2" _ _ (by decide) rfl rfl hfirst hsecond⟩

def firstStarted : Agent Unit × World :=
  replayFor (publishing [leaseOn "pod-1"]) (fun _ _ => true) 100
    (reconcileOnce {} "hotkey") (.init {})

def otherStarted : Agent Unit × World :=
  replayFor (publishing [suspendedLease "pod-1", leaseOn "pod-2"])
    (fun _ _ => true) 100 (reconcileOnce {} "hotkey") firstStarted.2

/-- The container of the suspended pod publishes nothing in the meantime. -/
theorem suspended_port_given_away : ∃ w,
    CrashRun {} portHost w ∧ ¬PortsApart w.runtimes := by
  have hfirst : Exec portHost (reconcileOnce {} "hotkey") (.init {}) (.ok ())
      firstStarted.2 := replayFor_exec (publishing_follows _) 100 rfl
  have hother : Exec portHost (reconcileOnce {} "hotkey") firstStarted.2
      (.ok ()) otherStarted.2 := replayFor_exec (publishing_follows _) 100 rfl
  refine ⟨_, .serve (.serve .boot (.reconcile "hotkey") hfirst)
    (.reconcile "hotkey") hother, fun hapart => ?_⟩
  have hsuspended :
      KeepsPorts ((otherStarted.2.runtimes.get? "pod-1").get rfl) := by
    decide +kernel
  have hready : KeepsPorts ((otherStarted.2.runtimes.get? "pod-2").get rfl) :=
    by decide +kernel
  have hport : 30000 ∈
      recordedPorts ((otherStarted.2.runtimes.get? "pod-1").get rfl) := by
    decide +kernel
  have hport' : 30000 ∈
      recordedPorts ((otherStarted.2.runtimes.get? "pod-2").get rfl) := by
    decide +kernel
  exact hapart "pod-1" "pod-2" _ _ (by decide) rfl rfl hsuspended hready
    hport hport'

end NodeAgent
