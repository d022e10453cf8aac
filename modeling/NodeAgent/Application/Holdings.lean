import NodeAgent.Application.Ownership
import NodeAgent.Application.Repertoire

/-!
# What a deployment keeps on disk

A volume or a file that the agent makes for a deployment is made while the
deployment has a record, and has to be gone when the record is spent.  The part
of the argument that does not depend on what is kept.
-/

namespace NodeAgent

open Effectful Program Agent

/-- Something on disk that belongs to a deployment. -/
structure Holding where
  has : World → String → Prop
  /-- The deployment that the call may make one for. -/
  madeBy : Effect → Option String
  /-- Statuses of a record whose deployment must have none. -/
  spent : RuntimeStatus → Bool
  accepted : spent .accepted = false
  kept : ∀ (w : World) (e : Effect) (a : Answer e) d,
    has (w.answer e a).2 d → has w d ∨ madeBy e = some d
  restarted : ∀ s (w : World) d, has (w.restart s) d → has w d
  empty : ∀ s d, ¬has (.init s) d
  plain : ∀ e, Plain e → madeBy e = none
  run : ∀ command, madeBy (.dockerRun command) = none
  write : ∀ runtime, madeBy (.upsertRuntime runtime) = none
  remove : ∀ d, madeBy (.removeRuntime d) = none

namespace Holding

variable (H : Holding)

/-- The table has a record of the deployment that is not spent. -/
def Backs (table : RuntimeTable) (d : String) : Prop :=
  ∃ runtime, table.get? d = some runtime ∧ H.spent runtime.status = false

def Live (w : World) (d : String) : Prop :=
  H.Backs w.runtimes d ∧ H.Backs w.stateFile d

/-- Whatever is there belongs to a deployment with a record that is not spent. -/
def Covered (w : World) : Prop := ∀ d, H.has w d → H.Live w d

/-- The call leaves nothing behind that no record backs. -/
def Harmless (w : World) : Effect → Prop
  | .upsertRuntime runtime =>
      H.spent runtime.status = true → ¬H.has w runtime.deploymentId
  | .removeRuntime d => ¬H.has w d
  | e => ∀ d, H.madeBy e = some d → H.Live w d

/-- Calls that make nothing and end no record by a teardown. -/
def Tame (e : Effect) : Prop :=
  H.madeBy e = none ∧ (∀ d, e ≠ .removeRuntime d) ∧
    ∀ runtime, e = .upsertRuntime runtime → runtime.status ≠ .terminated

end Holding

open Holding

variable {H : Holding} {s : Settings} {w w' : World} {e : Effect}
variable {r : Except Exn e.Ret} {d : String} {runtime : UnifiedRuntimeRecord}

/-! ## One call -/

theorem Holding.Backs.upsert {table : RuntimeTable} (h : H.Backs table d)
    (hlive : runtime.deploymentId = d → H.spent runtime.status = false) :
    H.Backs (table.upsert runtime) d := by
  unfold Backs at h ⊢
  rw [Table.get?_upsert]
  split
  · exact ⟨runtime, rfl, hlive (by assumption)⟩
  · exact h

theorem Holding.Backs.remove {table : RuntimeTable} (h : H.Backs table d)
    {b : String} (hne : b ≠ d) : H.Backs (table.remove b) d := by
  unfold Backs at h ⊢
  rw [Table.get?_remove, if_neg hne]
  exact h

theorem backs_saved {table : RuntimeTable} {ok : Bool} (h : H.Live w d)
    (htable : H.Backs table d) : H.Live (w.saved table ok) d := by
  refine ⟨htable, ?_⟩
  cases ok with
  | true => exact htable
  | false => exact h.2

theorem live_answer (h : H.Live w d)
    (hwrite : ∀ runtime, e = .upsertRuntime runtime →
      runtime.deploymentId = d → H.spent runtime.status = false)
    (hremove : e ≠ .removeRuntime d) (a : Answer e) :
    H.Live (w.answer e a).2 d := by
  by_cases hbooks : World.touchesBooks e = false
  · obtain ⟨hruntimes, hfile, -, -⟩ := World.perform_books hbooks w a
    unfold Live at h ⊢
    simp only [World.answer, hruntimes, hfile]
    exact h
  · cases e with
    | upsertRuntime runtime =>
        exact backs_saved h (h.1.upsert (hwrite runtime rfl))
    | removeRuntime b =>
        exact backs_saved h (h.1.remove fun heq => hremove (by rw [heq]))
    | _ => first | exact h | exact absurd rfl hbooks

theorem live_written {a : Answer (.upsertRuntime runtime)} {u : Unit}
    (hok : (w.perform (.upsertRuntime runtime) a).1 = .ok u)
    (hstatus : H.spent runtime.status = false) :
    H.Live (w.answer (.upsertRuntime runtime) a).2 runtime.deploymentId := by
  have hresult : World.isOk a.result = true := by
    simp only [World.perform] at hok
    rw [hok]
    rfl
  have hbacks : H.Backs (w.runtimes.upsert runtime) runtime.deploymentId :=
    ⟨runtime, by simp [Table.get?_upsert], hstatus⟩
  refine ⟨hbacks, ?_⟩
  simp only [World.answer, World.perform, World.saved, hresult, if_true]
  exact hbacks

theorem covered_answer (h : H.Covered w) (he : H.Harmless w e)
    (a : Answer e) : H.Covered (w.answer e a).2 := by
  intro b hb
  rcases H.kept w e a b hb with hhas | hmade
  · refine live_answer (h b hhas) ?_ ?_ a
    · rintro runtime rfl rfl
      by_contra hspent
      exact he (by simpa using hspent) hhas
    · rintro rfl
      exact he hhas
  · have hlive : H.Live w b := by
      cases e with
      | upsertRuntime runtime => rw [H.write] at hmade; cases hmade
      | removeRuntime c => rw [H.remove] at hmade; cases hmade
      | _ => exact he b hmade
    refine live_answer hlive ?_ ?_ a
    · rintro runtime rfl
      rw [H.write] at hmade
      cases hmade
    · rintro rfl
      rw [H.remove] at hmade
      cases hmade

theorem init_covered : H.Covered (.init s) :=
  fun d h => absurd h (H.empty s d)

theorem Holding.Covered.restart (h : H.Covered w) :
    H.Covered (w.restart s) := by
  intro d hd
  have hfile := (h d (H.restarted s w d hd)).2
  exact ⟨hfile, hfile⟩

/-! ## Prudent runs -/

/--
A machine that goes by a condition.  What it says of a failed runtime: its
deployment has nothing that a failure would leave behind.
-/
structure Prudent (H : Holding) (M : Machine Effect Effect.Ret Exn World)
    (cond : World → Effect → Prop) : Prop where
  refines : Refines M
  meets : ∀ w e r w', M.Step w e r w' → cond w e
  failing : ∀ w (runtime : UnifiedRuntimeRecord),
    cond w (.upsertRuntime runtime) → runtime.status ≠ .terminated →
    H.spent runtime.status = true → ¬H.has w runtime.deploymentId

/-- Everything there is covered, and the call, if it is made, keeps it so. -/
def Guarded (H : Holding) (cond : World → Effect → Prop) (w : World)
    (e : Effect) : Prop :=
  H.Covered w ∧ (cond w e → H.Harmless w e)

variable {M : Machine Effect Effect.Ret Exn World}
variable {cond : World → Effect → Prop} {α : Type} {p : Agent α}

section Prudent

variable (hM : Prudent H M cond)
include hM

theorem Prudent.harmless_of_tame (he : H.Tame e) (hcond : cond w e) :
    H.Harmless w e := by
  cases e with
  | upsertRuntime runtime =>
      exact hM.failing w runtime hcond (he.2.2 runtime rfl)
  | removeRuntime b => exact absurd rfl (he.2.1 b)
  | _ => exact fun b hb => by rw [he.1] at hb; cases hb

theorem Prudent.step (h : H.Covered w) (he : cond w e → H.Harmless w e)
    (hstep : M.Step w e r w') : H.Covered w' := by
  have hharmless := he (hM.meets w e r w' hstep)
  obtain ⟨a, -, -, rfl⟩ := hM.refines.answered hstep
  exact covered_answer h hharmless a

theorem keeps_tame (hp : Within (fun _ _ => True) H.Tame p fun _ => True) :
    Keeps M (Guarded H cond) H.Covered p :=
  keeps_of_always hp
    (fun _ _ h he => ⟨h, fun hcond => hM.harmless_of_tame he hcond⟩)
    fun _ _ _ _ h he hstep =>
      ⟨trivial, hM.step h (fun hcond => hM.harmless_of_tame he hcond) hstep⟩

theorem keeps_tame_call (he : H.Tame e) :
    Keeps M (Guarded H cond) H.Covered (perform e) :=
  keeps_tame hM (within_perform he fun _ _ => trivial)

omit hM in
theorem tame_of_plain (he : Plain e) : H.Tame e := by
  refine ⟨H.plain e he, ?_, ?_⟩
  · rintro d rfl
    exact he
  · rintro runtime rfl
    exact he.elim

omit hM in
theorem tame_repertoire : Repertoire H.Tame := by
  refine ⟨fun e he => tame_of_plain he, fun runtime hstatus => ?_⟩
  refine ⟨H.write runtime, by simp, fun runtime' heq => ?_⟩
  cases heq
  exact hstatus

omit hM in
theorem tame_pods : LaunchesPods s H.Tame :=
  fun _ _ => ⟨H.run _, by simp, by simp⟩

omit hM in
theorem tame_inference : LaunchesInference s H.Tame :=
  fun _ _ _ _ => ⟨H.run _, by simp, by simp⟩

theorem keeps_plain (hp : Within (fun _ _ => True) Plain p fun _ => True) :
    Keeps M (Guarded H cond) (fun w => H.Covered w ∧ H.Live w d) p := by
  refine keeps_of_always hp (fun _ _ h he =>
    ⟨h.1, hM.harmless_of_tame (tame_of_plain he)⟩) ?_
  intro w e r w' h he hstep
  refine ⟨trivial, hM.step h.1
    (hM.harmless_of_tame (tame_of_plain he)) hstep, ?_⟩
  obtain ⟨a, -, -, rfl⟩ := hM.refines.answered hstep
  refine live_answer h.2 ?_ ?_ a
  · rintro runtime rfl
    exact he.elim
  · rintro rfl
    exact he

def RemovesContainers (M : Machine Effect Effect.Ret Exn World) : Prop :=
  ∀ w owner target x w', M.Step w (.dockerRm owner target) (.error x) w' →
    x.isMissingOrTimeout = true

theorem removeContainer_covered (hrm : RemovesContainers M)
    (owner target : String) (h : H.Covered w) :
    Sat M (Guarded H cond) (removeContainer owner target)
      (fun r w' => r = .ok () ∧ H.Covered w') w := by
  have htame := hM.harmless_of_tame (w := w)
    (tame_of_plain (e := .dockerRm owner target) trivial)
  refine sat_ignoring.mpr (sat_bind'.mpr ⟨⟨h, htame⟩, fun r w' hstep => ?_⟩)
  have hafter := hM.step h htame hstep
  cases r with
  | ok completed => exact ⟨rfl, hafter⟩
  | error x =>
      have hmissing := hrm _ _ _ x _ hstep
      simpa [hmissing] using hafter

theorem allocateOrFail_covered (gpuCount : Int)
    (h : H.Covered w ∧ H.Live w d) :
    Sat M (Guarded H cond) (allocateOrFail runtime gpuCount)
      (fun r w' => H.Covered w' ∧
        ∀ devices, r = .ok (some devices) → H.Live w' d) w := by
  unfold allocateOrFail
  refine Sat.bind (keeps_plain hM (foreignBusyDevices_within
    (fun _ => trivial) trivial) w h) (fun avoid w₁ h₁ => ?_)
    fun x w₁ h₁ => ⟨h₁.1, by simp⟩
  refine Sat.bind (keeps_attempt (keeps_plain hM
    (within_perform (by trivial) fun _ _ => trivial)) w₁ h₁)
    (fun result w₂ h₂ => ?_) fun x w₂ h₂ => ⟨h₂.1, by simp⟩
  split
  · exact ⟨h₂.1, fun _ _ => h₂.2⟩
  · split
    · refine Sat.bind (keeps_tame hM (failRuntime_calls tame_repertoire _)
        w₂ h₂.1) (fun _ w₃ h₃ => ?_) fun x w₃ h₃ => ⟨h₃, by simp⟩
      exact ⟨h₃, fun _ heq => nomatch heq⟩
    · exact ⟨h₂.1, fun _ heq => nomatch heq⟩

theorem startLease_keeps
    (hdispatch : ∀ (runtime : UnifiedRuntimeRecord) (workload : WorkloadSpec)
      (w : World), runtime.workloadKind = workload.kind → H.Covered w →
      H.Live w runtime.deploymentId →
      Sat M (Guarded H cond) (dispatch s runtime workload)
        (fun _ => H.Covered) w) (lease : LeaseAssignment) :
    Keeps M (Guarded H cond) H.Covered (startLease s lease) := by
  have hreport : ∀ update, Keeps M (Guarded H cond) H.Covered
      (updateDeploymentStatus update) := fun _ =>
    keeps_tame_call hM (tame_of_plain (by trivial))
  unfold startLease
  refine keeps_bind (keeps_attempt ?_) fun r => ?_
  · refine keeps_bind (keeps_tame_call hM (tame_of_plain (by trivial)))
      fun found => ?_
    cases found with
    | none => exact hreport _
    | some workload =>
        intro w h
        dsimp only
        generalize haccepted : { acceptedRuntime lease workload with
          gpuFraction := s.defaultGpuFraction } = accepted
        have hstatus : accepted.status = .accepted := by
          rw [← haccepted]
          rfl
        have hkind : accepted.workloadKind = workload.kind := by
          rw [← haccepted]
          rfl
        have htame : H.Tame (.upsertRuntime accepted) :=
          tame_repertoire.write accepted (by simp [hstatus])
        refine sat_step_bind hM.refines ⟨h, hM.harmless_of_tame htame⟩
          fun a _ hstep => ?_
        have hafter := hM.step h (hM.harmless_of_tame htame) hstep
        cases hresult : (w.perform (.upsertRuntime accepted) a).1 with
        | error x => exact hafter
        | ok u =>
            refine hdispatch accepted workload _ hkind hafter ?_
            exact live_written hresult (by rw [hstatus, H.accepted])
  · split
    · exact keeps_pure _
    · exact keeps_ignoring (hreport _)

/-! ## Teardown -/

/-- What stopping leaves is nothing, where the record is then written as over. -/
def Clears (H : Holding) (M : Machine Effect Effect.Ret Exn World)
    (cond : World → Effect → Prop) (s : Settings) : Prop :=
  ∀ (runtime : UnifiedRuntimeRecord) w, H.Covered w →
    Sat M (Guarded H cond) (stopBackend s runtime) (fun _ w' => H.Covered w' ∧
      (cond w' (.upsertRuntime { runtime with
          status := .terminated, currentStage := "terminated" }) →
        ¬H.has w' runtime.deploymentId)) w

variable (hclears : Clears H M cond s)
include hclears

theorem terminateRuntime_covered (reported : Bool) (h : H.Covered w) :
    Sat M (Guarded H cond) (terminateRuntime s runtime reported)
      (fun r w' => H.Covered w' ∧
        (r = .ok () → ¬H.has w' runtime.deploymentId)) w := by
  have hquiet : ∀ w : World, H.Covered w ∧ ¬H.has w runtime.deploymentId →
      Sat M (Guarded H cond) (onlyIf reported
        (report { deploymentId := runtime.deploymentId, state := .terminated }))
        (fun r w' => H.Covered w' ∧
          (r = .ok () → ¬H.has w' runtime.deploymentId)) w := by
    intro w hw
    have hreport : Within (fun _ _ => True) Plain (onlyIf reported
        (report { deploymentId := runtime.deploymentId, state := .terminated }))
        fun _ => True :=
      within_onlyIf fun _ => within_ignoring
        (within_perform trivial fun _ _ => trivial)
    refine ((hreport.always).sat_keeping (I := fun w : World =>
      H.Covered w ∧ ¬H.has w runtime.deploymentId) ?_ hw).mono ?_ ?_
    · intro w₁ e r w₂ h₁ he hstep
      have htame : H.Tame e := tame_of_plain he
      refine ⟨trivial, hM.step h₁.1 (hM.harmless_of_tame htame) hstep, ?_⟩
      obtain ⟨a, -, -, rfl⟩ := hM.refines.answered hstep
      intro hhas
      rcases H.kept w₁ e a _ hhas with hhas | hmade
      · exact h₁.2 hhas
      · rw [htame.1] at hmade
        cases hmade
    · exact fun w₁ e h₁ =>
        ⟨h₁.1.1, hM.harmless_of_tame (tame_of_plain h₁.2)⟩
    · exact fun r w₁ h₁ => ⟨h₁.1.1, fun _ => h₁.1.2⟩
  unfold terminateRuntime
  refine Sat.bind (keeps_tame_call hM (tame_of_plain (by trivial)) w h)
    (fun _ w₁ h₁ => ?_) fun x w₁ h₁ => ⟨h₁, by simp⟩
  refine Sat.bind (m := fun r w' => r = .ok () ∧ H.Covered w' ∧
      (cond w' (.upsertRuntime { runtime with
          status := .terminated, currentStage := "terminated" }) →
        ¬H.has w' runtime.deploymentId)) ?_ (fun _ w₂ h₂ => ?_)
    fun x w₂ h₂ => by simp at h₂
  · refine sat_ignoring.mpr ((hclears runtime w₁ h₁).weaken fun r w₂ h₂ => ?_)
    cases r with
    | ok => exact ⟨rfl, h₂⟩
    | error x => simpa using h₂
  · obtain ⟨-, hcovered, hgone⟩ := h₂
    have hguard : cond w₂ (.upsertRuntime { runtime with
        status := .terminated, currentStage := "terminated" }) →
        H.Harmless w₂ (.upsertRuntime { runtime with
          status := .terminated, currentStage := "terminated" }) :=
      fun hcond _ => hgone hcond
    refine sat_step_bind hM.refines ⟨hcovered, hguard⟩ fun a _ hstep => ?_
    have hmet := hM.meets _ _ _ _ hstep
    have hafter := hM.step hcovered hguard hstep
    cases hresult : (w₂.perform (.upsertRuntime { runtime with
        status := .terminated, currentStage := "terminated" }) a).1 with
    | error x => exact ⟨hafter, by simp⟩
    | ok u =>
        refine hquiet _ ⟨hafter, fun hhas => ?_⟩
        rcases H.kept w₂ _ a _ hhas with hhas | hmade
        · exact hgone hmet hhas
        · rw [H.write] at hmade
          cases hmade

theorem terminateRuntime_keeps (reported : Bool) :
    Keeps M (Guarded H cond) H.Covered (terminateRuntime s runtime reported) :=
  fun _ h => (terminateRuntime_covered hM hclears reported h).weaken
    fun _ _ h => h.1

theorem terminateRuntime_removes {q : Agent α} (reported : Bool)
    (hq : Keeps M (Guarded H cond) H.Covered q) {b : String}
    (hb : b = runtime.deploymentId) :
    Keeps M (Guarded H cond) H.Covered (do
      terminateRuntime s runtime reported
      removeRuntime b
      q) := by
  subst hb
  intro w h
  refine Sat.bind (terminateRuntime_covered hM hclears reported h)
    (fun _ w₁ h₁ => ?_) fun x w₁ h₁ => h₁.1
  have hgone : H.Harmless w₁ (.removeRuntime runtime.deploymentId) :=
    h₁.2 rfl
  refine sat_step_bind hM.refines ⟨h₁.1, fun _ => hgone⟩ fun a _ hstep => ?_
  have hafter := hM.step h₁.1 (fun _ => hgone) hstep
  cases hresult : (w₁.perform (.removeRuntime runtime.deploymentId) a).1 with
  | error x => exact hafter
  | ok u => exact hq _ hafter

/-! ## Whole requests -/

variable (hstart : ∀ lease,
  Keeps M (Guarded H cond) H.Covered (startLease s lease))
variable (hresume : ∀ runtime,
  Keeps M (Guarded H cond) H.Covered (resumeRuntime s runtime))
include hstart hresume

theorem handleLease_covered (lease : LeaseAssignment) :
    Keeps M (Guarded H cond) H.Covered (handleLease s lease) := by
  intro w h
  unfold handleLease
  refine sat_step_bind hM.refines ⟨h, hM.harmless_of_tame
    (tame_of_plain (by trivial))⟩ fun a _ hstep => ?_
  have hafter := hM.step h
    (hM.harmless_of_tame (tame_of_plain (by trivial))) hstep
  cases hget : w.runtimes.get? lease.deploymentId with
  | none =>
      simp only [World.perform, hget, andThen_ok]
      split
      · exact hafter
      · exact hstart lease _ hafter
  | some existing =>
      have hid : existing.deploymentId = lease.deploymentId :=
        Table.key_of_get? hget
      have hsuspend : Keeps M (Guarded H cond) H.Covered
          (suspendRuntime s existing) :=
        keeps_tame hM (suspendRuntime_calls tame_repertoire)
      have hretry : Keeps M (Guarded H cond) H.Covered (do
          terminateRuntime s existing false
          removeRuntime lease.deploymentId
          startLease s lease) :=
        terminateRuntime_removes hM hclears false (hstart lease) hid.symm
      simp only [World.perform, hget, andThen_ok]
      split
      · split
        · exact hsuspend _ hafter
        · exact hsuspend _ hafter
        · exact hafter
      · split
        · exact hresume _ _ hafter
        · exact hretry _ hafter
        · exact hretry _ hafter
        all_goals exact hafter

theorem request_covered (request : Request) :
    Keeps M (Guarded H cond) H.Covered (request.program s) := by
  refine keeps_request (fun e he => ?_) (fun _ => terminateRuntime_keeps hM
    hclears) (fun _ => ?_) hM.refines
    (handleLease_covered hM hclears hstart hresume) request
  · exact keeps_tame_call hM (tame_of_plain
      (by cases e <;> first | exact trivial | exact he.elim))
  · simpa using terminateRuntime_removes (q := pure ()) hM hclears true
      (keeps_pure ()) rfl

theorem crashRun_covered (h : CrashRun s M w) : H.Covered w :=
  h.keeps init_covered
    (fun request w _ => request_covered hM hclears hstart hresume request w)
    (fun _ _ h => h.1) fun _ hw => hw.restart

end Prudent

end NodeAgent
