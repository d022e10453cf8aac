import NodeAgent.Application.Serial

/-!
# Recovery, cut short

A recovery writes each runtime that it tears down as over and leaves the others
as they are.  It may be cut short anywhere and made again.
-/

namespace NodeAgent

open Effectful Program Agent

/-- What the control plane answers for each deployment. -/
abbrev Verdict := String → Option Deployment

section

variable (verdict : Verdict)

/-- The control plane does not know the deployment, or does not keep it. -/
def Verdict.discarded (d : String) : Bool :=
  match verdict d with
  | none => true
  | some deployment => deployment.state ∉ recoveryKeepStates

def isOver (runtime : UnifiedRuntimeRecord) : Bool :=
  runtime.status = .terminated || runtime.status = .failed

def overRecord (runtime : UnifiedRuntimeRecord) : UnifiedRuntimeRecord :=
  { runtime with status := .terminated, currentStage := "terminated" }

/-- The runtimes that a recovery tears down. -/
def Verdict.ends (runtime : UnifiedRuntimeRecord) : Bool :=
  !isOver runtime && verdict.discarded runtime.deploymentId

/-- What a recovery makes of a record. -/
def Verdict.settle (runtime : UnifiedRuntimeRecord) : UnifiedRuntimeRecord :=
  if verdict.ends runtime then overRecord runtime else runtime

/-- The control plane goes by the verdict, if it can be asked. -/
def Judged (outages : Bool) : (e : Effect) → Except Exn e.Ret → Prop
  | .getDeployment d, r =>
      r = .ok (verdict d) ∨ outages = true ∧ ∃ x, r = .error x
  | _, _ => True

def judging (outages : Bool) : Machine Effect Effect.Ret Exn World where
  Step w e r w' := Judged verdict outages e r ∧ (host anyResult).Step w e r w'

end

variable {verdict : Verdict} {outages : Bool} {s : Settings}
variable {w w' v : World} {d : String} {runtime : UnifiedRuntimeRecord}

theorem judging_refines : Refines (judging verdict outages) :=
  fun _ _ _ _ h => h.2.2

theorem settle_settle (runtime : UnifiedRuntimeRecord) :
    verdict.settle (verdict.settle runtime) = verdict.settle runtime := by
  by_cases hends : verdict.ends runtime = true
  · have hover : verdict.settle runtime = overRecord runtime := if_pos hends
    rw [hover, Verdict.settle,
      if_neg (by simp [Verdict.ends, isOver, overRecord])]
  · have hsame : verdict.settle runtime = runtime := if_neg hends
    rw [hsame, hsame]

/-! ## One runtime -/

def SparesRecords : Effect → Prop
  | .upsertRuntime _ | .removeRuntime _ => False
  | _ => True

theorem SparesRecords.kept {e : Effect} (h : SparesRecords e) (w : World)
    (a : Answer e) : (w.perform e a).2.runtimes = w.runtimes ∧
      (w.perform e a).2.stateFile = w.stateFile := by
  cases e with
  | upsertRuntime runtime => exact h.elim
  | removeRuntime d => exact h.elim
  | allocate d n avoid => exact ⟨rfl, rfl⟩
  | allocateSpecific d devices => exact ⟨rfl, rfl⟩
  | release d => exact ⟨rfl, rfl⟩
  | updateDeploymentStatus update => exact ⟨rfl, rfl⟩
  | _ =>
      obtain ⟨hruntimes, hfile, -⟩ := World.perform_books (by rfl) w a
      exact ⟨hruntimes, hfile⟩

def SameRecords (w u : World) : Prop :=
  u.runtimes = w.runtimes ∧ u.stateFile = w.stateFile

theorem SameRecords.step {u u' : World} {e : Effect} {r : Except Exn e.Ret}
    (h : SameRecords w u) (he : SparesRecords e)
    (hstep : (judging verdict outages).Step u e r u') : SameRecords w u' := by
  obtain ⟨a, -, -, rfl⟩ := judging_refines.answered hstep
  obtain ⟨hruntimes, hfile⟩ := he.kept u a
  exact ⟨hruntimes.trans h.1, hfile.trans h.2⟩

theorem spares_sat {α : Type} {p : Agent α} {u : World}
    (hp : Within (Typed s anyContainer) SparesRecords p fun _ => True)
    (h : SameRecords w u) :
    Sat (judging verdict outages) (fun u _ => SameRecords w u) p
      (fun _ => SameRecords w) u :=
  (hp.always.sat_keeping (I := SameRecords w)
    (fun _ _ _ _ h he hstep => ⟨host_typed s (judging_refines.host hstep),
      h.step he hstep⟩) h).mono (fun _ _ h => h.1) fun _ _ h => h.1

theorem stopBackend_spares (runtime : UnifiedRuntimeRecord) :
    Within (Typed s anyContainer) SparesRecords (stopBackend s runtime)
      fun _ => True :=
  Always.widen (stopBackend_stops (Ledger.belongs_any runtime)) fun e he => by
    cases e <;> trivial

def WritingOff (w : World) (runtime : UnifiedRuntimeRecord) (u : World) :
    Prop :=
  SameRecords w u ∨ u.runtimes = w.runtimes.upsert (overRecord runtime) ∧
    (u.stateFile = w.stateFile ∨ u.stateFile = u.runtimes)

def WrittenOff (w : World) (runtime : UnifiedRuntimeRecord) (u : World) :
    Prop :=
  u.runtimes = w.runtimes.upsert (overRecord runtime) ∧
    u.stateFile = u.runtimes

theorem WrittenOff.turned {u : World} (h : WrittenOff w runtime u) :
    WritingOff w runtime u := .inr ⟨h.1, .inr h.2⟩

theorem terminateRuntime_writes (reported : Bool) (h : SameRecords w v) :
    Sat (judging verdict outages) (fun u _ => WritingOff w runtime u)
      (terminateRuntime s runtime reported)
      (fun r u => WritingOff w runtime u ∧
        (r = .ok () → WrittenOff w runtime u)) v := by
  have hspared : ∀ {α : Type} {p : Agent α} {u : World},
      Within (Typed s anyContainer) SparesRecords p (fun _ => True) →
      SameRecords w u → Sat (judging verdict outages)
        (fun u _ => WritingOff w runtime u) p (fun _ => SameRecords w) u :=
    fun hp h => (spares_sat hp h).mono (fun _ _ h => .inl h) fun _ _ h => h
  have hstopped : Within (Typed s anyContainer) SparesRecords
      (ignoring (fun _ => true) (stopBackend s runtime)) fun _ => True :=
    within_ignoring (stopBackend_spares runtime)
  unfold terminateRuntime
  refine Sat.bind (hspared (within_perform trivial fun _ _ => trivial) h)
    (fun _ u h => ?_) fun x u h => ⟨.inl h, nofun⟩
  refine Sat.bind (hspared hstopped h) (fun _ u h => ?_)
    fun x u h => ⟨.inl h, nofun⟩
  refine sat_step_bind judging_refines (.inl h) fun a _ _ => ?_
  have hmemory : (u.answer (.upsertRuntime (overRecord runtime)) a).2.runtimes =
      w.runtimes.upsert (overRecord runtime) :=
    congrArg (·.upsert (overRecord runtime)) h.1
  have hfile : (u.answer (.upsertRuntime (overRecord runtime)) a).2.stateFile =
      if World.isOk a.result then u.runtimes.upsert (overRecord runtime)
      else u.stateFile := rfl
  change andThen (judging verdict outages) _ _ _ a.result
    (u.answer (.upsertRuntime (overRecord runtime)) a).2
  generalize (u.answer (.upsertRuntime (overRecord runtime)) a).2 = u₁
    at hmemory hfile ⊢
  cases hresult : a.result with
  | error x =>
      rw [hresult] at hfile
      exact ⟨.inr ⟨hmemory, .inl (hfile.trans h.2)⟩, nofun⟩
  | ok =>
      rw [hresult] at hfile
      have hwritten : WrittenOff w runtime u₁ :=
        ⟨hmemory, by rw [hmemory, hfile, h.1]; rfl⟩
      have hreport : Within (Typed s anyContainer) SparesRecords
          (onlyIf reported (report
            { deploymentId := runtime.deploymentId, state := .terminated }))
          fun _ => True :=
        within_onlyIf fun _ => within_ignoring
          (within_perform trivial fun _ _ => trivial)
      have hsame : ∀ {u₂}, SameRecords u₁ u₂ → WrittenOff w runtime u₂ :=
        fun hsame => ⟨hsame.1.trans hwritten.1,
          by rw [hsame.2, hsame.1, hwritten.2]⟩
      exact (spares_sat hreport ⟨rfl, rfl⟩).mono
        (fun _ _ h => (hsame h).turned)
        fun _ _ h => ⟨(hsame h).turned, fun _ => hsame h⟩

/-- On the way from a record to what a recovery makes of it. -/
def Handled (verdict : Verdict) (w : World) (runtime : UnifiedRuntimeRecord)
    (u : World) : Prop :=
  SameRecords w u ∨ verdict.ends runtime = true ∧ WritingOff w runtime u

def Recovered (verdict : Verdict) (w : World) (runtime : UnifiedRuntimeRecord)
    (u : World) : Prop :=
  if verdict.ends runtime then WrittenOff w runtime u else SameRecords w u

theorem recoverRuntime_settles (hover : isOver runtime = false) :
    Sat (judging verdict outages)
      (fun u _ => Handled verdict w runtime u) (recoverRuntime s runtime)
      (fun r u => Handled verdict w runtime u ∧ ∀ kept, outages = false →
        r = .ok kept →
        kept = !verdict.ends runtime ∧ Recovered verdict w runtime u) w := by
  have hends :
      verdict.ends runtime = verdict.discarded runtime.deploymentId := by
    rw [Verdict.ends, hover]
    rfl
  unfold recoverRuntime
  refine sat_step_attempt judging_refines (.inl ⟨rfl, rfl⟩)
    fun a _ ⟨hjudged, _⟩ => ?_
  have hsame : SameRecords w
      (w.answer (.getDeployment runtime.deploymentId) a).2 := ⟨rfl, rfl⟩
  have hverdict : (w.perform (.getDeployment runtime.deploymentId) a).1 =
      .ok (verdict runtime.deploymentId) ∨ outages = true ∧
        ∃ x, (w.perform (.getDeployment runtime.deploymentId) a).1 = .error x :=
    hjudged
  generalize (w.answer (.getDeployment runtime.deploymentId) a).2 = u at hsame ⊢
  have hteardown : ∀ reported, verdict.ends runtime = true →
      Sat (judging verdict outages) (fun u _ => Handled verdict w runtime u)
        (terminateRuntime s runtime reported >>= fun _ => pure false)
        (fun r u => Handled verdict w runtime u ∧ ∀ kept, outages = false →
          r = .ok kept →
          kept = !verdict.ends runtime ∧ Recovered verdict w runtime u) u := by
    intro reported hends
    refine Sat.bind ((terminateRuntime_writes reported hsame).mono
      (fun _ _ h => .inr ⟨hends, h⟩) fun _ _ h => h) (fun _ u h => ?_)
      fun x u h => ⟨.inr ⟨hends, h.1⟩, nofun⟩
    refine ⟨.inr ⟨hends, h.1⟩, fun kept _ heq => ?_⟩
    obtain rfl := Except.ok.inj heq
    rw [Recovered, hends, if_pos rfl]
    exact ⟨rfl, h.2 rfl⟩
  rcases hverdict with hverdict | ⟨houtage, x, hverdict⟩
  · rw [hverdict]
    cases hfound : verdict runtime.deploymentId with
    | none => exact hteardown false (by rw [hends, Verdict.discarded, hfound])
    | some deployment =>
        have hdiscarded : verdict.ends runtime =
            decide (deployment.state ∉ recoveryKeepStates) := by
          rw [hends, Verdict.discarded, hfound]
        by_cases hkeep : deployment.state ∈ recoveryKeepStates
        · have hkept : verdict.ends runtime = false := by
            rw [hdiscarded, decide_eq_false (not_not_intro hkeep)]
          dsimp only
          rw [if_pos hkeep]
          refine ⟨.inl hsame, fun kept _ heq => ?_⟩
          obtain rfl := Except.ok.inj heq
          rw [Recovered, hkept]
          exact ⟨rfl, hsame⟩
        · dsimp only
          rw [if_neg hkeep]
          exact hteardown _ (by rw [hdiscarded, decide_eq_true hkeep])
  · -- The control plane cannot be asked: the runtime is kept.
    rw [hverdict]
    dsimp only
    split
    · exact ⟨.inl hsame, fun _ hno => absurd houtage (by simp [hno])⟩
    · exact ⟨.inl hsame, nofun⟩

/-! ## All runtimes -/

/-- Each record is as it was or settled, in memory and in the file. -/
def Between (verdict : Verdict) (T : String → Option UnifiedRuntimeRecord)
    (u : World) : Prop :=
  ∀ d, (u.runtimes.get? d = T d ∨
      u.runtimes.get? d = (T d).map verdict.settle) ∧
    (u.stateFile.get? d = T d ∨ u.stateFile.get? d = (T d).map verdict.settle)

variable {T : String → Option UnifiedRuntimeRecord} {u u' : World}

theorem Between.settled (h : Between verdict T w)
    (hget : w.runtimes.get? d = some runtime) :
    (T d).map verdict.settle = some (verdict.settle runtime) := by
  rcases (h d).1 with hsame | hdone
  · rw [← hsame, hget]
    rfl
  · rw [hget] at hdone
    obtain ⟨before, hbefore, rfl⟩ := Option.map_eq_some_iff.mp hdone.symm
    rw [hbefore, settle_settle]
    rfl

theorem Between.handled (h : Between verdict T w)
    (hget : w.runtimes.get? runtime.deploymentId = some runtime)
    (hhandled : Handled verdict w runtime u) : Between verdict T u := by
  rcases hhandled with ⟨hruntimes, hfile⟩ |
      ⟨hends, ⟨hruntimes, hfile⟩ | ⟨hruntimes, hfile⟩⟩
  · intro d
    rw [hruntimes, hfile]
    exact h d
  · intro d
    rw [hruntimes, hfile]
    exact h d
  · have hmemory : ∀ d, u.runtimes.get? d = T d ∨
        u.runtimes.get? d = (T d).map verdict.settle := by
      intro d
      rw [hruntimes, Table.get?_upsert]
      by_cases hd : runtime.deploymentId = d
      · subst hd
        right
        rw [h.settled hget, Verdict.settle, if_pos hends]
        exact if_pos rfl
      · have hother : (overRecord runtime).deploymentId ≠ d := hd
        rw [if_neg hother]
        exact (h d).1
    intro d
    refine ⟨hmemory d, ?_⟩
    rcases hfile with hfile | hfile
    · rw [hfile]
      exact (h d).2
    · rw [hfile]
      exact hmemory d

theorem Handled.others (h : Handled verdict w runtime u)
    (hd : runtime.deploymentId ≠ d) :
    u.runtimes.get? d = w.runtimes.get? d := by
  rcases h with ⟨hruntimes, _⟩ | ⟨_, ⟨hruntimes, _⟩ | ⟨hruntimes, _⟩⟩
  · rw [hruntimes]
  · rw [hruntimes]
  · have hother : (overRecord runtime).deploymentId ≠ d := hd
    rw [hruntimes, Table.get?_upsert, if_neg hother]

theorem Recovered.records (h : Recovered verdict w runtime u)
    (hget : w.runtimes.get? runtime.deploymentId = some runtime) (d : String) :
    u.runtimes.get? d = if runtime.deploymentId = d
      then some (verdict.settle runtime) else w.runtimes.get? d := by
  unfold Recovered at h
  split at h
  · rename_i hends
    rw [h.1, Table.get?_upsert, Verdict.settle, if_pos hends]
    rfl
  · rename_i hkept
    rw [h.1, Verdict.settle, if_neg hkept]
    split
    · rename_i hd
      rw [← hd, hget]
    · rfl

theorem Recovered.file (h : Recovered verdict w runtime u)
    (hfile : w.stateFile = w.runtimes) : u.stateFile = u.runtimes := by
  unfold Recovered at h
  split at h
  · exact h.2
  · rw [h.1, h.2, hfile]

structure Looped (verdict : Verdict) (v : World)
    (rest : List UnifiedRuntimeRecord) (u : World) (resumed terminated : Nat) :
    Prop where
  records : ∀ d, u.runtimes.get? d =
    if d ∈ rest.map (·.deploymentId) then (v.runtimes.get? d).map verdict.settle
    else v.runtimes.get? d
  resumed : resumed =
    rest.countP fun runtime => !isOver runtime && !verdict.ends runtime
  terminated : terminated = rest.countP verdict.ends
  file : v.stateFile = v.runtimes → u.stateFile = u.runtimes

theorem Looped.cons {rest : List UnifiedRuntimeRecord} {more gone : Nat}
    (h : Looped verdict w rest u more gone)
    (hget : v.runtimes.get? runtime.deploymentId = some runtime)
    (hfresh : runtime.deploymentId ∉ rest.map (·.deploymentId))
    (hrecords : ∀ d, w.runtimes.get? d = if runtime.deploymentId = d
      then some (verdict.settle runtime) else v.runtimes.get? d)
    (hfile : v.stateFile = v.runtimes → w.stateFile = w.runtimes) :
    Looped verdict v (runtime :: rest) u
      (more + if !isOver runtime && !verdict.ends runtime then 1 else 0)
      (gone + if verdict.ends runtime then 1 else 0) where
  records d := by
    rw [h.records, hrecords]
    by_cases hd : runtime.deploymentId = d
    · subst hd
      simp [hfresh, hget]
    · simp [hd, Ne.symm hd]
  resumed := by rw [h.resumed, List.countP_cons]
  terminated := by rw [h.terminated, List.countP_cons]
  file hv := h.file (hfile hv)

theorem Looped.over {rest : List UnifiedRuntimeRecord} {more gone : Nat}
    (h : Looped verdict v rest u more gone) (hover : isOver runtime = true)
    (hget : v.runtimes.get? runtime.deploymentId = some runtime)
    (hfresh : runtime.deploymentId ∉ rest.map (·.deploymentId)) :
    Looped verdict v (runtime :: rest) u more gone := by
  have hkept : verdict.ends runtime = false := by simp [Verdict.ends, hover]
  have hsettled : verdict.settle runtime = runtime := if_neg (by simp [hkept])
  have hrecords : ∀ d, v.runtimes.get? d = if runtime.deploymentId = d
      then some (verdict.settle runtime) else v.runtimes.get? d := by
    intro d
    split
    · rename_i hd
      rw [hsettled, ← hd, hget]
    · rfl
  simpa [hover, hkept] using h.cons hget hfresh hrecords id

/-- What a recovery loop over `rest` ends with. -/
abbrev Loops (verdict : Verdict) (outages : Bool)
    (T : String → Option UnifiedRuntimeRecord) (v : World)
    (rest : List UnifiedRuntimeRecord) (resumed terminated : Nat)
    (r : Except Exn RecoveryResult) (u : World) : Prop :=
  Between verdict T u ∧ ∀ resumed' terminated', outages = false →
    r = .ok (.recovered resumed' terminated') → ∃ more gone,
      Looped verdict v rest u more gone ∧ resumed' = resumed + more ∧
        terminated' = terminated + gone

theorem recoverLoop_settles (rest : List UnifiedRuntimeRecord)
    (hcurrent : ∀ runtime ∈ rest,
      v.runtimes.get? runtime.deploymentId = some runtime)
    (hnodup : (rest.map (·.deploymentId)).Nodup) (h : Between verdict T v)
    (resumed terminated : Nat) :
    Sat (judging verdict outages) (fun u _ => Between verdict T u)
      (recoverLoop s resumed terminated rest)
      (Loops verdict outages T v rest resumed terminated) v := by
  induction rest generalizing v resumed terminated with
  | nil =>
      refine ⟨h, fun resumed' terminated' _ heq => ?_⟩
      cases heq
      exact ⟨0, 0, ⟨fun d => rfl, rfl, rfl, id⟩, rfl, rfl⟩
  | cons runtime rest ih =>
      obtain ⟨hfresh, hnodup⟩ := List.nodup_cons.mp hnodup
      have hget := hcurrent runtime (by simp)
      unfold recoverLoop
      split
      · rename_i hstatus
        have hover : isOver runtime = true := by
          rcases hstatus with hstatus | hstatus <;> simp [isOver, hstatus]
        refine (ih (fun other hmem => hcurrent other (by simp [hmem])) hnodup h
          resumed terminated).weaken fun r u h' => ⟨h'.1, ?_⟩
        intro resumed' terminated' hno heq
        obtain ⟨more, gone, hlooped, hcounts⟩ := h'.2 _ _ hno heq
        exact ⟨more, gone, hlooped.over hover hget hfresh, hcounts⟩
      · rename_i hstatus
        have hover : isOver runtime = false := by
          simpa [isOver] using hstatus
        refine Sat.bind ((recoverRuntime_settles hover).mono
          (fun _ _ h' => h.handled hget h') fun _ _ h' => h')
          (fun kept u h' => ?_) fun x u h' =>
            ⟨h.handled hget h'.1, fun _ _ _ heq => by cases heq⟩
        have hbetween := h.handled hget h'.1
        have hstill : ∀ other ∈ rest,
            u.runtimes.get? other.deploymentId = some other := by
          intro other hmem
          have hd : runtime.deploymentId ≠ other.deploymentId := fun hsame =>
            hfresh (List.mem_map.mpr ⟨other, hmem, hsame.symm⟩)
          rw [h'.1.others hd]
          exact hcurrent other (by simp [hmem])
        -- The counts that the rest of the loop starts from.
        have hgoes : ∀ m n, (outages = false → kept = !verdict.ends runtime →
            m = resumed + (if !isOver runtime && !verdict.ends runtime
              then 1 else 0) ∧
            n = terminated + if verdict.ends runtime then 1 else 0) →
            Sat (judging verdict outages) (fun u _ => Between verdict T u)
              (recoverLoop s m n rest)
              (Loops verdict outages T v (runtime :: rest) resumed terminated)
              u := by
          intro m n hcounts
          refine (ih hstill hnodup hbetween m n).weaken
            fun r u' hloops => ⟨hloops.1, ?_⟩
          intro resumed' terminated' hno heq
          obtain ⟨hkept, hrecovered⟩ := h'.2 kept hno rfl
          obtain ⟨more, gone, hlooped, hmore, hgone⟩ := hloops.2 _ _ hno heq
          obtain ⟨hm, hn⟩ := hcounts hno hkept
          exact ⟨_, _, hlooped.cons hget hfresh (hrecovered.records hget)
            hrecovered.file, by omega, by omega⟩
        split
        · rename_i htrue
          refine hgoes _ _ fun _ hkept => ?_
          have hends : verdict.ends runtime = false := by
            simpa [htrue] using hkept.symm
          simp [hover, hends]
        · rename_i hfalse
          refine hgoes _ _ fun _ hkept => ?_
          have hends : verdict.ends runtime = true := by
            simpa [hfalse] using hkept.symm
          simp [hends]

/-! ## Recovery as a whole -/

/-- What a recovery from `v` that nothing cuts short ends in. -/
structure Settled (verdict : Verdict) (v u : World) (resumed terminated : Nat) :
    Prop where
  records : ∀ d, u.runtimes.get? d = (v.runtimes.get? d).map verdict.settle
  resumed : resumed = v.runtimes.snapshot.countP fun runtime =>
    !isOver runtime && !verdict.ends runtime
  terminated : terminated = v.runtimes.snapshot.countP verdict.ends
  file : v.stateFile = v.runtimes → u.stateFile = u.runtimes

theorem SameRecords.between (h : Between verdict T v)
    (hsame : SameRecords v u) : Between verdict T u := by
  intro d
  rw [hsame.1, hsame.2]
  exact h d

theorem Settled.spared {resumed terminated : Nat}
    (h : Settled verdict v u resumed terminated) (hsame : SameRecords u u') :
    Settled verdict v u' resumed terminated where
  records d := by rw [hsame.1, h.records]
  resumed := h.resumed
  terminated := h.terminated
  file hv := by rw [hsame.2, hsame.1, h.file hv]

/-- What a recovery from `v` ends with, of what `T` was. -/
abbrev Recovers (verdict : Verdict) (outages : Bool)
    (T : String → Option UnifiedRuntimeRecord) (v : World)
    (r : Except Exn RecoveryResult) (u : World) : Prop :=
  Between verdict T u ∧ ∀ resumed terminated, outages = false →
    r = .ok (.recovered resumed terminated) →
    Settled verdict v u resumed terminated

theorem recoverRuntimeStateLocked_settles (hsame : SameRecords v w)
    (h : Between verdict T v) :
    Sat (judging verdict outages) (fun u _ => Between verdict T u)
      (recoverRuntimeStateLocked s) (Recovers verdict outages T v) w := by
  refine sat_step_bind judging_refines (hsame.between h) fun a _ _ => ?_
  have hafter : SameRecords v (w.answer .snapshotRuntimeItems a).2 := hsame
  have hsnapshot : (w.perform .snapshotRuntimeItems a).1 =
      .ok v.runtimes.snapshot := by
    rw [← hsame.1]
    rfl
  rw [hsnapshot]
  generalize (w.answer .snapshotRuntimeItems a).2 = u at hafter
  refine (recoverLoop_settles v.runtimes.snapshot (fun runtime hmem => ?_)
    v.runtimes.snapshot_nodup (hafter.between h) 0 0).weaken
    fun r u' h' => ⟨h'.1, fun resumed terminated hno heq => ?_⟩
  · rw [hafter.1]
    exact Table.mem_snapshot_iff.mp hmem
  · obtain ⟨more, gone, hlooped, hmore, hgone⟩ := h'.2 _ _ hno heq
    rw [Nat.zero_add] at hmore hgone
    subst hmore hgone
    refine ⟨fun d => ?_, hlooped.resumed, hlooped.terminated, fun hv => ?_⟩
    · rw [hlooped.records, hafter.1]
      split
      · rfl
      · rename_i hmem
        cases hget : v.runtimes.get? d with
        | none => rfl
        | some runtime =>
            obtain rfl := Table.key_of_get? hget
            exact absurd (List.mem_map.mpr
              ⟨runtime, Table.mem_snapshot_iff.mpr hget, rfl⟩) hmem
    · exact hlooped.file (by rw [hafter.1, hafter.2, hv])

theorem recoverRuntimeState_settles (h : Between verdict T v) :
    Sat (judging verdict outages) (fun u _ => Between verdict T u)
      (recoverRuntimeState s) (Recovers verdict outages T v) v := by
  refine sat_step_bind judging_refines h fun a _ _ => ?_
  have hacquired : SameRecords v (v.answer .acquireReconcileLock a).2 :=
    SparesRecords.kept (e := .acquireReconcileLock) trivial v a
  generalize (v.answer .acquireReconcileLock a).2 = w at hacquired
  generalize (v.perform .acquireReconcileLock a).1 = acquired
  cases acquired with
  | error x => exact ⟨hacquired.between h, nofun⟩
  | ok acquired =>
      cases acquired with
      | false => exact ⟨hacquired.between h, nofun⟩
      | true =>
          refine sat_bind'.mpr (sat_attempt.mpr
            ((recoverRuntimeStateLocked_settles hacquired h).weaken
              fun r u hu => ?_))
          change Sat (judging verdict outages) (fun u _ => Between verdict T u)
            (releaseReconcileLock >>= _) (Recovers verdict outages T v) u
          refine sat_step_bind judging_refines hu.1 fun a _ _ => ?_
          have hreleased : SameRecords u
              (u.answer .releaseReconcileLock a).2 :=
            SparesRecords.kept (e := .releaseReconcileLock) trivial u a
          generalize (u.answer .releaseReconcileLock a).2 = u' at hreleased
          generalize (u.perform .releaseReconcileLock a).1 = released
          have hbetween := hreleased.between hu.1
          cases released with
          | error x => exact ⟨hbetween, nofun⟩
          | ok =>
              cases r with
              | error x => exact ⟨hbetween, nofun⟩
              | ok result =>
                  exact ⟨hbetween, fun _ _ hno heq =>
                    (hu.2 _ _ hno heq).spared hreleased⟩

/-! ## Recoveries that are cut short -/

theorem restart_between (h : Between verdict T u) :
    Between verdict T (u.restart s) :=
  fun d => ⟨(h d).2, (h d).2⟩

/--
Recoveries on a host whose state file was that of `w`, any of which may have
been cut short by the death of the agent, or by an error, or have met a control
plane that could not be asked.
-/
inductive Recoveries (s : Settings) (verdict : Verdict) (w : World) :
    World → Prop
  | boot : Recoveries s verdict w (w.restart s)
  | death {u u' : World} {rest : Agent RecoveryResult}
      (before : Recoveries s verdict w u)
      (reached : Reaches (judging verdict true) (recoverRuntimeState s) u rest
        u') : Recoveries s verdict w (u'.restart s)
  | done {u u' : World} {r : Except Exn RecoveryResult}
      (before : Recoveries s verdict w u)
      (exec : Exec (judging verdict true) (recoverRuntimeState s) u r u') :
      Recoveries s verdict w u'

theorem Recoveries.between (h : Recoveries s verdict w u) :
    Between verdict w.stateFile.get? u := by
  have hcut : ∀ {v u : World} {rest : Agent RecoveryResult},
      Between verdict w.stateFile.get? v →
      Reaches (judging verdict true) (recoverRuntimeState s) v rest u →
      Between verdict w.stateFile.get? u :=
    fun h hreached => (recoverRuntimeState_settles h).cut (fun _ _ h => h)
      (fun _ _ h => h.1) hreached
  induction h with
  | boot => exact fun d => ⟨.inl rfl, .inl rfl⟩
  | death before reached ih => exact restart_between (hcut ih reached)
  | done before exec ih => exact hcut ih exec

theorem Between.settle_eq (h : Between verdict T u) (d : String) :
    (u.runtimes.get? d).map verdict.settle = (T d).map verdict.settle := by
  rcases (h d).1 with hsame | hdone
  · rw [hsame]
  · rw [hdone, Option.map_map]
    exact congrArg (fun f => (T d).map f) (funext settle_settle)

/--
However many recoveries were cut short, raised or could not ask the control
plane, a record is what the state file had or is written as over, and only if
the control plane gave the deployment up.  The recovery that ends when the
control plane can be asked leaves the records as one recovery of the file would.
-/
theorem recoveries_settle {resumed terminated : Nat}
    (hrun : Recoveries s verdict w u)
    (hexec : Exec (judging verdict false) (recoverRuntimeState s) u
      (.ok (.recovered resumed terminated)) u') :
    Between verdict w.stateFile.get? u ∧
    (∀ d, u'.runtimes.get? d = (w.stateFile.get? d).map verdict.settle) ∧
    terminated = u.runtimes.snapshot.countP verdict.ends ∧
    (u.stateFile = u.runtimes → u'.stateFile = u'.runtimes) := by
  have hbetween := hrun.between
  have hsettled := ((recoverRuntimeState_settles hbetween).exec hexec).2
    resumed terminated rfl rfl
  exact ⟨hbetween, fun d => (hsettled.records d).trans (hbetween.settle_eq d),
    hsettled.terminated, hsettled.file⟩

theorem podHost_judging :
    Follows (judging (fun _ => none) outages) (podHost []) fun _ _ => true := by
  intro w e _ hallows
  refine ⟨?_, trivial, podHost [] w e, hallows, rfl⟩
  cases e with
  | getDeployment d => exact .inl rfl
  | _ => trivial

/-- The agent has removed the container, and dies before it says so. -/
def cutRecovery : World :=
  (replayFor (podHost []) (fun _ _ => true) 6 (recoverRuntimeState {})
    (onePodNode.restart {})).2

def secondRecovery : Agent RecoveryResult × World :=
  replayFor (podHost []) (fun _ _ => true) 9 (recoverRuntimeState {})
    (cutRecovery.restart {})

theorem recoveries_settle_cutRecovery :
    (cutRecovery.stateFile.get? "pod-1").map (·.status) = some .ready ∧
      (secondRecovery.2.runtimes.get? "pod-1").map (·.status) =
        some .terminated := by
  have hcut : Recoveries {} (fun _ => none) onePodNode
      (cutRecovery.restart {}) :=
    .death .boot (replayFor_reaches podHost_judging 6 _ _)
  have hexec : Exec (judging (fun _ => none) false) (recoverRuntimeState {})
      (cutRecovery.restart {}) (.ok (.recovered 0 1)) secondRecovery.2 :=
    replayFor_exec podHost_judging 9 rfl
  refine ⟨rfl, ?_⟩
  rw [(recoveries_settle hcut hexec).2.1 "pod-1"]
  rfl

end NodeAgent
