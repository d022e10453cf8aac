import NodeAgent.Domain.Inference
import NodeAgent.Infrastructure.Outcomes

/-!
# What a failed start of an inference container leaves running

A start that has run a container polls it for minutes.  It removes the container
again when the polling fails with the backend's own error, and only then.
-/

namespace NodeAgent

open Effectful Program Agent

/-! ## Outcomes that the handlers deal with -/

def Exn.isInferenceRuntimeError : Exn → Bool
  | .inferenceRuntimeError _ _ => true
  | _ => false

/-- What the handlers around a question catch, those of the start included. -/
def caughtAt : Probe → Exn → Bool
  | .dockerInspect _ .running, e => e.isMissingOrTimeout || e.isOSError
  | .dockerInspect _ .status, e | .dockerLogs _, e =>
      e.isMissingOrTimeout || e.isInferenceRuntimeError
  | .httpGet _, e => e.isHTTPFailure || e.isInferenceRuntimeError
  | _, _ => true

/--
A `docker run` that fails leaves nothing running, and a question raises nothing
that goes past its handlers.
-/
def Benign : CallOutcome → Prop
  | ⟨.dockerRun _, a⟩ => World.exitedZero a.result = true ∨
      ∀ id, a.created ≠ some (id, true)
  | ⟨.probe question, a⟩ => ∀ e, a.result = .error e → caughtAt question e = true
  | _ => True

def isBenign : CallOutcome → Bool
  | ⟨.dockerRun _, a⟩ => World.exitedZero a.result ||
      a.created.all fun left => !left.2
  | ⟨.probe question, a⟩ => match a.result with
      | .ok _ => true
      | .error e => caughtAt question e
  | _ => true

theorem isBenign_iff (o : CallOutcome) : isBenign o = true ↔ Benign o := by
  obtain ⟨call, a⟩ := o
  cases call with
  | dockerRun command =>
      cases hcreated : a.created with
      | none => simp [isBenign, Benign, hcreated]
      | some left =>
          obtain ⟨id, running⟩ := left
          cases running <;> simp [isBenign, Benign, hcreated]
  | probe question =>
      cases hresult : a.result <;> simp [isBenign, Benign, hresult]
  | _ => simp [isBenign, Benign]

instance : DecidablePred Benign := fun o =>
  decidable_of_iff _ (isBenign_iff o)

def StartedBetween (before after : World) (id : String) : Prop :=
  id ∈ after.issuedIds ∧ id ∉ before.issuedIds

/-- The container is the runtime's, or it does not run. -/
def CleanStart (before : World) (r : Except Exn UnifiedRuntimeRecord)
    (after : World) : Prop :=
  match r with
  | .ok started => ∃ id, started.containerId = some id ∧
      ∀ other, StartedBetween before after other ↔ other = id
  | .error _ => ∀ c ∈ after.containers, StartedBetween before after c.id →
      c.running = false

/-! ## Asking -/

def SameContainers (w w' : World) : Prop :=
  w'.containers = w.containers ∧ w'.issuedIds = w.issuedIds

/--
Nothing was done but to ask, and the exception that came of it, if any, is one of
`caught` exactly if every outcome was benign.
-/
def Asked (caught : Exn → Bool) (x : Recorded) {α : Type} (r : Except Exn α)
    (x' : Recorded) : Prop :=
  SameContainers x.1 x'.1 ∧ x.Adds x' fun outcomes =>
    (∀ o ∈ outcomes, Benign o) ↔ ∀ e, r = .error e → caught e = true

variable {guard : Recorded → Effect → Prop} {caught : Exn → Bool}
variable {x x' : Recorded} {α β : Type}

/-- No guard is needed: every call is allowed. -/
abbrev OnlyAsks (caught : Exn → Bool) (p : Agent α) : Prop :=
  ∀ x, Sat recording (fun _ _ => True) p (Asked caught x) x

theorem asks_done {r : Except Exn α} (h : ∀ e, r = .error e → caught e = true) :
    OnlyAsks caught (.done r) := fun x =>
  ⟨⟨rfl, rfl⟩, [], by simp, by simpa using h⟩

theorem asks_pure (a : α) : OnlyAsks caught (pure a) :=
  asks_done fun e h => by cases h

theorem asks_raise {e : Exn} (h : caught e = true) :
    OnlyAsks caught (raise e : Agent α) :=
  asks_done fun e' he => by
    cases he
    exact h

theorem Asked.trans {r : Except Exn α} {r' : Except Exn β} {x₁ x₂ x₃ : Recorded}
    (hr : ∀ e, r = .error e → caught e = true) (h : Asked caught x₁ r x₂)
    (h' : Asked caught x₂ r' x₃) : Asked caught x₁ r' x₃ := by
  obtain ⟨⟨hcontainers, hissued⟩, before, hbefore, hbenign⟩ := h
  obtain ⟨⟨hcontainers', hissued'⟩, after, hafter, hiff⟩ := h'
  refine ⟨⟨hcontainers'.trans hcontainers, hissued'.trans hissued⟩,
    before ++ after, by rw [hafter, hbefore, List.append_assoc], ?_⟩
  show (∀ o ∈ before ++ after, Benign o) ↔ _
  rw [List.forall_mem_append, and_iff_right (hbenign.mpr hr), hiff]

theorem OnlyAsks.bind {p : Agent α} {f : α → Agent β} (hp : OnlyAsks caught p)
    (hf : ∀ a, OnlyAsks caught (f a)) : OnlyAsks caught (p >>= f) := by
  intro x
  refine Sat.bind (hp x) (fun a x' h => ?_) fun e x' h => ?_
  · exact (hf a x').weaken fun r x'' h' => h.trans (by simp) h'
  · obtain ⟨hsame, outcomes, houtcomes, hiff⟩ := h
    exact ⟨hsame, outcomes, houtcomes, by simpa using hiff⟩

theorem asks_onlyIf {c : Bool} {p : Agent Unit} (hp : OnlyAsks caught p) :
    OnlyAsks caught (onlyIf c p) := by
  cases c
  · exact asks_pure ()
  · exact hp

theorem asks_attempt {question : Probe}
    {f : Except Exn question.Ret → Agent β}
    (hok : ∀ a, OnlyAsks caught (f (.ok a)))
    (hcaught : ∀ e, caughtAt question e = true → OnlyAsks caught (f (.error e)))
    (hraise : ∀ e, caughtAt question e = false →
      f (.error e) = raise e ∧ caught e = false) :
    OnlyAsks caught (attempt (probe question) >>= f) := by
  intro x
  refine sat_bind'.mpr (sat_attempt.mpr (recorded_perform trivial
    fun a _ _ => ?_))
  show Sat recording _ (f a.result) _ _
  have hasked : Benign ⟨.probe question, a⟩ →
      Asked caught x (.ok () : Except Exn Unit) (x.after (.probe question) a) :=
    fun h => ⟨⟨rfl, rfl⟩, [⟨.probe question, a⟩], rfl, by simpa using h⟩
  cases hresult : a.result with
  | ok answer =>
      have hbenign : Benign ⟨.probe question, a⟩ := by
        intro e he
        simp [hresult] at he
      exact (hok answer _).weaken fun _ _ h =>
        (hasked hbenign).trans (by simp) h
  | error e =>
      cases hcaughtAt : caughtAt question e with
      | true =>
          have hbenign : Benign ⟨.probe question, a⟩ := by
            intro e' he'
            obtain rfl : e = e' := by simpa [hresult] using he'
            exact hcaughtAt
          exact (hcaught e hcaughtAt _).weaken fun _ _ h =>
            (hasked hbenign).trans (by simp) h
      | false =>
          obtain ⟨hraises, huncaught⟩ := hraise e hcaughtAt
          have hharms : ¬Benign ⟨.probe question, a⟩ := fun h => by
            simp [h e hresult] at hcaughtAt
          rw [hraises]
          exact ⟨⟨rfl, rfl⟩, [⟨.probe question, a⟩], rfl, by
            simp [hharms, huncaught]⟩

namespace DockerInferenceBackend

theorem containerRunning_asks (container : Option String) :
    OnlyAsks (fun _ => false) (containerRunning container) := by
  unfold containerRunning
  split
  · refine asks_attempt (fun result => asks_pure _) (fun e he => ?_)
      fun e he => ?_
    · have he : (e.isMissingOrTimeout || e.isOSError) = true := he
      simp only [he, if_true]
      exact asks_pure _
    · have he : (e.isMissingOrTimeout || e.isOSError) = false := he
      simp [he]
  · exact asks_pure _

theorem waitForContainerRunning_asks (container : Option String)
    (attempts : Nat) :
    OnlyAsks (fun _ => false) (waitForContainerRunning container attempts) := by
  induction attempts with
  | zero => exact asks_pure _
  | succ attempts ih =>
      refine (containerRunning_asks container).bind fun running => ?_
      cases running
      · exact ih
      · exact asks_pure _

theorem asks_docker {question : Probe} {f : Except Exn question.Ret → Agent β}
    {otherwise : Agent β}
    (hquestion : ∀ e, caughtAt question e =
      (e.isMissingOrTimeout || e.isInferenceRuntimeError))
    (hok : ∀ a, OnlyAsks Exn.isInferenceRuntimeError (f (.ok a)))
    (hotherwise : OnlyAsks Exn.isInferenceRuntimeError otherwise)
    (herror : ∀ e, f (.error e) =
      if e.isMissingOrTimeout then otherwise else raise e) :
    OnlyAsks Exn.isInferenceRuntimeError (attempt (probe question) >>= f) := by
  refine asks_attempt hok (fun e he => ?_) fun e he => ?_
  · rw [herror]
    split_ifs with hmissing
    · exact hotherwise
    · rw [hquestion] at he
      simp only [hmissing, Bool.false_or] at he
      exact asks_raise he
  · rw [hquestion, Bool.or_eq_false_iff] at he
    rw [herror, he.1]
    exact ⟨rfl, he.2⟩

theorem grabLogs_asks (container : Option String) :
    OnlyAsks Exn.isInferenceRuntimeError (grabLogs container) := by
  unfold grabLogs
  split
  · exact asks_docker (fun _ => rfl) (fun _ => asks_pure _) (asks_pure "")
      fun _ => rfl
  · exact asks_pure ""

theorem checkNotExited_asks (container : String) :
    OnlyAsks Exn.isInferenceRuntimeError (checkNotExited container) := by
  unfold checkNotExited
  refine asks_docker (fun _ => rfl) (fun result => ?_) (asks_pure ())
    fun _ => rfl
  dsimp only
  split
  · exact asks_docker (fun _ => rfl) (fun logs => asks_raise rfl) (asks_pure ())
      fun _ => rfl
  · exact asks_pure ()

theorem healthRounds_asks (container : Option String) (url : String)
    (lastError : Option String) (rounds : Nat) :
    OnlyAsks Exn.isInferenceRuntimeError
      (healthRounds container url lastError rounds) := by
  induction rounds generalizing lastError with
  | zero => exact asks_pure _
  | succ rounds ih =>
      refine (asks_onlyIf (checkNotExited_asks _)).bind fun _ => ?_
      refine asks_attempt (fun status => ?_) (fun e he => ?_) fun e he => ?_
      · show OnlyAsks _ (if status = 200 then _ else _)
        split
        · exact asks_pure _
        · exact ih lastError
      · show OnlyAsks _ (if e.isHTTPFailure then _ else _)
        split_ifs with hfailure
        · exact ih _
        · have he : (e.isHTTPFailure || e.isInferenceRuntimeError) = true := he
          simp only [hfailure, Bool.false_or] at he
          exact asks_raise he
      · have he : (e.isHTTPFailure || e.isInferenceRuntimeError) = false := he
        rw [Bool.or_eq_false_iff] at he
        exact ⟨by simp [he.1], he.2⟩

theorem asks_rounds {f : Nat → Agent β} (hf : ∀ rounds, OnlyAsks caught (f rounds)) :
    OnlyAsks caught (probe .rounds >>= f) := by
  refine OnlyAsks.bind (fun x => recorded_perform trivial fun a _ hworks => ?_) hf
  cases hresult : a.result with
  | ok rounds =>
      refine ⟨⟨rfl, rfl⟩, [⟨.probe .rounds, a⟩], rfl, ?_⟩
      simp [Benign, caughtAt, World.perform, hresult]
  | error e => simp [works, hresult, World.isOk] at hworks

theorem waitForHealth_asks (s : Settings) (runtime : UnifiedRuntimeRecord) :
    OnlyAsks Exn.isInferenceRuntimeError (waitForHealth s runtime) := by
  refine asks_rounds fun rounds => ?_
  refine (healthRounds_asks _ _ _ _).bind fun result => ?_
  cases result with
  | ok _ => exact asks_pure ()
  | error lastError => exact (grabLogs_asks _).bind fun _ => asks_raise rfl

/-! ## Before and after `docker run` -/

def CleanIff (before : World) (r : Except Exn UnifiedRuntimeRecord)
    (x : Recorded) : Prop :=
  CleanStart before r x.1 ↔ ∀ o ∈ x.2, Benign o

/-- No container was started so far, and all that happened was benign. -/
structure Idle (before : World) (x : Recorded) : Prop where
  issued : x.1.issuedIds = before.issuedIds
  benign : ∀ o ∈ x.2, Benign o

theorem benign_after {e : Effect} {a : Answer e} (h : ∀ o ∈ x.2, Benign o)
    (ha : Benign ⟨e, a⟩) : ∀ o ∈ (x.after e a).2, Benign o :=
  Recorded.forall_after.mpr ⟨h, ha⟩

variable {before : World} {id : String} {e : Exn}

theorem Idle.raises (h : Idle before x) : CleanIff before (.error e) x := by
  refine iff_of_true (fun c _ hstarted => ?_) h.benign
  rw [StartedBetween, h.issued] at hstarted
  exact absurd hstarted.1 hstarted.2

structure OneRuns (before : World) (id : String) (x : Recorded) : Prop where
  issued : x.1.issuedIds = id :: before.issuedIds
  fresh : id ∉ before.issuedIds
  benign : ∀ o ∈ x.2, Benign o
  runs : ∃ c ∈ x.1.containers, c.id = id ∧ c.running = true

theorem startedBetween_iff {after : World}
    (hissued : after.issuedIds = id :: before.issuedIds)
    (hfresh : id ∉ before.issuedIds) (other : String) :
    StartedBetween before after other ↔ other = id := by
  rw [StartedBetween, hissued, List.mem_cons]
  constructor
  · rintro ⟨rfl | hold, hnew⟩
    · rfl
    · exact absurd hold hnew
  · rintro rfl
    exact ⟨.inl rfl, hfresh⟩

theorem OneRuns.returns (h : OneRuns before id x)
    {started : UnifiedRuntimeRecord} (hid : started.containerId = some id) :
    CleanIff before (.ok started) x :=
  iff_of_true ⟨id, hid, startedBetween_iff h.issued h.fresh⟩ h.benign

theorem OneRuns.asked {r : Except Exn α} (h : OneRuns before id x)
    (hasked : Asked caught x r x')
    (hr : ∀ e, r = .error e → caught e = true) : OneRuns before id x' := by
  obtain ⟨⟨hcontainers, hissued⟩, outcomes, houtcomes, hiff⟩ := hasked
  refine ⟨hissued.trans h.issued, h.fresh, ?_, hcontainers ▸ h.runs⟩
  rw [houtcomes, List.forall_mem_append]
  exact ⟨h.benign, hiff.mpr hr⟩

theorem OneRuns.escapes (h : OneRuns before id x)
    (hasked : Asked caught x (.error e : Except Exn α) x')
    (he : caught e = false) (e' : Exn) : CleanIff before (.error e') x' := by
  obtain ⟨⟨hcontainers, hissued⟩, outcomes, houtcomes, hiff⟩ := hasked
  obtain ⟨c, hc, hcid, hrunning⟩ := h.runs
  refine iff_of_false (fun hclean => ?_) fun hbenign => ?_
  · have := hclean c (hcontainers ▸ hc)
      ((startedBetween_iff (hissued.trans h.issued) h.fresh c.id).mpr hcid)
    simp [hrunning] at this
  · rw [houtcomes, List.forall_mem_append] at hbenign
    simp [hiff.mp hbenign.2 e rfl] at he

theorem removeContainer_recorded {d target : String}
    {post : Except Exn Unit → Recorded → Prop}
    (h : ∀ r (a : Answer (.dockerRm d target)), a.tookEffect = true →
      post r (x.after (.dockerRm d target) a)) :
    Sat recording (fun _ _ => True) (removeContainer d target) post x := by
  refine sat_ignoring.mpr (sat_bind'.mpr (recorded_perform trivial
    fun a _ hworks => ?_))
  cases (x.1.perform (.dockerRm d target) a).1 with
  | ok completed => exact h _ a hworks
  | error e =>
      show if e.isMissingOrTimeout then _ else _
      split
      · exact h _ a hworks
      · exact h _ a hworks

theorem OneRuns.stops (h : OneRuns before id x) (hid : id ≠ "")
    {started : UnifiedRuntimeRecord} (hstarted : started.containerId = some id)
    (e : Exn) :
    Sat recording (fun _ _ => True)
      (stopRuntime started >>= fun _ => (raise e : Agent UnifiedRuntimeRecord))
      (CleanIff before) x := by
  have htruthy : truthy started.containerId = true := by
    simp [hstarted, truthy, hid]
  have hremoved : ∀ (r : Except Exn UnifiedRuntimeRecord)
      (a : Answer (.dockerRm started.deploymentId id)), a.tookEffect = true →
      (∃ e, r = .error e) →
      CleanIff before r (x.after (.dockerRm started.deploymentId id) a) := by
    rintro _ a heffect ⟨e, rfl⟩
    refine iff_of_true (fun c hc hnew => ?_) (benign_after h.benign trivial)
    have hissued : (x.after (.dockerRm started.deploymentId id) a).1.issuedIds =
        id :: before.issuedIds := by
      simpa [Recorded.after, World.answer, World.perform, heffect,
        World.withoutContainer] using h.issued
    obtain hcid := (startedBetween_iff hissued h.fresh c.id).mp hnew
    simp [Recorded.after, World.answer, World.perform, heffect,
      World.withoutContainer, Container.answersTo, hcid] at hc
  unfold stopRuntime
  rw [htruthy, hstarted]
  refine sat_bind'.mpr (sat_bind'.mpr (removeContainer_recorded
    fun r a heffect => ?_))
  cases r with
  | ok _ => exact hremoved _ a heffect ⟨_, rfl⟩
  | error _ => exact hremoved _ a heffect ⟨_, rfl⟩

theorem awaitStarted_clean (s : Settings) (params : Option MultiNodeParams)
    {started : UnifiedRuntimeRecord} (hstarted : started.containerId = some id)
    (hid : id ≠ "") (h : OneRuns before id x) :
    Sat recording (fun _ _ => True) (awaitStarted s started params)
      (CleanIff before) x := by
  unfold awaitStarted
  split
  · refine Sat.bind (waitForContainerRunning_asks _ _ x)
      (fun running x' hasked => ?_) fun e x' hasked => h.escapes hasked rfl e
    have hruns := h.asked hasked (by simp)
    cases running
    · exact hruns.stops hid hstarted _
    · exact hruns.returns hstarted
  · refine sat_bind'.mpr (sat_attempt.mpr ((waitForHealth_asks s started x).weaken
      fun r x' hasked => ?_))
    cases r with
    | ok _ => exact (h.asked hasked (by simp)).returns hstarted
    | error e =>
        cases e with
        | inferenceRuntimeError message stage =>
            exact (h.asked hasked fun e he => by cases he; rfl).stops hid hstarted _
        | _ => exact h.escapes hasked rfl _

section Run

variable {command : DockerRun} {a : Answer (.dockerRun command)} {running : Bool}

theorem issued_after_run (hcreated : a.created = some (id, running)) :
    (x.after (.dockerRun command) a).1.issuedIds = id :: x.1.issuedIds := by
  simp [Recorded.after, World.answer, World.perform, hcreated,
    World.withContainer]

theorem containers_after_run (hcreated : a.created = some (id, running)) :
    (x.after (.dockerRun command) a).1.containers = x.1.containers ++
      [⟨id, command.name, command.owner, command.gpus, command.publish,
        running⟩] := by
  simp [Recorded.after, World.answer, World.perform, hcreated,
    World.withContainer]

theorem fresh_of_allows (hcreated : a.created = some (id, running))
    (hallows : x.1.allows (.dockerRun command) a = true) :
    id ≠ "" ∧ id ∉ x.1.issuedIds ∧ ∀ c ∈ x.1.containers, c.id ≠ id := by
  simp only [World.allows, hcreated, Bool.and_eq_true, Bool.not_eq_true',
    List.contains_eq_mem, decide_eq_false_iff_not, decide_eq_true_eq,
    List.all_eq_true, Container.answersTo, Bool.or_eq_false_iff] at hallows
  obtain ⟨-, ⟨⟨⟨hempty, hnew⟩, -⟩, -⟩, hothers⟩ := hallows
  exact ⟨hempty, hnew, fun c hc => (hothers c hc).1.1⟩

theorem Idle.run_fails (h : Idle before x)
    (hallows : x.1.allows (.dockerRun command) a = true)
    (hfails : World.exitedZero a.result = false) (e : Exn) :
    CleanIff before (.error e) (x.after (.dockerRun command) a) := by
  cases hcreated : a.created with
  | none =>
      have hidle : Idle before (x.after (.dockerRun command) a) := by
        refine ⟨?_, benign_after h.benign (.inr (by simp [hcreated]))⟩
        simpa [Recorded.after, World.answer, World.perform, hcreated,
          World.withContainer] using h.issued
      exact hidle.raises
  | some left =>
      obtain ⟨id, running⟩ := left
      obtain ⟨-, hnew, hothers⟩ := fresh_of_allows hcreated hallows
      have hcontainers := @containers_after_run x id command a running hcreated
      have hissued := @issued_after_run x id command a running hcreated
      rw [h.issued] at hnew hissued
      have hstarted := startedBetween_iff hissued hnew
      cases running with
      | true =>
          refine iff_of_false (fun hclean => ?_) fun hbenign => ?_
          · have hmem := hcontainers ▸ List.mem_append_right _
              (List.mem_singleton_self _)
            have hstopped := hclean _ hmem ((hstarted _).mpr rfl)
            simp at hstopped
          · have := hbenign ⟨.dockerRun command, a⟩
              (List.mem_append_right _ (List.mem_singleton_self _))
            simp [Benign, hfails, hcreated] at this
      | false =>
          refine iff_of_true (fun c hc hc' => ?_)
            (benign_after h.benign (.inr (by simp [hcreated])))
          rw [hcontainers] at hc
          rcases List.mem_append.mp hc with hold | hlast
          · exact absurd ((hstarted c.id).mp hc') (hothers c hold)
          · obtain rfl := List.mem_singleton.mp hlast
            rfl

theorem Idle.run_succeeds (h : Idle before x)
    (hallows : x.1.allows (.dockerRun command) a = true) {completed : Completed}
    (hresult : a.result = .ok completed) (hzero : completed.returncode = 0) :
    strip completed.stdout ≠ "" ∧
      OneRuns before (strip completed.stdout)
        (x.after (.dockerRun command) a) := by
  have hcreated : a.created = some (strip completed.stdout, true) := by
    simp only [World.allows, hresult, Bool.and_eq_true] at hallows
    simpa [hzero] using hallows.1
  obtain ⟨hempty, hnew, -⟩ := fresh_of_allows hcreated hallows
  refine ⟨hempty, ?_, h.issued ▸ hnew,
    benign_after h.benign (.inl ?_), ?_⟩
  · rw [issued_after_run hcreated, h.issued]
  · simp [hresult, World.exitedZero, hzero]
  · rw [containers_after_run hcreated]
    exact ⟨_, List.mem_append_right _ (List.mem_singleton_self _), rfl, rfl⟩

end Run

theorem Idle.probes (h : Idle before x) {question : Probe}
    {f : question.Ret → Agent UnifiedRuntimeRecord}
    (hquestion : ∀ e, caughtAt question e = true)
    (hf : ∀ answer x', Idle before x' →
      Sat recording (fun _ _ => True) (f answer) (CleanIff before) x') :
    Sat recording (fun _ _ => True) (probe question >>= f) (CleanIff before) x := by
  refine sat_bind'.mpr (recorded_perform trivial fun a _ _ => ?_)
  have hidle : Idle before (x.after (.probe question) a) :=
    ⟨h.issued, benign_after h.benign fun e _ => hquestion e⟩
  show andThen recording _ f _ a.result _
  cases a.result with
  | ok answer => exact hf answer _ hidle
  | error e => exact hidle.raises

theorem Idle.removes (h : Idle before x) {d target : String} :
    Sat recording (fun _ _ => True) (removeContainer d target)
      (fun _ => Idle before) x := by
  refine removeContainer_recorded fun r a heffect =>
    ⟨?_, benign_after h.benign trivial⟩
  simpa [Recorded.after, World.answer, World.perform, heffect,
    World.withoutContainer] using h.issued

theorem Idle.runs (h : Idle before x) {command : DockerRun} {error : Exn → Exn}
    {f : Completed → Agent UnifiedRuntimeRecord}
    (hfails : ∀ completed, completed.returncode ≠ 0 → ∃ e, f completed = raise e)
    (hruns : ∀ completed x', completed.returncode = 0 →
      strip completed.stdout ≠ "" →
      OneRuns before (strip completed.stdout) x' →
      Sat recording (fun _ _ => True) (f completed) (CleanIff before) x') :
    Sat recording (fun _ _ => True)
      (orNotAvailable error (dockerRun command) >>= f) (CleanIff before) x := by
  unfold orNotAvailable
  refine sat_bind'.mpr (sat_bind'.mpr (sat_attempt.mpr (recorded_perform trivial
    fun a hallows _ => ?_)))
  have hperform : (x.1.perform (.dockerRun command) a).1 = a.result := rfl
  rw [hperform, andThen_ok]
  cases hresult : a.result with
  | error e =>
      have hfailed := fun e' => h.run_fails hallows
        (by simp [hresult, World.exitedZero]) e'
      cases hmissing : e.isMissingOrTimeout
      · simpa [hmissing] using hfailed e
      · simpa [hmissing] using hfailed (error e)
  | ok completed =>
      show Sat recording _ (f completed) _ _
      by_cases hzero : completed.returncode = 0
      · obtain ⟨hempty, hone⟩ := h.run_succeeds hallows hresult hzero
        exact hruns completed _ hzero hempty hone
      · obtain ⟨e, he⟩ := hfails completed hzero
        rw [he]
        exact h.run_fails hallows (by simp [hresult, World.exitedZero, hzero]) e

theorem startRuntime_recorded (s : Settings) (runtime : UnifiedRuntimeRecord)
    (artifact : ArtifactBundle) (before : World) :
    Sat recording (fun _ _ => True) (startRuntime s runtime artifact)
      (CleanIff before) (before, []) := by
  have hidle : Idle before (before, []) := ⟨rfl, by simp⟩
  unfold startRuntime
  refine hidle.probes (fun _ => rfl) fun port x₁ h₁ => ?_
  refine Sat.bind h₁.removes (fun _ x₂ h₂ => ?_) fun e x₂ h₂ => h₂.raises
  refine h₂.probes (fun _ => rfl) fun _ x₃ h₃ => ?_
  dsimp only
  split
  · exact h₃.raises
  · refine h₃.runs (fun completed hcode => ?_)
      fun completed x' hzero hempty hone => ?_
    · exact ⟨_, if_pos hcode⟩
    · rw [if_neg (by simpa using hzero)]
      exact awaitStarted_clean s _ rfl hempty hone

/--
A start leaves a container behind exactly if a failed `docker run` left one
running, or a question raised what no handler around it catches.
-/
theorem startRuntime_clean_iff {s : Settings} {runtime : UnifiedRuntimeRecord}
    {artifact : ArtifactBundle} {before after : World}
    {r : Except Exn UnifiedRuntimeRecord} {outcomes : List CallOutcome}
    (h : Exec recording (startRuntime s runtime artifact) (before, []) r
      (after, outcomes)) :
    CleanStart before r after ↔ ∀ o ∈ outcomes, Benign o :=
  (startRuntime_recorded s runtime artifact before).exec h

/-! ## Two starts -/

def llamaRuntime : UnifiedRuntimeRecord where
  deploymentId := "llama-1"
  workloadId := "llama"
  hotkey := "hotkey"
  workloadKind := .inference
  status := .starting

def llamaArtifact : ArtifactBundle where
  image := "llama:8b"
  stagedArtifactPath := "llama-1.artifact.json"
  runtimeKind := "vllm"
  modelIdentifier := some "llama:8b"
  multiNode := none

def quietHost : Environment := cooperative [] (fun _ => none) fun _ => none

/-- The server closes the connection while its answer is read. -/
def resettingHost : Environment := fun w e =>
  match e with
  | .probe (.httpGet _) =>
      { result := .error (.osError "[Errno 104] Connection reset by peer") }
  | e => quietHost w e

def startOn (env : Environment) :
    Option (Except Exn UnifiedRuntimeRecord × Recorded) :=
  rerun env (startRuntime {} llamaRuntime llamaArtifact) (World.init {}, [])

theorem startRuntime_clean_iff_quietHost :
    ∃ r after outcomes, startOn quietHost = some (r, after, outcomes) ∧
      CleanStart (World.init {}) r after := by
  have hbenign : (startOn quietHost).any
      fun run => run.2.2.all isBenign := by decide +kernel
  obtain ⟨⟨r, after, outcomes⟩, hrun, hall⟩ :=
    (Option.any_eq_true _ _).mp hbenign
  exact ⟨r, after, outcomes, hrun,
    (startRuntime_clean_iff (rerun_exec hrun)).mpr fun o ho =>
      (isBenign_iff o).mp (List.all_eq_true.mp hall o ho)⟩

/-- The result is the exception of the last question, and a container runs. -/
def leavesRunning : Except Exn UnifiedRuntimeRecord × Recorded → Bool
  | (.error e, after, _) =>
      e = .osError "[Errno 104] Connection reset by peer" ∧
        after.containers.any fun c => c.running ∧ c.id ∈ after.issuedIds
  | _ => false

theorem container_left_running :
    ∃ e after outcomes,
      Exec recording (startRuntime {} llamaRuntime llamaArtifact)
        (World.init {}, []) (.error e) (after, outcomes) ∧
      e = .osError "[Errno 104] Connection reset by peer" ∧
      ¬CleanStart (World.init {}) (.error e) after := by
  have hleaves : (startOn resettingHost).any leavesRunning := by decide +kernel
  obtain ⟨⟨r, after, outcomes⟩, hrun, hleft⟩ := (Option.any_eq_true _ _).mp hleaves
  cases r with
  | ok started => simp [leavesRunning] at hleft
  | error e =>
      simp only [leavesRunning, decide_eq_true_eq, List.any_eq_true] at hleft
      obtain ⟨he, c, hc, hrunning, hissued⟩ := hleft
      refine ⟨e, after, outcomes, rerun_exec hrun, he, fun hclean => ?_⟩
      have := hclean c hc ⟨hissued, by simp [World.init]⟩
      simp [hrunning] at this

end DockerInferenceBackend

end NodeAgent
