import NodeAgent.Foundation.SharedDict
import NodeAgent.Infrastructure.StateSave

/-!
# The repository as several threads use it

The methods of the repository down to the single steps they make on the maps
and on the files.  The reentrant lock covers a change together with its save,
and the file takes on a new state in one step of that.
-/

namespace NodeAgent.NodeAgentRepository

open Effectful FileSystem Program

variable {Raw Placement Collateral β : Type}

/-! ## Steps -/

inductive StoreCall (β : Type) where
  | getRuntime (deploymentId : String)
  | setRuntime (runtime : UnifiedRuntimeRecord)
  | popRuntime (deploymentId : String)
  | length (m : StateMap)
  /-- The next item of a walk that began on `size` items and has passed `index`. -/
  | next (m : StateMap) (size index : Nat)
  | file (op : FileOp β)

abbrev StoreCall.Ret (Placement Collateral : Type) : StoreCall β → Type
  | .getRuntime _ | .popRuntime _ => Option UnifiedRuntimeRecord
  | .length _ => Nat
  | .next m _ _ => Option (String × m.Record Placement Collateral)
  | .setRuntime _ | .file _ => Unit

/-- For each operation on the files still to come, how much of it a failure leaves done. -/
abbrev Failures := Nat → Option Nat

/-- What is left of them after `k` operations. -/
def Failures.after (failures : Failures) (k : Nat) : Failures :=
  fun i => failures (i + k)

def Failures.answers (failures : Failures) (i : Nat) : OpAnswer :=
  match failures i with
  | none => .done
  | some written => .fails written

/-- The repository, and what the disk will answer. -/
structure Hosted (Placement Collateral β : Type) where
  repository : Repository Placement Collateral β
  failures : Failures

def changedSize : Exn :=
  .unexpected "dictionary changed size during iteration"

def diskError : Exn := .osError "state file"

def leaves : Ending → Except Exn Unit
  | .returned => .ok ()
  | _ => .error diskError

namespace Hosted

def withRuntimes (hosted : Hosted Placement Collateral β)
    (runtimes : Dict String UnifiedRuntimeRecord) :
    Hosted Placement Collateral β :=
  { hosted with repository := { hosted.repository with
      tables := Function.update hosted.repository.tables .runtimes runtimes } }

def perform : (e : StoreCall β) → Hosted Placement Collateral β →
    Except Exn (e.Ret Placement Collateral) × Hosted Placement Collateral β
  | .getRuntime d, v => (.ok ((v.repository.tables .runtimes).get? d), v)
  | .setRuntime runtime, v => (.ok (), v.withRuntimes
      ((v.repository.tables .runtimes).insert runtime.deploymentId runtime))
  | .popRuntime d, v => (.ok ((v.repository.tables .runtimes).get? d),
      v.withRuntimes ((v.repository.tables .runtimes).erase d))
  | .length m, v => (.ok (v.repository.tables m).entries.length, v)
  | .next m size index, v =>
      (if (v.repository.tables m).entries.length = size then
        .ok (v.repository.tables m).entries[index]?
      else .error changedSize, v)
  | .file op, v =>
      match v.failures 0 with
      | none => (.ok (), ⟨{ v.repository with
            slot := op.effect v.repository.slot },
          v.failures.after 1⟩)
      | some written => (.error diskError, ⟨{ v.repository with
            slot := op.failed v.repository.slot written },
          v.failures.after 1⟩)

end Hosted

/-! ## Methods -/

/-- Code that uses the repository and its lock. -/
abbrev Shared (Placement Collateral β α : Type) :=
  Locked (StoreCall β) (StoreCall.Ret Placement Collateral) Exn α

namespace Shared

def items (m : StateMap) : Shared Placement Collateral β
    (List (String × m.Record Placement Collateral)) :=
  walk (onObject (StoreCall.length m)) fun size index =>
    onObject (StoreCall.next m size index)

/-- `open`, `json.dump` and `os.replace`, up to the first that raises. -/
def files (ops : List (FileOp β)) : Shared Placement Collateral β Unit :=
  forEach (fun op => onObject (StoreCall.file op)) ops

variable (models : RecordModels Raw Placement Collateral)
  (format : StateFormat Raw β)

/-- `{k: v.model_dump(mode="json") for k, v in self.<map>.items()}` -/
def dumped (m : StateMap) :
    Shared Placement Collateral β (List (String × Raw)) :=
  (items m).bind fun found => .done (.ok (found.map fun item =>
    (item.1, models.dump m item.2)))

/-- The document with the given items under the four names. -/
def document (found : StateMap → List (String × Raw)) : StateDocument Raw :=
  .object fun m => .object (Dict.ofItems (found m))

def save : Shared Placement Collateral β Unit :=
  locked ((dumped models .runtimes).bind fun runtimes =>
    (dumped models .placements).bind fun placements =>
    (dumped models .volumes).bind fun volumes =>
    (dumped models .collateral).bind fun collateral =>
    files (replaceOps (format.dump (document fun
      | .runtimes => runtimes
      | .placements => placements
      | .volumes => volumes
      | .collateral => collateral))))

def upsertRuntime (runtime : UnifiedRuntimeRecord) :
    Shared Placement Collateral β Unit :=
  locked ((onObject (StoreCall.setRuntime runtime)).bind fun _ => save models format)

def getRuntime (deploymentId : String) :
    Shared Placement Collateral β (Option UnifiedRuntimeRecord) :=
  locked (onObject (StoreCall.getRuntime deploymentId))

def removeRuntime (deploymentId : String) :
    Shared Placement Collateral β Unit :=
  locked ((onObject (StoreCall.popRuntime deploymentId)).bind fun _ =>
    save models format)

def snapshotRuntimeItems : Shared Placement Collateral β
    (List (String × UnifiedRuntimeRecord)) :=
  locked (items .runtimes)

def snapshotRuntimes :
    Shared Placement Collateral β (List UnifiedRuntimeRecord) :=
  locked ((items .runtimes).bind fun found =>
    .done (.ok (found.map Prod.snd)))

end Shared

inductive Method where
  | save
  | change (change : Change)
  | getRuntime (deploymentId : String)
  | snapshotRuntimes
  | snapshotRuntimeItems

abbrev Method.Ret : Method → Type
  | .save | .change _ => Unit
  | .getRuntime _ => Option UnifiedRuntimeRecord
  | .snapshotRuntimes => List UnifiedRuntimeRecord
  | .snapshotRuntimeItems => List (String × UnifiedRuntimeRecord)

def Method.body (models : RecordModels Raw Placement Collateral)
    (format : StateFormat Raw β) :
    (o : Method) → Shared Placement Collateral β o.Ret
  | .save => Shared.save models format
  | .change (.upsertRuntime runtime) =>
      Shared.upsertRuntime models format runtime
  | .change (.removeRuntime d) => Shared.removeRuntime models format d
  | .getRuntime d => Shared.getRuntime d
  | .snapshotRuntimes => Shared.snapshotRuntimes
  | .snapshotRuntimeItems => Shared.snapshotRuntimeItems

/-! ## One method by itself -/

section Run

variable (models : RecordModels Raw Placement Collateral)
  (format : StateFormat Raw β) (v : Hosted Placement Collateral β)

theorem run_items (m : StateMap) :
    (Shared.items m).run Hosted.perform v =
      (.ok (v.repository.tables m).entries, v) :=
  run_walk (run_onObject ..) fun index => by
    rw [run_onObject]
    simp [Hosted.perform]

theorem run_dumped (m : StateMap) :
    (Shared.dumped models m).run Hosted.perform v =
      (.ok ((v.repository.tables m).mapValues (models.dump m)).entries, v) := by
  rw [Shared.dumped, run_bind, run_items]
  rfl

theorem run_files (ops : List (FileOp β)) : ∃ k,
    (Shared.files ops).run Hosted.perform v =
      (leaves (FileOp.perform v.repository.slot v.failures.answers ops).2,
      ⟨{ v.repository with slot :=
        (FileOp.perform v.repository.slot v.failures.answers ops).1 },
        v.failures.after k⟩) := by
  induction ops generalizing v with
  | nil => exact ⟨0, run_done ..⟩
  | cons op ops ih =>
      rw [Shared.files, forEach, run_bind, run_onObject, Hosted.perform]
      cases hanswer : v.failures 0 with
      | none =>
          obtain ⟨k, hrest⟩ := ih ⟨{ v.repository with
            slot := op.effect v.repository.slot }, v.failures.after 1⟩
          refine ⟨k + 1, ?_⟩
          rw [FileOp.perform, show v.failures.answers 0 = .done by
            rw [Failures.answers, hanswer]]
          exact hrest
      | some written =>
          refine ⟨1, ?_⟩
          rw [FileOp.perform, show v.failures.answers 0 = .fails written by
            rw [Failures.answers, hanswer]]
          rfl

theorem perform_ending (failures : Failures) (slot : Slot β)
    (ops : List (FileOp β)) :
    (FileOp.perform slot failures.answers ops).2 ≠ .crashed := by
  induction ops generalizing slot failures with
  | nil =>
      intro h
      cases h
  | cons op ops ih =>
      rw [FileOp.perform]
      cases hanswer : failures 0 with
      | none =>
          rw [show failures.answers 0 = .done by
            rw [Failures.answers, hanswer]]
          exact ih (failures.after 1) _
      | some written =>
          rw [show failures.answers 0 = .fails written by
            rw [Failures.answers, hanswer]]
          intro h
          cases h

theorem document_dumped (tables : StateTables Placement Collateral) :
    Shared.document (fun m => ((tables m).mapValues (models.dump m)).entries) =
      save models tables := by
  simp only [Shared.document, Dict.ofItems_entries, save]

theorem run_save : ∃ k,
    (Shared.save models format).run Hosted.perform v =
      (leaves (FileOp.perform v.repository.slot v.failures.answers
        (replaceOps (pieces models format v.repository.tables))).2,
      ⟨{ v.repository with slot := (FileOp.perform v.repository.slot
        v.failures.answers
        (replaceOps (pieces models format v.repository.tables))).1 },
        v.failures.after k⟩) := by
  have hdocument : Shared.document (fun
      | .runtimes =>
          ((v.repository.tables .runtimes).mapValues (models.dump _)).entries
      | .placements =>
          ((v.repository.tables .placements).mapValues (models.dump _)).entries
      | .volumes =>
          ((v.repository.tables .volumes).mapValues (models.dump _)).entries
      | .collateral => ((v.repository.tables .collateral).mapValues
          (models.dump _)).entries) = save models v.repository.tables := by
    rw [← document_dumped]
    congr 1
    funext m
    cases m <;> rfl
  obtain ⟨k, hfiles⟩ := run_files v
    (replaceOps (pieces models format v.repository.tables))
  refine ⟨k, ?_⟩
  rw [Shared.save, run_locked]
  simp only [run_bind, run_dumped]
  rw [hdocument]
  exact hfiles

theorem run_change (change : Change) : ∃ k,
    ((Method.change change).body models format).run Hosted.perform v =
      (leaves (Attempt.run models format v.repository
        ⟨change, v.failures.answers⟩).2,
      ⟨(Attempt.run models format v.repository
        ⟨change, v.failures.answers⟩).1, v.failures.after k⟩) := by
  obtain ⟨k, hsave⟩ := run_save models format
    (v.withRuntimes (change.applyRuntimes (v.repository.tables .runtimes)))
  refine ⟨k, ?_⟩
  cases change with
  | upsertRuntime runtime =>
      simp only [Method.body, Shared.upsertRuntime, run_locked]
      rw [run_bind, run_onObject]
      exact hsave
  | removeRuntime d =>
      simp only [Method.body, Shared.removeRuntime, run_locked]
      rw [run_bind, run_onObject]
      exact hsave

end Run

/-! ## The repository with methods of one step -/

/-- `save` as a call of the repository that changes nothing else. -/
def saved (models : RecordModels Raw Placement Collateral)
    (format : StateFormat Raw β) (repository : Repository Placement Collateral β)
    (failures : Failures) : Repository Placement Collateral β × Ending :=
  let result := FileOp.perform repository.slot failures.answers
    (replaceOps (pieces models format repository.tables))
  ({ repository with slot := result.1 }, result.2)

def stepwise (models : RecordModels Raw Placement Collateral)
    (format : StateFormat Raw β) :
    Machine Method Method.Ret Exn (Repository Placement Collateral β) where
  Step
    | a, .save, r, b => ∃ failures,
        r = leaves (saved models format a failures).2 ∧
          b = (saved models format a failures).1
    | a, .change change, r, b => ∃ failures : Failures,
        r = leaves (Attempt.run models format a
          ⟨change, failures.answers⟩).2 ∧
          b = (Attempt.run models format a ⟨change, failures.answers⟩).1
    | a, .getRuntime d, r, b => r = .ok ((a.tables .runtimes).get? d) ∧ b = a
    | a, .snapshotRuntimes, r, b =>
        r = .ok (a.tables .runtimes).values ∧ b = a
    | a, .snapshotRuntimeItems, r, b =>
        r = .ok (a.tables .runtimes).entries ∧ b = a

section Methods

variable {models : RecordModels Raw Placement Collateral}
  {format : StateFormat Raw β}

theorem Method.stepwise_run (o : Method) (v : Hosted Placement Collateral β) :
    (stepwise models format).Step v.repository o
      ((o.body models format).run Hosted.perform v).1
      ((o.body models format).run Hosted.perform v).2.repository := by
  cases o with
  | save =>
      obtain ⟨k, hrun⟩ := run_save models format v
      rw [Method.body, hrun]
      exact ⟨v.failures, rfl, rfl⟩
  | change change =>
      obtain ⟨k, hrun⟩ := run_change models format v change
      rw [hrun]
      exact ⟨v.failures, rfl, rfl⟩
  | getRuntime d =>
      rw [Method.body, Shared.getRuntime, run_locked, run_onObject]
      exact ⟨rfl, rfl⟩
  | snapshotRuntimes =>
      rw [Method.body, Shared.snapshotRuntimes, run_locked, run_bind,
        run_items]
      exact ⟨rfl, rfl⟩
  | snapshotRuntimeItems =>
      rw [Method.body, Shared.snapshotRuntimeItems, run_locked, run_items]
      exact ⟨rfl, rfl⟩

/-! ## Methods hold the lock -/

theorem balanced_items (m : StateMap) :
    Balanced (Shared.items m : Shared Placement Collateral β _) :=
  balanced_walk (balanced_onObject _) fun _ _ => balanced_onObject _

theorem balanced_dumped (m : StateMap) :
    Balanced (Shared.dumped models m : Shared Placement Collateral β _) :=
  (balanced_items m).bind fun _ => balanced_done _

theorem balanced_files (ops : List (FileOp β)) :
    Balanced (Shared.files ops : Shared Placement Collateral β _) := by
  induction ops with
  | nil => exact balanced_done _
  | cons op ops ih => exact (balanced_onObject _).bind fun _ => ih

theorem balanced_saving : Balanced
    ((Shared.dumped models .runtimes).bind fun runtimes =>
      (Shared.dumped models .placements).bind fun placements =>
      (Shared.dumped models .volumes).bind fun volumes =>
      (Shared.dumped models .collateral).bind fun collateral =>
      Shared.files (replaceOps (format.dump (Shared.document fun
        | .runtimes => runtimes
        | .placements => placements
        | .volumes => volumes
        | .collateral => collateral))) :
      Shared Placement Collateral β Unit) :=
  (balanced_dumped _).bind fun _ => (balanced_dumped _).bind fun _ =>
    (balanced_dumped _).bind fun _ => (balanced_dumped _).bind fun _ =>
      balanced_files _

theorem Method.isMethod_body (o : Method) : IsMethod
    (o.body models format : Shared Placement Collateral β o.Ret) := by
  cases o with
  | save => exact balanced_saving.isMethod
  | change change =>
      cases change with
      | upsertRuntime runtime =>
          exact ((balanced_onObject _).bind fun _ =>
            balanced_saving.locked).isMethod
      | removeRuntime d =>
          exact ((balanced_onObject _).bind fun _ =>
            balanced_saving.locked).isMethod
  | getRuntime d => exact (balanced_onObject _).isMethod
  | snapshotRuntimes =>
      exact ((balanced_items _).bind fun _ => balanced_done _).isMethod
  | snapshotRuntimeItems => exact (balanced_items _).isMethod

/-! ## The file takes on a new state at once -/

def Unreplacing : Locking (StoreCall β) → Prop
  | .call (.file .replace) => False
  | _ => True

def Never {α : Type} (p : Shared Placement Collateral β α) : Prop :=
  Always (fun _ _ => True) Unreplacing p fun _ => True

def Once {α : Type} : Shared Placement Collateral β α → Prop
  | .done _ => True
  | .call e next =>
      (Unreplacing e ∧ ∀ r, Once (next r)) ∨ ∀ r, Never (next r)

section Once

variable {α γ : Type} {p : Shared Placement Collateral β α}

theorem never_onObject (e : StoreCall β) (h : Unreplacing (.call e)) :
    Never (onObject e : Shared Placement Collateral β _) :=
  ⟨h, fun _ _ _ => trivial⟩

theorem never_done (r : Except Exn α) :
    Never (.done r : Shared Placement Collateral β α) := trivial

theorem Never.bind {f : α → Shared Placement Collateral β γ} (hp : Never p)
    (hf : ∀ a, Never (f a)) : Never (p.bind f) :=
  always_bind hp (fun a _ => hf a) fun _ _ => trivial

theorem Never.once (hp : Never p) : Once p := by
  induction p with
  | done r => trivial
  | call e next ih => exact .inl ⟨hp.1, fun r => ih r (hp.2 r () trivial)⟩

theorem Never.bind_once {f : α → Shared Placement Collateral β γ}
    (hp : Never p) (hf : ∀ a, Once (f a)) : Once (p.bind f) := by
  induction p with
  | done r =>
      cases r with
      | ok a => exact hf a
      | error x => trivial
  | call e next ih => exact .inl ⟨hp.1, fun r => ih r (hp.2 r () trivial)⟩

theorem Once.locked (hp : Once p) : Once (locked p) := by
  refine .inl ⟨trivial, fun r => ?_⟩
  cases r with
  | error x => trivial
  | ok =>
      change Once (p.attempt.bind fun r => release.bind fun _ => .done r)
      have hrelease : ∀ r : Except Exn α, Never (release.bind fun _ => .done r :
          Shared Placement Collateral β α) := by
        refine fun r => ⟨trivial, fun a _ _ => ?_⟩
        cases a <;> trivial
      induction p with
      | done r => exact (hrelease r).once
      | call e next ih =>
          rcases hp with ⟨he, hnext⟩ | hnext
          · exact .inl ⟨he, fun r => ih r (hnext r)⟩
          · refine .inr fun r => ?_
            refine always_bind (m := fun _ => True) (always_attempt (hnext r))
              (fun a _ => hrelease a) fun _ _ => trivial

theorem once_files (pieces : List (List β)) :
    Once (Shared.files (replaceOps pieces) :
      Shared Placement Collateral β Unit) := by
  refine (never_onObject (.file .openTmp) trivial).bind_once fun _ => ?_
  induction pieces with
  | nil =>
      refine .inr fun r => ?_
      cases r <;> exact never_done _
  | cons piece pieces ih =>
      exact (never_onObject (.file (.write piece)) trivial).bind_once
        fun _ => ih

theorem never_walkFrom {δ : Type}
    {next : Nat → Shared Placement Collateral β (Option δ)}
    (hnext : ∀ index, Never (next index)) (left index : Nat) :
    Never (walkFrom next left index) := by
  induction left generalizing index with
  | zero => exact (hnext index).bind fun _ => never_done _
  | succ left ih =>
      refine (hnext index).bind fun item => ?_
      cases item with
      | none => exact never_done _
      | some item => exact (ih _).bind fun _ => never_done _

theorem never_items (m : StateMap) :
    Never (Shared.items m : Shared Placement Collateral β _) :=
  (never_onObject (.length m) trivial).bind fun size =>
    never_walkFrom (fun index => never_onObject (.next m size index) trivial)
      _ _

theorem never_dumped (m : StateMap) :
    Never (Shared.dumped models m : Shared Placement Collateral β _) :=
  (never_items m).bind fun _ => never_done _

theorem once_save :
    Once (Shared.save models format : Shared Placement Collateral β _) :=
  Once.locked <| (never_dumped _).bind_once fun _ =>
    (never_dumped _).bind_once fun _ => (never_dumped _).bind_once fun _ =>
      (never_dumped _).bind_once fun _ => once_files _

theorem Method.once_body (o : Method) :
    Once (o.body models format : Shared Placement Collateral β o.Ret) := by
  cases o with
  | save => exact once_save
  | change change =>
      cases change with
      | upsertRuntime runtime =>
          exact Once.locked ((never_onObject (.setRuntime runtime)
            trivial).bind_once fun _ => once_save)
      | removeRuntime d =>
          exact Once.locked ((never_onObject (.popRuntime d)
            trivial).bind_once fun _ => once_save)
  | getRuntime d =>
      exact (never_onObject (.getRuntime d) trivial).once.locked
  | snapshotRuntimes =>
      exact ((never_items _).bind fun _ => never_done _).once.locked
  | snapshotRuntimeItems => exact (never_items _).once.locked

/-! ### What a block makes of the file -/

theorem perform_file {e : StoreCall β} (h : Unreplacing (.call e))
    (v : Hosted Placement Collateral β) :
    (Hosted.perform e v).2.repository.slot.file = v.repository.slot.file := by
  cases e with
  | file op =>
      cases op with
      | replace => exact h.elim
      | openTmp =>
          cases hanswer : v.failures 0 with
          | none => simp [Hosted.perform, hanswer, FileOp.effect]
          | some written =>
              by_cases hw : written = 0 <;>
                simp [Hosted.perform, hanswer, FileOp.failed, FileOp.effect,
                  hw]
      | write piece =>
          cases hanswer : v.failures 0 <;>
            simp [Hosted.perform, hanswer, FileOp.failed, FileOp.effect]
  | _ => rfl

theorem Never.run_file (hp : Never p) (v : Hosted Placement Collateral β) :
    (p.run Hosted.perform v).2.repository.slot.file =
      v.repository.slot.file := by
  induction p generalizing v with
  | done r => rw [run_done]
  | call e next ih =>
      cases e with
      | acquire => exact ih (.ok ()) (hp.2 _ () trivial) v
      | release => exact ih (.ok ()) (hp.2 _ () trivial) v
      | call e =>
          rw [Locked.run, ih _ (hp.2 _ () trivial)]
          exact perform_file hp.1 v

variable {ι : Type} {i : ι}

theorem step_file {e : Locking (StoreCall β)}
    {r : Except Exn (e.Ret (StoreCall.Ret Placement Collateral))}
    {m m' : Monitored ι (Hosted Placement Collateral β)} (h : Unreplacing e)
    (hstep : (reentrant (answering Hosted.perform) i).Step m e r m') :
    m'.object.repository.slot.file = m.object.repository.slot.file := by
  cases e with
  | acquire => obtain ⟨-, ⟨-, rfl⟩ | ⟨_, -, rfl⟩⟩ := hstep <;> rfl
  | release => obtain ⟨-, ⟨-, rfl⟩ | ⟨_, -, rfl⟩⟩ := hstep <;> rfl
  | call e =>
      have hanswer : Hosted.perform e m.object = (r, m'.object) := hstep.2
      rw [← perform_file h m.object, hanswer]

theorem Never.reaches {q : Shared Placement Collateral β α}
    {m m' : Monitored ι (Hosted Placement Collateral β)} (hp : Never p)
    (h : Reaches (reentrant (answering Hosted.perform) i) p m q m') :
    Never q := by
  induction h with
  | refl => exact hp
  | step _ _ ih => exact ih (hp.2 _ () trivial)

theorem Once.reaches_file {q : Shared Placement Collateral β α}
    {m m' : Monitored ι (Hosted Placement Collateral β)} (hp : Once p)
    (h : Reaches (reentrant (answering Hosted.perform) i) p m q m') :
    m'.object.repository.slot.file = m.object.repository.slot.file ∨
      m'.object.repository.slot.file =
        (p.run Hosted.perform m.object).2.repository.slot.file := by
  have hrun := reaches_run h
  suffices hq : (m'.object.repository.slot.file =
      m.object.repository.slot.file) ∨ Never q by
    refine hq.imp_right fun hnever => ?_
    rw [hrun, hnever.run_file]
  clear hrun
  induction h with
  | refl => exact .inl rfl
  | @step e next r s s' _ _ first rest ih =>
      rcases hp with ⟨he, hnext⟩ | hnext
      · rw [← step_file he first]
        exact ih (hnext r)
      · exact .inr ((hnext r).reaches rest)

end Once

/-! ## Any number of threads -/

variable {ι : Type} [DecidableEq ι] {α : Type}

/-- A program that uses the repository by its methods. -/
abbrev Client (α : Type) := Program Method Method.Ret Exn α

abbrev threads (models : RecordModels Raw Placement Collateral)
    (format : StateFormat Raw β) (clients : ι → Client α) :
    ι → Shared Placement Collateral β α :=
  fun i => compile (Method.body models format) (clients i)

omit [DecidableEq ι] in
theorem stepwise_of_atomic {i : ι} {o : Method}
    {v v' : Hosted Placement Collateral β} {r : Except Exn o.Ret}
    (h : (atomic (answering Hosted.perform) (Method.body models format) i).Step
      v o r v') :
    (stepwise models format).Step v.repository o r v'.repository := by
  have hstep : (stepwise models format).Step v.repository o
      ((o.body models format).run Hosted.perform v).1
      ((o.body models format).run Hosted.perform v).2.repository :=
    o.stepwise_run v
  rwa [atomic_answering h] at hstep

theorem saved_parses {a : Repository Placement Collateral β}
    (h : Parses format a.slot) (failures : Failures) :
    Parses format (saved models format a failures).1.slot := by
  intro text htext
  have hreplaced := replaced a.slot failures.answers
    (pieces models format a.tables)
  unfold Replaced at hreplaced
  split at hreplaced
  · rw [saved] at htext
    rw [hreplaced] at htext
    obtain rfl := Option.some.inj htext
    rw [pieces, format.parse_dump]
    rfl
  · exact h text (hreplaced ▸ htext)
  · rename_i hcrashed
    exact absurd hcrashed (perform_ending _ _ _)

theorem stepwise_parses {a b : Repository Placement Collateral β} {o : Method}
    {r : Except Exn o.Ret} (h : Parses format a.slot)
    (hstep : (stepwise models format).Step a o r b) :
    Parses format b.slot := by
  cases o with
  | save =>
      obtain ⟨failures, -, rfl⟩ := hstep
      exact saved_parses h failures
  | change change =>
      obtain ⟨failures, -, rfl⟩ := hstep
      exact Parses.run h _
  | getRuntime d => obtain ⟨-, rfl⟩ := hstep; exact h
  | snapshotRuntimes => obtain ⟨-, rfl⟩ := hstep; exact h
  | snapshotRuntimeItems => obtain ⟨-, rfl⟩ := hstep; exact h

variable {clients clients' : ι → Client α}
  {pool : ι → Shared Placement Collateral β α}
  {v v' : Hosted Placement Collateral β}
  {m : Monitored ι (Hosted Placement Collateral β)}

omit [DecidableEq ι] in
theorem matches_file
    (h : Matches (answering Hosted.perform) (Method.body models format)
      clients' v' pool m) :
    m.object.repository.slot.file = v'.repository.slot.file ∨
      ∃ i o next, clients' i = .call o next ∧
        (∀ r, pool i ≠ .done r) ∧
        m.object.repository.slot.file =
          ((o.body models format).run Hosted.perform
            v').2.repository.slot.file := by
  cases howner : m.owner with
  | none => exact .inl (by rw [h.free howner])
  | some holder =>
      obtain ⟨o, next, q, hclient, hpool, hholds, hreach⟩ :=
        h.inside holder.1 holder.2 howner
      refine (o.once_body.reaches_file hreach).imp_right fun hfile =>
        ⟨holder.1, o, next, hclient, fun r hdone => ?_, hfile⟩
      obtain ⟨e, rest, rfl⟩ := hholds.calls
      cases hpool.symm.trans hdone

/--
However many threads use the repository, and whatever the disk fails at, each
that has returned has returned what it returns when every method is one step,
and these steps leave the maps and the files as they are.  The state file
parses at every moment, and the threads never block one another.
-/
theorem repository_stepwise (hparses : Parses format v.repository.slot)
    (h : Interleaves (reentrant (answering Hosted.perform))
      (threads models format clients) ⟨none, v⟩ pool m) :
    (∃ clients' a, Interleaves (fun _ => stepwise models format) clients
        v.repository clients' a ∧
      (m.owner = none → m.object.repository = a) ∧
      ∀ i r, pool i = .done r → clients' i = .done r) ∧
    Parses format m.object.repository.slot ∧
    ((∀ i, ∃ r, pool i = .done r) ∨
      ∃ i e next r m', pool i = .call e next ∧
        (reentrant (answering Hosted.perform) i).Step m e r m') := by
  obtain ⟨clients', v', hrun, hmatch⟩ :=
    interleaves_atomic Method.isMethod_body h
  have hstepwise := hrun.simulate (N := fun _ => stepwise models format)
    (f := Hosted.repository) fun i s o r s' hstep => stepwise_of_atomic hstep
  have hparses' : Parses format v'.repository.slot :=
    hstepwise.invariant (I := fun _ a => Parses format a.slot)
      (fun _ _ _ _ _ _ _ h _ hstep => stepwise_parses h hstep) hparses
  refine ⟨⟨clients', v'.repository, hstepwise, fun hfree => ?_,
    fun i r hi => hmatch.client_done Method.isMethod_body hi⟩, ?_, ?_⟩
  · rw [hmatch.free hfree]
  · intro text htext
    rcases matches_file hmatch with hfile | ⟨i, o, next, -, -, hfile⟩
    · exact hparses' text (hfile ▸ htext)
    · exact stepwise_parses hparses' (o.stepwise_run v') text (hfile ▸ htext)
  · by_cases hall : ∀ i, ∃ r, pool i = .done r
    · exact .inl hall
    · right
      obtain ⟨i, hi⟩ := not_forall.mp hall
      cases hpool : pool i with
      | done r => exact absurd ⟨r, hpool⟩ hi
      | call e next =>
          exact hmatch.progress Method.isMethod_body
            (fun a e => ⟨_, _, rfl⟩) hpool

/-! ## What a restart finds -/

/-- Nothing fails. -/
def noFailures : Failures := fun _ => none

omit [DecidableEq ι] in
theorem perform_noFailures (slot : Slot β) (ops : List (FileOp β)) :
    (FileOp.perform slot noFailures.answers ops).2 = .returned := by
  cases hending : (FileOp.perform slot noFailures.answers ops).2 with
  | returned => rfl
  | crashed => exact absurd hending (perform_ending _ _ _)
  | raised =>
      obtain ⟨i, -, -, written, hfails⟩ := perform_raised_iff.mp hending
      cases hfails

/-- What a reload would give is what memory holds, and nothing will fail. -/
def InStep (models : RecordModels Raw Placement Collateral)
    (format : StateFormat Raw β) (v : Hosted Placement Collateral β) : Prop :=
  v.failures = noFailures ∧
    reloaded models format v.repository.slot =
      models.dumped (v.repository.tables .runtimes)

omit [DecidableEq ι] in
theorem reloaded_congr {slot slot' : Slot β} (h : slot.file = slot'.file) :
    reloaded models format slot = reloaded models format slot' := by
  rw [reloaded, h, reloaded]

theorem InStep.run (hmodels : models.Redumps) (h : InStep models format v)
    (o : Method) :
    InStep models format ((o.body models format).run Hosted.perform v).2 := by
  obtain ⟨hfailures, hsynced⟩ := h
  have hafter : ∀ k, v.failures.after k = noFailures := fun k => by
    rw [hfailures]
    rfl
  cases o with
  | save =>
      obtain ⟨k, hrun⟩ := run_save models format v
      rw [Method.body, hrun]
      refine ⟨hafter k, ?_⟩
      have hreplaced := replaced v.repository.slot v.failures.answers
        (pieces models format v.repository.tables)
      unfold Replaced at hreplaced
      rw [hfailures, perform_noFailures] at hreplaced
      rw [reloaded, hfailures, hreplaced, loadFile_pieces hmodels]
  | change change =>
      obtain ⟨k, hrun⟩ := run_change models format v change
      rw [hrun]
      refine ⟨hafter k, ?_⟩
      have hreplaced := @run_replaced _ _ _ _ models format v.repository
        ⟨change, v.failures.answers⟩
      have hreturned : (Attempt.run models format v.repository
          ⟨change, v.failures.answers⟩).2 = .returned := by
        rw [hfailures]
        exact perform_noFailures _ _
      unfold Replaced at hreplaced
      rw [hreturned] at hreplaced
      rw [reloaded, hreplaced, loadFile_pieces hmodels]
      rfl
  | getRuntime d =>
      rw [Method.body, Shared.getRuntime, run_locked, run_onObject]
      exact ⟨hfailures, hsynced⟩
  | snapshotRuntimes =>
      rw [Method.body, Shared.snapshotRuntimes, run_locked, run_bind,
        run_items]
      exact ⟨hfailures, hsynced⟩
  | snapshotRuntimeItems =>
      rw [Method.body, Shared.snapshotRuntimeItems, run_locked, run_items]
      exact ⟨hfailures, hsynced⟩

end Methods

/-! ### A thread that writes and one that reads -/

def writerAndReader : Bool → Client Unit
  | true => perform (Method.change (.upsertRuntime (tenantRuntime "pod-1")))
  | false => (perform Method.snapshotRuntimes).bind fun _ => .done (.ok ())

def renamedOnly : List Bool := List.replicate 15 true

abbrev SmallRepository := Hosted Unit Unit
  (StateDocument (UnifiedRuntimeRecord ⊕ VolumeRecord ⊕ Unit))

abbrev emptyDisk : SmallRepository :=
  ⟨reopened recordModels (symbolFormat _) ⟨none, none⟩, noFailures⟩

theorem renamedOnly_interleaves : ∃ pool m,
    Interleaves (reentrant (answering Hosted.perform))
      (threads recordModels (symbolFormat _) writerAndReader)
      ⟨none, emptyDisk⟩ pool m ∧
    m.owner = some (true, 1) ∧
    (reloaded recordModels (symbolFormat _)
      m.object.repository.slot).entries.length = 1 := by
  obtain ⟨pool, m, hfollow, howner, hlength⟩ : ∃ pool m,
      follow Hosted.perform renamedOnly
        (threads recordModels (symbolFormat _) writerAndReader)
        ⟨none, emptyDisk⟩ = some (pool, m) ∧ m.owner = some (true, 1) ∧
      (reloaded recordModels (symbolFormat _)
        m.object.repository.slot).entries.length = 1 := ⟨_, _, rfl, rfl, rfl⟩
  exact ⟨pool, m, interleaves_follow hfollow, howner, hlength⟩

theorem repository_stepwise_renamedOnly :
    ∃ m : Monitored Bool SmallRepository, m.owner = some (true, 1) ∧
      Parses (symbolFormat _) m.object.repository.slot := by
  obtain ⟨pool, m, hrun, howner, -⟩ := renamedOnly_interleaves
  exact ⟨m, howner,
    (repository_stepwise (v := emptyDisk) (by simp [Parses, reopened]) hrun).2.1⟩

end NodeAgent.NodeAgentRepository
