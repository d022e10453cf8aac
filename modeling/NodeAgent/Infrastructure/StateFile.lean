import NodeAgent.Protocol
import NodeAgent.Foundation.Dict

/-!
# The state file and its repository

`NodeAgentRepository` reads four maps of records from one JSON file when it is
made and writes all four back at every change.  What `json.load` returns is a
raw value; validating it against a record type and dumping a record are
parameters here.
-/

namespace NodeAgent

open Effectful

inductive StateMap where
  | runtimes
  | placements
  | volumes
  | collateral
  deriving DecidableEq, Repr

namespace StateMap

/-- The maps in the order in which `_load` walks them. -/
def all : List StateMap := [.runtimes, .placements, .volumes, .collateral]

abbrev Record (Placement Collateral : Type) : StateMap → Type
  | .runtimes => UnifiedRuntimeRecord
  | .placements => Placement
  | .volumes => VolumeRecord
  | .collateral => Collateral

end StateMap

/-- `model_validate` and `model_dump` of the record types. -/
structure RecordModels (Raw Placement Collateral : Type) where
  validate : (m : StateMap) → Raw →
    Except Exn (m.Record Placement Collateral)
  dump : (m : StateMap) → m.Record Placement Collateral → Raw

/-- The value under one of the four names of the file's object. -/
inductive StateField (Raw : Type) where
  | missing
  | object (entries : Dict String Raw)
  /-- A list, a string, a number, a truth value or null. -/
  | other

/-- What a state file parses to: an object, or any other JSON value. -/
inductive StateDocument (Raw : Type) where
  | object (field : StateMap → StateField Raw)
  | other

variable {Raw Placement Collateral : Type}

/-- The tables of `NodeAgentRepository`. -/
abbrev StateTables (Placement Collateral : Type) :=
  (m : StateMap) → Dict String (m.Record Placement Collateral)

namespace StateTables

def empty : StateTables Placement Collateral := fun _ => .empty

def store (tables : StateTables Placement Collateral) (m : StateMap)
    (key : String) (record : m.Record Placement Collateral) :
    StateTables Placement Collateral :=
  Function.update tables m ((tables m).insert key record)

end StateTables

namespace NodeAgentRepository

variable (models : RecordModels Raw Placement Collateral)

/-! ## Loading -/

/-- `for key, raw in ….items(): self.<map>[key] = <Record>.model_validate(raw)` -/
def loadEntries (m : StateMap) :
    List (String × Raw) → StateTables Placement Collateral →
      Except Exn Unit × StateTables Placement Collateral
  | [], tables => (.ok (), tables)
  | (key, raw) :: rest, tables =>
      match models.validate m raw with
      | .error e => (.error e, tables)
      | .ok record => loadEntries m rest (tables.store m key record)

def loadMap (m : StateMap) (tables : StateTables Placement Collateral) :
    StateField Raw → Except Exn Unit × StateTables Placement Collateral
  | .missing => (.ok (), tables)
  | .object entries => loadEntries models m entries.entries tables
  -- `.items()` of something that is no object
  | .other => (.error .typeError, tables)

def loadMaps (field : StateMap → StateField Raw) :
    List StateMap → StateTables Placement Collateral →
      Except Exn Unit × StateTables Placement Collateral
  | [], tables => (.ok (), tables)
  | m :: rest, tables =>
      match loadMap models m tables (field m) with
      | (.error e, tables) => (.error e, tables)
      | (.ok (), tables) => loadMaps field rest tables

/-- `_load`: the handler around the loops keeps what was read before the
exception. -/
def load : StateDocument Raw → StateTables Placement Collateral
  | .other => .empty
  | .object field => (loadMaps models field StateMap.all .empty).2

/-! ## Saving -/

def save (tables : StateTables Placement Collateral) : StateDocument Raw :=
  .object fun m => .object ((tables m).mapValues (models.dump m))

/-- A call, and whether its write of the file goes through. -/
inductive Call where
  | upsertRuntime (runtime : UnifiedRuntimeRecord) (written : Bool)
  | removeRuntime (deploymentId : String) (written : Bool)

/-- The runtime that the call sets or removes. -/
def Call.deploymentId : Call → String
  | .upsertRuntime runtime _ => runtime.deploymentId
  | .removeRuntime deploymentId _ => deploymentId

def Call.written : Call → Bool
  | .upsertRuntime _ written => written
  | .removeRuntime _ written => written

/-- The repository in memory beside the file on disk. -/
structure Stored (Raw Placement Collateral : Type) where
  tables : StateTables Placement Collateral
  file : StateDocument Raw

def Call.applyTables (tables : StateTables Placement Collateral) :
    Call → StateTables Placement Collateral
  | .upsertRuntime runtime _ =>
      tables.store .runtimes runtime.deploymentId runtime
  | .removeRuntime deploymentId _ =>
      Function.update tables .runtimes ((tables .runtimes).erase deploymentId)

/-- The file is replaced at once or, when the write fails, not at all. -/
def Call.apply (stored : Stored Raw Placement Collateral) (call : Call) :
    Stored Raw Placement Collateral where
  tables := call.applyTables stored.tables
  file :=
    if call.written then save models (call.applyTables stored.tables)
    else stored.file

def afterCalls (stored : Stored Raw Placement Collateral) :
    List Call → Stored Raw Placement Collateral
  | [] => stored
  | call :: calls => afterCalls (call.apply models stored) calls

def opened (document : StateDocument Raw) :
    Stored Raw Placement Collateral where
  tables := load models document
  file := document

end NodeAgentRepository

/-! ## What loading keeps -/

/-- One thing that `_load` reads: a raw record, or a map that is no object. -/
abbrev LoadStep (Raw : Type) := StateMap × Option (String × Raw)

namespace StateField

def steps (m : StateMap) : StateField Raw → List (LoadStep Raw)
  | .missing => []
  | .object entries => entries.entries.map fun entry => (m, some entry)
  | .other => [(m, none)]

def get? : StateField Raw → String → Option Raw
  | .object entries, key => entries.get? key
  | _, _ => none

theorem mem_steps {m : StateMap} {field : StateField Raw} {key : String}
    {raw : Raw} :
    (m, some (key, raw)) ∈ field.steps m ↔ field.get? key = some raw := by
  cases field with
  | missing => simp [steps, get?]
  | other => simp [steps, get?]
  | object entries => simp [steps, get?, Dict.mem_entries_iff]

theorem fst_of_mem_steps {m : StateMap} {field : StateField Raw}
    {step : LoadStep Raw} (h : step ∈ field.steps m) : step.1 = m := by
  cases field with
  | missing => simp [steps] at h
  | other => simp_all [steps]
  | object entries =>
      simp only [steps, List.mem_map] at h
      obtain ⟨entry, -, rfl⟩ := h
      rfl

theorem steps_nodup (m : StateMap) (field : StateField Raw) :
    (field.steps m).Nodup := by
  cases field with
  | missing => simp [steps]
  | other => simp [steps]
  | object entries =>
      refine entries.nodup.of_map.map fun a b hab => ?_
      simpa using hab

end StateField

namespace StateDocument

/-- Everything that `_load` reads, in its order. -/
def steps : StateDocument Raw → List (LoadStep Raw)
  | .other => []
  | .object field => StateMap.all.flatMap fun m => (field m).steps m

/-- The raw record that the file has under a name in one of its maps. -/
def get? : StateDocument Raw → StateMap → String → Option Raw
  | .other, _, _ => none
  | .object field, m, key => (field m).get? key

theorem mem_steps {document : StateDocument Raw} {m : StateMap}
    {key : String} {raw : Raw} :
    (m, some (key, raw)) ∈ document.steps ↔
      document.get? m key = some raw := by
  cases document with
  | other => simp [steps, get?]
  | object field =>
      simp only [steps, get?, List.mem_flatMap]
      constructor
      · rintro ⟨m', -, hmem⟩
        obtain rfl : m = m' := StateField.fst_of_mem_steps hmem
        exact StateField.mem_steps.mp hmem
      · intro hget
        exact ⟨m, by cases m <;> simp [StateMap.all],
          StateField.mem_steps.mpr hget⟩

theorem steps_nodup (document : StateDocument Raw) :
    document.steps.Nodup := by
  cases document with
  | other => simp [steps]
  | object field =>
      refine List.nodup_flatMap.mpr
        ⟨fun m _ => StateField.steps_nodup m (field m), ?_⟩
      have hall : StateMap.all.Nodup := by decide
      refine hall.imp fun {m m'} hne => ?_
      refine List.disjoint_left.mpr fun step hstep hstep' => hne ?_
      rw [← StateField.fst_of_mem_steps hstep,
        StateField.fst_of_mem_steps hstep']

end StateDocument

namespace NodeAgentRepository

variable (models : RecordModels Raw Placement Collateral)

/-- Whether the loop gets past a step. -/
def loads : LoadStep Raw → Bool
  | (m, some (_, raw)) => (models.validate m raw).isOk
  | (_, none) => false

theorem loads_of_ok {models : RecordModels Raw Placement Collateral}
    {m : StateMap} {raw : Raw} {record : m.Record Placement Collateral}
    (h : models.validate m raw = .ok record) (key : String) :
    loads models (m, some (key, raw)) = true := by
  rw [loads, h]
  rfl

theorem loads_of_error {models : RecordModels Raw Placement Collateral}
    {m : StateMap} {raw : Raw} {e : Exn}
    (h : models.validate m raw = .error e) (key : String) :
    loads models (m, some (key, raw)) = false := by
  rw [loads, h]
  rfl

/-- `_load` over its steps as one loop. -/
def loadSteps :
    List (LoadStep Raw) → StateTables Placement Collateral →
      Except Exn Unit × StateTables Placement Collateral
  | [], tables => (.ok (), tables)
  | (_, none) :: _, tables => (.error .typeError, tables)
  | (m, some (key, raw)) :: rest, tables =>
      match models.validate m raw with
      | .error e => (.error e, tables)
      | .ok record => loadSteps rest (tables.store m key record)

theorem loadEntries_eq (m : StateMap) (entries : List (String × Raw))
    (tables : StateTables Placement Collateral) :
    loadEntries models m entries tables =
      loadSteps models (entries.map fun entry => (m, some entry)) tables := by
  induction entries generalizing tables with
  | nil => rfl
  | cons entry rest ih =>
      obtain ⟨key, raw⟩ := entry
      simp only [loadEntries, List.map_cons, loadSteps]
      cases models.validate m raw with
      | error e => rfl
      | ok record => exact ih _

theorem loadMap_eq (m : StateMap) (field : StateField Raw)
    (tables : StateTables Placement Collateral) :
    loadMap models m tables field =
      loadSteps models (field.steps m) tables := by
  cases field with
  | missing => rfl
  | other => rfl
  | object entries => exact loadEntries_eq models m entries.entries tables

theorem loadSteps_append (steps later : List (LoadStep Raw))
    (tables : StateTables Placement Collateral) :
    loadSteps models (steps ++ later) tables =
      match loadSteps models steps tables with
      | (.error e, tables) => (.error e, tables)
      | (.ok (), tables) => loadSteps models later tables := by
  induction steps generalizing tables with
  | nil => rfl
  | cons step steps ih =>
      obtain ⟨m, _ | ⟨key, raw⟩⟩ := step
      · rfl
      · simp only [List.cons_append, loadSteps]
        cases models.validate m raw with
        | error e => rfl
        | ok record => exact ih _

theorem loadMaps_eq (field : StateMap → StateField Raw)
    (maps : List StateMap) (tables : StateTables Placement Collateral) :
    loadMaps models field maps tables =
      loadSteps models (maps.flatMap fun m => (field m).steps m) tables := by
  induction maps generalizing tables with
  | nil => rfl
  | cons m maps ih =>
      rw [List.flatMap_cons, loadSteps_append, loadMaps, loadMap_eq]
      rcases loadSteps models ((field m).steps m) tables with ⟨e | ⟨⟩, tables'⟩
      · rfl
      · exact ih tables'

theorem load_eq (document : StateDocument Raw) :
    load models document = (loadSteps models document.steps .empty).2 := by
  cases document with
  | other => rfl
  | object field => rw [load, loadMaps_eq, StateDocument.steps]

theorem get?_store (tables : StateTables Placement Collateral)
    (m m' : StateMap) (key key' : String)
    (record : m.Record Placement Collateral) :
    ((tables.store m key record) m').get? key' =
      if h : m = m' then
        if key = key' then some (h ▸ record) else (tables m').get? key'
      else (tables m').get? key' := by
  by_cases h : m = m'
  · subst h
    simp [StateTables.store, Dict.get?_insert]
  · simp [StateTables.store, Function.update_of_ne (Ne.symm h), h]

open Classical in
theorem get?_loadSteps {m : StateMap} {key : String} {raw : Raw}
    {record : m.Record Placement Collateral} {steps : List (LoadStep Raw)}
    (hrecord : models.validate m raw = .ok record)
    (honly : ∀ raw', (m, some (key, raw')) ∈ steps → raw' = raw)
    (tables : StateTables Placement Collateral) :
    (((loadSteps models steps tables).2) m).get? key =
      if (m, some (key, raw)) ∈ steps.takeWhile (loads models) then some record
      else (tables m).get? key := by
  induction steps generalizing tables with
  | nil => simp [loadSteps]
  | cons step steps ih =>
      have honly' : ∀ raw', (m, some (key, raw')) ∈ steps → raw' = raw :=
        fun raw' h => honly raw' (List.mem_cons_of_mem _ h)
      obtain ⟨m', _ | ⟨key', raw'⟩⟩ := step
      · simp [loadSteps, loads]
      · cases hvalidate : models.validate m' raw' with
        | error e =>
            simp [loadSteps, hvalidate, loads_of_error hvalidate key']
        | ok record' =>
            simp only [loadSteps, hvalidate, List.takeWhile_cons,
              loads_of_ok hvalidate key', if_true, List.mem_cons, ih honly',
              get?_store]
            by_cases hmem : (m, some (key, raw)) ∈ steps.takeWhile (loads models)
            · simp [hmem]
            · by_cases hm : m' = m
              · subst hm
                by_cases hkey : key' = key
                · subst hkey
                  obtain rfl := honly raw' (by simp)
                  obtain rfl : record' = record := by
                    simpa [hvalidate] using hrecord
                  simp
                · simp [hmem, hkey, Ne.symm hkey]
              · simp [hmem, hm, Ne.symm hm]

/-! ## What a run of calls keeps -/

def Touched (calls : List Call) (m : StateMap) (key : String) : Prop :=
  m = .runtimes ∧ ∃ call ∈ calls, call.deploymentId = key

theorem get?_applyTables {m : StateMap} {key : String} (call : Call)
    (tables : StateTables Placement Collateral)
    (h : ¬(m = .runtimes ∧ call.deploymentId = key)) :
    ((call.applyTables tables) m).get? key = (tables m).get? key := by
  by_cases hm : m = .runtimes
  · subst hm
    have hkey : call.deploymentId ≠ key := by simpa using h
    cases call with
    | upsertRuntime runtime written =>
        simp only [Call.deploymentId] at hkey
        rw [Call.applyTables, get?_store]
        simp [hkey]
    | removeRuntime deploymentId written =>
        simp only [Call.deploymentId] at hkey
        simp only [Call.applyTables, Function.update_self]
        exact Dict.get?_erase_of_ne _ hkey
  · cases call with
    | upsertRuntime runtime written =>
        simp [Call.applyTables, get?_store, Ne.symm hm]
    | removeRuntime deploymentId written =>
        simp [Call.applyTables, Function.update_of_ne hm]

/--
A record that no call touches stays as it is in memory, and the file has it as
before or as it is dumped from memory.
-/
theorem afterCalls_untouched {m : StateMap} {key : String} {calls : List Call}
    (stored : Stored Raw Placement Collateral) (h : ¬Touched calls m key) :
    ((afterCalls models stored calls).tables m).get? key =
        (stored.tables m).get? key ∧
      ((afterCalls models stored calls).file.get? m key =
          stored.file.get? m key ∨
        (afterCalls models stored calls).file.get? m key =
          ((stored.tables m).get? key).map (models.dump m)) := by
  induction calls generalizing stored with
  | nil => simp [afterCalls]
  | cons call calls ih =>
      have hcall : ¬(m = .runtimes ∧ call.deploymentId = key) :=
        fun hkey => h ⟨hkey.1, call, by simp, hkey.2⟩
      have hcalls : ¬Touched calls m key := by
        rintro ⟨hm, other, hmem, hkey⟩
        exact h ⟨hm, other, List.mem_cons_of_mem _ hmem, hkey⟩
      obtain ⟨htables, hfile⟩ := ih (call.apply models stored) hcalls
      have hsame : ((call.apply models stored).tables m).get? key =
          (stored.tables m).get? key :=
        get?_applyTables call stored.tables hcall
      rw [hsame] at htables hfile
      refine ⟨htables, ?_⟩
      rcases hfile with hkept | hdumped
      · rw [afterCalls, hkept]
        by_cases hwritten : call.written
        · right
          simp only [Call.apply, hwritten, if_true, save, StateDocument.get?,
            StateField.get?, Dict.get?_mapValues]
          rw [← hsame]
          rfl
        · left
          simp [Call.apply, hwritten]
      · exact .inr hdumped

/-- Every valid record that no call touches is in memory and in the file. -/
def Retains (document : StateDocument Raw) (calls : List Call) : Prop :=
  ∀ m key raw record,
    document.get? m key = some raw →
    models.validate m raw = .ok record →
    ¬Touched calls m key →
    let after := afterCalls models (opened models document) calls
    (after.tables m).get? key = some record ∧
      (after.file.get? m key = some raw ∨
        after.file.get? m key = some (models.dump m record))

/-- A valid record that the calls leave alone. -/
def Untouched (calls : List Call) (step : LoadStep Raw) : Prop :=
  loads models step ∧
    ∀ key raw, step.2 = some (key, raw) → ¬Touched calls step.1 key

open Classical in
theorem load_get? {document : StateDocument Raw} {m : StateMap}
    {key : String} {raw : Raw} {record : m.Record Placement Collateral}
    (hraw : document.get? m key = some raw)
    (hrecord : models.validate m raw = .ok record) :
    ((load models document) m).get? key =
      if (m, some (key, raw)) ∈ document.steps.takeWhile (loads models) then
        some record
      else none := by
  rw [load_eq, get?_loadSteps models hrecord]
  · simp [StateTables.empty]
  · intro raw' hmem
    simpa [hraw] using (StateDocument.mem_steps.mp hmem).symm

theorem mem_takeWhile_iff_pairwise {α : Type} {p : α → Bool} {Q : α → Prop}
    {l : List α} (hnodup : l.Nodup) (hQ : ∀ a, Q a → p a) :
    (∀ a ∈ l, Q a → a ∈ l.takeWhile p) ↔ l.Pairwise fun a b => p a ∨ ¬Q b := by
  induction l with
  | nil => simp
  | cons a l ih =>
      obtain ⟨ha, hnodup⟩ := List.nodup_cons.mp hnodup
      rw [List.pairwise_cons, ← ih hnodup]
      by_cases hp : p a
      · simp only [List.mem_cons, List.takeWhile_cons, hp, if_true, true_or,
          implies_true, true_and, forall_eq_or_imp]
        refine forall₂_congr fun b hb => imp_congr_right fun _ => ?_
        have hne : b ≠ a := fun h => ha (h ▸ hb)
        simp [hne]
      · have hnone : ∀ b, b ∉ (a :: l).takeWhile p := by
          simp [hp]
        simp only [hnone, imp_false, List.mem_cons, forall_eq_or_imp, hp,
          Bool.false_eq_true, false_or]
        constructor
        · rintro ⟨-, hall⟩
          exact ⟨hall, fun b hb hQb => absurd hQb (hall b hb)⟩
        · rintro ⟨hall, -⟩
          exact ⟨fun hQa => hp (hQ a hQa), hall⟩

/--
Records are retained exactly when nothing that fails to load stands before a
valid record which the calls leave alone.
-/
theorem retains_iff (document : StateDocument Raw) (calls : List Call) :
    Retains models document calls ↔
      document.steps.Pairwise fun earlier later =>
        loads models earlier ∨ ¬Untouched models calls later := by
  rw [← mem_takeWhile_iff_pairwise document.steps_nodup
    (fun step (h : Untouched models calls step) => h.1)]
  constructor
  · rintro hretains ⟨m, _ | ⟨key, raw⟩⟩ hmem ⟨hloads, huntouched⟩
    · simp [loads] at hloads
    · have hraw := StateDocument.mem_steps.mp hmem
      cases hrecord : models.validate m raw with
      | error e => simp [loads_of_error hrecord key] at hloads
      | ok record =>
          have htouched := huntouched key raw rfl
          have hkept := (hretains m key raw record hraw hrecord htouched).1
          rw [(afterCalls_untouched models _ htouched).1, opened,
            load_get? models hraw hrecord] at hkept
          by_contra hnot
          simp [hnot] at hkept
  · intro hall m key raw record hraw hrecord htouched
    have hmem : (m, some (key, raw)) ∈ document.steps.takeWhile (loads models) := by
      refine hall _ (StateDocument.mem_steps.mpr hraw)
        ⟨loads_of_ok hrecord key, ?_⟩
      rintro key' raw' ⟨⟩
      exact htouched
    have hloaded : ((load models document) m).get? key = some record := by
      simp [load_get? models hraw hrecord, hmem]
    have hafter := afterCalls_untouched models (opened models document) htouched
    simpa only [opened, hloaded, hraw, Option.map_some] using hafter

/-- A file whose raw records are the records themselves, or rejected. -/
def plainModels : RecordModels (Option UnifiedRuntimeRecord) Unit Unit where
  validate
    | .runtimes, some runtime => .ok runtime
    | .placements, some _ => .ok ()
    | .collateral, some _ => .ok ()
    | _, _ => .error .valueError
  dump
    | .runtimes, runtime => some runtime
    | _, _ => none

def tenantRuntime (deploymentId : String) : UnifiedRuntimeRecord where
  deploymentId
  workloadId := "workload"
  hotkey := "hotkey"
  workloadKind := .pod
  status := .ready

def rejectedFirst : StateDocument (Option UnifiedRuntimeRecord) :=
  .object fun
    | .runtimes => .object
        ⟨[("pod-1", none), ("pod-2", some (tenantRuntime "pod-2"))], by decide⟩
    | _ => .missing

/-- The record after the rejected one is gone, at the next write for good. -/
theorem tenant_forgotten_after_rejected :
    let calls : List Call := [.upsertRuntime (tenantRuntime "pod-3") true]
    ¬Retains plainModels rejectedFirst calls ∧
      (afterCalls plainModels (opened plainModels rejectedFirst) calls).file.get?
        .runtimes "pod-2" = none := by
  refine ⟨fun hretains => ?_, rfl⟩
  have hkept := hretains .runtimes "pod-2" (some (tenantRuntime "pod-2"))
    (tenantRuntime "pod-2") rfl rfl (by simp [Touched, Call.deploymentId, tenantRuntime])
  have hlost : (((opened plainModels rejectedFirst).tables .runtimes).get?
      "pod-2") = none := rfl
  have hafter := hkept.1
  rw [(afterCalls_untouched plainModels _
    (by simp [Touched, Call.deploymentId, tenantRuntime])).1, hlost] at hafter
  cases hafter

end NodeAgentRepository
end NodeAgent
