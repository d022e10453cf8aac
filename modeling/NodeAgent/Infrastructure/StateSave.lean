import NodeAgent.Foundation.AtomicWrite
import NodeAgent.Infrastructure.StateFile

/-!
# Saving the state and failing at it

`save` writes the whole state to a temporary file and renames it.  A call
changes the map of runtimes before it saves, so a save that fails leaves the
change in memory, and the next one that goes through writes it.
-/

namespace NodeAgent

open Effectful FileSystem

variable {Raw Placement Collateral β : Type}

/--
`json.dump`, by the pieces of text that reach the file, and `json.load`; what a
text is made of is left open.
-/
structure StateFormat (Raw β : Type) where
  dump : StateDocument Raw → List (List β)
  parse : List β → Option (StateDocument Raw)
  parse_dump : ∀ document, parse (dump document).flatten = some document

/--
A dumped record validates, as one that dumps to the same.  It need not be the
record that it was: the keys of its metadata have become text.
-/
def RecordModels.Redumps (models : RecordModels Raw Placement Collateral) :
    Prop :=
  ∀ m record, ∃ record', models.validate m (models.dump m record) =
    .ok record' ∧ models.dump m record' = models.dump m record

/-- The records of a map as JSON has them. -/
abbrev RecordModels.dumped (models : RecordModels Raw Placement Collateral)
    {m : StateMap} (records : Dict String (m.Record Placement Collateral)) :
    Dict String Raw :=
  records.mapValues (models.dump m)

namespace NodeAgentRepository

/-! ## Reading back what was saved -/

section

variable {models : RecordModels Raw Placement Collateral}

theorem loadEntries_dumped (hmodels : models.Redumps) (m : StateMap)
    (entries : List (String × m.Record Placement Collateral))
    (tables : StateTables Placement Collateral)
    (hnodup : (((tables m).entries ++ entries).map Prod.fst).Nodup) :
    ∃ after, loadEntries models m
        (entries.map fun entry => (entry.1, models.dump m entry.2)) tables =
          (.ok (), after) ∧
      (models.dumped (after m)).entries =
        ((tables m).entries ++ entries).map
          (fun entry => (entry.1, models.dump m entry.2)) ∧
      ∀ m', m' ≠ m → after m' = tables m' := by
  induction entries generalizing tables with
  | nil => exact ⟨tables, rfl, by simp [Dict.mapValues], fun _ _ => rfl⟩
  | cons entry entries ih =>
      obtain ⟨key, record⟩ := entry
      obtain ⟨record', hvalid, hdump⟩ := hmodels m record
      have hkey : key ∉ (tables m).entries.map Prod.fst := by
        intro hmem
        rw [List.map_append] at hnodup
        exact (List.nodup_append.mp hnodup).2.2 key hmem key (by simp) rfl
      have hstored : ((tables.store m key record') m).entries =
          (tables m).entries ++ [(key, record')] := by
        rw [StateTables.store, Function.update_self]
        exact Dict.assignIn_of_not_mem hkey
      obtain ⟨after, hload, hafter, hothers⟩ := ih (tables.store m key record')
        (by rw [hstored]; simpa using hnodup)
      refine ⟨after, ?_, ?_, fun m' hm' => ?_⟩
      · rw [List.map_cons, loadEntries, hvalid]
        exact hload
      · rw [hafter, hstored]
        simp [hdump]
      · rw [hothers m' hm', StateTables.store, Function.update_of_ne hm']

theorem loadMaps_dumped (hmodels : models.Redumps)
    (saved : StateTables Placement Collateral) {maps : List StateMap}
    (hmaps : maps.Nodup) (tables : StateTables Placement Collateral)
    (hempty : ∀ m ∈ maps, tables m = .empty) :
    ∃ after, loadMaps models (fun m => .object (models.dumped (saved m))) maps
        tables = (.ok (), after) ∧
      (∀ m ∈ maps, models.dumped (after m) = models.dumped (saved m)) ∧
      ∀ m ∉ maps, after m = tables m := by
  induction maps generalizing tables with
  | nil => exact ⟨tables, rfl, by simp, fun _ _ => rfl⟩
  | cons m maps ih =>
      obtain ⟨hm, hmaps⟩ := List.nodup_cons.mp hmaps
      have hnone : (tables m).entries = [] := by
        rw [hempty m (by simp)]
        rfl
      obtain ⟨stored, hload, hentries, hothers⟩ := loadEntries_dumped hmodels m
        (saved m).entries tables (by simpa [hnone] using (saved m).nodup)
      have hsaved : models.dumped (stored m) = models.dumped (saved m) := by
        rw [hnone, List.nil_append] at hentries
        exact Dict.ext hentries
      have hne : ∀ m' ∈ maps, m' ≠ m := by
        rintro m' hm' rfl
        exact hm hm'
      obtain ⟨after, hrest, hafter, hkept⟩ := ih hmaps stored fun m' hm' => by
        rw [hothers m' (hne m' hm'), hempty m' (List.mem_cons_of_mem _ hm')]
      refine ⟨after, ?_, fun m' hm' => ?_, fun m' hm' => ?_⟩
      · rw [loadMaps, loadMap, RecordModels.dumped, Dict.mapValues, hload]
        exact hrest
      · rcases List.mem_cons.mp hm' with rfl | hmem
        · rw [hkept _ hm, hsaved]
        · exact hafter m' hmem
      · rw [List.mem_cons, not_or] at hm'
        rw [hkept m' hm'.2, hothers m' hm'.1]

theorem load_save (hmodels : models.Redumps)
    (tables : StateTables Placement Collateral) (m : StateMap) :
    models.dumped (load models (save models tables) m) =
      models.dumped (tables m) := by
  obtain ⟨after, hload, hafter, -⟩ := loadMaps_dumped hmodels tables
    (by decide : StateMap.all.Nodup) .empty fun _ _ => rfl
  simp only [save, load, hload]
  exact hafter m (by cases m <;> decide)

end

/-! ## The repository over its disk -/

/-- The tables in memory, the state file and the temporary one. -/
structure Repository (Placement Collateral β : Type) where
  tables : StateTables Placement Collateral
  slot : Slot β

inductive Change where
  | upsertRuntime (runtime : UnifiedRuntimeRecord)
  | removeRuntime (deploymentId : String)

/-- A call, and what the host answers to the operations of its save. -/
structure Attempt where
  change : Change
  answers : Nat → OpAnswer

namespace Change

def call (written : Bool) : Change → Call
  | .upsertRuntime runtime => .upsertRuntime runtime written
  | .removeRuntime deploymentId => .removeRuntime deploymentId written

def applyRuntimes (runtimes : Dict String UnifiedRuntimeRecord) :
    Change → Dict String UnifiedRuntimeRecord
  | .upsertRuntime runtime => runtimes.insert runtime.deploymentId runtime
  | .removeRuntime deploymentId => runtimes.erase deploymentId

def applyTables (tables : StateTables Placement Collateral) (change : Change) :
    StateTables Placement Collateral :=
  Function.update tables .runtimes (change.applyRuntimes (tables .runtimes))

def applyDumped (models : RecordModels Raw Placement Collateral)
    (ledger : Dict String Raw) : Change → Dict String Raw
  | .upsertRuntime runtime =>
      ledger.insert runtime.deploymentId (models.dump .runtimes runtime)
  | .removeRuntime deploymentId => ledger.erase deploymentId

theorem dumped_applyRuntimes (models : RecordModels Raw Placement Collateral)
    (change : Change) (runtimes : Dict String UnifiedRuntimeRecord) :
    models.dumped (m := .runtimes) (change.applyRuntimes runtimes) =
      change.applyDumped models (models.dumped (m := .runtimes) runtimes) := by
  cases change with
  | upsertRuntime runtime => exact (Dict.insert_mapValues _ _ _ _).symm
  | removeRuntime deploymentId => exact (Dict.erase_mapValues _ _ _).symm

theorem applyTables_call (change : Change) (written : Bool)
    (tables : StateTables Placement Collateral) :
    (change.call written).applyTables tables = change.applyTables tables := by
  cases change <;> rfl

@[simp] theorem applyTables_runtimes (change : Change)
    (tables : StateTables Placement Collateral) :
    change.applyTables tables .runtimes =
      change.applyRuntimes (tables .runtimes) :=
  Function.update_self ..

end Change

variable (models : RecordModels Raw Placement Collateral)
  (format : StateFormat Raw β)

/-- The text of the state file that `save` writes. -/
def pieces (tables : StateTables Placement Collateral) : List (List β) :=
  format.dump (save models tables)

/-- `_load` over what stands on the disk. -/
def loadFile : Option (List β) → StateTables Placement Collateral
  | none => .empty
  | some text =>
      match format.parse text with
      | none => .empty
      | some document => load models document

/-- `upsert_runtime` and `remove_runtime`: the map first, then the file. -/
def Attempt.run (repository : Repository Placement Collateral β)
    (attempt : Attempt) : Repository Placement Collateral β × Ending :=
  let tables := attempt.change.applyTables repository.tables
  let saved := FileOp.perform repository.slot attempt.answers
    (replaceOps (pieces models format tables))
  ({ tables, slot := saved.1 }, saved.2)

/-- The repository that an agent makes when it starts over a disk. -/
def reopened (slot : Slot β) : Repository Placement Collateral β where
  tables := loadFile models format slot.file
  slot := slot

/-- After a crash the agent starts again. -/
def Attempt.next (repository : Repository Placement Collateral β)
    (attempt : Attempt) : Repository Placement Collateral β :=
  match (attempt.run models format repository).2 with
  | .crashed => reopened models format (attempt.run models format repository).1.slot
  | _ => (attempt.run models format repository).1

/-- The map of runtimes that an agent finds which starts over the disk. -/
def reloaded (slot : Slot β) : Dict String Raw :=
  models.dumped (loadFile models format slot.file .runtimes)

/-- The state file, when there is one, is a document. -/
def Parses (slot : Slot β) : Prop :=
  ∀ text, slot.file = some text → (format.parse text).isSome

/-! ## One call -/

section

variable {models format}

theorem loadFile_pieces (hmodels : models.Redumps)
    (tables : StateTables Placement Collateral) (m : StateMap) :
    models.dumped
        (loadFile models format (some (pieces models format tables).flatten) m) =
      models.dumped (tables m) := by
  rw [loadFile, pieces, format.parse_dump]
  exact load_save hmodels tables m

theorem run_replaced (repository : Repository Placement Collateral β)
    (attempt : Attempt) :
    Replaced repository.slot.file
      (some (pieces models format
        (attempt.change.applyTables repository.tables)).flatten)
      ((attempt.run models format repository).1.slot,
        (attempt.run models format repository).2) :=
  replaced repository.slot attempt.answers _

theorem run_file (repository : Repository Placement Collateral β)
    (attempt : Attempt) :
    (attempt.run models format repository).1.slot.file = repository.slot.file ∨
      (attempt.run models format repository).1.slot.file =
        some (pieces models format
          (attempt.change.applyTables repository.tables)).flatten := by
  have hreplaced := @run_replaced _ _ _ _ models format
    repository attempt
  unfold Replaced at hreplaced
  split at hreplaced
  · exact .inr hreplaced
  · exact .inl hreplaced
  · exact hreplaced

theorem Parses.run {repository : Repository Placement Collateral β}
    (h : Parses format repository.slot) (attempt : Attempt) :
    Parses format (attempt.run models format repository).1.slot := by
  intro text htext
  rcases @run_file _ _ _ _ models format repository attempt with
    hkept | hnew
  · exact h text (hkept ▸ htext)
  · rw [hnew] at htext
    obtain rfl := Option.some.inj htext
    rw [pieces, format.parse_dump]
    rfl

theorem run_refines {repository : Repository Placement Collateral β}
    {attempt : Attempt} {stored : Stored Raw Placement Collateral}
    {text : List β} (htables : stored.tables = repository.tables)
    (htext : repository.slot.file = some text)
    (hparse : format.parse text = some stored.file)
    (hcrash : (attempt.run models format repository).2 ≠ .crashed) :
    let after := attempt.run models format repository
    let call := attempt.change.call (after.2 = .returned)
    after.1.tables = (call.apply models stored).tables ∧
      ∃ text', after.1.slot.file = some text' ∧
        format.parse text' = some (call.apply models stored).file := by
  intro after call
  have hcall : call.applyTables stored.tables =
      attempt.change.applyTables repository.tables := by
    rw [Change.applyTables_call, htables]
  refine ⟨hcall.symm, ?_⟩
  have hreplaced := @run_replaced _ _ _ _ models format
    repository attempt
  cases hending : (attempt.run models format repository).2 with
  | crashed => exact absurd hending hcrash
  | returned =>
      have hwritten : call.written := by
        cases hchange : attempt.change <;>
          simp [call, hchange, Change.call, Call.written, after, hending]
      rw [hending] at hreplaced
      refine ⟨_, hreplaced, ?_⟩
      rw [pieces, format.parse_dump, Call.apply, if_pos hwritten, hcall]
  | raised =>
      have hwritten : ¬call.written := by
        cases hchange : attempt.change <;>
          simp [call, hchange, Change.call, Call.written, after, hending]
      rw [hending] at hreplaced
      refine ⟨text, hreplaced.trans htext, ?_⟩
      rw [hparse, Call.apply, if_neg hwritten]

end

/-! ## A run of calls -/

/-- What a call that does not return must leave, and what a reload then gives. -/
structure Sound (repository : Repository Placement Collateral β)
    (ledger : Dict String Raw) (attempt : Attempt) :
    Prop where
  raised : (attempt.run models format repository).2 = .raised →
    (attempt.run models format repository).1.tables .runtimes =
        repository.tables .runtimes ∧
      (attempt.run models format repository).1.slot.file = repository.slot.file ∧
      reloaded models format (attempt.run models format repository).1.slot = ledger
  returned : (attempt.run models format repository).2 = .returned →
    reloaded models format (attempt.run models format repository).1.slot =
      attempt.change.applyDumped models ledger
  crashed : (attempt.run models format repository).2 = .crashed →
    reloaded models format (attempt.run models format repository).1.slot = ledger ∨
      reloaded models format (attempt.run models format repository).1.slot =
        attempt.change.applyDumped models ledger

/-- The map as of the last call that returned, or as the last start found it. -/
def Attempt.nextLedger (repository : Repository Placement Collateral β)
    (ledger : Dict String Raw) (attempt : Attempt) :
    Dict String Raw :=
  match (attempt.run models format repository).2 with
  | .returned => attempt.change.applyDumped models ledger
  | .raised => ledger
  | .crashed => reloaded models format (attempt.run models format repository).1.slot

def SoundRun (repository : Repository Placement Collateral β)
    (ledger : Dict String Raw) : List Attempt → Prop
  | [] => Parses format repository.slot
  | attempt :: attempts =>
      Parses format repository.slot ∧
        Sound models format repository ledger attempt ∧
        SoundRun (attempt.next models format repository)
          (attempt.nextLedger models format repository ledger) attempts

/-- Writes and renames fail only in calls that change nothing. -/
def FailsIdle (repository : Repository Placement Collateral β) :
    List Attempt → Prop
  | [] => True
  | attempt :: attempts =>
      (Fails ((pieces models format
          (attempt.change.applyTables repository.tables)).length + 2)
            attempt.answers →
        attempt.change.applyRuntimes (repository.tables .runtimes) =
          repository.tables .runtimes) ∧
      FailsIdle (attempt.next models format repository) attempts

section

variable {models format}

theorem run_raised_iff {repository : Repository Placement Collateral β}
    {attempt : Attempt} :
    (attempt.run models format repository).2 = .raised ↔
      Fails ((pieces models format
        (attempt.change.applyTables repository.tables)).length + 2)
          attempt.answers := by
  rw [← length_replaceOps]
  exact perform_raised_iff

theorem sound_of_idle (hmodels : models.Redumps)
    {repository : Repository Placement Collateral β}
    {ledger : Dict String Raw} {attempt : Attempt}
    (hmemory : models.dumped (repository.tables .runtimes) = ledger)
    (hdisk : reloaded models format repository.slot = ledger)
    (hidle : (attempt.run models format repository).2 = .raised →
      attempt.change.applyRuntimes (repository.tables .runtimes) =
        repository.tables .runtimes) :
    Sound models format repository ledger attempt := by
  have hreplaced := @run_replaced _ _ _ _ models format
    repository attempt
  have hkept : ∀ slot : Slot β, slot.file = repository.slot.file →
      reloaded models format slot = ledger := by
    intro slot hslot
    rw [reloaded, hslot]
    exact hdisk
  have hnew : ∀ slot : Slot β, slot.file = some (pieces models format
      (attempt.change.applyTables repository.tables)).flatten →
      reloaded models format slot = attempt.change.applyDumped models ledger := by
    intro slot hslot
    rw [reloaded, hslot, loadFile_pieces hmodels, Change.applyTables_runtimes,
      Change.dumped_applyRuntimes, hmemory]
  constructor
  · intro hraised
    rw [hraised] at hreplaced
    refine ⟨?_, hreplaced, hkept _ hreplaced⟩
    exact (Change.applyTables_runtimes _ _).trans (hidle hraised)
  · intro hreturned
    rw [hreturned] at hreplaced
    exact hnew _ hreplaced
  · intro hcrashed
    rw [hcrashed] at hreplaced
    exact hreplaced.imp (hkept _) (hnew _)

theorem Sound.next {repository : Repository Placement Collateral β}
    {ledger : Dict String Raw} {attempt : Attempt}
    (h : Sound models format repository ledger attempt)
    (hmemory : models.dumped (repository.tables .runtimes) = ledger) :
    models.dumped ((attempt.next models format repository).tables .runtimes) =
        attempt.nextLedger models format repository ledger ∧
      reloaded models format (attempt.next models format repository).slot =
        attempt.nextLedger models format repository ledger := by
  unfold Attempt.next Attempt.nextLedger
  cases hending : (attempt.run models format repository).2 with
  | returned =>
      refine ⟨?_, h.returned hending⟩
      calc models.dumped (attempt.change.applyTables repository.tables .runtimes)
          = attempt.change.applyDumped models ledger := by
            rw [Change.applyTables_runtimes, Change.dumped_applyRuntimes, hmemory]
  | raised =>
      obtain ⟨hsame, -, hdisk⟩ := h.raised hending
      exact ⟨(congrArg models.dumped hsame).trans hmemory, hdisk⟩
  | crashed => exact ⟨rfl, rfl⟩

theorem Parses.next {repository : Repository Placement Collateral β}
    (h : Parses format repository.slot) (attempt : Attempt) :
    Parses format (attempt.next models format repository).slot := by
  have hrun := @Parses.run _ _ _ _ models format _ h attempt
  unfold Attempt.next
  split <;> exact hrun

theorem soundRun_iff (hmodels : models.Redumps)
    {repository : Repository Placement Collateral β}
    {ledger : Dict String Raw} {attempts : List Attempt}
    (hmemory : models.dumped (repository.tables .runtimes) = ledger)
    (hdisk : reloaded models format repository.slot = ledger) :
    SoundRun models format repository ledger attempts ↔
      Parses format repository.slot ∧
        FailsIdle models format repository attempts := by
  induction attempts generalizing repository ledger with
  | nil => simp [SoundRun, FailsIdle]
  | cons attempt attempts ih =>
      constructor
      · rintro ⟨hparses, hsound, hrest⟩
        obtain ⟨hmemory', hdisk'⟩ := hsound.next hmemory
        refine ⟨hparses, fun hfails => ?_, ((ih hmemory' hdisk').mp hrest).2⟩
        obtain ⟨hsame, -⟩ := hsound.raised (run_raised_iff.mpr hfails)
        calc attempt.change.applyRuntimes (repository.tables .runtimes)
            = attempt.change.applyTables repository.tables .runtimes :=
              (Change.applyTables_runtimes _ _).symm
          _ = repository.tables .runtimes := hsame
      · rintro ⟨hparses, hidle, hrest⟩
        have hsound : Sound models format repository ledger attempt :=
          sound_of_idle hmodels hmemory hdisk fun hraised =>
            hidle (run_raised_iff.mp hraised)
        obtain ⟨hmemory', hdisk'⟩ := hsound.next hmemory
        exact ⟨hparses, hsound,
          (ih hmemory' hdisk').mpr ⟨hparses.next attempt, hrest⟩⟩

end

/--
A run of calls keeps memory and file together exactly when the file at the start
could be read and no write or rename fails in a call that changes the map.
-/
theorem runtimes_restored_on_failure_iff (hmodels : models.Redumps)
    (slot : Slot β) (attempts : List Attempt) :
    SoundRun models format (reopened models format slot)
        (reloaded models format slot) attempts ↔
      Parses format slot ∧
        FailsIdle models format (reopened models format slot) attempts :=
  soundRun_iff hmodels rfl rfl

def recordModels : RecordModels
    (UnifiedRuntimeRecord ⊕ VolumeRecord ⊕ Unit) Unit Unit where
  validate
    | .runtimes, .inl runtime => .ok runtime
    | .volumes, .inr (.inl volume) => .ok volume
    | .placements, .inr (.inr _) => .ok ()
    | .collateral, .inr (.inr _) => .ok ()
    | _, _ => .error .valueError
  dump
    | .runtimes, runtime => .inl runtime
    | .volumes, volume => .inr (.inl volume)
    | .placements, _ => .inr (.inr ())
    | .collateral, _ => .inr (.inr ())

theorem recordModels_redumps : recordModels.Redumps := by
  intro m record
  cases m <;> exact ⟨_, rfl, rfl⟩

def symbolFormat (Raw : Type) : StateFormat Raw (StateDocument Raw) where
  dump document := [[document]]
  parse
    | [document] => some document
    | _ => none
  parse_dump _ := rfl

def fullDisk (deploymentId : String) : Attempt where
  change := .upsertRuntime (tenantRuntime deploymentId)
  answers := fun i => if i = 1 then .fails 0 else .done

/-- A call returns, one dies at its rename, and one fails without a change. -/
def cutAndIdle : List Attempt :=
  [{ change := .upsertRuntime (tenantRuntime "pod-1"), answers := fun _ => .done },
    { change := .upsertRuntime (tenantRuntime "pod-2")
      answers := fun i => if i = 2 then .crashes 0 else .done },
    { change := .removeRuntime "pod-2", answers := (fullDisk "pod-2").answers }]

theorem runtimes_restored_on_failure_iff_cutAndIdle :
    SoundRun recordModels (symbolFormat _)
      (reopened recordModels (symbolFormat _) ⟨none, none⟩)
      (reloaded recordModels (symbolFormat _) ⟨none, none⟩) cutAndIdle := by
  refine (runtimes_restored_on_failure_iff recordModels (symbolFormat _)
    recordModels_redumps ⟨none, none⟩ _).mpr
      ⟨by simp [Parses], ?_, ?_, ?_, trivial⟩
  · rintro ⟨i, -, -, written, hfails⟩
    cases hfails
  · rintro ⟨i, -, -, written, hfails⟩
    simp only at hfails
    split at hfails <;> cases hfails
  · intro _
    rfl

/-- The call raises, and the record that was not saved stays in the map. -/
theorem failed_upsert_stays_in_memory :
    ¬SoundRun recordModels (symbolFormat _)
      (reopened recordModels (symbolFormat _) ⟨none, none⟩)
      (reloaded recordModels (symbolFormat _) ⟨none, none⟩)
      [fullDisk "pod-1"] := by
  rintro ⟨-, hsound, -⟩
  obtain ⟨hsame, -⟩ := hsound.raised rfl
  have hpresent := congrArg (fun runtimes => (runtimes.get? "pod-1").isSome) hsame
  revert hpresent
  decide

end NodeAgentRepository
end NodeAgent
