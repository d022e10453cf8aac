import NodeAgent.Infrastructure.Tarfile
import NodeAgent.Protocol
import Mathlib.Data.String.Basic

/-!
# Backing up a volume and restoring it

A backup packs the volume's tree into an archive whose members all stand under
the name `volume`.  A restore empties the volume first, then opens the archive,
looks at the name of every member and extracts them one by one.
-/

namespace NodeAgent

open FileSystem

inductive ArchiveError where
  /-- `OSError` -/
  | os (fault : Fault)
  /-- `tarfile.TarError` -/
  | tar (text : String)
  /-- Anything else, such as the `EOFError` of a truncated stream. -/
  | other (text : String)
  deriving DecidableEq, Repr

inductive VolumeExn where
  | volumeError (message failureClass : String)
  | escaped (e : ArchiveError)
  deriving DecidableEq, Repr

structure ArchiveMember (α : Type) where
  name : String
  node : Node α
  deriving DecidableEq, Repr

/-- `tarfile` and the host on which it runs. -/
structure ArchiveHost (α : Type) where
  cwd : List Name
  pack : List (ArchiveMember α) → Except ArchiveError α
  members : α → Except ArchiveError (List (ArchiveMember α))
  /-- The failure of a member's extraction, and how far it comes. -/
  trouble : Nat → Option (Tarfile.Halt α × ArchiveError)
  /-- `str(exc)` -/
  describe : ArchiveError → String

structure StoredVolume extends VolumeRecord where
  volumeId : String
  backupUri : Option String
  lastBackedUpAt : Option Nat
  status : String
  deriving DecidableEq, Repr

namespace LocalVolumeManager

variable {α : Type}

/-! ## Backup -/

def volumeName : Name := ⟨"volume", by decide⟩

def backupDir (baseDir : RawPath) : RawPath := baseDir.join ".backups"

def backupPath (baseDir : RawPath) (volume : StoredVolume) : RawPath :=
  (backupDir baseDir).join (volume.volumeId ++ ".tar.gz")

/-- `Path(volume.path)` -/
def volPath (volume : StoredVolume) : RawPath := .parse volume.path

def rootOf (host : ArchiveHost α) (volume : StoredVolume) : List Name :=
  (volPath volume).resolve host.cwd

/-- `tar.add(vol_path, arcname="volume")`, which leaves out the archive itself. -/
def archived (t : HostTree α) (root archive : List Name) : List (ArchiveMember α) :=
  ((root :: (t.below root).insertionSort (· ≤ ·)).filter (· ≠ archive)).filterMap
    fun q => (t.get? q).map fun node =>
      { name := RawPath.memberName (volumeName :: q.drop root.length), node }

/-- The volume with its backup, and the tree with the archive. -/
def backupVolume (baseDir : RawPath) (host : ArchiveHost α)
    (volume : StoredVolume) (now : Nat) (t : HostTree α) :
    Except VolumeExn (StoredVolume × HostTree α) :=
  let root := rootOf host volume
  let archive := (backupPath baseDir volume).resolve host.cwd
  if (t.get? root).isNone then
    .error (.volumeError ("volume path missing: " ++ volume.path)
      "volume_backup_failure")
  else
    let failed (e : ArchiveError) : VolumeExn :=
      match e with
      | .other text => .escaped (.other text)
      | e => .volumeError ("backup failed: " ++ host.describe e)
          "volume_backup_failure"
    match host.pack (archived t root archive) with
    | .error e => .error (failed e)
    | .ok content =>
        match t.place archive (.file content) with
        | .error fault => .error (failed (.os fault))
        | .ok t' => .ok
            ({ volume with
                backupUri := some (backupPath baseDir volume).text
                lastBackedUpAt := some now
                status := "backed_up" }, t')

/-! ## Restore -/

/-- `shutil.rmtree(vol_path)` if it exists, then `vol_path.mkdir` -/
def cleared (t : HostTree α) (root : List Name) : HostTree α :=
  if t.isDir root then t.rmtree root else t

def emptied (t : HostTree α) (root : List Name) :
    Except Fault (HostTree α) :=
  (cleared t root).mkdirs root

/-- `tarfile.open(backup_path, "r:gz")` and `tar.getmembers()` -/
def openArchive (host : ArchiveHost α) (t : HostTree α) (archive : List Name) :
    Except ArchiveError (List (ArchiveMember α)) :=
  match t.get? archive with
  | none => .error (.os .missing)
  | some .dir => .error (.os .isDirectory)
  | some (.file content) => host.members content

/-- `(vol_path / member.name).resolve()` -/
def memberPath (host : ArchiveHost α) (path : RawPath) (member : ArchiveMember α) :
    List Name :=
  (path.join member.name).resolve host.cwd

theorem memberPath_eq (host : ArchiveHost α) (volume : StoredVolume)
    (member : ArchiveMember α) :
    memberPath host (volPath volume) member =
      Tarfile.placeOf (rootOf host volume) member.name :=
  (Tarfile.placeOf_eq_resolve _ _ _).symm

/-- `str(member_path).startswith(str(vol_path.resolve()))` -/
def isSafe (root target : List Name) : Bool :=
  (pathText root).isPrefixOf (pathText target)

def extractFrom (host : ArchiveHost α) (root : List Name) :
    Nat → List (ArchiveMember α) → HostTree α → HostTree α × Option ArchiveError
  | _, [], t => (t, none)
  | k, member :: rest, t =>
      match host.trouble k with
      | some (halt, e) => (Tarfile.halted t root member.name halt, some e)
      | none =>
          let done := Tarfile.extractMember t root member.name member.node
          match done.2 with
          | some fault => (done.1, some (.os fault))
          | none => extractFrom host root (k + 1) rest done.1

/-- `tar.extractall(vol_path)` -/
def extractAll (host : ArchiveHost α) (root : List Name)
    (ms : List (ArchiveMember α)) (t : HostTree α) :
    HostTree α × Option ArchiveError :=
  extractFrom host root 0 ms t

/-- `except (OSError, tarfile.TarError)` -/
def restoreFailed (host : ArchiveHost α) : ArchiveError → VolumeExn
  | .other text => .escaped (.other text)
  | e => .volumeError ("restore failed: " ++ host.describe e)
      "volume_restore_failure"

/-- What the extraction leaves, and how `restore_volume` ends with it. -/
def finish (host : ArchiveHost α) (volume : StoredVolume) :
    HostTree α × Option ArchiveError →
      HostTree α × Except VolumeExn StoredVolume
  | (t, none) => (t, .ok { volume with status := "attached" })
  | (t, some e) => (t, .error (restoreFailed host e))

def restoreVolume (host : ArchiveHost α) (volume : StoredVolume)
    (backupUri : String) (t : HostTree α) :
    HostTree α × Except VolumeExn StoredVolume :=
  let archive := (RawPath.parse backupUri).resolve host.cwd
  let root := rootOf host volume
  if (t.get? archive).isNone then
    (t, .error (.volumeError ("backup archive not found: " ++ backupUri)
      "volume_restore_failure"))
  else
    match emptied t root with
    -- outside the try
    | .error fault => (cleared t root, .error (.escaped (.os fault)))
    | .ok t' =>
        match openArchive host t' archive with
        | .error e => (t', .error (restoreFailed host e))
        | .ok ms =>
            match ms.find? fun member =>
              !isSafe root (memberPath host (volPath volume) member) with
            | some member => (t', .error (.volumeError
                ("unsafe path in archive: " ++ member.name)
                "volume_restore_failure"))
            | none => finish host volume (extractAll host root ms t')

/-! ## What an extraction leaves -/

section Extracting

/-- What stands where when these members are in their places. -/
def contents (root : List Name) (ms : List (ArchiveMember α))
    (look : Tarfile.View α) : Tarfile.View α :=
  ms.foldl (fun look member => Tarfile.put look root member.name member.node) look

variable (host : ArchiveHost α) (root : List Name) (look : Tarfile.View α)

/-- After these members nothing is in the way of this one. -/
def GoesIn (before : List (ArchiveMember α)) (member : ArchiveMember α) : Prop :=
  host.trouble before.length = none ∧
    Tarfile.blocked (contents root before look) root member.name member.node =
      false

def AllGoIn (ms : List (ArchiveMember α)) : Prop :=
  ∀ before member, before ++ [member] <+: ms → GoesIn host root look before member

/-- The first member that does not go in, and those before it. -/
structure StopsAt (ms before : List (ArchiveMember α))
    (member : ArchiveMember α) : Prop where
  listed : before ++ [member] <+: ms
  goIn : AllGoIn host root look before
  stays : ¬GoesIn host root look before member

/-- What stands where after the extraction of this member, also if it fails. -/
def leftAt (before : List (ArchiveMember α)) (member : ArchiveMember α) :
    Tarfile.View α :=
  match host.trouble before.length with
  | some (halt, _) =>
      Tarfile.haltedAfter (contents root before look) root member.name halt
  | none => Tarfile.after (contents root before look) root member.name member.node

/-- The failure is neither an `OSError` nor a `TarError`. -/
def OtherTrouble (before : List (ArchiveMember α)) : Prop :=
  ∃ halt text, host.trouble before.length = some (halt, .other text)

end Extracting

section Extracted

variable {host : ArchiveHost α} {root : List Name} {look : Tarfile.View α}
  {ms before before' : List (ArchiveMember α)} {member member' : ArchiveMember α}

theorem AllGoIn.of_prefix (h : AllGoIn host root look ms) (hpre : before <+: ms) :
    AllGoIn host root look before :=
  fun first member hfirst => h first member (hfirst.trans hpre)

theorem allGoIn_concat : AllGoIn host root look (before ++ [member]) ↔
    AllGoIn host root look before ∧ GoesIn host root look before member := by
  refine ⟨fun h => ⟨h.of_prefix (List.prefix_append _ _), h _ _ List.prefix_rfl⟩,
    fun ⟨hbefore, hmember⟩ first last hpre => ?_⟩
  rcases List.prefix_concat_iff.mp hpre with heq | hpre
  · obtain ⟨rfl, hlast⟩ := List.append_inj' heq rfl
    obtain rfl := List.singleton_inj.mp hlast
    exact hmember
  · exact hbefore first last hpre

theorem StopsAt.not_allGoIn (h : StopsAt host root look ms before member) :
    ¬AllGoIn host root look ms :=
  fun hall => h.stays (hall before member h.listed)

theorem StopsAt.compare (h : StopsAt host root look ms before member)
    {first : List (ArchiveMember α)} {last : ArchiveMember α}
    (hlisted : first ++ [last] <+: ms) (hgo : AllGoIn host root look first) :
    (first = before ∧ last = member) ∨ first ++ [last] <+: before := by
  rcases List.prefix_or_prefix_of_prefix hlisted h.listed with hpre | hpre
  · rcases List.prefix_concat_iff.mp hpre with heq | hpre
    · obtain ⟨rfl, hlast⟩ := List.append_inj' heq rfl
      exact .inl ⟨rfl, List.singleton_inj.mp hlast⟩
    · exact .inr hpre
  · rcases List.prefix_concat_iff.mp hpre with heq | hpre
    · obtain ⟨rfl, hlast⟩ := List.append_inj' heq rfl
      exact .inl ⟨rfl, (List.singleton_inj.mp hlast).symm⟩
    · exact absurd (hgo _ _ hpre) h.stays

theorem StopsAt.unique (h : StopsAt host root look ms before member)
    (h' : StopsAt host root look ms before' member') :
    before = before' ∧ member = member' :=
  (h'.compare h.listed h.goIn).resolve_right fun hpre =>
    h.stays (h'.goIn _ _ hpre)

theorem contents_concat : contents root (before ++ [member]) look =
    Tarfile.put (contents root before look) root member.name member.node := by
  simp [contents]

theorem leftAt_of_goesIn (h : GoesIn host root look before member) :
    leftAt host root look before member =
      contents root (before ++ [member]) look := by
  rw [leftAt, h.1, contents_concat]
  show Tarfile.after _ _ _ _ = _
  rw [Tarfile.after, h.2]
  rfl

theorem extractFrom_cases (rest : List (ArchiveMember α)) {t : HostTree α}
    (hbefore : AllGoIn host root look before)
    (ht : t.get? = contents root before look) :
    (AllGoIn host root look (before ++ rest) ∧
        ∃ t', extractFrom host root before.length rest t = (t', none) ∧
          t'.get? = contents root (before ++ rest) look) ∨
      ∃ first member, StopsAt host root look (before ++ rest) first member ∧
        ∃ t' e, extractFrom host root before.length rest t = (t', some e) ∧
          t'.get? = leftAt host root look first member ∧
          ((∃ text, e = .other text) ↔ OtherTrouble host first) := by
  induction rest generalizing before t with
  | nil =>
      refine .inl ⟨by simpa using hbefore, t, rfl, by simpa using ht⟩
  | cons member rest ih =>
      have hlisted : before ++ [member] <+: before ++ member :: rest := by
        simp
      rw [extractFrom]
      cases htrouble : host.trouble before.length with
      | some trouble =>
          obtain ⟨halt, e⟩ := trouble
          refine .inr ⟨before, member, ⟨hlisted, hbefore, fun h => ?_⟩, _, e, rfl,
            ?_, ?_⟩
          · rw [h.1] at htrouble
            cases htrouble
          · rw [leftAt, htrouble, Tarfile.halted_get?, ht]
          · simp [OtherTrouble, htrouble]
      | none =>
          obtain ⟨hdone, hget⟩ :=
            Tarfile.extractMember_after t root member.name member.node
          rw [ht] at hdone hget
          cases hfault : (Tarfile.extractMember t root member.name
              member.node).2 with
          | some fault =>
              refine .inr ⟨before, member, ⟨hlisted, hbefore, fun h => ?_⟩,
                (Tarfile.extractMember t root member.name member.node).1,
                .os fault, ?_, ?_, ?_⟩
              · rw [hdone.mpr h.2] at hfault
                cases hfault
              · simp only [hfault]
              · rw [leftAt, htrouble, hget]
              · simp [OtherTrouble, htrouble]
          | none =>
              have hin : GoesIn host root look before member :=
                ⟨htrouble, hdone.mp hfault⟩
              have hleft := leftAt_of_goesIn hin
              rw [leftAt, htrouble] at hleft
              have hrest := ih (allGoIn_concat.mpr ⟨hbefore, hin⟩)
                (hget.trans hleft)
              simpa only [hfault, List.length_append, List.length_singleton,
                List.append_assoc, List.singleton_append] using hrest

theorem extractAll_cases (host : ArchiveHost α) (root : List Name)
    (ms : List (ArchiveMember α)) (t : HostTree α) :
    (AllGoIn host root t.get? ms ∧ ∃ t', extractAll host root ms t = (t', none) ∧
        t'.get? = contents root ms t.get?) ∨
      ∃ before member, StopsAt host root t.get? ms before member ∧
        ∃ t' e, extractAll host root ms t = (t', some e) ∧
          t'.get? = leftAt host root t.get? before member ∧
          ((∃ text, e = .other text) ↔ OtherTrouble host before) := by
  have hnil : AllGoIn host root t.get? [] := by
    intro before member hpre
    simp at hpre
  exact extractFrom_cases ms hnil rfl

theorem contents_cons : contents root (member :: ms) look =
    contents root ms (Tarfile.put look root member.name member.node) :=
  rfl

theorem contents_keeps {q : List Name} {node : Node α} (hget : look q = some node)
    (hq : q ∉ ms.map fun member => Tarfile.placeOf root member.name) :
    contents root ms look q = some node := by
  induction ms generalizing look with
  | nil => exact hget
  | cons member rest ih =>
      rw [List.map_cons, List.mem_cons, not_or] at hq
      rw [contents_cons]
      refine ih ?_ hq.2
      rw [Tarfile.put, if_neg hq.1]
      exact Tarfile.passed_of_some hget

theorem contents_holds (hnodup :
      (ms.map fun member => Tarfile.placeOf root member.name).Nodup) :
    ∀ member ∈ ms, contents root ms look (Tarfile.placeOf root member.name) =
      some member.node := by
  induction ms generalizing look with
  | nil => simp
  | cons member rest ih =>
      rw [List.map_cons, List.nodup_cons] at hnodup
      refine List.forall_mem_cons.mpr ⟨?_, ih hnodup.2⟩
      rw [contents_cons]
      refine contents_keeps ?_ hnodup.1
      rw [Tarfile.put, if_pos rfl]

end Extracted

/-! ## The emptied volume -/

theorem emptied_frame {t t' : HostTree α} {root : List Name}
    (h : emptied t root = .ok t') {q : List Name} (hinside : ¬root <+: q)
    (habove : ¬q <+: root) : t'.get? q = t.get? q := by
  rw [Tree.get?_mkdirs h, if_neg fun hnone => habove hnone.2, cleared]
  split
  · rw [Tree.get?_rmtree, if_neg fun hroot => hinside hroot.1]
  · rfl

theorem cleared_below (t : HostTree α) (root : List Name) {rel : List Name}
    (hrel : rel ≠ []) : (cleared t root).get? (root ++ rel) = none := by
  unfold cleared
  split
  · rw [Tree.get?_rmtree, if_pos ⟨List.prefix_append _ _, by simp [hrel]⟩]
  · next hdir =>
      by_contra hsome
      have hroot := Tree.dir_above (List.prefix_append root rel)
        (by simpa using hrel) (Option.isSome_iff_ne_none.mpr hsome)
      exact hdir (Tree.isDir_iff.mpr hroot)

theorem emptied_inside {t t' : HostTree α} {root : List Name}
    (h : emptied t root = .ok t') {rel : List Name} (hrel : rel ≠ []) :
    t'.get? (root ++ rel) = none := by
  rw [Tree.get?_mkdirs h, if_neg, cleared_below t root hrel]
  rintro ⟨-, hpre⟩
  have hlength := hpre.length_le
  rw [List.length_append] at hlength
  have := List.length_pos_iff.mpr hrel
  omega

/-- The archive is there, the volume is emptied, and these are the members. -/
structure Lists (host : ArchiveHost α) (volume : StoredVolume)
    (backupUri : String) (t t' : HostTree α) (ms : List (ArchiveMember α)) : Prop where
  archive : (t.get? ((RawPath.parse backupUri).resolve host.cwd)).isSome
  emptied : emptied t (rootOf host volume) = .ok t'
  members : openArchive host t' ((RawPath.parse backupUri).resolve host.cwd) =
    .ok ms

/-- Every member passes the check of its name. -/
def Admitted (host : ArchiveHost α) (volume : StoredVolume)
    (ms : List (ArchiveMember α)) : Prop :=
  ∀ member ∈ ms,
    isSafe (rootOf host volume) (memberPath host (volPath volume) member)

theorem isSafe_iff {root target : List Name} :
    isSafe root target ↔ root <+: target ∨ Alongside root target := by
  rw [isSafe, List.isPrefixOf_iff_prefix, pathText_prefix_iff]

theorem restore_missing {host : ArchiveHost α} {volume : StoredVolume}
    {backupUri : String} {t : HostTree α}
    (h : (t.get? ((RawPath.parse backupUri).resolve host.cwd)).isNone) :
    (restoreVolume host volume backupUri t).1 = t := by
  simp only [restoreVolume, if_pos h]

section Listed

variable {host : ArchiveHost α} {volume : StoredVolume} {backupUri : String}
  {t t' : HostTree α} {ms : List (ArchiveMember α)}

theorem restore_listed (h : Lists host volume backupUri t t' ms) :
    restoreVolume host volume backupUri t =
      match ms.find? fun member => !isSafe (rootOf host volume)
          (memberPath host (volPath volume) member) with
      | some member => (t', .error (.volumeError
          ("unsafe path in archive: " ++ member.name) "volume_restore_failure"))
      | none => finish host volume (extractAll host (rootOf host volume) ms t') := by
  have hthere : ¬(t.get? ((RawPath.parse backupUri).resolve host.cwd)).isNone := by
    simpa [Option.isSome_iff_ne_none] using h.archive
  simp only [restoreVolume, if_neg hthere, h.emptied, h.members]

theorem restore_admitted (h : Lists host volume backupUri t t' ms)
    (hadmitted : Admitted host volume ms) :
    restoreVolume host volume backupUri t =
      finish host volume (extractAll host (rootOf host volume) ms t') := by
  rw [restore_listed h, List.find?_eq_none.mpr]
  intro member hmember
  simp [hadmitted member hmember]

theorem restore_rejected (h : Lists host volume backupUri t t' ms)
    (hrejected : ¬Admitted host volume ms) :
    ∃ name, restoreVolume host volume backupUri t =
      (t', .error (.volumeError ("unsafe path in archive: " ++ name)
        "volume_restore_failure")) := by
  rw [restore_listed h]
  cases hfind : ms.find? fun member => !isSafe (rootOf host volume)
      (memberPath host (volPath volume) member) with
  | some member => exact ⟨member.name, rfl⟩
  | none =>
      refine absurd (fun member hmember => ?_) hrejected
      simpa using List.find?_eq_none.mp hfind member hmember

end Listed

/-! ## A host for examples -/

/-- What a file holds: a text, or an archive. -/
inductive Blob where
  | text (content : String)
  | archive (members : List (String × Option Blob))

def Blob.ofNode : Node Blob → Option Blob
  | .dir => none
  | .file content => some content

def Blob.toNode : Option Blob → Node Blob
  | none => .dir
  | some content => .file content

/-- An archive that keeps its members as they are. -/
def plainHost : ArchiveHost Blob where
  cwd := []
  pack ms := .ok (.archive (ms.map fun member => (member.name, Blob.ofNode member.node)))
  members
    | .text _ => .error (.tar "not a gzip file")
    | .archive ms => .ok (ms.map fun member => ⟨member.1, Blob.toNode member.2⟩)
  trouble _ := none
  describe
    | .tar text | .other text => text
    | .os _ => "I/O error"

theorem plainHost_faithful (ms : List (ArchiveMember Blob)) (content : Blob)
    (h : plainHost.pack ms = .ok content) :
    plainHost.members content = .ok ms := by
  have hnode : ∀ node, Blob.toNode (Blob.ofNode node) = node := by
    intro node
    cases node <;> rfl
  obtain rfl := Except.ok.inj h
  simp [plainHost, hnode, Function.comp_def]

/-- A tree with the given nodes and the directories above them. -/
def planted (nodes : List (String × Node Blob)) : HostTree Blob :=
  nodes.foldl (fun t entry => (Tarfile.extractMember t [] entry.1 entry.2).1) .empty

def tenantVolume : StoredVolume where
  deploymentId := "dep-1"
  hotkey := "hotkey"
  nodeId := none
  path := "/vols/dep-1"
  sizeGb := 10
  volumeId := "vol-1"
  backupUri := none
  lastBackedUpAt := none
  status := "attached"

end LocalVolumeManager

end NodeAgent
