import NodeAgent.Foundation.Isolation
import NodeAgent.Infrastructure.HostPath

/-!
# Volumes that are loop-mounted images

A pod's volume is an ext4 image of a fixed size, mounted at a directory of the
deployment's name.  The host answers the commands as it likes; all volumes are
in one directory, and all images have their inodes from one disk.
-/

namespace NodeAgent

open Effectful Program

/-- The exceptions that `domain/disk.py` and `domain/volume.py` know. -/
inductive DiskExn where
  | fileNotFound
  | timeoutExpired
  | calledProcess (returncode : Int)
  /-- Any other `OSError`. -/
  | os
  | diskError (message failureClass : String)
  | volumeError (message failureClass : String)
  deriving DecidableEq, Repr

inductive DiskMode where
  | loopMount
  | loopMountSudo
  | storageOpt
  | none
  deriving DecidableEq, Repr

/-- What the agent asks of the host, and what a tenant does with its files. -/
inductive DiskCall (α : Type) where
  | mkdir (path : List Name)
  | truncate (sizeGb : Int) (image : List Name)
  | mkfs (image : List Name)
  | mount (asRoot : List String) (image point : List Name)
  | umount (asRoot : List String) (point : List Name)
  | unlink (path : List Name)
  | rmdir (path : List Name)
  | pathExists (path : List Name)
  | rmtree (path : List Name)
  | write (path : List Name) (x : α)
  | read (path : List Name)

/-- A command answers with its return code. -/
@[reducible] def DiskCall.Ret {α : Type} : DiskCall α → Type
  | .truncate _ _ | .mkfs _ | .mount _ _ _ | .umount _ _ => Int
  | .pathExists _ => Bool
  | .read _ => List α
  | .mkdir _ | .unlink _ | .rmdir _ | .rmtree _ | .write _ _ => Unit

abbrev Disk (α β : Type) := Program (DiskCall α) DiskCall.Ret DiskExn β

/-! ## `domain/disk.py` -/

def sudoPrefix (mode : DiskMode) : List String :=
  if mode = .loopMountSudo then ["sudo", "-n"] else []

section

variable {α : Type}

/-- `subprocess.run(…, check=True)` -/
def checked (command : Disk α Int) : Disk α Unit := do
  let returncode ← command
  if returncode = 0 then pure () else raise (.calledProcess returncode)

def isMissingOrLate : DiskExn → Bool
  | .fileNotFound | .timeoutExpired => true
  | _ => false

def isSetupFailure : DiskExn → Bool
  | .fileNotFound | .timeoutExpired | .calledProcess _ => true
  | _ => false

def isOSError : DiskExn → Bool
  | .fileNotFound | .os => true
  | _ => false

/-- `umount`, whatever it returns. -/
def umountQuietly (mode : DiskMode) (mountPath : List Name) : Disk α Unit :=
  ignoring isMissingOrLate do
    let _ ← perform (DiskCall.umount (sudoPrefix mode) mountPath)

/-- The three commands of `create_loop_volume`. -/
def setUpLoop (mountPath imagePath : List Name) (sizeGb : Int)
    (mode : DiskMode) : Disk α Unit := do
  checked (perform (DiskCall.truncate sizeGb imagePath))
  checked (perform (DiskCall.mkfs imagePath))
  checked (perform (DiskCall.mount (sudoPrefix mode) imagePath mountPath))

/-- `describe` is `str(exc)`. -/
def createLoopVolume (describe : DiskExn → String)
    (mountPath imagePath : List Name) (sizeGb : Int) (mode : DiskMode) :
    Disk α Unit :=
  if sizeGb < 1 then
    raise (.diskError s!"invalid size_gb={sizeGb}" "disk_quota_setup")
  else do
    perform (DiskCall.mkdir imagePath.dropLast)
    perform (DiskCall.mkdir mountPath)
    match ← attempt (setUpLoop mountPath imagePath sizeGb mode) with
    | .ok () => pure ()
    | .error x =>
        if isSetupFailure x then do
          umountQuietly mode mountPath
          perform (DiskCall.unlink imagePath)
          raise (.diskError s!"loop volume setup failed: {describe x}"
            "disk_quota_setup")
        else raise x

def destroyLoopVolume (mountPath imagePath : List Name) (mode : DiskMode) :
    Disk α Unit := do
  umountQuietly mode mountPath
  ignoring isOSError (perform (DiskCall.unlink imagePath))

end

/-! ## `LocalVolumeManager` -/

structure VolumeName where
  text : String
  ordinary : OrdinaryName text
  bare : ¬ ".ext4".toList <:+ text.toList
  deriving DecidableEq

/-- A `VolumeRecord`, with the path resolved; `none` is a fresh volume id. -/
structure LoopVolume where
  deploymentId : VolumeName
  hotkey : String
  nodeId : String
  path : List Name
  sizeGb : Int
  status : String
  volumeId : Option String

namespace VolumeName

def name (d : VolumeName) : Name := ⟨d.text, d.ordinary⟩

/-- `f"{deployment_id}.ext4"` -/
def imageText (d : VolumeName) : String := d.text ++ ".ext4"

theorem imageText_ordinary (d : VolumeName) : OrdinaryName d.imageText := by
  have hlong : 5 ≤ d.imageText.toList.length := by
    simp [imageText, String.toList_append]
  obtain ⟨-, -, -, hslash⟩ := d.ordinary
  refine ⟨fun h => ?_, fun h => ?_, fun h => ?_, ?_⟩
  · simp [h] at hlong
  · simp [h] at hlong
  · simp [h] at hlong
  · simp [imageText, String.toList_append, hslash]

def imageName (d : VolumeName) : Name := ⟨d.imageText, d.imageText_ordinary⟩

end VolumeName

namespace LoopVolumeManager

variable {α : Type}

def volumePath (baseDir : List Name) (d : VolumeName) : List Name :=
  baseDir ++ [d.name]

def imagePath (baseDir : List Name) (d : VolumeName) : List Name :=
  baseDir ++ [d.imageName]

def isLoop (mode : DiskMode) : Bool :=
  mode = .loopMount || mode = .loopMountSudo

def createVolume (describe : DiskExn → String) (baseDir : List Name)
    (mode : DiskMode) (d : VolumeName) (hotkey nodeId : String) (sizeGb : Int)
    (volumeId : Option String) : Disk α LoopVolume := do
  let volPath := volumePath baseDir d
  let record : LoopVolume := {
    deploymentId := d, hotkey, nodeId, path := volPath, sizeGb
    status := "created", volumeId := volumeId.filter (· ≠ "") }
  if isLoop mode then
    match ← attempt (createLoopVolume describe volPath (imagePath baseDir d)
        sizeGb mode) with
    | .ok () => pure record
    | .error (.diskError message failureClass) =>
        raise (.volumeError message failureClass)
    | .error x => raise x
  else do
    perform (DiskCall.mkdir volPath)
    pure record

def deleteVolume (baseDir : List Name) (mode : DiskMode)
    (volume : LoopVolume) : Disk α Unit :=
  if isLoop mode then do
    destroyLoopVolume volume.path (imagePath baseDir volume.deploymentId) mode
    ignoring isOSError (perform (DiskCall.rmdir volume.path))
  else do
    let there ← perform (DiskCall.pathExists volume.path)
    if there then perform (DiskCall.rmtree volume.path) else pure ()

/-- A record that `create_volume` returned for `d`. -/
def MadeFor (baseDir : List Name) (d : VolumeName) (volume : LoopVolume) :
    Prop :=
  volume.deploymentId = d ∧ volume.path = volumePath baseDir d

end LoopVolumeManager

/-! ## What is done with a deployment's volume -/

section

open LoopVolumeManager

variable {α : Type}

/-- The agent makes and deletes the volume, and the tenant uses it. -/
inductive VolumeOp (α : Type) (baseDir : List Name) (d : VolumeName) where
  | create (hotkey nodeId : String) (sizeGb : Int) (volumeId : Option String)
  | delete (volume : LoopVolume) (made : MadeFor baseDir d volume)
  | write (x : α)
  | read

@[reducible] def VolumeOp.Ret {baseDir : List Name} {d : VolumeName} :
    VolumeOp α baseDir d → Type
  | .create _ _ _ _ => LoopVolume
  | .delete _ _ | .write _ => Unit
  | .read => List α

def VolumeOp.body (describe : DiskExn → String) (mode : DiskMode)
    {baseDir : List Name} {d : VolumeName} :
    (o : VolumeOp α baseDir d) → Disk α o.Ret
  | .create hotkey nodeId sizeGb volumeId =>
      createVolume describe baseDir mode d hotkey nodeId sizeGb volumeId
  | .delete volume _ => deleteVolume baseDir mode volume
  | .write x => perform (DiskCall.write (volumePath baseDir d) x)
  | .read => perform (DiskCall.read (volumePath baseDir d))

/-- The calls for `d`: on its own two paths, and that the base is there. -/
def DiskCall.Of (baseDir : List Name) (d : VolumeName) : DiskCall α → Prop
  | .mkdir p => p = baseDir ∨ p = volumePath baseDir d
  | .truncate _ p | .mkfs p | .unlink p => p = imagePath baseDir d
  | .mount _ image point =>
      image = imagePath baseDir d ∧ point = volumePath baseDir d
  | .umount _ p | .rmdir p | .pathExists p | .rmtree p | .write p _ | .read p =>
      p = volumePath baseDir d

variable {describe : DiskExn → String} {baseDir : List Name} {mode : DiskMode}
variable {d : VolumeName}

/-- Whatever the host answers, the calls are for `d`. -/
abbrev For (baseDir : List Name) (d : VolumeName) {β : Type} (p : Disk α β) :
    Prop :=
  Within (fun _ _ => True) (DiskCall.Of baseDir d) p fun _ => True

theorem for_perform {e : DiskCall α} (he : DiskCall.Of baseDir d e) :
    For baseDir d (perform e) :=
  within_perform he fun _ _ => trivial

theorem for_checked {command : Disk α Int} (h : For baseDir d command) :
    For baseDir d (checked command) := by
  refine within_bind h fun returncode _ => ?_
  split
  · exact within_pure trivial
  · exact within_raise

theorem for_umountQuietly :
    For (α := α) baseDir d (umountQuietly mode (volumePath baseDir d)) :=
  within_ignoring (within_bind (for_perform rfl) fun _ _ => within_pure trivial)

theorem for_createLoopVolume {sizeGb : Int} : For (α := α) baseDir d
    (createLoopVolume describe (volumePath baseDir d) (imagePath baseDir d)
      sizeGb mode) := by
  have hparent : (imagePath baseDir d).dropLast = baseDir := by
    simp [imagePath]
  have hset : For (α := α) baseDir d (setUpLoop (volumePath baseDir d)
      (imagePath baseDir d) sizeGb mode) :=
    within_bind (for_checked (for_perform rfl)) fun _ _ =>
      within_bind (for_checked (for_perform rfl)) fun _ _ =>
        for_checked (for_perform ⟨rfl, rfl⟩)
  unfold createLoopVolume
  split
  · exact within_raise
  · refine within_bind (for_perform (.inl hparent)) fun _ _ => ?_
    refine within_bind (for_perform (.inr rfl)) fun _ _ => ?_
    refine within_bind (within_attempt (Q := fun _ => True) hset
      fun _ => trivial) fun r _ => ?_
    cases r with
    | ok => exact within_pure trivial
    | error x =>
        dsimp only
        split
        · refine within_bind for_umountQuietly fun _ _ => ?_
          exact within_bind (for_perform rfl) fun _ _ => within_raise
        · exact within_raise

theorem createVolume_made {hotkey nodeId : String} {sizeGb : Int}
    {volumeId : Option String} :
    Within (fun _ _ => True) (DiskCall.Of baseDir d)
      (createVolume (α := α) describe baseDir mode d hotkey nodeId sizeGb
        volumeId) (MadeFor baseDir d) := by
  unfold createVolume
  dsimp only
  split
  · refine within_bind (within_attempt (Q := fun _ => True)
      for_createLoopVolume fun _ => trivial) fun r _ => ?_
    split
    · exact within_pure ⟨rfl, rfl⟩
    · exact within_raise
    · exact within_raise
  · exact within_bind (for_perform (.inr rfl)) fun _ _ => within_pure ⟨rfl, rfl⟩

theorem for_deleteVolume {volume : LoopVolume}
    (hmade : MadeFor baseDir d volume) :
    For (α := α) baseDir d (deleteVolume baseDir mode volume) := by
  obtain ⟨rfl, hpath⟩ := hmade
  unfold deleteVolume
  rw [hpath]
  split
  · refine within_bind (within_bind for_umountQuietly fun _ _ =>
      within_ignoring (for_perform rfl)) fun _ _ => ?_
    exact within_ignoring (for_perform rfl)
  · refine within_bind (for_perform rfl) fun there _ => ?_
    split
    · exact for_perform rfl
    · exact within_pure trivial

theorem VolumeOp.for_body (o : VolumeOp α baseDir d) :
    For baseDir d (o.body describe mode) := by
  cases o with
  | create hotkey nodeId sizeGb volumeId =>
      exact createVolume_made.weaken fun _ _ => trivial
  | delete volume made => exact for_deleteVolume made
  | write x => exact for_perform rfl
  | read => exact for_perform rfl

end

end NodeAgent
