import NodeAgent.Infrastructure.DiskHost

/-!
# What a volume holds

A deployment's volume as a list of what was written to it, and when its image
and its mount come and go.
-/

namespace NodeAgent

open Effectful Program LoopVolumeManager DiskHost

variable {α β : Type} {base : List Name} {d : VolumeName} {mode : DiskMode}
variable {describe : DiskExn → String} {w w' : DiskHost α}

/-- `none` where it is not known what the volume holds, or if it is there. -/
abbrev KnownFiles (α : Type) := Option (List α)

/-- The volume by itself: a list that is written at its end. -/
def volumeStore (α : Type) (base : List Name) (d : VolumeName)
    (mode : DiskMode) :
    Machine (VolumeOp α base d) VolumeOp.Ret DiskExn (KnownFiles α) where
  Step known o r known' := match o, r with
    | .create _ _ _ _, .ok _ =>
        ∃ files, known' = some files ∧ (isLoop mode = true → files = [])
    | .create _ _ _ _, .error _ | .delete _ _, _ => known' = none
    | .write x, .ok _ => known' = known.map (· ++ [x])
    | .write x, .error _ => known' = known ∨ known' = known.map (· ++ [x])
    | .read, .ok files => known.getD files = files ∧ known' = known
    | .read, .error _ => known' = known

def Holds (base : List Name) (d : VolumeName) (known : KnownFiles α)
    (w : DiskHost α) : Prop :=
  ∀ files, known = some files → w.contents (volumePath base d) = some files

variable {known : KnownFiles α}

/-- What `check=True` makes of an answer. -/
def checkedResult : Except DiskExn Int → Except DiskExn Unit
  | .ok returncode =>
      if returncode = 0 then .ok () else .error (.calledProcess returncode)
  | .error x => .error x

theorem checkedResult_eq_ok {r : Except DiskExn Int} :
    checkedResult r = .ok () ↔ r = .ok 0 := by
  cases r with
  | error x => simp [checkedResult]
  | ok returncode => by_cases h : returncode = 0 <;> simp [checkedResult, h]

variable {M : Machine (DiskCall α) DiskCall.Ret DiskExn (DiskHost α)}
variable {guard : DiskHost α → DiskCall α → Prop}

theorem sat_checked {command : Disk α Int}
    {post : Except DiskExn Unit → DiskHost α → Prop}
    (h : Sat M guard command (fun r => post (checkedResult r)) w) :
    Sat M guard (checked command) post w := by
  refine sat_bind'.mpr (h.weaken fun r w' hr => ?_)
  cases r with
  | error x => exact hr
  | ok returncode =>
      by_cases hzero : returncode = 0
      · subst hzero
        exact hr
      · simp only [checkedResult, if_neg hzero] at hr
        simp only [andThen_ok, if_neg hzero]
        exact hr

theorem sat_checked_bind {command : Disk α Int}
    {rest : Disk α β} {post : Except DiskExn β → DiskHost α → Prop}
    {m : Except DiskExn Int → DiskHost α → Prop}
    (h : Sat M guard command m w)
    (hok : ∀ w', m (.ok 0) w' → Sat M guard rest post w')
    (herror : ∀ r x w', m r w' → checkedResult r = .error x →
      post (.error x) w') :
    Sat M guard (checked command >>= fun _ => rest) post w := by
  refine sat_bind'.mpr (sat_checked (h.weaken fun r w' hr => ?_))
  cases hresult : checkedResult r with
  | error x => exact herror r x w' hr hresult
  | ok =>
      obtain rfl := checkedResult_eq_ok.mp hresult
      exact hok w' hr

/-- What returns leaves a volume with files, in the loop modes an empty one. -/
def Provides {γ : Type} (base : List Name) (d : VolumeName) (mode : DiskMode) :
    Except DiskExn γ → DiskHost α → Prop
  | .ok _, w => ∃ files, w.contents (volumePath base d) = some files ∧
      (isLoop mode = true → files = [])
  | .error _, _ => True

theorem setUpLoop_provides {sizeGb : Int} :
    Sat (diskHost α) (fun _ _ => True)
      (setUpLoop (volumePath base d) (imagePath base d) sizeGb mode)
      (Provides base d mode) w := by
  refine sat_checked_bind ⟨trivial, fun r w₁ h => h⟩
    (fun w₁ _ => ?_) fun _ _ _ _ _ => trivial
  refine sat_checked_bind ⟨trivial, fun r w₂ h => h⟩
    (fun w₂ hmkfs => ?_) fun _ _ _ _ _ => trivial
  obtain ⟨i, hnode, rfl⟩ := hmkfs.2
  refine sat_checked ⟨trivial, fun r w₃ hmount => ?_⟩
  change Provides base d mode (checkedResult r) w₃
  cases hresult : checkedResult r with
  | error x => trivial
  | ok =>
      obtain rfl := checkedResult_eq_ok.mp hresult
      obtain ⟨j, files, hnode', -, rfl⟩ := hmount.2
      have hsame : i = j := by
        have h := hnode.symm.trans hnode'
        cases h
        rfl
      subst hsame
      exact ⟨[], by simp [DiskHost.contents, setMounts, setData], fun _ => rfl⟩

theorem sat_anything {p : Disk α β} :
    Sat M (fun _ _ => True) p (fun _ _ => True) w := by
  induction p generalizing w with
  | done r => trivial
  | call e next ih => exact ⟨trivial, fun r w' _ => ih r⟩

theorem createLoopVolume_provides {sizeGb : Int} :
    Sat (diskHost α) (fun _ _ => True)
      (createLoopVolume describe (volumePath base d) (imagePath base d) sizeGb
        mode) (Provides base d mode) w := by
  unfold createLoopVolume
  split
  · trivial
  refine Sat.bind sat_anything (fun _ w₁ _ => ?_) fun _ _ _ => trivial
  refine Sat.bind sat_anything (fun _ w₂ _ => ?_) fun _ _ _ => trivial
  refine sat_bind'.mpr (sat_attempt.mpr (setUpLoop_provides.weaken
    fun r w₃ hprovides => ?_))
  cases r with
  | ok => exact hprovides
  | error x =>
      simp only [andThen_ok]
      split
      · refine Sat.bind sat_anything (fun _ w₄ _ => ?_) fun _ _ _ => trivial
        exact Sat.bind sat_anything (fun _ w₅ _ => trivial) fun _ _ _ => trivial
      · trivial

theorem mkdir_contents {p : List Name} (h : w.Does (.mkdir p) w') :
    ∃ files, w'.contents p = some files := by
  have hthere : ∃ files, w'.nodes p = some (.dir files) := by
    simp only [Does] at h
    split at h
    · subst h
      exact ⟨[], by simp [setNode]⟩
    · rename_i files hnode
      subst h
      exact ⟨files, hnode⟩
    · exact h.elim
  obtain ⟨files, hnode⟩ := hthere
  unfold DiskHost.contents
  cases w'.mounts p with
  | nil => exact ⟨files, by rw [hnode]⟩
  | cons i older => exact ⟨_, rfl⟩

theorem createVolume_provides {hotkey nodeId : String} {sizeGb : Int}
    {volumeId : Option String} :
    Sat (diskHost α) (fun _ _ => True)
      (createVolume describe base mode d hotkey nodeId sizeGb volumeId)
      (Provides base d mode) w := by
  unfold createVolume
  dsimp only
  split
  · refine sat_bind'.mpr (sat_attempt.mpr (createLoopVolume_provides.weaken
      fun r w' hprovides => ?_))
    cases r with
    | ok => exact hprovides
    | error x =>
        simp only [andThen_ok]
        split
        · rename_i heq
          cases heq
        · trivial
        · trivial
  · rename_i hplain
    refine sat_bind'.mpr ⟨trivial, fun r w' hstep => ?_⟩
    cases r with
    | error x => trivial
    | ok =>
        obtain ⟨files, hfiles⟩ := mkdir_contents hstep.2
        exact ⟨files, hfiles, fun hloop => absurd hloop hplain⟩

theorem refilled_contents {p : List Name} {files : List α}
    (h : w.Refilled p files w') : w'.contents p = some files := by
  unfold Refilled at h
  split at h
  · rename_i i older hmounts
    subst h
    simp [DiskHost.contents, setData, hmounts]
  · rename_i hmounts _
    subst h
    simp [DiskHost.contents, setNode, hmounts]
  · exact h.elim

theorem holds_none : Holds base d none w := by
  intro files h
  cases h

theorem write_holds {x : α} (h : Holds base d known w)
    (hwrite : w.Does (.write (volumePath base d) x) w') :
    Holds base d (known.map (· ++ [x])) w' := by
  obtain ⟨files, hcontents, hrefilled⟩ := hwrite
  intro files' heq
  obtain ⟨before, rfl, rfl⟩ := Option.map_eq_some_iff.mp heq
  have hbefore := h before rfl
  rw [hcontents] at hbefore
  cases hbefore
  exact refilled_contents hrefilled

theorem body_holds (o : VolumeOp α base d) (h : Holds base d known w) :
    Sat (diskHost α) (fun _ _ => True) (o.body describe mode)
      (fun r w' => ∃ known', (volumeStore α base d mode).Step known o r known' ∧
        Holds base d known' w') w := by
  cases o with
  | create hotkey nodeId sizeGb volumeId =>
      refine createVolume_provides.weaken fun r w' hprovides => ?_
      cases r with
      | error x => exact ⟨none, rfl, holds_none⟩
      | ok volume =>
          obtain ⟨files, hfiles, hloop⟩ := hprovides
          refine ⟨some files, ⟨files, rfl, hloop⟩, fun files' heq => ?_⟩
          cases heq
          exact hfiles
  | delete volume made =>
      refine sat_anything.weaken fun r w' _ => ⟨none, ?_, holds_none⟩
      cases r <;> exact rfl
  | write x =>
      refine ⟨trivial, fun r w' hstep => ?_⟩
      cases r with
      | ok => exact ⟨_, rfl, write_holds h hstep.2⟩
      | error y =>
          rcases keeps_or_does (by simp) hstep with rfl | hwrite
          · exact ⟨known, .inl rfl, h⟩
          · exact ⟨_, .inr rfl, write_holds h hwrite⟩
  | read =>
      refine ⟨trivial, fun r w' hstep => ?_⟩
      cases r with
      | ok files =>
          obtain ⟨hanswers, rfl⟩ := hstep
          refine ⟨known, ⟨?_, rfl⟩, h⟩
          cases known with
          | none => rfl
          | some before =>
              exact Option.some.inj ((h before rfl).symm.trans hanswers)
      | error y =>
          rcases keeps_or_does (by simp) hstep with rfl | rfl
          · exact ⟨known, rfl, h⟩
          · exact ⟨known, rfl, h⟩

theorem expand_holds
    (client : Program (VolumeOp α base d) VolumeOp.Ret DiskExn β)
    (h : Holds base d known w) :
    Sat (diskHost α) (fun _ _ => True)
      (expand (VolumeOp.body describe mode) client)
      (fun r w' => ∃ known',
        Exec (volumeStore α base d mode) client known r known' ∧
          Holds base d known' w') w := by
  induction client generalizing known w with
  | done r => exact ⟨known, .refl _ _, h⟩
  | call o next ih =>
      refine sat_bind.mpr (sat_attempt.mpr ((body_holds o h).weaken ?_))
      rintro r w₁ ⟨known₁, hstep, h₁⟩
      refine (ih r h₁).weaken ?_
      rintro r' w₂ ⟨known₂, hexec, h₂⟩
      exact ⟨known₂, .step hstep hexec, h₂⟩

/-! ## Volumes beside each other -/

section

variable {ι : Type} [DecidableEq ι] {owner : ι → VolumeName} {i : ι}
variable {clients : (i : ι) →
  Program (VolumeOp α base (owner i)) VolumeOp.Ret DiskExn β}
variable {pool' : ι → Disk α β} {r : Except DiskExn β}

/--
Whatever a deployment's thread returns, it could have returned on a list of its
own: what it reads is what it wrote since its volume was made, whatever the
host answers and whatever is done with the other volumes in the meantime.
-/
theorem volume_refines_store
    (hrun : Interleaves (fun _ => diskHost α)
      (volumeThreads describe mode base owner clients) w pool' w')
    (hw : w.Apart base) (honly : ∀ j, owner j = owner i → j = i)
    (hdone : pool' i = .done r) :
    ∃ known, Exec (volumeStore α base (owner i) mode) (clients i) none r
      known := by
  obtain ⟨g', hsolo, -, -⟩ := interleaves_isolated r hrun volumeThreads_for
    hw (alone_seen (d := owner i))
  have hexec : Reaches (diskHost α)
      (volumeThreads describe mode base owner clients i)
      (w.alone base (owner i)) (.done r) g' := by
    simpa [onlyThose, hdone] using hsolo.reaches (i := i) fun j hj =>
      ⟨_, onlyThose_other (mt (honly j) hj)⟩
  obtain ⟨known, hexec, -⟩ := (expand_holds (clients i) holds_none).exec hexec
  exact ⟨known, hexec⟩

end

theorem volume_refines_store_twoPods : ∃ known,
    Exec (volumeStore Nat volumesDir (podName true) .loopMount) (podClient true)
      none (.ok [1]) known :=
  volume_refines_store twoPods_run unusedDisk_apart (by decide) rfl

/-! ## The image and the mount -/

/-- At worst a command that is not there, or that ran out of time. -/
def MissingOrLate {γ : Type} (r : Except DiskExn γ) : Prop :=
  ∀ x, r = .error x → isMissingOrLate x = true

/-- The host unmounts what is mounted and removes the files it is asked to. -/
def Orderly (w : DiskHost α) : (e : DiskCall α) → Except DiskExn e.Ret → Prop
  | .umount _ p, r => (w.mounts p ≠ [] → r = .ok 0) ∧ MissingOrLate r
  | .unlink p, r => (∀ files, w.nodes p ≠ some (.dir files)) → r = .ok ()
  | .truncate _ _, r | .mkfs _, r | .mount _ _ _, r => MissingOrLate r
  | _, _ => True

def orderlyDisk (α : Type) :
    Machine (DiskCall α) DiskCall.Ret DiskExn (DiskHost α) where
  Step w e r w' := Orderly w e r ∧ (diskHost α).Step w e r w'

/-- Nothing is left of a volume but its directory, if that. -/
def NoVolume (base : List Name) (d : VolumeName) (w : DiskHost α) : Prop :=
  w.mounts (volumePath base d) = [] ∧ w.nodes (imagePath base d) = none

/-- The image is there and mounted, once. -/
def MountedOnce (base : List Name) (d : VolumeName) (w : DiskHost α) : Prop :=
  ∃ i, w.mounts (volumePath base d) = [i] ∧
    w.nodes (imagePath base d) = some (.image i)

/-- The image may be there, and may be mounted. -/
def Begun (base : List Name) (d : VolumeName) (w : DiskHost α) : Prop :=
  (w.mounts (volumePath base d)).length ≤ 1 ∧
    ∀ files, w.nodes (imagePath base d) ≠ some (.dir files)

theorem umountQuietly_unmounts (h : Begun base d w) :
    Sat (orderlyDisk α) (fun _ _ => True)
      (umountQuietly mode (volumePath base d))
      (fun r w' => r = .ok () ∧ w'.mounts (volumePath base d) = [] ∧
        w'.nodes = w.nodes) w := by
  refine sat_ignoring.mpr (sat_bind'.mpr ⟨trivial, fun r w' hstep => ?_⟩)
  obtain ⟨⟨hworks, hexcused⟩, hstep⟩ := hstep
  have hafter : w'.mounts (volumePath base d) = [] ∧ w'.nodes = w.nodes := by
    cases hmounts : w.mounts (volumePath base d) with
    | nil =>
        rcases keeps_or_does (by simp) hstep with rfl | ⟨i, older, hsome, -⟩
        · exact ⟨hmounts, rfl⟩
        · rw [hmounts] at hsome
          cases hsome
    | cons i older =>
        obtain rfl := hworks (by simp [hmounts])
        obtain ⟨j, older', hmounts', rfl⟩ := hstep.2
        have hlength := h.1
        rw [hmounts'] at hlength
        obtain rfl : older' = [] := List.length_eq_zero_iff.mp (by
          simpa using hlength)
        exact ⟨by simp [setMounts], rfl⟩
  cases r with
  | ok returncode => exact ⟨rfl, hafter⟩
  | error x =>
      rw [sat_done, andThen_error]
      dsimp only
      rw [if_pos (hexcused x rfl)]
      exact ⟨rfl, hafter⟩

theorem unlink_leaves_none (hmounts : w.mounts (volumePath base d) = [])
    (hfile : ∀ files, w.nodes (imagePath base d) ≠ some (.dir files)) :
    Sat (orderlyDisk α) (fun _ _ => True)
      (perform (DiskCall.unlink (imagePath base d)))
      (fun r w' => r = .ok () ∧ NoVolume base d w') w := by
  refine ⟨trivial, fun r w' hstep => ?_⟩
  obtain ⟨hworks, -, hstep⟩ := hstep
  obtain rfl := hworks hfile
  obtain ⟨-, rfl⟩ := hstep
  exact ⟨rfl, hmounts, by simp [setNode]⟩

theorem isSetupFailure_of_missingOrLate {r : Except DiskExn Int} {x : DiskExn}
    (h : MissingOrLate r) (hresult : checkedResult r = .error x) :
    isSetupFailure x = true := by
  cases r with
  | error y =>
      cases hresult
      have hcaught := h x rfl
      cases x <;> simp_all [isMissingOrLate, isSetupFailure]
  | ok returncode =>
      simp only [checkedResult] at hresult
      split at hresult
      · cases hresult
      · cases hresult
        rfl

theorem truncate_begun {sizeGb : Int} {r : Except DiskExn Int}
    (h : NoVolume base d w)
    (hstep : (diskHost α).Step w (.truncate sizeGb (imagePath base d)) r w') :
    w'.mounts (volumePath base d) = [] ∧
      ∀ files, w'.nodes (imagePath base d) ≠ some (.dir files) := by
  rcases keeps_or_does (by simp) hstep with rfl | hdoes
  · exact ⟨h.1, by simp [h.2]⟩
  · simp only [Does, h.2] at hdoes
    obtain ⟨i, -, rfl⟩ := hdoes
    exact ⟨h.1, by simp [setData, setNode]⟩

theorem mkfs_spares {p : List Name} {r : Except DiskExn Int}
    (hstep : (diskHost α).Step w (.mkfs p) r w') :
    w'.mounts = w.mounts ∧ w'.nodes = w.nodes := by
  have hstep := hstep.2
  split at hstep
  · obtain ⟨i, -, rfl⟩ := hstep
    exact ⟨rfl, rfl⟩
  · rcases hstep with rfl | ⟨i, -, rfl⟩ | ⟨i, files, -, rfl⟩
    · exact ⟨rfl, rfl⟩
    · exact ⟨rfl, rfl⟩
    · exact ⟨rfl, rfl⟩

theorem mount_begun {asRoot : List String} {r : Except DiskExn Int}
    (hmounts : w.mounts (volumePath base d) = [])
    (hfile : ∀ files, w.nodes (imagePath base d) ≠ some (.dir files))
    (hstep : (diskHost α).Step w
      (.mount asRoot (imagePath base d) (volumePath base d)) r w') :
    Begun base d w' ∧ (r = .ok 0 → MountedOnce base d w') := by
  have hdoes : w.Does (.mount asRoot (imagePath base d) (volumePath base d))
      w' → Begun base d w' ∧ MountedOnce base d w' := by
    rintro ⟨i, files, hnode, -, rfl⟩
    refine ⟨⟨by simp [setMounts, hmounts], hfile⟩, i, ?_, hnode⟩
    simp [setMounts, hmounts]
  refine ⟨?_, fun hzero => ?_⟩
  · rcases keeps_or_does (by simp) hstep with rfl | hmount
    · exact ⟨by simp [hmounts], hfile⟩
    · exact (hdoes hmount).1
  · subst hzero
    exact (hdoes hstep.2).2

/-- The volume is mounted, or the setup gave up and may have left a part. -/
def SetUp (base : List Name) (d : VolumeName) :
    Except DiskExn Unit → DiskHost α → Prop
  | .ok _, w => MountedOnce base d w
  | .error x, w => isSetupFailure x = true ∧ Begun base d w

theorem setUpLoop_begun {sizeGb : Int} (h : NoVolume base d w) :
    Sat (orderlyDisk α) (fun _ _ => True)
      (setUpLoop (volumePath base d) (imagePath base d) sizeGb mode)
      (SetUp base d) w := by
  refine sat_checked_bind ⟨trivial, fun r w₁ hstep =>
    And.intro hstep.1 (truncate_begun h hstep.2)⟩ (fun w₁ h₁ => ?_)
    fun r x w₁ h₁ hresult =>
      ⟨isSetupFailure_of_missingOrLate h₁.1 hresult, by simp [h₁.2.1], h₁.2.2⟩
  obtain ⟨-, hmounts, hfile⟩ := h₁
  refine sat_checked_bind ⟨trivial, fun r w₂ hstep =>
    And.intro hstep.1 (mkfs_spares hstep.2)⟩ (fun w₂ h₂ => ?_)
    fun r x w₂ h₂ hresult =>
      ⟨isSetupFailure_of_missingOrLate h₂.1 hresult, ?_, ?_⟩
  · obtain ⟨-, hmounts₂, hnodes₂⟩ := h₂
    refine sat_checked ⟨trivial, fun r w₃ hstep => ?_⟩
    obtain ⟨hbegun, honce⟩ := mount_begun (by rw [hmounts₂, hmounts])
      (by rw [hnodes₂]; exact hfile) hstep.2
    change SetUp base d (checkedResult r) w₃
    cases hresult : checkedResult r with
    | ok => exact honce (checkedResult_eq_ok.mp hresult)
    | error x =>
        exact ⟨isSetupFailure_of_missingOrLate hstep.1 hresult, hbegun⟩
  · rw [h₂.2.1, hmounts]
    exact Nat.zero_le 1
  · rw [h₂.2.2]
    exact hfile

theorem mkdir_spares {p : List Name} {r : Except DiskExn Unit}
    (hp : p ≠ imagePath base d) (hstep : (diskHost α).Step w (.mkdir p) r w') :
    w'.mounts = w.mounts ∧
      w'.nodes (imagePath base d) = w.nodes (imagePath base d) := by
  rcases keeps_or_does (by simp) hstep with rfl | hdoes
  · exact ⟨rfl, rfl⟩
  · simp only [Does] at hdoes
    split at hdoes
    · subst hdoes
      exact ⟨rfl, Function.update_of_ne hp.symm _ _⟩
    · subst hdoes
      exact ⟨rfl, rfl⟩
    · exact hdoes.elim

theorem NoVolume.mkdir {p : List Name} {r : Except DiskExn Unit}
    (h : NoVolume base d w) (hp : p ≠ imagePath base d)
    (hstep : (orderlyDisk α).Step w (.mkdir p) r w') : NoVolume base d w' := by
  obtain ⟨hmounts, hnodes⟩ := mkdir_spares hp hstep.2
  exact ⟨by rw [hmounts, h.1], by rw [hnodes, h.2]⟩

/-- The volume is made, or there is nothing of it. -/
def Tidy {γ : Type} (base : List Name) (d : VolumeName) :
    Except DiskExn γ → DiskHost α → Prop
  | .ok _, w => MountedOnce base d w
  | .error _, w => NoVolume base d w

theorem createLoopVolume_tidy {sizeGb : Int} (h : NoVolume base d w) :
    Sat (orderlyDisk α) (fun _ _ => True)
      (createLoopVolume describe (volumePath base d) (imagePath base d) sizeGb
        mode) (Tidy base d) w := by
  have hparent : (imagePath base d).dropLast ≠ imagePath base d := by
    simp [imagePath]
  unfold createLoopVolume
  split
  · exact h
  refine Sat.bind (m := fun _ w' => NoVolume base d w')
    ⟨trivial, fun r w₁ hstep => h.mkdir hparent hstep⟩ (fun _ w₁ h => ?_)
    fun _ _ h => h
  refine Sat.bind (m := fun _ w' => NoVolume base d w')
    ⟨trivial, fun r w₂ hstep => h.mkdir volumePath_ne_imagePath hstep⟩
    (fun _ w₂ h => ?_) fun _ _ h => h
  refine sat_bind'.mpr (sat_attempt.mpr ((setUpLoop_begun h).weaken
    fun r w₃ hset => ?_))
  cases r with
  | ok => exact hset
  | error x =>
      obtain ⟨hfailure, hbegun⟩ := hset
      simp only [andThen_ok, hfailure, if_true]
      -- The rollback: a mount that took effect is undone, then the image goes.
      refine Sat.bind (umountQuietly_unmounts hbegun) (fun _ w₄ h₄ => ?_)
        fun y w₄ h₄ => by cases h₄.1
      have hfile : ∀ files,
          w₄.nodes (imagePath base d) ≠ some (.dir files) := by
        rw [h₄.2.2]
        exact hbegun.2
      exact Sat.bind (unlink_leaves_none h₄.2.1 hfile) (fun _ w₅ h₅ => h₅.2)
        fun y w₅ h₅ => h₅.2

theorem createVolume_tidy {hotkey nodeId : String} {sizeGb : Int}
    {volumeId : Option String} (hloop : isLoop mode = true)
    (h : NoVolume base d w) :
    Sat (orderlyDisk α) (fun _ _ => True)
      (createVolume describe base mode d hotkey nodeId sizeGb volumeId)
      (Tidy base d) w := by
  unfold createVolume
  dsimp only
  rw [if_pos hloop]
  refine sat_bind'.mpr (sat_attempt.mpr ((createLoopVolume_tidy h).weaken
    fun r w' htidy => ?_))
  cases r with
  | ok => exact htidy
  | error x =>
      simp only [andThen_ok]
      split
      · rename_i heq
        cases heq
      · exact htidy
      · exact htidy

theorem MountedOnce.begun (h : MountedOnce base d w) : Begun base d w := by
  obtain ⟨i, hmounts, hnode⟩ := h
  exact ⟨by simp [hmounts], by simp [hnode]⟩

theorem NoVolume.begun (h : NoVolume base d w) : Begun base d w :=
  ⟨by simp [h.1], by simp [h.2]⟩

theorem deleteVolume_tidy {volume : LoopVolume} (hloop : isLoop mode = true)
    (hmade : MadeFor base d volume) (hbegun : Begun base d w) :
    Sat (orderlyDisk α) (fun _ _ => True) (deleteVolume base mode volume)
      (fun _ w' => NoVolume base d w') w := by
  obtain ⟨rfl, hpath⟩ := hmade
  unfold deleteVolume destroyLoopVolume
  rw [if_pos hloop, hpath]
  refine Sat.bind (m := fun _ w' => NoVolume base volume.deploymentId w') ?_
    (fun _ w₁ h => ?_) fun _ _ h => h
  · refine Sat.bind (umountQuietly_unmounts hbegun) (fun _ w₁ h₁ => ?_)
      fun y w₁ h₁ => by cases h₁.1
    refine sat_ignoring.mpr ((unlink_leaves_none h₁.2.1
      (by rw [h₁.2.2]; exact hbegun.2)).weaken fun r w₂ h₂ => ?_)
    obtain ⟨rfl, hnone⟩ := h₂
    exact hnone
  · refine sat_ignoring.mpr ⟨trivial, fun r w₂ hstep => ?_⟩
    have hnone : NoVolume base volume.deploymentId w₂ := by
      rcases keeps_or_does (by simp) hstep.2 with rfl | ⟨-, -, rfl⟩
      · exact h
      · refine ⟨h.1, ?_⟩
        exact (Function.update_of_ne volumePath_ne_imagePath.symm _ _).trans h.2
    cases r with
    | ok => exact hnone
    | error x =>
        rw [sat_done]
        dsimp only
        rw [ite_self]
        exact hnone

theorem write_spares {x : α} {r : Except DiskExn Unit}
    (hstep : (orderlyDisk α).Step w (.write (volumePath base d) x) r w') :
    w'.mounts = w.mounts ∧
      w'.nodes (imagePath base d) = w.nodes (imagePath base d) := by
  rcases keeps_or_does (by simp) hstep.2 with rfl | ⟨files, -, hrefilled⟩
  · exact ⟨rfl, rfl⟩
  · unfold Refilled at hrefilled
    split at hrefilled
    · subst hrefilled
      exact ⟨rfl, rfl⟩
    · subst hrefilled
      exact ⟨rfl, Function.update_of_ne volumePath_ne_imagePath.symm _ _⟩
    · exact hrefilled.elim

/-- The flag says whether the volume is made; while it is, none is created. -/
inductive Lifetimes (describe : DiskExn → String) (mode : DiskMode)
    (base : List Name) (d : VolumeName) : Bool → DiskHost α → Prop
  | start {w : DiskHost α} (h : NoVolume base d w) :
      Lifetimes describe mode base d false w
  | created {w w' : DiskHost α} {hotkey nodeId : String} {sizeGb : Int}
      {volumeId : Option String} {r : Except DiskExn LoopVolume}
      (before : Lifetimes describe mode base d false w)
      (exec : Exec (orderlyDisk α) (createVolume describe base mode d hotkey
        nodeId sizeGb volumeId) w r w') :
      Lifetimes describe mode base d r.isOk w'
  | written {made : Bool} {w w' : DiskHost α} {x : α} {r : Except DiskExn Unit}
      (before : Lifetimes describe mode base d made w)
      (exec : (orderlyDisk α).Step w (.write (volumePath base d) x) r w') :
      Lifetimes describe mode base d made w'
  | deleted {made : Bool} {w w' : DiskHost α} {volume : LoopVolume}
      {r : Except DiskExn Unit}
      (before : Lifetimes describe mode base d made w)
      (hmade : MadeFor base d volume)
      (exec : Exec (orderlyDisk α) (deleteVolume base mode volume) w r w') :
      Lifetimes describe mode base d false w'

/--
However often a volume is made and deleted, with commands that fail or run out
of time wherever they like: where it was made last, its image is there and
mounted once, and where making it failed or it was deleted, neither is left.
A volume that is made is not made again.
-/
theorem lifetimes_tidy {made : Bool} (hloop : isLoop mode = true)
    (h : Lifetimes describe mode base d made w) :
    if made then MountedOnce base d w else NoVolume base d w := by
  induction h with
  | start h => exact h
  | @created _ w' _ _ _ _ r before exec ih =>
      have htidy := (createVolume_tidy hloop ih).exec exec
      cases r with
      | ok volume => exact htidy
      | error x => exact htidy
  | @written made _ _ _ _ before step ih =>
      obtain ⟨hmounts, hnodes⟩ := write_spares step
      cases made with
      | true =>
          obtain ⟨i, hmount, hnode⟩ := ih
          exact ⟨i, by rw [hmounts, hmount], by rw [hnodes, hnode]⟩
      | false => exact ⟨by rw [hmounts, ih.1], by rw [hnodes, ih.2]⟩
  | @deleted made w _ _ _ before hmade exec ih =>
      have hbegun : Begun base d w := by
        cases made with
        | true => exact MountedOnce.begun ih
        | false => exact NoVolume.begun ih
      exact (deleteVolume_tidy hloop hmade hbegun).exec exec

/-! ## A volume that is made -/

theorem unusedDisk_noVolume (d : VolumeName) :
    NoVolume volumesDir d unusedDisk :=
  ⟨rfl, by simp [unusedDisk, imagePath_ne_base]⟩

def pointedDisk : DiskHost Nat :=
  unusedDisk.setNode (volumePath volumesDir (podName true)) (some (.dir []))

def imagedDisk : DiskHost Nat :=
  (pointedDisk.setNode (imagePath volumesDir (podName true))
    (some (.image 0))).setData 0 []

def mountedDisk : DiskHost Nat :=
  (imagedDisk.setData 0 []).setMounts (volumePath volumesDir (podName true)) [0]

theorem pointedDisk_nodes {p : List Name}
    (hp : p ≠ volumePath volumesDir (podName true)) :
    pointedDisk.nodes p = unusedDisk.nodes p :=
  Function.update_of_ne hp _ _

theorem pointedDisk_image :
    pointedDisk.nodes (imagePath volumesDir (podName true)) = none := by
  rw [pointedDisk_nodes volumePath_ne_imagePath.symm]
  exact (unusedDisk_noVolume _).2

theorem pointedDisk_free : pointedDisk.Free 0 := by
  refine ⟨fun p => ?_, fun p h => by cases h⟩
  by_cases hp : p = volumePath volumesDir (podName true)
  · simp [pointedDisk, setNode, hp]
  · rw [pointedDisk_nodes hp]
    unfold unusedDisk
    dsimp only
    split
    · simp
    · simp

theorem imagedDisk_image :
    imagedDisk.nodes (imagePath volumesDir (podName true)) =
      some (.image 0) := by
  simp [imagedDisk, setData, setNode]

theorem imagedDisk_point :
    imagedDisk.nodes (volumePath volumesDir (podName true)) =
      some (.dir []) := by
  have hne : volumePath volumesDir (podName true) ≠
      imagePath volumesDir (podName true) := volumePath_ne_imagePath
  simp [imagedDisk, pointedDisk, setData, setNode, Function.update_of_ne hne]

theorem mountedDisk_made : Exec (orderlyDisk Nat)
    (createVolume (fun _ => "") volumesDir .loopMount (podName true) "hotkey"
      "node" 50 none) unusedDisk
    (.ok { deploymentId := podName true, hotkey := "hotkey", nodeId := "node"
           path := volumePath volumesDir (podName true), sizeGb := 50
           status := "created", volumeId := none }) mountedDisk := by
  have hexcused : ∀ {returncode : Int},
      MissingOrLate (.ok returncode : Except DiskExn Int) := nofun
  have hroot : unusedDisk.Does (.mkdir volumesDir) unusedDisk := by
    simp [Does, unusedDisk]
  have hpoint : unusedDisk.Does
      (.mkdir (volumePath volumesDir (podName true))) pointedDisk := by
    simp [Does, unusedDisk, volumePath_ne_base, pointedDisk]
  have himage : pointedDisk.Does
      (.truncate 50 (imagePath volumesDir (podName true))) imagedDisk := by
    simp only [Does, pointedDisk_image]
    exact ⟨0, pointedDisk_free, rfl⟩
  have hformat : imagedDisk.Does
      (.mkfs (imagePath volumesDir (podName true))) (imagedDisk.setData 0 []) :=
    ⟨0, imagedDisk_image, rfl⟩
  have hmount : (imagedDisk.setData 0 []).Does
      (.mount [] (imagePath volumesDir (podName true))
        (volumePath volumesDir (podName true))) mountedDisk :=
    ⟨0, [], imagedDisk_image, imagedDisk_point, rfl⟩
  refine .step (r := .ok ()) ⟨trivial, step_of_does trivial rfl hroot⟩ ?_
  refine .step (r := .ok ()) ⟨trivial, step_of_does trivial rfl hpoint⟩ ?_
  refine .step (r := .ok 0) ⟨hexcused, step_of_does trivial rfl himage⟩ ?_
  refine .step (r := .ok 0) ⟨hexcused, step_of_does trivial rfl hformat⟩ ?_
  exact .step (r := .ok 0) ⟨hexcused, step_of_does trivial rfl hmount⟩
    (.refl _ _)

theorem lifetimes_tidy_mountedDisk :
    MountedOnce volumesDir (podName true) mountedDisk := by
  have hmade : Lifetimes (fun _ => "") .loopMount volumesDir (podName true) true
      mountedDisk := .created (.start (unusedDisk_noVolume _)) mountedDisk_made
  exact lifetimes_tidy rfl hmade

end NodeAgent
