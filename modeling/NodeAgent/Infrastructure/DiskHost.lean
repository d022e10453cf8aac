import NodeAgent.Domain.LoopVolume

/-!
# The disk of the volumes

Images are files with an inode, and mounts hide what they are mounted on.  A
command that fails may have done its work, as one that ran out of time may.
-/

namespace NodeAgent

open Effectful Program LoopVolumeManager

variable {α : Type}

inductive DiskNode (α : Type) where
  | dir (files : List α)
  | image (inode : Nat)

/-- Each point's mounts are newest first, and known by the inode. -/
structure DiskHost (α : Type) where
  nodes : List Name → Option (DiskNode α)
  mounts : List Name → List Nat
  data : Nat → List α

namespace DiskHost

def setNode (h : DiskHost α) (p : List Name) (node : Option (DiskNode α)) :
    DiskHost α :=
  { h with nodes := Function.update h.nodes p node }

def setMounts (h : DiskHost α) (p : List Name) (inodes : List Nat) :
    DiskHost α :=
  { h with mounts := Function.update h.mounts p inodes }

def setData (h : DiskHost α) (i : Nat) (files : List α) : DiskHost α :=
  { h with data := Function.update h.data i files }

def Free (h : DiskHost α) (i : Nat) : Prop :=
  (∀ p, h.nodes p ≠ some (.image i)) ∧ ∀ p, i ∉ h.mounts p

/-- What is read at a path: the newest mount, else the directory. -/
def contents (h : DiskHost α) (p : List Name) : Option (List α) :=
  match h.mounts p, h.nodes p with
  | i :: _, _ => some (h.data i)
  | [], some (.dir files) => some files
  | [], _ => none

/-- The files at a path, whatever they are on, are now these. -/
def Refilled (h : DiskHost α) (p : List Name) (files : List α)
    (h' : DiskHost α) : Prop :=
  match h.mounts p, h.nodes p with
  | i :: _, _ => h' = h.setData i files
  | [], some (.dir _) => h' = h.setNode p (some (.dir files))
  | [], _ => False

def Does (h : DiskHost α) : DiskCall α → DiskHost α → Prop
  | .mkdir p, h' =>
      match h.nodes p with
      | none => h' = h.setNode p (some (.dir []))
      | some (.dir _) => h' = h
      | some (.image _) => False
  | .truncate _ p, h' =>
      match h.nodes p with
      | none => ∃ i, h.Free i ∧
          h' = (h.setNode p (some (.image i))).setData i []
      -- An image that is there is resized, with or without what was on it.
      | some (.image i) => ∃ files, h' = h.setData i files
      | some (.dir _) => False
  | .mkfs p, h' => ∃ i, h.nodes p = some (.image i) ∧ h' = h.setData i []
  | .mount _ image point, h' => ∃ i files,
      h.nodes image = some (.image i) ∧ h.nodes point = some (.dir files) ∧
        h' = h.setMounts point (i :: h.mounts point)
  | .umount _ p, h' => ∃ i older,
      h.mounts p = i :: older ∧ h' = h.setMounts p older
  | .unlink p, h' =>
      (∀ files, h.nodes p ≠ some (.dir files)) ∧ h' = h.setNode p none
  | .rmdir p, h' =>
      h.nodes p = some (.dir []) ∧ h.mounts p = [] ∧ h' = h.setNode p none
  -- `ignore_errors`: some of the files may stay.
  | .rmtree p, h' =>
      (h.mounts p = [] ∧ h' = h.setNode p none) ∨
        (∃ files, h.Refilled p files h') ∨ h' = h
  | .write p x, h' => ∃ files,
      h.contents p = some files ∧ h.Refilled p (files ++ [x]) h'
  | .pathExists _, h' | .read _, h' => h' = h

/-- What a call that fails leaves; `mkfs` may have begun to write. -/
def Botches (h : DiskHost α) (e : DiskCall α) (h' : DiskHost α) : Prop :=
  h' = h ∨ h.Does e h' ∨ match e with
    | .mkfs p => ∃ i files, h.nodes p = some (.image i) ∧
        h' = h.setData i files
    | _ => False

def succeeds : (e : DiskCall α) → Except DiskExn e.Ret → Bool
  | .truncate _ _, .ok returncode | .mkfs _, .ok returncode
  | .mount _ _ _, .ok returncode | .umount _ _, .ok returncode =>
      returncode = 0
  | _, .ok _ => true
  | _, .error _ => false

def Answers (h : DiskHost α) : (e : DiskCall α) → Except DiskExn e.Ret → Prop
  | .pathExists p, .ok there => there = (h.nodes p).isSome
  | .read p, .ok files => h.contents p = some files
  | _, _ => True

end DiskHost

def diskHost (α : Type) :
    Machine (DiskCall α) DiskCall.Ret DiskExn (DiskHost α) where
  Step h e r h' :=
    h.Answers e r ∧
      if DiskHost.succeeds e r then h.Does e h' else h.Botches e h'

theorem keeps_or_does {w w' : DiskHost α} {e : DiskCall α}
    {r : Except DiskExn e.Ret} (he : ∀ p, e ≠ .mkfs p)
    (h : (diskHost α).Step w e r w') : w' = w ∨ w.Does e w' := by
  have h := h.2
  split at h
  · exact .inr h
  · rcases h with hsame | hdoes | hformats
    · exact .inl hsame
    · exact .inr hdoes
    · cases e with
      | mkfs p => exact absurd rfl (he p)
      | _ => exact hformats.elim

/-! ## What belongs to one deployment -/

variable {base : List Name} {d d' : VolumeName} {w w' g : DiskHost α}
variable {p : List Name} {i : Nat}

theorem volumePath_injective : Function.Injective (volumePath base) := by
  intro d d' h
  have hname : d.name = d'.name := by simpa [volumePath] using h
  have htext : d.text = d'.text := congrArg Subtype.val hname
  cases d
  cases d'
  simpa using htext

theorem imagePath_injective : Function.Injective (imagePath base) := by
  intro d d' h
  have hname : d.imageName = d'.imageName := by simpa [imagePath] using h
  have htext : d.text ++ ".ext4" = d'.text ++ ".ext4" :=
    congrArg Subtype.val hname
  have hsame : d.text = d'.text := by
    rw [← String.toList_inj] at htext ⊢
    simpa [String.toList_append] using htext
  cases d
  cases d'
  simpa using hsame

theorem volumePath_ne_imagePath : volumePath base d ≠ imagePath base d' := by
  intro h
  have hname : d.name = d'.imageName := by
    simpa [volumePath, imagePath] using h
  have htext : d.text = d'.text ++ ".ext4" := congrArg Subtype.val hname
  exact d.bare ⟨d'.text.toList, by rw [htext, String.toList_append]⟩

theorem volumePath_ne_base : volumePath base d ≠ base := by
  simp [volumePath]

theorem imagePath_ne_base : imagePath base d ≠ base := by
  simp [imagePath]

namespace DiskHost

/-- The inode of `d`'s image, or of one that is still mounted for `d`. -/
def Uses (w : DiskHost α) (base : List Name) (d : VolumeName) (i : Nat) :
    Prop :=
  w.nodes (imagePath base d) = some (.image i) ∨
    i ∈ w.mounts (volumePath base d)

/-- No two deployments have an inode in common. -/
structure Apart (base : List Name) (w : DiskHost α) : Prop where
  root : ∃ files, w.nodes base = some (.dir files)
  apart : ∀ {d d' i}, w.Uses base d i → w.Uses base d' i → d = d'

/-- What a call for `d` does to the disk, if anything. -/
inductive Edit (α : Type) where
  | keep
  | node (p : List Name) (entry : Option (DiskNode α))
  | newImage (p : List Name) (i : Nat)
  | mounts (p : List Name) (inodes : List Nat)
  | data (i : Nat) (files : List α)

def Edit.apply : Edit α → DiskHost α → DiskHost α
  | .keep, w => w
  | .node p entry, w => w.setNode p entry
  | .newImage p i, w => (w.setNode p (some (.image i))).setData i []
  | .mounts p stack, w => w.setMounts p stack
  | .data i content, w => w.setData i content

/-- An edit of `d`'s own paths and files. -/
def Edit.Allowed (base : List Name) (d : VolumeName) (w : DiskHost α) :
    Edit α → Prop
  | .keep => True
  | .node p entry => (p = volumePath base d ∨ p = imagePath base d) ∧
      ∀ i, entry ≠ some (.image i)
  | .newImage p i => p = imagePath base d ∧ w.Free i
  | .mounts p inodes => p = volumePath base d ∧ ∀ i ∈ inodes, w.Uses base d i
  | .data i _ => w.Uses base d i

theorem Uses.not_free (h : w.Uses base d i) : ¬w.Free i := by
  rintro ⟨hnodes, hmounts⟩
  rcases h with h | h
  · exact hnodes _ h
  · exact hmounts _ h

theorem uses_setNode {entry : Option (DiskNode α)}
    (hentry : ∀ i, entry ≠ some (.image i))
    (h : (w.setNode p entry).Uses base d i) : w.Uses base d i := by
  refine h.imp (fun h => ?_) id
  have h : Function.update w.nodes p entry (imagePath base d) =
      some (.image i) := h
  by_cases hp : imagePath base d = p
  · rw [← hp, Function.update_self] at h
    exact absurd h (hentry i)
  · rwa [Function.update_of_ne hp] at h

theorem uses_newImage {j : Nat}
    (h : ((w.setNode (imagePath base d) (some (.image j))).setData j []).Uses
      base d i) : j = i ∨ w.Uses base d i := by
  rcases h with h | h
  · have h : Function.update w.nodes (imagePath base d) (some (.image j))
        (imagePath base d) = some (.image i) := h
    rw [Function.update_self] at h
    cases h
    exact .inl rfl
  · exact .inr (.inr h)

theorem uses_setMounts {inodes : List Nat}
    (hinodes : ∀ i ∈ inodes, w.Uses base d i)
    (h : (w.setMounts (volumePath base d) inodes).Uses base d i) :
    w.Uses base d i := by
  rcases h with h | h
  · exact .inl h
  · have h : i ∈ Function.update w.mounts (volumePath base d) inodes
        (volumePath base d) := h
    rw [Function.update_self] at h
    exact hinodes i h

variable {edit : Edit α}

namespace Edit

theorem Allowed.nodes (h : edit.Allowed base d w)
    (hvolume : p ≠ volumePath base d) (himage : p ≠ imagePath base d) :
    (edit.apply w).nodes p = w.nodes p := by
  cases edit with
  | node q entry =>
      refine Function.update_of_ne ?_ _ _
      rintro rfl
      exact h.1.elim hvolume himage
  | newImage q i =>
      obtain ⟨rfl, -⟩ := h
      exact Function.update_of_ne himage _ _
  | _ => rfl

theorem Allowed.mounts (h : edit.Allowed base d w)
    (hp : p ≠ volumePath base d) : (edit.apply w).mounts p = w.mounts p := by
  cases edit with
  | mounts q inodes =>
      obtain ⟨rfl, -⟩ := h
      exact Function.update_of_ne hp _ _
  | _ => rfl

theorem Allowed.data (h : edit.Allowed base d w) (i : Nat) :
    (edit.apply w).data i = w.data i ∨ w.Uses base d i ∨ w.Free i := by
  cases edit with
  | newImage q j =>
      by_cases hj : i = j
      · exact .inr (.inr (hj ▸ h.2))
      · exact .inl (Function.update_of_ne hj _ _)
  | data j files =>
      by_cases hj : i = j
      · exact .inr (.inl (hj ▸ h))
      · exact .inl (Function.update_of_ne hj _ _)
  | _ => exact .inl rfl

theorem Allowed.uses (h : edit.Allowed base d w)
    (hi : (edit.apply w).Uses base d i) : w.Uses base d i ∨ w.Free i := by
  cases edit with
  | keep => exact .inl hi
  | data j files => exact .inl hi
  | node q entry => exact .inl (uses_setNode h.2 hi)
  | newImage q j =>
      obtain ⟨rfl, hfree⟩ := h
      rcases uses_newImage hi with rfl | hi
      · exact .inr hfree
      · exact .inl hi
  | mounts q inodes =>
      obtain ⟨rfl, hinodes⟩ := h
      exact .inl (uses_setMounts hinodes hi)

theorem Allowed.uses_other (h : edit.Allowed base d w) (hd : d' ≠ d) :
    (edit.apply w).Uses base d' i ↔ w.Uses base d' i := by
  unfold Uses
  rw [h.nodes volumePath_ne_imagePath.symm (imagePath_injective.ne hd),
    h.mounts (volumePath_injective.ne hd)]

theorem Allowed.apart (h : edit.Allowed base d w) (hw : w.Apart base) :
    (edit.apply w).Apart base := by
  obtain ⟨files, hroot⟩ := hw.root
  have hown : ∀ {d' i}, d' ≠ d → (edit.apply w).Uses base d i →
      ¬(edit.apply w).Uses base d' i := by
    intro d' i hd hi hother
    have hother := (h.uses_other hd).mp hother
    rcases h.uses hi with hi | hfree
    · exact hd (hw.apart hother hi)
    · exact hother.not_free hfree
  refine ⟨⟨files, ?_⟩, fun {d₁ d₂ i} h₁ h₂ => ?_⟩
  · rw [h.nodes volumePath_ne_base.symm imagePath_ne_base.symm, hroot]
  · by_cases hd₁ : d₁ = d
    · by_contra hne
      exact hown (fun heq => hne (hd₁.trans heq.symm)) (hd₁ ▸ h₁) h₂
    · by_cases hd₂ : d₂ = d
      · exact absurd h₁ (hown hd₁ (hd₂ ▸ h₂))
      · exact hw.apart ((h.uses_other hd₁).mp h₁) ((h.uses_other hd₂).mp h₂)

end Edit

/-- A disk with the volume of `d` as it is on `w`, and nothing else. -/
structure Seen (base : List Name) (d : VolumeName) (w g : DiskHost α) :
    Prop where
  root : g.nodes base = w.nodes base
  point : g.nodes (volumePath base d) = w.nodes (volumePath base d)
  image : g.nodes (imagePath base d) = w.nodes (imagePath base d)
  nothing : ∀ p, p ≠ base → p ≠ volumePath base d → p ≠ imagePath base d →
    g.nodes p = none
  mounts : g.mounts (volumePath base d) = w.mounts (volumePath base d)
  unmounted : ∀ p, p ≠ volumePath base d → g.mounts p = []
  data : ∀ i, w.Uses base d i → g.data i = w.data i

/-- The disk with nothing on it but the volume of `d`. -/
def alone (base : List Name) (d : VolumeName) (w : DiskHost α) :
    DiskHost α where
  nodes p := if p = base ∨ p = volumePath base d ∨ p = imagePath base d
    then w.nodes p else none
  mounts p := if p = volumePath base d then w.mounts p else []
  data := w.data

theorem alone_seen : Seen base d w (w.alone base d) where
  root := if_pos (.inl rfl)
  point := if_pos (.inr (.inl rfl))
  image := if_pos (.inr (.inr rfl))
  nothing _ hroot hpoint himage := if_neg (by simp [hroot, hpoint, himage])
  mounts := if_pos rfl
  unmounted _ hp := if_neg hp
  data _ _ := rfl

theorem Seen.uses (h : Seen base d w g) :
    g.Uses base d i ↔ w.Uses base d i := by
  unfold Uses
  rw [h.image, h.mounts]

theorem Seen.free (h : Seen base d w g) (hfree : w.Free i) : g.Free i := by
  refine ⟨fun p hp => ?_, fun p hp => ?_⟩
  · by_cases hroot : p = base
    · subst hroot
      exact hfree.1 _ (h.root ▸ hp)
    · by_cases hpoint : p = volumePath base d
      · subst hpoint
        exact hfree.1 _ (h.point ▸ hp)
      · by_cases himage : p = imagePath base d
        · subst himage
          exact hfree.1 _ (h.image ▸ hp)
        · rw [h.nothing p hroot hpoint himage] at hp
          cases hp
  · by_cases hpoint : p = volumePath base d
    · subst hpoint
      exact hfree.2 _ (h.mounts ▸ hp)
    · rw [h.unmounted p hpoint] at hp
      cases hp

theorem Seen.contents (h : Seen base d w g) :
    g.contents (volumePath base d) = w.contents (volumePath base d) := by
  unfold DiskHost.contents
  rw [h.mounts, h.point]
  cases hmounts : w.mounts (volumePath base d) with
  | nil =>
      cases w.nodes (volumePath base d) with
      | none => rfl
      | some node => cases node <;> rfl
  | cons i older =>
      have huses : w.Uses base d i := .inr (by simp [hmounts])
      exact congrArg some (h.data i huses)

theorem update_congr {κ β : Type} [DecidableEq κ] {f f' : κ → β} {k k' : κ}
    {v : β} (h : f k' = f' k') :
    Function.update f k v k' = Function.update f' k v k' := by
  by_cases hk : k' = k
  · subst hk
    rw [Function.update_self, Function.update_self]
  · rw [Function.update_of_ne hk, Function.update_of_ne hk, h]

theorem Seen.apply (h : Seen base d w g) (hedit : edit.Allowed base d w) :
    Seen base d (edit.apply w) (edit.apply g) := by
  cases edit with
  | keep => exact h
  | node q entry =>
      refine ⟨update_congr h.root, update_congr h.point, update_congr h.image,
        fun p hroot hpoint himage => ?_, h.mounts, h.unmounted,
        fun i hi => h.data i (uses_setNode hedit.2 hi)⟩
      have hq : p ≠ q := by
        rintro rfl
        exact hedit.1.elim hpoint himage
      exact (Function.update_of_ne hq _ _).trans
        (h.nothing p hroot hpoint himage)
  | newImage q j =>
      obtain ⟨rfl, -⟩ := hedit
      refine ⟨update_congr h.root, update_congr h.point, update_congr h.image,
        fun p hroot hpoint himage => ?_, h.mounts, h.unmounted, fun i hi => ?_⟩
      · exact (Function.update_of_ne himage _ _).trans
          (h.nothing p hroot hpoint himage)
      · rcases uses_newImage hi with rfl | hi
        · simp [Edit.apply, setData]
        · exact update_congr (h.data i hi)
  | mounts q inodes =>
      obtain ⟨rfl, hinodes⟩ := hedit
      refine ⟨h.root, h.point, h.image, h.nothing, update_congr h.mounts,
        fun p hp => ?_, fun i hi => h.data i (uses_setMounts hinodes hi)⟩
      exact (Function.update_of_ne hp _ _).trans (h.unmounted p hp)
  | data j files =>
      exact ⟨h.root, h.point, h.image, h.nothing, h.mounts, h.unmounted,
        fun i hi => update_congr (h.data i hi)⟩

theorem Seen.unseen (h : Seen base d w g) (hedit : edit.Allowed base d' w)
    (hd : d ≠ d') (hw : w.Apart base) : Seen base d (edit.apply w) g where
  root := by
    rw [hedit.nodes volumePath_ne_base.symm imagePath_ne_base.symm, h.root]
  point := by
    rw [hedit.nodes (volumePath_injective.ne hd) volumePath_ne_imagePath,
      h.point]
  image := by
    rw [hedit.nodes volumePath_ne_imagePath.symm (imagePath_injective.ne hd),
      h.image]
  nothing := h.nothing
  mounts := by rw [hedit.mounts (volumePath_injective.ne hd), h.mounts]
  unmounted := h.unmounted
  data i hi := by
    have hi := (hedit.uses_other hd).mp hi
    rw [h.data i hi]
    rcases hedit.data i with hsame | hother | hfree
    · exact hsame.symm
    · exact absurd (hw.apart hi hother) hd
    · exact absurd hfree hi.not_free

/-! ## One call for one deployment -/

variable {files : List α} {e : DiskCall α} {r : Except DiskExn e.Ret}

/-- The edit that `h` makes of the disk is made of what `d` has as well. -/
abbrev Matched (base : List Name) (d : VolumeName) (w w' : DiskHost α)
    (does : DiskHost α → DiskHost α → Prop) : Prop :=
  ∃ edit : Edit α, edit.Allowed base d w ∧ w' = edit.apply w ∧
    ∀ g, Seen base d w g → does g (edit.apply g)

theorem refilled_matched (h : w.Refilled (volumePath base d) files w') :
    Matched base d w w' fun g g' =>
      g.Refilled (volumePath base d) files g' := by
  unfold Refilled at h
  split at h
  · rename_i _ i older hmounts
    refine ⟨.data i files, .inr (by simp [hmounts]), h, fun g hg => ?_⟩
    simp only [Refilled, hg.mounts, hmounts]
    rfl
  · rename_i hmounts hnode
    refine ⟨.node _ (some (.dir files)), ⟨.inl rfl, by simp⟩, h, fun g hg => ?_⟩
    simp only [Refilled, hg.mounts, hmounts, hg.point, hnode]
    rfl
  · exact h.elim

theorem matched_keep {does : DiskHost α → DiskHost α → Prop}
    (h : ∀ g, Seen base d w g → does g g) : Matched base d w w does :=
  ⟨.keep, trivial, rfl, h⟩

theorem mkdir_matched (hw : w.Apart base)
    (he : p = base ∨ p = volumePath base d)
    (h : w.Does (.mkdir p) w') :
    Matched base d w w' fun g g' => g.Does (.mkdir p) g' := by
  have hseen : ∀ g, Seen base d w g → g.nodes p = w.nodes p := by
    intro g hg
    rcases he with rfl | rfl
    · exact hg.root
    · exact hg.point
  simp only [Does] at h
  split at h
  · rename_i hnode
    have hp : p = volumePath base d := by
      refine he.resolve_left ?_
      rintro rfl
      obtain ⟨files, hroot⟩ := hw.root
      rw [hroot] at hnode
      cases hnode
    refine ⟨.node p (some (.dir [])), ⟨.inl hp, by simp⟩, h, fun g hg => ?_⟩
    simp only [Does, hseen g hg, hnode]
    rfl
  · rename_i hnode
    subst h
    refine matched_keep fun g hg => ?_
    simp only [Does, hseen g hg, hnode]
  · exact h.elim

theorem truncate_matched {sizeGb : Int}
    (h : w.Does (.truncate sizeGb (imagePath base d)) w') :
    Matched base d w w' fun g g' =>
      g.Does (.truncate sizeGb (imagePath base d)) g' := by
  simp only [Does] at h
  split at h
  · rename_i hnode
    obtain ⟨i, hfree, rfl⟩ := h
    refine ⟨.newImage _ i, ⟨rfl, hfree⟩, rfl, fun g hg => ?_⟩
    simp only [Does, hg.image, hnode]
    exact ⟨i, hg.free hfree, rfl⟩
  · rename_i i hnode
    obtain ⟨files, rfl⟩ := h
    refine ⟨.data i files, .inl hnode, rfl, fun g hg => ?_⟩
    simp only [Does, hg.image, hnode]
    exact ⟨files, rfl⟩
  · exact h.elim

theorem does_matched (hw : w.Apart base) (he : e.Of base d)
    (h : w.Does e w') : Matched base d w w' fun g g' => g.Does e g' := by
  cases e with
  | mkdir p => exact mkdir_matched hw he h
  | truncate sizeGb p =>
      obtain rfl := he
      exact truncate_matched h
  | mkfs p =>
      obtain rfl := he
      obtain ⟨i, hnode, rfl⟩ := h
      exact ⟨.data i [], .inl hnode, rfl,
        fun g hg => ⟨i, hg.image.trans hnode, rfl⟩⟩
  | mount asRoot image point =>
      obtain ⟨rfl, rfl⟩ := he
      obtain ⟨i, files, hnode, hpoint, rfl⟩ := h
      refine ⟨.mounts _ (i :: w.mounts (volumePath base d)), ⟨rfl, ?_⟩, rfl,
        fun g hg => ⟨i, files, hg.image.trans hnode, hg.point.trans hpoint, ?_⟩⟩
      · intro j hj
        rcases List.mem_cons.mp hj with rfl | hj
        · exact .inl hnode
        · exact .inr hj
      · rw [hg.mounts]
        rfl
  | umount asRoot p =>
      obtain rfl := he
      obtain ⟨i, older, hmounts, rfl⟩ := h
      exact ⟨.mounts _ older, ⟨rfl, fun j hj => .inr (by simp [hmounts, hj])⟩,
        rfl, fun g hg => ⟨i, older, hg.mounts.trans hmounts, rfl⟩⟩
  | unlink p =>
      obtain rfl := he
      obtain ⟨hfile, rfl⟩ := h
      refine ⟨.node _ none, ⟨.inr rfl, by simp⟩, rfl, fun g hg => ⟨?_, rfl⟩⟩
      rw [hg.image]
      exact hfile
  | rmdir p =>
      obtain rfl := he
      obtain ⟨hnode, hmounts, rfl⟩ := h
      exact ⟨.node _ none, ⟨.inl rfl, by simp⟩, rfl, fun g hg =>
        ⟨hg.point.trans hnode, hg.mounts.trans hmounts, rfl⟩⟩
  | pathExists p =>
      obtain rfl := h
      exact matched_keep fun g hg => rfl
  | rmtree p =>
      obtain rfl := he
      rcases h with ⟨hmounts, rfl⟩ | ⟨files, h⟩ | rfl
      · exact ⟨.node _ none, ⟨.inl rfl, by simp⟩, rfl, fun g hg =>
          .inl ⟨hg.mounts.trans hmounts, rfl⟩⟩
      · obtain ⟨edit, hedit, rfl, hdoes⟩ := refilled_matched h
        exact ⟨edit, hedit, rfl, fun g hg => .inr (.inl ⟨files, hdoes g hg⟩)⟩
      · exact matched_keep fun g hg => .inr (.inr rfl)
  | write p x =>
      obtain rfl := he
      obtain ⟨files, hcontents, h⟩ := h
      obtain ⟨edit, hedit, rfl, hdoes⟩ := refilled_matched h
      exact ⟨edit, hedit, rfl, fun g hg =>
        ⟨files, hg.contents.trans hcontents, hdoes g hg⟩⟩
  | read p =>
      obtain rfl := h
      exact matched_keep fun g hg => rfl

theorem botches_matched (hw : w.Apart base) (he : e.Of base d)
    (h : w.Botches e w') : Matched base d w w' fun g g' => g.Botches e g' := by
  rcases h with rfl | h | h
  · exact matched_keep fun g _ => .inl rfl
  · obtain ⟨edit, hedit, rfl, hdoes⟩ := does_matched hw he h
    exact ⟨edit, hedit, rfl, fun g hg => .inr (.inl (hdoes g hg))⟩
  · cases e with
    | mkfs p =>
        obtain rfl := he
        obtain ⟨i, files, hnode, rfl⟩ := h
        exact ⟨.data i files, .inl hnode, rfl, fun g hg =>
          .inr (.inr ⟨i, files, hg.image.trans hnode, rfl⟩)⟩
    | _ => exact h.elim

theorem Seen.answers (h : Seen base d w g) (he : e.Of base d)
    (hw : w.Answers e r) : g.Answers e r := by
  cases e with
  | pathExists p =>
      obtain rfl := he
      cases r with
      | error x => trivial
      | ok there => exact hw.trans (congrArg Option.isSome h.point).symm
  | read p =>
      obtain rfl := he
      cases r with
      | error x => trivial
      | ok files => exact h.contents.trans hw
  | _ => trivial

theorem step_matched (hw : w.Apart base) (he : e.Of base d)
    (h : (diskHost α).Step w e r w') :
    Matched base d w w' fun g g' => (diskHost α).Step g e r g' := by
  obtain ⟨hanswers, h⟩ := h
  by_cases hsucceeds : succeeds e r = true
  · rw [if_pos hsucceeds] at h
    obtain ⟨edit, hedit, rfl, hdoes⟩ := does_matched hw he h
    exact ⟨edit, hedit, rfl, fun g hg => ⟨hg.answers he hanswers,
      (if_pos hsucceeds).symm ▸ hdoes g hg⟩⟩
  · rw [if_neg hsucceeds] at h
    obtain ⟨edit, hedit, rfl, hdoes⟩ := botches_matched hw he h
    exact ⟨edit, hedit, rfl, fun g hg => ⟨hg.answers he hanswers,
      (if_neg hsucceeds).symm ▸ hdoes g hg⟩⟩

end DiskHost

/-! ## Threads -/

section

open DiskHost

variable {ι β : Type} [DecidableEq ι] {pool pool' : ι → Disk α β}
variable {owner : ι → VolumeName}
variable {describe : DiskExn → String} {mode : DiskMode}

theorem interleaves_isolated (result : Except DiskExn β) {w w' g : DiskHost α}
    (hrun : Interleaves (fun _ => diskHost α) pool w pool' w')
    (howned : ∀ i, For base (owner i) (pool i))
    (hw : w.Apart base) (hseen : w.Seen base d g) :
    ∃ g', Interleaves (fun _ => diskHost α)
        (onlyThose (fun i => owner i = d) result pool) g
        (onlyThose (fun i => owner i = d) result pool') g' ∧
      w'.Apart base ∧ w'.Seen base d g' := by
  have hcalls : ∀ i, Always (fun _ _ => True) (DiskCall.Of base (owner i))
      (pool i) fun _ => True :=
    fun i => Always.weaken (howned i) fun _ _ => trivial
  refine hrun.project (fun i => owner i = d)
    (R := fun w g => w.Apart base ∧ w.Seen base d g) hcalls
    (fun i w e r w' g hi hR he hstep => ?_)
    (fun i w e r w' g hi hR he hstep => ?_) ⟨hw, hseen⟩
  · subst hi
    obtain ⟨edit, hedit, rfl, hmatched⟩ :=
      DiskHost.step_matched hR.1 he hstep
    exact ⟨_, hmatched g hR.2, hedit.apart hR.1, hR.2.apply hedit⟩
  · obtain ⟨edit, hedit, rfl, -⟩ := DiskHost.step_matched hR.1 he hstep
    exact ⟨hedit.apart hR.1, hR.2.unseen hedit (Ne.symm hi) hR.1⟩

/-- What is done with the volumes, each thread with that of its deployment. -/
abbrev volumeThreads (describe : DiskExn → String) (mode : DiskMode)
    (base : List Name) (owner : ι → VolumeName)
    (clients : (i : ι) → Program (VolumeOp α base (owner i)) VolumeOp.Ret
      DiskExn β) : ι → Disk α β :=
  fun i => expand (VolumeOp.body describe mode) (clients i)

omit [DecidableEq ι] in
theorem volumeThreads_for {clients : (i : ι) →
      Program (VolumeOp α base (owner i)) VolumeOp.Ret DiskExn β} (i : ι) :
    For base (owner i) (volumeThreads describe mode base owner clients i) :=
  always_expand VolumeOp.for_body (clients i)

/--
Threads create, delete, write and read the volumes of their deployments, and the
host answers each command as it likes.  Whatever the threads of the others do,
the volume of `d` and what its own threads are answered could have come of these
threads alone, on a disk that holds nothing but the volume of `d`.
-/
theorem volumes_isolated (result : Except DiskExn β) {w w' g : DiskHost α}
    {clients : (i : ι) →
      Program (VolumeOp α base (owner i)) VolumeOp.Ret DiskExn β}
    (hrun : Interleaves (fun _ => diskHost α)
      (volumeThreads describe mode base owner clients) w pool' w')
    (hw : w.Apart base) (hseen : w.Seen base d g) :
    ∃ g', Interleaves (fun _ => diskHost α)
        (onlyThose (fun i => owner i = d) result
          (volumeThreads describe mode base owner clients)) g
        (onlyThose (fun i => owner i = d) result pool') g' ∧
      w'.Apart base ∧ w'.Seen base d g' :=
  interleaves_isolated result hrun volumeThreads_for hw hseen

/-! ## Two pods on one disk -/

def volumesDir : List Name := [⟨"volumes", by decide⟩]

def podName (pod : Bool) : VolumeName :=
  if pod then ⟨"pod-1", by decide, by decide⟩
  else ⟨"pod-2", by decide, by decide⟩

def unusedDisk : DiskHost Nat where
  nodes p := if p = volumesDir then some (.dir []) else none
  mounts _ := []
  data _ := []

theorem unusedDisk_apart : unusedDisk.Apart volumesDir where
  root := ⟨[], by simp [unusedDisk]⟩
  apart {d d' i} h := by
    have hnone : unusedDisk.nodes (imagePath volumesDir d) = none := by
      simp [unusedDisk, imagePath_ne_base]
    rcases h with h | h
    · rw [hnone] at h
      cases h
    · cases h

def podInode (pod : Bool) : Nat := if pod then 1 else 2

def plainAnswer (pod : Bool) (w : DiskHost Nat) :
    (e : DiskCall Nat) → Option (Except DiskExn e.Ret × DiskHost Nat)
  | .mkdir p =>
      match w.nodes p with
      | none => some (.ok (), w.setNode p (some (.dir [])))
      | some (.dir _) => some (.ok (), w)
      | some (.image _) => none
  | .truncate _ p =>
      if p = imagePath volumesDir (podName pod) ∧ (w.nodes p).isNone ∧
          w.mounts (volumePath volumesDir (podName pod)) = [] then
        some (.ok 0, (w.setNode p (some (.image (podInode pod)))).setData
          (podInode pod) [])
      else none
  | .mkfs p =>
      match w.nodes p with
      | some (.image i) => some (.ok 0, w.setData i [])
      | _ => none
  | .mount _ image point =>
      match w.nodes image, w.nodes point with
      | some (.image i), some (.dir _) =>
          if i = podInode pod ∧ point = volumePath volumesDir (podName pod) then
            some (.ok 0, w.setMounts point (i :: w.mounts point))
          else none
      | _, _ => none
  | .write p x =>
      match w.mounts p with
      | i :: _ => some (.ok (), w.setData i (w.data i ++ [x]))
      | [] => none
  | .read p => (w.contents p).map fun files => (.ok files, w)
  | _ => none

structure OwnInodes (w : DiskHost Nat) : Prop where
  nodes : ∀ p i, w.nodes p = some (.image i) →
    ∃ pod, i = podInode pod ∧ p = imagePath volumesDir (podName pod)
  mounts : ∀ p i, i ∈ w.mounts p →
    ∃ pod, i = podInode pod ∧ p = volumePath volumesDir (podName pod)

theorem podInode_injective : Function.Injective podInode :=
  fun pod pod' => by revert pod pod'; decide

theorem OwnInodes.free {w : DiskHost Nat} {pod : Bool} (h : OwnInodes w)
    (hnode : w.nodes (imagePath volumesDir (podName pod)) = none)
    (hmounts : w.mounts (volumePath volumesDir (podName pod)) = []) :
    w.Free (podInode pod) := by
  refine ⟨fun p hp => ?_, fun p hp => ?_⟩
  · obtain ⟨other, hinode, rfl⟩ := h.nodes p _ hp
    obtain rfl := podInode_injective hinode
    rw [hnode] at hp
    cases hp
  · obtain ⟨other, hinode, rfl⟩ := h.mounts p _ hp
    obtain rfl := podInode_injective hinode
    rw [hmounts] at hp
    cases hp

theorem OwnInodes.setNode {w : DiskHost Nat} {p : List Name}
    {entry : Option (DiskNode Nat)} (h : OwnInodes w)
    (hentry : ∀ i, entry = some (.image i) →
      ∃ pod, i = podInode pod ∧ p = imagePath volumesDir (podName pod)) :
    OwnInodes (w.setNode p entry) := by
  refine ⟨fun q i hq => ?_, h.mounts⟩
  have hq : Function.update w.nodes p entry q = some (.image i) := hq
  by_cases hp : q = p
  · subst hp
    rw [Function.update_self] at hq
    exact hentry i hq
  · rw [Function.update_of_ne hp] at hq
    exact h.nodes q i hq

theorem OwnInodes.mount {w : DiskHost Nat} {p : List Name} {i : Nat}
    (h : OwnInodes w) (hpod : ∃ pod, i = podInode pod ∧
      p = volumePath volumesDir (podName pod)) :
    OwnInodes (w.setMounts p (i :: w.mounts p)) := by
  refine ⟨h.nodes, fun q j hq => ?_⟩
  have hq : j ∈ Function.update w.mounts p (i :: w.mounts p) q := hq
  by_cases hp : q = p
  · subst hp
    rw [Function.update_self] at hq
    rcases List.mem_cons.mp hq with rfl | hq
    · exact hpod
    · exact h.mounts q j hq
  · rw [Function.update_of_ne hp] at hq
    exact h.mounts q j hq

theorem step_of_does {w w' : DiskHost α} {e : DiskCall α}
    {r : Except DiskExn e.Ret} (hanswers : w.Answers e r)
    (hsucceeds : DiskHost.succeeds e r = true) (h : w.Does e w') :
    (diskHost α).Step w e r w' :=
  ⟨hanswers, (if_pos hsucceeds).symm ▸ h⟩

theorem plainAnswer_step {pod : Bool} {w w' : DiskHost Nat} {e : DiskCall Nat}
    {r : Except DiskExn e.Ret} (hown : OwnInodes w)
    (h : plainAnswer pod w e = some (r, w')) :
    (diskHost Nat).Step w e r w' ∧ OwnInodes w' := by
  cases e with
  | mkdir p =>
      simp only [plainAnswer] at h
      split at h
      · rename_i hnode
        cases h
        exact ⟨step_of_does trivial rfl (by simp [Does, hnode]),
          hown.setNode (by simp)⟩
      · rename_i hnode
        cases h
        exact ⟨step_of_does trivial rfl (by simp [Does, hnode]), hown⟩
      · cases h
  | truncate sizeGb p =>
      simp only [plainAnswer] at h
      split at h
      · rename_i hnew
        obtain ⟨rfl, hnone, hmounts⟩ := hnew
        cases h
        have hnone := Option.isNone_iff_eq_none.mp hnone
        have hkept := @OwnInodes.setNode w _ (some (.image (podInode pod))) hown
          fun i hi => ⟨pod, by cases hi; rfl, rfl⟩
        refine ⟨step_of_does trivial rfl ?_, hkept.nodes, hkept.mounts⟩
        simp only [Does, hnone]
        exact ⟨podInode pod, hown.free hnone hmounts, rfl⟩
      · cases h
  | mkfs p =>
      simp only [plainAnswer] at h
      split at h
      · rename_i i hnode
        cases h
        exact ⟨step_of_does trivial rfl ⟨i, hnode, rfl⟩, hown.nodes, hown.mounts⟩
      · cases h
  | mount asRoot image point =>
      simp only [plainAnswer] at h
      split at h
      · rename_i i files himage hpoint
        split at h
        · rename_i hpod
          cases h
          exact ⟨step_of_does trivial rfl ⟨i, files, himage, hpoint, rfl⟩,
            hown.mount ⟨pod, hpod⟩⟩
        · cases h
      · cases h
  | write p x =>
      simp only [plainAnswer] at h
      split at h
      · rename_i i older hmounts
        cases h
        refine ⟨step_of_does trivial rfl ⟨w.data i, ?_, ?_⟩, hown.nodes,
          hown.mounts⟩
        · simp [DiskHost.contents, hmounts]
        · simp [Refilled, hmounts]
      · cases h
  | read p =>
      obtain ⟨files, hfiles, heq⟩ := Option.map_eq_some_iff.mp h
      cases heq
      exact ⟨⟨hfiles, rfl⟩, hown⟩
  | _ => cases h

theorem unusedDisk_own : OwnInodes unusedDisk where
  nodes p i h := by
    simp only [unusedDisk] at h
    split at h <;> cases h
  mounts p i h := by cases h

def podClient (pod : Bool) :
    Program (VolumeOp Nat volumesDir (podName pod)) VolumeOp.Ret DiskExn
      (List Nat) := do
  let _ ← perform (VolumeOp.create "hotkey" "node" 50 none)
  perform (VolumeOp.write (if pod then 1 else 2))
  perform VolumeOp.read

def twoPods : (Bool → Disk Nat (List Nat)) × DiskHost Nat :=
  takeTurns plainAnswer
    [true, false, true, false, true, false, true, false, true, false, true,
      false, true, false]
    (volumeThreads (fun _ => "") .loopMount volumesDir podName podClient)
    unusedDisk

theorem twoPods_run : Interleaves (fun _ => diskHost Nat)
    (volumeThreads (fun _ => "") .loopMount volumesDir podName podClient) unusedDisk
    twoPods.1 twoPods.2 :=
  takeTurns_interleaves_within (fun _ _ _ _ _ => plainAnswer_step) _ _
    unusedDisk_own

theorem volumes_isolated_twoPods : ∃ g', Interleaves (fun _ => diskHost Nat)
      (onlyThose (fun i => podName i = podName true) (.ok [])
        (volumeThreads (fun _ => "") .loopMount volumesDir podName podClient))
      (unusedDisk.alone volumesDir (podName true))
      (onlyThose (fun i => podName i = podName true) (.ok []) twoPods.1) g' ∧
    twoPods.2.Apart volumesDir ∧
      twoPods.2.Seen volumesDir (podName true) g' :=
  volumes_isolated _ twoPods_run unusedDisk_apart alone_seen

end

end NodeAgent
