import NodeAgent.Foundation.FileTree
import Mathlib.Data.String.Basic
import Mathlib.Data.Finset.Basic

/-!
# Evicting the artifact cache

A staged artifact is a file of the cache directory and a runtime directory a
tree in it, each named after its deployment.  A runtime directory goes in two
flat passes: all files, then all directories in reverse order of their paths.
-/

namespace NodeAgent

open FileSystem

namespace StagedArtifactStore

variable {α : Type}

abbrev Files (α : Type) := Tree String α

/-- `path.name` -/
def nameOf (p : List String) : String := p.getLast?.getD ""

/-- Whether a name matches `*suffix`. -/
def hasSuffix (suffix name : String) : Bool :=
  suffix.toList.isSuffixOf name.toList

/-- `name.removesuffix(suffix)` -/
def removeSuffix (suffix name : String) : String :=
  if hasSuffix suffix name then
    String.ofList (name.toList.take (name.toList.length - suffix.toList.length))
  else name

/-- `sorted(directory.glob("*" + suffix))` -/
def globSorted (t : Files α) (directory : List String) (suffix : String) :
    List (List String) :=
  ((t.children directory).filter fun p => hasSuffix suffix (nameOf p)).insertionSort
    (· ≤ ·)

/-- `sorted(path.glob("**/*"), reverse=True)` -/
def belowReversed (t : Files α) (path : List String) : List (List String) :=
  (t.below path).insertionSort (· ≥ ·)

def unlinkFiles : List (List String) → Files α → Except Fault (Files α)
  | [], t => .ok t
  | child :: rest, t =>
      if t.isFile child then do
        let t' ← t.unlink child
        unlinkFiles rest t'
      else unlinkFiles rest t

def rmdirs : List (List String) → Files α → Except Fault (Files α)
  | [], t => .ok t
  | child :: rest, t =>
      if t.isDir child then do
        let t' ← t.rmdir child
        rmdirs rest t'
      else rmdirs rest t

/-- `none` is an absent or an empty path. -/
def deleteRuntimeDir (runtimeDir : Option (List String)) (t : Files α) :
    Except Fault (Files α) :=
  match runtimeDir with
  | none => .ok t
  | some path =>
      if (t.get? path).isNone then .ok t
      else do
        let t₁ ← unlinkFiles (t.below path) t
        let t₂ ← rmdirs (belowReversed t₁ path) t₁
        t₂.rmdir path

/-- One of the two loops of `evict_stale_cache`, with the names evicted so far. -/
def evictEach (suffix : String) (active : Finset String)
    (delete : List String → Files α → Except Fault (Files α)) :
    List (List String) → List String → Files α →
      Except Fault (List String × Files α)
  | [], evicted, t => .ok (evicted, t)
  | path :: rest, evicted, t =>
      if removeSuffix suffix (nameOf path) ∈ active then
        evictEach suffix active delete rest evicted t
      else do
        let t' ← delete path t
        evictEach suffix active delete rest (evicted ++ [nameOf path]) t'

structure Evicted where
  evictedArtifacts : List String
  evictedRuntimeDirs : List String
  evictedArtifactCount : Nat
  evictedRuntimeDirCount : Nat
  deriving DecidableEq

def evictStaleCache (cacheDir : List String) (active : Finset String)
    (t : Files α) : Except Fault (Evicted × Files α) := do
  let (artifacts, t) ← evictEach ".artifact.json" active
    (fun path t => t.unlink path) (globSorted t cacheDir ".artifact.json") [] t
  let (runtimeDirs, t) ← evictEach ".runtime" active
    (fun path t => deleteRuntimeDir (some path) t)
    ((globSorted t cacheDir ".runtime").filter fun path => t.isDir path) [] t
  .ok ({ evictedArtifacts := artifacts, evictedRuntimeDirs := runtimeDirs
         evictedArtifactCount := artifacts.length
         evictedRuntimeDirCount := runtimeDirs.length }, t)

/-! ## The two passes over a runtime directory -/

theorem unlinkFiles_ok (paths : List (List String)) (t : Files α) :
    ∃ t', unlinkFiles paths t = .ok t' ∧
      ∀ q, t'.get? q = if q ∈ paths ∧ t.isFile q then none else t.get? q := by
  induction paths generalizing t with
  | nil => exact ⟨t, rfl, fun q => by simp⟩
  | cons child rest ih =>
      rw [unlinkFiles]
      by_cases hfile : t.isFile child
      · obtain ⟨content, hcontent⟩ := Tree.isFile_iff.mp hfile
        obtain ⟨t₁, hunlink⟩ := t.unlink_file hcontent
        have hget := t.get?_unlink hunlink
        obtain ⟨t', hrest, hget'⟩ := ih t₁
        rw [if_pos hfile, hunlink]
        refine ⟨t', hrest, fun q => ?_⟩
        rw [hget']
        by_cases hq : child = q
        · subst hq
          simp [hget, hfile]
        · have hsame : t₁.get? q = t.get? q := by rw [hget, if_neg hq]
          simp [Tree.isFile_congr hsame, hsame, Ne.symm hq]
      · obtain ⟨t', hrest, hget'⟩ := ih t
        rw [if_neg hfile]
        refine ⟨t', hrest, fun q => ?_⟩
        rw [hget']
        by_cases hq : child = q
        · subst hq
          simp [hfile]
        · simp [Ne.symm hq]

theorem rmdirs_ok {paths : List (List String)} {t : Files α}
    (hdirs : ∀ q ∈ paths, q ≠ [] ∧ t.get? q = some .dir)
    (hlisted : ∀ c ∈ paths, ∀ q ∈ t.below c, q ∈ paths)
    (hsorted : paths.Pairwise (· > ·)) :
    ∃ t', rmdirs paths t = .ok t' ∧
      ∀ q, t'.get? q = if q ∈ paths then none else t.get? q := by
  induction paths generalizing t with
  | nil => exact ⟨t, rfl, fun q => by simp⟩
  | cons child rest ih =>
      obtain ⟨⟨hne, hdir⟩, hrestdirs⟩ := List.forall_mem_cons.mp hdirs
      obtain ⟨hafter, hrestsorted⟩ := List.pairwise_cons.mp hsorted
      have hempty : t.below child = [] := by
        rw [List.eq_nil_iff_forall_not_mem]
        intro q hq
        obtain ⟨-, hpre, hneq⟩ := Tree.mem_below.mp hq
        have hmem := hlisted child List.mem_cons_self q hq
        have hlater := hafter q ((List.mem_cons.mp hmem).resolve_left (Ne.symm hneq))
        exact lt_asymm hlater (Tree.lt_below hpre hneq)
      obtain ⟨t₁, hrmdir⟩ := t.rmdir_empty hne hdir hempty
      have hget := t.get?_rmdir hrmdir
      have hother : ∀ q, q ≠ child → t₁.get? q = t.get? q := fun q hq => by
        rw [hget, if_neg (Ne.symm hq)]
      obtain ⟨t', hrest, hget'⟩ := ih
        (fun q hq => ⟨(hrestdirs q hq).1, by
          rw [hother q (ne_of_lt (hafter q hq)), (hrestdirs q hq).2]⟩)
        (fun c hc q hq => by
          obtain ⟨hsome, hpre, hneq⟩ := Tree.mem_below.mp hq
          have hqchild : q ≠ child := by
            rintro rfl
            simp [hget] at hsome
          rw [hother q hqchild] at hsome
          have hmem := hlisted c (List.mem_cons_of_mem _ hc) q
            (Tree.mem_below.mpr ⟨hsome, hpre, hneq⟩)
          exact (List.mem_cons.mp hmem).resolve_left hqchild)
        hrestsorted
      rw [rmdirs, if_pos (Tree.isDir_iff.mpr hdir), hrmdir]
      refine ⟨t', hrest, fun q => ?_⟩
      rw [hget', hget]
      by_cases hq : child = q
      · simp [hq]
      · simp [hq, Ne.symm hq]

theorem mem_belowReversed {t : Files α} {path q : List String} :
    q ∈ belowReversed t path ↔ q ∈ t.below path :=
  List.mem_insertionSort _

theorem belowReversed_descends (t : Files α) (path : List String) :
    (belowReversed t path).Pairwise (· > ·) := by
  have hsorted : (belowReversed t path).Pairwise (· ≥ ·) :=
    List.pairwise_insertionSort _ _
  have hnodup : (belowReversed t path).Nodup :=
    (List.perm_insertionSort _ _).nodup_iff.mpr (t.below_nodup path)
  exact hsorted.imp₂ (fun _ _ hge hne => lt_of_le_of_ne hge (Ne.symm hne)) hnodup

theorem unlinkFiles_below (t : Files α) (path : List String) :
    ∃ t', unlinkFiles (t.below path) t = .ok t' ∧
      (∀ q ∈ t'.below path, t'.get? q = some .dir) ∧
      ∀ q, q ∉ t.below path → t'.get? q = t.get? q := by
  obtain ⟨t', hunlink, hget⟩ := unlinkFiles_ok (t.below path) t
  refine ⟨t', hunlink, fun q hq => ?_, fun q hq => ?_⟩
  · obtain ⟨hsome, hpre, hneq⟩ := Tree.mem_below.mp hq
    rw [hget] at hsome ⊢
    split at hsome
    · cases hsome
    · next hkept =>
        rw [if_neg hkept]
        have hfile : ¬t.isFile q := fun hfile =>
          hkept ⟨Tree.mem_below.mpr ⟨hsome, hpre, hneq⟩, hfile⟩
        rw [Tree.isFile_iff, not_exists] at hfile
        obtain ⟨node, hnode⟩ := Option.isSome_iff_exists.mp hsome
        cases node with
        | dir => exact hnode
        | file content => exact absurd hnode (hfile content)
  · rw [hget, if_neg fun h => hq h.1]

theorem rmdirs_below {t : Files α} {path : List String} (hne : path ≠ [])
    (hdirs : ∀ q ∈ t.below path, t.get? q = some .dir) :
    ∃ t', rmdirs (belowReversed t path) t = .ok t' ∧
      ∀ q, t'.get? q = if q ∈ t.below path then none else t.get? q := by
  obtain ⟨t', hrmdirs, hget⟩ := @rmdirs_ok α (belowReversed t path) t
    (fun q hq => by
      rw [mem_belowReversed] at hq
      refine ⟨?_, hdirs q hq⟩
      rintro rfl
      exact hne (List.prefix_nil.mp (Tree.mem_below.mp hq).2.1))
    (fun c hc q hq => by
      rw [mem_belowReversed] at hc ⊢
      obtain ⟨-, hpre, -⟩ := Tree.mem_below.mp hc
      obtain ⟨hsome, hpre', hneq'⟩ := Tree.mem_below.mp hq
      refine Tree.mem_below.mpr ⟨hsome, hpre.trans hpre', ?_⟩
      rintro rfl
      exact hneq' (hpre'.eq_of_length_le hpre.length_le))
    (belowReversed_descends t path)
  refine ⟨t', hrmdirs, fun q => ?_⟩
  simp only [hget, mem_belowReversed]

theorem deleteRuntimeDir_ok {t : Files α} {path : List String}
    (hne : path ≠ []) (hdir : t.get? path = some .dir) :
    ∃ t', deleteRuntimeDir (some path) t = .ok t' ∧ t.Without t' path := by
  obtain ⟨t₁, hunlink, hdirs, hsame⟩ := unlinkFiles_below t path
  obtain ⟨t₂, hrmdirs, hget⟩ := rmdirs_below hne hdirs
  have hself : ∀ t : Files α, path ∉ t.below path := fun t h =>
    (Tree.mem_below.mp h).2.2 rfl
  have hpath : t₂.get? path = some .dir := by
    rw [hget, if_neg (hself t₁), hsame path (hself t), hdir]
  have hgone : ∀ q, path <+: q → path ≠ q → t₂.get? q = none := by
    intro q hpre hneq
    rw [hget]
    split
    · rfl
    · next hout => simpa [Tree.mem_below, hpre, hneq] using hout
  have hempty : t₂.below path = [] := by
    rw [List.eq_nil_iff_forall_not_mem]
    intro q hq
    obtain ⟨hsome, hpre, hneq⟩ := Tree.mem_below.mp hq
    rw [hgone q hpre hneq] at hsome
    cases hsome
  obtain ⟨t₃, hrmdir⟩ := t₂.rmdir_empty hne hpath hempty
  refine ⟨t₃, ?_, fun q => ?_⟩
  · simp only [deleteRuntimeDir, hdir, Option.isNone_some, hunlink]
    change (rmdirs (belowReversed t₁ path) t₁ >>= fun t => t.rmdir path) = _
    rw [hrmdirs]
    exact hrmdir
  · rw [t₂.get?_rmdir hrmdir]
    by_cases hpq : path = q
    · simp [hpq]
    · rw [if_neg hpq]
      by_cases hpre : path <+: q
      · rw [hgone q hpre hpq, if_pos hpre]
      · have hout : ∀ t : Files α, q ∉ t.below path := fun t h =>
          hpre (Tree.mem_below.mp h).2.1
        rw [if_neg hpre, hget, if_neg (hout t₁), hsame q (hout t)]

/-! ## The two loops over the cache -/

/-- The paths whose deployment is not active. -/
def stale (suffix : String) (active : Finset String)
    (paths : List (List String)) : List (List String) :=
  paths.filter fun path => removeSuffix suffix (nameOf path) ∉ active

/--
If what is listed can be deleted, and stays so while other paths are deleted,
the loop deletes what is stale and nothing else.
-/
theorem evictEach_ok {suffix : String} {active : Finset String}
    {delete : List String → Files α → Except Fault (Files α)}
    {Ready : Files α → List String → Prop}
    (hdelete : ∀ t p, Ready t p → ∃ t', delete p t = .ok t' ∧ t.Without t' p)
    (hkept : ∀ t t' p, t'.get? p = t.get? p → Ready t p → Ready t' p)
    {paths : List (List String)}
    (hapart : paths.Pairwise fun p p' => ¬p <+: p') {t : Files α}
    (hready : ∀ p ∈ paths, Ready t p) (evicted : List String) :
    ∃ t', evictEach suffix active delete paths evicted t =
        .ok (evicted ++ (stale suffix active paths).map nameOf, t') ∧
      ∀ q, t'.get? q =
        if ∃ p ∈ stale suffix active paths, p <+: q then none else t.get? q := by
  induction paths generalizing t evicted with
  | nil => exact ⟨t, by simp [evictEach, stale], fun q => by simp [stale]⟩
  | cons path rest ih =>
      obtain ⟨hpath, hrest⟩ := List.forall_mem_cons.mp hready
      obtain ⟨hothers, hapart⟩ := List.pairwise_cons.mp hapart
      rw [evictEach]
      by_cases hactive : removeSuffix suffix (nameOf path) ∈ active
      · have hstale : stale suffix active (path :: rest) =
            stale suffix active rest := by simp [stale, hactive]
        rw [if_pos hactive, hstale]
        exact ih hapart hrest evicted
      · have hstale : stale suffix active (path :: rest) =
            path :: stale suffix active rest := by simp [stale, hactive]
        obtain ⟨t₁, hdeleted, hwithout⟩ := hdelete t path hpath
        obtain ⟨t', hrun, hget⟩ := ih hapart
          (fun p hp => hkept t t₁ p
            (by rw [hwithout, if_neg (hothers p hp)]) (hrest p hp))
          (evicted ++ [nameOf path])
        refine ⟨t', ?_, fun q => ?_⟩
        · have hnames := List.append_cons evicted (nameOf path)
            ((stale suffix active rest).map nameOf)
          rw [if_neg hactive, hdeleted, hstale, List.map_cons, hnames]
          exact hrun
        · rw [hget, hwithout, hstale]
          by_cases hpre : path <+: q
          · simp [hpre]
          · simp [hpre]

/-! ## Names -/

theorem hasSuffix_iff {suffix name : String} :
    hasSuffix suffix name ↔ ∃ id, name = id ++ suffix := by
  rw [hasSuffix, List.isSuffixOf_iff_suffix]
  constructor
  · rintro ⟨id, hid⟩
    refine ⟨String.ofList id, String.toList_inj.mp ?_⟩
    simp [← hid]
  · rintro ⟨id, rfl⟩
    exact ⟨id.toList, by simp⟩

theorem removeSuffix_append (id suffix : String) :
    removeSuffix suffix (id ++ suffix) = id := by
  rw [removeSuffix, if_pos (hasSuffix_iff.mpr ⟨id, rfl⟩)]
  simp

theorem nameOf_append (directory : List String) (name : String) :
    nameOf (directory ++ [name]) = name := by
  simp [nameOf]

theorem mem_children {t : Files α} {directory p : List String} :
    p ∈ t.children directory ↔
      (t.get? p).isSome ∧ ∃ name, p = directory ++ [name] := by
  rw [Tree.children, List.mem_filter, Tree.mem_below, decide_eq_true_eq]
  constructor
  · rintro ⟨⟨hsome, -, hneq⟩, hparent⟩
    refine ⟨hsome, ?_⟩
    by_cases hp : p = []
    · subst hp
      exact absurd hparent.symm hneq
    · exact ⟨p.getLast hp, by rw [← hparent, List.dropLast_append_getLast hp]⟩
  · rintro ⟨hsome, name, rfl⟩
    exact ⟨⟨hsome, List.prefix_append _ _, by simp⟩, by simp⟩

theorem mem_globSorted {t : Files α} {directory p : List String}
    {suffix : String} :
    p ∈ globSorted t directory suffix ↔
      (t.get? p).isSome ∧ ∃ id, p = directory ++ [id ++ suffix] := by
  rw [globSorted, List.mem_insertionSort, List.mem_filter, mem_children]
  constructor
  · rintro ⟨⟨hsome, name, rfl⟩, hsuffix⟩
    rw [nameOf_append] at hsuffix
    obtain ⟨id, rfl⟩ := hasSuffix_iff.mp hsuffix
    exact ⟨hsome, id, rfl⟩
  · rintro ⟨hsome, id, rfl⟩
    refine ⟨⟨hsome, _, rfl⟩, ?_⟩
    rw [nameOf_append]
    exact hasSuffix_iff.mpr ⟨id, rfl⟩

theorem mem_stale {suffix : String} {active : Finset String}
    {paths : List (List String)} {directory : List String} {id : String} :
    directory ++ [id ++ suffix] ∈ stale suffix active paths ↔
      directory ++ [id ++ suffix] ∈ paths ∧ id ∉ active := by
  rw [stale, List.mem_filter, nameOf_append, removeSuffix_append,
    decide_eq_true_eq]

theorem globSorted_apart (t : Files α) (directory : List String)
    (suffix : String) :
    (globSorted t directory suffix).Pairwise fun p p' => ¬p <+: p' := by
  have hnodup : (globSorted t directory suffix).Nodup :=
    (List.perm_insertionSort _ _).nodup_iff.mpr
      (((t.below_nodup directory).filter _).filter _)
  refine List.Pairwise.imp_of_mem (fun {p p'} hp hp' hne hpre => ?_) hnodup
  obtain ⟨-, id, rfl⟩ := mem_globSorted.mp hp
  obtain ⟨-, id', rfl⟩ := mem_globSorted.mp hp'
  exact hne (hpre.eq_of_length (by simp))

/-! ## What is left -/

structure Cache (α : Type) where
  files : Files α
  directory : List String
  staged : ∀ id, files.get? (directory ++ [id ++ ".artifact.json"]) ≠ some .dir

namespace Cache

variable (cache : Cache α)

def artifactPath (id : String) : List String :=
  cache.directory ++ [id ++ ".artifact.json"]

def runtimePath (id : String) : List String :=
  cache.directory ++ [id ++ ".runtime"]

/-- Of a deployment that is not active: its artifact, or what its runtime
directory holds. -/
def Stale (active : Finset String) (q : List String) : Prop :=
  (∃ id ∉ active, q = cache.artifactPath id) ∨
    ∃ id ∉ active, cache.files.isDir (cache.runtimePath id) ∧
      cache.runtimePath id <+: q

theorem suffixes_differ (id id' : String) :
    id ++ ".artifact.json" ≠ id' ++ ".runtime" := by
  intro h
  have hlast := congrArg (fun name => name.toList.getLast?) h
  simp at hlast

theorem evictArtifacts_ok (active : Finset String) :
    ∃ t', evictEach ".artifact.json" active (fun path t => t.unlink path)
        (globSorted cache.files cache.directory ".artifact.json") []
        cache.files =
        .ok ((stale ".artifact.json" active (globSorted cache.files
          cache.directory ".artifact.json")).map nameOf, t') ∧
      (∀ id ∉ active, t'.get? (cache.artifactPath id) = none) ∧
      ∀ q, (∀ id ∉ active, q ≠ cache.artifactPath id) →
        t'.get? q = cache.files.get? q := by
  obtain ⟨t', hrun, hget⟩ := @evictEach_ok α ".artifact.json" active
    (fun path t => t.unlink path)
    (fun t p => ∃ content, t.get? p = some (.file content))
    (fun t p ⟨content, hfile⟩ => by
      obtain ⟨t', hunlink⟩ := t.unlink_file hfile
      exact ⟨t', hunlink, Tree.unlink_without hfile hunlink⟩)
    (fun t t' p hsame ⟨content, hfile⟩ => ⟨content, by rw [hsame, hfile]⟩)
    _ (globSorted_apart cache.files cache.directory ".artifact.json")
    cache.files (fun p hp => by
      obtain ⟨hsome, id, rfl⟩ := mem_globSorted.mp hp
      obtain ⟨node, hnode⟩ := Option.isSome_iff_exists.mp hsome
      cases node with
      | dir => exact absurd hnode (cache.staged id)
      | file content => exact ⟨content, hnode⟩) []
  refine ⟨t', hrun, fun id hid => ?_, fun q hq => ?_⟩
  · rw [hget]
    split
    · rfl
    · next hkept =>
        by_contra hsome
        refine hkept ⟨cache.artifactPath id, mem_stale.mpr
          ⟨mem_globSorted.mpr ⟨Option.isSome_iff_ne_none.mpr hsome, id, rfl⟩,
            hid⟩, List.prefix_refl _⟩
  · rw [hget]
    split
    · next hgone =>
        obtain ⟨p, hp, hpre⟩ := hgone
        have hlisted := (List.mem_filter.mp hp).1
        obtain ⟨hsome, id, rfl⟩ := mem_globSorted.mp hlisted
        have hid := (mem_stale.mp hp).2
        -- A file has nothing below it.
        by_contra hne
        have hdir := Tree.dir_above hpre (Ne.symm (hq id hid))
          (Option.isSome_iff_ne_none.mpr fun h => hne h.symm)
        exact cache.staged id hdir
    · rfl

theorem mem_staleRuntimes {active : Finset String} {t₁ : Files α}
    (hruntime : ∀ id, t₁.get? (cache.runtimePath id) =
      cache.files.get? (cache.runtimePath id)) (q : List String) :
    (∃ p ∈ stale ".runtime" active
      ((globSorted t₁ cache.directory ".runtime").filter
        fun path => t₁.isDir path), p <+: q) ↔
      ∃ id ∉ active, cache.files.isDir (cache.runtimePath id) ∧
        cache.runtimePath id <+: q := by
  constructor
  · rintro ⟨p, hp, hpre⟩
    obtain ⟨hlisted, hdir⟩ := List.mem_filter.mp (List.mem_filter.mp hp).1
    obtain ⟨-, id, rfl⟩ := mem_globSorted.mp hlisted
    refine ⟨id, (mem_stale.mp hp).2, ?_, hpre⟩
    rwa [← Tree.isDir_congr (hruntime id)]
  · rintro ⟨id, hid, hdir, hpre⟩
    have hdir₁ : t₁.isDir (cache.runtimePath id) := by
      rwa [Tree.isDir_congr (hruntime id)]
    have hsome : (t₁.get? (cache.runtimePath id)).isSome := by
      rw [Tree.isDir_iff.mp hdir₁]
      rfl
    exact ⟨cache.runtimePath id, mem_stale.mpr ⟨List.mem_filter.mpr
      ⟨mem_globSorted.mpr ⟨hsome, id, rfl⟩, hdir₁⟩, hid⟩, hpre⟩

theorem evictRuntimes_ok (active : Finset String) {t₁ : Files α}
    (hruntime : ∀ id, t₁.get? (cache.runtimePath id) =
      cache.files.get? (cache.runtimePath id)) :
    ∃ names t', evictEach ".runtime" active
        (fun path t => deleteRuntimeDir (some path) t)
        ((globSorted t₁ cache.directory ".runtime").filter
          fun path => t₁.isDir path) [] t₁ = .ok (names, t') ∧
      (∀ q, (∃ id ∉ active, cache.files.isDir (cache.runtimePath id) ∧
        cache.runtimePath id <+: q) → t'.get? q = none) ∧
      ∀ q, (¬∃ id ∉ active, cache.files.isDir (cache.runtimePath id) ∧
        cache.runtimePath id <+: q) → t'.get? q = t₁.get? q := by
  obtain ⟨t', hdirs, hget⟩ := @evictEach_ok α ".runtime" active
    (fun path t => deleteRuntimeDir (some path) t)
    (fun t p => p ≠ [] ∧ t.get? p = some .dir)
    (fun t p ⟨hne, hdir⟩ => deleteRuntimeDir_ok hne hdir)
    (fun t t' p hsame ⟨hne, hdir⟩ => ⟨hne, by rw [hsame, hdir]⟩)
    _ ((globSorted_apart t₁ cache.directory ".runtime").filter
      fun path => t₁.isDir path)
    t₁ (fun p hp => by
      obtain ⟨hlisted, hdir⟩ := List.mem_filter.mp hp
      obtain ⟨-, id, rfl⟩ := mem_globSorted.mp hlisted
      exact ⟨by simp, Tree.isDir_iff.mp hdir⟩) []
  refine ⟨_, t', hdirs, fun q hq => ?_, fun q hq => ?_⟩
  · rw [hget, if_pos ((cache.mem_staleRuntimes hruntime q).mpr hq)]
  · rw [hget, if_neg (mt (cache.mem_staleRuntimes hruntime q).mp hq)]

end Cache

end StagedArtifactStore

end NodeAgent
