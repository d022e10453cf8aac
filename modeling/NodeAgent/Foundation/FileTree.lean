import NodeAgent.Foundation.Dict
import Mathlib.Data.List.Induction
import Mathlib.Data.List.Lex
import Mathlib.Data.List.Sort

/-!
# Trees of files and directories

A tree is what stands at each path, a path being the names on the way from the
root.  Every node but the root stands in a directory, so that a file has nothing
below it and a directory that has something below it cannot be removed alone.
-/

namespace FileSystem

open Effectful

inductive Node (α : Type) where
  | dir
  | file (content : α)
  deriving DecidableEq, Repr

inductive Fault where
  | missing
  | isDirectory
  | notDirectory
  | notEmpty
  /-- `FileExistsError` -/
  | present
  deriving DecidableEq, Repr

section

variable {ν α : Type} [LinearOrder ν]

structure Tree (ν α : Type) [LinearOrder ν] where
  nodes : Dict (List ν) (Node α)
  root : nodes.get? [] = some .dir
  closed : ∀ p, p ≠ [] → (nodes.get? p).isSome →
    nodes.get? p.dropLast = some .dir

namespace Tree

def empty : Tree ν α where
  nodes := Dict.empty.insert [] .dir
  root := by simp
  closed p hp hsome := by
    rw [Dict.get?_insert_of_ne _ _ (Ne.symm hp)] at hsome
    cases hsome

def get? (t : Tree ν α) (p : List ν) : Option (Node α) := t.nodes.get? p

/-- `path.is_dir()` -/
def isDir (t : Tree ν α) (p : List ν) : Bool :=
  match t.get? p with
  | some .dir => true
  | _ => false

/-- `path.is_file()` -/
def isFile (t : Tree ν α) (p : List ν) : Bool :=
  match t.get? p with
  | some (.file _) => true
  | _ => false

/-- `path.glob("**/*")` -/
def below (t : Tree ν α) (p : List ν) : List (List ν) :=
  (t.nodes.entries.map Prod.fst).filter fun q => p <+: q ∧ p ≠ q

/-- `path.glob("*")` -/
def children (t : Tree ν α) (p : List ν) : List (List ν) :=
  (t.below p).filter fun q => q.dropLast = p

variable (t : Tree ν α)

variable {t}

theorem isDir_iff {p : List ν} : t.isDir p ↔ t.get? p = some .dir := by
  unfold isDir
  split <;> simp_all

theorem isFile_iff {p : List ν} :
    t.isFile p ↔ ∃ content, t.get? p = some (.file content) := by
  unfold isFile
  split <;> simp_all

theorem isFile_congr {t' : Tree ν α} {p : List ν} (h : t'.get? p = t.get? p) :
    t'.isFile p = t.isFile p := by
  rw [isFile, isFile, h]

theorem isDir_congr {t' : Tree ν α} {p : List ν} (h : t'.get? p = t.get? p) :
    t'.isDir p = t.isDir p := by
  rw [isDir, isDir, h]

theorem mem_below {p q : List ν} :
    q ∈ t.below p ↔ (t.get? q).isSome ∧ p <+: q ∧ p ≠ q := by
  rw [below, List.mem_filter, ← Dict.get?_isSome_iff, decide_eq_true_eq]
  rfl

theorem below_nodup (t : Tree ν α) (p : List ν) : (t.below p).Nodup :=
  t.nodes.nodup.filter _

theorem dir_of_below {p q : List ν} (h : q ∈ t.below p) :
    t.get? p = some .dir := by
  obtain ⟨hsome, ⟨r, rfl⟩, hne⟩ := mem_below.mp h
  clear h
  induction r using List.reverseRecOn with
  | nil => simp at hne
  | append_singleton r name ih =>
      have hparent := t.closed _ (by simp) hsome
      rw [← List.append_assoc, List.dropLast_concat] at hparent
      by_cases hr : r = []
      · rwa [hr, List.append_nil] at hparent
      · exact ih (by rw [get?, hparent]; rfl) (by simpa using hr)

theorem below_file {p : List ν} {content : α}
    (h : t.get? p = some (.file content)) : t.below p = [] := by
  rw [List.eq_nil_iff_forall_not_mem]
  intro q hq
  rw [dir_of_below hq] at h
  cases h

theorem erase_closed {p : List ν} (hleaf : t.below p = []) :
    ∀ q, q ≠ [] → ((t.nodes.erase p).get? q).isSome →
      (t.nodes.erase p).get? q.dropLast = some .dir := by
  intro q hq hsome
  rw [Dict.get?_erase] at hsome ⊢
  by_cases hpq : p = q
  · simp [hpq] at hsome
  · rw [if_neg hpq] at hsome
    have hparent := t.closed q hq hsome
    rw [if_neg, hparent]
    rintro rfl
    have hbelow : q ∈ t.below q.dropLast :=
      mem_below.mpr ⟨hsome, List.dropLast_prefix q, hpq⟩
    rw [hleaf] at hbelow
    cases hbelow

variable (t)

/-! ## Taking out -/

def unlink (p : List ν) : Except Fault (Tree ν α) :=
  match h : t.get? p with
  | none => .error .missing
  | some .dir => .error .isDirectory
  | some (.file _) => .ok
      { nodes := t.nodes.erase p
        root := by
          have hp : p ≠ [] := by
            rintro rfl
            rw [get?, t.root] at h
            cases h
          rw [Dict.get?_erase_of_ne _ hp, t.root]
        closed := erase_closed (below_file h) }

/-- Only an empty directory can be removed. -/
def rmdir (p : List ν) : Except Fault (Tree ν α) :=
  match t.get? p with
  | none => .error .missing
  | some (.file _) => .error .notDirectory
  | some .dir =>
      if h : p ≠ [] ∧ t.below p = [] then .ok
        { nodes := t.nodes.erase p
          root := by rw [Dict.get?_erase_of_ne _ h.1, t.root]
          closed := erase_closed h.2 }
      else .error .notEmpty

/-- Both trees hold the same nodes, but for the subtree that is gone. -/
def Without (t t' : Tree ν α) (p : List ν) : Prop :=
  ∀ q, t'.get? q = if p <+: q then none else t.get? q

/-- `shutil.rmtree(path, ignore_errors=True)`, which leaves the root. -/
def rmtree (p : List ν) : Tree ν α where
  nodes := t.nodes.filterKeys fun q => ¬p <+: q ∨ q = []
  root := by
    rw [Dict.get?_filterKeys, t.root]
    simp
  closed q hq hsome := by
    rw [Dict.get?_filterKeys] at hsome ⊢
    by_cases hkeep : ¬p <+: q ∨ q = []
    · rw [if_pos (by simpa using hkeep)] at hsome
      have hout : ¬p <+: q.dropLast := fun hp =>
        (hkeep.resolve_right hq) (hp.trans (List.dropLast_prefix q))
      rw [if_pos (by simp [hout]), t.closed q hq hsome]
    · rw [if_neg (by simpa using hkeep)] at hsome
      cases hsome

theorem get?_unlink {p : List ν} {t' : Tree ν α} (h : t.unlink p = .ok t')
    (q : List ν) : t'.get? q = if p = q then none else t.get? q := by
  unfold unlink at h
  split at h
  · cases h
  · cases h
  · obtain rfl := Except.ok.inj h
    exact Dict.get?_erase t.nodes p q

theorem unlink_file {p : List ν} {content : α}
    (h : t.get? p = some (.file content)) : ∃ t', t.unlink p = .ok t' := by
  unfold unlink
  split
  · next heq => simp [h] at heq
  · next heq => simp [h] at heq
  · exact ⟨_, rfl⟩

theorem get?_rmdir {p : List ν} {t' : Tree ν α} (h : t.rmdir p = .ok t')
    (q : List ν) : t'.get? q = if p = q then none else t.get? q := by
  unfold rmdir at h
  split at h
  · cases h
  · cases h
  · split at h
    · obtain rfl := Except.ok.inj h
      exact Dict.get?_erase t.nodes p q
    · cases h

theorem rmdir_empty {p : List ν} (hp : p ≠ []) (hdir : t.get? p = some .dir)
    (hleaf : t.below p = []) : ∃ t', t.rmdir p = .ok t' := by
  unfold rmdir
  rw [hdir]
  dsimp only
  rw [dif_pos ⟨hp, hleaf⟩]
  exact ⟨_, rfl⟩

theorem below_of_rmdir {t t' : Tree ν α} {p : List ν} (h : t.rmdir p = .ok t') :
    t.below p = [] := by
  unfold rmdir at h
  split at h
  · cases h
  · cases h
  · split at h
    · next hempty => exact hempty.2
    · cases h

theorem unlink_without {t t' : Tree ν α} {p : List ν} {content : α}
    (hfile : t.get? p = some (.file content)) (h : t.unlink p = .ok t') :
    t.Without t' p := by
  intro q
  rw [t.get?_unlink h]
  by_cases hpq : p = q
  · simp [hpq]
  · rw [if_neg hpq]
    split
    · next hpre =>
        by_contra hsome
        have hbelow : q ∈ t.below p :=
          mem_below.mpr ⟨Option.isSome_iff_ne_none.mpr hsome, hpre, hpq⟩
        rw [below_file hfile] at hbelow
        cases hbelow
    · rfl

theorem get?_rmtree (p q : List ν) :
    (t.rmtree p).get? q = if p <+: q ∧ q ≠ [] then none else t.get? q := by
  have h := Dict.get?_filterKeys (fun q => ¬p <+: q ∨ q = []) t.nodes q
  by_cases hpq : p <+: q ∧ q ≠ []
  · rw [if_pos hpq]
    rw [if_neg (by simpa using hpq)] at h
    exact h
  · rw [if_neg hpq]
    rw [if_pos (by simpa [or_iff_not_imp_left] using hpq)] at h
    exact h

/-! ## Putting in -/

/-- A node in a directory, where no directory stands. -/
def place (p : List ν) (node : Node α) : Except Fault (Tree ν α) :=
  if h : p ≠ [] ∧ t.isDir p.dropLast ∧ ¬t.isDir p then .ok
    { nodes := t.nodes.insert p node
      root := by rw [Dict.get?_insert_of_ne _ _ h.1, t.root]
      closed := fun q hq hsome => by
        have hparent : t.nodes.get? q.dropLast = some .dir := by
          by_cases hpq : p = q
          · exact hpq ▸ isDir_iff.mp h.2.1
          · rw [Dict.get?_insert_of_ne _ _ hpq] at hsome
            exact t.closed q hq hsome
        rw [Dict.get?_insert_of_ne, hparent]
        rintro rfl
        exact h.2.2 (isDir_iff.mpr hparent) }
  else if t.isDir p then .error .isDirectory
  else if (t.get? p.dropLast).isNone then .error .missing
  else .error .notDirectory

theorem get?_place {t t' : Tree ν α} {p : List ν} {node : Node α}
    (h : t.place p node = .ok t') (q : List ν) :
    t'.get? q = if p = q then some node else t.get? q := by
  unfold place at h
  split at h
  · obtain rfl := Except.ok.inj h
    exact Dict.get?_insert t.nodes p q node
  · split at h
    · cases h
    · split at h <;> cases h

theorem free_of_place {t t' : Tree ν α} {p : List ν} {node : Node α}
    (h : t.place p node = .ok t') : t.get? p ≠ some .dir := by
  unfold place at h
  split at h
  · next hplace => exact fun hdir => hplace.2.2 (isDir_iff.mpr hdir)
  · split at h
    · cases h
    · split at h <;> cases h

def mkdirsFrom (t : Tree ν α) (base : List ν) :
    List ν → Except Fault (Tree ν α)
  | [] => .ok t
  | name :: rest =>
      match t.get? (base ++ [name]) with
      | some .dir => mkdirsFrom t (base ++ [name]) rest
      | some (.file _) => .error .notDirectory
      | none => do
          let t' ← t.place (base ++ [name]) .dir
          mkdirsFrom t' (base ++ [name]) rest

/-- `path.mkdir(parents=True, exist_ok=True)` -/
def mkdirs (p : List ν) : Except Fault (Tree ν α) := t.mkdirsFrom [] p

theorem dir_above {t : Tree ν α} {p q : List ν} (hpq : q <+: p)
    (hne : q ≠ p) (h : (t.get? p).isSome) : t.get? q = some .dir :=
  dir_of_below (mem_below.mpr ⟨h, hpq, hne⟩)

theorem get?_mkdirsFrom {t t' : Tree ν α} {base rest : List ν}
    (hbase : t.get? base = some .dir) (h : t.mkdirsFrom base rest = .ok t')
    (q : List ν) :
    t'.get? q = if (t.get? q).isNone ∧ q <+: base ++ rest then some .dir
      else t.get? q := by
  induction rest generalizing t base with
  | nil =>
      obtain rfl := Except.ok.inj h
      rw [if_neg]
      rintro ⟨hnone, hpre⟩
      rw [List.append_nil] at hpre
      by_cases hq : q = base
      · rw [hq, hbase] at hnone
        cases hnone
      · rw [dir_above hpre hq (by rw [hbase]; rfl)] at hnone
        cases hnone
  | cons name rest ih =>
      have hpath : base ++ [name] ++ rest = base ++ name :: rest := by simp
      rw [mkdirsFrom] at h
      split at h
      · next hdir => rw [ih hdir h, hpath]
      · cases h
      · next hnone =>
          obtain ⟨t₁, hplace, h⟩ : ∃ t₁, t.place (base ++ [name]) .dir = .ok t₁ ∧
              t₁.mkdirsFrom (base ++ [name]) rest = .ok t' := by
            cases hplace : t.place (base ++ [name]) .dir with
            | error fault =>
                rw [hplace] at h
                cases h
            | ok t₁ =>
                rw [hplace] at h
                exact ⟨t₁, rfl, h⟩
          have hplaced := get?_place hplace
          rw [ih (by rw [hplaced, if_pos rfl]) h, hpath, hplaced]
          by_cases hq : base ++ [name] = q
          · subst hq
            have hpre : base ++ [name] <+: base ++ name :: rest :=
              ⟨rest, by simp⟩
            simp [hnone, hpre]
          · simp [hq]

theorem get?_mkdirs {t t' : Tree ν α} {p : List ν} (h : t.mkdirs p = .ok t')
    (q : List ν) :
    t'.get? q =
      if (t.get? q).isNone ∧ q <+: p then some .dir else t.get? q := by
  have hmkdirs := get?_mkdirsFrom t.root h q
  rwa [List.nil_append] at hmkdirs

/-! ## Paths in order -/

theorem bounded (t : Tree ν α) :
    ∃ bound, ∀ p, (t.get? p).isSome → p.length ≤ bound := by
  have hkeys : ∀ keys : List (List ν), ∃ bound, ∀ p ∈ keys, p.length ≤ bound := by
    intro keys
    induction keys with
    | nil => exact ⟨0, by simp⟩
    | cons key keys ih =>
        obtain ⟨bound, hbound⟩ := ih
        refine ⟨max key.length bound, List.forall_mem_cons.mpr
          ⟨le_max_left _ _, fun p hp => (hbound p hp).trans (le_max_right _ _)⟩⟩
  obtain ⟨bound, hbound⟩ := hkeys (t.nodes.entries.map Prod.fst)
  exact ⟨bound, fun p hp => hbound p (Dict.get?_isSome_iff.mp hp)⟩

theorem lt_below {p q : List ν} (hpq : p <+: q) (hne : p ≠ q) : p < q := by
  obtain ⟨r, rfl⟩ := hpq
  cases r with
  | nil => simp at hne
  | cons name r =>
      have hlex : List.Lex (· < ·) (p ++ []) (p ++ name :: r) :=
        List.Lex.append_left _ List.Lex.nil p
      rwa [List.append_nil] at hlex

end Tree

end

end FileSystem
