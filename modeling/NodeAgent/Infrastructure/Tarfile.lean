import NodeAgent.Foundation.FileTree
import NodeAgent.Infrastructure.HostPath
import Mathlib.Data.String.Basic

/-!
# Extracting one member of an archive

The path of a member is not resolved.  Every missing directory on the way is made
where the way passes, also where it climbs back with `..`, and the member itself
at the end.  What stands where afterwards is a function of what stood where.
-/

namespace NodeAgent

open FileSystem

abbrev HostTree (α : Type) := Tree Name α

/-- A piece of a path as it is written; `none` is the dot. -/
abbrev Piece := Option PathPart

namespace Tarfile

variable {α : Type}

def onward (piece : Piece) (here : List Name) : List Name :=
  match piece with
  | none => here
  | some part => RawPath.follow here part

/-- Where a way leads that is given from its last piece to its first. -/
def place (start : List Name) (way : List Piece) : List Name :=
  way.foldr onward start

def pieces (name : String) : List Piece :=
  (((name.toList.splitOn '/').filter (· ≠ [])).map PathPart.ofChars).reverse

def wayTo (name : String) : List Piece := (pieces name).tail

/-- An absolute name is not taken from the directory of the extraction. -/
def startOf (root : List Name) (name : String) : List Name :=
  if (RawPath.parse name).absolute then [] else root

/-! ## The calls of the operating system -/

abbrev View (α : Type) := List Name → Option (Node α)

def isDirectory : Option (Node α) → Bool
  | some .dir => true
  | _ => false

def dirsTo (look : View α) (start : List Name) : List Piece → Bool
  | [] => isDirectory (look start)
  | piece :: above =>
      dirsTo look start above && isDirectory (look (place start (piece :: above)))

/-- `os.path.exists` -/
def found (look : View α) (start : List Name) : List Piece → Bool
  | [] => (look start).isSome
  | piece :: above =>
      dirsTo look start above && (look (place start (piece :: above))).isSome

def inDirectory (t : HostTree α) (here : List Name)
    (result : HostTree α × Option Fault) : HostTree α × Option Fault :=
  match t.get? here with
  | none => (t, some .missing)
  | some (.file _) => (t, some .notDirectory)
  | some .dir => result

def placed (t : HostTree α) (target : List Name) (node : Node α) :
    HostTree α × Option Fault :=
  match t.place target node with
  | .ok t' => (t', none)
  | .error fault => (t, some fault)

/-- `os.mkdir` -/
def mkdir (t : HostTree α) (here : List Name) (piece : Piece) :
    HostTree α × Option Fault :=
  inDirectory t here <|
    if (t.get? (onward piece here)).isSome then (t, some .present)
    else placed t (onward piece here) .dir

/-- `FileExistsError` is the one failure that `os.makedirs` passes over. -/
def passes : Option Fault → Bool
  | none | some .present => true
  | _ => false

/-- `os.makedirs` -/
def makedirs (t : HostTree α) (start : List Name) :
    List Piece → HostTree α × Option Fault
  | [] => (t, none)
  | piece :: above =>
      if found t.get? start above then mkdir t (place start above) piece
      else
        let made := makedirs t start above
        if !passes made.2 then made
        -- `a/.` is there with `a`
        else if piece.isNone then (made.1, none)
        else mkdir made.1 (place start above) piece

def makeUppers (t : HostTree α) (start : List Name) (above : List Piece) :
    HostTree α × Option Fault :=
  if found t.get? start above then (t, none) else makedirs t start above

/-- `makedir` or `makefile`: a directory may be there already, a file is
overwritten. -/
def setDown (t : HostTree α) (target : List Name) :
    Node α → HostTree α × Option Fault
  | .file content => placed t target (.file content)
  | .dir =>
      match t.get? target with
      | none => placed t target .dir
      | some .dir => (t, none)
      | some (.file _) => (t, some .present)

def makeMember (t : HostTree α) (here : List Name) (piece : Piece)
    (node : Node α) : HostTree α × Option Fault :=
  inDirectory t here (setDown t (onward piece here) node)

/-- The member, when its upper directories are made. -/
def extractTo (t : HostTree α) (start : List Name) (above : List Piece)
    (piece : Piece) (node : Node α) : HostTree α × Option Fault :=
  let uppers := makeUppers t start above
  match uppers.2 with
  | some fault => (uppers.1, some fault)
  | none => makeMember uppers.1 (place start above) piece node

def extractMember (t : HostTree α) (root : List Name) (name : String)
    (node : Node α) : HostTree α × Option Fault :=
  match pieces name with
  | [] =>
      if (RawPath.parse name).absolute then (t, some .missing)
      else makeMember t root none node
  | piece :: above => extractTo t (startOf root name) above piece node

inductive Halt (α : Type) where
  /-- So many pieces of the way are not gone. -/
  | above (left : Nat)
  /-- This is left in the member's place. -/
  | leaving (node : Node α)

def halted (t : HostTree α) (root : List Name) (name : String) :
    Halt α → HostTree α
  | .above left =>
      (makeUppers t (startOf root name) ((wayTo name).drop left)).1
  | .leaving node => (extractMember t root name node).1

/-! ## What stands where afterwards -/

def isClear : Option (Node α) → Bool
  | some (.file _) => false
  | _ => true

/-- The way begins in a directory, and no file stands on it. -/
def passable (look : View α) (start : List Name) : List Piece → Bool
  | [] => isDirectory (look start)
  | piece :: above =>
      passable look start above && isClear (look (place start (piece :: above)))

/-- A directory on the way that is missing when the way comes to it. -/
def made (look : View α) (start : List Name) : List Piece → List Name → Bool
  | [], _ => false
  | piece :: above, q =>
      made look start above q ||
        (passable look start (piece :: above) &&
          q = place start (piece :: above) && (look q).isNone)

def passed (look : View α) (start : List Name) (way : List Piece) : View α :=
  fun q => if made look start way q then some .dir else look q

/-- A directory is missing on the way, and its last one is there in the end. -/
def doubled (look : View α) (start : List Name) : List Piece → Bool
  | some part :: above =>
      !found look start (some part :: above) &&
        (passed look start above (place start (some part :: above))).isSome
  | _ => false

def clashes : Node α → Option (Node α) → Bool
  | .dir, some (.file _) => true
  | .file _, some .dir => true
  | _, _ => false

def placeOf (root : List Name) (name : String) : List Name :=
  place (startOf root name) (pieces name)

def blocked (look : View α) (root : List Name) (name : String)
    (node : Node α) : Bool :=
  ((pieces name).isEmpty && (RawPath.parse name).absolute) ||
    !passable look (startOf root name) (wayTo name) ||
    doubled look (startOf root name) (wayTo name) ||
    clashes node (passed look (startOf root name) (wayTo name)
      (placeOf root name))

/-- What stands where when the member is in its place. -/
def put (look : View α) (root : List Name) (name : String) (node : Node α) :
    View α :=
  fun q => if q = placeOf root name then some node
    else passed look (startOf root name) (wayTo name) q

def after (look : View α) (root : List Name) (name : String)
    (node : Node α) : View α :=
  if blocked look root name node then passed look (startOf root name) (wayTo name)
  else put look root name node

def haltedAfter (look : View α) (root : List Name) (name : String) :
    Halt α → View α
  | .above left => passed look (startOf root name) ((wayTo name).drop left)
  | .leaving node => after look root name node

section Way

variable {look : View α} {start : List Name} {way : List Piece} {q : List Name}

theorem isDirectory_iff {node : Option (Node α)} :
    isDirectory node = true ↔ node = some .dir := by
  unfold isDirectory
  split <;> simp_all

theorem isClear_of_none {node : Option (Node α)} (h : node = none) :
    isClear node = true := by
  rw [h]
  rfl

theorem isClear_of_dir {node : Option (Node α)} (h : node = some .dir) :
    isClear node = true := by
  rw [h]
  rfl

theorem look_of_clear {node : Option (Node α)} (h : isClear node = true) :
    node = none ∨ node = some .dir := by
  unfold isClear at h
  split at h
  · cases h
  · next hfile =>
      cases node with
      | none => exact .inl rfl
      | some node =>
          cases node with
          | dir => exact .inr rfl
          | file content => exact absurd rfl (hfile content)

theorem isNone_of_made (h : made look start way q = true) : look q = none := by
  induction way with
  | nil => cases h
  | cons piece above ih =>
      simp only [made, Bool.or_eq_true, Bool.and_eq_true,
        Option.isNone_iff_eq_none] at h
      exact h.elim ih fun h => h.2

theorem passed_of_not_made (h : made look start way q = false) :
    passed look start way q = look q := by
  rw [passed, h]
  rfl

theorem passed_of_some {node : Node α} (h : look q = some node) :
    passed look start way q = some node := by
  rw [passed_of_not_made, h]
  refine Bool.eq_false_iff.mpr fun hmade => ?_
  rw [isNone_of_made hmade] at h
  cases h

theorem passable_clear (h : passable look start way = true) :
    isClear (look (place start way)) = true := by
  cases way with
  | nil => exact isClear_of_dir (isDirectory_iff.mp h)
  | cons piece above => exact (Bool.and_eq_true_iff.mp h).2

theorem passed_place (h : passable look start way = true) :
    passed look start way (place start way) = some .dir := by
  rcases look_of_clear (passable_clear h) with hnone | hdir
  · cases way with
    | nil =>
        have hdir : look start = some .dir := isDirectory_iff.mp h
        exact absurd (hnone.symm.trans hdir) (Option.some_ne_none _).symm
    | cons piece above =>
        rw [passed, if_pos]
        simp [made, h, hnone]
  · unfold passed
    split
    · rfl
    · exact hdir

theorem dirsTo_iff : dirsTo look start way = true ↔
    passable look start way = true ∧ ∀ q, made look start way q = false := by
  induction way with
  | nil => simp [dirsTo, passable, made]
  | cons piece above ih =>
      simp only [dirsTo, Bool.and_eq_true, ih, passable, made,
        Bool.or_eq_false_iff, isDirectory_iff]
      constructor
      · rintro ⟨⟨hpassable, hmade⟩, hdir⟩
        refine ⟨⟨hpassable, isClear_of_dir hdir⟩, fun q => ⟨hmade q, ?_⟩⟩
        by_cases hq : q = place start (piece :: above) <;> simp [hq, hdir]
      · rintro ⟨⟨hpassable, hclear⟩, hmade⟩
        refine ⟨⟨hpassable, fun q => (hmade q).1⟩, ?_⟩
        refine (look_of_clear hclear).resolve_left fun hnone => ?_
        have hlast := (hmade (place start (piece :: above))).2
        rw [hpassable, hclear, hnone] at hlast
        simp at hlast

theorem made_of_found (h : found look start way = true) (q : List Name) :
    made look start way q = false := by
  cases way with
  | nil => rfl
  | cons piece above =>
      obtain ⟨hdirs, hsome⟩ := Bool.and_eq_true_iff.mp h
      rw [made, (dirsTo_iff.mp hdirs).2 q, Bool.false_or]
      by_cases hq : q = place start (piece :: above)
      · subst hq
        have hnone : (look (place start (piece :: above))).isNone = false := by
          simpa [Option.isSome_iff_ne_none] using hsome
        simp [hnone]
      · simp [hq]

theorem passable_of_found (h : found look start way = true) :
    passable look start way = true ↔ look (place start way) = some .dir := by
  refine ⟨fun hpassable => ?_, fun hdir => ?_⟩
  · rw [← passed_of_not_made (made_of_found h _)]
    exact passed_place hpassable
  · cases way with
    | nil => exact isDirectory_iff.mpr hdir
    | cons piece above =>
        obtain ⟨hdirs, -⟩ := Bool.and_eq_true_iff.mp h
        exact Bool.and_eq_true_iff.mpr
          ⟨(dirsTo_iff.mp hdirs).1, isClear_of_dir hdir⟩

theorem passable_dot (h : passable look start way = true) :
    passable look start (none :: way) = true := by
  have hclear : isClear (look (place start way)) = true := passable_clear h
  rw [passable, h]
  exact hclear

theorem passed_dot (h : passable look start way = true) :
    passed look start (none :: way) = passed look start way := by
  funext q
  have hdot := passable_dot h
  by_cases hq : q = place start way
  · subst hq
    rw [passed_place h]
    exact passed_place hdot
  · have hne : q ≠ place start (none :: way) := hq
    simp [passed, made, hne]

theorem passed_of_isSome {piece : Piece}
    (h : (passed look start way (place start (piece :: way))).isSome) :
    passed look start (piece :: way) = passed look start way := by
  funext q
  by_cases hq : q = place start (piece :: way)
  · subst hq
    cases hmade : made look start way (place start (piece :: way)) with
    | true => simp [passed, made, hmade]
    | false =>
        rw [passed_of_not_made hmade] at h ⊢
        refine passed_of_not_made ?_
        simp [made, hmade, Option.isNone_eq_false_iff.mpr h]
  · simp [passed, made, hq]

theorem passed_file (h : isClear (look q) = false) :
    passed look start way q = look q := by
  refine passed_of_not_made (Bool.eq_false_iff.mpr fun hmade => ?_)
  rw [isClear_of_none (isNone_of_made hmade)] at h
  cases h

theorem passed_of_not_passable {piece : Piece}
    (h : passable look start (piece :: way) = false) :
    passed look start (piece :: way) = passed look start way := by
  funext q
  simp [passed, made, h]

end Way

/-! ## The calls make what is missing on the way -/

section Calls

variable {t : HostTree α} {start here : List Name} {piece : Piece}
variable {node : Node α}

theorem inDirectory_dir (h : t.get? here = some .dir)
    (result : HostTree α × Option Fault) :
    inDirectory t here result = result := by
  rw [inDirectory, h]

theorem inDirectory_fails (h : t.get? here ≠ some .dir)
    (result : HostTree α × Option Fault) :
    (inDirectory t here result).1 = t ∧
      passes (inDirectory t here result).2 = false := by
  unfold inDirectory
  split
  · exact ⟨rfl, rfl⟩
  · exact ⟨rfl, rfl⟩
  · next hdir => exact absurd hdir h

theorem onward_dropLast (h : t.get? here = some .dir)
    (hfree : t.get? (onward piece here) ≠ some .dir) :
    onward piece here ≠ [] ∧ (onward piece here).dropLast = here := by
  cases piece with
  | none => exact absurd h hfree
  | some part =>
      cases part with
      | down name => simp [onward, RawPath.follow]
      | up =>
          refine absurd ?_ hfree
          show t.get? here.dropLast = some .dir
          by_cases hroot : here = []
          · rw [hroot]
            exact t.root
          · have hsome : (t.get? here).isSome = true := by
              rw [h]
              rfl
            exact t.closed here hroot hsome

theorem placed_below (h : t.get? here = some .dir)
    (hfree : t.get? (onward piece here) ≠ some .dir) :
    (placed t (onward piece here) node).2 = none ∧
      ∀ q, (placed t (onward piece here) node).1.get? q =
        if onward piece here = q then some node else t.get? q := by
  obtain ⟨hne, hlast⟩ := onward_dropLast h hfree
  have hplace : ∃ t', t.place (onward piece here) node = .ok t' := by
    unfold Tree.place
    rw [dif_pos ⟨hne, by rw [hlast]; exact Tree.isDir_iff.mpr h,
      fun hdir => hfree (Tree.isDir_iff.mp hdir)⟩]
    exact ⟨_, rfl⟩
  obtain ⟨t', ht'⟩ := hplace
  rw [placed, ht']
  exact ⟨rfl, Tree.get?_place ht'⟩

theorem placed_dir (h : t.get? here = some .dir) :
    (placed t here node).1 = t ∧ (placed t here node).2 ≠ none := by
  unfold placed
  split
  · next hplace => exact absurd h (Tree.free_of_place hplace)
  · exact ⟨rfl, Option.some_ne_none _⟩

theorem mkdir_missing (h : t.get? here = some .dir)
    (hnone : t.get? (onward piece here) = none) :
    (mkdir t here piece).2 = none ∧
      ∀ q, (mkdir t here piece).1.get? q =
        if onward piece here = q then some .dir else t.get? q := by
  rw [mkdir, inDirectory_dir h, hnone]
  exact placed_below h (by rw [hnone]; exact (Option.some_ne_none _).symm)

theorem mkdir_present (h : t.get? here = some .dir)
    (hsome : (t.get? (onward piece here)).isSome) :
    mkdir t here piece = (t, some .present) := by
  rw [mkdir, inDirectory_dir h, if_pos hsome]

/-- What `os.makedirs` does on a way that is not there to its end. -/
structure MakesWay (t : HostTree α) (start : List Name) (way : List Piece) :
    Prop where
  get? : ∀ q, (makedirs t start way).1.get? q = passed t.get? start way q
  fault : passable t.get? start way = true → (makedirs t start way).2 =
    if doubled t.get? start way then some .present else none
  stuck : passable t.get? start way = false →
    passes (makedirs t start way).2 = false ∨
      (makedirs t start way).1.get? (place start way) ≠ some .dir

theorem makesWay_of_found {above : List Piece}
    (habove : found t.get? start above = true)
    (hmissing : found t.get? start (piece :: above) = false) :
    MakesWay t start (piece :: above) := by
  have hunmade := made_of_found habove
  have hmkdir : makedirs t start (piece :: above) =
      mkdir t (place start above) piece := by
    rw [makedirs, if_pos habove]
  by_cases hdir : t.get? (place start above) = some .dir
  · have hpassable := (passable_of_found habove).mpr hdir
    have hnone : t.get? (place start (piece :: above)) = none := by
      have hdirs := dirsTo_iff.mpr ⟨hpassable, hunmade⟩
      simpa [found, hdirs] using hmissing
    have hwhole : passable t.get? start (piece :: above) = true := by
      simp only [passable, hpassable, Bool.true_and]
      exact isClear_of_none hnone
    obtain ⟨hfault, hget⟩ := mkdir_missing hdir hnone
    refine ⟨fun q => ?_, fun _ => ?_, fun h => ?_⟩
    · rw [hmkdir, hget]
      by_cases hq : onward piece (place start above) = q
      · subst hq
        rw [if_pos rfl]
        exact (passed_place hwhole).symm
      · rw [if_neg hq, passed_of_not_made]
        have hne : q ≠ place start (piece :: above) := fun h => hq h.symm
        simp [made, hunmade, hne]
    · have hdoubled : doubled t.get? start (piece :: above) = false := by
        cases piece with
        | none => rfl
        | some part =>
            rw [doubled, passed_of_not_made (hunmade _), hnone]
            simp
      rw [hmkdir, hfault, hdoubled]
      rfl
    · rw [hwhole] at h
      cases h
  · have hnot : passable t.get? start (piece :: above) = false := by
      simp only [passable, Bool.and_eq_false_iff]
      exact .inl (Bool.eq_false_iff.mpr fun h =>
        hdir ((passable_of_found habove).mp h))
    obtain ⟨hsame, hfails⟩ := inDirectory_fails hdir
      (if (t.get? (onward piece (place start above))).isSome then
        (t, some .present) else placed t (onward piece (place start above)) .dir)
    refine ⟨fun q => ?_, fun h => ?_, fun _ => .inl (hmkdir ▸ hfails)⟩
    · rw [hmkdir, show (mkdir t (place start above) piece).1 = t from hsame,
        passed_of_not_passable hnot, passed_of_not_made (hunmade q)]
    · rw [hnot] at h
      cases h

theorem makesWay_dot {above : List Piece}
    (habove : found t.get? start above = false)
    (hpasses : passes (makedirs t start above).2 = true)
    (h : MakesWay t start above) : MakesWay t start (none :: above) := by
  have hmade : makedirs t start (none :: above) =
      ((makedirs t start above).1, none) := by
    simp [makedirs, habove, hpasses]
  cases hpassable : passable t.get? start above with
  | true =>
      have hwhole := passable_dot hpassable
      refine ⟨fun q => ?_, fun _ => ?_, fun h => ?_⟩
      · rw [hmade, passed_dot hpassable, h.get?]
      · rw [hmade]
        rfl
      · rw [hwhole] at h
        cases h
  | false =>
      have hwhole : passable t.get? start (none :: above) = false := by
        rw [passable, hpassable, Bool.false_and]
      refine ⟨fun q => ?_, fun h => ?_, fun _ => .inr ?_⟩
      · rw [hmade, passed_of_not_passable hwhole, h.get?]
      · rw [hwhole] at h
        cases h
      · rw [hmade]
        refine (h.stuck hpassable).resolve_left ?_
        rw [hpasses]
        exact Bool.noConfusion

section Last

variable {part : PathPart} {above : List Piece}
variable (hmade : makedirs t start (some part :: above) =
  mkdir (makedirs t start above).1 (place start above) (some part))
variable (h : MakesWay t start above)
include hmade h

theorem makesWay_new (hpassable : passable t.get? start above = true)
    (hfree : passed t.get? start above (place start (some part :: above)) =
      none) : MakesWay t start (some part :: above) := by
  have hdir : (makedirs t start above).1.get? (place start above) =
      some .dir := by
    rw [h.get?, passed_place hpassable]
  have hnone : (makedirs t start above).1.get?
      (onward (some part) (place start above)) = none :=
    (h.get? _).trans hfree
  have hlook : t.get? (place start (some part :: above)) = none := by
    unfold passed at hfree
    split at hfree
    · cases hfree
    · exact hfree
  have hwhole : passable t.get? start (some part :: above) = true := by
    rw [passable, hpassable]
    exact isClear_of_none hlook
  obtain ⟨hfault, hget⟩ := mkdir_missing hdir hnone
  refine ⟨fun q => ?_, fun _ => ?_, fun h => ?_⟩
  · rw [hmade, hget, h.get?]
    by_cases hq : onward (some part) (place start above) = q
    · subst hq
      rw [if_pos rfl]
      exact (passed_place hwhole).symm
    · have hne : q ≠ place start (some part :: above) := fun h => hq h.symm
      rw [if_neg hq]
      simp [passed, made, hne]
  · rw [hmade, hfault, doubled, hfree]
    simp
  · rw [hwhole] at h
    cases h

theorem makesWay_there
    (hmissing : found t.get? start (some part :: above) = false)
    (hpassable : passable t.get? start above = true)
    (hsome : (passed t.get? start above
      (place start (some part :: above))).isSome) :
    MakesWay t start (some part :: above) := by
  have hdir : (makedirs t start above).1.get? (place start above) =
      some .dir := by
    rw [h.get?, passed_place hpassable]
  have hlast := h.get? (place start (some part :: above))
  have hthere : ((makedirs t start above).1.get?
      (onward (some part) (place start above))).isSome :=
    (congrArg Option.isSome hlast).trans hsome
  have hpresent := mkdir_present hdir hthere
  refine ⟨fun q => ?_, fun _ => ?_, fun hwhole => ?_⟩
  · rw [hmade, hpresent, h.get?, passed_of_isSome hsome]
  · rw [hmade, hpresent, doubled, hmissing, hsome]
    rfl
  · rw [passable, hpassable, Bool.true_and] at hwhole
    refine .inr fun hin => ?_
    rw [hmade, hpresent, hlast, passed_file hwhole] at hin
    rw [isClear_of_dir hin] at hwhole
    cases hwhole

theorem makesWay_stuck (hpasses : passes (makedirs t start above).2 = true)
    (hpassable : passable t.get? start above = false) :
    MakesWay t start (some part :: above) := by
  have hwhole : passable t.get? start (some part :: above) = false := by
    rw [passable, hpassable, Bool.false_and]
  have hdir : (makedirs t start above).1.get? (place start above) ≠
      some .dir := by
    refine (h.stuck hpassable).resolve_left ?_
    rw [hpasses]
    exact Bool.noConfusion
  have hfails := inDirectory_fails hdir
    (if ((makedirs t start above).1.get?
        (onward (some part) (place start above))).isSome then
      ((makedirs t start above).1, some .present)
    else placed (makedirs t start above).1
      (onward (some part) (place start above)) .dir)
  refine ⟨fun q => ?_, fun h => ?_, fun _ => .inl (hmade ▸ hfails.2)⟩
  · rw [hmade, passed_of_not_passable hwhole, ← h.get?]
    exact congrArg (·.get? q) hfails.1
  · rw [hwhole] at h
    cases h

end Last

theorem makesWay_last {part : PathPart} {above : List Piece}
    (habove : found t.get? start above = false)
    (hmissing : found t.get? start (some part :: above) = false)
    (hpasses : passes (makedirs t start above).2 = true)
    (h : MakesWay t start above) : MakesWay t start (some part :: above) := by
  have hmade : makedirs t start (some part :: above) =
      mkdir (makedirs t start above).1 (place start above) (some part) := by
    simp [makedirs, habove, hpasses]
  cases hpassable : passable t.get? start above with
  | true =>
      cases hsome : (passed t.get? start above
          (place start (some part :: above))).isSome with
      | false =>
          exact makesWay_new hmade h hpassable
            (Option.not_isSome_iff_eq_none.mp (by simp [hsome]))
      | true => exact makesWay_there hmade h hmissing hpassable hsome
  | false => exact makesWay_stuck hmade h hpasses hpassable

theorem makesWay_of_missing {above : List Piece}
    (habove : found t.get? start above = false)
    (hmissing : found t.get? start (piece :: above) = false)
    (h : MakesWay t start above) : MakesWay t start (piece :: above) := by
  cases hpasses : passes (makedirs t start above).2 with
  | false =>
      have hmade : makedirs t start (piece :: above) = makedirs t start above := by
        simp [makedirs, habove, hpasses]
      have hnot : passable t.get? start above = false := by
        refine Bool.eq_false_iff.mpr fun hpassable => ?_
        rw [h.fault hpassable] at hpasses
        split at hpasses <;> cases hpasses
      have hwhole : passable t.get? start (piece :: above) = false := by
        rw [passable, hnot, Bool.false_and]
      refine ⟨fun q => ?_, fun h => ?_, fun _ => .inl ?_⟩
      · rw [hmade, passed_of_not_passable hwhole, h.get?]
      · rw [hwhole] at h
        cases h
      · rw [hmade, hpasses]
  | true =>
      cases piece with
      | none => exact makesWay_dot habove hpasses h
      | some part => exact makesWay_last habove hmissing hpasses h

theorem makedirs_makesWay {way : List Piece}
    (hmissing : found t.get? start way = false) : MakesWay t start way := by
  induction way with
  | nil =>
      have hnone : t.get? start = none := by
        simpa [found] using hmissing
      have hstuck : passable t.get? start [] = false := by
        simp [passable, hnone, isDirectory]
      refine ⟨fun _ => rfl, fun h => ?_, fun _ => .inr ?_⟩
      · rw [hstuck] at h
        cases h
      · rw [show (makedirs t start []).1 = t from rfl]
        exact hnone ▸ (Option.some_ne_none _).symm
  | cons piece above ih =>
      by_cases habove : found t.get? start above = true
      · exact makesWay_of_found habove hmissing
      · exact makesWay_of_missing (by simpa using habove) hmissing
          (ih (by simpa using habove))

theorem makeUppers_get? {above : List Piece} (q : List Name) :
    (makeUppers t start above).1.get? q = passed t.get? start above q := by
  unfold makeUppers
  split
  · next hfound => exact (passed_of_not_made (made_of_found hfound q)).symm
  · next hmissing => exact (makedirs_makesWay (by simpa using hmissing)).get? q

theorem makeUppers_ready {above : List Piece} :
    ((makeUppers t start above).2 = none ∧
        (makeUppers t start above).1.get? (place start above) = some .dir) ↔
      passable t.get? start above = true ∧
        doubled t.get? start above = false := by
  unfold makeUppers
  split
  · next hfound =>
      have hdoubled : doubled t.get? start above = false := by
        unfold doubled
        split
        · rw [hfound]
          rfl
        · rfl
      simp [hdoubled, passable_of_found hfound]
  · next hmissing =>
      have h := makedirs_makesWay (Bool.eq_false_iff.mpr hmissing)
      cases hpassable : passable t.get? start above with
      | true =>
          rw [h.fault hpassable, h.get?, passed_place hpassable]
          cases doubled t.get? start above <;> simp
      | false =>
          simp only [Bool.false_eq_true, false_and, iff_false, not_and]
          intro hfault
          refine (h.stuck hpassable).resolve_left ?_
          rw [hfault]
          exact Bool.noConfusion

theorem makeMember_placed (h : t.get? here = some .dir)
    (hclear : clashes node (t.get? (onward piece here)) = false) :
    (makeMember t here piece node).2 = none ∧
      ∀ q, (makeMember t here piece node).1.get? q =
        if q = onward piece here then some node else t.get? q := by
  have hplaced (hfree : t.get? (onward piece here) ≠ some .dir) :
      (placed t (onward piece here) node).2 = none ∧
        ∀ q, (placed t (onward piece here) node).1.get? q =
          if q = onward piece here then some node else t.get? q := by
    obtain ⟨hfault, hget⟩ := @placed_below α t here piece node h hfree
    exact ⟨hfault, fun q => by rw [hget]; simp only [eq_comm]⟩
  rw [makeMember, inDirectory_dir h]
  cases hat : t.get? (onward piece here) with
  | none =>
      have hfree := hplaced (hat ▸ (Option.some_ne_none _).symm)
      cases node with
      | dir =>
          rw [setDown, hat]
          exact hfree
      | file content => exact hfree
  | some there =>
      rw [hat] at hclear
      cases there with
      | dir =>
          cases node with
          | dir =>
              rw [setDown, hat]
              refine ⟨rfl, fun q => ?_⟩
              by_cases hq : q = onward piece here
              · rw [if_pos hq, hq, hat]
              · rw [if_neg hq]
          | file content => cases hclear
      | file old =>
          cases node with
          | dir => cases hclear
          | file content => exact hplaced (by simp [hat])

theorem makeMember_fails (h : t.get? here ≠ some .dir ∨
      clashes node (t.get? (onward piece here)) = true) :
    (makeMember t here piece node).1 = t ∧
      (makeMember t here piece node).2 ≠ none := by
  by_cases hdir : t.get? here = some .dir
  · have hclash := h.resolve_left (absurd hdir)
    rw [makeMember, inDirectory_dir hdir]
    cases hat : t.get? (onward piece here) with
    | none =>
        rw [hat] at hclash
        cases node <;> cases hclash
    | some there =>
        rw [hat] at hclash
        cases there with
        | dir =>
            cases node with
            | dir => cases hclash
            | file content => exact placed_dir hat
        | file content =>
            cases node with
            | dir =>
                rw [setDown, hat]
                exact ⟨rfl, Option.some_ne_none _⟩
            | file content => cases hclash
  · obtain ⟨hsame, hfails⟩ :=
      inDirectory_fails hdir (setDown t (onward piece here) node)
    refine ⟨hsame, fun hnone => ?_⟩
    rw [makeMember] at hnone
    rw [hnone] at hfails
    cases hfails

/-- The way can be gone and the member put at its end. -/
def fits (look : View α) (start : List Name) (above : List Piece)
    (piece : Piece) (node : Node α) : Bool :=
  passable look start above && !doubled look start above &&
    !clashes node (passed look start above (place start (piece :: above)))

theorem extractTo_placed {above : List Piece}
    (h : fits t.get? start above piece node = true) :
    (extractTo t start above piece node).2 = none ∧
      ∀ q, (extractTo t start above piece node).1.get? q =
        if q = place start (piece :: above) then some node
        else passed t.get? start above q := by
  simp only [fits, Bool.and_eq_true, Bool.not_eq_true'] at h
  obtain ⟨⟨hpassable, hdoubled⟩, hclear⟩ := h
  obtain ⟨hfault, hdir⟩ := makeUppers_ready.mpr ⟨hpassable, hdoubled⟩
  rw [← makeUppers_get?] at hclear
  obtain ⟨hdone, hget⟩ := makeMember_placed hdir hclear
  simp only [extractTo, hfault]
  refine ⟨hdone, fun q => ?_⟩
  rw [hget, makeUppers_get?]
  rfl

theorem extractTo_fails {above : List Piece}
    (h : fits t.get? start above piece node = false) :
    (extractTo t start above piece node).2 ≠ none ∧
      ∀ q, (extractTo t start above piece node).1.get? q =
        passed t.get? start above q := by
  cases hfault : (makeUppers t start above).2 with
  | some fault =>
      simp only [extractTo, hfault]
      exact ⟨Option.some_ne_none _, makeUppers_get?⟩
  | none =>
      obtain ⟨hsame, hfails⟩ : (makeMember (makeUppers t start above).1
            (place start above) piece node).1 = (makeUppers t start above).1 ∧
          (makeMember (makeUppers t start above).1 (place start above) piece
            node).2 ≠ none := by
        refine makeMember_fails (or_iff_not_imp_left.mpr fun hdir => ?_)
        obtain ⟨hpassable, hdoubled⟩ :=
          makeUppers_ready.mp ⟨hfault, not_not.mp hdir⟩
        rw [makeUppers_get?]
        have hclash : clashes node (passed t.get? start above
            (place start (piece :: above))) = true := by
          simpa [fits, hpassable, hdoubled] using h
        exact hclash
      simp only [extractTo, hfault]
      exact ⟨hfails, fun q => by rw [hsame, makeUppers_get?]⟩

end Calls

/-! ## One member -/

section Member

variable {t : HostTree α} {root : List Name} {name : String} {node : Node α}

theorem extractTo_here (t : HostTree α) (root : List Name) (node : Node α) :
    extractTo t root [] none node = makeMember t root none node := by
  have huppers : makeUppers t root [] = (t, none) := by
    unfold makeUppers
    split <;> rfl
  simp only [extractTo, huppers]
  rfl

theorem extractMember_cases (t : HostTree α) (root : List Name) (name : String)
    (node : Node α) :
    (extractMember t root name node = (t, some .missing) ∧ wayTo name = [] ∧
        blocked t.get? root name node = true) ∨
      ∃ piece,
        placeOf root name = place (startOf root name) (piece :: wayTo name) ∧
        extractMember t root name node =
          extractTo t (startOf root name) (wayTo name) piece node ∧
        blocked t.get? root name node =
          !fits t.get? (startOf root name) (wayTo name) piece node := by
  cases hpieces : pieces name with
  | nil =>
      cases habsolute : (RawPath.parse name).absolute with
      | true =>
          refine .inl ?_
          simp [extractMember, wayTo, blocked, hpieces, habsolute]
      | false =>
          have hstart : startOf root name = root := by
            simp [startOf, habsolute]
          refine .inr ⟨none, ?_, ?_, ?_⟩
          · simp [placeOf, wayTo, hpieces, hstart, place, onward]
          · simp [extractMember, wayTo, hpieces, habsolute, hstart,
              extractTo_here]
          · simp [blocked, fits, placeOf, wayTo, hpieces, habsolute, hstart,
              place, onward]
  | cons piece above =>
      refine .inr ⟨piece, ?_, ?_, ?_⟩
      · simp [placeOf, wayTo, hpieces]
      · simp [extractMember, wayTo, hpieces]
      · simp [blocked, fits, placeOf, wayTo, hpieces]

theorem extractMember_after (t : HostTree α) (root : List Name) (name : String)
    (node : Node α) :
    ((extractMember t root name node).2 = none ↔
        blocked t.get? root name node = false) ∧
      (extractMember t root name node).1.get? =
        after t.get? root name node := by
  unfold after
  rcases extractMember_cases t root name node with
    ⟨hextract, hway, hblocked⟩ | ⟨piece, hplace, hextract, hblocked⟩
  · rw [hextract, hblocked, hway]
    exact ⟨by simp, rfl⟩
  · rw [hextract, hblocked]
    cases hfits : fits t.get? (startOf root name) (wayTo name) piece node with
    | true =>
        obtain ⟨hdone, hget⟩ := extractTo_placed hfits
        refine ⟨by simp [hdone], funext fun q => ?_⟩
        rw [hget, ← hplace]
        rfl
    | false =>
        obtain ⟨hfails, hget⟩ := extractTo_fails hfits
        exact ⟨by simp [hfails], funext hget⟩

theorem halted_get? (t : HostTree α) (root : List Name) (name : String)
    (halt : Halt α) :
    (halted t root name halt).get? = haltedAfter t.get? root name halt := by
  cases halt with
  | above left => exact funext makeUppers_get?
  | leaving node => exact (extractMember_after t root name node).2

theorem foldl_onward (texts : List (List Char)) (start : List Name) :
    (texts.filter (· ≠ [])).foldl
        (fun here text => onward (PathPart.ofChars text) here) start =
      (texts.filterMap PathPart.ofChars).foldl RawPath.follow start := by
  induction texts generalizing start with
  | nil => rfl
  | cons text texts ih =>
      by_cases hempty : text = []
      · have hnone : PathPart.ofChars [] = none := rfl
        simpa [hempty, hnone] using ih start
      · cases hpart : PathPart.ofChars text with
        | none => simpa [hempty, hpart, onward] using ih start
        | some part =>
            simpa [hempty, hpart, onward] using ih (RawPath.follow start part)

theorem placeOf_eq_resolve (path : RawPath) (cwd : List Name) (name : String) :
    placeOf (path.resolve cwd) name = (path.join name).resolve cwd := by
  have hpieces : ∀ start, place start (pieces name) =
      (RawPath.parse name).parts.foldl RawPath.follow start := by
    intro start
    rw [place, pieces, List.foldr_reverse, List.foldl_map]
    exact foldl_onward _ start
  rw [placeOf, hpieces, startOf, RawPath.join]
  split
  · next habsolute => simp [RawPath.resolve, habsolute]
  · simp [RawPath.resolve]

end Member

end Tarfile

end NodeAgent
