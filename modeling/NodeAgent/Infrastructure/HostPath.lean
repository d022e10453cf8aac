import Mathlib.Data.String.Basic
import Mathlib.Data.List.Basic
import Mathlib.Data.List.Infix

/-!
# Paths as text and as names

A path that a program writes down may be relative and climb with `..`; resolved,
it is the names on the way from the root.  No path here runs through a symbolic
link.
-/

namespace NodeAgent

/-- What can stand for a file in its directory. -/
def OrdinaryName (text : String) : Prop :=
  text ≠ "" ∧ text ≠ "." ∧ text ≠ ".." ∧ '/' ∉ text.toList

instance (text : String) : Decidable (OrdinaryName text) :=
  inferInstanceAs (Decidable (_ ∧ _))

abbrev Name := { text : String // OrdinaryName text }

theorem Name.noSlash (name : Name) : '/' ∉ name.val.toList := name.2.2.2.2

/-! ## Resolved paths -/

def slashed (path : List Name) : List Char :=
  path.flatMap fun name => '/' :: name.val.toList

/-- `str(path)` of a resolved path -/
def pathText (path : List Name) : List Char :=
  if path = [] then ['/'] else slashed path

theorem prefix_name {name : List Char} (hname : '/' ∉ name) {longer : List Char}
    {path : List Name} (h : name <+: longer ++ slashed path) :
    name <+: longer := by
  rcases List.prefix_or_prefix_of_prefix h (List.prefix_append longer _) with
    hpre | ⟨more, rfl⟩
  · exact hpre
  · have hmore : more <+: slashed path := (List.prefix_append_right_inj _).mp h
    cases more with
    | nil => simp
    | cons c more =>
        cases path with
        | nil => simp [slashed] at hmore
        | cons next path =>
            obtain ⟨rest, hrest⟩ := hmore
            obtain rfl : c = '/' := by
              simp only [slashed, List.flatMap_cons, List.cons_append,
                List.cons.injEq] at hrest
              exact hrest.1
            simp at hname

theorem prefix_whole_name {name longer : Name} {more : List Char}
    {path : List Name}
    (h : name.val.toList ++ '/' :: more <+: longer.val.toList ++ slashed path) :
    name = longer ∧ '/' :: more <+: slashed path := by
  have hpre : name.val.toList <+: longer.val.toList :=
    prefix_name name.noSlash ((List.prefix_append _ _).trans h)
  obtain ⟨extra, hextra⟩ := hpre
  rw [← hextra, List.append_assoc, List.prefix_append_right_inj] at h
  cases extra with
  | nil =>
      rw [List.append_nil] at hextra
      exact ⟨Subtype.ext (String.toList_inj.mp hextra), by simpa using h⟩
  | cons c extra =>
      obtain ⟨rest, hrest⟩ := h
      obtain rfl : '/' = c := by
        simp only [List.cons_append, List.cons.injEq] at hrest
        exact hrest.1
      exact absurd (hextra ▸ by simp) longer.noSlash

/--
A path beside another one: it goes through a directory of the same parent whose
name starts with the other one's name and is longer.
-/
def Alongside (root target : List Name) : Prop :=
  ∃ parent name longer rest,
    root = parent ++ [name] ∧ target = parent ++ longer :: rest ∧
      name ≠ longer ∧ name.val.toList <+: longer.val.toList

theorem slashed_prefix_iff {root target : List Name} :
    slashed root <+: slashed target ↔ root <+: target ∨ Alongside root target := by
  constructor
  · intro h
    induction root generalizing target with
    | nil => simp
    | cons name root ih =>
        cases target with
        | nil => simp [slashed] at h
        | cons longer target =>
            have hnames : name.val.toList ++ slashed root <+:
                longer.val.toList ++ slashed target := by
              simpa [slashed] using h
            cases root with
            | nil =>
                have hpre : name.val.toList <+: longer.val.toList :=
                  prefix_name name.noSlash (by simpa [slashed] using hnames)
                by_cases hname : name = longer
                · subst hname
                  exact .inl ⟨target, rfl⟩
                · exact .inr ⟨[], name, longer, target, rfl, rfl, hname, hpre⟩
            | cons next root =>
                obtain ⟨rfl, hrest⟩ := prefix_whole_name hnames
                rcases ih hrest with hinside |
                  ⟨parent, name', longer, rest, hroot, rfl, hne, hpre⟩
                · exact .inl ((List.prefix_cons_inj name).mpr hinside)
                · exact .inr ⟨name :: parent, name', longer, rest,
                    by rw [hroot]; rfl, rfl, hne, hpre⟩
  · rintro (⟨rest, rfl⟩ | ⟨parent, name, longer, rest, rfl, rfl, -, hpre⟩)
    · simp [slashed]
    · simp only [slashed, List.flatMap_append, List.flatMap_cons,
        List.flatMap_nil, List.append_nil, List.prefix_append_right_inj,
        List.cons_append, List.prefix_cons_inj]
      exact hpre.trans (List.prefix_append _ _)

theorem pathText_prefix_iff {root target : List Name} :
    pathText root <+: pathText target ↔
      root <+: target ∨ Alongside root target := by
  rw [← slashed_prefix_iff]
  cases root with
  | nil =>
      have hempty : slashed [] <+: slashed target := List.nil_prefix
      refine ⟨fun _ => hempty, fun _ => ?_⟩
      cases target with
      | nil => rfl
      | cons name target => simp [pathText, slashed]
  | cons name root =>
      cases target with
      | nil =>
          refine ⟨fun h => ?_, fun h => by simp [slashed] at h⟩
          simp only [pathText, slashed, List.flatMap_cons, List.cons_append,
            reduceCtorEq, if_false, if_true, List.prefix_cons_inj,
            List.prefix_nil, List.append_eq_nil_iff] at h
          exact absurd (String.toList_eq_nil_iff.mp h.1) name.2.1
      | cons other target => simp [pathText]

/-! ## Paths as they are written -/

inductive PathPart where
  | up
  | down (name : Name)

/-- A path as pathlib keeps it: no empty part and no dot. -/
structure RawPath where
  absolute : Bool
  parts : List PathPart

namespace PathPart

def chars : PathPart → List Char
  | .up => ['.', '.']
  | .down name => name.val.toList

def ofChars (piece : List Char) : Option PathPart :=
  if piece = ['.', '.'] then some .up
  else if h : OrdinaryName (String.ofList piece) then some (.down ⟨_, h⟩)
  else none

theorem noSlash (part : PathPart) : '/' ∉ part.chars := by
  cases part with
  | up => decide
  | down name => exact name.noSlash

theorem ofChars_name (name : Name) :
    ofChars name.val.toList = some (.down name) := by
  obtain ⟨text, hname⟩ := name
  have hup : text.toList ≠ ['.', '.'] := by
    intro h
    apply hname.2.2.1
    rw [← @String.ofList_toList text, h]
  unfold ofChars
  rw [if_neg hup]
  simp only [String.ofList_toList, dif_pos hname]

theorem ofChars_chars (part : PathPart) : ofChars part.chars = some part := by
  cases part with
  | up => rfl
  | down name => exact ofChars_name name

theorem chars_ne_nil (part : PathPart) : part.chars ≠ [] := by
  cases part with
  | up => simp [chars]
  | down name => exact fun h => name.2.1 (String.toList_eq_nil_iff.mp h)

end PathPart

namespace RawPath

/-- `Path(text)` -/
def parse (text : String) : RawPath where
  absolute := text.toList.head? = some '/'
  parts := (text.toList.splitOn '/').filterMap PathPart.ofChars

/-- `path / text` -/
def join (path : RawPath) (text : String) : RawPath :=
  if (parse text).absolute then parse text
  else { path with parts := path.parts ++ (parse text).parts }

def glue (parts : List PathPart) : List Char :=
  ['/'].intercalate (parts.map PathPart.chars)

/-- `str(path)` -/
def text (path : RawPath) : String :=
  if path.parts.isEmpty then if path.absolute then "/" else "."
  else String.ofList (if path.absolute then '/' :: glue path.parts else glue path.parts)

def follow (names : List Name) : PathPart → List Name
  | .up => names.dropLast
  | .down name => names ++ [name]

/-- `path.resolve()` in a working directory -/
def resolve (cwd : List Name) (path : RawPath) : List Name :=
  path.parts.foldl follow (if path.absolute then [] else cwd)

theorem split_glue (parts : List PathPart) :
    ((glue parts).splitOn '/').filterMap PathPart.ofChars = parts := by
  cases parts with
  | nil => rfl
  | cons part parts =>
      rw [glue, List.splitOn_intercalate _ (by simp [PathPart.noSlash]) (by simp),
        List.filterMap_map]
      simp [PathPart.ofChars_chars]

theorem head?_glue (parts : List PathPart) : (glue parts).head? ≠ some '/' := by
  cases parts with
  | nil => simp [glue]
  | cons part parts =>
      cases hchars : part.chars with
      | nil => exact absurd hchars part.chars_ne_nil
      | cons c chars =>
          have hc : c ≠ '/' := by
            rintro rfl
            exact part.noSlash (by simp [hchars])
          cases parts <;> simp [glue, hchars, List.intercalate_cons_cons, hc]

theorem parse_glue (parts : List PathPart) :
    parse (String.ofList (glue parts)) = ⟨false, parts⟩ := by
  simp [parse, split_glue, head?_glue]

theorem parse_text (path : RawPath) : parse path.text = path := by
  obtain ⟨absolute, parts⟩ := path
  cases parts with
  | nil => cases absolute <;> rfl
  | cons part parts =>
      cases absolute with
      | true =>
          have hsplit : ('/' :: glue (part :: parts)).splitOn '/' =
              [] :: (glue (part :: parts)).splitOn '/' := by
            rw [List.splitOn_cons_eq_if_modifyHead]
            simp
          have hnone : PathPart.ofChars [] = none := rfl
          simp [parse, text, hsplit, hnone, split_glue]
      | false => simpa [text] using parse_glue (part :: parts)

/-- The path below another one, name by name. -/
def append (path : RawPath) (names : List Name) : RawPath :=
  { path with parts := path.parts ++ names.map .down }

theorem foldl_follow (start names : List Name) :
    (names.map PathPart.down).foldl follow start = start ++ names := by
  induction names generalizing start with
  | nil => simp
  | cons name names ih => simp [ih, follow]

theorem resolve_append (cwd : List Name) (path : RawPath) (names : List Name) :
    (path.append names).resolve cwd = path.resolve cwd ++ names := by
  rw [resolve, append, List.foldl_append, foldl_follow]
  rfl

def memberName (names : List Name) : String :=
  String.ofList (glue (names.map .down))

theorem join_memberName (path : RawPath) (names : List Name) :
    path.join (memberName names) = path.append names := by
  rw [join, memberName, parse_glue]
  rfl

end RawPath

end NodeAgent
