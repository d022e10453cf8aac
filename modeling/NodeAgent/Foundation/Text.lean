import Mathlib.Data.List.Basic
import Mathlib.Data.List.TakeWhile

/-!
# Splitting text

The ways in which a program takes a text apart: at line ends, at a character, at
the first occurrence of a separator, after the last occurrence of a character.
-/

namespace Text

/-! ## Lines -/

/-- The characters at which `splitlines` ends a line. -/
def isLineBreak (c : Char) : Bool :=
  c ∈ ['\n', '\r', '\x0b', '\x0c', '\x1c', '\x1d', '\x1e', '\u0085', '\u2028',
    '\u2029']

/-- A last line without an end is a line only if it is not empty. -/
def splitLines : List Char → List (List Char)
  | [] => []
  | '\r' :: '\n' :: rest => [] :: splitLines rest
  | c :: rest =>
      if isLineBreak c then [] :: splitLines rest
      else match splitLines rest with
        | [] => [[c]]
        | line :: lines => (c :: line) :: lines

theorem splitLines_cons {c : Char} (hc : isLineBreak c = false)
    (rest : List Char) :
    splitLines (c :: rest) = match splitLines rest with
      | [] => [[c]]
      | line :: lines => (c :: line) :: lines := by
  have hr : c ≠ '\r' := by
    rintro rfl
    revert hc
    decide
  rw [splitLines.eq_3 c rest fun _ h _ => hr h]
  simp [hc]

theorem splitLines_append {line : List Char}
    (hline : ∀ c ∈ line, isLineBreak c = false) (rest : List Char) :
    splitLines (line ++ '\n' :: rest) = line :: splitLines rest := by
  induction line with
  | nil => rfl
  | cons c line ih =>
      obtain ⟨hc, hline⟩ := List.forall_mem_cons.mp hline
      rw [List.cons_append, splitLines_cons hc, ih hline]

theorem splitLines_unlines {lines : List (List Char)}
    (hlines : ∀ line ∈ lines, ∀ c ∈ line, isLineBreak c = false) :
    splitLines (lines.flatMap fun line => line ++ ['\n']) = lines := by
  induction lines with
  | nil => rfl
  | cons line lines ih =>
      obtain ⟨hline, hlines⟩ := List.forall_mem_cons.mp hlines
      simp only [List.flatMap_cons, List.append_assoc, List.singleton_append]
      rw [splitLines_append hline, ih hlines]

/-! ## Blanks -/

def spaces : List Char :=
  ['\t', '\n', '\x0b', '\x0c', '\r', '\x1c', '\x1d', '\x1e', '\x1f', ' ',
    '\u0085', '\u00a0', '\u1680', '\u2000', '\u2001', '\u2002', '\u2003',
    '\u2004', '\u2005', '\u2006', '\u2007', '\u2008', '\u2009', '\u200a',
    '\u2028', '\u2029', '\u202f', '\u205f', '\u3000']

/-- `str.isspace` of a single character, and `\s` in a pattern. -/
def isSpace (c : Char) : Bool := c ∈ spaces

/-- `int` and `float` do not take the four separators for blanks. -/
def isNumberSpace (c : Char) : Bool :=
  isSpace c && c ∉ ['\x1c', '\x1d', '\x1e', '\x1f']

/-- The text without what is dropped at both of its ends. -/
def trim (dropped : Char → Bool) (text : List Char) : List Char :=
  ((text.dropWhile dropped).reverse.dropWhile dropped).reverse

/-- `text.strip()` -/
def strip (text : List Char) : List Char := trim isSpace text

theorem isSpace_of_lt {c : Char} (h : 32 < c.toNat ∧ c.toNat < 128) :
    isSpace c = false := by
  have hspaces : (spaces.all fun d =>
      decide ¬(32 < d.toNat ∧ d.toNat < 128)) = true := by decide
  rw [isSpace, decide_eq_false_iff_not]
  exact fun hmem => of_decide_eq_true (List.all_eq_true.mp hspaces c hmem) h

theorem isNumberSpace_of_lt {c : Char} (h : 32 < c.toNat ∧ c.toNat < 128) :
    isNumberSpace c = false := by
  rw [isNumberSpace, isSpace_of_lt h, Bool.false_and]

theorem dropWhile_kept {dropped : Char → Bool} {text : List Char}
    (h : ∀ c ∈ text, dropped c = false) : text.dropWhile dropped = text := by
  cases text with
  | nil => rfl
  | cons c rest => rw [List.dropWhile_cons_of_neg (by simp [h c])]

theorem trim_append {dropped : Char → Bool} {before text : List Char}
    (hbefore : ∀ c ∈ before, dropped c) (h : ∀ c ∈ text, dropped c = false) :
    trim dropped (before ++ text) = text := by
  rw [trim, List.dropWhile_append_of_pos hbefore, dropWhile_kept h,
    dropWhile_kept (by simpa using h), List.reverse_reverse]

theorem trim_kept {dropped : Char → Bool} {text : List Char}
    (h : ∀ c ∈ text, dropped c = false) : trim dropped text = text :=
  @trim_append dropped [] text (by simp) h

/-! ## Separators -/

theorem forall_of_mem_splitOnP {separates : Char → Bool} {text piece : List Char}
    (h : piece ∈ text.splitOnP separates) :
    ∀ c ∈ piece, separates c = false := by
  induction text generalizing piece with
  | nil =>
      obtain rfl : piece = [] := by simpa using h
      simp
  | cons c rest ih =>
      rw [List.splitOnP_cons_eq_if_modifyHead] at h
      split at h
      · rcases List.mem_cons.mp h with rfl | hrest
        · simp
        · exact ih hrest
      · next hc =>
          match hsplit : rest.splitOnP separates with
          | [] => exact absurd hsplit (List.splitOnP_ne_nil _ _)
          | first :: others =>
              rw [hsplit, List.modifyHead_cons] at h
              rcases List.mem_cons.mp h with rfl | hothers
              · refine List.forall_mem_cons.mpr ⟨by simpa using hc, ?_⟩
                exact ih (by simp [hsplit])
              · exact ih (by simp [hsplit, hothers])

theorem not_mem_of_mem_splitOn {c : Char} {text piece : List Char}
    (h : piece ∈ text.splitOn c) : c ∉ piece := by
  rw [List.splitOn_eq_splitOnP] at h
  intro hmem
  simpa using forall_of_mem_splitOnP h c hmem

theorem head?_splitOn (c : Char) (text : List Char) :
    (text.splitOn c).head? = some (text.takeWhile (· ≠ c)) := by
  induction text with
  | nil => rfl
  | cons d rest ih =>
      rw [List.splitOn_cons_eq_if_modifyHead]
      by_cases hd : d = c
      · simp [hd]
      · simp [hd, ih]

/-- What stands before and after the first occurrence of a separator. -/
def cut (separator : List Char) : List Char → Option (List Char × List Char)
  | [] => if separator = [] then some ([], []) else none
  | c :: rest =>
      if separator.isPrefixOf (c :: rest) then
        some ([], (c :: rest).drop separator.length)
      else (cut separator rest).map fun (before, after) => (c :: before, after)

theorem cut_eq_none {x y : Char} {text : List Char} (h : y ∉ text) :
    cut [x, y] text = none := by
  induction text with
  | nil => simp [cut]
  | cons c rest ih =>
      simp only [List.mem_cons, not_or] at h
      have hprefix : [x, y].isPrefixOf (c :: rest) = false := by
        cases rest with
        | nil => simp [List.isPrefixOf]
        | cons d rest =>
            simp only [List.mem_cons, not_or] at h
            simp [List.isPrefixOf, h.2.1]
      simp [cut, hprefix, ih h.2]

theorem cut_append {x y : Char} (hxy : x ≠ y) {before : List Char}
    (h : y ∉ before) (after : List Char) :
    cut [x, y] (before ++ x :: y :: after) = some (before, after) := by
  induction before with
  | nil => simp [cut, List.isPrefixOf]
  | cons c rest ih =>
      simp only [List.mem_cons, not_or] at h
      have hprefix :
          [x, y].isPrefixOf (c :: (rest ++ x :: y :: after)) = false := by
        cases rest with
        | nil => simp [List.isPrefixOf, Ne.symm hxy]
        | cons d rest =>
            simp only [List.mem_cons, not_or] at h
            simp [List.isPrefixOf, h.2.1]
      simp [cut, hprefix, ih h.2]

def afterLast (c : Char) (text : List Char) : List Char :=
  (text.reverse.takeWhile (· ≠ c)).reverse

theorem takeWhile_ne {c : Char} {text : List Char} (h : c ∉ text) :
    text.takeWhile (· ≠ c) = text := by
  rw [List.takeWhile_eq_self_iff]
  intro d hd
  have hne : d ≠ c := fun heq => h (heq ▸ hd)
  simpa using hne

theorem afterLast_of_not_mem {c : Char} {text : List Char} (h : c ∉ text) :
    afterLast c text = text := by
  rw [afterLast, takeWhile_ne (by simpa using h), List.reverse_reverse]

theorem afterLast_append {c : Char} {after : List Char} (h : c ∉ after)
    (before : List Char) : afterLast c (before ++ c :: after) = after := by
  have hafter : ∀ d ∈ after.reverse, decide (d ≠ c) = true := by
    intro d hd
    have hne : d ≠ c := fun heq => h (heq ▸ List.mem_reverse.mp hd)
    simpa using hne
  have htake : (after.reverse ++ c :: before.reverse).takeWhile (· ≠ c) =
      after.reverse := by
    rw [List.takeWhile_append_of_pos hafter, List.takeWhile_cons]
    simp
  rw [afterLast, List.reverse_append, List.reverse_cons, List.append_assoc,
    List.singleton_append, htake, List.reverse_reverse]

end Text
