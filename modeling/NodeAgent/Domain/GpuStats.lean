import NodeAgent.Domain.PodStats
import NodeAgent.Infrastructure.Host

/-!
# The GPU figures of a pod

One row of `nvidia-smi` a device: its utilization, its used and its total memory.
The loop over the rows appends to one list for each as it reads them, so that a
row that breaks off has been counted in the lists before.
-/

namespace NodeAgent

namespace PodStats

def readFloat (text : List Char) : Option PyFloat := PyFloat.parse? text

/-- `sum(numbers)` and `total / count`, whose rounding is left open. -/
structure Arithmetic (α : Type) where
  sum : List PyFloat → α
  div : α → Nat → α

/-- `gpu_util_pct`, `vram_used_mb` and `vram_total_mb`. -/
structure Figures (α : Type) where
  gpuUtil : Option α := none
  vramUsed : Option α := none
  vramTotal : Option α := none
  deriving DecidableEq

/-! ## The loop over the rows -/

structure Columns where
  utils : List PyFloat := []
  used : List PyFloat := []
  total : List PyFloat := []
  deriving DecidableEq

/-- `[p.strip() for p in line.split(",")]` -/
def parts (line : List Char) : List (List Char) :=
  (line.splitOn ',').map Text.strip

/-- What is appended stays when a later field raises `ValueError`. -/
def Columns.appendRow (columns : Columns) (line : List Char) : Columns :=
  match parts line with
  | util :: used :: total :: _ =>
      match readFloat util with
      | none => columns
      | some x =>
          let columns := { columns with utils := columns.utils ++ [x] }
          match readFloat used with
          | none => columns
          | some y =>
              let columns := { columns with used := columns.used ++ [y] }
              match readFloat total with
              | none => columns
              | some z => { columns with total := columns.total ++ [z] }
  | _ => columns

/-- `r.stdout.strip().splitlines()` -/
def outputLines (stdout : String) : List (List Char) :=
  Text.splitLines (Text.strip stdout.toList)

def collect (stdout : String) : Columns :=
  (outputLines stdout).foldl Columns.appendRow {}

variable {α : Type}

def Columns.aggregate (arithmetic : Arithmetic α) (columns : Columns) :
    Figures α :=
  if columns.utils = [] then {}
  else {
    gpuUtil := some (arithmetic.div (arithmetic.sum columns.utils)
      columns.utils.length)
    vramUsed := some (arithmetic.sum columns.used)
    vramTotal := some (arithmetic.sum columns.total) }

def nvidiaSmiCommand (deviceIds : List Int) : List String :=
  ["nvidia-smi", "--id=" ++ ",".intercalate (deviceIds.map toString),
    "--query-gpu=utilization.gpu,memory.used,memory.total",
    "--format=csv,noheader,nounits"]

/-- `_nvidia_smi`, where `run` is `subprocess.run`. -/
def nvidiaSmi (arithmetic : Arithmetic α)
    (run : List String → Except Exn Completed) (deviceIds : Option (List Int)) :
    Except Exn (Figures α) :=
  match deviceIds with
  | none | some [] => .ok {}
  | some ids =>
      match run (nvidiaSmiCommand ids) with
      | .error e => if e.isMissingOrTimeout then .ok {} else .error e
      | .ok r =>
          if r.returncode ≠ 0 ∨ Text.strip r.stdout.toList = [] then .ok {}
          else .ok ((collect r.stdout).aggregate arithmetic)

/-! ## Rows that can be read -/

/-- A device of which all three numbers are known. -/
structure Row where
  util : PyFloat
  used : PyFloat
  total : PyFloat

def readRow (line : List Char) : Option Row :=
  match parts line with
  | util :: used :: total :: _ => do
      let util ← readFloat util
      let used ← readFloat used
      let total ← readFloat total
      some { util, used, total }
  | _ => none

def readRows (stdout : String) : List Row :=
  (outputLines stdout).filterMap readRow

def columnsOf (rows : List Row) : Columns where
  utils := rows.map Row.util
  used := rows.map Row.used
  total := rows.map Row.total

def figuresOf (arithmetic : Arithmetic α) (rows : List Row) : Figures α :=
  if rows = [] then {}
  else {
    gpuUtil := some (arithmetic.div (arithmetic.sum (rows.map Row.util))
      rows.length)
    vramUsed := some (arithmetic.sum (rows.map Row.used))
    vramTotal := some (arithmetic.sum (rows.map Row.total)) }

/-- The first number of the row can be read, and another one cannot. -/
def BreaksOff (line : List Char) : Prop :=
  ∃ util used total rest, parts line = util :: used :: total :: rest ∧
    (readFloat util).isSome ∧
      ((readFloat used).isNone ∨ (readFloat total).isNone)

/-! ## What the loop has collected -/

def readUtil (line : List Char) : Option PyFloat :=
  match parts line with
  | util :: _ :: _ :: _ => readFloat util
  | _ => none

def readUsed (line : List Char) : Option PyFloat :=
  match parts line with
  | util :: used :: _ :: _ => do
      let _ ← readFloat util
      readFloat used
  | _ => none

theorem Columns.appendRow_eq (columns : Columns) (line : List Char) :
    columns.appendRow line =
      { utils := columns.utils ++ (readUtil line).toList
        used := columns.used ++ (readUsed line).toList
        total := columns.total ++ ((readRow line).map Row.total).toList } := by
  unfold appendRow readUtil readUsed readRow
  split
  · next util used total _ heq =>
      cases readFloat util with
      | none => simp
      | some x =>
          cases readFloat used with
          | none => simp
          | some y => cases readFloat total <;> simp
  · simp

theorem filterMap_cons_toList {β : Type} (read : List Char → Option β)
    (line : List Char) (lines : List (List Char)) :
    (line :: lines).filterMap read =
      (read line).toList ++ lines.filterMap read := by
  rw [List.filterMap_cons]
  cases read line <;> rfl

theorem Columns.foldl_appendRow (columns : Columns)
    (lines : List (List Char)) :
    lines.foldl appendRow columns =
      { utils := columns.utils ++ lines.filterMap readUtil
        used := columns.used ++ lines.filterMap readUsed
        total := columns.total ++
          lines.filterMap fun line => (readRow line).map Row.total } := by
  induction lines generalizing columns with
  | nil => simp
  | cons line lines ih =>
      rw [List.foldl_cons, ih, appendRow_eq]
      simp only [filterMap_cons_toList, List.append_assoc]

theorem readRow_cases (line : List Char) :
    (readUtil line = none ∧ readUsed line = none ∧ readRow line = none ∧
      ¬BreaksOff line) ∨
    (∃ row, readUtil line = some row.util ∧ readUsed line = some row.used ∧
      readRow line = some row ∧ ¬BreaksOff line) ∨
    ((readUtil line).isSome ∧ readRow line = none ∧ BreaksOff line) := by
  unfold readUtil readUsed readRow BreaksOff
  split
  · next util used total _ heq =>
      cases hutil : readFloat util with
      | none => simp [heq, hutil]
      | some x =>
          cases hused : readFloat used with
          | none => simp [heq, hutil, hused]
          | some y =>
              cases htotal : readFloat total with
              | none => simp [heq, hutil, htotal]
              | some z => simp [heq, hused, htotal]
  · next hshort =>
      refine .inl ⟨rfl, rfl, rfl, ?_⟩
      rintro ⟨util, used, total, rest, heq, -⟩
      exact hshort util used total rest heq

/-! ## Rows that are counted in every list -/

theorem length_filterMap_eq_iff {ι β γ : Type} {f : ι → Option β}
    {g : ι → Option γ} (h : ∀ a, (g a).isSome → (f a).isSome)
    (items : List ι) :
    (items.filterMap f).length = (items.filterMap g).length ↔
      ∀ a ∈ items, (f a).isSome → (g a).isSome := by
  rw [List.length_filterMap_eq_countP, List.length_filterMap_eq_countP]
  induction items with
  | nil => simp
  | cons a items ih =>
      have hle := List.countP_mono_left (l := items) fun b _ => h b
      rw [List.countP_cons, List.countP_cons, List.forall_mem_cons, ← ih]
      by_cases hg : (g a).isSome
      · simp [hg, h a hg]
      · by_cases hf : (f a).isSome
        · simp only [hf, hg, if_true, if_false, Bool.false_eq_true]
          constructor
          · intro heq
            omega
          · exact fun hboth => absurd (hboth.1 trivial) (by simp)
        · simp [hf, hg]

theorem collect_eq (stdout : String) :
    collect stdout =
      { utils := (outputLines stdout).filterMap readUtil
        used := (outputLines stdout).filterMap readUsed
        total := (outputLines stdout).filterMap fun line =>
          (readRow line).map Row.total } := by
  simp [collect, Columns.foldl_appendRow]

theorem reads_of_whole {line : List Char} (h : ¬BreaksOff line) :
    readUtil line = (readRow line).map Row.util ∧
      readUsed line = (readRow line).map Row.used := by
  rcases readRow_cases line with ⟨hutil, hused, hrow, -⟩ |
    ⟨row, hutil, hused, hrow, -⟩ | ⟨-, -, hbreaks⟩
  · simp [hutil, hused, hrow]
  · simp [hutil, hused, hrow]
  · exact absurd hbreaks h

theorem collect_of_whole {stdout : String}
    (h : ∀ line ∈ outputLines stdout, ¬BreaksOff line) :
    collect stdout = columnsOf (readRows stdout) := by
  have hutil := List.filterMap_congr fun line hline =>
    (reads_of_whole (h line hline)).1
  have hused := List.filterMap_congr fun line hline =>
    (reads_of_whole (h line hline)).2
  rw [collect_eq, columnsOf, readRows, hutil, hused]
  simp only [List.map_filterMap]

theorem whole_of_utils {stdout : String}
    (h : (collect stdout).utils = (readRows stdout).map Row.util) :
    ∀ line ∈ outputLines stdout, ¬BreaksOff line := by
  have hmore : ∀ line, (readRow line).isSome → (readUtil line).isSome := by
    intro line hrow
    rcases readRow_cases line with ⟨-, -, hnone, -⟩ |
      ⟨row, hutil, -⟩ | ⟨hutil, -⟩
    · simp [hnone] at hrow
    · simp [hutil]
    · exact hutil
  have hlength := congrArg List.length h
  rw [collect_eq, List.length_map, readRows,
    length_filterMap_eq_iff hmore] at hlength
  intro line hline
  rcases readRow_cases line with ⟨-, -, -, hwhole⟩ |
    ⟨row, -, -, -, hwhole⟩ | ⟨hutil, hnone, -⟩
  · exact hwhole
  · exact hwhole
  · have hrow := hlength line hline hutil
    simp [hnone] at hrow

theorem collect_eq_iff (stdout : String) :
    collect stdout = columnsOf (readRows stdout) ↔
      ∀ line ∈ outputLines stdout, ¬BreaksOff line :=
  ⟨fun h => whole_of_utils (congrArg Columns.utils h), collect_of_whole⟩

/-! ## What is returned -/

theorem aggregate_columnsOf (arithmetic : Arithmetic α) (rows : List Row) :
    (columnsOf rows).aggregate arithmetic = figuresOf arithmetic rows := by
  simp [Columns.aggregate, columnsOf, figuresOf]

theorem nvidiaSmi_ok (arithmetic : Arithmetic α) (first : Int)
    (others : List Int) (stdout stderr : String) :
    nvidiaSmi arithmetic
        (fun _ => .ok { stdout := stdout, stderr := stderr })
        (some (first :: others)) =
      .ok ((collect stdout).aggregate arithmetic) := by
  by_cases hblank : Text.strip stdout.toList = []
  · have hcollect : collect stdout = {} := by
      rw [collect, outputLines, hblank]
      rfl
    simp [nvidiaSmi, hblank, hcollect, Columns.aggregate]
  · simp [nvidiaSmi, hblank]

def unrounded : Arithmetic (List PyFloat) where
  sum numbers := numbers
  div numbers _ := numbers

theorem utils_of_aggregate {stdout : String}
    (h : (collect stdout).aggregate unrounded =
      figuresOf unrounded (readRows stdout)) :
    (collect stdout).utils = (readRows stdout).map Row.util := by
  have hutil := congrArg Figures.gpuUtil h
  by_cases hutils : (collect stdout).utils = []
  · by_cases hrows : readRows stdout = []
    · rw [hutils, hrows]
      rfl
    · simp [Columns.aggregate, figuresOf, hutils, hrows] at hutil
  · by_cases hrows : readRows stdout = []
    · simp [Columns.aggregate, figuresOf, hutils, hrows] at hutil
    · simpa [Columns.aggregate, figuresOf, hutils, hrows, unrounded] using hutil

/--
A row counts in all three lists or in none, and the figures are those of the rows
that can be read, exactly if no row breaks off after its first number.
-/
theorem nvidiaSmi_whole_iff (first : Int) (others : List Int)
    (stdout stderr : String) :
    (collect stdout = columnsOf (readRows stdout) ↔
      ∀ line ∈ outputLines stdout, ¬BreaksOff line) ∧
    ((∀ (α : Type) (arithmetic : Arithmetic α),
        nvidiaSmi arithmetic
            (fun _ => .ok { stdout := stdout, stderr := stderr })
            (some (first :: others)) =
          .ok (figuresOf arithmetic (readRows stdout))) ↔
      ∀ line ∈ outputLines stdout, ¬BreaksOff line) := by
  refine ⟨collect_eq_iff stdout, fun h => ?_, fun h α arithmetic => ?_⟩
  · have hfigures := h _ unrounded
    rw [nvidiaSmi_ok] at hfigures
    exact whole_of_utils (utils_of_aggregate (Except.ok.inj hfigures))
  · rw [nvidiaSmi_ok, collect_of_whole h, aggregate_columnsOf]

/-! ## A device whose memory is not reported -/

def exactAdd : PyFloat → PyFloat → PyFloat
  | .nan, _ | _, .nan | .posInf, .negInf | .negInf, .posInf => .nan
  | .posInf, _ | _, .posInf => .posInf
  | .negInf, _ | _, .negInf => .negInf
  | .num p, .num q => .num (p + q)

def exactDiv : PyFloat → Nat → PyFloat
  | .num q, n => .num (q / n)
  | x, _ => x

/-- Sums and quotients that are not rounded. -/
def exact : Arithmetic PyFloat where
  sum numbers := numbers.foldl exactAdd (.num 0)
  div := exactDiv

def halfReported : String := "30, 1000, 24000\n90, [N/A], 24000\n"

/--
The second device counts in the average and in neither of the sums.  Alone, it is
given figures where there should be none.
-/
theorem nvidiaSmi_halfReported :
    collect halfReported ≠ columnsOf (readRows halfReported) ∧
    nvidiaSmi exact (fun _ => .ok { stdout := halfReported }) (some [0, 1]) =
      .ok ⟨some (.num 60), some (.num 1000), some (.num 24000)⟩ ∧
    figuresOf exact (readRows halfReported) =
      ⟨some (.num 30), some (.num 1000), some (.num 24000)⟩ ∧
    nvidiaSmi exact (fun _ => .ok { stdout := "90, [N/A], 24000" })
        (some [1]) =
      .ok ⟨some (.num 90), some (.num 0), some (.num 0)⟩ ∧
    figuresOf exact (readRows "90, [N/A], 24000") = ⟨none, none, none⟩ := by
  refine ⟨?_, ?_, ?_, ?_, ?_⟩ <;> decide +kernel

end PodStats

end NodeAgent
