import NodeAgent.Protocol
import NodeAgent.Foundation.Text
import Mathlib.Algebra.Order.Ring.Rat

/-!
# The vLLM image for the GPUs of a host

One line of `nvidia-smi` a GPU: its compute capability and its driver.  Numbers
are exact; what `float` reads as infinite or as no number is kept apart.
-/

namespace NodeAgent

open Decimal

/-! ## Reading numbers -/

/-- What `float` makes of a text. -/
inductive PyFloat where
  | nan
  | negInf
  | num (q : Rat)
  | posInf
  deriving DecidableEq, Repr

namespace PyFloat

def neg : PyFloat → PyFloat
  | .nan => .nan
  | .negInf => .posInf
  | .num q => .num (-q)
  | .posInf => .negInf

/-- Digits with at most one point among them or on either side. -/
def mantissa? (text : List Char) : Option Rat :=
  let whole := text.takeWhile (· ≠ '.')
  match text.dropWhile (· ≠ '.') with
  | [] => (digitsToNat? whole).map fun n => (n : Rat)
  | _ :: fraction => do
      let n ← if whole = [] ∧ fraction ≠ [] then some 0 else digitsToNat? whole
      let m ← if fraction = [] then some 0 else digitsToNat? fraction
      some (n + m / 10 ^ (fraction.filter Char.isDigit).length)

def exponent? : List Char → Option Int
  | '-' :: digits => (digitsToNat? digits).map fun n => -(n : Int)
  | '+' :: digits => (digitsToNat? digits).map fun n => (n : Int)
  | digits => (digitsToNat? digits).map fun n => (n : Int)

def decimal? (text : List Char) : Option Rat :=
  let before := text.takeWhile fun c => c ≠ 'e' ∧ c ≠ 'E'
  match text.dropWhile fun c => c ≠ 'e' ∧ c ≠ 'E' with
  | [] => mantissa? before
  | _ :: exponent => do
      let q ← mantissa? before
      let n ← exponent? exponent
      some (q * 10 ^ n)

def unsigned? (text : List Char) : Option PyFloat :=
  let name := lower (String.ofList text)
  if name = "inf" ∨ name = "infinity" then some .posInf
  else if name = "nan" then some .nan
  else (decimal? text).map .num

/-- `float(text)` -/
def parse? (text : List Char) : Option PyFloat :=
  match Text.trim Text.isNumberSpace (text.map asciiDigit) with
  | '-' :: rest => (unsigned? rest).map neg
  | '+' :: rest => unsigned? rest
  | rest => unsigned? rest

/-- `bound <= x`, which is false of `nan` as every comparison is. -/
def atLeast (bound : Rat) : PyFloat → Bool
  | .nan | .negInf => false
  | .num q => bound ≤ q
  | .posInf => true

/-- `x < bound` -/
def below (bound : Rat) : PyFloat → Bool
  | .nan | .posInf => false
  | .num q => q < bound
  | .negInf => true

/-- `x < y` -/
def less : PyFloat → PyFloat → Bool
  | .nan, _ | _, .nan | _, .negInf | .posInf, _ => false
  | .negInf, _ | _, .posInf => true
  | .num q, .num q' => q < q'

/-- `max(x, y)`: the second only if it is greater. -/
def max (x y : PyFloat) : PyFloat := if less x y then y else x

def min (x y : PyFloat) : PyFloat := if less y x then y else x

theorem atLeast_max {bound : Rat} {x : PyFloat} (hx : x ≠ .nan) (y : PyFloat) :
    atLeast bound (max x y) ↔ atLeast bound x ∨ atLeast bound y := by
  cases x with
  | nan => exact absurd rfl hx
  | num q =>
      cases y with
      | num q' =>
          by_cases h : q < q'
          · simpa [max, less, h, atLeast] using fun hq => hq.trans h.le
          · simpa [max, less, h, atLeast] using
              fun hq' => le_trans hq' (not_lt.mp h)
      | _ => simp [max, less, atLeast]
  | _ => cases y <;> simp [max, less, atLeast]

theorem below_min {bound : Rat} {x : PyFloat} (hx : x ≠ .nan) (y : PyFloat) :
    below bound (min x y) ↔ below bound x ∨ below bound y := by
  cases x with
  | nan => exact absurd rfl hx
  | num q =>
      cases y with
      | num q' =>
          by_cases h : q' < q
          · simpa [min, less, h, below] using fun hq => h.trans hq
          · simpa [min, less, h, below] using
              fun hq' => lt_of_le_of_lt (not_lt.mp h) hq'
      | _ => simp [min, less, below]
  | _ => cases y <;> simp [min, less, below]

theorem max_ne_nan {x : PyFloat} (hx : x ≠ .nan) (y : PyFloat) :
    max x y ≠ .nan := by
  cases x <;> cases y <;> simp_all [max, less]
  split <;> simp

theorem min_ne_nan {x : PyFloat} (hx : x ≠ .nan) (y : PyFloat) :
    min x y ≠ .nan := by
  cases x <;> cases y <;> simp_all [min, less]
  split <;> simp

end PyFloat

/-! ## The decision -/

inductive VllmImage where
  | cu130
  | cu12
  deriving DecidableEq, Repr

def VllmImage.text : VllmImage → String
  | .cu130 => "vllm/vllm-openai:v0.19.1-cu130-ubuntu2404"
  | .cu12 => "vllm/vllm-openai:v0.8.5"

structure Gpu where
  computeCapability : PyFloat
  driverMajor : Int
  deriving DecidableEq

def readGpu (line : List Char) : Option Gpu :=
  match (line.splitOn ',').map Text.strip with
  | capability :: driver :: _ => do
      let computeCapability ← PyFloat.parse? capability
      let driverMajor ← parseInt?
        (String.ofList (((driver.splitOn '.').head?).getD []))
      some { computeCapability, driverMajor }
  | _ => none

structure Extremes where
  maxCompute : PyFloat := .num 0
  minCompute : PyFloat := .num 999
  minDriverMajor : Int := 9999

def Extremes.add (extremes : Extremes) (line : List Char) : Extremes :=
  match readGpu line with
  | none => extremes
  | some gpu =>
      { maxCompute := .max extremes.maxCompute gpu.computeCapability
        minCompute := .min extremes.minCompute gpu.computeCapability
        minDriverMajor := min extremes.minDriverMajor gpu.driverMajor }

def pickVllmImage (nvidiaSmiCsv : String) : VllmImage :=
  let extremes := (Text.splitLines nvidiaSmiCsv.toList).foldl Extremes.add {}
  if extremes.maxCompute.atLeast 12 then .cu130
  else if extremes.minCompute.below (89 / 10) then .cu12
  else if extremes.minDriverMajor < 580 ∧ extremes.minDriverMajor ≠ 9999 then
    .cu12
  else .cu130

/-- `none`: `nvidia-smi` is missing, failed or timed out. -/
def autoSelectVllmImage : Option String → VllmImage
  | none => .cu130
  | some output => pickVllmImage (strip output)

/-! ## Where an image runs -/

/-- The matrix of architectures and drivers. -/
def VllmImage.runsOn (gpu : Gpu) : VllmImage → Bool
  | .cu130 => gpu.computeCapability.atLeast (89 / 10) && 580 ≤ gpu.driverMajor
  | .cu12 => gpu.computeCapability.below 12

/--
A row shows a GPU: its first field is a number, and what stands before the first
point of its second one is an integer.
-/
def Shows (line : List Char) (gpu : Gpu) : Prop :=
  ∃ capability driver fields, line =
      [','].intercalate (capability :: driver :: fields) ∧
    (∀ field ∈ capability :: driver :: fields, ',' ∉ field) ∧
    PyFloat.parse? (Text.strip capability) = some gpu.computeCapability ∧
    parseInt? (String.ofList ((Text.strip driver).takeWhile (· ≠ '.'))) =
      some gpu.driverMajor

/-- The GPUs of an output, in rows of any number; others are skipped. -/
def ShownIn (nvidiaSmiCsv : String) (gpu : Gpu) : Prop :=
  ∃ line ∈ Text.splitLines nvidiaSmiCsv.toList, Shows line gpu

def parsedGpus (nvidiaSmiCsv : String) : List Gpu :=
  (Text.splitLines nvidiaSmiCsv.toList).filterMap readGpu

/-! ## What a row shows -/

theorem readGpu_eq_some_iff {line : List Char} {gpu : Gpu} :
    readGpu line = some gpu ↔ Shows line gpu := by
  have hread : ∀ capability driver fields,
      line.splitOn ',' = capability :: driver :: fields →
      (readGpu line = some gpu ↔
        PyFloat.parse? (Text.strip capability) = some gpu.computeCapability ∧
        parseInt? (String.ofList ((Text.strip driver).takeWhile (· ≠ '.'))) =
          some gpu.driverMajor) := by
    intro capability driver fields hsplit
    obtain ⟨computeCapability, driverMajor⟩ := gpu
    simp only [readGpu, hsplit, List.map_cons, Text.head?_splitOn,
      Option.getD_some]
    cases PyFloat.parse? (Text.strip capability) <;>
      cases parseInt? (String.ofList ((Text.strip driver).takeWhile (· ≠ '.'))) <;>
      simp
  constructor
  · intro h
    match hsplit : line.splitOn ',' with
    | [] | [_] => simp [readGpu, hsplit] at h
    | capability :: driver :: fields =>
        refine ⟨capability, driver, fields, ?_, fun field hfield => ?_,
          (hread _ _ _ hsplit).mp h⟩
        · rw [← hsplit, List.intercalate_splitOn]
        · exact Text.not_mem_of_mem_splitOn (hsplit ▸ hfield)
  · rintro ⟨capability, driver, fields, rfl, hfields, h⟩
    exact (hread _ _ _ (List.splitOn_intercalate _ hfields (by simp))).mpr h

theorem mem_parsedGpus_iff {csv : String} {gpu : Gpu} :
    gpu ∈ parsedGpus csv ↔ ShownIn csv gpu := by
  simp only [parsedGpus, List.mem_filterMap, readGpu_eq_some_iff, ShownIn]

/-! ## Rows as `nvidia-smi` prints them -/

/-- `8.9, 570.86.15` -/
structure GpuRow where
  major : Nat
  minor : Nat
  driverMajor : Nat
  driverRest : List Char
  version : ∀ c ∈ driverRest, c.isDigit ∨ c = '.'

namespace GpuRow

def capability (row : GpuRow) : List Char :=
  digits row.major ++ '.' :: digits row.minor

def driver (row : GpuRow) : List Char :=
  digits row.driverMajor ++ '.' :: row.driverRest

def text (row : GpuRow) : List Char :=
  row.capability ++ ',' :: ' ' :: row.driver

def gpu (row : GpuRow) : Gpu where
  computeCapability :=
    .num (row.major + row.minor / 10 ^ (digits row.minor).length)
  driverMajor := row.driverMajor

end GpuRow

theorem ne_of_isDigit {c d : Char} (hc : c.isDigit = false) (hd : d.isDigit) :
    decide (d ≠ c) = true := by
  rw [decide_eq_true_eq]
  rintro rfl
  exact absurd hd (by simp [hc])

theorem takeWhile_digits {c : Char} (hc : c.isDigit = false) (n : Nat)
    (rest : List Char) :
    (digits n ++ c :: rest).takeWhile (· ≠ c) = digits n := by
  rw [List.takeWhile_append_of_pos fun d hd =>
      ne_of_isDigit hc (isDigit_digits hd),
    List.takeWhile_cons_of_neg (by simp), List.append_nil]

theorem dropWhile_digits {c : Char} (hc : c.isDigit = false) (n : Nat)
    (rest : List Char) :
    (digits n ++ c :: rest).dropWhile (· ≠ c) = c :: rest := by
  rw [List.dropWhile_append_of_pos fun d hd =>
      ne_of_isDigit hc (isDigit_digits hd),
    List.dropWhile_cons_of_neg (by simp)]

theorem PyFloat.mantissa?_decimal (a b : Nat) :
    mantissa? (digits a ++ '.' :: digits b) =
      some ((a : Rat) + b / 10 ^ (digits b).length) := by
  have hpoint : '.'.isDigit = false := by decide
  have hdigits : (digits b).filter Char.isDigit = digits b :=
    List.filter_eq_self.mpr fun d hd => isDigit_digits hd
  simp only [mantissa?, dropWhile_digits hpoint, takeWhile_digits hpoint,
    digits_ne_nil, if_false, digitsToNat?_digits, hdigits, false_and]
  rfl

theorem toLower_of_isDigit {c : Char} (hc : c.isDigit) : c.toLower = c := by
  obtain ⟨-, hhigh⟩ := Char.isDigit_iff_toNat.mp hc
  have hnine : '9'.toNat = 57 := rfl
  have hupper : ¬(c.val ≥ 'A'.val ∧ c.val ≤ 'Z'.val) := by
    rintro ⟨hlow, -⟩
    have hlow' : 65 ≤ c.toNat := hlow
    omega
  exact dif_neg hupper

theorem PyFloat.unsigned?_of_digit {c : Char} (hc : c.isDigit)
    (rest : List Char) :
    unsigned? (c :: rest) = (decimal? (c :: rest)).map .num := by
  have hname : ∀ (d : Char) (name : List Char), d.isDigit = false →
      lower (String.ofList (c :: rest)) ≠ String.ofList (d :: name) := by
    intro d name hd heq
    have hlist := congrArg String.toList heq
    rw [lower, String.toList_ofList, String.toList_ofList, String.toList_ofList,
      List.map_cons, toLower_of_isDigit hc] at hlist
    obtain ⟨rfl, -⟩ := List.cons.inj hlist
    exact absurd hc (by simp [hd])
  have hinf : lower (String.ofList (c :: rest)) ≠ "inf" :=
    hname 'i' ['n', 'f'] (by decide)
  have hinfinity : lower (String.ofList (c :: rest)) ≠ "infinity" :=
    hname 'i' ['n', 'f', 'i', 'n', 'i', 't', 'y'] (by decide)
  have hnan : lower (String.ofList (c :: rest)) ≠ "nan" :=
    hname 'n' ['a', 'n'] (by decide)
  simp only [unsigned?, hinf, hinfinity, hnan, or_self, if_false]

theorem PyFloat.decimal?_of_mantissa {text : List Char}
    (h : ∀ c ∈ text, c.isDigit ∨ c = '.') : decimal? text = mantissa? text := by
  have hplain : ∀ c ∈ text, decide (c ≠ 'e' ∧ c ≠ 'E') = true := by
    intro c hc
    rw [decide_eq_true_eq]
    rcases h c hc with hdigit | rfl
    · constructor <;> rintro rfl <;> exact absurd hdigit (by decide)
    · decide
  simp only [decimal?, List.takeWhile_eq_self_iff.mpr hplain,
    List.dropWhile_eq_nil_iff.mpr hplain]

theorem PyFloat.parse?_decimal (a b : Nat) :
    parse? (digits a ++ '.' :: digits b) =
      some (.num (a + b / 10 ^ (digits b).length)) := by
  have hpieces : ∀ d ∈ digits a ++ '.' :: digits b, d.isDigit ∨ d = '.' := by
    simp only [List.forall_mem_append, List.forall_mem_cons]
    exact ⟨fun d hd => .inl (isDigit_digits hd), .inr trivial,
      fun d hd => .inl (isDigit_digits hd)⟩
  have hascii : ∀ d ∈ digits a ++ '.' :: digits b,
      32 < d.toNat ∧ d.toNat < 128 := by
    intro d hd
    rcases hpieces d hd with hdigit | rfl
    · exact ascii_of_isDigit hdigit
    · decide
  have hdecimal := (decimal?_of_mantissa hpieces).trans (mantissa?_decimal a b)
  rw [parse?, map_asciiDigit fun d hd => (hascii d hd).2,
    Text.trim_kept fun d hd => Text.isNumberSpace_of_lt (hascii d hd)]
  have hall : ∀ c ∈ digits a, c.isDigit := fun c => isDigit_digits
  cases hdigits : digits a with
  | nil => exact absurd hdigits (digits_ne_nil a)
  | cons c rest =>
      rw [hdigits] at hdecimal hall
      have hc := hall c (by simp)
      rw [List.cons_append] at hdecimal ⊢
      split
      · next heq =>
          obtain ⟨rfl, -⟩ := List.cons.inj heq
          exact absurd hc (by decide)
      · next heq =>
          obtain ⟨rfl, -⟩ := List.cons.inj heq
          exact absurd hc (by decide)
      · rw [unsigned?_of_digit hc, hdecimal]
        rfl

namespace GpuRow

theorem ascii_driver (row : GpuRow) :
    ∀ c ∈ row.driver, c ≠ ',' ∧ 32 < c.toNat ∧ c.toNat < 128 := by
  have hdigit : ∀ c : Char, c.isDigit → c ≠ ',' ∧ 32 < c.toNat ∧ c.toNat < 128 := by
    intro c hc
    refine ⟨?_, ascii_of_isDigit hc⟩
    rintro rfl
    exact absurd hc (by decide)
  simp only [driver, List.forall_mem_append, List.forall_mem_cons]
  refine ⟨fun c hc => hdigit c (isDigit_digits hc), by decide, fun c hc => ?_⟩
  rcases row.version c hc with h | rfl
  · exact hdigit c h
  · decide

theorem ascii_capability (row : GpuRow) :
    ∀ c ∈ row.capability, c ≠ ',' ∧ 32 < c.toNat ∧ c.toNat < 128 :=
  ascii_driver ⟨0, 0, row.major, digits row.minor,
    fun _ hc => .inl (isDigit_digits hc)⟩

theorem shows_text (row : GpuRow) : Shows row.text row.gpu := by
  refine ⟨row.capability, ' ' :: row.driver, [], by simp [text], ?_, ?_, ?_⟩
  · intro field hfield
    simp only [List.mem_cons, List.not_mem_nil, or_false] at hfield
    rcases hfield with rfl | rfl
    · exact fun hmem => (row.ascii_capability ',' hmem).1 rfl
    · rw [List.mem_cons, not_or]
      exact ⟨by decide, fun hmem => (row.ascii_driver ',' hmem).1 rfl⟩
  · have hstrip : Text.strip row.capability = row.capability :=
      Text.trim_kept fun c hc => Text.isSpace_of_lt (row.ascii_capability c hc).2
    rw [hstrip]
    exact PyFloat.parse?_decimal row.major row.minor
  · have hstrip : Text.strip (' ' :: row.driver) = row.driver :=
      @Text.trim_append Text.isSpace [' '] row.driver
        (List.forall_mem_singleton.mpr (by decide))
        fun c hc => Text.isSpace_of_lt (row.ascii_driver c hc).2
    rw [hstrip, driver, takeWhile_digits (by decide), parseInt?_digits]
    rfl

end GpuRow

/-! ## What the loop finds out -/

theorem foldl_remembers {σ α : Type} {step : σ → α → σ} {I P : σ → Prop}
    {Q : α → Prop} (hkeep : ∀ s a, I s → I (step s a))
    (hstep : ∀ s a, I s → (P (step s a) ↔ P s ∨ Q a)) (items : List α) {s : σ}
    (hs : I s) : P (items.foldl step s) ↔ P s ∨ ∃ item ∈ items, Q item := by
  induction items generalizing s with
  | nil => simp
  | cons item items ih =>
      rw [List.foldl_cons, ih (hkeep s item hs), hstep s item hs]
      simp [or_assoc]

def Extremes.Numeric (extremes : Extremes) : Prop :=
  extremes.maxCompute ≠ .nan ∧ extremes.minCompute ≠ .nan

theorem Extremes.Numeric.add {extremes : Extremes} (h : extremes.Numeric)
    (line : List Char) : (extremes.add line).Numeric := by
  unfold Extremes.add
  cases readGpu line with
  | none => exact h
  | some gpu => exact ⟨PyFloat.max_ne_nan h.1 _, PyFloat.min_ne_nan h.2 _⟩

theorem Extremes.atLeast_add {extremes : Extremes} (h : extremes.Numeric)
    (bound : Rat) (line : List Char) :
    (extremes.add line).maxCompute.atLeast bound ↔
      extremes.maxCompute.atLeast bound ∨
        ∃ gpu ∈ readGpu line, gpu.computeCapability.atLeast bound := by
  unfold Extremes.add
  cases readGpu line with
  | none => simp
  | some gpu => simpa using PyFloat.atLeast_max h.1 gpu.computeCapability

theorem Extremes.below_add {extremes : Extremes} (h : extremes.Numeric)
    (bound : Rat) (line : List Char) :
    (extremes.add line).minCompute.below bound ↔
      extremes.minCompute.below bound ∨
        ∃ gpu ∈ readGpu line, gpu.computeCapability.below bound := by
  unfold Extremes.add
  cases readGpu line with
  | none => simp
  | some gpu => simpa using PyFloat.below_min h.2 gpu.computeCapability

theorem Extremes.driver_add (extremes : Extremes) (bound : Int)
    (line : List Char) :
    (extremes.add line).minDriverMajor < bound ↔
      extremes.minDriverMajor < bound ∨
        ∃ gpu ∈ readGpu line, gpu.driverMajor < bound := by
  unfold Extremes.add
  cases readGpu line with
  | none => simp
  | some gpu => simp

theorem exists_parsedGpus {csv : String} {Q : Gpu → Prop} :
    (∃ line ∈ Text.splitLines csv.toList, ∃ gpu ∈ readGpu line, Q gpu) ↔
      ∃ gpu ∈ parsedGpus csv, Q gpu := by
  simp only [parsedGpus, List.mem_filterMap, Option.mem_def]
  constructor
  · rintro ⟨line, hline, gpu, hgpu, hq⟩
    exact ⟨gpu, ⟨line, hline, hgpu⟩, hq⟩
  · rintro ⟨gpu, ⟨line, hline, hgpu⟩, hq⟩
    exact ⟨line, hline, gpu, hgpu, hq⟩

/--
What the loop remembers of the lines is what there is among the GPUs, if it
does not hold of the values that the loop starts with.
-/
theorem extremes_remember {P : Extremes → Prop} {Q : Gpu → Prop}
    (hadd : ∀ extremes line, extremes.Numeric →
      (P (extremes.add line) ↔ P extremes ∨ ∃ gpu ∈ readGpu line, Q gpu))
    (hstart : ¬P {}) (csv : String) :
    P ((Text.splitLines csv.toList).foldl Extremes.add {}) ↔
      ∃ gpu ∈ parsedGpus csv, Q gpu := by
  have hnumeric : ({} : Extremes).Numeric := ⟨by simp, by simp⟩
  rw [foldl_remembers (fun _ line h => h.add line) hadd _ hnumeric,
    exists_parsedGpus, or_iff_right hstart]

theorem pickVllmImage_cases (csv : String) :
    pickVllmImage csv = .cu12 ↔
      ¬(∃ gpu ∈ parsedGpus csv, gpu.computeCapability.atLeast 12) ∧
        ((∃ gpu ∈ parsedGpus csv, gpu.computeCapability.below (89 / 10)) ∨
          ∃ gpu ∈ parsedGpus csv, gpu.driverMajor < 580) := by
  have hmax := extremes_remember (P := fun s => s.maxCompute.atLeast 12)
    (fun _ line h => Extremes.atLeast_add h 12 line) (by decide +kernel) csv
  have hmin := extremes_remember
    (P := fun s => s.minCompute.below (89 / 10))
    (fun _ line h => Extremes.below_add h (89 / 10) line)
    (by decide +kernel) csv
  have hdriver := extremes_remember (P := fun s => s.minDriverMajor < 580)
    (fun s line _ => Extremes.driver_add s 580 line) (by decide) csv
  rw [← hmax, ← hmin, ← hdriver]
  unfold pickVllmImage
  generalize (Text.splitLines csv.toList).foldl Extremes.add {} = extremes
  by_cases hblackwell : extremes.maxCompute.atLeast 12
  · simp [hblackwell]
  · by_cases hold : extremes.minCompute.below (89 / 10)
    · simp [hblackwell, hold]
    · by_cases hdriver : extremes.minDriverMajor < 580
      · simp [hblackwell, hold, hdriver,
          show extremes.minDriverMajor ≠ 9999 by omega]
      · simp [hblackwell, hold, hdriver]

theorem VllmImage.eq_cu130_iff {image : VllmImage} :
    image = .cu130 ↔ image ≠ .cu12 := by
  cases image <;> simp

theorem pickVllmImage_congr {csv csv' : String}
    (h : ∀ gpu, gpu ∈ parsedGpus csv ↔ gpu ∈ parsedGpus csv') :
    pickVllmImage csv = pickVllmImage csv' := by
  have hiff : pickVllmImage csv = .cu12 ↔ pickVllmImage csv' = .cu12 := by
    simp only [pickVllmImage_cases, h]
  cases hpick : pickVllmImage csv <;> cases hpick' : pickVllmImage csv' <;>
    simp_all

theorem atLeast_of_not_below {x : PyFloat} {bound : Rat} (hx : x ≠ .nan)
    (h : ¬x.below bound) : x.atLeast bound := by
  cases x with
  | num q => simpa [PyFloat.atLeast, PyFloat.below] using h
  | _ => simp_all [PyFloat.atLeast, PyFloat.below]

theorem not_below_of_atLeast {x : PyFloat} {bound bound' : Rat}
    (h : x.atLeast bound = true) (hle : bound' ≤ bound) :
    x.below bound' = false := by
  cases x with
  | num q =>
      have hq : bound ≤ q := by simpa [PyFloat.atLeast] using h
      simpa [PyFloat.below] using hle.trans hq
  | _ => simp_all [PyFloat.atLeast, PyFloat.below]

theorem picks_cu130 {csv : String}
    (hruns : ∀ gpu ∈ parsedGpus csv, VllmImage.cu130.runsOn gpu) :
    pickVllmImage csv = .cu130 := by
  rw [VllmImage.eq_cu130_iff, Ne, pickVllmImage_cases]
  rintro ⟨-, ⟨old, hold, hbelow⟩ | ⟨old, hold, hdriver⟩⟩
  · have hnew := hruns old hold
    simp only [VllmImage.runsOn, Bool.and_eq_true] at hnew
    rw [not_below_of_atLeast hnew.1 le_rfl] at hbelow
    cases hbelow
  · have hnew := hruns old hold
    simp only [VllmImage.runsOn, Bool.and_eq_true, decide_eq_true_eq] at hnew
    omega

theorem cu130_runsOn {csv : String} (hpick : pickVllmImage csv = .cu130)
    (hruns : ∀ gpu ∈ parsedGpus csv, VllmImage.cu12.runsOn gpu) :
    ∀ gpu ∈ parsedGpus csv, VllmImage.cu130.runsOn gpu := by
  have hnew : ¬∃ gpu ∈ parsedGpus csv, gpu.computeCapability.atLeast 12 := by
    rintro ⟨new, hmem, hatLeast⟩
    have hbelow := hruns new hmem
    simp only [VllmImage.runsOn] at hbelow
    rw [not_below_of_atLeast hatLeast le_rfl] at hbelow
    cases hbelow
  rw [VllmImage.eq_cu130_iff, Ne, pickVllmImage_cases] at hpick
  simp only [hnew, not_false_eq_true, true_and, not_or, not_exists,
    not_and] at hpick
  intro gpu hgpu
  have hnum : gpu.computeCapability ≠ .nan := by
    intro hnan
    have hcu12 := hruns gpu hgpu
    simp [VllmImage.runsOn, hnan, PyFloat.below] at hcu12
  have hcapable := atLeast_of_not_below hnum (hpick.1 gpu hgpu)
  have hdriver := hpick.2 gpu hgpu
  simp only [VllmImage.runsOn, hcapable, Bool.true_and, decide_eq_true_eq]
  omega

/--
When one of the images runs on every GPU that is shown, the one that is picked
does; and the pick does not depend on the order or the repetition of the lines.
-/
theorem pickVllmImage_runs (csv : String) :
    ((∃ image : VllmImage, ∀ gpu, ShownIn csv gpu → image.runsOn gpu) →
      ∀ gpu, ShownIn csv gpu → (pickVllmImage csv).runsOn gpu) ∧
    ∀ csv', (∀ line, line ∈ Text.splitLines csv.toList ↔
        line ∈ Text.splitLines csv'.toList) →
      pickVllmImage csv = pickVllmImage csv' := by
  simp only [← mem_parsedGpus_iff]
  refine ⟨?_, fun csv' h => pickVllmImage_congr fun gpu => ?_⟩
  · rintro ⟨image, hruns⟩
    cases image with
    | cu130 =>
        rw [picks_cu130 hruns]
        exact hruns
    | cu12 =>
        cases hpick : pickVllmImage csv with
        | cu12 => exact hruns
        | cu130 => exact cu130_runsOn hpick hruns
  · simp only [parsedGpus, List.mem_filterMap, h]

/-- Ada with a driver from before 580 and Ampere with a newer one. -/
def mixedGpus : List GpuRow :=
  [⟨8, 9, 570, ['8', '6', '.', '1', '5'], by simp⟩,
    ⟨8, 6, 580, ['6', '5', '.', '0', '6'], by simp⟩]

theorem pickVllmImage_runs_mixed : ∀ row ∈ mixedGpus,
    (pickVllmImage "8.9, 570.86.15\n8.6, 580.65.06").runsOn row.gpu := by
  have hruns : ∀ gpu, ShownIn "8.9, 570.86.15\n8.6, 580.65.06" gpu →
      VllmImage.cu12.runsOn gpu := by
    simp only [← mem_parsedGpus_iff]
    decide +kernel
  have hshown : ∀ row ∈ mixedGpus,
      ShownIn "8.9, 570.86.15\n8.6, 580.65.06" row.gpu := fun row hrow =>
    ⟨row.text, by revert row; decide +kernel, row.shows_text⟩
  exact fun row hrow => (pickVllmImage_runs _).1 ⟨.cu12, hruns⟩ row.gpu
    (hshown row hrow)

end NodeAgent
