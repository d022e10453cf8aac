import NodeAgent.Domain.VllmImage
import NodeAgent.Foundation.Pattern
import Mathlib.Tactic.NormNum

/-!
# The memory and network figures of a pod

Two quantities with a slash between, as `docker stats` prints them.  The pattern
takes the units in any letter case, the table of scales in one spelling each.
-/

namespace NodeAgent

namespace PodStats

open Decimal

/-! ## Numbers -/

/-- `float(text)` of digits and points, in which no sign or exponent stands. -/
def float (text : List Char) : Option Rat :=
  PyFloat.mantissa? (text.map asciiDigit)

/-! ## The pattern -/

/-- `[\d.]` -/
def isNumberChar (c : Char) : Bool := (decimalDigit? c).isSome || c = '.'

/-- `[KMGT]` in any letter case, to which the Kelvin sign belongs. -/
def multiples : List Char := ['K', 'M', 'G', 'T', 'k', 'm', 'g', 't', '\u212a']

/-- `i` in any letter case, to which the dotted and the dotless one belong. -/
def binaryMarks : List Char := ['i', 'I', '\u0130', '\u0131']

/-- `B` in any letter case -/
def byteMarks : List Char := ['B', 'b']

/-- `([\d.]+)\s*([KMGT]?i?B)` -/
def quantityItems : List Pattern.Item :=
  [.some isNumberChar, .many Text.isSpace, .optional (· ∈ multiples),
    .optional (· ∈ binaryMarks), .one (· ∈ byteMarks)]

def usageItems : List Pattern.Item :=
  quantityItems ++ [.many Text.isSpace, .one (· = '/'), .many Text.isSpace] ++
    quantityItems

def memRe : List Pattern.Item := usageItems

def netRe : List Pattern.Item := usageItems

structure Quantity where
  number : List Char
  multiple : List Char
  binary : List Char
  byte : List Char
  deriving DecidableEq

def Quantity.unit (quantity : Quantity) : String :=
  String.ofList (quantity.multiple ++ quantity.binary ++ quantity.byte)

def quantities : List (List Char) → Option (Quantity × Quantity)
  | [n, _, k, i, b, _, _, _, n', _, k', i', b'] =>
      some (⟨n, k, i, b⟩, ⟨n', k', i', b'⟩)
  | _ => none

def searchQuantities (re : List Pattern.Item) (text : String) :
    Option (Quantity × Quantity) :=
  (Pattern.search re text.toList).bind quantities

/-! ## The figures -/

def unitScale : List (String × Rat) :=
  [("B", 1), ("KB", 10 ^ 3), ("MB", 10 ^ 6), ("GB", 10 ^ 9), ("TB", 10 ^ 12),
    ("KiB", 1024), ("MiB", 1024 ^ 2), ("GiB", 1024 ^ 3), ("TiB", 1024 ^ 4)]

def toBytes (value : Rat) (unit : String) : Rat :=
  value * (unitScale.lookup unit).getD 1

def toMb (value : Rat) (unit : String) : Rat := toBytes value unit / 10 ^ 6

/-- `none` is a pair of absent figures: no match, or a number `float` rejects. -/
def parseUsage (re : List Pattern.Item) (convert : Rat → String → Rat)
    (text : String) : Option (Rat × Rat) := do
  let (first, second) ← searchQuantities re text
  let x ← float first.number
  let y ← float second.number
  some (convert x first.unit, convert y second.unit)

def parseMemUsage : String → Option (Rat × Rat) := parseUsage memRe toMb

def parseNetIo : String → Option (Rat × Rat) := parseUsage netRe toBytes

example : parseMemUsage "512MiB / 16GiB" =
    some (512 * 1024 ^ 2 / 10 ^ 6, 16 * 1024 ^ 3 / 10 ^ 6) := by
  decide +kernel

/-! ## What a unit stands for -/

/-- How many steps of a thousand a unit is above the byte. -/
def Quantity.power (quantity : Quantity) : Nat :=
  match quantity.multiple with
  | [c] =>
      if c ∈ ['K', 'k', '\u212a'] then 1
      else if c ∈ ['M', 'm'] then 2
      else if c ∈ ['G', 'g'] then 3
      else 4
  | _ => 0

def Quantity.scale (quantity : Quantity) : Rat :=
  (if quantity.binary = [] then 1000 else 1024) ^ quantity.power

/-- The unit is written as the table has it. -/
def Quantity.Listed (quantity : Quantity) : Prop :=
  quantity.unit ∈ unitScale.map Prod.fst

/-- What the pattern takes for a unit. -/
structure Quantity.Accepted (quantity : Quantity) : Prop where
  multiple : quantity.multiple = [] ∨ ∃ c ∈ multiples, quantity.multiple = [c]
  binary : quantity.binary = [] ∨ ∃ c ∈ binaryMarks, quantity.binary = [c]
  byte : ∃ c ∈ byteMarks, quantity.byte = [c]

theorem takes_optional {accepts : Char → Bool} {piece : List Char}
    (h : (Pattern.Item.optional accepts).Takes piece) :
    piece = [] ∨ ∃ c, accepts c ∧ piece = [c] := by
  have hmost := h.most 1 rfl
  match piece, h.accepted, hmost with
  | [], _, _ => exact .inl rfl
  | [c], haccepted, _ => exact .inr ⟨c, haccepted c (List.mem_singleton_self c), rfl⟩

theorem takes_one {accepts : Char → Bool} {piece : List Char}
    (h : (Pattern.Item.one accepts).Takes piece) :
    ∃ c, accepts c ∧ piece = [c] := by
  have hleast := h.least
  have hmost := h.most 1 rfl
  match piece, h.accepted, hleast, hmost with
  | [c], haccepted, _, _ => exact ⟨c, haccepted c (List.mem_singleton_self c), rfl⟩

theorem accepted_of_takes {number multiple binary byte : List Char}
    (hmultiple : (Pattern.Item.optional (· ∈ multiples)).Takes multiple)
    (hbinary : (Pattern.Item.optional (· ∈ binaryMarks)).Takes binary)
    (hbyte : (Pattern.Item.one (· ∈ byteMarks)).Takes byte) :
    Quantity.Accepted ⟨number, multiple, binary, byte⟩ where
  multiple := by simpa using takes_optional hmultiple
  binary := by simpa using takes_optional hbinary
  byte := by simpa using takes_one hbyte

theorem accepted_of_search {text : String} {first second : Quantity}
    (h : searchQuantities usageItems text = some (first, second)) :
    first.Accepted ∧ second.Accepted := by
  obtain ⟨pieces, hsearch, hpieces⟩ := Option.bind_eq_some_iff.mp h
  obtain ⟨htakes, -⟩ := Pattern.search_sound hsearch
  unfold usageItems quantityItems at htakes
  match pieces, htakes with
  | _, .cons _ (.cons _ (.cons hmultiple (.cons hbinary (.cons hbyte (.cons _
      (.cons _ (.cons _ (.cons _ (.cons _ (.cons hmultiple' (.cons hbinary'
        (.cons hbyte' .nil)))))))))))) =>
      obtain ⟨rfl, rfl⟩ := Prod.mk.inj (Option.some.inj hpieces)
      exact ⟨accepted_of_takes hmultiple hbinary hbyte,
        accepted_of_takes hmultiple' hbinary' hbyte'⟩

instance (quantity : Quantity) : Decidable quantity.Listed :=
  inferInstanceAs (Decidable (_ ∈ _))

/-- A unit is listed with its scale, or it is not listed and reads as bytes. -/
def Quantity.Looked (quantity : Quantity) : Prop :=
  quantity.multiple = [] ∧ quantity.scale = 1 ∧
      (unitScale.lookup quantity.unit).getD 1 = 1 ∨
    quantity.Listed ∧ unitScale.lookup quantity.unit = some quantity.scale ∨
    ¬quantity.Listed ∧ quantity.multiple ≠ [] ∧ quantity.scale ≠ 1 ∧
      unitScale.lookup quantity.unit = none

instance (quantity : Quantity) : Decidable quantity.Looked :=
  inferInstanceAs (Decidable (_ ∨ _))

def letters (marks : List Char) : List (List Char) := marks.map fun c => [c]

theorem looked_spellings :
    (([] :: letters multiples).all fun multiple =>
      ([] :: letters binaryMarks).all fun binary =>
        (letters byteMarks).all fun byte =>
          decide (Quantity.Looked ⟨[], multiple, binary, byte⟩)) := by
  decide +kernel

theorem mem_letters {marks piece : List Char}
    (h : ∃ c ∈ marks, piece = [c]) : piece ∈ letters marks := by
  obtain ⟨c, hc, rfl⟩ := h
  exact List.mem_map_of_mem hc

theorem Quantity.Accepted.looked {quantity : Quantity}
    (h : quantity.Accepted) : quantity.Looked := by
  have hmultiple : quantity.multiple ∈ [] :: letters multiples :=
    List.mem_cons.mpr (h.multiple.imp_right mem_letters)
  have hbinary : quantity.binary ∈ [] :: letters binaryMarks :=
    List.mem_cons.mpr (h.binary.imp_right mem_letters)
  have hspelling := List.all_eq_true.mp (List.all_eq_true.mp
    (List.all_eq_true.mp looked_spellings _ hmultiple) _ hbinary) _
      (mem_letters h.byte)
  exact of_decide_eq_true hspelling

/-- When the scale of the unit does not go lost. -/
def Quantity.Counted (quantity : Quantity) (value : Rat) : Prop :=
  value = 0 ∨ quantity.Listed ∨ quantity.multiple = []

theorem toBytes_iff {quantity : Quantity} (h : quantity.Accepted)
    (value : Rat) :
    toBytes value quantity.unit = value * quantity.scale ↔
      quantity.Counted value := by
  unfold toBytes Quantity.Counted
  rcases h.looked with ⟨hbytes, hscale, hlookup⟩ | ⟨hlisted, hlookup⟩ |
    ⟨hunlisted, hmultiple, hscale, hlookup⟩
  · simp [hbytes, hscale, hlookup]
  · simp [hlisted, hlookup]
  · have hlost : value = value * quantity.scale ↔ value = 0 := by
      rw [eq_comm, mul_right_eq_self₀]
      exact or_iff_right hscale
    simp only [hlookup, hunlisted, hmultiple, Option.getD_none, mul_one,
      or_false]
    exact hlost

/-! ## What is reported -/

/-- A text that matches, with two numbers that `float` reads. -/
structure Usage where
  text : String
  first : Quantity
  second : Quantity
  x : Rat
  y : Rat
  matched : searchQuantities usageItems text = some (first, second)
  float_first : float first.number = some x
  float_second : float second.number = some y

namespace Usage

/-- What the text says, in bytes. -/
def bytes (usage : Usage) : Rat × Rat :=
  (usage.x * usage.first.scale, usage.y * usage.second.scale)

def Counted (usage : Usage) : Prop :=
  usage.first.Counted usage.x ∧ usage.second.Counted usage.y

/-- Both parsers report what the text says. -/
def Reported (usage : Usage) : Prop :=
  parseNetIo usage.text = some usage.bytes ∧
    parseMemUsage usage.text =
      some (usage.bytes.1 / 10 ^ 6, usage.bytes.2 / 10 ^ 6)

theorem parseUsage_eq (usage : Usage) (convert : Rat → String → Rat) :
    parseUsage usageItems convert usage.text =
      some (convert usage.x usage.first.unit,
        convert usage.y usage.second.unit) := by
  simp [parseUsage, usage.matched, usage.float_first, usage.float_second]

theorem parseNetIo_iff (usage : Usage) :
    parseNetIo usage.text = some usage.bytes ↔ usage.Counted := by
  obtain ⟨hfirst, hsecond⟩ := accepted_of_search usage.matched
  unfold parseNetIo netRe
  rw [usage.parseUsage_eq, Option.some.injEq, bytes, Prod.mk.injEq,
    toBytes_iff hfirst, toBytes_iff hsecond]
  rfl

theorem parseMemUsage_iff (usage : Usage) :
    parseMemUsage usage.text =
        some (usage.bytes.1 / 10 ^ 6, usage.bytes.2 / 10 ^ 6) ↔
      usage.Counted := by
  have hmega : ∀ a b : Rat, a / 10 ^ 6 = b / 10 ^ 6 ↔ a = b := fun a b =>
    div_left_inj' (by norm_num)
  obtain ⟨hfirst, hsecond⟩ := accepted_of_search usage.matched
  unfold parseMemUsage memRe
  rw [usage.parseUsage_eq, Option.some.injEq, bytes, Prod.mk.injEq, toMb, toMb,
    hmega, hmega, toBytes_iff hfirst, toBytes_iff hsecond]
  rfl

/--
The figures are the numbers times the scales of their units exactly if each
number is zero, or its unit is a plain byte or one that the table has in that
spelling.  Of such texts, those that say the same give the same figures.
-/
theorem reported_iff (usage : Usage) :
    (usage.Reported ↔ usage.Counted) ∧
      ∀ other : Usage, usage.Counted → other.Counted →
        usage.bytes = other.bytes →
        parseNetIo usage.text = parseNetIo other.text ∧
          parseMemUsage usage.text = parseMemUsage other.text := by
  constructor
  · unfold Reported
    rw [parseNetIo_iff, parseMemUsage_iff, and_self]
  · intro other hcounted hother hbytes
    rw [usage.parseNetIo_iff.mpr hcounted, other.parseNetIo_iff.mpr hother,
      usage.parseMemUsage_iff.mpr hcounted,
      other.parseMemUsage_iff.mpr hother, hbytes]
    exact ⟨rfl, rfl⟩

/-- The network figures of a pod, as `docker stats` writes thousands. -/
def thousands : Usage where
  text := "1kB / 2kB"
  first := ⟨['1'], ['k'], [], ['B']⟩
  second := ⟨['2'], ['k'], [], ['B']⟩
  x := 1
  y := 2
  matched := by decide +kernel
  float_first := by decide +kernel
  float_second := by decide +kernel

theorem reported_thousands : ¬thousands.Reported := by
  rintro ⟨hnet, -⟩
  have hbytes : parseNetIo thousands.text = some (1, 2) := by decide +kernel
  rw [hbytes] at hnet
  exact absurd hnet (by decide +kernel)

end Usage

end PodStats

end NodeAgent
