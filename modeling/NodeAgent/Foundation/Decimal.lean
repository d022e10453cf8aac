import Mathlib.Data.List.Basic

/-!
# Numbers as decimal text
-/

namespace Decimal

theorem int_repr_ne {text : String} {c : Char} (hc : c ∈ text.toList)
    (hsign : c ≠ '-') (hdigit : ¬c.isDigit) (z : Int) : z.repr ≠ text := by
  rintro rfl
  have hdigits : ∀ n : Nat, c ∉ (Nat.repr n).toList := by
    intro n hmem
    rw [Nat.toList_repr] at hmem
    exact hdigit (Nat.isDigit_of_mem_toDigits (by omega) (by omega) hmem)
  cases z with
  | ofNat n => exact hdigits n hc
  | negSucc n =>
      have hneg : (Int.negSucc n).repr = "-" ++ Nat.repr (n + 1) := rfl
      rw [hneg, String.toList_append, List.mem_append] at hc
      rcases hc with hhead | htail
      · simp at hhead
        exact hsign hhead
      · exact hdigits _ htail

theorem mem_int_repr {c : Char} {z : Int} (hc : c ∈ z.repr.toList) :
    c = '-' ∨ c.isDigit := by
  by_contra hother
  rw [not_or] at hother
  exact int_repr_ne hc hother.1 hother.2 z rfl

theorem int_repr_ne_empty (z : Int) : z.repr ≠ "" := by
  cases z with
  | ofNat n =>
      intro h
      have hdigits := congrArg String.toList h
      rw [show (Int.ofNat n).repr = Nat.repr n from rfl, Nat.toList_repr]
        at hdigits
      exact absurd (congrArg List.length hdigits)
        (Nat.ne_of_gt Nat.length_toDigits_pos)
  | negSucc n =>
      intro h
      have hsign : ("-" ++ Nat.repr (n + 1)).toList = "".toList :=
        congrArg String.toList h
      simp at hsign

theorem digitChar_injective {a b : Nat} (ha : a < 10) (hb : b < 10)
    (h : a.digitChar = b.digitChar) : a = b := by
  have hval := congrArg Char.toNat h
  rw [Nat.toNat_digitChar_of_lt_ten ha, Nat.toNat_digitChar_of_lt_ten hb] at hval
  omega

theorem toDigits_injective {m n : Nat}
    (h : Nat.toDigits 10 m = Nat.toDigits 10 n) : m = n := by
  have hlen : ∀ k : Nat, 0 < (Nat.toDigits 10 k).length :=
    fun k => Nat.length_toDigits_pos
  have hstep : ∀ k : Nat, 10 ≤ k → Nat.toDigits 10 k =
      Nat.toDigits 10 (k / 10) ++ [(k % 10).digitChar] :=
    fun k hk => Nat.toDigits_of_base_le (by omega) hk
  induction m using Nat.strongRecOn generalizing n with
  | ind m ih =>
      by_cases hm : m < 10 <;> by_cases hn : n < 10
      · rw [Nat.toDigits_of_lt_base hm, Nat.toDigits_of_lt_base hn] at h
        exact digitChar_injective hm hn (by simpa using h)
      · rw [Nat.toDigits_of_lt_base hm, hstep n (by omega)] at h
        have hlength := congrArg List.length h
        have := hlen (n / 10)
        simp only [List.length_append, List.length_singleton] at hlength
        omega
      · rw [Nat.toDigits_of_lt_base hn, hstep m (by omega)] at h
        have hlength := congrArg List.length h
        have := hlen (m / 10)
        simp only [List.length_append, List.length_singleton] at hlength
        omega
      · rw [hstep m (by omega), hstep n (by omega)] at h
        obtain ⟨hinit, hlast⟩ := List.append_inj' h rfl
        have hdiv := ih (m / 10) (by omega) hinit
        have hmod := digitChar_injective (Nat.mod_lt m (by omega))
          (Nat.mod_lt n (by omega)) (by simpa using hlast)
        omega

theorem nat_repr_injective {m n : Nat} (h : m.repr = n.repr) : m = n := by
  apply toDigits_injective
  rw [← Nat.toList_repr, ← Nat.toList_repr, h]

theorem int_repr_injective {y z : Int} (h : y.repr = z.repr) : y = z := by
  have hsign : ∀ m n : Nat, (Int.negSucc m).repr ≠ (Int.ofNat n).repr := by
    intro m n heq
    have hmem : '-' ∈ (Nat.repr n).toList := by
      rw [show Nat.repr n = (Int.negSucc m).repr from heq.symm,
        show (Int.negSucc m).repr = "-" ++ Nat.repr (m + 1) from rfl]
      simp
    rw [Nat.toList_repr] at hmem
    exact absurd (Nat.isDigit_of_mem_toDigits (by omega) (by omega) hmem)
      (by decide)
  cases y with
  | ofNat m =>
      cases z with
      | ofNat n => exact congrArg Int.ofNat (nat_repr_injective h)
      | negSucc n => exact absurd h.symm (hsign n m)
  | negSucc m =>
      cases z with
      | ofNat n => exact absurd h (hsign m n)
      | negSucc n =>
          have hrest : Nat.repr (m + 1) = Nat.repr (n + 1) :=
            String.append_right_inj "-" |>.mp h
          have hsucc := nat_repr_injective hrest
          rw [Nat.succ.inj hsucc]

/-! ## Digits -/

def decimalZeros : List Nat :=
  [0x30, 0x660, 0x6f0, 0x7c0, 0x966, 0x9e6, 0xa66, 0xae6, 0xb66, 0xbe6, 0xc66,
    0xce6, 0xd66, 0xde6, 0xe50, 0xed0, 0xf20, 0x1040, 0x1090, 0x17e0, 0x1810,
    0x1946, 0x19d0, 0x1a80, 0x1a90, 0x1b50, 0x1bb0, 0x1c40, 0x1c50, 0xa620,
    0xa8d0, 0xa900, 0xa9d0, 0xa9f0, 0xaa50, 0xabf0, 0xff10, 0x104a0, 0x10d30,
    0x11066, 0x110f0, 0x11136, 0x111d0, 0x112f0, 0x11450, 0x114d0, 0x11650,
    0x116c0, 0x11730, 0x118e0, 0x11950, 0x11c50, 0x11d50, 0x11da0, 0x16a60,
    0x16ac0, 0x16b50, 0x1d7ce, 0x1d7d8, 0x1d7e2, 0x1d7ec, 0x1d7f6, 0x1e140,
    0x1e2f0, 0x1e950, 0x1fbf0]

def decimalDigit? (c : Char) : Option Nat :=
  (decimalZeros.find? fun first => first ≤ c.toNat ∧ c.toNat < first + 10).map
    (c.toNat - ·)

/-- `int` and `float` read every decimal digit as the ASCII one. -/
def asciiDigit (c : Char) : Char :=
  match decimalDigit? c with
  | some digit => digit.digitChar
  | none => c

/-- `str(n)` -/
def digits (n : Nat) : List Char := (toString n).toList

def digitValue (c : Char) : Nat := c.toNat - '0'.toNat

def digitsFrom (acc : Nat) : List Char → Option Nat
  | [] => some acc
  | '_' :: c :: rest =>
      if c.isDigit then digitsFrom (10 * acc + digitValue c) rest else none
  | c :: rest =>
      if c.isDigit then digitsFrom (10 * acc + digitValue c) rest else none

def digitsToNat? : List Char → Option Nat
  | [] => none
  | c :: rest => if c.isDigit then digitsFrom (digitValue c) rest else none

theorem isDigit_digits {n : Nat} {c : Char} (hc : c ∈ digits n) :
    c.isDigit := by
  rw [digits, show toString n = n.repr from rfl, Nat.toList_repr] at hc
  exact Nat.isDigit_of_mem_toDigits (by omega) (by omega) hc

theorem digits_of_lt {n : Nat} (h : n < 10) : digits n = [n.digitChar] := by
  rw [digits, show toString n = n.repr from rfl, Nat.toList_repr,
    Nat.toDigits_of_lt_base h]

theorem digits_of_le {n : Nat} (h : 10 ≤ n) :
    digits n = digits (n / 10) ++ [(n % 10).digitChar] := by
  simp only [digits, show ∀ m : Nat, toString m = m.repr from fun _ => rfl,
    Nat.toList_repr]
  exact Nat.toDigits_of_base_le (by omega) h

theorem digits_ne_nil (n : Nat) : digits n ≠ [] := by
  by_cases h : n < 10
  · simp [digits_of_lt h]
  · simp [digits_of_le (Nat.le_of_not_lt h)]

theorem digitValue_digitChar {n : Nat} (h : n < 10) :
    digitValue n.digitChar = n := by
  rw [digitValue, Nat.toNat_digitChar_of_lt_ten h]
  simp

theorem digitsFrom_cons (acc : Nat) {c : Char} (hc : c ≠ '_')
    (rest : List Char) :
    digitsFrom acc (c :: rest) =
      if c.isDigit then digitsFrom (10 * acc + digitValue c) rest else none := by
  rw [digitsFrom.eq_3]
  rintro d rest rfl rfl
  exact hc rfl

theorem digitsFrom_of_digits {text : List Char} (h : ∀ c ∈ text, c.isDigit)
    (acc : Nat) :
    digitsFrom acc text =
      some (text.foldl (fun value c => 10 * value + digitValue c) acc) := by
  induction text generalizing acc with
  | nil => rfl
  | cons c rest ih =>
      obtain ⟨hc, hrest⟩ := List.forall_mem_cons.mp h
      have hne : c ≠ '_' := by
        rintro rfl
        exact absurd hc (by decide)
      rw [digitsFrom_cons acc hne, if_pos hc, ih hrest, List.foldl_cons]

theorem digitsFrom_minus {before : List Char} (h : ∀ c ∈ before, c.isDigit)
    (acc : Nat) (after : List Char) :
    digitsFrom acc (before ++ '-' :: after) = none := by
  induction before generalizing acc with
  | nil => exact digitsFrom_cons acc (by decide) after
  | cons c rest ih =>
      obtain ⟨hc, hrest⟩ := List.forall_mem_cons.mp h
      have hne : c ≠ '_' := by
        rintro rfl
        exact absurd hc (by decide)
      rw [List.cons_append, digitsFrom_cons acc hne, if_pos hc, ih hrest]

theorem foldl_digits (n : Nat) :
    (digits n).foldl (fun value c => 10 * value + digitValue c) 0 = n := by
  induction n using Nat.strongRecOn with
  | ind n ih =>
      by_cases h : n < 10
      · simp [digits_of_lt h, digitValue_digitChar h]
      · rw [digits_of_le (Nat.le_of_not_lt h), List.foldl_append,
          ih (n / 10) (by omega), List.foldl_cons, List.foldl_nil,
          digitValue_digitChar (Nat.mod_lt n (by omega))]
        omega

theorem digitsToNat?_digits (n : Nat) : digitsToNat? (digits n) = some n := by
  have hall : ∀ c ∈ digits n, c.isDigit := fun c => isDigit_digits
  cases hdigits : digits n with
  | nil => exact absurd hdigits (digits_ne_nil n)
  | cons c rest =>
      have hvalue := foldl_digits n
      rw [hdigits] at hall hvalue
      obtain ⟨hc, hrest⟩ := List.forall_mem_cons.mp hall
      rw [digitsToNat?, if_pos hc, digitsFrom_of_digits hrest, ← hvalue,
        List.foldl_cons, Nat.mul_zero, Nat.zero_add]

theorem digitsToNat?_range (first last : Nat) :
    digitsToNat? (digits first ++ '-' :: digits last) = none := by
  have hall : ∀ c ∈ digits first, c.isDigit := fun c => isDigit_digits
  cases hdigits : digits first with
  | nil => exact absurd hdigits (digits_ne_nil first)
  | cons c rest =>
      rw [hdigits] at hall
      obtain ⟨hc, hrest⟩ := List.forall_mem_cons.mp hall
      rw [List.cons_append, digitsToNat?, if_pos hc, digitsFrom_minus hrest]

theorem ascii_of_isDigit {c : Char} (hc : c.isDigit) :
    32 < c.toNat ∧ c.toNat < 128 := by
  obtain ⟨hlow, hhigh⟩ := Char.isDigit_iff_toNat.mp hc
  have hzero : '0'.toNat = 48 := rfl
  have hnine : '9'.toNat = 57 := rfl
  omega

theorem decimalDigit?_of_lt {c : Char} (h : c.toNat < 128) :
    decimalDigit? c =
      if 48 ≤ c.toNat ∧ c.toNat < 58 then some (c.toNat - 48) else none := by
  have hothers : ∀ first ∈ decimalZeros.tail, 128 ≤ first := by decide
  have hnone : decimalZeros.tail.find? (fun first => decide
      (first ≤ c.toNat ∧ c.toNat < first + 10)) = none := by
    refine List.find?_eq_none.mpr fun first hfirst => ?_
    have := hothers first hfirst
    simp only [decide_eq_true_eq]
    omega
  change ((0x30 :: decimalZeros.tail).find? _).map _ = _
  rw [List.find?_cons, hnone]
  by_cases hdigit : 48 ≤ c.toNat ∧ c.toNat < 58
  · simp [hdigit]
  · simp [hdigit]

theorem asciiDigit_of_lt {c : Char} (h : c.toNat < 128) : asciiDigit c = c := by
  rw [asciiDigit, decimalDigit?_of_lt h]
  by_cases hdigit : 48 ≤ c.toNat ∧ c.toNat < 58
  · rw [if_pos hdigit]
    apply Char.toNat_inj.mp
    rw [Nat.toNat_digitChar_of_lt_ten (by omega)]
    omega
  · rw [if_neg hdigit]

theorem map_asciiDigit {text : List Char} (h : ∀ c ∈ text, c.toNat < 128) :
    text.map asciiDigit = text := by
  rw [List.map_congr_left fun c hc => asciiDigit_of_lt (h c hc), List.map_id']

end Decimal
