import NodeAgent.Foundation.JsonText

/-!
# JSON text read back

Every value is read back from its own text, whatever comes after it; the number
of nested calls is never what makes a text unreadable; and what is read, from
whatever text, can be written and read again.
-/

namespace JsonText

open Effectful

variable {F : Type} {floats : Floats F}

/-! ## Strings read back -/

theorem readHex_digitChar : ∀ d < 16, readHex (Nat.digitChar d) = some d := by
  decide

theorem readHex4_hexDigits {n : Nat} (h : n < 65536) :
    readHex4 (hexDigit (n / 4096)) (hexDigit (n / 256)) (hexDigit (n / 16))
      (hexDigit n) = some n := by
  have hdigit : ∀ m, readHex (hexDigit m) = some (m % 16) := fun m =>
    readHex_digitChar _ (Nat.mod_lt _ (by decide))
  simp only [readHex4, hdigit, Option.bind_eq_bind, Option.bind_some,
    Option.pure_def, Option.some.injEq]
  omega

theorem readString_unicodeEscape {n : Nat} (h : n < 65536)
    (hhigh : isHighSurrogate n = false) (hlow : isLowSurrogate n = false)
    (rest : List Char) :
    readString (unicodeEscape n ++ rest) =
      (readString rest).map fun (s, rest) => (Char.ofNat n :: s, rest) := by
  simp only [unicodeEscape, List.cons_append, List.nil_append]
  rw [readString]
  simp only [readHex4_hexDigits h, hhigh, hlow, Bool.false_eq_true, if_false]

theorem readString_surrogates {n m : Nat} (hn : n < 65536) (hm : m < 65536)
    (hhigh : isHighSurrogate n = true) (hlow : isLowSurrogate m = true)
    (rest : List Char) :
    readString (unicodeEscape n ++ (unicodeEscape m ++ rest)) =
      (readString rest).map fun (s, rest) =>
        (Char.ofNat (65536 + (n - 55296) * 1024 + (m - 56320)) :: s, rest) := by
  simp only [unicodeEscape, List.cons_append, List.nil_append]
  rw [readString]
  simp only [readHex4_hexDigits hn, readHex4_hexDigits hm, hhigh, hlow, if_true]

theorem char_isScalar (c : Char) : c.toNat < 55296 ∨
    57343 < c.toNat ∧ c.toNat < 1114112 := c.valid

theorem readString_escape (c : Char) (rest : List Char) :
    readString (escape c ++ rest) =
      (readString rest).map fun (s, rest) => (c :: s, rest) := by
  unfold escape
  split
  · subst_vars; rfl
  split
  · subst_vars; rfl
  split
  · subst_vars; rfl
  split
  · subst_vars; rfl
  split
  · subst_vars; rfl
  split
  · subst_vars; rfl
  split
  · subst_vars; rfl
  have hscalar := char_isScalar c
  split
  · rename_i hquote hbackslash _ _ _ _ _ hprintable
    rw [List.singleton_append, readString]
    · rw [if_neg (by omega)]
    · exact hquote
    · exact fun _ _ _ _ _ h => absurd h hbackslash
    · exact fun _ _ h => absurd h hbackslash
  split
  · rw [readString_unicodeEscape (by assumption), Char.ofNat_toNat]
    · simp only [isHighSurrogate, Bool.and_eq_false_iff, decide_eq_false_iff_not]
      omega
    · simp only [isLowSurrogate, Bool.and_eq_false_iff, decide_eq_false_iff_not]
      omega
  · rw [List.append_assoc, readString_surrogates (by omega) (by omega)]
    · have hcode : 65536 + (55296 + (c.toNat - 65536) / 1024 - 55296) * 1024 +
          (56320 + (c.toNat - 65536) % 1024 - 56320) = c.toNat := by omega
      rw [hcode, Char.ofNat_toNat]
    · simp only [isHighSurrogate, Bool.and_eq_true, decide_eq_true_eq]
      omega
    · simp only [isLowSurrogate, Bool.and_eq_true, decide_eq_true_eq]
      omega

theorem readString_flatMap_escape (s rest : List Char) :
    readString (s.flatMap escape ++ '"' :: rest) = some (s, rest) := by
  induction s with
  | nil => rfl
  | cons c s ih =>
      rw [List.flatMap_cons, List.append_assoc, readString_escape, ih]
      rfl

/-! ## Numbers read back -/

def NumberEnds (rest : List Char) : Prop :=
  ∀ c tail, rest = c :: tail →
    c.isDigit = false ∧ c ≠ '.' ∧ c ≠ 'e' ∧ c ≠ 'E'

theorem numberEnds_nil : NumberEnds [] := by
  intro c tail h
  cases h

theorem spanDigits_append {digits rest : List Char}
    (hdigits : ∀ c ∈ digits, c.isDigit = true)
    (hrest : ∀ c tail, rest = c :: tail → c.isDigit = false) :
    spanDigits (digits ++ rest) = (digits, rest) := by
  unfold spanDigits
  rw [List.takeWhile_append_of_pos hdigits, List.dropWhile_append_of_pos hdigits]
  cases rest with
  | nil => simp
  | cons c tail => simp [hrest c tail rfl]

open NumberToken

theorem readExponent_text {exponent : Option (List Char × List Char)}
    {rest : List Char}
    (hsign : ∀ sign digits, exponent = some (sign, digits) →
      sign = [] ∨ sign = ['+'] ∨ sign = ['-'])
    (hdigits : ∀ sign digits, exponent = some (sign, digits) → IsDigits digits)
    (hrest : NumberEnds rest) :
    readExponent (exponentText exponent ++ rest) = (exponent, rest) := by
  cases exponent with
  | none =>
      cases rest with
      | nil => rfl
      | cons c tail =>
          obtain ⟨-, -, he, hE⟩ := hrest c tail rfl
          simp [exponentText, readExponent, he, hE]
  | some parts =>
      obtain ⟨sign, digits⟩ := parts
      obtain ⟨hne, hall⟩ := hdigits sign digits rfl
      have hspan := spanDigits_append hall fun c tail h => (hrest c tail h).1
      have hunsigned : readSign (sign ++ (digits ++ rest)) =
          (sign, digits ++ rest) := by
        rcases hsign sign digits rfl with rfl | rfl | rfl
        · obtain ⟨d, digits, rfl⟩ := List.exists_cons_of_ne_nil hne
          have hd := hall d (by simp)
          have hplus : d ≠ '+' := by rintro rfl; cases hd
          have hminus : d ≠ '-' := by rintro rfl; cases hd
          simp [readSign, hplus, hminus]
        · rfl
        · rfl
      simp [exponentText, readExponent, readPower, hunsigned, hspan, hne]

theorem readFraction_text {fraction : Option (List Char)} {rest : List Char}
    (hdigits : ∀ digits, fraction = some digits → IsDigits digits)
    (hrest : ∀ c tail, rest = c :: tail → c.isDigit = false ∧ c ≠ '.') :
    readFraction (fractionText fraction ++ rest) = (fraction, rest) := by
  cases fraction with
  | none =>
      cases rest with
      | nil => rfl
      | cons c tail =>
          have hpoint := (hrest c tail rfl).2
          rw [fractionText, List.nil_append, readFraction]
          exact fun _ h => hpoint (List.cons.inj h).1
  | some digits =>
      obtain ⟨hne, hall⟩ := hdigits digits rfl
      have hspan := spanDigits_append hall fun c tail h => (hrest c tail h).1
      simp [fractionText, readFraction, hspan, hne]

theorem readWhole_text {whole rest : List Char} (hwhole : IsDigits whole)
    (hleading : whole.head? = some '0' → whole = ['0'])
    (hrest : ∀ c tail, rest = c :: tail → c.isDigit = false) :
    readWhole (whole ++ rest) = some (whole, rest) := by
  obtain ⟨d, digits, rfl⟩ := List.exists_cons_of_ne_nil hwhole.1
  by_cases hzero : d = '0'
  · subst hzero
    obtain rfl : digits = [] := by simpa using hleading rfl
    rfl
  · have hspan := spanDigits_append hwhole.2 hrest
    rw [List.cons_append] at hspan ⊢
    rw [readWhole]
    · simp [hspan]
    · exact fun _ h => hzero (List.cons.inj h).1

theorem exponentText_head {exponent : Option (List Char × List Char)}
    {rest : List Char} (hrest : NumberEnds rest) {c : Char} {tail : List Char}
    (h : exponentText exponent ++ rest = c :: tail) :
    c.isDigit = false ∧ c ≠ '.' := by
  cases exponent with
  | none =>
      obtain ⟨hdigit, hpoint, -⟩ := hrest c tail h
      exact ⟨hdigit, hpoint⟩
  | some parts =>
      obtain rfl : 'e' = c := (List.cons.inj h).1
      decide

theorem fractionText_head {fraction : Option (List Char)}
    {exponent : Option (List Char × List Char)} {rest : List Char}
    (hrest : NumberEnds rest) {c : Char} {tail : List Char}
    (h : fractionText fraction ++ (exponentText exponent ++ rest) = c :: tail) :
    c.isDigit = false := by
  cases fraction with
  | none => exact (exponentText_head hrest h).1
  | some digits =>
      obtain rfl : '.' = c := (List.cons.inj h).1
      decide

theorem readNumber_text {t : NumberToken} (ht : t.Valid) {rest : List Char}
    (hrest : NumberEnds rest) :
    readNumber (t.text ++ rest) = some (t, rest) := by
  obtain ⟨negative, whole, fraction, exponent⟩ := t
  have hafter : ∀ c tail, fractionText fraction ++
      (exponentText exponent ++ rest) = c :: tail → c.isDigit = false :=
    fun c tail h => fractionText_head hrest h
  have hpoint : ∀ c tail, exponentText exponent ++ rest = c :: tail →
      c.isDigit = false ∧ c ≠ '.' := fun c tail h => exponentText_head hrest h
  have hwhole := readWhole_text ht.whole ht.leading hafter
  have hfraction := readFraction_text ht.fraction hpoint
  have hexponent := readExponent_text ht.sign ht.exponent hrest
  dsimp only at hwhole hfraction hexponent
  have hunsigned : readUnsigned negative (whole ++ (fractionText fraction ++
      (exponentText exponent ++ rest))) =
      some (⟨negative, whole, fraction, exponent⟩, rest) := by
    simp only [readUnsigned, hwhole, hfraction, hexponent]
  simp only [text, List.append_assoc]
  cases negative with
  | true => exact hunsigned
  | false =>
      obtain ⟨d, digits, rfl⟩ := List.exists_cons_of_ne_nil ht.whole.1
      have hminus : d ≠ '-' := by
        rintro rfl
        cases ht.whole.2 '-' (by simp)
      simp only [Bool.false_eq_true, if_false, List.nil_append]
      rw [readNumber]
      · exact hunsigned
      · exact fun _ h => hminus (List.cons.inj h).1

theorem toDigits_leading (n : Nat)
    (h : (Nat.toDigits 10 n).head? = some '0') :
    Nat.toDigits 10 n = ['0'] := by
  have hzero : ∀ m, 0 < m → (Nat.toDigits 10 m).head? ≠ some '0' := by
    intro m
    induction m using Nat.strongRecOn with
    | _ m ih =>
        intro hm
        by_cases hlt : m < 10
        · rw [Nat.toDigits_of_lt_base hlt]
          intro h0
          have hdigits : ∀ d < 10, 0 < d → Nat.digitChar d ≠ '0' := by decide
          exact hdigits m hlt hm (by simpa using h0)
        · rw [Nat.toDigits_of_base_le (by decide) (by omega),
            List.head?_append_of_ne_nil _ Nat.toDigits_ne_nil]
          exact ih (m / 10) (by omega) (by omega)
  rcases Nat.eq_zero_or_pos n with rfl | hn
  · exact Nat.toDigits_zero 10
  · exact absurd h (hzero n hn)

theorem ofInt_valid (z : Int) : (NumberToken.ofInt z).Valid where
  whole := ⟨Nat.toDigits_ne_nil, fun c hc =>
    Nat.isDigit_of_mem_toDigits (by decide) (by decide) hc⟩
  leading := toDigits_leading z.natAbs
  fraction := nofun
  sign := nofun
  exponent := nofun

theorem toInt_ofInt (z : Int) : (NumberToken.ofInt z).toInt = z := by
  rw [toInt, ofInt, Nat.ofDigitChars_ten_toDigits]
  by_cases hz : z < 0
  · rw [if_pos (decide_eq_true hz)]
    omega
  · rw [if_neg (by simpa using hz)]
    omega

theorem value_ofInt (z : Int) :
    (NumberToken.ofInt z).value floats = .int z := by
  rw [NumberToken.value, toInt_ofInt]
  rfl

theorem value_repr (x : F) : (floats.repr x).value floats = .float x := by
  rw [NumberToken.value, floats.notInt, floats.read_repr]
  rfl

/-! ## Values read back -/

mutual

def Value.Proper : Value F → Prop
  | .arr items => ProperItems items
  | .obj fields => (fields.map Prod.fst).Nodup ∧ ProperFields fields
  | _ => True

def ProperItems : List (Value F) → Prop
  | [] => True
  | v :: rest => v.Proper ∧ ProperItems rest

def ProperFields : List (String × Value F) → Prop
  | [] => True
  | (_, v) :: rest => v.Proper ∧ ProperFields rest

end

mutual

/-- How many nested calls read the value's text. -/
def Value.calls : Value F → Nat
  | .arr items => callsItems items + 1
  | .obj fields => callsFields fields + 1
  | _ => 1

def callsItems : List (Value F) → Nat
  | [] => 0
  | v :: rest => max v.calls (callsItems rest) + 1

def callsFields : List (String × Value F) → Nat
  | [] => 0
  | (_, v) :: rest => max v.calls (callsFields rest) + 1

end

theorem dictOf_of_nodup {fields : List (String × Value F)}
    (h : (fields.map Prod.fst).Nodup) : dictOf fields = fields := by
  suffices hfold : ∀ read, ((read ++ fields).map Prod.fst).Nodup →
      fields.foldl (fun read field => Dict.assignIn field.1 field.2 read) read =
        read ++ fields from hfold [] h
  clear h
  induction fields with
  | nil => exact fun read _ => (List.append_nil read).symm
  | cons field fields ih =>
      intro read hnodup
      have hnew : field.1 ∉ read.map Prod.fst := fun hmem => by
        rw [List.map_append] at hnodup
        exact (List.nodup_append.mp hnodup).2.2 _ hmem _ (by simp) rfl
      rw [List.foldl_cons, Dict.assignIn_of_not_mem hnew,
        ih (read ++ [field]) (by simpa using hnodup), List.append_assoc,
        List.singleton_append]

theorem NumberToken.text_head {t : NumberToken} (ht : t.Valid) :
    ∃ c tail, t.text = c :: tail ∧ (c = '-' ∨ c.isDigit = true) := by
  obtain ⟨negative, whole, fraction, exponent⟩ := t
  obtain ⟨d, digits, rfl⟩ := List.exists_cons_of_ne_nil ht.whole.1
  cases negative with
  | true => exact ⟨'-', _, rfl, .inl rfl⟩
  | false => exact ⟨d, _, rfl, .inr (ht.whole.2 d (by simp))⟩

variable (floats) in
theorem dumps_head (v : Value F) : ∃ c tail, dumps floats v = c :: tail ∧
    isBlank c = false ∧ c ≠ ']' ∧ c ≠ '}' := by
  have hnumber : ∀ t : NumberToken, t.Valid → ∃ c tail, t.text = c :: tail ∧
      isBlank c = false ∧ c ≠ ']' ∧ c ≠ '}' := fun t ht => by
    obtain ⟨c, tail, htext, hc⟩ := NumberToken.text_head ht
    refine ⟨c, tail, htext, ?_⟩
    rcases hc with rfl | hdigit
    · decide
    · have hne : ∀ d : Char, d.isDigit = false → c ≠ d := by
        rintro d hd rfl
        rw [hdigit] at hd
        cases hd
      simp only [isBlank, Bool.or_eq_false_iff, decide_eq_false_iff_not]
      refine ⟨⟨⟨⟨?_, ?_⟩, ?_⟩, ?_⟩, ?_, ?_⟩ <;> exact hne _ (by decide)
  cases v with
  | bool b => cases b <;> exact ⟨_, _, rfl, by decide⟩
  | infinity negative => cases negative <;> exact ⟨_, _, rfl, by decide⟩
  | int z => exact hnumber _ (ofInt_valid z)
  | float x => exact hnumber _ (floats.valid x)
  | _ => exact ⟨_, _, rfl, by decide⟩

theorem skip_of_head {c : Char} {tail : List Char} (h : isBlank c = false) :
    skip (c :: tail) = c :: tail := by
  simp [skip, h]

theorem skip_space {c : Char} {tail : List Char} (h : isBlank c = false) :
    skip (' ' :: c :: tail) = c :: tail := by
  simp [skip, h, show isBlank ' ' = true by decide]

theorem readOpened_of_head {close c : Char} {empty : Value F}
    {inner : List Char → Option (Value F × List Char)} {tail : List Char}
    (hblank : isBlank c = false) (hclose : c ≠ close) :
    readOpened close empty inner (c :: tail) = inner (c :: tail) := by
  rw [readOpened, skip_of_head hblank]
  exact if_neg hclose

variable (floats) in
theorem readScalar_number {t : NumberToken} (ht : t.Valid) {rest : List Char}
    (hrest : NumberEnds rest) :
    readScalar floats (t.text ++ rest) = some (t.value floats, rest) := by
  simp [readScalar, readNumber_text ht hrest]

theorem readValue_scalar (fuel : Nat) {c : Char} {rest : List Char}
    (hstr : c ≠ '"') (harr : c ≠ '[') (hobj : c ≠ '{') :
    readValue floats (fuel + 1) (c :: rest) = readScalar floats (c :: rest) := by
  rw [readValue]
  · exact fun _ h => hstr (List.cons.inj h).1
  · exact fun _ h => harr (List.cons.inj h).1
  · exact fun _ h => hobj (List.cons.inj h).1

theorem readValue_number {t : NumberToken} (ht : t.Valid) (fuel : Nat)
    {rest : List Char} (hrest : NumberEnds rest) :
    readValue floats (fuel + 1) (t.text ++ rest) =
      some (t.value floats, rest) := by
  obtain ⟨c, tail, htext, hc⟩ := NumberToken.text_head ht
  have hne : ∀ d : Char, d ≠ '-' → d.isDigit = false → c ≠ d := by
    rintro d hminus hd rfl
    rcases hc with rfl | hdigit
    · exact hminus rfl
    · rw [hdigit] at hd
      cases hd
  have hscalar := readScalar_number floats ht hrest
  rw [htext, List.cons_append] at hscalar ⊢
  rw [readValue_scalar fuel (hne _ (by decide) (by decide))
    (hne _ (by decide) (by decide)) (hne _ (by decide) (by decide)), hscalar]

theorem readKey_quote (key : String) {rest : List Char} {c : Char}
    (hc : isBlank c = false) :
    readKey (quote key ++ ':' :: ' ' :: c :: rest) = some (key, c :: rest) := by
  simp only [quote, List.cons_append, List.append_assoc, List.nil_append]
  rw [readKey, readString_flatMap_escape]
  simp only [skip_of_head (show isBlank ':' = false by decide),
    String.ofList_toList, skip_space hc]

variable (floats) in
theorem dumpsItems_head (v : Value F) (items : List (Value F)) :
    ∃ c tail, dumpsItems floats (v :: items) = c :: tail ∧
      isBlank c = false ∧ c ≠ ']' := by
  obtain ⟨c, tail, htext, hblank, hclose, -⟩ := dumps_head floats v
  exact ⟨c, _, by rw [dumpsItems, htext, List.cons_append], hblank, hclose⟩

variable (floats) in
theorem dumpsFields_head (k : String) (v : Value F)
    (fields : List (String × Value F)) :
    ∃ tail, dumpsFields floats ((k, v) :: fields) = '"' :: tail := by
  exact ⟨_, by rw [dumpsFields, quote, List.cons_append, List.cons_append,
    List.cons_append]⟩

theorem numberEnds_of_mem {c : Char} (h : c = ',' ∨ c = ']' ∨ c = '}')
    (rest : List Char) : NumberEnds (c :: rest) := by
  rintro c' tail heq
  obtain rfl : c = c' := (List.cons.inj heq).1
  rcases h with rfl | rfl | rfl <;> decide

mutual

theorem readValue_dumps : (v : Value F) → v.Proper → (fuel : Nat) →
    v.calls ≤ fuel → (rest : List Char) → NumberEnds rest →
      readValue floats fuel (dumps floats v ++ rest) = some (v, rest)
  | v, _, 0, hfuel, _, _ => by
      cases v <;> simp [Value.calls] at hfuel
  | .null, _, fuel + 1, _, rest, _ => rfl
  | .bool true, _, fuel + 1, _, rest, _ => rfl
  | .bool false, _, fuel + 1, _, rest, _ => rfl
  | .nan, _, fuel + 1, _, rest, _ => rfl
  | .infinity true, _, fuel + 1, _, rest, _ => rfl
  | .infinity false, _, fuel + 1, _, rest, _ => rfl
  | .int z, _, fuel + 1, _, rest, hrest => by
      rw [dumps, readValue_number (ofInt_valid z) fuel hrest, value_ofInt]
  | .float x, _, fuel + 1, _, rest, hrest => by
      rw [dumps, readValue_number (floats.valid x) fuel hrest, value_repr]
  | .str s, _, fuel + 1, _, rest, _ => by
      simp only [dumps, quote, List.cons_append, List.append_assoc,
        List.nil_append]
      rw [readValue, readString_flatMap_escape]
      simp
  | .arr [], _, fuel + 1, _, rest, _ => rfl
  | .arr (v :: items), hproper, fuel + 1, hfuel, rest, _ => by
      have hitems := readItems_dumps v items hproper fuel
        (by simpa [Value.calls] using hfuel) rest
      obtain ⟨c, tail, htext, hblank, hclose⟩ :=
        dumpsItems_head floats v items
      simp only [dumps, List.cons_append, List.append_assoc, List.nil_append]
      rw [htext, List.cons_append] at hitems ⊢
      rw [readValue, readOpened_of_head hblank hclose, hitems]
      rfl
  | .obj [], _, fuel + 1, _, rest, _ => rfl
  | .obj ((k, v) :: fields), hproper, fuel + 1, hfuel, rest, _ => by
      have hfields := readFields_dumps k v fields hproper.2 fuel
        (by simpa [Value.calls] using hfuel) rest
      simp only [dumps, List.cons_append, List.append_assoc, List.nil_append]
      obtain ⟨tail, htext⟩ := dumpsFields_head floats k v fields
      rw [htext, List.cons_append] at hfields ⊢
      rw [readValue, readOpened_of_head (by decide) (by decide), hfields,
        Option.map_some]
      dsimp only
      rw [dictOf_of_nodup hproper.1]

theorem readItems_dumps : (v : Value F) → (items : List (Value F)) →
    ProperItems (v :: items) → (fuel : Nat) →
    callsItems (v :: items) ≤ fuel → (rest : List Char) →
      readItems floats fuel (dumpsItems floats (v :: items) ++ ']' :: rest) =
        some (v :: items, rest)
  | v, items, hproper, 0, hfuel, rest => by simp [callsItems] at hfuel
  | v, [], hproper, fuel + 1, hfuel, rest => by
      have hv := readValue_dumps v hproper.1 fuel
        (by simp [callsItems] at hfuel; omega) (']' :: rest)
        (numberEnds_of_mem (by simp) rest)
      simp only [dumpsItems, List.isEmpty_nil, if_true, List.append_nil]
      rw [readItems, hv]
      rfl
  | v, w :: items, hproper, fuel + 1, hfuel, rest => by
      have hv := readValue_dumps v hproper.1 fuel
        (by simp [callsItems] at hfuel; omega)
        (',' :: ' ' :: (dumpsItems floats (w :: items) ++ ']' :: rest))
        (numberEnds_of_mem (by simp) _)
      have hitems := readItems_dumps w items hproper.2 fuel
        (by simp [callsItems] at hfuel ⊢; omega) rest
      obtain ⟨c, tail, htext, hblank, -⟩ :=
        dumpsItems_head floats w items
      rw [dumpsItems]
      simp only [List.isEmpty_cons, Bool.false_eq_true, if_false,
        List.append_assoc, List.cons_append]
      rw [readItems, hv]
      rw [htext, List.cons_append] at hitems ⊢
      simp only [skip_of_head (show isBlank ',' = false by decide),
        skip_space hblank, hitems, Option.map_some]

theorem readFields_dumps : (k : String) → (v : Value F) →
    (fields : List (String × Value F)) → ProperFields ((k, v) :: fields) →
    (fuel : Nat) → callsFields ((k, v) :: fields) ≤ fuel →
    (rest : List Char) →
      readFields floats fuel
        (dumpsFields floats ((k, v) :: fields) ++ '}' :: rest) =
          some ((k, v) :: fields, rest)
  | k, v, fields, hproper, 0, hfuel, rest => by simp [callsFields] at hfuel
  | k, v, [], hproper, fuel + 1, hfuel, rest => by
      have hv := readValue_dumps v hproper.1 fuel
        (by simp [callsFields] at hfuel; omega) ('}' :: rest)
        (numberEnds_of_mem (by simp) rest)
      obtain ⟨c, tail, htext, hblank, -⟩ := dumps_head floats v
      simp only [dumpsFields, List.isEmpty_nil, if_true, List.append_nil,
        List.append_assoc, List.cons_append]
      rw [htext, List.cons_append] at hv ⊢
      rw [readFields, readKey_quote k hblank]
      simp only [hv, skip_of_head (show isBlank '}' = false by decide)]
  | k, v, (k', w) :: fields, hproper, fuel + 1, hfuel, rest => by
      have hv := readValue_dumps v hproper.1 fuel
        (by simp [callsFields] at hfuel; omega)
        (',' :: ' ' :: (dumpsFields floats ((k', w) :: fields) ++ '}' :: rest))
        (numberEnds_of_mem (by simp) _)
      have hfields := readFields_dumps k' w fields hproper.2 fuel
        (by simp [callsFields] at hfuel ⊢; omega) rest
      obtain ⟨c, tail, htext, hblank, -⟩ := dumps_head floats v
      obtain ⟨tail', htext'⟩ := dumpsFields_head floats k' w fields
      rw [dumpsFields]
      simp only [List.isEmpty_cons, Bool.false_eq_true, if_false,
        List.append_assoc, List.cons_append]
      rw [htext, List.cons_append] at hv ⊢
      rw [readFields, readKey_quote k hblank]
      simp only [hv]
      rw [htext', List.cons_append] at hfields ⊢
      simp only [skip_of_head (show isBlank ',' = false by decide),
        skip_space (show isBlank '"' = false by decide), hfields,
        Option.map_some]

end

/-! ## The calls that a text can need -/

theorem skip_length (text : List Char) : (skip text).length ≤ text.length :=
  (List.dropWhile_suffix _).length_le

theorem readString_length {text s rest : List Char}
    (h : readString text = some (s, rest)) : rest.length < text.length := by
  fun_induction readString text generalizing s rest <;>
    simp_all <;> grind

theorem spanDigits_length (text : List Char) :
    (spanDigits text).1.length + (spanDigits text).2.length = text.length := by
  rw [spanDigits, ← List.length_append, List.takeWhile_append_dropWhile]

theorem readWhole_length {text whole rest : List Char}
    (h : readWhole text = some (whole, rest)) : rest.length < text.length := by
  unfold readWhole at h
  split at h
  · cases h
    simp
  · split at h
    · cases h
    · rename_i hdigits
      have hspan := spanDigits_length text
      have hpos : 0 < (spanDigits text).1.length := by
        simpa [List.length_pos_iff] using hdigits
      rw [Option.some.inj h] at hspan hpos
      dsimp only at hspan hpos
      omega

theorem readFraction_length (text : List Char) :
    (readFraction text).2.length ≤ text.length := by
  unfold readFraction
  split
  · rename_i rest
    have hspan := spanDigits_length rest
    split
    · simp
    · simp only [List.length_cons]
      omega
  · simp

theorem readPower_length {text : List Char} {power : List Char × List Char}
    {rest : List Char} (h : readPower text = some (power, rest)) :
    rest.length ≤ text.length := by
  have hspan := spanDigits_length (readSign text).2
  have hsign : (readSign text).2.length ≤ text.length := by
    unfold readSign
    split <;> simp
  simp only [readPower, Option.ite_none_left_eq_some, Option.some.injEq,
    Prod.mk.injEq] at h
  rw [← h.2.2]
  omega

theorem readExponent_length (text : List Char) :
    (readExponent text).2.length ≤ text.length := by
  unfold readExponent
  split
  · split
    · split
      · rename_i hpower
        have hlength := readPower_length hpower
        simp only [List.length_cons]
        omega
      · simp
    · simp
  · simp

theorem readUnsigned_length {negative : Bool} {text : List Char}
    {t : NumberToken} {rest : List Char}
    (h : readUnsigned negative text = some (t, rest)) :
    rest.length < text.length := by
  unfold readUnsigned at h
  split at h
  · cases h
  · rename_i after hwhole
    have hlength := readWhole_length hwhole
    have hfraction := readFraction_length after
    have hexponent := readExponent_length (readFraction after).2
    cases h
    omega

theorem readNumber_length {text : List Char} {t : NumberToken}
    {rest : List Char} (h : readNumber text = some (t, rest)) :
    rest.length < text.length := by
  unfold readNumber at h
  split at h
  · have hlength := readUnsigned_length h
    simp only [List.length_cons]
    omega
  · exact readUnsigned_length h

theorem word_length {spelled : List Char} {v w : Value F}
    {text rest : List Char} (hspelled : spelled ≠ [])
    (h : word spelled v text = some (w, rest)) : rest.length < text.length := by
  unfold word at h
  split at h
  · rename_i hprefix
    cases h
    have hle := (List.isPrefixOf_iff_prefix.mp hprefix).length_le
    have hpos := List.length_pos_iff.mpr hspelled
    rw [List.length_drop]
    omega
  · cases h

theorem readScalar_length {text rest : List Char} {v : Value F}
    (h : readScalar floats text = some (v, rest)) :
    rest.length < text.length := by
  simp only [readScalar, Option.orElse_eq_orElse, Option.orElse_eq_or,
    Option.or_eq_some_iff] at h
  rcases h with hnumber | ⟨-, hword | ⟨-, hword | ⟨-, hword | ⟨-, hword |
    ⟨-, hword | ⟨-, hword⟩⟩⟩⟩⟩⟩
  · obtain ⟨⟨t, after⟩, hread, heq⟩ := Option.map_eq_some_iff.mp hnumber
    cases heq
    exact readNumber_length hread
  all_goals exact word_length (by simp) hword

theorem readKey_length {text rest : List Char} {key : String}
    (h : readKey text = some (key, rest)) : rest.length < text.length := by
  unfold readKey at h
  split at h
  · split at h
    · cases h
    · rename_i s after hstring
      have hlength := readString_length hstring
      have hskip := skip_length after
      split at h
      · rename_i after' hcolon
        have hskip' := skip_length after'
        cases h
        rw [hcolon] at hskip
        simp at hskip ⊢
        omega
      · cases h
  · cases h

section Calls

variable {fuel : Nat}

theorem readItems_length
    (hvalue : ∀ text v rest, readValue floats fuel text = some (v, rest) →
      rest.length < text.length)
    (hitems : ∀ text items rest, readItems floats fuel text =
      some (items, rest) → rest.length < text.length)
    (text : List Char) (items : List (Value F)) (rest : List Char)
    (h : readItems floats (fuel + 1) text = some (items, rest)) :
    rest.length < text.length := by
  rw [readItems] at h
  split at h
  · cases h
  · rename_i after hread
    have hlength := hvalue _ _ _ hread
    have hskip := skip_length after
    split at h
    · rename_i hclose
      cases h
      rw [hclose, List.length_cons] at hskip
      omega
    · rename_i after' hcomma
      obtain ⟨⟨items', rest'⟩, hmore, heq⟩ := Option.map_eq_some_iff.mp h
      have hlength' := hitems _ _ _ hmore
      have hskip' := skip_length after'
      cases heq
      rw [hcomma, List.length_cons] at hskip
      omega
    · cases h

theorem readFields_length
    (hvalue : ∀ text v rest, readValue floats fuel text = some (v, rest) →
      rest.length < text.length)
    (hfields : ∀ text fields rest, readFields floats fuel text =
      some (fields, rest) → rest.length < text.length)
    (text : List Char) (fields : List (String × Value F)) (rest : List Char)
    (h : readFields floats (fuel + 1) text = some (fields, rest)) :
    rest.length < text.length := by
  rw [readFields] at h
  split at h
  · cases h
  · rename_i key after hkey
    have hlength := readKey_length hkey
    split at h
    · cases h
    · rename_i after' hread
      have hlength' := hvalue _ _ _ hread
      have hskip := skip_length after'
      split at h
      · rename_i hclose
        cases h
        rw [hclose, List.length_cons] at hskip
        omega
      · rename_i after'' hcomma
        obtain ⟨⟨fields', rest'⟩, hmore, heq⟩ := Option.map_eq_some_iff.mp h
        have hlength'' := hfields _ _ _ hmore
        have hskip' := skip_length after''
        cases heq
        rw [hcomma, List.length_cons] at hskip
        omega
      · cases h

theorem readOpened_length {close : Char} {empty : Value F}
    {inner : List Char → Option (Value F × List Char)}
    (hinner : ∀ text v rest, inner text = some (v, rest) →
      rest.length < text.length)
    {text rest : List Char} {v : Value F}
    (h : readOpened close empty inner text = some (v, rest)) :
    rest.length < text.length := by
  have hskip := skip_length text
  unfold readOpened at h
  split at h
  · cases h
  · rename_i hnext
    rw [hnext] at hskip
    split at h
    · cases h
      exact hskip
    · exact Nat.lt_of_lt_of_le (hinner _ _ _ h) hskip

theorem readValue_length
    (hitems : ∀ text items rest, readItems floats fuel text =
      some (items, rest) → rest.length < text.length)
    (hfields : ∀ text fields rest, readFields floats fuel text =
      some (fields, rest) → rest.length < text.length)
    (text : List Char) (v : Value F) (rest : List Char)
    (h : readValue floats (fuel + 1) text = some (v, rest)) :
    rest.length < text.length := by
  unfold readValue at h
  split at h
  · cases h
  · obtain ⟨⟨s, after⟩, hread, heq⟩ := Option.map_eq_some_iff.mp h
    have hlength := readString_length hread
    cases heq
    exact Nat.lt_succ_of_lt hlength
  · rename_i hfuel
    cases hfuel
    refine Nat.lt_succ_of_lt (readOpened_length (fun text v rest hinner => ?_) h)
    obtain ⟨⟨items, after⟩, hread, heq⟩ := Option.map_eq_some_iff.mp hinner
    cases heq
    exact hitems _ _ _ hread
  · rename_i hfuel
    cases hfuel
    refine Nat.lt_succ_of_lt (readOpened_length (fun text v rest hinner => ?_) h)
    obtain ⟨⟨fields, after⟩, hread, heq⟩ := Option.map_eq_some_iff.mp hinner
    cases heq
    exact hfields _ _ _ hread
  · exact readScalar_length h

end Calls

theorem read_length (fuel : Nat) :
    (∀ text v rest, readValue floats fuel text = some (v, rest) →
      rest.length < text.length) ∧
    (∀ text items rest, readItems floats fuel text = some (items, rest) →
      rest.length < text.length) ∧
    (∀ text fields rest, readFields floats fuel text = some (fields, rest) →
      rest.length < text.length) := by
  induction fuel with
  | zero => simp [readValue, readItems, readFields]
  | succ fuel ih =>
      exact ⟨readValue_length ih.2.1 ih.2.2, readItems_length ih.1 ih.2.1,
        readFields_length ih.1 ih.2.2⟩

theorem readOpened_congr {close : Char} {empty : Value F}
    {inner inner' : List Char → Option (Value F × List Char)} {text : List Char}
    (h : inner (skip text) = inner' (skip text)) :
    readOpened close empty inner text = readOpened close empty inner' text := by
  unfold readOpened
  split
  · rfl
  · rename_i hnext
    rw [hnext] at h
    rw [h]

theorem read_succ (fuel : Nat) :
    (∀ text, 2 * text.length + 1 ≤ fuel →
      readValue floats (fuel + 1) text = readValue floats fuel text) ∧
    (∀ text, 2 * text.length + 2 ≤ fuel →
      readItems floats (fuel + 1) text = readItems floats fuel text) ∧
    (∀ text, 2 * text.length + 2 ≤ fuel →
      readFields floats (fuel + 1) text = readFields floats fuel text) := by
  induction fuel with
  | zero => exact ⟨fun _ h => by omega, fun _ h => by omega, fun _ h => by omega⟩
  | succ fuel ih =>
      obtain ⟨hvalue, hitems, hfields⟩ := ih
      refine ⟨fun text h => ?_, fun text h => ?_, fun text h => ?_⟩
      · cases text with
        | nil => rfl
        | cons c rest =>
            have hskip := skip_length rest
            rw [List.length_cons] at h
            by_cases hstr : c = '"'
            · subst hstr
              rfl
            by_cases harr : c = '['
            · subst harr
              rw [readValue, readValue]
              exact readOpened_congr (by rw [hitems _ (by omega)])
            by_cases hobj : c = '{'
            · subst hobj
              rw [readValue, readValue]
              exact readOpened_congr (by rw [hfields _ (by omega)])
            rw [readValue_scalar _ hstr harr hobj,
              readValue_scalar _ hstr harr hobj]
      · rw [readItems, readItems, hvalue text (by omega)]
        split
        · rfl
        · rename_i v rest hread
          have hlength := (read_length fuel).1 _ _ _ hread
          have hskip := skip_length rest
          split
          · rfl
          · rename_i rest' hcomma
            have hskip' := skip_length rest'
            rw [hcomma, List.length_cons] at hskip
            rw [hitems _ (by omega)]
          · rfl
      · rw [readFields, readFields]
        split
        · rfl
        · rename_i key after hkey
          have hlength := readKey_length hkey
          rw [hvalue after (by omega)]
          split
          · rfl
          · rename_i v rest hread
            have hlength' := (read_length fuel).1 _ _ _ hread
            have hskip := skip_length rest
            split
            · rfl
            · rename_i rest' hcomma
              have hskip' := skip_length rest'
              rw [hcomma, List.length_cons] at hskip
              rw [hfields _ (by omega)]
            · rfl

theorem readValue_fuel {text : List Char} {fuel : Nat}
    (h : 2 * text.length + 1 ≤ fuel) :
    readValue floats fuel text =
      readValue floats (2 * text.length + 1) text := by
  induction h with
  | refl => rfl
  | step h ih => rw [(read_succ _).1 text h, ih]

theorem loads_dumps {v : Value F} (h : v.Proper) :
    loads floats (dumps floats v) = some v := by
  obtain ⟨c, tail, htext, hblank, -⟩ := dumps_head floats v
  have hskip : skip (dumps floats v) = dumps floats v := by
    rw [htext, skip_of_head hblank]
  have hread : readValue floats
      (max v.calls (2 * (dumps floats v).length + 1)) (dumps floats v ++ []) =
        some (v, []) :=
    readValue_dumps v h _ (Nat.le_max_left _ _) [] numberEnds_nil
  rw [List.append_nil, readValue_fuel (Nat.le_max_right _ _)] at hread
  rw [loads, hskip, hread]
  rfl

/-! ## What a text is made of -/

/-- The characters from the space to the tilde. -/
def IsPrintable (c : Char) : Prop := 32 ≤ c.toNat ∧ c.toNat ≤ 126

instance (c : Char) : Decidable (IsPrintable c) :=
  inferInstanceAs (Decidable (_ ∧ _))

def Printable (text : List Char) : Prop := ∀ c ∈ text, IsPrintable c

instance (text : List Char) : Decidable (Printable text) :=
  List.decidableBAll IsPrintable text

theorem printable_append {text more : List Char} (h : Printable text)
    (hmore : Printable more) : Printable (text ++ more) := fun c hc =>
  (List.mem_append.mp hc).elim (h c) (hmore c)

theorem printable_cons {c : Char} {text : List Char} (hc : IsPrintable c)
    (h : Printable text) : Printable (c :: text) :=
  List.forall_mem_cons.mpr ⟨hc, h⟩

theorem printable_nil : Printable [] := nofun

theorem printable_hexDigit (n : Nat) : IsPrintable (hexDigit n) := by
  have hall : ∀ d < 16, IsPrintable (Nat.digitChar d) := by decide
  exact hall _ (Nat.mod_lt _ (by decide))

theorem printable_unicodeEscape (n : Nat) : Printable (unicodeEscape n) := by
  simp [Printable, unicodeEscape, printable_hexDigit]
  decide

theorem printable_escape (c : Char) : Printable (escape c) := by
  unfold escape
  repeat' split
  all_goals first
    | exact printable_unicodeEscape _
    | exact printable_append (printable_unicodeEscape _)
        (printable_unicodeEscape _)
    | exact printable_cons (by assumption) printable_nil
    | exact printable_cons (by decide) (printable_cons (by decide) printable_nil)

theorem printable_quote (s : String) : Printable (quote s) := by
  refine printable_append (printable_cons (by decide) fun c hc => ?_)
    (printable_cons (by decide) printable_nil)
  obtain ⟨d, -, hd⟩ := List.mem_flatMap.mp hc
  exact printable_escape d c hd

theorem printable_digits {digits : List Char}
    (h : NumberToken.IsDigits digits) : Printable digits := fun c hc => by
  have hdigit := h.2 c hc
  simp only [Char.isDigit, Bool.and_eq_true, decide_eq_true_eq] at hdigit
  exact ⟨Nat.le_trans (by decide) hdigit.1, Nat.le_trans hdigit.2 (by decide)⟩

theorem NumberToken.Valid.printable {t : NumberToken} (h : t.Valid) :
    Printable t.text := by
  obtain ⟨negative, whole, fraction, exponent⟩ := t
  refine printable_append (printable_append (printable_append ?_
    (printable_digits h.whole)) ?_) ?_
  · cases negative
    · exact printable_nil
    · exact printable_cons (by decide) printable_nil
  · cases fraction with
    | none => exact printable_nil
    | some digits =>
        exact printable_cons (by decide) (printable_digits (h.fraction _ rfl))
  · cases exponent with
    | none => exact printable_nil
    | some parts =>
        obtain ⟨sign, digits⟩ := parts
        refine printable_append (printable_cons (by decide) ?_)
          (printable_digits (h.exponent _ _ rfl))
        rcases h.sign _ _ rfl with rfl | rfl | rfl
        · exact printable_nil
        · exact printable_cons (by decide) printable_nil
        · exact printable_cons (by decide) printable_nil

mutual

theorem printable_dumps : (v : Value F) → Printable (dumps floats v)
  | .null | .bool true | .bool false | .nan | .infinity true
  | .infinity false => by
      rw [dumps]
      decide
  | .int z => (ofInt_valid z).printable
  | .float x => (floats.valid x).printable
  | .str s => printable_quote s
  | .arr items => printable_append
      (printable_cons (by decide) (printable_dumpsItems items)) (by decide)
  | .obj fields => printable_append
      (printable_cons (by decide) (printable_dumpsFields fields)) (by decide)

theorem printable_dumpsItems : (items : List (Value F)) →
    Printable (dumpsItems floats items)
  | [] => printable_nil
  | v :: rest => by
      refine printable_append (printable_dumps v) ?_
      split
      · exact printable_nil
      · exact printable_cons (by decide)
          (printable_cons (by decide) (printable_dumpsItems rest))

theorem printable_dumpsFields : (fields : List (String × Value F)) →
    Printable (dumpsFields floats fields)
  | [] => printable_nil
  | (k, v) :: rest => by
      refine printable_append (printable_append (printable_quote k)
        (printable_cons (by decide) (printable_cons (by decide)
          (printable_dumps v)))) ?_
      split
      · exact printable_nil
      · exact printable_cons (by decide)
          (printable_cons (by decide) (printable_dumpsFields rest))

end

/-! ## What is read is proper -/

theorem dictOf_nodup (fields : List (String × Value F)) :
    ((dictOf fields).map Prod.fst).Nodup := by
  suffices h : ∀ read : List (String × Value F), (read.map Prod.fst).Nodup →
      ((fields.foldl (fun read field =>
        Dict.assignIn field.1 field.2 read) read).map Prod.fst).Nodup from
    h [] List.nodup_nil
  induction fields with
  | nil => exact fun read h => h
  | cons field fields ih =>
      exact fun read h => ih _ (Dict.nodup_assignIn h)

theorem properFields_assignIn {k : String} {v : Value F}
    {fields : List (String × Value F)} (hv : v.Proper)
    (h : ProperFields fields) : ProperFields (Dict.assignIn k v fields) := by
  induction fields with
  | nil => exact ⟨hv, trivial⟩
  | cons field fields ih =>
      rw [Dict.assignIn]
      split
      · exact ⟨hv, h.2⟩
      · exact ⟨h.1, ih h.2⟩

theorem properFields_dictOf {fields : List (String × Value F)}
    (h : ProperFields fields) : ProperFields (dictOf fields) := by
  suffices hfold : ∀ read : List (String × Value F), ProperFields read →
      ProperFields (fields.foldl (fun read field =>
        Dict.assignIn field.1 field.2 read) read) from hfold [] trivial
  induction fields with
  | nil => exact fun read hread => hread
  | cons field fields ih =>
      exact fun read hread => ih h.2 _ (properFields_assignIn h.1 hread)

theorem value_proper (t : NumberToken) : (t.value floats).Proper := by
  unfold NumberToken.value
  split
  · trivial
  · split <;> trivial

theorem readScalar_proper {text rest : List Char} {v : Value F}
    (h : readScalar floats text = some (v, rest)) : v.Proper := by
  have hword : ∀ {spelled : List Char} {w : Value F}, w.Proper →
      word spelled w text = some (v, rest) → v.Proper := by
    intro spelled w hw hread
    unfold word at hread
    split at hread
    · cases hread
      exact hw
    · cases hread
  simp only [readScalar, Option.orElse_eq_orElse, Option.orElse_eq_or,
    Option.or_eq_some_iff] at h
  rcases h with hnumber | ⟨-, hread | ⟨-, hread | ⟨-, hread | ⟨-, hread |
    ⟨-, hread | ⟨-, hread⟩⟩⟩⟩⟩⟩
  · obtain ⟨⟨t, after⟩, hread, heq⟩ := Option.map_eq_some_iff.mp hnumber
    cases heq
    exact value_proper t
  all_goals exact hword (by trivial) hread

theorem readOpened_proper {close : Char} {empty : Value F}
    {inner : List Char → Option (Value F × List Char)} (hempty : empty.Proper)
    (hinner : ∀ text v rest, inner text = some (v, rest) → v.Proper)
    {text rest : List Char} {v : Value F}
    (h : readOpened close empty inner text = some (v, rest)) : v.Proper := by
  unfold readOpened at h
  split at h
  · cases h
  · split at h
    · cases h
      exact hempty
    · exact hinner _ _ _ h

theorem read_proper (fuel : Nat) :
    (∀ text v rest, readValue floats fuel text = some (v, rest) → v.Proper) ∧
    (∀ text items rest, readItems floats fuel text = some (items, rest) →
      ProperItems items) ∧
    (∀ text fields rest, readFields floats fuel text = some (fields, rest) →
      ProperFields fields) := by
  induction fuel with
  | zero => simp [readValue, readItems, readFields]
  | succ fuel ih =>
      obtain ⟨hvalue, hitems, hfields⟩ := ih
      refine ⟨fun text v rest h => ?_, fun text items rest h => ?_,
        fun text fields rest h => ?_⟩
      · unfold readValue at h
        split at h
        · cases h
        · obtain ⟨⟨s, after⟩, -, heq⟩ := Option.map_eq_some_iff.mp h
          cases heq
          trivial
        · rename_i hfuel
          cases hfuel
          refine readOpened_proper (by trivial) (fun text v rest hinner => ?_) h
          obtain ⟨⟨items, after⟩, hread, heq⟩ :=
            Option.map_eq_some_iff.mp hinner
          cases heq
          exact hitems _ _ _ hread
        · rename_i hfuel
          cases hfuel
          refine readOpened_proper (by exact ⟨List.nodup_nil, trivial⟩)
            (fun text v rest hinner => ?_) h
          obtain ⟨⟨fields, after⟩, hread, heq⟩ :=
            Option.map_eq_some_iff.mp hinner
          cases heq
          exact ⟨dictOf_nodup fields,
            properFields_dictOf (hfields _ _ _ hread)⟩
        · exact readScalar_proper h
      · rw [readItems] at h
        split at h
        · cases h
        · rename_i hread
          split at h
          · cases h
            exact ⟨hvalue _ _ _ hread, trivial⟩
          · obtain ⟨⟨items', after⟩, hmore, heq⟩ := Option.map_eq_some_iff.mp h
            cases heq
            exact ⟨hvalue _ _ _ hread, hitems _ _ _ hmore⟩
          · cases h
      · rw [readFields] at h
        split at h
        · cases h
        · split at h
          · cases h
          · rename_i hread
            split at h
            · cases h
              exact ⟨hvalue _ _ _ hread, trivial⟩
            · obtain ⟨⟨fields', after⟩, hmore, heq⟩ :=
                Option.map_eq_some_iff.mp h
              cases heq
              exact ⟨hvalue _ _ _ hread, hfields _ _ _ hmore⟩
            · cases h

theorem loads_proper {text : List Char} {v : Value F}
    (h : loads floats text = some v) : v.Proper := by
  unfold loads at h
  split at h
  · rename_i w rest hread
    split at h
    · cases h
      exact (read_proper _).1 _ _ _ hread
    · cases h
  · cases h

end JsonText
