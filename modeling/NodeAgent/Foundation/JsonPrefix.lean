import NodeAgent.Foundation.JsonRoundTrip

/-!
# JSON text cut short

An object that has been read to its closing brace is read no differently when
more follows.  So no beginning of an object's text is itself the text of a value.
-/

namespace JsonText

variable {F : Type} {floats : Floats F} {more : List Char}

/-- Something follows that is no part of a number. -/
def Delimited (rest : List Char) : Prop :=
  ∃ c tail, rest = c :: tail ∧ c.isDigit = false ∧ c ≠ '.' ∧ c ≠ 'e' ∧ c ≠ 'E'

theorem Delimited.ne_nil {rest : List Char} (h : Delimited rest) : rest ≠ [] := by
  obtain ⟨c, tail, rfl, -⟩ := h
  exact List.cons_ne_nil c tail

/-! ## The parts of a text -/

theorem readString_plain {c : Char} (hquote : c ≠ '"') (hslash : c ≠ '\\')
    (hc : ¬c.toNat < 32) (rest : List Char) :
    readString (c :: rest) =
      (readString rest).map fun (s, rest) => (c :: s, rest) := by
  rw [readString, if_neg hc]
  · exact hquote
  · exact fun _ _ _ _ _ h => absurd h hslash
  · exact fun _ _ h => absurd h hslash

theorem readString_unescape {c d : Char} (h : unescape c = some d)
    (rest : List Char) :
    readString ('\\' :: c :: rest) =
      (readString rest).map fun (s, rest) => (d :: s, rest) := by
  have hu : c ≠ 'u' := by
    rintro rfl
    cases h
  rw [readString, h]
  exact fun _ _ _ _ _ hc => absurd hc hu

theorem readString_more {text s rest : List Char}
    (h : readString text = some (s, rest)) :
    readString (text ++ more) = some (s, rest ++ more) := by
  have hmap : ∀ {c : Char} {text s rest : List Char}, (∀ {s rest},
      readString text = some (s, rest) →
        readString (text ++ more) = some (s, rest ++ more)) →
      (readString text).map (fun (s, rest) => (c :: s, rest)) = some (s, rest) →
      (readString (text ++ more)).map (fun (s, rest) => (c :: s, rest)) =
        some (s, rest ++ more) := by
    intro c text s rest ih hsome
    obtain ⟨⟨s', rest'⟩, hread, heq⟩ := Option.map_eq_some_iff.mp hsome
    rw [ih hread]
    cases heq
    rfl
  fun_induction readString text generalizing s rest with
  | case1 rest => cases h; rfl
  | case4 a b c d n hn hhigh a' b' c' d' rest m hm hlow ih =>
      simp only [List.cons_append]
      rw [readString]
      simp only [hn, hhigh, hm, hlow, if_true]
      exact hmap ih h
  | case8 a b c d rest n hn hhigh hlow ih =>
      simp only [List.cons_append]
      rw [readString]
      simp only [hn, hhigh, hlow]
      exact hmap ih h
  | case10 c rest hcode d hescape ih =>
      rw [List.cons_append, List.cons_append, readString_unescape hescape]
      exact hmap ih h
  | case12 c tail hquote _ hslash hc ih =>
      by_cases hback : c = '\\'
      · cases tail with
        | nil => cases h
        | cons d tail => exact (hslash d tail hback rfl).elim
      · rw [List.cons_append, readString_plain hquote hback hc]
        exact hmap ih h
  | _ => cases h

theorem skip_more {text : List Char} (h : skip text ≠ []) :
    skip (text ++ more) = skip text ++ more := by
  induction text with
  | nil => exact absurd rfl h
  | cons c text ih =>
      unfold skip at ih h ⊢
      rw [List.cons_append]
      by_cases hc : isBlank c = true
      · rw [List.dropWhile_cons_of_pos hc] at h ⊢
        rw [List.dropWhile_cons_of_pos hc]
        exact ih h
      · rw [List.dropWhile_cons_of_neg hc, List.dropWhile_cons_of_neg hc]
        rfl

theorem skip_more_cons {text tail : List Char} {c : Char}
    (h : skip text = c :: tail) : skip (text ++ more) = c :: (tail ++ more) := by
  rw [skip_more (by rw [h]; exact List.cons_ne_nil c tail), h]
  rfl

theorem spanDigits_more {text : List Char} (h : (spanDigits text).2 ≠ []) :
    spanDigits (text ++ more) =
      ((spanDigits text).1, (spanDigits text).2 ++ more) := by
  induction text with
  | nil => exact absurd rfl h
  | cons c text ih =>
      unfold spanDigits at ih h ⊢
      rw [List.cons_append]
      by_cases hc : c.isDigit = true
      · simp only [List.dropWhile_cons_of_pos hc,
          List.takeWhile_cons_of_pos hc] at h ⊢
        have hrest := ih h
        rw [Prod.mk.injEq] at hrest ⊢
        exact ⟨congrArg (c :: ·) hrest.1, hrest.2⟩
      · simp only [List.dropWhile_cons_of_neg hc,
          List.takeWhile_cons_of_neg hc]
        rfl

theorem readWhole_more {text whole rest : List Char}
    (h : readWhole text = some (whole, rest)) (hrest : rest ≠ []) :
    readWhole (text ++ more) = some (whole, rest ++ more) := by
  unfold readWhole at h
  split at h
  · cases h
    rfl
  · rename_i hzero
    split at h
    · cases h
    · rename_i hdigits
      have hspan := Option.some.inj h
      have hmore : spanDigits (text ++ more) = (whole, rest ++ more) := by
        rw [spanDigits_more (by rw [hspan]; exact hrest), hspan]
      rw [readWhole, hmore, if_neg]
      · rw [hspan] at hdigits
        exact hdigits
      · cases text with
        | nil => exact absurd rfl hdigits
        | cons c text => exact fun _ heq => hzero text (by
            rw [(List.cons.inj heq).1])

theorem readFraction_more {text : List Char}
    (hpoint : ∀ tail, (readFraction text).2 ≠ '.' :: tail)
    (hne : (readFraction text).2 ≠ []) :
    readFraction (text ++ more) =
      ((readFraction text).1, (readFraction text).2 ++ more) := by
  cases text with
  | nil => exact absurd rfl hne
  | cons c text =>
      by_cases hc : c = '.'
      · subst hc
        rw [List.cons_append]
        simp only [readFraction] at hpoint hne ⊢
        by_cases hdigits : (spanDigits text).1.isEmpty = true
        · rw [if_pos hdigits] at hpoint
          exact absurd rfl (hpoint _)
        · rw [if_neg hdigits] at hne ⊢
          rw [spanDigits_more hne, if_neg hdigits]
      · have hskips : ∀ rest, readFraction (c :: rest) = (none, c :: rest) :=
          fun rest => by
            rw [readFraction]
            exact fun _ h => hc (List.cons.inj h).1
        rw [List.cons_append, hskips, hskips]
        rfl

theorem readSign_more {text : List Char} (h : (readSign text).2 ≠ []) :
    readSign (text ++ more) = ((readSign text).1, (readSign text).2 ++ more) := by
  cases text with
  | nil => exact absurd rfl h
  | cons c text =>
      rw [List.cons_append]
      by_cases hplus : c = '+'
      · subst hplus
        rfl
      by_cases hminus : c = '-'
      · subst hminus
        rfl
      have hunsigned : ∀ rest, readSign (c :: rest) = ([], c :: rest) :=
        fun rest => by
          rw [readSign]
          · exact fun _ h => hplus (List.cons.inj h).1
          · exact fun _ h => hminus (List.cons.inj h).1
      rw [hunsigned, hunsigned]
      rfl

theorem readPower_more {text rest : List Char} {power : List Char × List Char}
    (h : readPower text = some (power, rest)) (hne : rest ≠ []) :
    readPower (text ++ more) = some (power, rest ++ more) := by
  simp only [readPower, Option.ite_none_left_eq_some, Option.some.injEq,
    Prod.mk.injEq] at h
  obtain ⟨hdigits, rfl, rfl⟩ := h
  have hsign : (readSign text).2 ≠ [] := fun hnil => by
    rw [hnil] at hne
    exact hne rfl
  simp only [readPower, readSign_more hsign, spanDigits_more hne,
    if_neg hdigits]

theorem readExponent_more {text : List Char}
    (h : Delimited (readExponent text).2) :
    readExponent (text ++ more) =
      ((readExponent text).1, (readExponent text).2 ++ more) := by
  cases text with
  | nil => exact absurd rfl h.ne_nil
  | cons c text =>
      rw [List.cons_append]
      simp only [readExponent] at h ⊢
      by_cases hmark : c = 'e' ∨ c = 'E'
      · rw [if_pos hmark] at h ⊢
        cases hpower : readPower text with
        | none =>
            rw [hpower] at h
            obtain ⟨d, tail, heq, -, -, he, hE⟩ := h
            obtain rfl : c = d := (List.cons.inj heq).1
            exact absurd hmark (not_or.mpr ⟨he, hE⟩)
        | some read =>
            rw [hpower] at h
            rw [readPower_more hpower h.ne_nil, if_pos hmark]
      · rw [if_neg hmark, if_neg hmark]
        rfl

theorem readUnsigned_more {negative : Bool} {text rest : List Char}
    {t : NumberToken} (h : readUnsigned negative text = some (t, rest))
    (hrest : Delimited rest) :
    readUnsigned negative (text ++ more) = some (t, rest ++ more) := by
  unfold readUnsigned at h
  split at h
  · cases h
  · rename_i whole after hwhole
    obtain ⟨rfl, rfl⟩ := Prod.mk.inj (Option.some.inj h)
    have hpoint : ∀ tail, (readFraction after).2 ≠ '.' :: tail :=
      fun tail heq => by
        rw [heq] at hrest
        obtain ⟨c, rest, hc, -, hne, -⟩ := hrest
        exact hne (List.cons.inj hc).1.symm
    have hfraction : (readFraction after).2 ≠ [] := fun heq => by
      rw [heq] at hrest
      exact hrest.ne_nil rfl
    have hafter : after ≠ [] := by
      rintro rfl
      exact hfraction rfl
    simp only [readUnsigned, readWhole_more hwhole hafter,
      readFraction_more hpoint hfraction, readExponent_more hrest]

theorem readNumber_more {text rest : List Char} {t : NumberToken}
    (h : readNumber text = some (t, rest)) (hrest : Delimited rest) :
    readNumber (text ++ more) = some (t, rest ++ more) := by
  cases text with
  | nil => cases h
  | cons c text =>
      by_cases hc : c = '-'
      · subst hc
        exact readUnsigned_more h hrest
      · have hpositive : ∀ rest, readNumber (c :: rest) =
            readUnsigned false (c :: rest) := fun rest => by
          rw [readNumber]
          exact fun _ heq => hc (List.cons.inj heq).1
        rw [hpositive] at h
        rw [List.cons_append, hpositive]
        exact readUnsigned_more h hrest

theorem word_eq {spelled text rest : List Char} {v w : Value F}
    (h : word spelled v text = some (w, rest)) :
    w = v ∧ text = spelled ++ rest := by
  unfold word at h
  split at h
  · rename_i hprefix
    cases h
    obtain ⟨rest, rfl⟩ := List.isPrefixOf_iff_prefix.mp hprefix
    rw [List.drop_left]
    exact ⟨rfl, rfl⟩
  · cases h

theorem readScalar_more {text rest : List Char} {v : Value F}
    (h : readScalar floats text = some (v, rest)) (hrest : Delimited rest) :
    readScalar floats (text ++ more) = some (v, rest ++ more) := by
  simp only [readScalar, Option.orElse_eq_orElse, Option.orElse_eq_or,
    Option.or_eq_some_iff] at h
  rcases h with hnumber | ⟨-, hword | ⟨-, hword | ⟨-, hword | ⟨-, hword |
    ⟨-, hword | ⟨-, hword⟩⟩⟩⟩⟩⟩
  · obtain ⟨⟨t, after⟩, hread, heq⟩ := Option.map_eq_some_iff.mp hnumber
    cases heq
    rw [readScalar, readNumber_more hread hrest]
    rfl
  all_goals
    obtain ⟨rfl, rfl⟩ := word_eq hword
    rw [List.append_assoc]
    rfl

theorem readKey_more {text rest : List Char} {key : String}
    (h : readKey text = some (key, rest)) (hrest : rest ≠ []) :
    readKey (text ++ more) = some (key, rest ++ more) := by
  unfold readKey at h
  split at h
  · split at h
    · cases h
    · rename_i after hstring
      split at h
      · rename_i after' hcolon
        obtain ⟨rfl, rfl⟩ := Prod.mk.inj (Option.some.inj h)
        rw [List.cons_append, readKey, readString_more hstring]
        simp only [skip_more_cons hcolon, skip_more hrest]
      · cases h
  · cases h

/-! ## Values -/

theorem delimited_of_skip {rest tail : List Char} {c : Char}
    (h : skip rest = c :: tail) (hc : c = ',' ∨ c = ']' ∨ c = '}') :
    Delimited rest := by
  cases rest with
  | nil => cases h
  | cons d rest =>
      by_cases hd : isBlank d = true
      · simp only [isBlank, Bool.or_eq_true, decide_eq_true_eq] at hd
        refine ⟨d, rest, rfl, ?_⟩
        rcases hd with ((rfl | rfl) | rfl) | rfl <;> decide
      · rw [skip_of_head (Bool.eq_false_iff.mpr hd)] at h
        obtain rfl : d = c := (List.cons.inj h).1
        refine ⟨d, rest, rfl, ?_⟩
        rcases hc with rfl | rfl | rfl <;> decide

theorem readValue_nil (fuel : Nat) : readValue floats fuel [] = none := by
  cases fuel <;> rfl

theorem readItems_nil (fuel : Nat) : readItems floats fuel [] = none := by
  cases fuel with
  | zero => rfl
  | succ fuel => rw [readItems, readValue_nil]

theorem readFields_nil (fuel : Nat) : readFields floats fuel [] = none := by
  cases fuel <;> rfl

section

variable {fuel : Nat}

theorem readItems_more
    (hvalue : ∀ text v rest, readValue floats fuel text = some (v, rest) →
      Delimited rest →
        readValue floats fuel (text ++ more) = some (v, rest ++ more))
    (hitems : ∀ text items rest, readItems floats fuel text =
      some (items, rest) →
        readItems floats fuel (text ++ more) = some (items, rest ++ more))
    (text : List Char) (items : List (Value F)) (rest : List Char)
    (h : readItems floats (fuel + 1) text = some (items, rest)) :
    readItems floats (fuel + 1) (text ++ more) =
      some (items, rest ++ more) := by
  rw [readItems] at h
  split at h
  · cases h
  · rename_i v after hread
    split at h
    · rename_i after' hclose
      cases h
      rw [readItems, hvalue _ _ _ hread (delimited_of_skip hclose (by simp))]
      simp only [skip_more_cons hclose]
    · rename_i after' hcomma
      obtain ⟨⟨items', rest'⟩, hmore, heq⟩ := Option.map_eq_some_iff.mp h
      cases heq
      have hskip : skip after' ≠ [] := fun hnil => by
        rw [hnil, readItems_nil] at hmore
        cases hmore
      rw [readItems, hvalue _ _ _ hread (delimited_of_skip hcomma (by simp))]
      simp only [skip_more_cons hcomma, skip_more hskip, hitems _ _ _ hmore,
        Option.map_some]
    · cases h

theorem readFields_more
    (hvalue : ∀ text v rest, readValue floats fuel text = some (v, rest) →
      Delimited rest →
        readValue floats fuel (text ++ more) = some (v, rest ++ more))
    (hfields : ∀ text fields rest, readFields floats fuel text =
      some (fields, rest) →
        readFields floats fuel (text ++ more) = some (fields, rest ++ more))
    (text : List Char) (fields : List (String × Value F)) (rest : List Char)
    (h : readFields floats (fuel + 1) text = some (fields, rest)) :
    readFields floats (fuel + 1) (text ++ more) =
      some (fields, rest ++ more) := by
  rw [readFields] at h
  split at h
  · cases h
  · rename_i key after hkey
    split at h
    · cases h
    · rename_i v after' hread
      have hafter : after ≠ [] := by
        rintro rfl
        rw [readValue_nil] at hread
        cases hread
      split at h
      · rename_i after'' hclose
        cases h
        rw [readFields, readKey_more hkey hafter]
        dsimp only
        rw [hvalue _ _ _ hread (delimited_of_skip hclose (by simp))]
        simp only [skip_more_cons hclose]
      · rename_i after'' hcomma
        obtain ⟨⟨fields', rest'⟩, hmore, heq⟩ := Option.map_eq_some_iff.mp h
        cases heq
        have hskip : skip after'' ≠ [] := fun hnil => by
          rw [hnil, readFields_nil] at hmore
          cases hmore
        rw [readFields, readKey_more hkey hafter]
        dsimp only
        rw [hvalue _ _ _ hread (delimited_of_skip hcomma (by simp))]
        simp only [skip_more_cons hcomma, skip_more hskip, hfields _ _ _ hmore,
          Option.map_some]
      · cases h

theorem readOpened_more {close : Char} {empty : Value F}
    {inner : List Char → Option (Value F × List Char)}
    (hinner : ∀ text v rest, inner text = some (v, rest) →
      inner (text ++ more) = some (v, rest ++ more))
    {text rest : List Char} {v : Value F}
    (h : readOpened close empty inner text = some (v, rest)) :
    readOpened close empty inner (text ++ more) = some (v, rest ++ more) := by
  unfold readOpened at h
  split at h
  · cases h
  · rename_i c after hnext
    rw [readOpened, skip_more_cons hnext]
    split at h
    · rename_i hclose
      cases h
      exact if_pos hclose
    · rename_i hclose
      exact (if_neg hclose).trans (hinner _ _ _ h)

theorem readObject_more
    (hfields : ∀ text fields rest, readFields floats fuel text =
      some (fields, rest) →
        readFields floats fuel (text ++ more) = some (fields, rest ++ more))
    {text : List Char} {v : Value F} {rest : List Char}
    (h : readValue floats (fuel + 1) ('{' :: text) = some (v, rest)) :
    readValue floats (fuel + 1) ('{' :: (text ++ more)) =
      some (v, rest ++ more) := by
  rw [readValue] at h ⊢
  refine readOpened_more (fun text v rest hinner => ?_) h
  obtain ⟨⟨fields, after⟩, hread, heq⟩ := Option.map_eq_some_iff.mp hinner
  cases heq
  rw [hfields _ _ _ hread]
  rfl

theorem readArray_more
    (hitems : ∀ text items rest, readItems floats fuel text =
      some (items, rest) →
        readItems floats fuel (text ++ more) = some (items, rest ++ more))
    {text : List Char} {v : Value F} {rest : List Char}
    (h : readValue floats (fuel + 1) ('[' :: text) = some (v, rest)) :
    readValue floats (fuel + 1) ('[' :: (text ++ more)) =
      some (v, rest ++ more) := by
  rw [readValue] at h ⊢
  refine readOpened_more (fun text v rest hinner => ?_) h
  obtain ⟨⟨items, after⟩, hread, heq⟩ := Option.map_eq_some_iff.mp hinner
  cases heq
  rw [hitems _ _ _ hread]
  rfl

end

theorem read_more (fuel : Nat) :
    (∀ text v rest, readValue floats fuel text = some (v, rest) →
      Delimited rest →
        readValue floats fuel (text ++ more) = some (v, rest ++ more)) ∧
    (∀ text items rest, readItems floats fuel text = some (items, rest) →
      readItems floats fuel (text ++ more) = some (items, rest ++ more)) ∧
    (∀ text fields rest, readFields floats fuel text = some (fields, rest) →
      readFields floats fuel (text ++ more) = some (fields, rest ++ more)) := by
  induction fuel with
  | zero => simp [readValue, readItems, readFields]
  | succ fuel ih =>
      obtain ⟨hvalue, hitems, hfields⟩ := ih
      refine ⟨fun text v rest h hrest => ?_, readItems_more hvalue hitems,
        readFields_more hvalue hfields⟩
      cases text with
      | nil =>
          rw [readValue_nil] at h
          cases h
      | cons c text =>
          rw [List.cons_append]
          by_cases hstr : c = '"'
          · subst hstr
            rw [readValue] at h ⊢
            obtain ⟨⟨s, after⟩, hread, heq⟩ := Option.map_eq_some_iff.mp h
            cases heq
            rw [readString_more hread]
            rfl
          by_cases harr : c = '['
          · subst harr
            exact readArray_more hitems h
          by_cases hobj : c = '{'
          · subst hobj
            exact readObject_more hfields h
          rw [readValue_scalar _ hstr harr hobj] at h ⊢
          exact readScalar_more h hrest

theorem loads_cut {fields : List (String × Value F)}
    (h : (Value.obj fields).Proper) {text : List Char}
    (hcut : dumps floats (.obj fields) = text ++ more) (hmore : more ≠ []) :
    loads floats text = none := by
  cases text with
  | nil => rfl
  | cons c text =>
      obtain rfl : '{' = c := (List.cons.inj hcut).1
      cases hread : readValue floats (2 * (text.length + 1) + 1)
          ('{' :: text) with
      | none =>
          rw [loads, skip_of_head (by decide), List.length_cons, hread]
      | some found =>
          -- the whole text would be read just as far
          obtain ⟨v, rest⟩ := found
          obtain ⟨fuel, hfuel⟩ : ∃ fuel, max (Value.obj fields).calls
              (2 * (text.length + 1) + 1) = fuel + 1 :=
            Nat.exists_eq_succ_of_ne_zero (by omega)
          have hpart : readValue floats (fuel + 1) ('{' :: text) =
              some (v, rest) := by
            rw [readValue_fuel (by rw [List.length_cons]; omega),
              List.length_cons, hread]
          have hwhole : readValue floats (fuel + 1)
              (dumps floats (.obj fields) ++ []) = some (.obj fields, []) :=
            readValue_dumps _ h _ (by omega) [] numberEnds_nil
          rw [List.append_nil, hcut, List.cons_append,
            readObject_more (read_more fuel).2.2 hpart] at hwhole
          have hrest := (Prod.mk.inj (Option.some.inj hwhole)).2
          exact absurd (List.append_eq_nil_iff.mp hrest).2 hmore

end JsonText
