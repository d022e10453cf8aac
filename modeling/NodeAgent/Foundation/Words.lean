import NodeAgent.Foundation.Text
import Mathlib.Data.List.Chain

/-!
# The words of a text

`split()` takes a text apart at its whitespace.  Gluing the words with single
blanks gives the text back exactly when it had nothing but single blanks.
-/

namespace Text

/-- `text.split()` -/
def words (text : List Char) : List (List Char) :=
  (text.splitOnP isSpace).filter (· ≠ [])

structure IsWord (word : List Char) : Prop where
  nonempty : word ≠ []
  noSpace : ∀ c ∈ word, isSpace c = false

/-- Whitespace is single blanks, none of them at either end. -/
structure SingleBlanks (text : List Char) : Prop where
  blanks : ∀ c ∈ text, isSpace c → c = ' '
  apart : text.IsChain fun c d => ¬(isSpace c ∧ isSpace d)
  starts : ∀ c ∈ text.head?, ¬isSpace c
  ends : ∀ c ∈ text.getLast?, ¬isSpace c

/-! ## Taking apart -/

theorem isWord_of_mem_words {text word : List Char} (h : word ∈ words text) :
    IsWord word := by
  obtain ⟨hmem, hne⟩ := List.mem_filter.mp h
  exact ⟨by simpa using hne, forall_of_mem_splitOnP hmem⟩

@[simp] theorem words_nil : words [] = [] := rfl

theorem IsWord.words_eq {word : List Char} (h : IsWord word) :
    words word = [word] := by
  simp [words, List.splitOnP_eq_singleton h.noSpace, h.nonempty]

theorem IsWord.words_append {word : List Char} (h : IsWord word) {c : Char}
    (hc : isSpace c) (rest : List Char) :
    words (word ++ c :: rest) = word :: words rest := by
  simp [words,
    List.splitOnP_append_cons_of_forall_mem h.noSpace c hc rest, h.nonempty]

/-! ## Gluing together -/

theorem isSpace_blank : isSpace ' ' := by decide

theorem words_intercalate {glued : List (List Char)}
    (h : ∀ word ∈ glued, IsWord word) :
    words ([' '].intercalate glued) = glued := by
  induction glued with
  | nil => rfl
  | cons word rest ih =>
      obtain ⟨hword, hrest⟩ := List.forall_mem_cons.mp h
      match rest, hrest, ih with
      | [], _, _ => rw [List.intercalate_singleton, hword.words_eq]
      | next :: others, hrest, ih =>
          rw [List.intercalate_cons_cons, List.append_assoc,
            List.singleton_append, hword.words_append isSpace_blank, ih hrest]

theorem IsWord.singleBlanks {word : List Char} (h : IsWord word) :
    SingleBlanks word where
  blanks c hc hspace := by simp [h.noSpace c hc] at hspace
  apart := by
    rw [List.isChain_iff_forall_rel_of_append_cons_cons]
    rintro c d before after rfl ⟨hspace, -⟩
    simp [h.noSpace c (by simp)] at hspace
  starts c hc := by simp [h.noSpace c (List.mem_of_mem_head? hc)]
  ends c hc := by simp [h.noSpace c (List.mem_of_mem_getLast? hc)]

theorem SingleBlanks.cons_word {word rest : List Char} (hword : IsWord word)
    (hne : rest ≠ []) (h : SingleBlanks rest) :
    SingleBlanks (word ++ ' ' :: rest) where
  blanks c hc hspace := by
    rcases List.mem_append.mp hc with hc | hc
    · exact hword.singleBlanks.blanks c hc hspace
    · rcases List.mem_cons.mp hc with rfl | hc
      · rfl
      · exact h.blanks c hc hspace
  apart := by
    refine hword.singleBlanks.apart.append (List.isChain_cons.mpr ⟨?_, h.apart⟩) ?_
    · exact fun c hc hboth => h.starts c hc hboth.2
    · exact fun c hc d _ hboth => hword.singleBlanks.ends c hc hboth.1
  starts c hc := by
    rw [List.head?_append_of_ne_nil _ hword.nonempty] at hc
    exact hword.singleBlanks.starts c hc
  ends c hc := by
    rw [List.getLast?_append_of_ne_nil _ (List.cons_ne_nil _ _),
      List.getLast?_cons_of_ne_nil hne] at hc
    exact h.ends c hc

theorem intercalate_ne_nil {word : List Char} (hword : IsWord word)
    (rest : List (List Char)) : [' '].intercalate (word :: rest) ≠ [] := by
  cases rest with
  | nil => simpa using hword.nonempty
  | cons next others => simp [hword.nonempty]

theorem singleBlanks_intercalate {glued : List (List Char)}
    (h : ∀ word ∈ glued, IsWord word) :
    SingleBlanks ([' '].intercalate glued) := by
  induction glued with
  | nil => exact ⟨by simp, .nil, by simp, by simp⟩
  | cons word rest ih =>
      obtain ⟨hword, hrest⟩ := List.forall_mem_cons.mp h
      match rest, hrest, ih with
      | [], _, _ =>
          rw [List.intercalate_singleton]
          exact hword.singleBlanks
      | next :: others, hrest, ih =>
          rw [List.intercalate_cons_cons, List.append_assoc]
          exact .cons_word hword
            (intercalate_ne_nil (hrest next (by simp)) others) (ih hrest)

theorem SingleBlanks.tail {word rest : List Char}
    (h : SingleBlanks (word ++ ' ' :: rest)) : rest ≠ [] ∧ SingleBlanks rest := by
  have hne : rest ≠ [] := by
    rintro rfl
    exact h.ends ' ' (by simp) isSpace_blank
  have happart := List.isChain_cons.mp h.apart.right_of_append
  refine ⟨hne, fun c hc => h.blanks c (by simp [hc]), happart.2,
    fun c hc hspace => happart.1 c hc ⟨isSpace_blank, hspace⟩,
    fun c hc => h.ends c ?_⟩
  rw [List.getLast?_append_of_ne_nil _ (List.cons_ne_nil _ _),
    List.getLast?_cons_of_ne_nil hne]
  exact hc

theorem SingleBlanks.cases {text : List Char} (h : SingleBlanks text) :
    text = [] ∨ IsWord text ∨
      ∃ word rest, IsWord word ∧ text = word ++ ' ' :: rest := by
  by_cases hnil : text = []
  · exact .inl hnil
  · refine .inr ?_
    have hword : IsWord (text.takeWhile (!isSpace ·)) := by
      refine ⟨?_, fun c hc => by simpa using List.mem_takeWhile_imp hc⟩
      obtain ⟨c, rest, rfl⟩ := List.exists_cons_of_ne_nil hnil
      have hc : isSpace c = false := by simpa using h.starts c rfl
      simp [hc]
    have hsplit : text.takeWhile (!isSpace ·) ++ text.dropWhile (!isSpace ·) =
        text := List.takeWhile_append_dropWhile
    match hdrop : text.dropWhile (!isSpace ·) with
    | [] =>
        rw [hdrop, List.append_nil] at hsplit
        exact .inl (hsplit ▸ hword)
    | c :: rest =>
        rw [hdrop] at hsplit
        have hspace : isSpace c := by
          have hhead := List.head?_dropWhile_not (!isSpace ·) text
          simpa [hdrop] using hhead
        obtain rfl := h.blanks c (by rw [← hsplit]; simp) hspace
        exact .inr ⟨_, rest, hword, hsplit.symm⟩

theorem SingleBlanks.intercalate_words {text : List Char}
    (h : SingleBlanks text) : [' '].intercalate (words text) = text := by
  induction hlength : text.length using Nat.strong_induction_on
    generalizing text with
  | _ n ih =>
      rcases h.cases with rfl | hword | ⟨word, rest, hword, rfl⟩
      · rfl
      · rw [hword.words_eq, List.intercalate_singleton]
      · obtain ⟨hne, hrest⟩ := h.tail
        have hlt : rest.length < n := by
          rw [← hlength, List.length_append, List.length_cons]
          omega
        have hback := ih rest.length hlt hrest rfl
        have hwords : words rest ≠ [] := by
          intro hnil
          rw [hnil] at hback
          exact hne hback.symm
        rw [hword.words_append isSpace_blank,
          List.intercalate_cons_of_ne_nil hwords, hback, List.append_assoc,
          List.singleton_append]

/--
The words of one text, glued with single blanks, are another text exactly if
that one has only single blanks and the same words.
-/
theorem intercalate_words_eq_iff {text other : List Char} :
    [' '].intercalate (words text) = other ↔
      SingleBlanks other ∧ words text = words other := by
  have hwords : ∀ word ∈ words text, IsWord word :=
    fun word => isWord_of_mem_words
  constructor
  · rintro rfl
    exact ⟨singleBlanks_intercalate hwords, (words_intercalate hwords).symm⟩
  · rintro ⟨hother, hsame⟩
    rw [hsame, hother.intercalate_words]

end Text
