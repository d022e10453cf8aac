import NodeAgent.Domain.InferenceCommand
import NodeAgent.Foundation.Pattern

/-!
# The version in the name of a vLLM image

The launcher takes the first number pair of an image reference for the version
of the server in it, and writes the multimodal flag in the syntax of that
version.  A registry host or a path may hold a number pair as well.
-/

namespace NodeAgent

namespace DockerInferenceBackend

/-! ## The search as the pattern says it -/

/-- `v?(\d+)\.(\d+)` -/
def versionPattern : List Pattern.Item :=
  [.optional (· = 'v'), .some Char.isDigit, .one (· = '.'), .some Char.isDigit]

/-- `int` of digits -/
def numeral (digits : List Char) : Nat :=
  digits.foldl (fun n d => 10 * n + Decimal.digitValue d) 0

def versionGroups : List (List Char) → Option (Nat × Nat)
  | [_, major, _, minor] => some (numeral major, numeral minor)
  | _ => none

/-- The number pair at the start of a text. -/
def versionHere? (text : List Char) : Option (List Char × List Char) :=
  let major := text.takeWhile Char.isDigit
  match text.dropWhile Char.isDigit with
  | '.' :: tail =>
      let minor := tail.takeWhile Char.isDigit
      if major = [] ∨ minor = [] then none else some (major, minor)
  | _ => none

theorem versionHere?_point {text tail : List Char}
    (h : text.dropWhile Char.isDigit = '.' :: tail) :
    versionHere? text =
      if text.takeWhile Char.isDigit = [] ∨ tail.takeWhile Char.isDigit = [] then
        none
      else some (text.takeWhile Char.isDigit, tail.takeWhile Char.isDigit) := by
  rw [versionHere?, h]
  rfl

theorem versionHere?_other {text : List Char}
    (h : ∀ tail, text.dropWhile Char.isDigit ≠ '.' :: tail) :
    versionHere? text = none := by
  unfold versionHere?
  split
  · next tail heq => exact absurd heq (h tail)
  · rfl

theorem searchVersion_cons (c : Char) (rest : List Char) :
    searchVersion (c :: rest) =
      match versionHere? (c :: rest) with
      | some (major, minor) => some (numeral major, numeral minor)
      | none => searchVersion rest := by
  rw [searchVersion]
  split
  · next tail heq =>
      rw [versionHere?_point heq]
      dsimp only
      by_cases hempty : (c :: rest).takeWhile Char.isDigit = [] ∨
          tail.takeWhile Char.isDigit = []
      · rw [if_pos hempty, if_pos hempty]
      · rw [if_neg hempty, if_neg hempty]
        rfl
  · next hother => rw [versionHere?_other hother]

theorem versionHere?_of_not_digit {c : Char} {rest : List Char}
    (h : c.isDigit = false) : versionHere? (c :: rest) = none := by
  unfold versionHere?
  rw [List.takeWhile_cons_of_neg (by simp [h])]
  split <;> simp

theorem matchHere_numbers (text : List Char) :
    Pattern.matchHere
        [.some Char.isDigit, .one (· = '.'), .some Char.isDigit] text =
      (versionHere? text).map fun (major, minor) => [major, ['.'], minor] := by
  have hstop : ∀ c rest, c.isDigit →
      Pattern.matchHere [.one (· = '.'), .some Char.isDigit] (c :: rest) =
        none := by
    intro c rest hc
    have hne : c ≠ '.' := by
      rintro rfl
      exact absurd hc (by decide)
    simp [Pattern.matchHere_one_cons, hne]
  have hrun : (Pattern.Item.some Char.isDigit).run text =
      text.takeWhile Char.isDigit := rfl
  rw [Pattern.matchHere_run rfl hstop, hrun]
  change (if 1 ≤ _ then (Pattern.matchHere _ (text.dropWhile Char.isDigit)).map _
    else none) = _
  match hdrop : text.dropWhile Char.isDigit with
  | [] =>
      rw [versionHere?_other (by simp [hdrop]), Pattern.matchHere_one_nil]
      exact ite_self none
  | c :: tail =>
      rw [Pattern.matchHere_one_cons]
      by_cases hc : c = '.'
      · subst hc
        rw [versionHere?_point hdrop, Pattern.matchHere_last rfl]
        change (if 1 ≤ _ then ((if _ then (if 1 ≤ (tail.takeWhile
          Char.isDigit).length then some [tail.takeWhile Char.isDigit]
            else none).map _ else none).map _) else none) = _
        cases hmajor : text.takeWhile Char.isDigit <;>
          cases hminor : tail.takeWhile Char.isDigit <;> simp
      · rw [versionHere?_other (by simp [hdrop, hc])]
        simp [hc]

theorem searchVersion_of_here {text major minor : List Char}
    (h : versionHere? text = some (major, minor)) :
    searchVersion text = some (numeral major, numeral minor) := by
  cases text with
  | nil => cases h
  | cons c rest => rw [searchVersion_cons, h]

theorem searchVersion_eq_search (text : List Char) :
    searchVersion text =
      (Pattern.search versionPattern text).bind versionGroups := by
  induction text with
  | nil => rfl
  | cons c rest ih =>
      rw [Pattern.search, versionPattern, Pattern.matchHere_optional_cons,
        matchHere_numbers, matchHere_numbers, ← versionPattern]
      by_cases hv : c = 'v'
      · subst hv
        rw [versionHere?_of_not_digit (by decide), searchVersion_cons,
          versionHere?_of_not_digit (by decide)]
        cases hhere : versionHere? rest with
        | none => simpa using ih
        | some numbers =>
            rw [searchVersion_of_here hhere]
            simp [versionGroups]
      · rw [searchVersion_cons]
        cases hhere : versionHere? (c :: rest) with
        | none => simpa [hv] using ih
        | some numbers => simp [hv, versionGroups]

/-! ## The first number pair of a text -/

structure IsNumeral (digits : List Char) : Prop where
  nonempty : digits ≠ []
  digits : ∀ c ∈ digits, c.isDigit

def StopsDigits (text : List Char) : Prop := ∀ c ∈ text.head?, ¬c.isDigit

/-- Digits, a point and digits stand at the start of a text. -/
def StartsWithVersion (text : List Char) : Prop :=
  ∃ major minor after, IsNumeral major ∧ IsNumeral minor ∧
    text = major ++ '.' :: (minor ++ after)

/--
The number pair of a text that starts first.  Its second number goes on as long
as there are digits.
-/
def FirstVersion (text major minor : List Char) : Prop :=
  ∃ before after, IsNumeral major ∧ IsNumeral minor ∧ StopsDigits after ∧
    text = before ++ (major ++ '.' :: (minor ++ after)) ∧
    ∀ k < before.length, ¬StartsWithVersion (text.drop k)

theorem StopsDigits.takeWhile {text : List Char} (h : StopsDigits text) :
    text.takeWhile Char.isDigit = [] := by
  cases text with
  | nil => rfl
  | cons c rest => exact List.takeWhile_cons_of_neg (h c rfl)

theorem stopsDigits_dropWhile (text : List Char) :
    StopsDigits (text.dropWhile Char.isDigit) := by
  intro c hc
  have h := List.head?_dropWhile_not Char.isDigit text
  simpa [Option.mem_def.mp hc] using h

theorem IsNumeral.takeWhile {digits : List Char} (h : IsNumeral digits)
    (rest : List Char) :
    (digits ++ rest).takeWhile Char.isDigit =
      digits ++ rest.takeWhile Char.isDigit :=
  List.takeWhile_append_of_pos h.digits

theorem IsNumeral.dropWhile {digits : List Char} (h : IsNumeral digits)
    (rest : List Char) :
    (digits ++ rest).dropWhile Char.isDigit = rest.dropWhile Char.isDigit :=
  List.dropWhile_append_of_pos h.digits

theorem versionHere?_numbers {major minor : List Char} (hmajor : IsNumeral major)
    (hminor : IsNumeral minor) (after : List Char) :
    versionHere? (major ++ '.' :: (minor ++ after)) =
      some (major, minor ++ after.takeWhile Char.isDigit) := by
  have hdrop : (major ++ '.' :: (minor ++ after)).dropWhile Char.isDigit =
      '.' :: (minor ++ after) := by
    rw [hmajor.dropWhile]
    rfl
  have htake : (major ++ '.' :: (minor ++ after)).takeWhile Char.isDigit =
      major := by
    rw [hmajor.takeWhile, List.takeWhile_cons_of_neg (by decide),
      List.append_nil]
  rw [versionHere?_point hdrop, htake, hminor.takeWhile, if_neg]
  simp [hmajor.nonempty, hminor.nonempty]

theorem versionHere?_some {text major minor : List Char}
    (h : versionHere? text = some (major, minor)) :
    ∃ after, IsNumeral major ∧ IsNumeral minor ∧ StopsDigits after ∧
      text = major ++ '.' :: (minor ++ after) := by
  unfold versionHere? at h
  split at h
  · next tail hdrop =>
      dsimp only at h
      split at h
      · cases h
      · next hne =>
          obtain ⟨rfl, rfl⟩ := Prod.mk.inj (Option.some.inj h)
          refine ⟨tail.dropWhile Char.isDigit,
            ⟨fun hnil => hne (.inl hnil), fun c => List.mem_takeWhile_imp⟩,
            ⟨fun hnil => hne (.inr hnil), fun c => List.mem_takeWhile_imp⟩,
            stopsDigits_dropWhile tail, ?_⟩
          rw [List.takeWhile_append_dropWhile, ← hdrop,
            List.takeWhile_append_dropWhile]
  · cases h

theorem versionHere?_isSome {text : List Char} :
    (versionHere? text).isSome ↔ StartsWithVersion text := by
  constructor
  · intro h
    obtain ⟨⟨major, minor⟩, hhere⟩ := Option.isSome_iff_exists.mp h
    obtain ⟨after, hmajor, hminor, -, htext⟩ := versionHere?_some hhere
    exact ⟨major, minor, after, hmajor, hminor, htext⟩
  · rintro ⟨major, minor, after, hmajor, hminor, rfl⟩
    rw [versionHere?_numbers hmajor hminor]
    rfl

theorem FirstVersion.cons {c : Char} {rest major minor : List Char}
    (hc : ¬StartsWithVersion (c :: rest)) (h : FirstVersion rest major minor) :
    FirstVersion (c :: rest) major minor := by
  obtain ⟨before, after, hmajor, hminor, hafter, rfl, hfirst⟩ := h
  refine ⟨c :: before, after, hmajor, hminor, hafter, rfl, fun k hk => ?_⟩
  cases k with
  | zero => exact hc
  | succ k => exact hfirst k (Nat.lt_of_succ_lt_succ hk)

theorem searchVersion_of_first {text major minor : List Char}
    (h : FirstVersion text major minor) :
    searchVersion text = some (numeral major, numeral minor) := by
  obtain ⟨before, after, hmajor, hminor, hafter, rfl, hfirst⟩ := h
  induction before with
  | nil =>
      refine searchVersion_of_here ?_
      rw [List.nil_append, versionHere?_numbers hmajor hminor,
        hafter.takeWhile, List.append_nil]
  | cons c before ih =>
      have hnone : versionHere?
          (c :: (before ++ (major ++ '.' :: (minor ++ after)))) = none := by
        rw [← Option.not_isSome_iff_eq_none, versionHere?_isSome]
        exact hfirst 0 (Nat.succ_pos _)
      rw [List.cons_append, searchVersion_cons, hnone]
      exact ih fun k hk => hfirst (k + 1) (Nat.succ_lt_succ hk)

theorem exists_first {text : List Char} (h : searchVersion text ≠ none) :
    ∃ major minor, FirstVersion text major minor := by
  induction text with
  | nil => exact absurd rfl h
  | cons c rest ih =>
      cases hhere : versionHere? (c :: rest) with
      | some numbers =>
          obtain ⟨after, hmajor, hminor, hafter, htext⟩ :=
            @versionHere?_some _ numbers.1 numbers.2 hhere
          exact ⟨numbers.1, numbers.2, [], after, hmajor, hminor, hafter, htext,
            fun k hk => absurd hk (Nat.not_lt_zero k)⟩
      | none =>
          rw [searchVersion_cons, hhere] at h
          obtain ⟨major, minor, hfirst⟩ := ih h
          refine ⟨major, minor, hfirst.cons ?_⟩
          rw [← versionHere?_isSome, hhere]
          exact Bool.false_ne_true

/-! ## Texts with a colon in them -/

theorem takeWhile_append_colon (head tail : List Char) :
    (head ++ ':' :: tail).takeWhile Char.isDigit =
      head.takeWhile Char.isDigit := by
  induction head with
  | nil => rfl
  | cons c head ih =>
      rw [List.cons_append, List.takeWhile_cons, List.takeWhile_cons, ih]

theorem dropWhile_append_colon (head tail : List Char) :
    (head ++ ':' :: tail).dropWhile Char.isDigit =
      head.dropWhile Char.isDigit ++ ':' :: tail := by
  induction head with
  | nil => rfl
  | cons c head ih =>
      rw [List.cons_append, List.dropWhile_cons, List.dropWhile_cons, ih]
      split <;> rfl

theorem versionHere?_append_colon (head tail : List Char) :
    versionHere? (head ++ ':' :: tail) = versionHere? head := by
  have hwhole := dropWhile_append_colon head tail
  match hdrop : head.dropWhile Char.isDigit with
  | [] =>
      rw [hdrop, List.nil_append] at hwhole
      rw [versionHere?_other (by simp [hwhole]),
        versionHere?_other (by simp [hdrop])]
  | c :: rest =>
      rw [hdrop, List.cons_append] at hwhole
      by_cases hc : c = '.'
      · subst hc
        rw [versionHere?_point hwhole, versionHere?_point hdrop,
          takeWhile_append_colon, takeWhile_append_colon]
      · rw [versionHere?_other (by simp [hwhole, hc]),
          versionHere?_other (by simp [hdrop, hc])]

theorem searchVersion_append_colon (head tail : List Char) :
    searchVersion (head ++ ':' :: tail) =
      (searchVersion head).or (searchVersion tail) := by
  induction head with
  | nil =>
      rw [List.nil_append, searchVersion_cons,
        versionHere?_of_not_digit (by decide)]
      rfl
  | cons c head ih =>
      have hsame := versionHere?_append_colon (c :: head) tail
      rw [List.cons_append] at hsame ⊢
      rw [searchVersion_cons, searchVersion_cons, hsame, ih]
      cases versionHere? (c :: head) <;> rfl

/-! ## Image references -/

def isReferenceChar (c : Char) : Bool :=
  c.isAlphanum || c ∈ ['.', '_', '-', '/', ':', '[', ']']

/-- `[registry-host[:port]/]path:tag`, with a tag that starts with a version. -/
structure VersionedImage where
  /-- A host and perhaps a port. -/
  registry : Option (List Char × Option (List Char))
  path : List Char
  /-- Whether the version has a `v` in front. -/
  mark : Bool
  major : List Char
  minor : List Char
  suffix : List Char
  isNumeral_major : IsNumeral major
  isNumeral_minor : IsNumeral minor
  stopsDigits_suffix : StopsDigits suffix
  registry_chars : ∀ host ∈ registry,
    host.1.all isReferenceChar ∧ ∀ port ∈ host.2, port.all isReferenceChar
  path_chars : path.all isReferenceChar
  suffix_chars : suffix.all isReferenceChar

namespace VersionedImage

def repository (image : VersionedImage) : List Char :=
  match image.registry with
  | none => image.path
  | some (host, none) => host ++ '/' :: image.path
  | some (host, some port) => host ++ ':' :: port ++ '/' :: image.path

def tag (image : VersionedImage) : List Char :=
  (if image.mark then ['v'] else []) ++
    (image.major ++ '.' :: (image.minor ++ image.suffix))

def text (image : VersionedImage) : String :=
  String.ofList (image.repository ++ ':' :: image.tag)

end VersionedImage

/-- `(major, minor) >= (0, 10)` -/
def FromTen (major minor : List Char) : Prop :=
  0 < numeral major ∨ numeral major = 0 ∧ 10 ≤ numeral minor

instance (major minor : List Char) : Decidable (FromTen major minor) :=
  inferInstanceAs (Decidable (_ ∨ _))

/-- What the server of an image parses behind `--limit-mm-per-prompt`. -/
def VersionedImage.limitSyntax (image : VersionedImage) : String :=
  if FromTen image.major image.minor then "\x7b\"image\": 4\x7d" else "image=4"

/-- The answer goes by the tag, and the flag is what the server parses. -/
def GoesByTag (image : VersionedImage) : Prop :=
  (vllmImageUsesJsonMmLimit image.text ↔ FromTen image.major image.minor) ∧
    ∀ modelId payload, looksLikeVisionModel modelId →
      ["--limit-mm-per-prompt", image.limitSyntax] <:+
        serveArgv modelId image.text false payload

/--
No number pair stands in front of the tag, or the first one there is on the
tag's side of 0.10.
-/
def RepositoryAgrees (image : VersionedImage) : Prop :=
  ∀ major minor, FirstVersion image.repository major minor →
    (FromTen major minor ↔ FromTen image.major image.minor)

theorem VersionedImage.searchVersion_tag (image : VersionedImage) :
    searchVersion image.tag =
      some (numeral image.major, numeral image.minor) := by
  have hhere : searchVersion
      (image.major ++ '.' :: (image.minor ++ image.suffix)) =
        some (numeral image.major, numeral image.minor) := by
    refine searchVersion_of_here ?_
    rw [versionHere?_numbers image.isNumeral_major image.isNumeral_minor,
      image.stopsDigits_suffix.takeWhile, List.append_nil]
  unfold VersionedImage.tag
  cases image.mark with
  | false => exact hhere
  | true =>
      change searchVersion ('v' :: _) = _
      rw [searchVersion_cons, versionHere?_of_not_digit (by decide)]
      exact hhere

theorem usesJson_of_search {text : String} {major minor : List Char}
    (h : searchVersion text.toList = some (numeral major, numeral minor)) :
    vllmImageUsesJsonMmLimit text ↔ FromTen major minor := by
  unfold vllmImageUsesJsonMmLimit
  rw [h]
  simp only [FromTen, decide_eq_true_eq]
  omega

theorem VersionedImage.searchVersion_text (image : VersionedImage) :
    searchVersion image.text.toList =
      (searchVersion image.repository).or
        (some (numeral image.major, numeral image.minor)) := by
  rw [VersionedImage.text, String.toList_ofList, searchVersion_append_colon,
    image.searchVersion_tag]

theorem usesJson_iff (image : VersionedImage) :
    (vllmImageUsesJsonMmLimit image.text ↔
        FromTen image.major image.minor) ↔ RepositoryAgrees image := by
  have hsearch := image.searchVersion_text
  constructor
  · intro h major minor hfirst
    rw [searchVersion_of_first hfirst] at hsearch
    exact (usesJson_of_search hsearch).symm.trans h
  · intro h
    cases hrepository : searchVersion image.repository with
    | none =>
        rw [hrepository] at hsearch
        exact usesJson_of_search hsearch
    | some numbers =>
        obtain ⟨major, minor, hfirst⟩ :=
          exists_first (hrepository ▸ Option.some_ne_none numbers)
        rw [searchVersion_of_first hfirst] at hsearch
        exact (usesJson_of_search hsearch).trans (h major minor hfirst)

theorem limit_suffix_serveArgv {modelId image : String} {payload : ServePayload}
    (h : looksLikeVisionModel modelId) :
    ["--limit-mm-per-prompt",
        if vllmImageUsesJsonMmLimit image then "\x7b\"image\": 4\x7d"
        else "image=4"] <:+ serveArgv modelId image false payload := by
  have hoptions : ["--limit-mm-per-prompt",
      if vllmImageUsesJsonMmLimit image then "\x7b\"image\": 4\x7d"
      else "image=4"] <:+
        Options.flatten (namedOptions modelId image payload) := by
    rw [namedOptions, if_pos h, Options.flatten, List.flatMap_append]
    exact List.suffix_append _ _
  rw [serveArgv, if_neg Bool.false_ne_true]
  exact hoptions.trans
    ((List.suffix_append _ _).trans (List.suffix_append _ _))

/--
The answer goes by the version in the tag, whatever the registry and the path
are, as long as they hold no number pair or one on the same side of 0.10.
-/
theorem goesByTag_iff (image : VersionedImage) :
    GoesByTag image ↔ RepositoryAgrees image := by
  rw [← usesJson_iff]
  refine ⟨And.left, fun h => ⟨h, fun modelId payload hvision => ?_⟩⟩
  have hsuffix := @limit_suffix_serveArgv modelId image.text payload hvision
  simpa only [VersionedImage.limitSyntax, h] using hsuffix

/-- `10.0.0.1:5000/vllm:v0.8.5` -/
def addressedImage : VersionedImage where
  registry := some ("10.0.0.1".toList, some "5000".toList)
  path := "vllm".toList
  mark := true
  major := ['0']
  minor := ['8']
  suffix := ".5".toList
  isNumeral_major := ⟨by decide, List.forall_mem_singleton.mpr rfl⟩
  isNumeral_minor := ⟨by decide, List.forall_mem_singleton.mpr rfl⟩
  stopsDigits_suffix c hc := by
    obtain rfl : '.' = c := Option.some.inj hc
    decide
  registry_chars := by decide
  path_chars := by decide
  suffix_chars := by decide

/-- The address of the registry is taken for version 10.0. -/
theorem goesByTag_addressed : ¬GoesByTag addressedImage := by
  rintro ⟨huses, -⟩
  have hnot : ¬FromTen addressedImage.major addressedImage.minor := by decide
  exact hnot (huses.mp (by decide))

end DockerInferenceBackend

end NodeAgent
