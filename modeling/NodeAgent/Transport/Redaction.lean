import NodeAgent.Domain.Pod

/-!
# What the runtime routes show of a record

The routes serialize a record and replace the value under every secret key.
-/

namespace NodeAgent

/-! ## Places in a JSON value -/

namespace Json

inductive Step where
  | key (key : String)
  | index (position : Nat)
  deriving DecidableEq, Repr

/-- A JSON value without what is inside its items and fields. -/
inductive Shape where
  | leaf (value : Json)
  | arr (length : Nat)
  | obj (keys : List String)

def shape : Json → Shape
  | .arr items => .arr items.length
  | .obj fields => .obj (fields.map Prod.fst)
  | leaf => .leaf leaf

def child : Json → Step → Option Json
  | .arr items, .index position => items[position]?
  | .obj fields, .key key => (fields.find? fun field => field.1 = key).map Prod.snd
  | _, _ => none

def get? (value : Json) : List Step → Option Json
  | [] => some value
  | step :: path => (value.child step).bind fun inner => inner.get? path

theorem inductionOn {P : Json → Prop} (value : Json)
    (null : P .null) (bool : ∀ b, P (.bool b)) (int : ∀ n, P (.int n))
    (float : ∀ q, P (.float q)) (str : ∀ text, P (.str text))
    (arr : ∀ items, (∀ item ∈ items, P item) → P (.arr items))
    (obj : ∀ fields : List (String × Json),
      (∀ field ∈ fields, P field.2) → P (.obj fields)) : P value := by
  refine @Json.rec P (fun items => ∀ item ∈ items, P item)
    (fun fields => ∀ field ∈ fields, P field.2) (fun field => P field.2)
    null bool int float str arr obj (by simp) ?_ (by simp) ?_ ?_ value
  · exact fun _ _ hhead htail => List.forall_mem_cons.mpr ⟨hhead, htail⟩
  · exact fun _ _ hhead htail => List.forall_mem_cons.mpr ⟨hhead, htail⟩
  · exact fun _ _ ih => ih

end Json

/-! ## Redaction -/

def redactPlaceholder : Json := .str "***redacted***"

/-- `lower` is `str.lower`. -/
def isSecretKey (lower : String → String) (key : String) : Bool :=
  let k := lower key
  contains "private_key" k || contains "secret" k || contains "password" k ||
    contains "hf_token" k || k = "token" ||
    "_token".toList.isSuffixOf k.toList

section Redact

variable (secret : String → Bool)

mutual

def redact : Json → Json
  | .obj fields => .obj (redactFields fields)
  | .arr items => .arr (redactItems items)
  | leaf => leaf

def redactItems : List Json → List Json
  | [] => []
  | item :: rest => redact item :: redactItems rest

def redactFields : List (String × Json) → List (String × Json)
  | [] => []
  | (key, value) :: rest =>
      (key, if secret key then redactPlaceholder else redact value) ::
        redactFields rest

end

mutual

/-- The two values differ at most under secret keys. -/
def AgreeOutside : Json → Json → Prop
  | .obj fields, .obj fields' => AgreeFields fields fields'
  | .arr items, .arr items' => AgreeItems items items'
  | value, value' => value = value'

def AgreeItems : List Json → List Json → Prop
  | [], [] => True
  | item :: rest, item' :: rest' =>
      AgreeOutside item item' ∧ AgreeItems rest rest'
  | _, _ => False

def AgreeFields : List (String × Json) → List (String × Json) → Prop
  | [], [] => True
  | (key, value) :: rest, (key', value') :: rest' =>
      key = key' ∧ (secret key = false → AgreeOutside value value') ∧
        AgreeFields rest rest'
  | _, _ => False

end

/-- No step of the path goes under a secret key. -/
def Public (path : List Json.Step) : Prop :=
  ∀ key, Json.Step.key key ∈ path → secret key = false

end Redact

/-- `_runtime_public_dump`; `modelDump` is the record's `model_dump`. -/
def runtimePublicDump {Record : Type} (secret : String → Bool)
    (modelDump : Record → Json) (runtime : Record) : Json :=
  redact secret (modelDump runtime)

variable {secret : String → Bool}

theorem redactItems_eq_map (items : List Json) :
    redactItems secret items = items.map (redact secret) := by
  induction items with
  | nil => rfl
  | cons item rest ih => simp [redactItems, ih]

theorem redactFields_eq_map (fields : List (String × Json)) :
    redactFields secret fields = fields.map fun field =>
      (field.1, if secret field.1 then redactPlaceholder
        else redact secret field.2) := by
  induction fields with
  | nil => rfl
  | cons field rest ih => simp [redactFields, ih]

/-! ## What is kept and what is replaced -/

theorem shape_redact (value : Json) :
    (redact secret value).shape = value.shape := by
  cases value with
  | arr items => simp [redact, Json.shape, redactItems_eq_map]
  | obj fields => simp [redact, Json.shape, redactFields_eq_map]
  | _ => rfl

theorem child_redact (value : Json) {step : Json.Step}
    (hstep : ∀ key, step = .key key → secret key = false) :
    (redact secret value).child step =
      (value.child step).map (redact secret) := by
  cases value with
  | arr items =>
      cases step with
      | key key => rfl
      | index position =>
          simp [redact, Json.child, redactItems_eq_map, List.getElem?_map]
  | obj fields =>
      cases step with
      | index position => rfl
      | key key =>
          have hpublic := hstep key rfl
          simp only [redact, Json.child]
          induction fields with
          | nil => rfl
          | cons field rest ih =>
              by_cases h : field.1 = key
              · simp [redactFields, h, hpublic]
              · simpa [redactFields, h] using ih
  | _ => cases step <;> rfl

theorem child_redact_secret (value : Json) {key : String}
    (hsecret : secret key = true) :
    (redact secret value).child (.key key) =
      (value.child (.key key)).map fun _ => redactPlaceholder := by
  cases value with
  | obj fields =>
      simp only [redact, Json.child]
      induction fields with
      | nil => rfl
      | cons field rest ih =>
          by_cases h : field.1 = key
          · simp [redactFields, h, hsecret]
          · simpa [redactFields, h] using ih
  | _ => rfl

theorem Public.tail {step : Json.Step} {path : List Json.Step}
    (h : Public secret (step :: path)) : Public secret path :=
  fun key hkey => h key (List.mem_cons_of_mem step hkey)

theorem get?_redact (value : Json) {path : List Json.Step}
    (hpath : Public secret path) :
    (redact secret value).get? path =
      (value.get? path).map (redact secret) := by
  induction path generalizing value with
  | nil => rfl
  | cons step path ih =>
      have hstep : ∀ key, step = .key key → secret key = false :=
        fun key heq => hpath key (heq ▸ List.mem_cons_self)
      simp only [Json.get?, child_redact value hstep]
      cases value.child step with
      | none => rfl
      | some inner => exact ih inner hpath.tail

theorem Json.get?_append (value : Json) (path : List Json.Step)
    (step : Json.Step) :
    value.get? (path ++ [step]) =
      (value.get? path).bind fun inner => inner.child step := by
  induction path generalizing value with
  | nil => simp [Json.get?]
  | cons first path ih =>
      simp only [List.cons_append, Json.get?]
      cases value.child first with
      | none => rfl
      | some inner => exact ih inner

theorem get?_redact_secret (value : Json) {path : List Json.Step}
    (hpath : Public secret path) {key : String} (hsecret : secret key = true) :
    (redact secret value).get? (path ++ [.key key]) =
      (value.get? (path ++ [.key key])).map fun _ => redactPlaceholder := by
  rw [Json.get?_append, Json.get?_append, get?_redact value hpath]
  cases value.get? path with
  | none => rfl
  | some inner => exact child_redact_secret inner hsecret

/-! ## What two redacted values tell apart -/

theorem redactItems_eq_iff {items : List Json}
    (ih : ∀ item ∈ items, ∀ item', redact secret item = redact secret item' ↔
      AgreeOutside secret item item') (items' : List Json) :
    redactItems secret items = redactItems secret items' ↔
      AgreeItems secret items items' := by
  induction items generalizing items' with
  | nil => cases items' <;> simp [redactItems, AgreeItems]
  | cons item rest ihrest =>
      obtain ⟨hitem, hrest⟩ := List.forall_mem_cons.mp ih
      cases items' with
      | nil => simp [redactItems, AgreeItems]
      | cons item' rest' =>
          simp [redactItems, AgreeItems, hitem item', ihrest hrest rest']

theorem redactFields_eq_iff {fields : List (String × Json)}
    (ih : ∀ field ∈ fields, ∀ value', redact secret field.2 =
      redact secret value' ↔ AgreeOutside secret field.2 value')
    (fields' : List (String × Json)) :
    redactFields secret fields = redactFields secret fields' ↔
      AgreeFields secret fields fields' := by
  induction fields generalizing fields' with
  | nil => cases fields' <;> simp [redactFields, AgreeFields]
  | cons field rest ihrest =>
      obtain ⟨hfield, hrest⟩ := List.forall_mem_cons.mp ih
      cases fields' with
      | nil => simp [redactFields, AgreeFields]
      | cons field' rest' =>
          obtain ⟨key, value⟩ := field
          obtain ⟨key', value'⟩ := field'
          by_cases hkey : key = key'
          · subst hkey
            cases hsecret : secret key <;>
              simp [redactFields, AgreeFields, hsecret, hfield value',
                ihrest hrest rest']
          · simp [redactFields, AgreeFields, hkey]

theorem redact_eq_iff (value value' : Json) :
    redact secret value = redact secret value' ↔
      AgreeOutside secret value value' := by
  induction value using Json.inductionOn generalizing value' with
  | arr items ih =>
      cases value' with
      | arr items' => simp [redact, AgreeOutside, redactItems_eq_iff ih items']
      | _ => simp [redact, AgreeOutside]
  | obj fields ih =>
      cases value' with
      | obj fields' =>
          simp [redact, AgreeOutside, redactFields_eq_iff ih fields']
      | _ => simp [redact, AgreeOutside]
  | _ => cases value' <;> simp [redact, AgreeOutside]

theorem redact_redact (value : Json) :
    redact secret (redact secret value) = redact secret value := by
  induction value using Json.inductionOn with
  | arr items ih =>
      simpa [redact, redactItems_eq_map] using ih
  | obj fields ih =>
      simp only [redact, redactFields_eq_map, List.map_map, Json.obj.injEq,
        List.map_inj_left, Function.comp_apply, Prod.mk.injEq, true_and]
      intro field hfield
      cases hsecret : secret field.1 with
      | true => simp
      | false => simpa using ih field hfield
  | _ => rfl

/--
Redaction keeps the shape of a value at every public place, puts the
placeholder under every outermost secret key, shows nothing of what is below
one, and has nothing left to do when it is done again.
-/
theorem redact_discloses_public (lower : String → String) (value : Json) :
    let secret := isSecretKey lower
    (∀ path, Public secret path →
      ((redact secret value).get? path).map Json.shape =
        (value.get? path).map Json.shape) ∧
    (∀ path key, Public secret path → secret key = true →
      (redact secret value).get? (path ++ [.key key]) =
        (value.get? (path ++ [.key key])).map fun _ => redactPlaceholder) ∧
    (∀ value', AgreeOutside secret value value' →
      redact secret value = redact secret value') ∧
    (∀ {Record : Type} (modelDump : Record → Json) (runtime runtime' : Record),
      AgreeOutside secret (modelDump runtime) (modelDump runtime') →
      runtimePublicDump secret modelDump runtime =
        runtimePublicDump secret modelDump runtime') ∧
    redact secret (redact secret value) = redact secret value := by
  refine ⟨fun path hpath => ?_, fun path key hpath hsecret => ?_,
    fun value' h => ?_, fun modelDump runtime runtime' h => ?_, ?_⟩
  · rw [get?_redact value hpath]
    cases value.get? path with
    | none => rfl
    | some inner => exact congrArg some (shape_redact inner)
  · exact get?_redact_secret value hpath hsecret
  · exact (redact_eq_iff value value').mpr h
  · exact (redact_eq_iff _ _).mpr h
  · exact redact_redact value

/-- Two records with different tokens are shown alike. -/
theorem redact_discloses_public_tokens :
    redact (isSecretKey lower)
        (.obj [("id", .str "d1"), ("metadata", .obj [("HF_TOKEN", .str "a")])]) =
      redact (isSecretKey lower)
        (.obj [("id", .str "d1"), ("metadata", .obj [("HF_TOKEN", .null)])]) :=
  (redact_discloses_public lower _).2.2.1 _
    ⟨rfl, fun _ => rfl, rfl,
      fun _ => ⟨rfl, fun h => absurd h (by decide +kernel), trivial⟩, trivial⟩

end NodeAgent
