import NodeAgent.Foundation.JsonPrefix
import NodeAgent.Infrastructure.StateSave

/-!
# The text of the state file

`json.dump` with its default settings writes the state file, and `json.load`
reads it.  A raw record is a JSON value without an object that has one field
twice, which is what `json.load` returns.
-/

namespace NodeAgent

open Effectful JsonText

variable {F : Type}

abbrev ProperValue (F : Type) := { v : Value F // v.Proper }

/-- The fields of an object, with what is known of their values forgotten. -/
def plain (fields : List (String × ProperValue F)) : List (String × Value F) :=
  fields.map fun field => (field.1, field.2.1)

def properEntries : (fields : List (String × Value F)) → ProperFields fields →
    List (String × ProperValue F)
  | [], _ => []
  | (k, v) :: rest, h => (k, ⟨v, h.1⟩) :: properEntries rest h.2

theorem properFields_plain (fields : List (String × ProperValue F)) :
    ProperFields (plain fields) := by
  induction fields with
  | nil => trivial
  | cons field fields ih => exact ⟨field.2.2, ih⟩

theorem properEntries_plain (fields : List (String × ProperValue F))
    (h : ProperFields (plain fields)) : properEntries (plain fields) h = fields := by
  induction fields with
  | nil => rfl
  | cons field fields ih => exact congrArg (field :: ·) (ih h.2)

theorem keys_plain (fields : List (String × ProperValue F)) :
    (plain fields).map Prod.fst = fields.map Prod.fst := by
  rw [plain, List.map_map]
  rfl

theorem keys_properEntries (fields : List (String × Value F))
    (h : ProperFields fields) :
    (properEntries fields h).map Prod.fst = fields.map Prod.fst := by
  induction fields with
  | nil => rfl
  | cons field fields ih => exact congrArg (field.1 :: ·) (ih h.2)

/-! ## Documents -/

/-- The field of the file's object. -/
def StateMap.name : StateMap → String
  | .runtimes => "runtimes"
  | .placements => "placements"
  | .volumes => "volumes"
  | .collateral => "collateral"

theorem StateMap.name_injective : Function.Injective StateMap.name := by
  intro m m' h
  cases m <;> cases m' <;> first | rfl | exact absurd h (by decide)

def objectOf (fields : Dict String (ProperValue F)) : ProperValue F :=
  ⟨.obj (plain fields.entries), by
    rw [Value.Proper, keys_plain]
    exact ⟨fields.nodup, properFields_plain _⟩⟩

/-- What stands under a name; of no object, any value stands for all. -/
def StateField.value : StateField (ProperValue F) → Option (ProperValue F)
  | .missing => none
  | .object entries => some (objectOf entries)
  | .other => some ⟨.null, trivial⟩

def StateField.ofValue : Option (ProperValue F) → StateField (ProperValue F)
  | none => .missing
  | some ⟨.obj fields, h⟩ => .object ⟨properEntries fields h.2, by
      rw [keys_properEntries]
      exact h.1⟩
  | some _ => .other

theorem StateField.ofValue_value (field : StateField (ProperValue F)) :
    StateField.ofValue field.value = field := by
  cases field with
  | missing => rfl
  | other => rfl
  | object entries =>
      simp only [StateField.value, objectOf, StateField.ofValue,
        properEntries_plain]

namespace StateDocument

def fields (field : StateMap → StateField (ProperValue F)) :
    List StateMap → List (String × ProperValue F)
  | [] => []
  | m :: maps =>
      match (field m).value with
      | none => fields field maps
      | some v => (m.name, v) :: fields field maps

theorem keys_fields (field : StateMap → StateField (ProperValue F))
    (maps : List StateMap) :
    ∀ key ∈ (fields field maps).map Prod.fst, ∃ m ∈ maps, m.name = key := by
  induction maps with
  | nil => exact fun _ hkey => nomatch hkey
  | cons m maps ih =>
      intro key hkey
      have hrest : key ∈ (fields field maps).map Prod.fst →
          ∃ m' ∈ m :: maps, m'.name = key := fun hmem => by
        obtain ⟨m', hm', rfl⟩ := ih key hmem
        exact ⟨m', List.mem_cons_of_mem m hm', rfl⟩
      rw [fields] at hkey
      split at hkey
      · exact hrest hkey
      · rcases List.mem_cons.mp hkey with rfl | hmem
        · exact ⟨m, by simp, rfl⟩
        · exact hrest hmem

theorem nodup_fields (field : StateMap → StateField (ProperValue F))
    {maps : List StateMap} (h : maps.Nodup) :
    ((fields field maps).map Prod.fst).Nodup := by
  induction maps with
  | nil => exact List.nodup_nil
  | cons m maps ih =>
      obtain ⟨hm, hmaps⟩ := List.nodup_cons.mp h
      rw [fields]
      split
      · exact ih hmaps
      · refine List.nodup_cons.mpr ⟨fun hmem => ?_, ih hmaps⟩
        obtain ⟨m', hm', hname⟩ := keys_fields field maps _ hmem
        exact hm (StateMap.name_injective hname ▸ hm')

theorem lookupIn_fields (field : StateMap → StateField (ProperValue F))
    (m : StateMap) {maps : List StateMap} (h : maps.Nodup) :
    Dict.lookupIn m.name (fields field maps) =
      if m ∈ maps then (field m).value else none := by
  induction maps with
  | nil => rfl
  | cons m' maps ih =>
      obtain ⟨hm', hmaps⟩ := List.nodup_cons.mp h
      have hrest := ih hmaps
      by_cases hm : m = m'
      · subst hm
        rw [if_neg hm'] at hrest
        rw [fields, if_pos (by simp)]
        cases hvalue : (field m).value with
        | none => exact hrest
        | some v => simp [Dict.lookupIn]
      · have hname : m'.name ≠ m.name := fun heq =>
          hm (StateMap.name_injective heq.symm)
        have hmem : m ∈ m' :: maps ↔ m ∈ maps := by simp [hm]
        rw [fields]
        simp only [hmem]
        cases hvalue : (field m').value with
        | none => exact hrest
        | some v => simpa [Dict.lookupIn, hname] using hrest

/-- A document as one JSON value; of no object, any value stands for all. -/
def value : StateDocument (ProperValue F) → ProperValue F
  | .object field =>
      objectOf ⟨fields field StateMap.all, nodup_fields field (by decide)⟩
  | .other => ⟨.null, trivial⟩

def ofValue : ProperValue F → StateDocument (ProperValue F)
  | ⟨.obj fields, h⟩ => .object fun m =>
      StateField.ofValue (Dict.lookupIn m.name (properEntries fields h.2))
  | _ => .other

theorem ofValue_value (document : StateDocument (ProperValue F)) :
    ofValue document.value = document := by
  cases document with
  | other => rfl
  | object field =>
      simp only [value, objectOf, ofValue, properEntries_plain]
      congr 1
      funext m
      rw [lookupIn_fields field m (by decide), if_pos (by cases m <;> decide),
        StateField.ofValue_value]

end StateDocument

def parseText (floats : Floats F) (text : List Char) :
    Option (StateDocument (ProperValue F)) :=
  match h : loads floats text with
  | none => none
  | some v => some (.ofValue ⟨v, loads_proper h⟩)

theorem parseText_dumps (floats : Floats F)
    (document : StateDocument (ProperValue F)) :
    parseText floats (dumps floats document.value.1) = some document := by
  have hloads : loads floats (dumps floats document.value.1) =
      some document.value.1 := loads_dumps document.value.2
  unfold parseText
  split
  · rename_i hnone
    rw [hloads] at hnone
    cases hnone
  · rename_i v hsome
    obtain rfl : document.value.1 = v := Option.some.inj (hloads.symm.trans hsome)
    rw [show (⟨document.value.1, loads_proper hsome⟩ : ProperValue F) =
      document.value from rfl, StateDocument.ofValue_value]

/-- The text goes to the file character by character. -/
def jsonFormat (floats : Floats F) : StateFormat (ProperValue F) Char where
  dump document := (dumps floats document.value.1).map ([·])
  parse := parseText floats
  parse_dump document := by
    rw [← List.flatMap_def, List.flatMap_singleton', parseText_dumps]

namespace NodeAgentRepository

variable {Placement Collateral : Type}

/--
The state file is one line of ASCII whatever the records hold, and it parses to
the document that was saved.  Cut short anywhere it parses to nothing, so an
agent that finds a part of it starts without records, never with other ones.
-/
theorem stateText_roundTrip (floats : Floats F)
    (models : RecordModels (ProperValue F) Placement Collateral)
    (tables : StateTables Placement Collateral) :
    let text := (pieces models (jsonFormat floats) tables).flatten
    Printable text ∧
      (jsonFormat floats).parse text = some (save models tables) ∧
      ∀ n < text.length, (jsonFormat floats).parse (text.take n) = none ∧
        loadFile models (jsonFormat floats) (some (text.take n)) = .empty := by
  have htext : (pieces models (jsonFormat floats) tables).flatten =
      dumps floats (save models tables).value.1 := by
    rw [pieces, jsonFormat, ← List.flatMap_def, List.flatMap_singleton']
  rw [htext]
  refine ⟨printable_dumps _, parseText_dumps floats _, fun n hn => ?_⟩
  have hmore : (dumps floats (save models tables).value.1).drop n ≠ [] :=
    List.ne_nil_of_length_pos (by rw [List.length_drop]; omega)
  have hcut : JsonText.loads floats ((dumps floats (save models tables).value.1).take n) =
      none :=
    loads_cut (save models tables).value.2 (List.take_append_drop _ _).symm hmore
  have hparse : parseText floats
      ((dumps floats (save models tables).value.1).take n) = none := by
    unfold parseText
    split
    · rfl
    · rename_i hsome
      rw [hcut] at hsome
      cases hsome
  refine ⟨hparse, ?_⟩
  simp only [loadFile, jsonFormat, hparse]

end NodeAgentRepository

end NodeAgent
