import NodeAgent.Foundation.Dict
import NodeAgent.Foundation.Monitor

/-!
# A dictionary that several threads use

Looking a key up, setting it and removing it are single steps; walking over the
items is one step an item, and a step that finds the dictionary of another size
than the walk began with raises.
-/

namespace Effectful

inductive DictCall (κ α : Type) where
  | get (k : κ)
  | set (k : κ) (v : α)
  | pop (k : κ)
  | length
  /-- The next item of a walk that began on `size` items and has passed `index`. -/
  | next (size index : Nat)

abbrev DictCall.Ret {κ α : Type} : DictCall κ α → Type
  | .get _ | .pop _ => Option α
  | .set _ _ => Unit
  | .length => Nat
  | .next _ _ => Option (κ × α)

variable {κ α ε : Type} [DecidableEq κ]

/-- What a call answers and leaves; `changed` is raised by a walk that is overtaken. -/
def DictCall.perform (changed : ε) :
    (e : DictCall κ α) → Dict κ α → Except ε e.Ret × Dict κ α
  | .get k, d => (.ok (d.get? k), d)
  | .set k v, d => (.ok (), d.insert k v)
  | .pop k, d => (.ok (d.get? k), d.erase k)
  | .length, d => (.ok d.entries.length, d)
  | .next size index, d =>
      (if d.entries.length = size then .ok d.entries[index]?
        else .error changed, d)

/-! ## Comprehensions -/

/-- `{k: v for k, v in items}` -/
def Dict.ofItems (items : List (κ × α)) : Dict κ α :=
  items.foldl (fun d item => d.insert item.1 item.2) .empty

theorem Dict.foldl_insert_entries (items : List (κ × α)) (d : Dict κ α)
    (hnodup : ((d.entries ++ items).map Prod.fst).Nodup) :
    (items.foldl (fun d item => d.insert item.1 item.2) d).entries =
      d.entries ++ items := by
  induction items generalizing d with
  | nil => simp
  | cons item items ih =>
      have hnew : item.1 ∉ d.entries.map Prod.fst := by
        intro hmem
        rw [List.map_append] at hnodup
        exact (List.nodup_append.mp hnodup).2.2 _ hmem item.1 (by simp) rfl
      have hinsert : (d.insert item.1 item.2).entries = d.entries ++ [item] :=
        Dict.assignIn_of_not_mem hnew
      rw [List.foldl_cons, ih _ (by rw [hinsert]; simpa using hnodup), hinsert,
        List.append_assoc, List.singleton_append]

theorem Dict.ofItems_entries (d : Dict κ α) : Dict.ofItems d.entries = d := by
  have hentries := Dict.foldl_insert_entries d.entries .empty d.nodup
  cases hd : Dict.ofItems d.entries with
  | mk entries nodup =>
      obtain rfl : entries = d.entries :=
        (congrArg Dict.entries hd).symm.trans hentries
      rfl

/-! ## Walks -/

section Walk

variable {E β σ : Type} {Ret : E → Type}

/-- The rest of a walk that has `left` items to come; the last step finds none. -/
def walkFrom (next : Nat → Locked E Ret ε (Option β)) :
    Nat → Nat → Locked E Ret ε (List β)
  | 0, index => (next index).bind fun _ => .done (.ok [])
  | left + 1, index => (next index).bind fun
      | none => .done (.ok [])
      | some item => (walkFrom next left (index + 1)).bind fun rest =>
          .done (.ok (item :: rest))

/-- `for item in d.items()`, the items being collected. -/
def walk (length : Locked E Ret ε Nat)
    (next : Nat → Nat → Locked E Ret ε (Option β)) :
    Locked E Ret ε (List β) :=
  length.bind fun size => walkFrom (next size) size 0

theorem balanced_walkFrom {next : Nat → Locked E Ret ε (Option β)}
    (hnext : ∀ index, Balanced (next index)) (left index : Nat) :
    Balanced (walkFrom next left index) := by
  induction left generalizing index with
  | zero => exact (hnext index).bind fun _ => balanced_done _
  | succ left ih =>
      refine (hnext index).bind fun item => ?_
      cases item with
      | none => exact balanced_done _
      | some item => exact (ih _).bind fun _ => balanced_done _

theorem balanced_walk {length : Locked E Ret ε Nat}
    {next : Nat → Nat → Locked E Ret ε (Option β)} (hlength : Balanced length)
    (hnext : ∀ size index, Balanced (next size index)) :
    Balanced (walk length next) :=
  hlength.bind fun _ => balanced_walkFrom (hnext _) _ _

variable {f : (e : E) → σ → Except ε (Ret e) × σ} {s : σ} {items : List β}

theorem run_walkFrom {next : Nat → Locked E Ret ε (Option β)}
    (hnext : ∀ index, (next index).run f s = (.ok items[index]?, s))
    (left index : Nat) (hleft : items.length = index + left) :
    (walkFrom next left index).run f s = (.ok (items.drop index), s) := by
  induction left generalizing index with
  | zero =>
      have hdone : items.drop index = [] := List.drop_eq_nil_of_le (by omega)
      rw [walkFrom, run_bind, hnext, hdone]
      rfl
  | succ left ih =>
      have hlt : index < items.length := by omega
      rw [walkFrom, run_bind, hnext, List.getElem?_eq_getElem hlt]
      simp only
      rw [run_bind, ih (index + 1) (by omega), List.drop_eq_getElem_cons hlt]
      rfl

theorem run_walk {length : Locked E Ret ε Nat}
    {next : Nat → Nat → Locked E Ret ε (Option β)}
    (hlength : length.run f s = (.ok items.length, s))
    (hnext : ∀ index,
      (next items.length index).run f s = (.ok items[index]?, s)) :
    (walk length next).run f s = (.ok items, s) := by
  rw [walk, run_bind, hlength]
  simp only
  rw [run_walkFrom hnext _ _ (by omega), List.drop_zero]

end Walk

end Effectful
