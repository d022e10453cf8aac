import Mathlib.Data.Fintype.Card
import Mathlib.Data.Finset.Card
import Mathlib.Algebra.Order.BigOperators.Group.Finset

/-!
# Groups on nodes

Groups of one size are put on nodes with equally many slots, so that no group
has slots of two nodes and no slot is of two groups.
-/

namespace Packing

/-- Where each group is, and which slots of its node it has. -/
structure Placement (size groups nodes slots : Nat) where
  node : Fin groups → Fin nodes
  held : Fin groups → Finset (Fin slots)
  full : ∀ i, (held i).card = size
  apart : ∀ i j, i ≠ j → node i = node j → Disjoint (held i) (held j)

variable {size groups nodes slots : Nat}

theorem Placement.card_on_node (placement : Placement size groups nodes slots)
    (hsize : 0 < size) (n : Fin nodes) :
    (Finset.univ.filter fun i => placement.node i = n).card ≤ slots / size := by
  have hdisjoint : ∀ i ∈ Finset.univ.filter fun i => placement.node i = n,
      ∀ j ∈ Finset.univ.filter fun i => placement.node i = n, i ≠ j →
        Disjoint (placement.held i) (placement.held j) := by
    intro i hi j hj hne
    rw [Finset.mem_filter] at hi hj
    exact placement.apart i j hne (hi.2.trans hj.2.symm)
  have hcard := Finset.card_biUnion hdisjoint
  rw [Finset.sum_const_nat fun i _ => placement.full i] at hcard
  rw [Nat.le_div_iff_mul_le hsize, ← hcard]
  exact (Finset.card_le_univ _).trans_eq (Fintype.card_fin slots)

theorem Placement.groups_le (placement : Placement size groups nodes slots)
    (hsize : 0 < size) : groups ≤ nodes * (slots / size) := by
  calc groups = (Finset.univ : Finset (Fin groups)).card := by simp
    _ = ∑ n : Fin nodes,
          (Finset.univ.filter fun i => placement.node i = n).card :=
        Finset.card_eq_sum_card_fiberwise fun i _ => Finset.mem_univ _
    _ ≤ ∑ _n : Fin nodes, slots / size :=
        Finset.sum_le_sum fun n _ => placement.card_on_node hsize n
    _ = nodes * (slots / size) := by simp

/-- The slots from `k * size` on, for a number `k` that fits into the node. -/
def block (size slots : Nat) (k : Nat) (hk : k < slots / size) :
    Finset (Fin slots) :=
  Finset.univ.image fun j : Fin size =>
    ⟨k * size + j, by
      have h : (k + 1) * size ≤ slots :=
        (Nat.mul_le_mul_right size hk).trans (Nat.div_mul_le_self slots size)
      rw [Nat.succ_mul] at h
      omega⟩

theorem card_block {k : Nat} (hk : k < slots / size) :
    (block size slots k hk).card = size := by
  rw [block, Finset.card_image_of_injective, Finset.card_univ, Fintype.card_fin]
  intro j j' h
  simp only [Fin.mk.injEq] at h
  exact Fin.ext (by omega)

theorem disjoint_block {k k' : Nat} (hk : k < slots / size)
    (hk' : k' < slots / size) (hne : k ≠ k') :
    Disjoint (block size slots k hk) (block size slots k' hk') := by
  rw [Finset.disjoint_left]
  intro x hx hx'
  simp only [block, Finset.mem_image, Finset.mem_univ, true_and] at hx hx'
  obtain ⟨j, rfl⟩ := hx
  obtain ⟨j', h⟩ := hx'
  simp only [Fin.mk.injEq] at h
  have hsize : 0 < size := j.pos
  -- Both numbers are the quotient of the slot by the size.
  have hdiv : ∀ (k : Nat) (j : Fin size), (k * size + j) / size = k := by
    intro k j
    rw [Nat.mul_comm, Nat.mul_add_div hsize, Nat.div_eq_of_lt j.isLt, Nat.add_zero]
  exact hne ((hdiv k j).symm.trans ((congrArg (· / size) h.symm).trans (hdiv k' j')))

theorem room_pos (h : groups ≤ nodes * (slots / size)) (i : Fin groups) :
    0 < slots / size := by
  refine Nat.pos_of_ne_zero fun hzero => ?_
  rw [hzero, Nat.mul_zero] at h
  exact absurd i.isLt (by omega)

/-- As many groups as there is room for can be placed. -/
def place (h : groups ≤ nodes * (slots / size)) :
    Placement size groups nodes slots where
  node i := ⟨i / (slots / size), Nat.div_lt_of_lt_mul
    (Nat.mul_comm nodes _ ▸ i.isLt.trans_le h)⟩
  held i := block size slots (i % (slots / size)) (Nat.mod_lt _ (room_pos h i))
  full i := card_block _
  apart i j hne hnode := by
    refine disjoint_block _ _ fun hmod => hne (Fin.ext ?_)
    rw [← Nat.div_add_mod i.val (slots / size),
      ← Nat.div_add_mod j.val (slots / size), hmod, Fin.mk.inj hnode]

theorem nonempty_placement_iff (hsize : 0 < size) :
    Nonempty (Placement size groups nodes slots) ↔
      groups ≤ nodes * (slots / size) :=
  ⟨fun ⟨placement⟩ => placement.groups_le hsize, fun h => ⟨place h⟩⟩

theorem nonempty_placement_iff_dvd (hsize : 0 < size) (hnodes : 0 < nodes)
    (hall : size * groups = nodes * slots) :
    Nonempty (Placement size groups nodes slots) ↔ size ∣ slots := by
  rw [nonempty_placement_iff hsize]
  constructor
  · intro h
    have hle : nodes * slots ≤ nodes * (size * (slots / size)) := by
      calc nodes * slots = size * groups := hall.symm
        _ ≤ size * (nodes * (slots / size)) := Nat.mul_le_mul_left size h
        _ = nodes * (size * (slots / size)) := Nat.mul_left_comm ..
    have heq := le_antisymm (Nat.le_of_mul_le_mul_left hle hnodes)
      (Nat.mul_div_le slots size)
    exact ⟨_, heq⟩
  · rintro ⟨k, rfl⟩
    rw [Nat.mul_div_cancel_left k hsize]
    refine Nat.le_of_mul_le_mul_left ?_ hsize
    rw [hall, Nat.mul_left_comm]

end Packing
