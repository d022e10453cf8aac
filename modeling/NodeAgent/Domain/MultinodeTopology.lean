import NodeAgent.Domain.MultinodeLaunch
import NodeAgent.Foundation.Packing
import Mathlib.Algebra.Order.Ring.Int

/-!
# Topologies that can be placed

What `validate_params` guarantees of a rank's topology, and what it takes for
its tensor-parallel groups to fit on the nodes.
-/

namespace NodeAgent

structure Coherent (p : MultiNodeParams) : Prop where
  nodes : 2 ≤ p.nodeCount
  gpus : 1 ≤ p.gpusPerNode
  world : p.worldSize = p.totalGpus
  within : p.tensorParallelSize ≤ p.gpusPerNode
  host : p.isHead = false → p.hasHeadHost = true
  headRank : p.isHead = true → p.rank = 0
  workerRank : p.isHead = false → p.rank ≠ 0

theorem validateParams_eq_nil_iff {p : MultiNodeParams} :
    validateParams p = [] ↔ Coherent p := by
  simp only [validateParams, List.append_eq_nil_iff, ite_eq_right_iff,
    List.cons_ne_nil, imp_false, not_lt, not_not, not_and,
    Bool.not_eq_eq_eq_not, Bool.not_true]
  constructor
  · rintro ⟨⟨⟨⟨⟨⟨hnodes, hgpus⟩, hworld⟩, hwithin⟩, hhost⟩, hhead⟩, hworker⟩
    exact ⟨hnodes, hgpus, hworld, hwithin, fun h => by simpa using hhost h,
      hhead, hworker⟩
  · rintro ⟨hnodes, hgpus, hworld, hwithin, hhost, hhead, hworker⟩
    exact ⟨⟨⟨⟨⟨⟨hnodes, hgpus⟩, hworld⟩, hwithin⟩,
      fun h => by simpa using hhost h⟩, hhead⟩, hworker⟩

abbrev GroupPlacement (p : MultiNodeParams) :=
  Packing.Placement p.tensorParallelSize.toNat p.pipelineParallelSize.toNat
    p.nodeCount.toNat p.gpusPerNode.toNat

/-- The degrees and the rank make sense, and the groups fit on the nodes. -/
structure Realizable (p : MultiNodeParams) : Prop where
  tensorParallel : 0 < p.tensorParallelSize
  pipelineParallel : 0 < p.pipelineParallelSize
  rank : 0 ≤ p.rank ∧ p.rank < p.nodeCount
  placed : Nonempty (GroupPlacement p)

variable {p : MultiNodeParams}

theorem Coherent.pipelineParallel_pos (h : Coherent p)
    (htensor : 0 < p.tensorParallelSize) : 0 < p.pipelineParallelSize := by
  have hgpus : 0 < p.nodeCount * p.gpusPerNode :=
    Int.mul_pos (by have := h.nodes; omega) (by have := h.gpus; omega)
  have hworld : 0 < p.tensorParallelSize * p.pipelineParallelSize :=
    hgpus.trans_eq h.world.symm
  exact Int.pos_of_mul_pos_right hworld htensor

theorem Coherent.all_used (h : Coherent p) (htensor : 0 < p.tensorParallelSize) :
    p.tensorParallelSize.toNat * p.pipelineParallelSize.toNat =
      p.nodeCount.toNat * p.gpusPerNode.toNat := by
  have hpipeline := h.pipelineParallel_pos htensor
  have hnodes := h.nodes
  have hgpus := h.gpus
  have hworld : p.tensorParallelSize * p.pipelineParallelSize =
    p.nodeCount * p.gpusPerNode := h.world
  have hcast : ((p.tensorParallelSize.toNat * p.pipelineParallelSize.toNat : Nat)
      : Int) = (p.nodeCount.toNat * p.gpusPerNode.toNat : Nat) := by
    rw [Nat.cast_mul, Nat.cast_mul, Int.toNat_of_nonneg htensor.le,
      Int.toNat_of_nonneg hpipeline.le, Int.toNat_of_nonneg (by omega),
      Int.toNat_of_nonneg (by omega), hworld]
  exact Int.ofNat.inj hcast

theorem Coherent.placed_iff (h : Coherent p)
    (htensor : 0 < p.tensorParallelSize) :
    Nonempty (GroupPlacement p) ↔ p.tensorParallelSize ∣ p.gpusPerNode := by
  have hnodes := h.nodes
  have hgpus := h.gpus
  rw [Packing.nonempty_placement_iff_dvd (by omega) (by omega)
    (h.all_used htensor), ← Int.natCast_dvd_natCast,
    Int.toNat_of_nonneg htensor.le, Int.toNat_of_nonneg (by omega)]

/--
An accepted topology can be realized exactly if its tensor-parallel degree is
positive and divides the GPUs of a node, and its rank is one of the nodes.
-/
theorem realizable_iff (haccepted : validateParams p = []) :
    Realizable p ↔ 0 < p.tensorParallelSize ∧
      p.tensorParallelSize ∣ p.gpusPerNode ∧ 0 ≤ p.rank ∧
      p.rank < p.nodeCount := by
  have hcoherent := validateParams_eq_nil_iff.mp haccepted
  constructor
  · rintro ⟨htensor, -, hrank, hplaced⟩
    exact ⟨htensor, (hcoherent.placed_iff htensor).mp hplaced, hrank⟩
  · rintro ⟨htensor, hdvd, hrank⟩
    exact ⟨htensor, hcoherent.pipelineParallel_pos htensor, hrank,
      (hcoherent.placed_iff htensor).mpr hdvd⟩

/-- Four groups of three GPUs for three nodes of four. -/
def straddling : MultiNodeParams where
  role := .head
  rank := 0
  hasHeadHost := true
  tensorParallelSize := 3
  pipelineParallelSize := 4
  gpusPerNode := 4
  nodeCount := 3
  headPort := 6379
  clusterWaitSeconds := 1800

theorem straddling_not_realizable :
    validateParams straddling = [] ∧ ¬Realizable straddling := by
  refine ⟨by decide, fun h => ?_⟩
  obtain ⟨placement⟩ := h.placed
  exact absurd (placement.groups_le (by decide)) (by decide)

theorem realizable_iff_powers :
    Realizable { straddling with
      tensorParallelSize := 4, pipelineParallelSize := 3 } :=
  (realizable_iff (by decide)).mpr (by decide)

end NodeAgent
