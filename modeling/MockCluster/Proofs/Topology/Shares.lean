import Mathlib.Algebra.Order.Floor.Div
import Mathlib.Data.Int.CardIntervalMod
import Mathlib.Data.List.Rotate
import MockCluster.Cluster.Bucket

/-!
# Fair shares

Spreading a bucket over nodes goes round and round them: row `v` begins at node `v` modulo their number and takes as
many as it has slots, each once.

| slot | 0 | 1 | 2 | 3 |
| --- | --- | --- | --- | --- |
| row 0 over nodes 0, 1, 2 | 0 | 1 | 2 | |
| row 1 | 1 | 2 | 0 | |
| row 2 | 2 | 0 | 1 | |
| row 3 | 0 | 1 | 2 | |

So no row has a node twice (`VbucketRow.over_eq`: a row is the beginning of a rotation of the nodes), and in every
column the nodes have the same share, up to one row (`Bucket.share_rebalance`). Nothing of this depends on where the rows
were before.
-/

namespace MockCluster

/-- **A row is the beginning of a rotation.** Behind the last node its slots are empty. -/
theorem VbucketRow.over_eq (nodes : List NodeId) (replicas vbucket : Nat) :
    VbucketRow.over nodes replicas vbucket =
      ((nodes.rotate vbucket).take (1 + replicas)).map some ++ List.replicate (1 + replicas - nodes.length) none := by
  refine List.ext_getElem? fun slot => ?_
  by_cases inRow : slot < 1 + replicas
  · rw [VbucketRow.over, List.getElem?_map, List.getElem?_range inRow, Option.map_some]
    by_cases taken : slot < nodes.length
    · rw [if_pos taken, List.getElem?_append_left (by simp; omega), List.getElem?_map, List.getElem?_take_of_lt inRow,
        List.getElem?_rotate taken, Nat.add_comm,
        List.getElem?_eq_getElem (Nat.mod_lt _ (Nat.zero_lt_of_lt taken)), Option.map_some]
    · rw [if_neg taken, List.getElem?_append_right (by simp; omega), List.getElem?_replicate, if_pos (by simp; omega)]
  · rw [List.getElem?_eq_none (by simp [VbucketRow.over]; omega), List.getElem?_eq_none (by simp; omega)]

/-- The node in a slot is found by counting on from the node that the row begins with. -/
theorem VbucketRow.getElem?_over {nodes : List NodeId} {replicas slot : Nat}
    (hs : slot < min nodes.length (1 + replicas)) (vbucket : Nat) :
    (VbucketRow.over nodes replicas vbucket)[slot]? = some nodes[(vbucket + slot) % nodes.length]? := by
  rw [VbucketRow.over, List.getElem?_map, List.getElem?_range (by omega), Option.map_some, if_pos (by omega)]

theorem div_add_one_eq_ceilDiv {rows nodes : Nat} (positive : 0 < nodes) (rest : 0 < rows % nodes) :
    rows / nodes + 1 = rows ⌈/⌉ nodes := by
  have parts := Nat.div_add_mod rows nodes
  have less := Nat.mod_lt rows positive
  have up : rows + nodes - 1 = rows % nodes - 1 + nodes * (rows / nodes + 1) := by
    rw [Nat.mul_succ]
    omega
  have below : (rows % nodes - 1) / nodes = 0 := Nat.div_eq_of_lt (by omega)
  rw [Nat.ceilDiv_eq_add_pred_div, up, Nat.add_mul_div_left _ _ positive, below, Nat.zero_add]

namespace Bucket

/-- In how many rows a node has a slot. -/
def share (b : Bucket) (slot : Nat) (id : NodeId) : Nat := b.map.countP fun row => row[slot]? = some (some id)

variable {nodes : List NodeId} {b : Bucket} {slot index : Nat}

/-- **A node has every `n`th row in a slot.** What is left over goes to the first nodes, counted from the one that has
the slot in row 0. -/
theorem share_rebalance (distinct : nodes.Nodup) (hs : slot < min nodes.length (1 + b.replicas))
    (hi : index < nodes.length) :
    (b.rebalance nodes).share slot nodes[index] =
      b.vbuckets / nodes.length +
        if (index + (nodes.length - slot)) % nodes.length < b.vbuckets % nodes.length then 1 else 0 := by
  have positive : 0 < nodes.length := Nat.zero_lt_of_lt hi
  have hit (vbucket : Nat) : (VbucketRow.over nodes b.replicas vbucket)[slot]? = some (some nodes[index]) ↔
      vbucket ≡ index + (nodes.length - slot) [MOD nodes.length] := by
    have there := Nat.mod_lt (vbucket + slot) positive
    have shift : vbucket + slot ≡ index + (nodes.length - slot) + slot [MOD nodes.length] ↔
        vbucket ≡ index + (nodes.length - slot) [MOD nodes.length] :=
      ⟨Nat.ModEq.add_right_cancel' slot, Nat.ModEq.add_right slot⟩
    have home : (index + (nodes.length - slot) + slot) % nodes.length = index := by
      rw [show index + (nodes.length - slot) + slot = index + nodes.length by omega, Nat.add_mod_right,
        Nat.mod_eq_of_lt hi]
    rw [VbucketRow.getElem?_over hs, Option.some_inj, List.getElem?_eq_getElem there, Option.some_inj,
      distinct.getElem_inj_iff, ← shift, Nat.ModEq, home]
  rw [share, map_rebalance, layout, List.countP_map, ← Nat.count_modEq_card _ positive, Nat.count]
  exact List.countP_congr fun vbucket _ => by simp [hit]

/-- Spreading lays out a new map and leaves the rest. -/
theorem rebalance_eq (nodes : List NodeId) (b : Bucket) :
    b.rebalance nodes = { b with map := layout nodes b.replicas b.vbuckets } :=
  congrArg (fun map => { b with map := map }) (map_rebalance nodes b)

theorem rebalance_create (name : String) (replicas vbuckets : Nat) (first nodes : List NodeId) :
    (create name replicas vbuckets first).rebalance nodes = create name replicas vbuckets nodes := by
  have rows : (create name replicas vbuckets first).vbuckets = vbuckets := by simp [create, Bucket.vbuckets, layout]
  rw [rebalance_eq, rows]
  rfl

theorem foldl_rebalance_create (name : String) (replicas vbuckets : Nat) (first : List NodeId)
    (turns : List (List NodeId)) :
    turns.foldl (fun b nodes => b.rebalance nodes) (create name replicas vbuckets first) =
      create name replicas vbuckets (turns.getLastD first) := by
  induction turns generalizing first with
  | nil => rfl
  | cons nodes turns ih => rw [List.foldl_cons, rebalance_create, ih, List.getLastD_cons]

/-- **Every node gets its share.** Spread over distinct nodes, a bucket keeps its number of rows, and each row has as
many distinct nodes as there are nodes or slots, whichever is less, and is empty behind them. In each slot that has a
node at all, all nodes have the same number of rows, rounded down or up. The rows that were there before do not matter,
so a bucket that was spread over one list of nodes after the other is as if created on the last. -/
theorem rebalance_spreads (b : Bucket) (distinct : nodes.Nodup) :
    (b.rebalance nodes).map.length = b.vbuckets ∧
    (∀ row ∈ (b.rebalance nodes).map, ∃ chosen : List NodeId,
      chosen.length = min nodes.length (1 + b.replicas) ∧ chosen.Nodup ∧ (∀ id ∈ chosen, id ∈ nodes) ∧
      row.length = 1 + b.replicas ∧ row = chosen.map some ++ List.replicate (1 + b.replicas - chosen.length) none) ∧
    (∀ slot < min nodes.length (1 + b.replicas), ∀ id ∈ nodes,
      (b.rebalance nodes).share slot id = b.vbuckets / nodes.length ∨
        (b.rebalance nodes).share slot id = b.vbuckets ⌈/⌉ nodes.length) ∧
    (∀ rows : List VbucketRow, rows.length = b.vbuckets →
      ({ b with map := rows } : Bucket).rebalance nodes = b.rebalance nodes) ∧
    ∀ name replicas vbuckets first turns,
      (turns ++ [nodes]).foldl (fun b nodes => b.rebalance nodes) (create name replicas vbuckets first) =
        create name replicas vbuckets nodes := by
  refine ⟨by simp [rebalance, vbuckets], fun row hr => ?_, fun slot hs id hid => ?_, fun rows hrows => ?_,
    fun name replicas vbuckets first turns => ?_⟩
  · rw [map_rebalance, layout] at hr
    obtain ⟨vbucket, -, rfl⟩ := List.mem_map.1 hr
    refine ⟨(nodes.rotate vbucket).take (1 + b.replicas), ?_, ?_, fun id hid => ?_, ?_, ?_⟩
    · rw [List.length_take, List.length_rotate, Nat.min_comm]
    · exact (List.nodup_rotate.2 distinct).sublist (List.take_sublist _ _)
    · exact List.mem_rotate.1 (List.mem_of_mem_take hid)
    · simp [VbucketRow.over]
    · rw [VbucketRow.over_eq, List.length_take, List.length_rotate]
      congr 2
      omega
  · obtain ⟨index, hi, rfl⟩ := List.getElem_of_mem hid
    rw [share_rebalance distinct hs hi]
    split
    · rename_i extra
      exact .inr (div_add_one_eq_ceilDiv (Nat.zero_lt_of_lt hi) (Nat.zero_lt_of_lt extra))
    · exact .inl rfl
  · rw [rebalance_eq, rebalance_eq, show ({ b with map := rows } : Bucket).vbuckets = b.vbuckets from hrows]
  · rw [foldl_rebalance_create, List.getLastD_concat]

/-- Five rows over three nodes, with more slots than nodes and rows from other nodes. -/
theorem rebalance_spreads_uneven :
    let b : Bucket := { create "x" 3 5 [7] with map := [[some 7], [], [none, some 3], [some 7, none, none], []] }
    (b.rebalance [3, 5, 9]).map =
      [[some 3, some 5, some 9, none], [some 5, some 9, some 3, none], [some 9, some 3, some 5, none],
        [some 3, some 5, some 9, none], [some 5, some 9, some 3, none]] ∧
      [3, 5, 9].map ((b.rebalance [3, 5, 9]).share 1) = [1, 2, 2] ∧
      (∀ slot < 3, ∀ id ∈ [3, 5, 9],
        (b.rebalance [3, 5, 9]).share slot id = b.vbuckets / [3, 5, 9].length ∨
          (b.rebalance [3, 5, 9]).share slot id = b.vbuckets ⌈/⌉ [3, 5, 9].length) ∧
      ∀ turns, (turns ++ [[3, 5, 9]]).foldl (fun b nodes => b.rebalance nodes) (create "x" 3 5 []) =
        create "x" 3 5 [3, 5, 9] := by
  intro b
  have distinct : [3, 5, 9].Nodup := by decide
  obtain ⟨-, -, shares, -, anew⟩ := rebalance_spreads b distinct
  exact ⟨by decide, by decide, shares, anew "x" 3 5 []⟩

end Bucket

end MockCluster
