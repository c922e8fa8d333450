import MockCluster.Proofs.Topology.BucketView

/-!
# Revisions

Clients tell from the revision of a document which of two documents is newer, so every topology should be published
under a revision that is higher than all before it. A mutation goes on from the revision that it finds, except one: what
is put back brings its own revision along, and goes on from there.

| mutation | revision it is published under |
| --- | --- |
| an earlier topology is put back | the next one after that of the earlier topology |
| any other | the next one after the current one |
| one that fails | nothing is published |

So revisions ascend as long as nothing is put back that is older than what it replaces (`published_ascending_iff`).
Otherwise a revision is given a second time, and two nodes of a cluster may answer with different documents of one
revision (`published_restored`).
-/

namespace MockCluster.Topology

/-- The topologies that are published when mutations are done one after another: the one to begin with, and what each
mutation leaves that succeeds. -/
def published (t : Topology) : List Mutation → List Topology
  | [] => [t]
  | m :: ms =>
    match t.mutate m with
    | (.ok _, next) => t :: next.published ms
    | (.error _, next) => next.published ms

/-- Every revision is higher than all before it. -/
def Ascending (topologies : List Topology) : Prop :=
  topologies.Pairwise fun earlier later => earlier.revision < later.revision

/-- What a node may answer with, about the cluster or about a bucket. -/
inductive Shows (t : Topology) : Json → Prop
  | cluster {requester : NodeId} {d : ClusterDocument} (found : t.clusterDocument requester = .ok d) : Shows t d.toJson
  | bucket {name : String} {requester : NodeId} {d : BucketDocument} (found : t.bucketDocument name requester = .ok d) :
      Shows t d.toJson

theorem Shows.rev {t : Topology} {doc : Json} (h : t.Shows doc) : doc.field? "rev" = some (.nat t.revision) := by
  cases h with
  | @cluster requester d found =>
    unfold clusterDocument at found
    cases hn : t.networkOf requester with
    | error fault => simp [hn, bind, Except.bind] at found
    | ok network =>
      simp only [hn, bind, Except.bind, pure, Except.pure, Except.ok.injEq] at found
      subst found
      rfl
  | @bucket name requester d found =>
    obtain ⟨fault, -, h⟩ | h | ⟨b, network, fault, -, h⟩ | ⟨d', h, rev⟩ := t.bucketDocument_cases name requester <;>
      rw [found] at h <;> cases h
    rw [← rev]
    rfl

section Step

variable {t next : Topology} {m : Mutation} {result : Option NodeId} {fault : Fault}

/-- A mutation that fails publishes nothing. -/
theorem eq_of_mutate_error (h : t.mutate m = (.error fault, next)) : next = t := by
  unfold mutate at h
  cases he : m.edit t with
  | error => exact (congrArg Prod.snd ((update_error he).symm.trans h)).symm
  | ok yielded => cases congrArg Prod.fst ((update_ok he).symm.trans h)

theorem yields_of_mutate (h : t.mutate m = (.ok result, next)) :
    ∃ yielded, m.Yields t yielded ∧ next = { yielded with revision := yielded.revision + 1 } := by
  unfold mutate at h
  cases he : m.edit t with
  | error => cases congrArg Prod.fst ((update_error he).symm.trans h)
  | ok yielded =>
    exact ⟨yielded.2, Mutation.yields_of_edit he, (congrArg Prod.snd ((update_ok he).symm.trans h)).symm⟩

/-- A mutation that succeeds goes on from the current revision, unless it puts something older back. -/
theorem revision_lt_iff (h : t.mutate m = (.ok result, next)) :
    t.revision < next.revision ↔ ∀ earlier, m = .restore earlier none → t.revision ≤ earlier.revision := by
  obtain ⟨yielded, yields, rfl⟩ := yields_of_mutate h
  cases yields with
  | restore =>
    constructor
    · rintro h _ ⟨⟩
      exact Nat.le_of_lt_succ h
    · exact fun h => Nat.lt_succ_of_le (h _ rfl)
  | _ => exact ⟨fun _ => nofun, fun _ => Nat.lt_succ_self _⟩

end Step

/-- What is published begins with the current topology. -/
theorem exists_published_eq_cons (t : Topology) (ms : List Mutation) : ∃ rest, t.published ms = t :: rest := by
  induction ms with
  | nil => exact ⟨[], rfl⟩
  | cons m ms ih =>
    unfold published
    split
    · exact ⟨_, rfl⟩
    · rename_i he
      obtain rfl := eq_of_mutate_error he
      exact ih

/-- What is published later stands behind what was published before, and begins with what is current then. -/
theorem exists_published_append (t : Topology) (ms : List Mutation) :
    ∃ past, ∀ more, t.published (ms ++ more) = past ++ (mutateAll ms t).published more := by
  induction ms generalizing t with
  | nil => exact ⟨[], fun _ => rfl⟩
  | cons m ms ih =>
    obtain ⟨past, hp⟩ := ih (t.mutate m).2
    cases hm : t.mutate m with
    | mk result next =>
      rw [hm] at hp
      cases result with
      | ok =>
        refine ⟨t :: past, fun more => ?_⟩
        simp only [List.cons_append, published, hm, hp]
        simp [mutateAll, hm]
      | error =>
        refine ⟨past, fun more => ?_⟩
        simp only [List.cons_append, published, hm, hp]
        simp [mutateAll, hm]

/-- Nothing is put back that is older than what it replaces. -/
def RestoresNothingOlder (t : Topology) (ms : List Mutation) : Prop :=
  ∀ before earlier after, ms = before ++ .restore earlier none :: after →
    (mutateAll before t).revision ≤ earlier.revision

theorem restoresNothingOlder_cons {t : Topology} {m : Mutation} {ms : List Mutation} :
    t.RestoresNothingOlder (m :: ms) ↔
      (∀ earlier, m = .restore earlier none → t.revision ≤ earlier.revision) ∧
        (t.mutate m).2.RestoresNothingOlder ms := by
  constructor
  · intro h
    refine ⟨fun earlier hm => h [] earlier ms (by rw [hm]; rfl), fun before earlier after hms => ?_⟩
    exact h (m :: before) earlier after (by rw [hms]; rfl)
  · rintro ⟨first, rest⟩ before earlier after hms
    cases before with
    | nil => exact first earlier (List.cons.inj hms).1
    | cons m' before =>
      obtain ⟨rfl, later⟩ := List.cons.inj hms
      exact rest before earlier after later

/-- A mutation that fails puts nothing back. -/
theorem ne_restore_of_mutate_error {t next : Topology} {m : Mutation} {fault : Fault}
    (h : t.mutate m = (.error fault, next)) (earlier : Topology) : m ≠ .restore earlier none := by
  rintro rfl
  cases congrArg Prod.fst h

theorem ascending_published_iff (t : Topology) (ms : List Mutation) :
    Ascending (t.published ms) ↔ t.RestoresNothingOlder ms := by
  induction ms generalizing t with
  | nil => exact ⟨fun _ before _ _ h => by simp at h, fun _ => List.pairwise_singleton _ _⟩
  | cons m ms ih =>
    rw [restoresNothingOlder_cons]
    cases hm : t.mutate m with
    | mk result next =>
      simp only [published, hm]
      cases result with
      | error fault =>
        exact (ih next).trans (iff_and_self.2 fun _ earlier he => absurd he (ne_restore_of_mutate_error hm earlier))
      | ok result =>
        obtain ⟨rest, hrest⟩ := exists_published_eq_cons next ms
        have following : Ascending (t :: next.published ms) ↔
            t.revision < next.revision ∧ Ascending (next.published ms) := by
          rw [hrest, Ascending, List.pairwise_cons]
          refine and_congr_left fun later => ⟨fun h => h next List.mem_cons_self, fun h b hb => ?_⟩
          -- What is published after `next` is higher than `next` already.
          obtain rfl | hb := List.mem_cons.1 hb
          · exact h
          · exact Nat.lt_trans h (List.rel_of_pairwise_cons later hb)
        rw [following, revision_lt_iff hm, ih next]

/-- Of the topologies published so far, only the current one can be put back without going back. -/
theorem Ascending.eq_current {t earlier : Topology} {ms : List Mutation} (h : Ascending (t.published ms))
    (known : earlier ∈ t.published ms) (newer : (mutateAll ms t).revision ≤ earlier.revision) :
    earlier = mutateAll ms t := by
  obtain ⟨past, hp⟩ := exists_published_append t ms
  have hp : t.published ms = past ++ [mutateAll ms t] := by simpa [published] using hp []
  rw [hp, Ascending, List.pairwise_append] at h
  rw [hp, List.mem_append, List.mem_singleton] at known
  obtain known | rfl := known
  · exact absurd newer (Nat.not_le_of_lt (h.2.2 earlier known _ (List.mem_singleton_self _)))
  · rfl

theorem Ascending.eq_of_revision {topologies : List Topology} (h : Ascending topologies) {a b : Topology}
    (ha : a ∈ topologies) (hb : b ∈ topologies) (same : a.revision = b.revision) : a = b := by
  induction topologies with
  | nil => cases ha
  | cons first rest ih =>
    obtain ⟨later, h⟩ := List.pairwise_cons.1 h
    obtain rfl | behind := List.mem_cons.1 ha <;> obtain rfl | behind' := List.mem_cons.1 hb
    · rfl
    · exact absurd same (Nat.ne_of_lt (later b behind'))
    · exact absurd same (Nat.ne_of_gt (later a behind))
    · exact ih h behind behind'

/-- **When revisions ascend.** A mutation that fails publishes nothing. Every topology is published under a higher
revision than all before it if and only if nothing is put back that is older than what it replaces; of the topologies
that were published before, only the current one can be put back then. As long as revisions ascend, two documents with
one revision are of one topology. -/
theorem published_ascending_iff (t : Topology) (ms : List Mutation) :
    (∀ before m fault, ((mutateAll before t).mutate m).1 = .error fault →
      ((mutateAll before t).mutate m).2 = mutateAll before t) ∧
    (Ascending (t.published ms) ↔ ∀ before earlier after, ms = before ++ .restore earlier none :: after →
      (mutateAll before t).revision ≤ earlier.revision) ∧
    (Ascending (t.published ms) → ∀ before earlier after, ms = before ++ .restore earlier none :: after →
      earlier ∈ t.published before → earlier = mutateAll before t) ∧
    (Ascending (t.published ms) → ∀ a ∈ t.published ms, ∀ b ∈ t.published ms, ∀ doc doc', a.Shows doc → b.Shows doc' →
      doc.field? "rev" = doc'.field? "rev" → a = b) := by
  refine ⟨fun before m fault he => eq_of_mutate_error (Prod.ext he rfl), ascending_published_iff t ms,
    fun h before earlier after hms known => ?_, fun h a ha b hb doc doc' hd hd' same => ?_⟩
  · have newer := (ascending_published_iff t ms).1 h before earlier after hms
    obtain ⟨past, hp⟩ := exists_published_append t before
    obtain ⟨rest, hrest⟩ := exists_published_eq_cons (mutateAll before t) (.restore earlier none :: after)
    have front : (t.published before).Sublist (t.published ms) := by
      rw [hms, hp, hrest, show t.published before = past ++ [mutateAll before t] by simpa [published] using hp []]
      exact (List.Sublist.refl past).append (List.singleton_sublist.2 List.mem_cons_self)
    exact Ascending.eq_current (List.Pairwise.sublist front h) known newer
  · rw [hd.rev, hd'.rev] at same
    refine h.eq_of_revision ha hb ?_
    exact Int.ofNat_inj.1 (Json.num.inj (Option.some.inj same))

/-- The second node joins under revision 3. Then the state before is put back, again under revision 3: the same node
answers with two different documents of that revision. -/
theorem published_restored :
    let alone := mutateAll [.addNode "a" [.kv]] initial
    let joined := mutateAll [.addNode "b" [.kv]] alone
    let back := mutateAll [.restore alone none] joined
    initial.published [.addNode "a" [.kv], .addNode "b" [.kv], .restore alone none] = [initial, alone, joined, back] ∧
      [initial, alone, joined, back].map (·.revision) = [1, 2, 3, 3] ∧
      ¬Ascending [initial, alone, joined, back] ∧
      ∃ doc doc', joined.Shows doc ∧ back.Shows doc' ∧ doc.field? "rev" = doc'.field? "rev" ∧
        doc.field? "nodesExt" ≠ doc'.field? "nodesExt" := by
  intro alone joined back
  refine ⟨rfl, rfl, fun h => ?_, _, _, @Shows.cluster _ 0 _ rfl, @Shows.cluster _ 0 _ rfl, rfl, ?_⟩
  · have lower : joined.revision < back.revision :=
      List.rel_of_pairwise_cons (List.Pairwise.tail (List.Pairwise.tail h)) List.mem_cons_self
    exact absurd lower (by decide)
  · nofun

end MockCluster.Topology
