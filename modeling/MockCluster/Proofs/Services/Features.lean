import MockCluster.Proofs.Services.Conversation
import MockCluster.Proofs.Services.Sessions
import Mathlib.Data.List.Basic
import Mathlib.Data.List.Induction

/-!
# Agreeing on features

The value of HELLO names features by numbers of two bytes each, its words. Some words name a feature that is supported,
some a feature that is not, some nothing at all, and a feature may be named more than once. The supported ones are
agreed on, each at the place where it is named first (`NamesFirst`).

The answer and the features of the connection are made from one list (`agreedFeatures`). Which list that is can be said
by the bytes of the request alone (`exists_places`), and to ask for what was agreed on changes nothing
(`agreedFeatures_featureValue`). `hello_agrees` puts this together, and says what the exchange holds when the handler is
done (`Exchange.Replied`).
-/

namespace MockCluster.Kv

namespace Builtin

section Words

variable {value : Bytes} {place : Nat} {f : Feature}

/-- The two bytes at a place of a value. -/
def word (value : Bytes) (place : Nat) : Bytes := (value.drop (2 * place)).take 2

/-- A supported feature is named at a place of a value, and at no place before. -/
def NamesFirst (value : Bytes) (place : Nat) (f : Feature) : Prop :=
  f ∈ supportedFeatures ∧ word value place = Bytes.bigEndian 2 f.code.toNat ∧
    ∀ earlier < place, word value earlier ≠ word value place

/-- A word holds the number that is read from it. -/
theorem getElem?_codes_eq_some_iff (value : Bytes) (place : Nat) (n : UInt16) :
    (codes value)[place]? = some n ↔ word value place = Bytes.bigEndian 2 n.toNat := by
  fun_induction codes value generalizing place with
  | case1 a b rest ih =>
    cases place with
    | succ place => exact ih place
    | zero =>
      have small : Bytes.ofBigEndian [a, b] < UInt16.size :=
        Nat.lt_of_lt_of_eq (Bytes.ofBigEndian_lt [a, b]) (show 256 ^ 2 = UInt16.size by decide)
      rw [List.getElem?_cons_zero, Option.some.injEq]
      constructor
      · rintro rfl
        rw [UInt16.toNat_ofNat_of_lt' small]
        exact (Bytes.bigEndian_ofBigEndian [a, b]).symm
      · intro named
        have same : [a, b] = Bytes.bigEndian 2 n.toNat := named
        rw [same, Bytes.ofBigEndian_bigEndian, Nat.mod_eq_of_lt (show n.toNat < 256 ^ 2 from n.toNat_lt),
          UInt16.ofNat_toNat]
  | case2 value short =>
    rw [List.getElem?_nil]
    refine ⟨nofun, fun named => ?_⟩
    have length := congrArg List.length named
    rw [Bytes.length_bigEndian, word, List.length_take, List.length_drop] at length
    rcases value with _ | ⟨a, _ | ⟨b, rest⟩⟩
    · simp at length
    · simp only [List.length_singleton] at length
      omega
    · exact (short a b rest rfl).elim

theorem namesFirst_iff :
    NamesFirst value place f ↔
      f ∈ supportedFeatures ∧ f.code ∈ codes value ∧ (codes value).idxOf f.code = place := by
  refine and_congr_right fun _ => ?_
  rw [← getElem?_codes_eq_some_iff]
  constructor
  · rintro ⟨here, nowhere⟩
    obtain ⟨inside, at_place⟩ := List.getElem?_eq_some_iff.1 here
    refine ⟨at_place ▸ List.getElem_mem inside, (List.findIdx_eq inside).2 ⟨by simp [at_place], fun j hj => ?_⟩⟩
    have other := nowhere j hj
    rw [(getElem?_codes_eq_some_iff ..).1 here, Ne, ← getElem?_codes_eq_some_iff,
      List.getElem?_eq_getElem (Nat.lt_trans hj inside), Option.some.injEq] at other
    simpa using other
  · rintro ⟨listed, rfl⟩
    have here := List.getElem?_idxOf listed
    refine ⟨here, fun j hj same => ?_⟩
    rw [(getElem?_codes_eq_some_iff ..).1 here, ← getElem?_codes_eq_some_iff] at same
    obtain ⟨inside, named⟩ := List.getElem?_eq_some_iff.1 same
    have other := List.not_of_lt_findIdx hj
    simp [named] at other

end Words

section Agreed

/-- The supported features among some numbers, each once. -/
def agreedAmong (numbers : List UInt16) : List Feature :=
  ((numbers.filterMap Feature.ofCode?).filter (· ∈ supportedFeatures)).eraseDups

/-- A number adds its feature, if it is supported and was not named before. -/
theorem agreedAmong_concat (numbers : List UInt16) (n : UInt16) :
    agreedAmong (numbers ++ [n]) =
      agreedAmong numbers ++ (Feature.ofCode? n).toList.filter fun f => f ∈ supportedFeatures ∧ n ∉ numbers := by
  rw [agreedAmong, List.filterMap_append, List.filter_append, List.eraseDups_append]
  congr 1
  cases named : Feature.ofCode? n with
  | none => simp [named, List.removeAll]
  | some f =>
    obtain rfl := Feature.code_of_ofCode? named
    have known := @mem_filter_ofCode? numbers f
    by_cases supported : f ∈ supportedFeatures
    · by_cases before : f.code ∈ numbers
      · have listed := known.2 ⟨supported, before⟩
        simp [named, List.removeAll, supported, before, listed, -List.mem_filter]
      · have fresh := mt (fun h => (known.1 h).2) before
        simp [named, List.removeAll, List.eraseDups_cons, supported, before, fresh, -List.mem_filter]
    · simp [named, List.removeAll, supported]

/-- Features are agreed on in the order in which they are named first. -/
theorem pairwise_agreedAmong (numbers : List UInt16) :
    (agreedAmong numbers).Pairwise fun f g => numbers.idxOf f.code < numbers.idxOf g.code := by
  induction numbers using List.reverseRecOn with
  | nil => simp [agreedAmong]
  | append_singleton numbers n ih =>
    rw [agreedAmong_concat, List.pairwise_append]
    have before {f : Feature} (hf : f ∈ agreedAmong numbers) : f.code ∈ numbers :=
      (mem_filter_ofCode?.1 (List.mem_eraseDups.1 hf)).2
    refine ⟨?_, ?_, fun f hf g hg => ?_⟩
    · refine ih.imp_of_mem fun hf hg less => ?_
      rwa [List.idxOf_append_of_mem (before hf), List.idxOf_append_of_mem (before hg)]
    · refine List.Pairwise.filter _ ?_
      cases Feature.ofCode? n <;> simp
    · obtain ⟨named, new⟩ := List.mem_filter.1 hg
      obtain rfl := Feature.code_of_ofCode? (Option.mem_toList.1 named)
      rw [List.idxOf_append_of_mem (before hf), List.idxOf_append_of_notMem (of_decide_eq_true new).2]
      exact Nat.lt_add_right _ (List.idxOf_lt_length_of_mem (before hf))

/-- Whoever asks for what was agreed on gets it. -/
theorem agreedFeatures_featureValue (value : Bytes) :
    agreedFeatures (featureValue (agreedFeatures value)) = agreedFeatures value := by
  have nodup : (agreedFeatures value).Nodup := nodup_eraseDups _
  have read (features : List Feature) : (features.map (·.code)).filterMap Feature.ofCode? = features := by
    have back : Feature.ofCode? ∘ Feature.code = some := funext Feature.ofCode?_code
    rw [List.filterMap_map, back, List.filterMap_some]
  change agreedAmong (codes _) = _
  rw [codes_featureValue, agreedAmong, read, List.filter_eq_self.2 fun f hf => ?_, eraseDups_eq_self nodup]
  exact decide_eq_true (mem_agreedFeatures.1 hf).1

/-- The agreed features are put together from the words that name them first. -/
theorem exists_places (value : Bytes) :
    ∃ places : List Nat, places.Pairwise (· < ·) ∧ (∀ place, place ∈ places ↔ ∃ f, NamesFirst value place f) ∧
      featureValue (agreedFeatures value) = places.flatMap (word value) := by
  refine ⟨(agreedFeatures value).map fun f => (codes value).idxOf f.code, ?_, fun place => ?_, ?_⟩
  · exact List.pairwise_map.2 (pairwise_agreedAmong (codes value))
  · simp only [List.mem_map, namesFirst_iff, mem_agreedFeatures, and_assoc]
  · rw [List.flatMap_map]
    refine (List.flatMap_congr fun f hf => ?_).symm
    exact (namesFirst_iff.2 ⟨(mem_agreedFeatures.1 hf).1, (mem_agreedFeatures.1 hf).2, rfl⟩).2.1

end Agreed

end Builtin

open Builtin

variable {H M : Type}

/-- A handler ends with a reply, and with a connection that may have changed. The reply is the response then. If there is
a response already, this one stays, and the handler fails. -/
structure Exchange.Replied (ex : Exchange H M) (client : Client H) (reply : Packet)
    (outcome : Outcome (Exchange H M) (Except Fault Unit)) : Prop where
  written : ex.response = none → outcome = .returned { ex with client, response := some reply } (.ok ())
  kept : ∀ held, ex.response = some held →
    outcome = .returned { ex with client } (.error (.responseAlreadyWritten held.opaqueId))

theorem Exchange.replied_answer (ex : Exchange H M) (client : Client H) (reply : Packet) :
    ex.Replied client reply (Exchange.answer { ex with client } reply) where
  written none := by simp only [answer, write, none]
  kept held holds := by simp only [answer, write, holds]

/-- **What HELLO agrees on.** A value of odd length is refused, and the features stay what they were. Else the answer is
put together from the words of the request at certain places, in ascending order: exactly those at which a supported
feature is named for the first time. The features of the connection are then these and no others, whatever they were
before, and HELLO with the value of the answer is answered with this value and leads to these features, on any
connection. In any case the answer is the response, if there was none before. -/
theorem hello_agrees (ex : Exchange H M) (p : Packet) :
    ∃ client reply, ex.Replied client reply (Builtin.hello.run ex p) ∧
      (reply.status = .invalidArguments ↔ p.value.length % 2 = 1) ∧
      (p.value.length % 2 = 1 → reply = { p.responseTo with status := .invalidArguments } ∧ client = ex.client) ∧
      (p.value.length % 2 = 0 → ∃ places : List Nat,
        places.Pairwise (· < ·) ∧ (∀ place, place ∈ places ↔ ∃ f, NamesFirst p.value place f) ∧
        reply = { p.responseTo with value := places.flatMap (word p.value) } ∧ reply.status = .success ∧
        client = { ex.client with features := client.features } ∧
        (∀ f, f ∈ client.features ↔ ∃ place, NamesFirst p.value place f) ∧
        ∀ (again : Exchange H M) (q : Packet), q.value = reply.value →
          again.Replied { again.client with features := client.features } { q.responseTo with value := reply.value }
            (Builtin.hello.run again q)) := by
  refine ⟨_, _, Builtin.hello.run_eq ex p ▸ ex.replied_answer _ _, ?_⟩
  simp only [Builtin.after, Builtin.reply]
  rcases Nat.mod_two_eq_zero_or_one p.value.length with even | odd
  · have plain : ¬p.value.length % 2 ≠ 0 := not_not_intro even
    obtain ⟨places, ascending, listed, value⟩ := exists_places p.value
    rw [if_neg plain, if_neg plain]
    refine ⟨by simp [Packet.responseTo, Packet.request, even], fun odd => by omega, fun _ => ?_⟩
    refine ⟨places, ascending, listed, by rw [value], rfl, rfl, fun f => ?_, fun again q same => ?_⟩
    · simp only [Feature.mem_normalize, mem_agreedFeatures, namesFirst_iff]
      simp
    · have short : ¬q.value.length % 2 ≠ 0 := by rw [same]; simp [length_featureValue]
      rw [Builtin.run_eq]
      simp only [Builtin.after, Builtin.reply]
      rw [if_neg short, if_neg short, same]
      dsimp only
      rw [agreedFeatures_featureValue]
      exact again.replied_answer _ _
  · have uneven : p.value.length % 2 ≠ 0 := by omega
    rw [if_pos uneven, if_pos uneven]
    exact ⟨by simp [odd], fun _ => ⟨rfl, rfl⟩, fun even => by omega⟩

/-- Collections are not supported, 0x99 names nothing, and JSON is named twice. The connection had another feature
before. -/
theorem hello_agrees_repeated :
    let ex : Exchange Unit Unit := .start { Client.create 1 0 with features := [.xerror] } ⟨.empty, .empty, .initial, ()⟩
    let p : Packet := { Packet.request .hello with value := [0, 0x12, 0, 0x0b, 0, 0x08, 0, 0x0b, 0, 0x99] }
    let q : Packet := { Packet.request .hello with value := [0, 0x0b, 0, 0x08], opaqueId := 7 }
    ∃ features : List Feature, (∀ f, f ∈ features ↔ f ∈ [.json, .selectBucket]) ∧
      Builtin.hello.run ex p = .returned
        { ex with client.features := features, response := some { p.responseTo with value := q.value } } (.ok ()) ∧
      Builtin.hello.run ex q = .returned
        { ex with client.features := features, response := some { q.responseTo with value := q.value } } (.ok ()) := by
  intro ex p q
  obtain ⟨client, reply, replied, -, -, even⟩ := hello_agrees ex p
  obtain ⟨places, ascending, listed, rfl, -, rest, features, again⟩ := even (by decide)
  have named : ∀ f ∈ supportedFeatures, f.code ∈ codes p.value →
      (f = .json ∧ (codes p.value).idxOf f.code = 1) ∨ f = .selectBucket ∧ (codes p.value).idxOf f.code = 2 := by
    decide
  have firsts (place : Nat) (f : Feature) :
      NamesFirst p.value place f ↔ (f = .json ∧ place = 1) ∨ f = .selectBucket ∧ place = 2 := by
    rw [namesFirst_iff]
    constructor
    · rintro ⟨supported, code, rfl⟩
      exact named f supported code
    · rintro (⟨rfl, rfl⟩ | ⟨rfl, rfl⟩) <;> decide
  have members (place : Nat) : place ∈ places ↔ place ∈ [1, 2] := by simp [listed, firsts, exists_or]
  -- the places ascend, so they are known from their members
  have nodup : places.Nodup := ascending.imp Nat.ne_of_lt
  obtain rfl : places = [1, 2] := List.Perm.eq_of_pairwise (fun a b _ _ less more => absurd less (Nat.lt_asymm more))
    ascending (by decide) ((List.perm_ext_iff_of_nodup nodup (by decide)).2 members)
  have value : [1, 2].flatMap (word p.value) = q.value := by decide
  refine ⟨client.features, fun f => ?_, ?_, ?_⟩
  · simp [features, firsts, exists_or]
  · rw [replied.written rfl, value, rest]
  · rw [(again ex q value.symm).written rfl, value]

end MockCluster.Kv
