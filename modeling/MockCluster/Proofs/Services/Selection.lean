import MockCluster.Proofs.Services.Served
import MockCluster.Proofs.Text.Utf8Text

/-!
# Which bucket is selected

The name of a bucket is text, the key of a request any bytes. A key that is the UTF-8 encoding of a name selects the
bucket of that name, if there is one. A key that encodes no text should select none (`SelectsByName`); but the service
reads it with the replacement character for every fault, and looks for a bucket that is called like that.

| key | bucket | selected |
| --- | --- | --- |
| encodes a text | has this text for its name | yes |
| encodes a text | any other | no |
| malformed | is called as the key is shown | yes, though nobody asked for it |
| malformed | any other | no |

`selected_iff` says that the third row is the only one in which the service does not do what it should. It takes a
bucket with the replacement character in its name (`selectsByName_always_iff`), and `selected_malformed` is one.
-/

namespace MockCluster.Kv

open MockCluster.Script (Memory)

variable {H M : Type}

/-- A request to select a bucket is answered by name: if the key is the encoding of the name of a bucket, this one is
selected; else the answer is that the key is not found, and what was selected stays. -/
def SelectsByName (t : Topology) (p : Packet) (before after : Client H) (reply : Packet) : Prop :=
  (∃ name, p.key = Utf8.encode name ∧ t.bucket? name ≠ none ∧
      reply = p.responseTo ∧ after = { before with bucket := some name }) ∨
    (∀ name, p.key = Utf8.encode name → t.bucket? name = none) ∧
      reply = { p.responseTo with status := .keyNotFound } ∧ after = before

namespace Builtin

variable {t : Topology} {client : Client H} {p : Packet}

theorem selectBucket_of_found (h : t.bucket? (Utf8.decodeLossy p.key) ≠ none) :
    selectBucket.reply client t p = p.responseTo ∧
      selectBucket.after client t p = { client with bucket := some (Utf8.decodeLossy p.key) } := by
  obtain ⟨b, found⟩ := Option.ne_none_iff_exists'.1 h
  simp only [reply, after, found, and_self]

theorem selectBucket_of_absent (h : t.bucket? (Utf8.decodeLossy p.key) = none) :
    selectBucket.reply client t p = { p.responseTo with status := .keyNotFound } ∧
      selectBucket.after client t p = client := by
  simp only [reply, after, h, and_self]

/-- A key that encodes a text is shown as this text. -/
theorem selectsByName_of_keyText {name : String} (text : p.keyText? = some name) :
    SelectsByName t p client (selectBucket.after client t p) (selectBucket.reply client t p) := by
  have encoded : p.key = Utf8.encode name := Utf8.decode?_eq_some_iff.1 text
  have shown : Utf8.decodeLossy p.key = name := by rw [encoded, Utf8.decodeLossy_encode]
  by_cases found : t.bucket? (Utf8.decodeLossy p.key) = none
  · obtain ⟨reply, after⟩ := @selectBucket_of_absent H t client p found
    refine .inr ⟨fun other same => ?_, reply, after⟩
    have read : Utf8.decodeLossy p.key = other := by rw [same, Utf8.decodeLossy_encode]
    rwa [read] at found
  · obtain ⟨reply, after⟩ := @selectBucket_of_found H t client p found
    rw [shown] at found after
    exact .inl ⟨name, encoded, found, reply, after⟩

/-- A malformed key is no name, so it is answered by name only if it is refused. -/
theorem selectsByName_iff_of_malformed (text : p.keyText? = none) :
    SelectsByName t p client (selectBucket.after client t p) (selectBucket.reply client t p) ↔
      t.bucket? (Utf8.decodeLossy p.key) = none := by
  have malformed : ∀ name, p.key ≠ Utf8.encode name := Utf8.ne_encode_of_malformed text
  constructor
  · rintro (⟨name, same, -⟩ | ⟨-, refused, -⟩)
    · exact absurd same (malformed name)
    · by_contra found
      rw [(@selectBucket_of_found H t client p found).1] at refused
      have same : Status.success = .keyNotFound := congrArg Packet.status refused
      cases same
  · intro absent
    exact .inr ⟨fun name same => absurd same (malformed name), selectBucket_of_absent absent⟩

/-- The service selects by name unless the key is malformed and there is a bucket that is called as it is shown. -/
theorem selectsByName_iff :
    SelectsByName t p client (selectBucket.after client t p) (selectBucket.reply client t p) ↔
      ¬(p.keyText? = none ∧ t.bucket? (Utf8.decodeLossy p.key) ≠ none) := by
  cases text : p.keyText? with
  | some name => exact iff_of_true (selectsByName_of_keyText text) fun h => absurd h.1 (Option.some_ne_none name)
  | none =>
    rw [selectsByName_iff_of_malformed text, and_iff_right rfl]
    exact Decidable.not_not.symm

end Builtin

/-- **Which bucket is selected.** Whatever key a request has, the bucket that is called as the key is shown is selected,
or there is none and nothing changes. So a bucket is selected by its name and by nothing else, unless the key is
malformed and there is a bucket that is called as it is shown. -/
theorem selected_iff (ex : Exchange H M) (p : Packet) :
    ∃ client reply, Builtin.selectBucket.run ex p = Exchange.answer { ex with client } reply ∧
      (ex.shared.topology.bucket? (Utf8.decodeLossy p.key) ≠ none ∧ reply = p.responseTo ∧
          client = { ex.client with bucket := some (Utf8.decodeLossy p.key) } ∨
        ex.shared.topology.bucket? (Utf8.decodeLossy p.key) = none ∧
          reply = { p.responseTo with status := .keyNotFound } ∧ client = ex.client) ∧
      (SelectsByName ex.shared.topology p ex.client client reply ↔
        ¬(p.keyText? = none ∧ ex.shared.topology.bucket? (Utf8.decodeLossy p.key) ≠ none)) := by
  refine ⟨_, _, Builtin.run_eq _ ex p, ?_, Builtin.selectsByName_iff⟩
  by_cases found : ex.shared.topology.bucket? (Utf8.decodeLossy p.key) = none
  · exact .inr ⟨found, Builtin.selectBucket_of_absent found⟩
  · exact .inl ⟨found, Builtin.selectBucket_of_found found⟩

/-- A bucket whose name is the replacement character is selected by the key 0xFF, which encodes no text. -/
theorem selected_malformed :
    let t := Topology.mutateAll [.addNode "a" [.kv], .addBucket ⟨"\uFFFD", 0, 1, none⟩] .initial
    let p : Packet := { Packet.request .selectBucket with key := [0xFF] }
    let shared : Shared Handler Memory := ⟨.empty, Builtin.registerAll .standard .builtin .empty, t, .empty⟩
    let done := (Builtin.selectBucket.run (.start (.create 0 0) shared) p).world
    done.response.map (·.status) = some .success ∧ done.client.bucket = some "\uFFFD" ∧
      ∀ name, p.key ≠ Utf8.encode name := by
  intro t p shared done
  exact ⟨by decide +kernel, by decide +kernel, Utf8.ne_encode_of_malformed (by decide +kernel)⟩

/-- **The service selects by name for all keys** if and only if no bucket has the replacement character in its name. -/
theorem selectsByName_always_iff (t : Topology) :
    (∀ (client : Client H) (p : Packet), SelectsByName t p client
      (Builtin.selectBucket.after client t p) (Builtin.selectBucket.reply client t p)) ↔
      ∀ name, t.bucket? name ≠ none → '\uFFFD' ∉ name.toList := by
  constructor
  · intro always name found shown
    obtain ⟨key, malformed, rfl⟩ := Utf8.exists_malformed_iff.2 shown
    exact Builtin.selectsByName_iff.1 (always (.create 0 0) { Packet.request .selectBucket with key })
      ⟨malformed, found⟩
  · intro plain client p
    rw [Builtin.selectsByName_iff]
    rintro ⟨malformed, found⟩
    exact plain _ found (Utf8.exists_malformed_iff.1 ⟨p.key, malformed, rfl⟩)

end MockCluster.Kv
