import MockCluster.Proofs.Services.Served
import MockCluster.Proofs.Text.Parts

/-!
# Who is authenticated

A message of the PLAIN mechanism has three fields with NUL bytes between them: on whose behalf, who, and the password. A
user name or a password can be any text, the value of the request any bytes. A value has its fields in one way only
(`Fields.unique`), so it is clear what it presents.

The service leaves out the first field, takes the next two for user and password, and does not look further.

| fields of the value | by the form of the message | by the service |
| --- | --- | --- |
| fewer than three | refused | refused |
| three, with the right user and password | accepted | accepted |
| more, which begin in this way | refused | accepted |
| all others | refused | refused |

`authenticated_iff` says that the third row is the only difference, and `authenticated_trailing` shows a message of it.
-/

namespace MockCluster.Kv

open MockCluster.Script (Memory)

/-- The fields of a value: what it is made of when NUL bytes are put between them. -/
structure Fields (value : Bytes) (fields : List Bytes) : Prop where
  ne_nil : fields ≠ []
  joined : [0].intercalate fields = value
  closed : ∀ field ∈ fields, 0 ∉ field

theorem fields_iff {value : Bytes} {fields : List Bytes} : Fields value fields ↔ pieces (· = 0) value = fields := by
  rw [pieces_eq_iff]
  exact ⟨fun h => ⟨h.ne_nil, h.joined, h.closed⟩, fun h => ⟨h.1, h.2.1, h.2.2⟩⟩

theorem Fields.unique {value : Bytes} {fields fields' : List Bytes} (h : Fields value fields)
    (h' : Fields value fields') : fields = fields' :=
  (fields_iff.1 h).symm.trans (fields_iff.1 h')

/-- A value presents credentials: it begins with a field for any identity, the user and the password. Then come the
other fields. -/
def Presents (credentials : Credentials) (value : Bytes) (others : List Bytes) : Prop :=
  ∃ identity, Fields value
    (identity :: Utf8.encode credentials.username :: Utf8.encode credentials.password :: others)

namespace Builtin

variable {credentials : Credentials} {value : Bytes}

theorem authenticates_iff :
    authenticates credentials value = true ↔ ∃ others, Presents credentials value others := by
  simp only [Presents, fields_iff, authenticates]
  generalize pieces (· = 0) value = fields
  rcases fields with _ | ⟨identity, _ | ⟨user, _ | ⟨password, others⟩⟩⟩ <;> simp

end Builtin

/-- What a value presents besides the credentials is determined by it. -/
theorem Presents.unique {credentials : Credentials} {value : Bytes} {others others' : List Bytes}
    (h : Presents credentials value others) (h' : Presents credentials value others') : others = others' := by
  obtain ⟨identity, fields⟩ := h
  obtain ⟨identity', fields'⟩ := h'
  have same := fields.unique fields'
  simp only [List.cons.injEq, true_and] at same
  exact same.2

variable {H M : Type}

/-- **Who is authenticated.** Whatever key and value a request has, it is accepted, and the user is then the user of the
connection, or it is refused, and the connection stays as it was. It is accepted if and only if the mechanism is PLAIN
and the value presents the credentials, alone or with other fields after them. So the requests that have the form of the
message, with three fields of which the last two are the user and the password, are the ones that are accepted, except
for those that present the credentials with other fields after them. -/
theorem authenticated_iff (credentials : Credentials) (ex : Exchange H M) (p : Packet) :
    ∃ client reply, (Builtin.saslAuth credentials).run ex p = Exchange.answer { ex with client } reply ∧
      (reply = { p.responseTo with value := Utf8.encode "Authenticated" } ∧
          client = { ex.client with user := some credentials.username } ∨
        reply = { p.responseTo with status := .authError } ∧ client = ex.client) ∧
      (reply.status = .success ↔ p.key = Utf8.encode "PLAIN" ∧ ∃ others, Presents credentials p.value others) ∧
      ((reply.status = .success ↔ p.key = Utf8.encode "PLAIN" ∧ Presents credentials p.value []) ↔
        ¬(p.key = Utf8.encode "PLAIN" ∧ ∃ others ≠ [], Presents credentials p.value others)) := by
  refine ⟨_, _, Builtin.run_eq _ ex p, ?_⟩
  simp only [Builtin.after, Builtin.reply]
  have accepted_iff : p.key = Utf8.encode "PLAIN" ∧ Builtin.authenticates credentials p.value = true ↔
      p.key = Utf8.encode "PLAIN" ∧ ∃ others, Presents credentials p.value others :=
    and_congr_right fun _ => Builtin.authenticates_iff
  by_cases right : p.key = Utf8.encode "PLAIN" ∧ Builtin.authenticates credentials p.value = true
  · have success : p.responseTo.status = .success := rfl
    obtain ⟨plain, others, presented⟩ := accepted_iff.1 right
    rw [if_pos right, if_pos right]
    refine ⟨.inl ⟨rfl, rfl⟩, iff_of_true success ⟨plain, others, presented⟩, ?_⟩
    rw [iff_true_left success]
    constructor
    · rintro ⟨-, alone⟩ ⟨-, more, several, presented'⟩
      exact several (presented'.unique alone)
    · intro nothing
      obtain rfl : others = [] := Decidable.not_not.1 fun several => nothing ⟨plain, others, several, presented⟩
      exact ⟨plain, presented⟩
  · have failure : Status.authError ≠ .success := by decide
    rw [if_neg right, if_neg right]
    have refused := mt accepted_iff.2 right
    refine ⟨.inr ⟨rfl, rfl⟩, iff_of_false failure refused, iff_of_true ?_ ?_⟩
    · exact iff_of_false failure fun alone => refused ⟨alone.1, [], alone.2⟩
    · rintro ⟨plain, others, -, presented⟩
      exact refused ⟨plain, others, presented⟩

/-- A value of four fields, the last of them empty, is accepted, although the form of the message has three. -/
theorem authenticated_trailing :
    let p : Packet := { Packet.request .saslAuth with
      key := Utf8.encode "PLAIN", value := Utf8.encode "\x00Administrator\x00password\x00" }
    let shared : Shared Handler Memory := ⟨.empty, Builtin.registerAll .standard .builtin .empty, .initial, .empty⟩
    let done := ((Builtin.saslAuth .standard).run (.start (.create 0 0) shared) p).world
    done.response.map (·.status) = some .success ∧ done.client.user = some "Administrator" ∧
      Fields p.value [[], Utf8.encode "Administrator", Utf8.encode "password", []] ∧
      ∀ identity user password, ¬Fields p.value [identity, user, password] := by
  intro p shared done
  have four : Fields p.value [[], Utf8.encode "Administrator", Utf8.encode "password", []] :=
    fields_iff.2 (by decide +kernel)
  refine ⟨by decide +kernel, by decide +kernel, four, fun identity user password three => ?_⟩
  have length : 4 = 3 := congrArg List.length (four.unique three)
  exact absurd length (by decide)

end MockCluster.Kv
