import MockCluster.Kv.Script
import MockCluster.Kv.World

/-!
# Connections do not see each other

Connections share the overrides, the defaults, the topology and the memory of the handlers; the state of a connection
and its own expectations are for its requests only. Handlers are arbitrary functions of the exchange that they run in.
Those of shared expectations run for every connection, and what they register, agree on or select is written into the
one that is current.

That is a statement about two worlds at a time. If they are alike but for one connection (`World.AlikeBut`), they give
the same answers to every deed that is not on this connection, and are still alike but for it. One step of this is
`World.AlikeBut.perform`, whole runs are `World.isolated`.
-/

namespace MockCluster.Kv

open MockCluster.Script (Managed)

variable {H M : Type}

section Deeds

/-- What can be asked of a scope. -/
inductive Errand (H : Type) where
  | register (limit : Option Nat) (rule : Rule H)
  | remove (handle : Nat)
  | clear
  | count

/-- What comes of it, and the scope afterwards. -/
def Errand.run (errand : Errand H) (s : Scope (Rule H)) : Managed × Scope (Rule H) :=
  match errand with
  | register limit rule => (.registered (s.register limit rule).1, (s.register limit rule).2)
  | remove handle => (.removed (s.contains handle), s.erase handle)
  | clear => (.cleared, s.clear)
  | count => (.counted s.size, s)

/-- What can be done in a world. -/
inductive Deed (H : Type) where
  /-- A packet is dispatched on a connection. -/
  | dispatch (connection : Nat) (p : Packet)
  /-- Something is done with the expectations of a connection. -/
  | own (connection : Nat) (errand : Errand H)
  /-- Something is done with the overrides. -/
  | overrides (errand : Errand H)
  /-- Something is done with the defaults. -/
  | defaults (errand : Errand H)
  /-- The topology is mutated. -/
  | mutate (mutation : Topology.Mutation)

/-- The connection that a deed is about. -/
def Deed.connection? : Deed H → Option Nat
  | dispatch connection _ | own connection _ => some connection
  | overrides _ | defaults _ | mutate _ => none

/-- What comes of a deed. -/
inductive Told where
  /-- There is no such connection. -/
  | nobody
  /-- A packet was dispatched. -/
  | answered (answer : Answer)
  /-- Something was done with a scope. -/
  | managed (result : Managed)
  /-- The topology was mutated, or not; a new node has a number. -/
  | mutated (result : Except Fault (Option NodeId))

namespace World

/-- What comes of a deed on a connection, if there is one; else nothing changes. -/
def told {α : Type} (w : World H M) (tell : α → Told) (done : Option (α × World H M)) : Told × World H M :=
  match done with
  | none => (.nobody, w)
  | some (result, w) => (tell result, w)

/-- Does a deed. -/
def perform (behaviour : Behaviour H M) (w : World H M) : Deed H → Told × World H M
  | .dispatch connection p => w.told .answered (w.dispatch behaviour connection p)
  | .own connection errand => w.told .managed <| w.withClient connection fun ex =>
    let (result, own) := errand.run ex.client.own
    (result, { ex with client := { ex.client with own } })
  | .overrides errand =>
    let (result, overrides) := errand.run w.shared.overrides
    (.managed result, { w with shared := { w.shared with overrides } })
  | .defaults errand =>
    let (result, defaults) := errand.run w.shared.defaults
    (.managed result, { w with shared := { w.shared with defaults } })
  | .mutate mutation =>
    let (result, topology) := w.shared.topology.mutate mutation
    (.mutated result, { w with shared := { w.shared with topology } })

/-- Does one deed after another. Keeps a record of what came of each. -/
def performAll (behaviour : Behaviour H M) (w : World H M) : List (Deed H) → List (Deed H × Told) × World H M
  | [] => ([], w)
  | deed :: rest =>
    let (told, w) := w.perform behaviour deed
    let (record, w) := w.performAll behaviour rest
    ((deed, told) :: record, w)

end World

end Deeds

namespace World

/-- Two worlds are alike but for one connection: all else that connections have, and what they share, is the same. -/
structure AlikeBut (j : Nat) (w w' : World H M) : Prop where
  shared : w.shared = w'.shared
  others : ∀ i, i ≠ j → w.clients[i]? = w'.clients[i]?

variable {behaviour : Behaviour H M} {j : Nat} {w w' : World H M} {deed : Deed H}

/-- What is done on one connection depends on this connection and on what is shared, and changes nothing else. -/
theorem withClient_eq {α : Type} (w : World H M) (i : Nat) (f : Exchange H M → α × Exchange H M) :
    w.withClient i f = w.clients[i]?.map fun client =>
      ((f (.start client w.shared)).1, w.put i (f (.start client w.shared)).2) := rfl

theorem getElem?_put (w : World H M) (i : Nat) (ex : Exchange H M) (k : Nat) :
    (w.put i ex).clients[k]? = if i = k then w.clients[k]?.map fun _ => ex.client else w.clients[k]? :=
  List.getElem?_set'

/-- **A deed on one connection.** Worlds that are alike but for another one tell the same and stay alike. -/
theorem AlikeBut.told_withClient {α : Type} (alike : w.AlikeBut j w') {i : Nat} (hi : i ≠ j) (tell : α → Told)
    (f : Exchange H M → α × Exchange H M) :
    (w.told tell (w.withClient i f)).1 = (w'.told tell (w'.withClient i f)).1 ∧
      (w.told tell (w.withClient i f)).2.AlikeBut j (w'.told tell (w'.withClient i f)).2 := by
  rw [withClient_eq, withClient_eq, ← alike.others i hi, ← alike.shared]
  cases w.clients[i]? with
  | none => exact ⟨rfl, alike⟩
  | some client =>
    refine ⟨rfl, rfl, fun k hk => ?_⟩
    show (w.put i _).clients[k]? = (w'.put i _).clients[k]?
    rw [getElem?_put, getElem?_put, alike.others k hk]

/-- A deed on one connection leaves the others as they are. -/
theorem getElem?_told_withClient {α : Type} {i : Nat} (hi : i ≠ j) (tell : α → Told)
    (f : Exchange H M → α × Exchange H M) : (w.told tell (w.withClient i f)).2.clients[j]? = w.clients[j]? := by
  rw [withClient_eq]
  cases w.clients[i]? with
  | none => rfl
  | some client => exact (getElem?_put w i _ j).trans (if_neg hi)

/-- **One step.** Worlds that are alike but for a connection tell the same about a deed that is not on it, and they stay
alike but for it. -/
theorem AlikeBut.perform (behaviour : Behaviour H M) (alike : w.AlikeBut j w') (elsewhere : deed.connection? ≠ some j) :
    (w.perform behaviour deed).1 = (w'.perform behaviour deed).1 ∧
      (w.perform behaviour deed).2.AlikeBut j (w'.perform behaviour deed).2 := by
  cases deed with
  | dispatch i p => exact alike.told_withClient (fun same => elsewhere (congrArg some same)) _ _
  | own i errand => exact alike.told_withClient (fun same => elsewhere (congrArg some same)) _ _
  | overrides errand | defaults errand | mutate mutation =>
    rw [World.perform, World.perform, alike.shared]
    exact ⟨rfl, rfl, alike.others⟩

/-- A deed leaves the connections as they are that it is not on. -/
theorem getElem?_perform (elsewhere : deed.connection? ≠ some j) :
    (w.perform behaviour deed).2.clients[j]? = w.clients[j]? := by
  cases deed with
  | dispatch i p => exact getElem?_told_withClient (fun same => elsewhere (congrArg some same)) _ _
  | own i errand => exact getElem?_told_withClient (fun same => elsewhere (congrArg some same)) _ _
  | overrides errand | defaults errand | mutate mutation => rfl

/-- What is done with the expectations of a connection is no more than a difference in this connection. -/
theorem AlikeBut.perform_own (behaviour : Behaviour H M) (alike : w.AlikeBut j w') (errand : Errand H) :
    (w.perform behaviour (.own j errand)).2.AlikeBut j w' := by
  rw [World.perform, withClient_eq]
  cases w.clients[j]? with
  | none => exact alike
  | some client =>
    refine ⟨alike.shared, fun k hk => ?_⟩
    exact ((getElem?_put w j _ k).trans (if_neg hk.symm)).trans (alike.others k hk)

theorem performAll_cons (behaviour : Behaviour H M) (w : World H M) (deed : Deed H) (rest : List (Deed H)) :
    w.performAll behaviour (deed :: rest) =
      ((deed, (w.perform behaviour deed).1) :: ((w.perform behaviour deed).2.performAll behaviour rest).1,
        ((w.perform behaviour deed).2.performAll behaviour rest).2) := rfl

/-- A run of deeds that are not on the connection. -/
theorem AlikeBut.performAll (behaviour : Behaviour H M) (alike : w.AlikeBut j w') {deeds : List (Deed H)}
    (elsewhere : ∀ deed ∈ deeds, deed.connection? ≠ some j) :
    (w.performAll behaviour deeds).1 = (w'.performAll behaviour deeds).1 ∧
      (w.performAll behaviour deeds).2.AlikeBut j (w'.performAll behaviour deeds).2 := by
  induction deeds generalizing w w' with
  | nil => exact ⟨rfl, alike⟩
  | cons deed rest ih =>
    obtain ⟨here, later⟩ := List.forall_mem_cons.1 elsewhere
    obtain ⟨told, alike⟩ := alike.perform behaviour here
    obtain ⟨record, alike⟩ := ih alike later
    rw [performAll_cons, performAll_cons, told, record]
    exact ⟨rfl, alike⟩

/-- A run leaves the connections as they are that none of its deeds is on. -/
theorem getElem?_performAll {deeds : List (Deed H)} (elsewhere : ∀ deed ∈ deeds, deed.connection? ≠ some j) :
    (w.performAll behaviour deeds).2.clients[j]? = w.clients[j]? := by
  induction deeds generalizing w with
  | nil => rfl
  | cons deed rest ih =>
    obtain ⟨here, later⟩ := List.forall_mem_cons.1 elsewhere
    exact (ih later).trans (getElem?_perform here)

/-- A run in which no packets come in on the connection, and the same run without any deed on it. -/
theorem AlikeBut.performAll_filter (behaviour : Behaviour H M) (alike : w.AlikeBut j w') {deeds : List (Deed H)}
    (silent : ∀ p, .dispatch j p ∉ deeds) :
    (w.performAll behaviour deeds).1.filter (fun entry => entry.1.connection? ≠ some j) =
      (w'.performAll behaviour (deeds.filter fun deed => deed.connection? ≠ some j)).1 := by
  induction deeds generalizing w w' with
  | nil => rfl
  | cons deed rest ih =>
    have later : ∀ p, .dispatch j p ∉ rest := fun p mem => silent p (List.mem_cons_of_mem _ mem)
    by_cases here : deed.connection? = some j
    · obtain ⟨errand, rfl⟩ : ∃ errand, deed = .own j errand := by
        cases deed with
        | dispatch i p =>
          obtain rfl : i = j := Option.some.inj here
          exact absurd List.mem_cons_self (silent p)
        | own i errand =>
          obtain rfl : i = j := Option.some.inj here
          exact ⟨errand, rfl⟩
        | overrides | defaults | mutate => cases here
      rw [performAll_cons, List.filter_cons_of_neg (by simpa using here), List.filter_cons_of_neg (by simpa using here)]
      exact ih (alike.perform_own behaviour errand) later
    · obtain ⟨told, alike⟩ := alike.perform behaviour here
      rw [performAll_cons, List.filter_cons_of_pos (by simpa using here), List.filter_cons_of_pos (by simpa using here),
        performAll_cons, told, ih alike later]

/-- **Connections are isolated.** Let two worlds be alike but for one connection, and let deeds be done in them that are
not on this connection: then the same comes of each deed, the worlds stay alike but for the connection, and in neither
is the connection changed. It makes no difference either what is done meanwhile with the expectations of the connection:
what comes of all other deeds is what comes of them without that. -/
theorem isolated (behaviour : Behaviour H M) (alike : w.AlikeBut j w') (deeds : List (Deed H)) :
    ((∀ deed ∈ deeds, deed.connection? ≠ some j) →
      (w.performAll behaviour deeds).1 = (w'.performAll behaviour deeds).1 ∧
      (w.performAll behaviour deeds).2.AlikeBut j (w'.performAll behaviour deeds).2 ∧
      (w.performAll behaviour deeds).2.clients[j]? = w.clients[j]? ∧
      (w'.performAll behaviour deeds).2.clients[j]? = w'.clients[j]?) ∧
    ((∀ p, .dispatch j p ∉ deeds) →
      (w.performAll behaviour deeds).1.filter (fun entry => entry.1.connection? ≠ some j) =
        (w'.performAll behaviour (deeds.filter fun deed => deed.connection? ≠ some j)).1) := by
  refine ⟨fun elsewhere => ?_, fun silent => alike.performAll_filter behaviour silent⟩
  obtain ⟨record, still⟩ := alike.performAll behaviour elsewhere
  exact ⟨record, still, getElem?_performAll elsewhere, getElem?_performAll elsewhere⟩

/-- An override is for every connection, and its handler registers an expectation on the one that is current. The second
connection has registered something else for itself, is logged in and has agreed on a feature. The first connection does
not notice that, and the second one does not notice what the handler does for the first one. -/
theorem isolated_registering :
    let rule (command : Command) (script : Script) : Rule Handler :=
      ⟨⟨.req, command, none, none, none, none⟩, .script script⟩
    let write (text : String) : Action × Bool :=
      (.write { (default : PacketPatch) with value := some text.toUTF8.toList } 0, false)
    let get : Draft := { Draft.empty with magic := some .req, command := some .get }
    let shared : Shared Handler MockCluster.Script.Memory :=
      ⟨(Scope.empty.register none
          (rule .selectBucket [(.manage (.register .connection get none [write "a"]), false)])).2,
        .empty, .initial, .empty⟩
    let other : Client Handler := { (.create 2 0 : Client Handler) with
      features := [.xerror], user := some "u", own := (Scope.empty.register none (rule .get [write "b"])).2 }
    let w : World Handler MockCluster.Script.Memory := ⟨[.create 1 0, .create 2 0], shared⟩
    let w' : World Handler MockCluster.Script.Memory := ⟨[.create 1 0, other], shared⟩
    let deeds : List (Deed Handler) := [.dispatch 0 (.request .selectBucket), .dispatch 0 (.request .get)]
    (w.performAll Handler.behaviour deeds).1 = (w'.performAll Handler.behaviour deeds).1 ∧
      (w'.performAll Handler.behaviour deeds).2.clients[1]? = some other ∧
      (w.performAll Handler.behaviour deeds).2.clients.map (·.own.size) = [1, 0] ∧
      (w.performAll Handler.behaviour (.own 1 .clear :: deeds)).1.filter (fun entry => entry.1.connection? ≠ some 1) =
        (w'.performAll Handler.behaviour deeds).1 := by
  intro rule write get shared other w w' deeds
  have alike : w.AlikeBut 1 w' := by
    refine ⟨rfl, fun i hi => ?_⟩
    rcases i with _ | _ | i
    · rfl
    · exact absurd rfl hi
    · rfl
  obtain ⟨record, -, -, kept⟩ := (isolated Handler.behaviour alike deeds).1 (by simp [deeds, Deed.connection?])
  have meanwhile := (isolated Handler.behaviour alike (.own 1 .clear :: deeds)).2 (by simp [deeds])
  exact ⟨record, kept, by decide +kernel, meanwhile⟩

end World

end MockCluster.Kv
