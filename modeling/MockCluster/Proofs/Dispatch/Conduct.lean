import MockCluster.Proofs.Services.Served

/-!
# What handlers do, step by step

To a chain a handler is a function of the exchange, and such a function could put anything in the place of the response.
What is open to a handler is less: to write a response, to take it back, and to leave it alone. `Conduct` spells a
handler out as a tree of these steps, in which each step may depend on all that the handler has seen so far.

| step | what the handler sees of it |
| --- | --- |
| `write` | whether the packet is the response now, or the fault that there was one already |
| `take` | the response that was held |
| `alter` | the whole exchange; anything but the response may change |

A handler forwards a packet once or never: it stops with its result, or with a packet and what it will do with the
result of those behind it (`Halt`). `Conduct.behaviour` makes handlers of a chain from handlers that are spelled out.
Built-in services and scripts can be spelled out (`exists_conduct_eq`).
-/

namespace MockCluster.Kv

open MockCluster.Script (Memory)

variable {H M A B : Type}

/-- What a handler does, step by step, until it stops with a word. -/
inductive Conduct (H M A : Type) where
  /-- It stops. -/
  | stop (word : A)
  /-- It breaks off. -/
  | panic (message : String)
  /-- It writes a response. -/
  | write (p : Packet) (goOn : Except Fault Unit → Conduct H M A)
  /-- It takes the response back. -/
  | take (goOn : Option Packet → Conduct H M A)
  /-- It looks at the exchange, and leaves the response alone. -/
  | alter (change : Exchange H M → Exchange H M) (keeps : ∀ ex, (change ex).response = ex.response)
      (goOn : Exchange H M → Conduct H M A)

/-- Where a handler stops for the first time. -/
inductive Halt (H M : Type) where
  /-- With its result. -/
  | finish (result : Except Fault Unit)
  /-- To forward a packet. It goes on with the result of that. -/
  | forward (p : Packet) (goOn : Except Fault Unit → Conduct H M (Except Fault Unit))

/-- The reply of a handler to its chain, from where it stops for the first time. `run` is what its later steps do. -/
def Halt.reply {W : Type} (run : Conduct H M (Except Fault Unit) → W → Outcome W (Except Fault Unit)) :
    Outcome W (Halt H M) → Reply W Packet (Except Fault Unit)
  | .returned w (.finish result) => .finished (.returned w result)
  | .returned w (.forward p goOn) => .forward w p fun w result => run (goOn result) w
  | .panicked w message => .finished (.panicked w message)

namespace Conduct

/-- What the steps make of an exchange. -/
def run : Conduct H M A → Exchange H M → Outcome (Exchange H M) A
  | stop word, ex => .returned ex word
  | panic message, ex => .panicked ex message
  | write p goOn, ex =>
    match ex.write p with
    | .ok next => (goOn (.ok ())).run next
    | .error fault => (goOn (.error fault)).run ex
  | take goOn, ex => (goOn ex.response).run ex.takeResponse
  | alter change _ goOn, ex => (goOn ex).run (change ex)

/-- Goes on after the word with which the steps stop. -/
def bind : Conduct H M A → (A → Conduct H M B) → Conduct H M B
  | stop word, next => next word
  | panic message, _ => panic message
  | write p goOn, next => write p fun result => (goOn result).bind next
  | take goOn, next => take fun taken => (goOn taken).bind next
  | alter change keeps goOn, next => alter change keeps fun ex => (goOn ex).bind next

/-- Handlers that are spelled out. -/
def behaviour (conduct : H → Nat → Packet → Conduct H M (Halt H M)) : Behaviour H M := fun handler remaining ex p =>
  Halt.reply run ((conduct handler remaining p).run ex)

/-- One step that leaves the response alone. -/
def quiet (f : Exchange H M → Outcome (Exchange H M) A) (keeps : ∀ ex, (f ex).world.response = ex.response) :
    Conduct H M A :=
  alter (fun ex => (f ex).world) keeps fun ex =>
    match f ex with
    | .returned _ word => stop word
    | .panicked _ message => panic message

/-- Goes on after a result, unless it is a fault that is not to be ignored. -/
def proceed (ignore : Bool) (failed : Fault → A) (goOn : Conduct Handler Memory A) :
    Except Fault Unit → Conduct Handler Memory A
  | .ok () => goOn
  | .error fault => if ignore then alter (·.note (.fault fault)) (fun _ => rfl) fun _ => goOn else stop (failed fault)

theorem run_bind (c : Conduct H M A) (next : A → Conduct H M B) (ex : Exchange H M) :
    (c.bind next).run ex = (c.run ex).andThen fun ex word => (next word).run ex := by
  induction c generalizing ex with
  | stop | panic => rfl
  | write p goOn ih =>
    simp only [bind, run]
    cases ex.write p with
    | ok next => exact ih _ next
    | error fault => exact ih _ ex
  | take goOn ih => exact ih _ ex.takeResponse
  | alter change keeps goOn ih => exact ih ex (change ex)

theorem run_quiet (f : Exchange H M → Outcome (Exchange H M) A) (keeps : ∀ ex, (f ex).world.response = ex.response)
    (ex : Exchange H M) : (quiet f keeps).run ex = f ex := by
  simp only [quiet, run]
  cases f ex <;> rfl

theorem run_write_stop (p : Packet) (ex : Exchange H M) : (write p stop).run ex = ex.answer p := by
  cases written : ex.write p <;> simp only [run, Exchange.answer, written]

end Conduct

theorem Manage.response_run (request : Manage Script) (ex : ScriptExchange) :
    (request.run ex).2.response = ex.response := by
  cases request with
  | register layer draft name script =>
    simp only [Manage.run]
    cases draft.matcher with
    | error => rfl
    | ok => cases layer <;> rfl
  | remove layer name =>
    simp only [Manage.run]
    cases ex.shared.memory.packets.handles.get? name with
    | none => rfl
    | some => cases layer <;> rfl
  | clear layer => cases layer <;> rfl
  | count => rfl

theorem Action.exists_conduct (a : Action) (remaining : Option Nat) (p : Packet) :
    ∃ c : Conduct Handler Memory (Except Fault Unit), ∀ ex, c.run ex = a.perform remaining ex p := by
  cases a with
  | write patch opaqueAdd => exact ⟨_, Conduct.run_write_stop _⟩
  | amend patch =>
    let again (taken : Option Packet) : Conduct Handler Memory (Except Fault Unit) :=
      taken.elim (.stop (.ok ())) fun response => .write (patch.apply response) .stop
    refine ⟨.take again, fun ex => ?_⟩
    obtain ⟨client, shared, response, delay, disconnect⟩ := ex
    cases response with
    | none => rfl
    | some => exact Conduct.run_write_stop _ _
  | take => exact ⟨.take fun _ => .stop (.ok ()), fun _ => rfl⟩
  | manage request =>
    refine ⟨_, Conduct.run_quiet (fun ex => Action.perform (.manage request) remaining ex p) fun ex => ?_⟩
    have kept := request.response_run ex
    simp only [Action.perform]
    split
    · rename_i hr
      rw [hr] at kept
      exact kept
    · rename_i hr
      rw [hr] at kept
      exact kept
  | _ => exact ⟨_, Conduct.run_quiet (fun ex => Action.perform _ remaining ex p) fun _ => rfl⟩

theorem Script.exists_conduct_runAfter (script : Script) (p : Packet) :
    ∃ c : Conduct Handler Memory (Except Fault Unit), ∀ ex, c.run ex = Script.runAfter script ex p := by
  induction script with
  | nil => exact ⟨.stop (.ok ()), fun _ => rfl⟩
  | cons head rest ih =>
    obtain ⟨action, ignore⟩ := head
    obtain ⟨first, hf⟩ := action.exists_conduct none p
    obtain ⟨goOn, hg⟩ := ih
    refine ⟨first.bind (.proceed ignore .error goOn), fun ex => ?_⟩
    rw [Conduct.run_bind, hf, Script.runAfter, Action.proceed]
    cases action.perform none ex p with
    | panicked => rfl
    | returned ex result =>
      cases result with
      | ok => exact hg ex
      | error fault =>
        cases ignore with
        | false => rfl
        | true => exact hg _

theorem Script.exists_conduct_run (script : Script) (remaining : Nat) (p : Packet) :
    ∃ c : Conduct Handler Memory (Halt Handler Memory),
      ∀ ex, Halt.reply Conduct.run (c.run ex) = Script.run script remaining ex p := by
  induction script with
  | nil => exact ⟨.stop (.finish (.ok ())), fun _ => rfl⟩
  | cons head rest ih =>
    obtain ⟨action, ignore⟩ := head
    by_cases forwards : ∃ patch, action = .next patch
    · obtain ⟨patch, rfl⟩ := forwards
      obtain ⟨goOn, hg⟩ := Script.exists_conduct_runAfter rest p
      refine ⟨.stop (.forward (patch.apply p) (.proceed ignore .error goOn)), fun ex => ?_⟩
      refine congrArg (Reply.forward ex (patch.apply p)) (funext fun back => funext fun result => ?_)
      cases result with
      | ok => exact hg back
      | error fault =>
        cases ignore with
        | false => rfl
        | true => exact hg _
    · obtain ⟨first, hf⟩ := action.exists_conduct (some remaining) p
      obtain ⟨goOn, hg⟩ := ih
      refine ⟨first.bind (.proceed ignore (fun fault => .finish (.error fault)) goOn), fun ex => ?_⟩
      rw [Conduct.run_bind, hf, Script.run]
      · cases action.perform (some remaining) ex p with
        | panicked => rfl
        | returned ex result =>
          cases result with
          | ok => exact hg ex
          | error fault =>
            cases ignore with
            | false => rfl
            | true => exact hg _
      · rintro patch rfl
        exact forwards ⟨patch, rfl⟩

/-- **Built-in services and scripts can be spelled out.** -/
theorem exists_conduct_eq :
    ∃ conduct : Handler → Nat → Packet → Conduct Handler Memory (Halt Handler Memory),
      Conduct.behaviour conduct = Handler.behaviour := by
  have each (handler : Handler) (remaining : Nat) (p : Packet) :
      ∃ c : Conduct Handler Memory (Halt Handler Memory),
        ∀ ex, Halt.reply Conduct.run (c.run ex) = Handler.behaviour handler remaining ex p := by
    cases handler with
    | builtin b =>
      let answers (ex : ScriptExchange) : Conduct Handler Memory (Halt Handler Memory) :=
        .write (b.reply ex.client ex.shared.topology p) fun result => .stop (.finish result)
      refine ⟨.alter (fun ex => { ex with client := b.after ex.client ex.shared.topology p }) (fun _ => rfl) answers,
        fun ex => ?_⟩
      rw [Handler.behaviour, Builtin.run_eq]
      simp only [Conduct.run, answers, Exchange.answer]
      cases Exchange.write _ _ <;> rfl
    | script actions => exact Script.exists_conduct_run actions remaining p
  refine ⟨fun handler remaining p => (each handler remaining p).choose, ?_⟩
  funext handler remaining ex p
  exact (each handler remaining p).choose_spec ex

end MockCluster.Kv
