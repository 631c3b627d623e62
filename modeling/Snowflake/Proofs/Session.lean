import Snowflake.Proofs.Contention.Alone

/-!
# `Snowflake.Proofs.Session`: no identifier is lost between calls

A generator with one caller is used call by call: a poll, or one of the calls
that wait for an identifier. A call may fail, it may panic with its clock, and
the asynchronous one may be dropped while it sleeps. `last_of_session` shows
that the generator keeps account all the same. After each call the last
identifier is the one that the call returned, and when it returned none it is
the one from before.

`Accounts` is that property of a computation. A poll has it because it is a run
of one caller's steps (`Arena.Finishes.last`). A call has it because a poll that
does not end the call has issued nothing, and the pauses do not touch the
generator (`callFrom_accounts`).
-/

set_option autoImplicit false

namespace Snowflake

variable {ω α β : Type}

/-- The identifier that the answer names is the last one afterwards. When it
names none, the last one stays. -/
def Accounts (id? : α → Option Flake) (c : StateT Generator (StateM ω) α) : Prop :=
  Ends c fun g a h => h.cell.last = (id? a).getD g.cell.last

/-- To wrap an answer changes nothing, if it names the same identifier. -/
theorem Accounts.map {id? : α → Option Flake} {other? : β → Option Flake}
    {c : StateT Generator (StateM ω) α} (h : Accounts id? c) (f : α → β)
    (hf : ∀ a, other? (f a) = id? a) : Accounts other? (do return f (← c)) := by
  refine Ends.bind h fun a => .pure ?_
  intro t start hlast
  rw [hf]
  exact hlast

/-- A poll keeps account, as it is a run of one caller's steps. -/
theorem pollUnlucky_accounts (read : StateM ω Reading) (failures : Nat) :
    Accounts issued? (Generator.pollUnlucky read failures) :=
  (Generator.pollUnlucky_finishes 0 read failures).mono fun _ _ _ h => h.2.last

/-- The identifier that a call returned. -/
def returned? : Option (Except Fault Flake) → Option Flake
  | some (.ok id) => some id
  | some (.error _) | none => none

/-- A poll without an identifier leaves nothing behind. -/
theorem issued?_of_not_ready {s : Status} (h : s.isReady = false) : issued? (.ok s) = none := by
  cases s with
  | ready id => cases h
  | pending yieldFor => rfl
  | behind drift => rfl

/-- A round that ends the call passes on what its poll issued. -/
theorem Round.After.returned? {r : PollResult} {result : Except Fault Flake}
    (h : Round.After r (.finished result)) : Snowflake.returned? (some result) = issued? r := by
  cases h with
  | fault f => rfl
  | ready id => rfl
  | givenUp hs e => exact (issued?_of_not_ready hs).symm

/-- A round that pauses has issued nothing. -/
theorem Round.After.issued? {r : PollResult} {b : Backoff} (h : Round.After r (.pausing b)) :
    Snowflake.issued? r = none := by
  cases h with
  | pausing hs b => exact issued?_of_not_ready hs

/-- Every call that leaves the generator alone in its looks and pauses accounts
for its identifier. -/
theorem callFrom_accounts {fx : Effects (StateT Generator (StateM ω))}
    {pause : Backoff → StateT Generator (StateM ω) Unit} (hpoll : Accounts issued? fx.poll)
    (hinstant : Ends fx.instant fun g _ h => h = g)
    (hpause : ∀ b, Ends (pause b) fun g _ h => h = g) (o : Options) (polls : Nat)
    (started : Option Instant) : Accounts returned? (callFrom fx pause o polls started) := by
  -- A round that pauses has left the last identifier, and one that ends passes
  -- on its own.
  refine callFrom_ends hpoll .eq hinstant hpause ?_ o polls started
  refine ⟨fun g => rfl, ?_, ?_⟩
  · rintro g r h _ result hlast rfl hafter
    rw [hafter.returned?]
    exact hlast
  · rintro g r h b _ result last hlast hafter rfl hrest
    rw [hafter.issued?, Option.getD_none] at hlast
    rw [hrest, hlast]

/-- What a call runs on: a machine, the clock of its generator, and how often a
swap fails for no reason. -/
structure Surroundings (ω : Type) where
  machine : Machine (StateM ω)
  read : StateM ω Reading
  failures : StateM ω Nat

namespace Surroundings

/-- The effects of a call on a generator that it owns. -/
def effects (e : Surroundings ω) : Effects (StateT Generator (StateM ω)) where
  poll := do Generator.pollUnlucky e.read (← StateT.lift e.failures)
  instant := StateT.lift e.machine.instant
  yield := StateT.lift e.machine.yield
  sleep d := StateT.lift (e.machine.sleep d)

/-- Without such failures they are the effects on the machine. -/
theorem effects_eq (mc : Machine (StateM ω)) (read : StateM ω Reading) :
    (Surroundings.mk mc read (pure 0)).effects = mc.effectsWith read :=
  rfl

/-- A poll in any surroundings keeps account. -/
theorem poll_accounts (e : Surroundings ω) : Accounts issued? e.effects.poll := by
  refine (Ends.lift e.failures).bind fun failures => ?_
  refine (pollUnlucky_accounts e.read failures).mono ?_
  rintro g r h hlast _ rfl
  exact hlast

end Surroundings

/-- What a caller asks of a generator. -/
inductive Call (ω : Type)
  /-- One poll. -/
  | poll
  /-- The blocking call, followed for so many polls. -/
  | generate (o : Options) (polls : Nat)
  /-- The blocking call for a signed integer. -/
  | generateInt64 (o : Options) (polls : Nat)
  /-- The asynchronous call over a sleep of the caller's own. It is dropped in
  the pause after so many polls, unless it has ended before. -/
  | generateAsync (sleepFor : Duration → StateM ω Unit) (o : Options) (polls : Nat)

/-- What a call gives. There is no result of a call that was dropped, or that is
still waiting. -/
inductive Answer
  | polled (r : PollResult)
  | generated (r : Option (Except Fault Flake))
  | generatedInt64 (r : Option (Except Fault Int64))

/-- The identifier that a call returned, if it returned one. -/
def Answer.id? : Answer → Option Flake
  | .polled r => issued? r
  | .generated r => returned? r
  | .generatedInt64 r => returned? (r.map fun r => r.map fun n => ⟨n.toUInt64⟩)

/-- A call on the generator. -/
def Call.perform (e : Surroundings ω) : Call ω → StateT Generator (StateM ω) Answer
  | .poll => return .polled (← e.effects.poll)
  | .generate o polls => return .generated (← Snowflake.generate e.effects o polls)
  | .generateInt64 o polls => return .generatedInt64 (← Snowflake.generateInt64 e.effects o polls)
  | .generateAsync sleepFor o polls =>
    return .generated
      (← Snowflake.generateAsync e.effects (fun d => StateT.lift (sleepFor d)) o polls)

/-- Calls one after another, each in surroundings of its own. -/
def session : List (Surroundings ω × Call ω) → StateT Generator (StateM ω) (List Answer)
  | [] => return []
  | (e, call) :: calls => do
    let answer ← call.perform e
    let answers ← session calls
    return answer :: answers

/-- The blocking call does. -/
theorem generate_accounts (e : Surroundings ω) (o : Options) (polls : Nat) :
    Accounts returned? (generate e.effects o polls) := by
  rw [generate_eq]
  refine callFrom_accounts e.poll_accounts (Ends.lift _) ?_ o polls none
  intro b
  cases b with
  | spin yieldFor => exact Ends.lift _
  | sleep d => exact Ends.lift _

/-- The asynchronous call does, also when it is dropped in a pause. -/
theorem generateAsync_accounts (e : Surroundings ω) (sleepFor : Duration → StateM ω Unit)
    (o : Options) (polls : Nat) :
    Accounts returned?
      (generateAsync e.effects (fun d => StateT.lift (sleepFor d)) o polls) := by
  rw [generateAsync_eq]
  exact callFrom_accounts e.poll_accounts (Ends.lift _) (fun _ => Ends.lift _) o polls none

/-- Every call accounts for its identifiers. -/
theorem Call.perform_accounts (e : Surroundings ω) (call : Call ω) :
    Accounts Answer.id? (call.perform e) := by
  cases call with
  | poll => exact e.poll_accounts.map Answer.polled fun r => rfl
  | generate o polls => exact (generate_accounts e o polls).map Answer.generated fun r => rfl
  | generateInt64 o polls =>
      have hint64 : Accounts (Answer.id? ∘ Answer.generatedInt64)
          (Snowflake.generateInt64 e.effects o polls) := by
        refine (generate_accounts e o polls).map _ fun r => ?_
        -- The signed integer is the word itself.
        rcases r with _ | _ | id
        · rfl
        · rfl
        · rfl
      exact hint64.map Answer.generatedInt64 fun r => rfl
  | generateAsync sleepFor o polls =>
      exact (generateAsync_accounts e sleepFor o polls).map Answer.generated fun r => rfl

/-- A session accounts for the identifiers of its calls. -/
theorem session_accounts (calls : List (Surroundings ω × Call ω)) :
    Accounts (fun answers => (answers.filterMap Answer.id?).getLast?) (session calls) := by
  induction calls with
  | nil => exact Ends.pure fun g => rfl
  | cons head calls ih =>
      obtain ⟨e, call⟩ := head
      refine Ends.bind (call.perform_accounts e) fun answer => Ends.bind ih fun answers => .pure ?_
      intro last h hrest g hlast
      rw [hrest, hlast]
      -- The call that comes first counts only if none of the later ones
      -- returned an identifier.
      cases hid : answer.id? with
      | none => simp only [List.filterMap_cons_none hid, Option.getD_none]
      | some id =>
          simp only [List.filterMap_cons_some hid, List.getLast?_cons, Option.getD_some]

/-- Take a generator of either kind, in any state, that nobody else uses, and
any calls on it one after another, each with options, a machine and a clock of
its own. Readings may be anything, panics included, and swaps may fail for no
reason.

After each call the last identifier is the one that the call returned. When the
call returned none, because it failed, panicked, or was dropped in a pause, it
is the one from before. So after the session it is the identifier that was
returned last, or the one before the session when none was. -/
theorem last_of_session (calls : List (Surroundings ω × Call ω)) (g : Generator) (w : ω) :
    (∀ (e : Surroundings ω) (call : Call ω),
      let (answer, h) := (call.perform e g w).1
      h.cell.last = answer.id?.getD g.cell.last) ∧
    let (answers, h) := (session calls g w).1
    h.cell.last = (answers.filterMap Answer.id?).getLast?.getD g.cell.last :=
  ⟨fun e call => call.perform_accounts e g w, session_accounts calls g w⟩

end Snowflake
