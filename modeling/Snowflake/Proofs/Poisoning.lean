import Snowflake.Proofs.Minting

/-!
# `Snowflake.Proofs.Poisoning`: a panic spoils a lock, and nothing else

When the clock panics in the middle of a poll, the lock of a locked generator
stays poisoned. `lock_poisoned_by_first_panic` shows how far this reaches: until
the first panic nobody is told of a poisoned lock, and from then on everybody
is, at once, whatever is asked for. A lock-free generator has no lock to poison,
and a poll that panics is as good as none at all.

A lock is `Clean` or `Spoiled`. `Aftermath` says how a fault and the lock go
together: with a clean lock there is no talk of poison, and what spoils it is a
panic that is passed on. Passing the critical section has such an aftermath
(`Cell.critical_aftermath`). It is the only place where the lock is looked at,
and so everything that polls has one. `Honest` carries it from a poll to the
rounds of a call, to the calls for an identifier, and to all that `mint` does.

A spoiled lock is simpler: each layer gives up at its first poll
(`Request.perform_refused`).
-/

set_option autoImplicit false

namespace Snowflake

open Cli

/-! ### A lock before and after -/

/-- No panic of the clock so far. -/
structure Clean (cell : Cell) (readings : List Reading) : Prop where
  cell : ∃ last, cell = .locked last false
  readings : .failure ∉ readings

/-- There was a panic, and the lock is poisoned. -/
structure Spoiled (cell : Cell) (readings : List Reading) : Prop where
  cell : ∃ last, cell = .locked last true
  readings : .failure ∈ readings

/-- How a lock that was clean may stand after something that ended with or
without a fault. -/
inductive Aftermath (fault? : Option Fault) (cell : Cell) (readings : List Reading) : Prop
  | clean (h : Clean cell readings) (hfault : fault? ≠ some (.error .lockPoisoned))
  /-- The panic that spoiled it is passed on. -/
  | spoiled (h : Spoiled cell readings) (hfault : fault? = some (.panic .clock))

/-- The fault that something ended with. -/
def faultOf? {α : Type} : Except Fault α → Option Fault
  | .ok _ => none
  | .error f => some f

/-- Passing the critical section of a clean lock has an aftermath: the reading
decides. -/
theorem Cell.critical_aftermath {readings : List Reading} (h : .failure ∉ readings) (last : Flake)
    (r : Reading) :
    Aftermath (faultOf? (critical last r).1) (critical last r).2 (readings ++ [r]) := by
  cases r with
  | failure => exact .spoiled ⟨⟨last, rfl⟩, List.mem_append_right _ (.head _)⟩ rfl
  | millis now =>
      have hreadings : .failure ∉ readings ++ [.millis now] := by
        simp only [List.mem_append, List.mem_singleton, reduceCtorEq, or_false]
        exact h
      unfold critical
      rw [show judgeReading last (.millis now) = judge last now from rfl]
      -- No answer to a reading that is one spoils the lock.
      rcases judge_cases last now with ⟨next, hjudge, -⟩ | ⟨-, -, hjudge⟩ | ⟨-, hjudge⟩ |
        ⟨-, hjudge⟩ <;> rw [hjudge] <;>
        exact .clean ⟨⟨_, rfl⟩, hreadings⟩ (by intro hfault; cases hfault)

/-! ### Callers that overlap -/

/-- With a lock there is no step but the critical section, and nobody is seen in
the middle of a poll. -/
theorem Arena.Takes.of_locked {a b : Arena} {caller : Nat} {m : Move} {result : Option PollResult}
    (h : a.Takes caller m b result) (hidle : ∀ c, a.stage c = .idle) {last : Flake}
    {poisoned : Bool} (hcell : a.cell = .locked last poisoned) :
    (poisoned = true ∧ b = a ∧ a.reading? m = none ∧
      result = some (.error (.error .lockPoisoned))) ∨
    ∃ r, poisoned = false ∧ b = { a with cell := (Cell.critical last r).2 } ∧
      a.reading? m = some r ∧ result = some (Cell.critical last r).1 := by
  have hstage : ∀ {s}, a.stage caller = s → s = .idle := fun hs => hs.symm.trans (hidle caller)
  -- All other steps need a word to swap, or a caller under way.
  cases h with
  | load hlockFree _ => cases hcell.symm.trans hlockFree
  | propose hloaded _ => cases hstage hloaded
  | answer hloaded _ => cases hstage hloaded
  | fail hloaded _ => cases hstage hloaded
  | lose hlockFree _ _ => cases hcell.symm.trans hlockFree
  | win hlockFree _ => cases hcell.symm.trans hlockFree
  | refused hlocked _ =>
      cases hcell.symm.trans hlocked
      refine .inl ⟨rfl, rfl, ?_, rfl⟩
      rw [Arena.reading?, hcell]
      rfl
  | @pass _ r hlocked _ =>
      cases hcell.symm.trans hlocked
      exact .inr ⟨r, rfl, rfl, Arena.reading?_critical hcell r, rfl⟩

namespace Journal

/-- What holds of a run over a lock. -/
structure OfLock (j : Journal) : Prop where
  idle : ∀ caller, j.arena.stage caller = .idle
  lock : (Clean j.arena.cell j.readings ∧
      ∀ p ∈ j.polls, p.result ≠ .error (.error .lockPoisoned)) ∨
    Spoiled j.arena.cell j.readings

/-- Every step keeps it. -/
theorem OfLock.note {j : Journal} (h : j.OfLock) {caller : Nat} {m : Move} {a : Arena}
    {result : Option PollResult} (htakes : j.arena.Takes caller m a result) :
    (j.note caller m a result).OfLock := by
  rcases h.lock with ⟨hclean, hpolls⟩ | hspoiled
  · obtain ⟨last, hcell⟩ := hclean.cell
    -- A clean lock lets the caller pass.
    rcases htakes.of_locked h.idle hcell with ⟨hpoisoned, -⟩ | ⟨r, -, rfl, hreading, rfl⟩
    · cases hpoisoned
    · refine ⟨h.idle, ?_⟩
      have hreadings : (j.note caller m { j.arena with cell := (Cell.critical last r).2 }
          (some (Cell.critical last r).1)).readings = j.readings ++ [r] := by
        rw [readings_note, hreading]
        rfl
      rw [hreadings]
      -- The reading alone decides how the lock stands after the step.
      cases Cell.critical_aftermath hclean.readings last r with
      | spoiled hspoiled _ => exact .inr hspoiled
      | clean hclean hfault =>
          refine .inl ⟨hclean, ?_⟩
          intro p hp
          rcases List.mem_append.mp hp with hold | hnew
          · exact hpolls p hold
          · cases List.mem_singleton.mp hnew
            intro hresult
            exact hfault (congrArg faultOf? hresult)
  · -- A panic is not taken back.
    obtain ⟨last, hcell⟩ := hspoiled.cell
    rcases htakes.of_locked h.idle hcell with ⟨-, rfl, -, rfl⟩ | ⟨r, hpoisoned, -⟩
    · exact ⟨h.idle, .inr ⟨hspoiled.cell, List.mem_append_left _ hspoiled.readings⟩⟩
    · cases hpoisoned

/-- Every run over a lock has it. -/
theorem ofLock_run {last : Flake} {moves : List (Nat × Move)} {j : Journal}
    (h : (start (.locked last false)).run moves = some j) : j.OfLock := by
  refine invariant (fun _ _ _ _ _ hj htakes => hj.note htakes) ?_ h
  exact ⟨fun _ => rfl, .inl ⟨⟨⟨last, rfl⟩, List.not_mem_nil⟩, List.forall_mem_nil _⟩⟩

/-- Since an earlier point of the run nobody got past a poisoned lock. -/
structure RefusedSince (j k : Journal) : Prop where
  arena : k.arena = j.arena
  readings : k.readings = j.readings
  polls : ∃ later, k.polls = j.polls ++ later ∧
    ∀ p ∈ later, p.result = .error (.error .lockPoisoned) ∧ p.readings = []

/-- A further step is refused too. -/
theorem RefusedSince.note {j k : Journal} (h : j.RefusedSince k)
    (hidle : ∀ c, j.arena.stage c = .idle) {last : Flake}
    (hcell : j.arena.cell = .locked last true) {caller : Nat} {m : Move} {a : Arena}
    {result : Option PollResult} (htakes : k.arena.Takes caller m a result) :
    j.RefusedSince (k.note caller m a result) := by
  rw [← h.arena] at hidle hcell
  rcases htakes.of_locked hidle hcell with ⟨-, rfl, hreading, rfl⟩ | ⟨r, hpoisoned, -⟩
  · refine ⟨h.arena, ?_, ?_⟩
    · rw [readings_note, hreading, h.readings]
      exact List.append_nil _
    · obtain ⟨later, hpolls, hlater⟩ := h.polls
      refine ⟨later ++ [k.ending caller m (.error (.error .lockPoisoned))], ?_, ?_⟩
      · show k.polls ++ [_] = _
        rw [hpolls, List.append_assoc]
      · intro p hp
        rcases List.mem_append.mp hp with hold | hnew
        · exact hlater p hold
        · cases List.mem_singleton.mp hnew
          -- The caller begins its poll with this step, and takes no reading.
          have htaken : k.takenWith caller m = [] := by
            rw [takenWith, if_pos (hidle caller), hreading]
            rfl
          exact ⟨rfl, htaken⟩
  · cases hpoisoned

/-- Once the lock is spoiled nothing moves any more. -/
theorem OfLock.refusedSince {j k : Journal} (h : j.OfLock) (hfailure : .failure ∈ j.readings)
    {more : List (Nat × Move)} (hrun : j.run more = some k) : j.RefusedSince k := by
  have hspoiled : Spoiled j.arena.cell j.readings :=
    h.lock.resolve_left fun hclean => hclean.1.readings hfailure
  obtain ⟨last, hcell⟩ := hspoiled.cell
  refine invariant ?_ ⟨rfl, rfl, [], (List.append_nil _).symm, List.forall_mem_nil _⟩ hrun
  intro k caller m a result hrefused htakes
  exact hrefused.note h.idle hcell htakes

end Journal

/-! ### Everything that polls -/

section

variable {ω α β : Type}

/-- From a clean lock the computation has an aftermath. -/
def Honest (fault? : α → Option Fault) (c : StateT Generator (StateM (Watched ω)) α) : Prop :=
  Within c fun p a q => Clean p.1.cell (Deed.readings p.2.2) →
    Aftermath (fault? a) q.1.cell (Deed.readings q.2.2)

/-- What does not poll leaves the lock as it is. -/
abbrev Quiet (c : StateT Generator (StateM (Watched ω)) α) : Prop := Honest (fun _ => none) c

namespace Honest

variable {fault? : α → Option Fault} {other? : β → Option Fault}

/-- To give an answer has an aftermath, unless the answer tells of poison. -/
theorem pure {a : α} (h : fault? a ≠ some (.error .lockPoisoned)) :
    Honest (ω := ω) fault? (pure a) :=
  fun _ hclean => .clean hclean h

/-- An answer without a fault has an aftermath. -/
theorem pure_none {a : α} (h : fault? a = none) : Honest (ω := ω) fault? (Pure.pure a) := by
  refine .pure ?_
  rw [h]
  exact (Option.some_ne_none _).symm

/-- What comes next starts from a clean lock again, or from a panic. It has to
pass the panic on. -/
theorem bind {c : StateT Generator (StateM (Watched ω)) α}
    {f : α → StateT Generator (StateM (Watched ω)) β} (hc : Honest fault? c)
    (hf : ∀ a, fault? a ≠ some (.error .lockPoisoned) → Honest other? (f a))
    (hpanic : ∀ a, fault? a = some (.panic .clock) →
      ∃ b, f a = Pure.pure b ∧ other? b = some (.panic .clock)) :
    Honest other? (c >>= f) := by
  intro p hclean
  rw [answer_bind, after_bind]
  cases hc p hclean with
  | clean hafter hfault => exact hf _ hfault _ hafter
  | spoiled hafter hfault =>
      obtain ⟨b, hb, hother⟩ := hpanic _ hfault
      rw [hb]
      exact .spoiled hafter hother

/-- What does not poll may come before. -/
theorem after_quiet {c : StateT Generator (StateM (Watched ω)) α}
    {f : α → StateT Generator (StateM (Watched ω)) β} (hc : Quiet c)
    (hf : ∀ a, Honest other? (f a)) : Honest other? (c >>= f) := by
  refine hc.bind (fun a _ => hf a) ?_
  intro a hfault
  cases hfault

/-- To wrap an answer changes nothing, if the fault is the same. -/
theorem map {c : StateT Generator (StateM (Watched ω)) α} (hc : Honest fault? c) (f : α → β)
    (hf : ∀ a, other? (f a) = fault? a) : Honest other? (do return f (← c)) := by
  refine hc.bind ?_ ?_
  · intro a hfault
    rw [← hf] at hfault
    exact .pure hfault
  · intro a hfault
    rw [← hf] at hfault
    exact ⟨f a, rfl, hfault⟩

end Honest

/-- A deed that takes no reading leaves the lock alone. -/
theorem watch_quiet (deed : α → Deed) (hdeed : ∀ a, Deed.readings [deed a] = [])
    (c : StateM ω α) :
    Quiet (StateT.lift (watch deed c) : StateT Generator (StateM (Watched ω)) α) := by
  rintro ⟨g, w, notes⟩ hclean
  refine .clean ⟨hclean.cell, ?_⟩ (Option.some_ne_none _).symm
  show .failure ∉ Deed.readings (notes ++ [deed (c w).1])
  rw [Deed.readings_append, hdeed, List.append_nil]
  exact hclean.readings

/-- A poll has an aftermath. -/
theorem poll_honest (e : Surroundings ω) : Honest faultOf? e.watched.effects.poll := by
  rintro ⟨⟨worker, cell⟩, w, notes⟩ ⟨⟨last, hcell⟩, hreadings⟩
  obtain rfl : cell = .locked last false := hcell
  -- A lock has no swaps to fail.
  have hpoll : ∀ failures v, Generator.pollUnlucky e.watched.read failures
      ⟨worker, .locked last false⟩ v
        = Generator.pollWith e.watched.read ⟨worker, .locked last false⟩ v := by
    intro failures v
    cases failures <;> rfl
  have hrun : e.watched.effects.poll ⟨worker, .locked last false⟩ (w, notes)
      = Generator.pollWith e.watched.read ⟨worker, .locked last false⟩
          ((e.failures w).2, notes) :=
    hpoll _ _
  have haftermath := Cell.critical_aftermath hreadings last (e.read (e.failures w).2).1
  rw [answer, after, hrun]
  show Aftermath (faultOf? (Cell.critical last _).1) (Cell.critical last _).2
    (Deed.readings (notes ++ [.took (e.read (e.failures w).2).1]))
  rw [Deed.readings_append]
  exact haftermath

/-! ### A call -/

/-- The fault that a round ends the call with. -/
def Round.fault? : Round → Option Fault
  | .finished r => faultOf? r
  | .pausing _ => none

/-- The fault that a call ended with. -/
def callFault? (r : Option (Except Fault α)) : Option Fault := r.bind faultOf?

/-- A call that gives up reports the clock or the time it waited. -/
theorem Options.demand_honest (o : Options) (s : Status) {r : Except Error Flake}
    (h : o.demand s = .finish r) :
    faultOf? (r.mapError .error) ≠ some (.error .lockPoisoned) := by
  cases demands h with
  | ready | failing | tooFar => nofun

/-- Neither a pause nor the spent budget tells of poison. -/
theorem Options.settle_honest (o : Options) (b : Backoff) (waited : Duration) :
    (o.settle b waited).fault? ≠ some (.error .lockPoisoned) := by
  unfold settle
  cases hallow : o.allow waited b with
  | ok granted => nofun
  | error e =>
      cases allows hallow with
      | spent => nofun

section

variable {fx : Effects (StateT Generator (StateM (Watched ω)))}

/-- What a round does after its poll has an aftermath. -/
theorem afterPoll_honest (hinstant : Quiet fx.instant) (o : Options) (started : Option Instant)
    {r : PollResult} (hr : faultOf? r ≠ some (.error .lockPoisoned)) :
    Honest (fun a => a.1.fault?) (afterPoll fx o started r) := by
  cases r with
  | error f => exact .pure hr
  | ok status =>
      simp only [afterPoll]
      cases hdemand : o.demand status with
      | finish result => exact .pure (o.demand_honest status hdemand)
      | pause b =>
          have hstart : Quiet (started.elim fx.instant pure) := by
            cases started with
            | some t => exact .pure_none rfl
            | none => exact hinstant
          refine hstart.after_quiet fun start => hinstant.after_quiet fun now => ?_
          exact .pure (o.settle_honest b (now.since start))

/-- A round has an aftermath. -/
theorem round_honest (hpoll : Honest faultOf? fx.poll) (hinstant : Quiet fx.instant) (o : Options)
    (started : Option Instant) : Honest (fun a => a.1.fault?) (round fx o started) := by
  rw [round_eq]
  refine hpoll.bind ?_ ?_
  · intro r hr
    exact afterPoll_honest hinstant o started hr
  · intro r hr
    cases r with
    | ok status => cases hr
    | error f => exact ⟨_, rfl, hr⟩

/-- The loop of a call has an aftermath, over any pauses. -/
theorem callFrom_honest (hpoll : Honest faultOf? fx.poll) (hinstant : Quiet fx.instant)
    {pause : Backoff → StateT Generator (StateM (Watched ω)) Unit} (hpause : ∀ b, Quiet (pause b))
    (o : Options) (polls : Nat) (started : Option Instant) :
    Honest callFault? (callFrom fx pause o polls started) := by
  induction polls generalizing started with
  | zero => exact .pure_none rfl
  | succ polls ih =>
      refine (round_honest hpoll hinstant o started).bind ?_ ?_
      · rintro ⟨rd, started⟩ ha
        cases rd with
        | finished result => exact .pure ha
        | pausing b => exact (hpause b).after_quiet fun _ => ih started
      · -- A panic ends the call: no round pauses over it.
        rintro ⟨rd, started⟩ ha
        cases rd with
        | finished result => exact ⟨_, rfl, ha⟩
        | pausing b => cases ha

/-- A call whose first poll has a fault ends with it. -/
theorem callFrom_refused {g : Generator} {v : Watched ω} {f : Fault}
    (h : fx.poll g v = ((.error f, g), v))
    (pause : Backoff → StateT Generator (StateM (Watched ω)) Unit) (o : Options) (polls : Nat)
    (started : Option Instant) :
    callFrom fx pause o (polls + 1) started g v = ((some (.error f), g), v) := by
  have hround : round fx o started g v = ((((.finished (.error f), started), g)), v) := by
    rw [round_eq]
    show (afterPoll fx o started (fx.poll g v).1.1) (fx.poll g v).1.2 (fx.poll g v).2 = _
    rw [h]
    rfl
  simp only [callFrom, bind, StateT.bind, hround]
  rfl

end

/-! ### A request -/

/-- What is asked of a handle of a generator. -/
inductive Request (ω : Type)
  /-- A poll, or one of the calls. -/
  | call (c : Call ω)
  /-- To issue identifiers and write them. -/
  | mint (o : Options) (polls : Nat) (format : Format) (epoch : Duration) (count : Nat)

/-- What a request gives. -/
inductive Outcome
  | answered (a : Answer)
  | minted (r : Option (Except Failure Unit))

def Answer.fault? : Answer → Option Fault
  | .polled r => faultOf? r
  | .generated r => callFault? r
  | .generatedInt64 r => callFault? r

/-- The fault behind a failure. -/
def Cli.Failure.fault? : Failure → Option Fault
  | .generation e => some (.error e)
  | .panic p => some (.panic p)
  | _ => none

/-- The fault that minting ended with. -/
def mintFault? : Option (Except Failure α) → Option Fault
  | some (.error f) => f.fault?
  | some (.ok _) | none => none

def Outcome.fault? : Outcome → Option Fault
  | .answered a => a.fault?
  | .minted r => mintFault? r

namespace Call

/-- The call under the eyes of an onlooker. -/
def watched : Call ω → Call (Watched ω)
  | .poll => .poll
  | .generate o polls => .generate o polls
  | .generateInt64 o polls => .generateInt64 o polls
  | .generateAsync sleepFor o polls =>
    .generateAsync (fun d => watch (fun _ => .slept d) (sleepFor d)) o polls

/-- The answer to a call that a poisoned lock turns away. One that is followed
for no poll is still waiting. -/
def refusal : Call ω → Answer
  | .poll => .polled (.error (.error .lockPoisoned))
  | .generate _ 0 | .generateAsync _ _ 0 => .generated none
  | .generate _ (_ + 1) | .generateAsync _ _ (_ + 1) =>
    .generated (some (.error (.error .lockPoisoned)))
  | .generateInt64 _ 0 => .generatedInt64 none
  | .generateInt64 _ (_ + 1) => .generatedInt64 (some (.error (.error .lockPoisoned)))

end Call

namespace Request

/-- Does what is asked, under the eyes of an onlooker. -/
def perform (e : Surroundings ω) : Request ω → StateT Generator (StateM (Watched ω)) Outcome
  | .call c => return .answered (← c.watched.perform e.watched)
  | .mint o polls format epoch count =>
    return .minted (← Cli.mint e.watched.effects
      (fun text => StateT.lift (e.watched.machine.write text)) o polls format epoch count)

/-- What a request gives that a poisoned lock turns away. To issue nothing needs
no lock. -/
def refusal : Request ω → Outcome
  | .call c => .answered c.refusal
  | .mint _ _ _ _ 0 => .minted (some (.ok ()))
  | .mint _ 0 _ _ (_ + 1) => .minted none
  | .mint _ (_ + 1) _ _ (_ + 1) => .minted (some (.error (.generation .lockPoisoned)))

end Request

/-- The pauses of the blocking call do not poll. -/
theorem pause_quiet (e : Surroundings ω) (b : Backoff) : Quiet (e.watched.effects.block b) := by
  cases b with
  | spin yieldFor => exact watch_quiet (fun _ => .yielded) (fun _ => rfl) _
  | sleep d => exact watch_quiet (fun _ => .slept d) (fun _ => rfl) _

/-- The blocking call has an aftermath. -/
theorem generate_honest (e : Surroundings ω) (o : Options) (polls : Nat) :
    Honest callFault? (generate e.watched.effects o polls) := by
  rw [generate_eq]
  have hinstant := watch_quiet .looked (fun _ => rfl) e.machine.instant
  exact callFrom_honest (poll_honest e) hinstant (pause_quiet e) o polls none

/-- Every call has an aftermath. -/
theorem Call.perform_honest (e : Surroundings ω) (c : Call ω) :
    Honest Answer.fault? (c.watched.perform e.watched) := by
  cases c with
  | poll => exact (poll_honest e).map Answer.polled fun _ => rfl
  | generate o polls => exact (generate_honest e o polls).map Answer.generated fun _ => rfl
  | generateInt64 o polls =>
      have hint64 : Honest callFault? (Snowflake.generateInt64 e.watched.effects o polls) := by
        refine (generate_honest e o polls).map _ fun r => ?_
        rcases r with _ | _ | id
        · rfl
        · rfl
        · rfl
      exact hint64.map Answer.generatedInt64 fun _ => rfl
  | generateAsync sleepFor o polls =>
      have hasync : Honest callFault? (Snowflake.generateAsync e.watched.effects
          (fun d => StateT.lift (watch (fun _ => .slept d) (sleepFor d))) o polls) := by
        have hinstant := watch_quiet .looked (fun _ => rfl) e.machine.instant
        rw [generateAsync_eq]
        refine callFrom_honest (poll_honest e) hinstant ?_ o polls none
        intro b
        exact watch_quiet (fun _ => .slept b.length) (fun _ => rfl) _
      exact hasync.map Answer.generated fun _ => rfl

/-- A report passes on the fault of its call. -/
theorem mintFault?_reported (r : Option (Except Fault Flake)) :
    mintFault? (reported r) = callFault? r := by
  rcases r with _ | (e | p) | id
  · rfl
  · rfl
  · rfl
  · rfl

section

variable {call : StateT Generator (StateM (Watched ω)) (Option (Except Fault Flake))}
  {sleep : Duration → StateT Generator (StateM (Watched ω)) Unit}

/-- The calls for one identifier have an aftermath. -/
theorem mintOneWith_honest (hcall : Honest callFault? call) (hsleep : ∀ d, Quiet (sleep d))
    (retries : Nat) : Honest mintFault? (mintOneWith call sleep retries) := by
  induction retries with
  | zero => exact hcall.map reported mintFault?_reported
  | succ retries ih =>
      refine hcall.bind ?_ ?_
      · intro r hr
        cases hretried : retried? r with
        | none =>
            refine .pure ?_
            rw [mintFault?_reported]
            exact hr
        | some e => exact (hsleep (backoff e)).after_quiet fun _ => ih
      · -- A panic is not tried again.
        intro r hr
        -- The call has ended with it, so there is a report.
        obtain ⟨fault, rfl, hfault⟩ := Option.bind_eq_some_iff.mp hr
        cases fault with
        | ok id => cases hfault
        | error f =>
            cases hfault
            exact ⟨_, rfl, rfl⟩

/-- A run of `mintWith` has an aftermath. -/
theorem mintWith_honest (hcall : Honest callFault? call) (hsleep : ∀ d, Quiet (sleep d))
    {write : String → StateT Generator (StateM (Watched ω)) Unit}
    (hwrite : ∀ text, Quiet (write text)) (format : Format) (epoch : Duration) (count : Nat) :
    Honest mintFault? (mintWith call sleep write format epoch count) := by
  induction count with
  | zero => exact .pure_none rfl
  | succ count ih =>
      refine (mintOneWith_honest hcall hsleep maxRetries).bind ?_ ?_
      · intro r hr
        rcases r with _ | f | id
        · exact .pure_none rfl
        · exact .pure hr
        · exact (hwrite _).after_quiet fun _ => ih
      · intro r hr
        rcases r with _ | f | id
        · cases hr
        · exact ⟨_, rfl, hr⟩
        · cases hr

end

/-- Every request has an aftermath. -/
theorem Request.perform_honest (e : Surroundings ω) (q : Request ω) :
    Honest Outcome.fault? (q.perform e) := by
  cases q with
  | call c => exact (c.perform_honest e).map Outcome.answered fun _ => rfl
  | mint o polls format epoch count =>
      have hmint : Honest mintFault? (Cli.mint e.watched.effects
          (fun text => StateT.lift (e.watched.machine.write text)) o polls format epoch
          count) := by
        rw [mint_eq]
        refine mintWith_honest (generate_honest e o polls) ?_ ?_ format epoch count
        · intro d
          exact watch_quiet (fun _ => .slept d) (fun _ => rfl) _
        · intro text
          exact watch_quiet (fun _ => .wrote text) (fun _ => rfl) _
      exact hmint.map Outcome.minted fun _ => rfl

/-! ### Turned away -/

section

variable {fx : Effects (StateT Generator (StateM (Watched ω)))} {g : Generator} {v : Watched ω}

/-- A blocking call that is refused at its first poll ends with that. -/
theorem generate_refused (h : fx.poll g v = ((.error (.error .lockPoisoned), g), v)) (o : Options)
    (polls : Nat) :
    generate fx o (polls + 1) g v = ((some (.error (.error .lockPoisoned)), g), v) := by
  rw [generate_eq]
  exact callFrom_refused h _ o polls none

/-- A poisoned lock is no reason to try again. -/
theorem mint_refused (h : fx.poll g v = ((.error (.error .lockPoisoned), g), v))
    (write : String → StateT Generator (StateM (Watched ω)) Unit) (o : Options) (polls : Nat)
    (format : Format) (epoch : Duration) (count : Nat) :
    Cli.mint fx write o (polls + 1) format epoch (count + 1) g v
      = ((some (.error (.generation .lockPoisoned)), g), v) := by
  -- The error is none that another call may help against.
  have hone : mintOne fx o (polls + 1) maxRetries g v
      = ((some (.error (.generation .lockPoisoned)), g), v) := by
    simp only [maxRetries, mintOne, bind, StateT.bind, generate_refused h o polls]
    rfl
  simp only [Cli.mint, bind, StateT.bind, hone]
  rfl

end

/-- Every call that is refused at its first poll ends with that. -/
theorem Call.perform_refused {e : Surroundings ω} (c : Call ω) {g : Generator} {v : Watched ω}
    (h : e.watched.effects.poll g v = ((.error (.error .lockPoisoned), g), v)) :
    c.watched.perform e.watched g v = ((c.refusal, g), v) := by
  cases c with
  | poll =>
      simp only [watched, perform, bind, StateT.bind, h]
      rfl
  | generate o polls =>
      cases polls with
      | zero => rfl
      | succ polls =>
          simp only [watched, perform, bind, StateT.bind, generate_refused h o polls]
          rfl
  | generateInt64 o polls =>
      cases polls with
      | zero => rfl
      | succ polls =>
          simp only [watched, perform, Snowflake.generateInt64, bind, StateT.bind,
            generate_refused h o polls]
          rfl
  | generateAsync sleepFor o polls =>
      cases polls with
      | zero => rfl
      | succ polls =>
          simp only [watched, perform, generateAsync_eq, bind, StateT.bind,
            callFrom_refused h _ o polls none]
          rfl

/-- A request is turned away by a poisoned lock at once: nothing is read,
written or waited for. -/
theorem Request.perform_refused (q : Request ω) (mc : Machine (StateM ω))
    (clock : StateM ω Reading) (worker : WorkerId) (last : Flake) (v : Watched ω) :
    q.perform ⟨mc, clock, pure 0⟩ ⟨worker, .locked last true⟩ v
      = ((q.refusal, ⟨worker, .locked last true⟩), v) := by
  let e : Surroundings ω := ⟨mc, clock, pure 0⟩
  let g : Generator := ⟨worker, .locked last true⟩
  -- The lock is looked at before anything else.
  have hpoll : e.watched.effects.poll g v = ((.error (.error .lockPoisoned), g), v) := rfl
  cases q with
  | call c =>
      simp only [perform, bind, StateT.bind]
      rw [c.perform_refused hpoll]
      rfl
  | mint o polls format epoch count =>
      cases count with
      | zero => rfl
      | succ count =>
          cases polls with
          | zero => rfl
          | succ polls =>
              simp only [perform, bind, StateT.bind]
              rw [mint_refused hpoll _ o polls format epoch count]
              rfl

/-! ### A session over the handles of a lock -/

/-- A request through a handle. Handles of one generator share its cell. Each
has a worker number and a clock of its own, and so has a clone of it: nothing
happens to the cell when a handle is cloned. -/
structure Visit (ω : Type) where
  worker : WorkerId
  clock : StateM ω Reading
  machine : Machine (StateM ω)
  request : Request ω

namespace Visit

/-- Makes the request. A lock has no swaps that could fail. -/
def serve (q : Visit ω) : StateT Cell (StateM (Watched ω)) Outcome := fun cell v =>
  let ((outcome, g), v) := q.request.perform ⟨q.machine, q.clock, pure 0⟩ ⟨q.worker, cell⟩ v
  ((outcome, g.cell), v)

/-- Requests one after another. -/
def serveAll : List (Visit ω) → StateT Cell (StateM (Watched ω)) (List Outcome)
  | [] => return []
  | q :: visits => do
    let outcome ← q.serve
    let outcomes ← serveAll visits
    return outcome :: outcomes

/-- A request through a handle has an aftermath. -/
theorem serve_honest (q : Visit ω) {cell : Cell} {v : Watched ω}
    (h : Clean cell (Deed.readings v.2)) :
    let ((outcome, cell), v) := q.serve cell v
    Aftermath outcome.fault? cell (Deed.readings v.2) :=
  q.request.perform_honest _ (⟨q.worker, cell⟩, v) h

/-- A poisoned lock refuses a request at once. -/
theorem serve_refused (q : Visit ω) (last : Flake) (v : Watched ω) :
    q.serve (.locked last true) v = ((q.request.refusal, .locked last true), v) := by
  simp only [serve, q.request.perform_refused q.machine q.clock q.worker last v]

/-- A spoiled lock stays as it is, and so does the world, whatever is asked
for. -/
theorem serveAll_refused (visits : List (Visit ω)) (last : Flake) (v : Watched ω) :
    serveAll visits (.locked last true) v
      = ((visits.map fun q => q.request.refusal, .locked last true), v) := by
  induction visits with
  | nil => rfl
  | cons q visits ih =>
      simp only [serveAll, bind, StateT.bind, q.serve_refused last v, ih]
      rfl

/-- After any session the lock is clean, and nobody has been told that it is
poisoned, or it is spoiled. -/
theorem serveAll_cases (visits : List (Visit ω)) {cell : Cell} {v : Watched ω}
    (h : Clean cell (Deed.readings v.2)) :
    let ((outcomes, cell), v) := serveAll visits cell v
    (Clean cell (Deed.readings v.2) ∧ ∀ o ∈ outcomes, o.fault? ≠ some (.error .lockPoisoned)) ∨
      Spoiled cell (Deed.readings v.2) := by
  induction visits generalizing cell v with
  | nil => exact .inl ⟨h, List.forall_mem_nil _⟩
  | cons q visits ih =>
      have hfirst := q.serve_honest h
      rcases hserve : q.serve cell v with ⟨⟨outcome, next⟩, u⟩
      rw [hserve] at hfirst
      have hrun : serveAll (q :: visits) cell v
          = ((outcome :: (serveAll visits next u).1.1, (serveAll visits next u).1.2),
              (serveAll visits next u).2) := by
        simp only [serveAll, bind, StateT.bind, hserve]
        rfl
      rw [hrun]
      -- While the lock is clean the rest of the session decides. Later it cannot
      -- change anything.
      cases hfirst with
      | clean hclean hfault =>
          rcases ih hclean with ⟨hlast, houtcomes⟩ | hspoiled
          · exact .inl ⟨hlast, List.forall_mem_cons.mpr ⟨hfault, houtcomes⟩⟩
          · exact .inr hspoiled
      | spoiled hspoiled _ =>
          obtain ⟨last, rfl⟩ := hspoiled.cell
          rw [serveAll_refused visits last u]
          exact .inr hspoiled

end Visit

end

/-! ### A lock-free generator -/

/-- A poll to come: how often its swap fails for no reason, and what the clock
shows it, one reading after another. -/
structure Attempt where
  failures : Nat
  clock : Nat → Reading

/-- Polls without overlap. The first reading of the clock is number zero. -/
def Attempt.poll (t : Attempt) (g : Generator) : PollResult × Generator :=
  (Generator.pollUnlucky (fun i => (t.clock i, i + 1)) t.failures g 0).1

/-- The poll panicked. -/
def panicked : PollResult → Bool
  | .error (.panic _) => true
  | .error (.error _) | .ok _ => false

namespace Generator

/-- Polls one after another, each with a clock of its own. -/
def pollEach (g : Generator) : List Attempt → List PollResult × Generator
  | [] => ([], g)
  | t :: attempts =>
    let (result, next) := t.poll g
    let (results, last) := next.pollEach attempts
    (result :: results, last)

/-- A poll of a lock-free generator is never told of a poisoned lock, and a
panic leaves the word. -/
theorem poll_lockFree (worker : WorkerId) (last : Flake) (r : Reading) :
    ∃ result next, poll ⟨worker, .lockFree last⟩ r = (result, ⟨worker, .lockFree next⟩) ∧
      result ≠ .error (.error .lockPoisoned) ∧ (panicked result = true → next = last) := by
  simp only [poll, Cell.poll, Cell.exchange]
  cases r with
  | failure =>
      refine ⟨_, last, rfl, ?_, fun _ => rfl⟩
      intro hresult
      cases hresult
  | millis now =>
      rw [show judgeReading last (.millis now) = judge last now from rfl]
      rcases judge_cases last now with ⟨next, hjudge, -⟩ | ⟨-, -, hjudge⟩ | ⟨-, hjudge⟩ |
        ⟨-, hjudge⟩
      all_goals
        rw [hjudge]
        refine ⟨_, _, rfl, ?_, ?_⟩
        · intro hresult
          cases hresult
        · intro hpanicked
          cases hpanicked

end Generator

/-- A poll of a lock-free cell leaves a lock-free cell, also when its swaps
fail for no reason. -/
theorem Attempt.poll_lockFree (t : Attempt) (worker : WorkerId) (last : Flake) :
    ∃ result next, t.poll ⟨worker, .lockFree last⟩ = (result, ⟨worker, .lockFree next⟩) ∧
      result ≠ .error (.error .lockPoisoned) ∧ (panicked result = true → next = last) := by
  obtain ⟨r, hr⟩ := Generator.pollUnlucky_eq_poll (fun i => (t.clock i, i + 1)) t.failures
    (⟨worker, .lockFree last⟩, 0)
  obtain ⟨result, next, hpoll, hrest⟩ := Generator.poll_lockFree worker last r
  exact ⟨result, next, hr.trans hpoll, hrest⟩

/-- A poll that panics might as well not have been made. -/
theorem pollEach_returning (worker : WorkerId) (last : Flake) (attempts : List Attempt) :
    let g : Generator := ⟨worker, .lockFree last⟩
    let (results, h) := g.pollEach attempts
    let kept := (attempts.zip results).filter fun p => !panicked p.2
    (∀ r ∈ results, r ≠ .error (.error .lockPoisoned)) ∧
    (∃ next, h = ⟨worker, .lockFree next⟩) ∧
    g.pollEach (kept.map Prod.fst) = (results.filter fun r => !panicked r, h) := by
  induction attempts generalizing last with
  | nil => exact ⟨List.forall_mem_nil _, ⟨last, rfl⟩, rfl⟩
  | cons t attempts ih =>
      obtain ⟨result, next, hpoll, hresult, hpanic⟩ := t.poll_lockFree worker last
      obtain ⟨hresults, hlast, hkept⟩ := ih next
      simp only [Generator.pollEach, hpoll, List.zip_cons_cons]
      refine ⟨List.forall_mem_cons.mpr ⟨hresult, hresults⟩, hlast, ?_⟩
      cases hpanicked : panicked result with
      | true =>
          -- The next poll starts from the same word.
          obtain rfl := hpanic hpanicked
          simp only [List.filter_cons, hpanicked, Bool.not_true, Bool.false_eq_true, if_false]
          exact hkept
      | false =>
          simp only [List.filter_cons, hpanicked, Bool.not_false, if_true, List.map_cons,
            Generator.pollEach, hpoll, hkept]

/-! ### What a panic reaches -/

/-- First, take the lock of a locked generator that nobody has panicked with,
and any session over its handles: polls, calls and `mint`, each through any
handle, and so through any clone, with options, a machine and a clock of its
own. The lock is poisoned afterwards exactly when some reading of the clock was
a panic. When none was, nobody has been told of a poisoned lock, nor is whoever
comes next: if that one's clock panics, that is what it is told. When one was,
then whatever is asked for afterwards, and through whichever handle, the answer
is that the lock is poisoned. It comes at once. The cell stays as it is and so
does the world: no clock is read, nobody pauses, nothing is tried again or
written.

Second, the same goes for any number of callers that poll the lock at the same
time.

Third, take a lock-free generator, and any polls one after another, each with
readings of its own and with swaps that fail for no reason. No poll is told of
a poisoned lock, and one that panics leaves the generator as it was. The others
give the same results as if the polls that panicked had never been made, and
they leave the same generator. -/
theorem lock_poisoned_by_first_panic {ω : Type} (worker : WorkerId) (last : Flake) :
    (∀ (visits : List (Visit ω)) (w : ω),
      let ((outcomes, cell), (v, deeds)) := Visit.serveAll visits (.locked last false) (w, [])
      (cell.isPoisoned = true ↔ .failure ∈ Deed.readings deeds) ∧
      (.failure ∉ Deed.readings deeds →
        (∀ o ∈ outcomes, o.fault? ≠ some (.error .lockPoisoned)) ∧
        ∀ q : Visit ω,
          let ((outcome, _), (_, deeds)) := q.serve cell (v, deeds)
          outcome.fault? ≠ some (.error .lockPoisoned) ∧
          (.failure ∈ Deed.readings deeds → outcome.fault? = some (.panic .clock))) ∧
      (.failure ∈ Deed.readings deeds →
        ∀ more : List (Visit ω), Visit.serveAll more cell (v, deeds)
          = ((more.map fun q => q.request.refusal, cell), (v, deeds)))) ∧
    (∀ moves j, (Journal.start (.locked last false)).run moves = some j →
      (j.arena.cell.isPoisoned = true ↔ .failure ∈ j.readings) ∧
      (.failure ∉ j.readings → ∀ p ∈ j.polls, p.result ≠ .error (.error .lockPoisoned)) ∧
      (.failure ∈ j.readings →
        (∀ caller r, (j.step caller (.critical r)).isSome = true) ∧
        ∀ more k, j.run more = some k →
          k.arena = j.arena ∧ k.readings = j.readings ∧ ∃ later, k.polls = j.polls ++ later ∧
            ∀ p ∈ later, p.result = .error (.error .lockPoisoned) ∧ p.readings = [])) ∧
    ∀ attempts : List Attempt,
      let g : Generator := ⟨worker, .lockFree last⟩
      let (results, h) := g.pollEach attempts
      let kept := (attempts.zip results).filter fun p => !panicked p.2
      (∀ r ∈ results, r ≠ .error (.error .lockPoisoned)) ∧
      (∀ t : Attempt, panicked (t.poll h).1 = true → (t.poll h).2 = h) ∧
      g.pollEach (kept.map Prod.fst) = (results.filter fun r => !panicked r, h) := by
  refine ⟨fun visits w => ?_, fun moves j hj => ?_, fun attempts => ?_⟩
  · have hstart : Clean (.locked last false) (Deed.readings (w, ([] : List Deed)).2) :=
      ⟨⟨last, rfl⟩, List.not_mem_nil⟩
    -- After the session the lock is clean or spoiled, and either settles all
    -- that comes.
    have hcases := Visit.serveAll_cases visits hstart
    rcases hrun : Visit.serveAll visits (.locked last false) (w, [])
      with ⟨⟨outcomes, cell⟩, v, deeds⟩
    rw [hrun] at hcases
    rcases hcases with ⟨hclean, houtcomes⟩ | hspoiled
    · obtain ⟨now, rfl⟩ := hclean.cell
      refine ⟨iff_of_false Bool.false_ne_true hclean.readings,
        fun _ => ⟨houtcomes, fun q => ?_⟩, fun hfailure => absurd hfailure hclean.readings⟩
      cases q.serve_honest hclean with
      | clean hafter hfault => exact ⟨hfault, fun hfailure => absurd hfailure hafter.readings⟩
      | spoiled hafter hfault =>
          refine ⟨?_, fun _ => hfault⟩
          rw [hfault]
          intro hpoisoned
          cases hpoisoned
    · obtain ⟨now, rfl⟩ := hspoiled.cell
      exact ⟨iff_of_true rfl hspoiled.readings, fun hfailure => absurd hspoiled.readings hfailure,
        fun _ more => Visit.serveAll_refused more now (v, deeds)⟩
  · -- The same two cases, for callers that overlap.
    have hlock := Journal.ofLock_run hj
    rcases hlock.lock with ⟨hclean, hpolls⟩ | hspoiled
    · obtain ⟨now, hcell⟩ := hclean.cell
      rw [hcell]
      exact ⟨iff_of_false Bool.false_ne_true hclean.readings, fun _ => hpolls,
        fun hfailure => absurd hfailure hclean.readings⟩
    · obtain ⟨now, hcell⟩ := hspoiled.cell
      rw [hcell]
      refine ⟨iff_of_true rfl hspoiled.readings, fun hfailure => absurd hspoiled.readings hfailure,
        fun hfailure => ⟨fun caller r => ?_, fun more k hk => ?_⟩⟩
      · rw [Journal.step, Arena.step_of_takes (.refused hcell (hlock.idle caller))]
        rfl
      · obtain ⟨harena, hreadings, hlater⟩ := hlock.refusedSince hfailure hk
        exact ⟨harena, hreadings, hlater⟩
  · obtain ⟨hresults, ⟨next, hlast⟩, hkept⟩ := pollEach_returning worker last attempts
    refine ⟨hresults, fun t hpanicked => ?_, hkept⟩
    obtain ⟨result, after, hpoll, -, hpanic⟩ := t.poll_lockFree worker next
    rw [hlast, hpoll] at hpanicked ⊢
    rw [hpanic hpanicked]

end Snowflake
