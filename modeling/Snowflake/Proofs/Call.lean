import Snowflake.Generate

/-!
# `Snowflake.Proofs.Call`: a call in terms of its polls

A call is a loop of rounds. `Options.Demands` and `Options.Allows` list all that
the rule about pauses may decide, and the proofs about calls go through these
lists. A round polls once, and its outcome depends on the result of the poll
alone, but for the choice between a pause and an error (`Round.After`).
`round_ends` is this case analysis, made once.

The blocking and the asynchronous call are the same loop with different pauses
(`callFrom`). `callFrom_ends` is the one induction over the rounds of a call:
what holds of a call that has just begun, and is carried back over a round,
holds of the whole call.

Statements are about effects that own a state and act on a world. `Ends c P`
says that from every state and every world `c` gives an answer and leaves a
state that `P` relates to the state before. Between its polls a call looks at
the stopwatch and pauses. A generator that it owns stays as it is then, and one
that others use may not: `Meanwhile` leaves it open what happens.
-/

set_option autoImplicit false

namespace Snowflake

/-- Whatever state and world it starts from, the computation ends in a way that
`P` allows: the state before, the answer, the state after. -/
def Ends {σ ω α : Type} (c : StateT σ (StateM ω) α) (P : σ → α → σ → Prop) : Prop :=
  ∀ s w, P s (c s w).1.1 (c s w).1.2

namespace Ends

variable {σ ω α β : Type} {P : σ → α → σ → Prop}

/-- A computation that does nothing ends at once, with its state as it was. -/
theorem pure {a : α} (h : ∀ s, P s a s) : Ends (pure a : StateT σ (StateM ω) α) P :=
  fun s _ => h s

/-- The second computation is told what the first has done. -/
theorem bind {c : StateT σ (StateM ω) α} {f : α → StateT σ (StateM ω) β} {Q : σ → β → σ → Prop}
    (hc : Ends c P) (hf : ∀ a, Ends (f a) fun s b t => ∀ start, P start a s → Q start b t) :
    Ends (c >>= f) Q :=
  fun s w => hf _ _ _ s (hc s w)

/-- A computation that ends in one way also ends in any way that this one
implies. -/
theorem mono {c : StateT σ (StateM ω) α} {Q : σ → α → σ → Prop} (hc : Ends c P)
    (h : ∀ s a t, P s a t → Q s a t) : Ends c Q :=
  fun s w => h _ _ _ (hc s w)

/-- What acts on the world alone leaves the state. -/
theorem lift (c : StateM ω α) :
    Ends (StateT.lift c : StateT σ (StateM ω) α) fun s _ t => t = s :=
  fun _ _ => rfl

end Ends

/-! ### One round -/

namespace Options

/-- All that a status may ask for under the options. -/
inductive Demands (o : Options) : Status → Demand → Prop
  | ready (id : Flake) : Demands o (.ready id) (.finish (.ok id))
  | pending (yieldFor : Nat) : Demands o (.pending yieldFor) (.pause (.spin (.ofMillis yieldFor)))
  /-- The policy waits for no drift. -/
  | failing (drift : Nat) (hpolicy : o.driftPolicy = .fail) :
      Demands o (.behind drift) (.finish (.error (.clockMovedBackward drift)))
  /-- The policy does not wait for this drift. -/
  | tooFar (drift : Nat) {maxDrift : Duration} (hpolicy : o.driftPolicy = .wait maxDrift)
      (hdrift : maxDrift < .ofMillis drift) :
      Demands o (.behind drift) (.finish (.error (.clockMovedBackward drift)))
  /-- The policy waits for it. -/
  | behind (drift : Nat) {maxDrift : Duration} (hpolicy : o.driftPolicy = .wait maxDrift)
      (hdrift : .ofMillis drift ≤ maxDrift) :
      Demands o (.behind drift) (.pause (.sleep (.ofMillis drift)))

/-- All that may become of a pause that is asked for after so much waiting. -/
inductive Allows (o : Options) (waited : Duration) : Backoff → Except Error Backoff → Prop
  /-- The budget is spent. -/
  | spent (b : Backoff) (hspent : o.maxWait ≤ waited) :
      Allows o waited b (.error (.generationTimeout waited))
  | spin (yieldFor : Duration) (hunspent : waited < o.maxWait) :
      Allows o waited (.spin yieldFor) (.ok (.spin yieldFor))
  | sleep (d : Duration) (hunspent : waited < o.maxWait) :
      Allows o waited (.sleep d) (.ok (.sleep (min d (o.maxWait - waited))))

/-- The list is complete: what the rule asks for stands in `Demands`. -/
theorem demands {o : Options} {s : Status} {d : Demand} (h : o.demand s = d) : o.Demands s d := by
  subst h
  -- One case for each status; a drift is looked up in the policy.
  cases s with
  | ready id => exact .ready id
  | pending yieldFor => exact .pending yieldFor
  | behind drift =>
      simp only [demand]
      split
      · rename_i hpolicy
        exact .failing drift hpolicy
      · rename_i maxDrift hpolicy
        split
        · rename_i hfar
          exact .tooFar drift hpolicy hfar
        · rename_i hnear
          exact .behind drift hpolicy (Nat.le_of_not_lt hnear)

/-- The list is complete: what becomes of a pause stands in `Allows`. -/
theorem allows {o : Options} {waited : Duration} {b : Backoff} {r : Except Error Backoff}
    (h : o.allow waited b = r) : o.Allows waited b r := by
  subst h
  unfold allow
  split
  · rename_i hspent
    exact .spent b hspent
  · rename_i hunspent
    cases b with
    | spin yieldFor => exact .spin yieldFor (Nat.lt_of_not_le hunspent)
    | sleep d => exact .sleep d (Nat.lt_of_not_le hunspent)

/-- A status ends the call with its identifier, or there is none, and it ends
the call with an error or asks for a pause. -/
theorem demand_cases (o : Options) (s : Status) :
    (∃ id, s = .ready id ∧ o.demand s = .finish (.ok id)) ∨
    (s.isReady = false ∧
      ((∃ e, o.demand s = .finish (.error e)) ∨ ∃ b, o.demand s = .pause b)) := by
  cases hdemand : o.demand s with
  | finish r =>
      cases demands hdemand with
      | ready id => exact .inl ⟨id, rfl, rfl⟩
      | failing | tooFar => exact .inr ⟨rfl, .inl ⟨_, rfl⟩⟩
  | pause b =>
      cases demands hdemand with
      | pending | behind => exact .inr ⟨rfl, .inr ⟨_, rfl⟩⟩

end Options

/-- How a round may go on from the result of its poll. -/
inductive Round.After : PollResult → Round → Prop
  /-- The fault of the poll ends the call. -/
  | fault (f : Fault) : After (.error f) (.finished (.error f))
  /-- So does its identifier. -/
  | ready (id : Flake) : After (.ok (.ready id)) (.finished (.ok id))
  /-- A drift that is not waited for, or a budget that is spent. -/
  | givenUp {s : Status} (hs : s.isReady = false) (e : Error) :
      After (.ok s) (.finished (.error (.error e)))
  /-- The call pauses. -/
  | pausing {s : Status} (hs : s.isReady = false) (b : Backoff) : After (.ok s) (.pausing b)

section

variable {σ ω : Type} {fx : Effects (StateT σ (StateM ω))}

/-- A pause is granted, or the spent budget ends the call. -/
def Options.settle (o : Options) (b : Backoff) (waited : Duration) : Round :=
  match o.allow waited b with
  | .error e => .finished (.error (.error e))
  | .ok b => .pausing b

/-- Either way the round is one that may follow a poll without an identifier. -/
theorem Options.settle_after (o : Options) {s : Status} (hs : s.isReady = false) (b : Backoff)
    (waited : Duration) : Round.After (.ok s) (o.settle b waited) := by
  unfold settle
  cases o.allow waited b with
  | error e => exact .givenUp hs e
  | ok b => exact .pausing hs b

/-- What a round does once it has polled. It looks at the stopwatch only when a
pause is asked for. -/
def afterPoll (fx : Effects (StateT σ (StateM ω))) (o : Options) (started : Option Instant) :
    PollResult → StateT σ (StateM ω) (Round × Option Instant)
  | .error f => return (.finished (.error f), started)
  | .ok status =>
    match o.demand status with
    | .finish r => return (.finished (r.mapError .error), started)
    | .pause b => do
      let start ← started.elim fx.instant pure
      let now ← fx.instant
      return (o.settle b (now.since start), some start)

/-- A round is a poll and what is done after it. -/
theorem round_eq (fx : Effects (StateT σ (StateM ω))) (o : Options) (started : Option Instant) :
    round fx o started = fx.poll >>= afterPoll fx o started := by
  -- From the second look on, both spell out what becomes of the pause.
  have hsettle : ∀ (start : Instant) (b : Backoff),
      (fx.instant >>= fun now =>
        match o.allow (now.since start) b with
        | .error e => pure (Round.finished (.error (.error e)), some start)
        | .ok b => pure (Round.pausing b, some start))
        = fx.instant >>= fun now => pure (o.settle b (now.since start), some start) := by
    intro start b
    refine congrArg (fx.instant >>= ·) (funext fun now => ?_)
    unfold Options.settle
    cases o.allow (now.since start) b <;> rfl
  unfold round
  refine congrArg (fx.poll >>= ·) (funext fun r => ?_)
  cases r with
  | error f => rfl
  | ok status =>
      simp only [afterPoll]
      cases o.demand status with
      | finish r => rfl
      | pause b =>
          cases started with
          -- The budget runs already, or the round looks for its start first.
          | some t => exact hsettle t b
          | none => exact congrArg (fx.instant >>= ·) (funext fun start => hsettle start b)

variable {N : σ → σ → Prop}

/-- What the state may become between two polls is a relation that holds over
any number of looks at the stopwatch and pauses. -/
structure Meanwhile (N : σ → σ → Prop) : Prop where
  refl : ∀ s, N s s
  trans : ∀ s t u, N s t → N t u → N s u

/-- A generator that nobody else uses stays as it is between two polls. -/
theorem Meanwhile.eq : Meanwhile (σ := σ) fun s t => t = s :=
  ⟨fun _ => rfl, fun _ _ _ h g => g.trans h⟩

/-- What a round does after its poll changes only what changes meanwhile, and
its outcome is in the list for the result of the poll. -/
theorem afterPoll_ends (hN : Meanwhile N) (hinstant : Ends fx.instant fun s _ t => N s t)
    (o : Options) (started : Option Instant) (r : PollResult) :
    Ends (afterPoll fx o started r) fun s p t => N s t ∧ Round.After r p.1 := by
  cases r with
  | error f => exact .pure fun s => ⟨hN.refl s, .fault f⟩
  | ok status =>
      simp only [afterPoll]
      rcases o.demand_cases status with ⟨id, rfl, hdemand⟩ | ⟨hs, ⟨e, hdemand⟩ | ⟨b, hdemand⟩⟩
      · rw [hdemand]
        exact .pure fun s => ⟨hN.refl s, .ready id⟩
      · rw [hdemand]
        exact .pure fun s => ⟨hN.refl s, .givenUp hs e⟩
      · rw [hdemand]
        -- Two looks at the stopwatch at most: for the start, and for the time
        -- now.
        have hstart : Ends (started.elim fx.instant pure) fun s _ t => N s t := by
          cases started with
          | some t => exact .pure hN.refl
          | none => exact hinstant
        refine hstart.bind fun start => hinstant.bind fun now => .pure ?_
        intro u t htu s hst
        exact ⟨hN.trans s t u hst htu, o.settle_after hs b _⟩

/-- A round changes what its poll changes, and what happens meanwhile. -/
theorem round_ends {P : σ → PollResult → σ → Prop} (hpoll : Ends fx.poll P) (hN : Meanwhile N)
    (hinstant : Ends fx.instant fun s _ t => N s t) (o : Options) (started : Option Instant) :
    Ends (round fx o started) fun s p u => ∃ r t, P s r t ∧ N t u ∧ Round.After r p.1 := by
  rw [round_eq]
  refine hpoll.bind fun r => (afterPoll_ends hN hinstant o started r).mono ?_
  rintro t p u ⟨hmeanwhile, hafter⟩ s h
  exact ⟨r, t, h, hmeanwhile, hafter⟩

/-! ### All rounds -/

/-- A call that pauses as `pause` says. -/
def callFrom (fx : Effects (StateT σ (StateM ω))) (pause : Backoff → StateT σ (StateM ω) Unit)
    (o : Options) : Nat → Option Instant → StateT σ (StateM ω) (Option (Except Fault Flake))
  | 0, _ => return none
  | polls + 1, started => do
    match ← round fx o started with
    | (.finished r, _) => return some r
    | (.pausing b, started) =>
      pause b
      callFrom fx pause o polls started

/-- The pause of the blocking call. -/
def Effects.block (fx : Effects (StateT σ (StateM ω))) : Backoff → StateT σ (StateM ω) Unit
  | .spin _ => fx.yield
  | .sleep d => fx.sleep d

/-- The blocking call is the loop that blocks in its pauses. -/
theorem generateFrom_eq (fx : Effects (StateT σ (StateM ω))) (o : Options) (polls : Nat)
    (started : Option Instant) :
    generateFrom fx o polls started = callFrom fx fx.block o polls started := by
  induction polls generalizing started with
  | zero => rfl
  | succ polls ih =>
      simp only [generateFrom, callFrom]
      congr 1
      funext p
      obtain ⟨rd, started⟩ := p
      cases rd with
      | finished r => rfl
      | pausing b => cases b <;> simp only [Effects.block, ih]

/-- The asynchronous call is the loop that sleeps in its pauses, for spins and
sleeps alike. -/
theorem generateAsyncFrom_eq (fx : Effects (StateT σ (StateM ω)))
    (sleepFor : Duration → StateT σ (StateM ω) Unit) (o : Options) (polls : Nat)
    (started : Option Instant) :
    generateAsyncFrom fx sleepFor o polls started
      = callFrom fx (fun b => sleepFor b.length) o polls started := by
  induction polls generalizing started with
  | zero => rfl
  | succ polls ih =>
      simp only [generateAsyncFrom, callFrom]
      congr 1
      funext p
      obtain ⟨rd, started⟩ := p
      cases rd with
      | finished r => rfl
      | pausing b => simp only [ih]

/-- So a blocking call is the loop with no start of the budget yet. -/
theorem generate_eq (fx : Effects (StateT σ (StateM ω))) (o : Options) (polls : Nat) :
    generate fx o polls = callFrom fx fx.block o polls none :=
  generateFrom_eq fx o polls none

/-- An asynchronous call is the loop with its own pauses. -/
theorem generateAsync_eq (fx : Effects (StateT σ (StateM ω)))
    (sleepFor : Duration → StateT σ (StateM ω) Unit) (o : Options) (polls : Nat) :
    generateAsync fx sleepFor o polls = callFrom fx (fun b => sleepFor b.length) o polls none :=
  generateAsyncFrom_eq fx sleepFor o polls none

/-- What a call has to keep from its end back to its beginning. -/
structure Carried (P : σ → PollResult → σ → Prop) (N : σ → σ → Prop)
    (Q : σ → Option (Except Fault Flake) → σ → Prop) : Prop where
  /-- The call is still waiting. -/
  waiting : ∀ s, Q s none s
  /-- A poll ends the call. -/
  finished : ∀ s r t u result, P s r t → N t u → Round.After r (.finished result) →
    Q s (some result) u
  /-- A poll and a pause come before the rest of the call. -/
  pausing : ∀ s r t b u result v, P s r t → Round.After r (.pausing b) → N t u → Q u result v →
    Q s result v

/-- By induction on the rounds: what is carried back over one round holds of
the whole call. -/
theorem callFrom_ends {P : σ → PollResult → σ → Prop}
    {Q : σ → Option (Except Fault Flake) → σ → Prop} (hpoll : Ends fx.poll P) (hN : Meanwhile N)
    (hinstant : Ends fx.instant fun s _ t => N s t)
    {pause : Backoff → StateT σ (StateM ω) Unit} (hpause : ∀ b, Ends (pause b) fun s _ t => N s t)
    (hcarried : Carried P N Q) (o : Options) (polls : Nat) (started : Option Instant) :
    Ends (callFrom fx pause o polls started) Q := by
  induction polls generalizing started with
  | zero => exact .pure hcarried.waiting
  | succ polls ih =>
      -- The round comes first; the induction hypothesis is about what remains
      -- of the call.
      refine (round_ends hpoll hN hinstant o started).bind fun p => ?_
      obtain ⟨rd, started⟩ := p
      cases rd with
      | finished result =>
          refine .pure ?_
          rintro u s ⟨r, t, hr, hmeanwhile, hafter⟩
          exact hcarried.finished s r t u result hr hmeanwhile hafter
      | pausing b =>
          refine (hpause b).bind fun _ => (ih started).mono ?_
          rintro v result w hrest u hnap s ⟨r, t, hr, hmeanwhile, hafter⟩
          exact hcarried.pausing s r t b v result w hr hafter (hN.trans t u v hmeanwhile hnap) hrest

end

end Snowflake
