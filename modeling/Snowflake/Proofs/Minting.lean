import Snowflake.Cli.Run
import Snowflake.Proofs.Lines
import Snowflake.Proofs.Records
import Snowflake.Proofs.Sequential
import Snowflake.Proofs.Watched

/-!
# `Snowflake.Proofs.Minting`: every identifier that is issued is written

`mint` issues identifiers and writes each on a line. Between the two stand
three loops: over the identifiers, over the calls for one of them, and over the
polls of a call. Each of them may end early. `mint_writes_issued` shows that
the text holds all identifiers that were issued on the way, and no others, each
on a line that shows it in the chosen format.

`Does ids calls texts p q` is the account of a part of the run: which
identifiers were issued in it, how its calls ended, which texts were written.
It is kept by polls (`poll_does`), calls (`generate_does`), the calls for one
identifier (`mintOneWith_does`) and all of `mint` (`mintWith_does`). Accounts
of parts that follow each other add up (`Does.trans`).

The onlooker has to see where a call ends, and a call is no effect. `mintWith`
is `mint` over any call, and is given one that the onlooker is told of.
-/

set_option autoImplicit false

namespace Snowflake

open Cli

/-! ### Accounts -/

section

variable {ω : Type}

/-- What was done between two moments of a run: these identifiers were issued,
calls ended like this, and these texts were written. -/
structure Does (ids : List Flake) (calls : List (Option (Except Fault Flake)))
    (texts : List String) (p q : Generator × Watched ω) : Prop where
  issues : Issues p.1.cell.last ids q.1.cell.last
  issued : Deed.issued q.2.2 = Deed.issued p.2.2 ++ ids
  calls : Deed.calls q.2.2 = Deed.calls p.2.2 ++ calls
  texts : Deed.texts q.2.2 = Deed.texts p.2.2 ++ texts

/-- When nothing is done there is nothing to account for. -/
theorem Does.refl (p : Generator × Watched ω) : Does [] [] [] p p :=
  ⟨.none _, (List.append_nil _).symm, (List.append_nil _).symm, (List.append_nil _).symm⟩

/-- The accounts of two parts that follow each other add up. -/
theorem Does.trans {ids ids' : List Flake} {calls calls' : List (Option (Except Fault Flake))}
    {texts texts' : List String} {p q r : Generator × Watched ω} (h : Does ids calls texts p q)
    (h' : Does ids' calls' texts' q r) :
    Does (ids ++ ids') (calls ++ calls') (texts ++ texts') p r where
  issues := h.issues.append h'.issues
  issued := by rw [h'.issued, h.issued, List.append_assoc]
  calls := by rw [h'.calls, h.calls, List.append_assoc]
  texts := by rw [h'.texts, h.texts, List.append_assoc]

/-- A deed leaves the generator alone. What it adds to the notes is all there
is to its account. -/
theorem watch_does {α : Type} (deed : α → Deed) (c : StateM ω α)
    (calls : α → List (Option (Except Fault Flake))) (texts : List String)
    (hissued : ∀ a, Deed.issued [deed a] = []) (hcalls : ∀ a, Deed.calls [deed a] = calls a)
    (htexts : ∀ a, Deed.texts [deed a] = texts) :
    Within (StateT.lift (watch deed c) : StateT Generator (StateM (Watched ω)) α)
      fun p a q => Does [] (calls a) texts p q := by
  rintro ⟨g, w, notes⟩
  refine ⟨.none _, ?_, ?_, ?_⟩
  · show Deed.issued (notes ++ [deed (c w).1]) = Deed.issued notes ++ []
    rw [Deed.issued_append, hissued]
  · show Deed.calls (notes ++ [deed (c w).1]) = Deed.calls notes ++ calls (c w).1
    rw [Deed.calls_append, hcalls]
  · show Deed.texts (notes ++ [deed (c w).1]) = Deed.texts notes ++ texts
    rw [Deed.texts_append, htexts]

/-- The readings of a poll are no part of an account. -/
theorem poll_does (e : Surroundings ω) :
    Within e.watchedEffects.poll fun p r q => Does (issued? r).toList [] [] p q := by
  intro p
  obtain ⟨taken, hnotes⟩ := e.poll_notes p
  obtain ⟨r, hr⟩ := e.watched.poll_eq_poll p
  have hissues := p.1.poll_issues r
  rw [hr] at hissues
  refine ⟨hissues, ?_, ?_, ?_⟩
  · rw [hnotes, Deed.issued_append, Deed.issued_append, Deed.issued_took, Deed.issued_polled,
      List.append_nil]
  · rw [hnotes, Deed.calls_append, Deed.calls_append, Deed.calls_took, List.append_nil]
    exact List.append_nil _
  · rw [hnotes, Deed.texts_append, Deed.texts_append, Deed.texts_took, List.append_nil]
    exact List.append_nil _

/-- A call issues the identifier that it returns, and no other. -/
theorem generate_does (e : Surroundings ω) (o : Options) (polls : Nat) :
    Within (generate e.watchedEffects o polls) fun p r q =>
      Does (returned? r).toList [] [] p q := by
  -- Looks and pauses have an empty account, and empty accounts add up to one.
  have hnothing : Meanwhile (σ := Generator × Watched ω) (Does [] [] []) :=
    ⟨Does.refl, fun _ _ _ h h' => h.trans h'⟩
  have hquiet : ∀ {α : Type} (deed : α → Deed) (c : StateM ω α),
      (∀ a, Deed.issued [deed a] = []) → (∀ a, Deed.calls [deed a] = []) →
      (∀ a, Deed.texts [deed a] = []) →
      Within (StateT.lift (watch deed c) : StateT Generator (StateM (Watched ω)) α)
        fun p _ q => Does [] [] [] p q :=
    fun deed c hissued hcalls htexts => watch_does deed c (fun _ => []) [] hissued hcalls htexts
  rw [generate_eq]
  have hpending : ∀ p, PendingOne (answer e.watchedEffects.poll p) := e.watched.poll_pendingOne
  refine callFrom_within hpending (poll_does e) hnothing ?_ ?_ ?_ o polls none
  · exact hquiet _ _ (fun _ => rfl) (fun _ => rfl) (fun _ => rfl)
  · intro b
    cases b with
    | spin yieldFor =>
        exact hquiet (fun _ => .yielded) _ (fun _ => rfl) (fun _ => rfl) (fun _ => rfl)
    | sleep d =>
        exact hquiet (fun _ => .slept d) _ (fun _ => rfl) (fun _ => rfl) (fun _ => rfl)
  · refine ⟨Does.refl, ?_, ?_⟩
    · intro p r t q result hpoll hmeanwhile hafter
      have hdoes := hpoll.trans hmeanwhile
      rw [← hafter.returned?, List.append_nil] at hdoes
      exact hdoes
    · intro p r t b u result q hpoll hafter hmeanwhile hrest
      -- A round that pauses has issued nothing.
      rw [hafter.issued?] at hpoll
      exact (hpoll.trans hmeanwhile).trans hrest

end

/-! ### The calls for one identifier -/

namespace Cli

section

variable {m : Type → Type} [Monad m]

/-- The error that a call is made again for. -/
def retried? : Option (Except Fault Flake) → Option Error
  | some (.error (.error e)) => if e.isRetryable then some e else none
  | some (.error (.panic _)) | some (.ok _) | none => none

/-- What is reported of a call. -/
def reported (r : Option (Except Fault Flake)) : Option (Except Failure Flake) :=
  r.map fun r => r.mapError .ofFault

/-- `mintOne` over any call. -/
def mintOneWith (call : m (Option (Except Fault Flake))) (sleep : Duration → m Unit) :
    Nat → m (Option (Except Failure Flake))
  | 0 => return reported (← call)
  | retries + 1 => do
    let r ← call
    match retried? r with
    | none => return reported r
    | some e =>
      sleep (backoff e)
      mintOneWith call sleep retries

/-- `mint` over any call. -/
def mintWith (call : m (Option (Except Fault Flake))) (sleep : Duration → m Unit)
    (write : String → m Unit) (format : Format) (epoch : Duration) :
    Nat → m (Option (Except Failure Unit))
  | 0 => return some (.ok ())
  | count + 1 => do
    match ← mintOneWith call sleep maxRetries with
    | none => return none
    | some (.error f) => return some (.error f)
    | some (.ok id) =>
      write (format.line epoch id ++ "\n")
      mintWith call sleep write format epoch count

/-- The calls for one identifier, with the call taken out. -/
theorem mintOne_eq (fx : Effects m) (o : Options) (polls retries : Nat) :
    mintOne fx o polls retries = mintOneWith (generate fx o polls) fx.sleep retries := by
  induction retries with
  | zero => rfl
  | succ retries ih =>
      simp only [mintOne, mintOneWith]
      refine congrArg (generate fx o polls >>= ·) (funext fun r => ?_)
      -- Only an error may lead to another call.
      rcases r with _ | (e | p) | id
      · rfl
      · cases hretry : e.isRetryable with
        | true => simp only [retried?, hretry, if_true, ih]
        | false =>
            simp only [retried?, hretry, Bool.false_eq_true, if_false]
            rfl
      · rfl
      · rfl

/-- `mint` is `mintWith` over the blocking call. -/
theorem mint_eq (fx : Effects m) (write : String → m Unit) (o : Options) (polls : Nat)
    (format : Format) (epoch : Duration) (count : Nat) :
    mint fx write o polls format epoch count
      = mintWith (generate fx o polls) fx.sleep write format epoch count := by
  induction count with
  | zero => rfl
  | succ count ih =>
      simp only [mint, mintWith, mintOne_eq]
      refine congrArg (mintOneWith (generate fx o polls) fx.sleep maxRetries >>= ·)
        (funext fun r => ?_)
      rcases r with _ | f | id
      · rfl
      · rfl
      · simp only [ih]

end

/-- The calls for one identifier: the errors that led to another call, and how
the last call ended. -/
structure Tries where
  retried : List Error
  last : Option (Except Fault Flake)

/-- How all of them ended. -/
def Tries.calls (t : Tries) : List (Option (Except Fault Flake)) :=
  t.retried.map (fun e => some (.error (.error e))) ++ [t.last]

/-- With so many retries these calls may be made. -/
structure Tries.Allowed (retries : Nat) (t : Tries) : Prop where
  retryable : ∀ e ∈ t.retried, e.isRetryable = true
  length_le : t.retried.length ≤ retries
  /-- A call is not made again only when there are no retries left, or when
  another one is no use. -/
  spent : ∀ e, t.last = some (.error (.error e)) → e.isRetryable = true →
    t.retried.length = retries

/-- There is one call more than errors that led to another one. -/
theorem Tries.length_calls (t : Tries) : t.calls.length = t.retried.length + 1 := by
  rw [calls, List.length_append, List.length_map]
  rfl

/-- The last call failed for a reason that does not pass, or it was the last one
that may be made. -/
theorem Tries.Allowed.final_or_spent {retries : Nat} {t : Tries} (h : t.Allowed retries)
    {e : Error} (hlast : t.last = some (.error (.error e))) :
    e.isRetryable = false ∨ t.calls.length = retries + 1 := by
  cases hretry : e.isRetryable with
  | false => exact .inl rfl
  | true =>
      refine .inr ?_
      rw [t.length_calls, h.spent e hlast hretry]

/-- A call is made again only after an error that may pass. -/
theorem retried?_eq_some {r : Option (Except Fault Flake)} {e : Error} (h : retried? r = some e) :
    r = some (.error (.error e)) ∧ e.isRetryable = true := by
  rcases r with _ | (found | p) | id
  · cases h
  · simp only [retried?] at h
    split at h
    · rename_i hretry
      cases h
      exact ⟨rfl, hretry⟩
    · cases h
  · cases h
  · cases h

/-- Nothing is reported only of a call that is still waiting. -/
theorem reported_eq_none {r : Option (Except Fault Flake)} (h : none = reported r) : r = none := by
  cases r with
  | none => rfl
  | some r => cases h

/-- A failure is reported of a call that ended with a fault. -/
theorem reported_eq_error {r : Option (Except Fault Flake)} {f : Failure}
    (h : some (.error f) = reported r) : ∃ fault, r = some (.error fault) ∧ f = .ofFault fault := by
  rcases r with _ | fault | id
  · cases h
  · cases h
    exact ⟨fault, rfl, rfl⟩
  · cases h

/-- An identifier is reported of a call that returned it. -/
theorem reported_eq_ok {r : Option (Except Fault Flake)} {id : Flake}
    (h : some (.ok id) = reported r) : r = some (.ok id) := by
  rcases r with _ | fault | found
  · cases h
  · cases h
  · cases h
    rfl

/-- After an error that may pass a call is made again. -/
theorem retried?_of_isRetryable {e : Error} (h : e.isRetryable = true) :
    retried? (some (.error (.error e))) = some e :=
  if_pos h

section

variable {ω : Type} {call : StateT Generator (StateM (Watched ω)) (Option (Except Fault Flake))}
  {sleep : Duration → StateT Generator (StateM (Watched ω)) Unit}

/-- The calls for one identifier are as many as the retries allow, and issue
what the last of them returns. -/
theorem mintOneWith_does
    (hcall : Within call fun p r q => Does (returned? r).toList [r] [] p q)
    (hsleep : ∀ d, Within (sleep d) fun p _ q => Does [] [] [] p q) (retries : Nat) :
    Within (mintOneWith call sleep retries) fun p r q => ∃ t : Tries, t.Allowed retries ∧
      r = reported t.last ∧ Does (returned? t.last).toList t.calls [] p q := by
  induction retries with
  | zero =>
      refine hcall.bind fun r => .pure ?_
      intro q p hdoes
      exact ⟨⟨[], r⟩, ⟨nofun, Nat.le_refl 0, fun _ _ _ => rfl⟩, rfl, hdoes⟩
  | succ retries ih =>
      refine hcall.bind fun r => ?_
      cases hretried : retried? r with
      | none =>
          refine .pure ?_
          intro q p hdoes
          refine ⟨⟨[], r⟩, ⟨nofun, Nat.zero_le _, ?_⟩, rfl, hdoes⟩
          rintro e rfl hretry
          rw [retried?_of_isRetryable hretry] at hretried
          cases hretried
      | some e =>
          -- The failed call issued nothing, nor did the sleep.
          obtain ⟨rfl, hretry⟩ := retried?_eq_some hretried
          refine (hsleep (backoff e)).bind fun _ => ih.mono ?_
          rintro s r q ⟨t, hallowed, hr, hrest⟩ u hslept p hdoes
          refine ⟨⟨e :: t.retried, t.last⟩, ⟨?_, ?_, ?_⟩, hr, (hdoes.trans hslept).trans hrest⟩
          · exact List.forall_mem_cons.mpr ⟨hretry, hallowed.retryable⟩
          · exact Nat.succ_le_succ hallowed.length_le
          · intro f hlast hf
            exact congrArg (· + 1) (hallowed.spent f hlast hf)

/-! ### All identifiers -/

/-- How `mint` ends, from the calls that were made and the identifiers that
were issued. -/
inductive Minted : Nat → List Tries → List Flake → Option (Except Failure Unit) → Prop
  /-- All identifiers have been written. -/
  | done : Minted 0 [] [] (some (.ok ()))
  /-- The calls for the next one gave none, or the last of them is still
  waiting. -/
  | failed {count : Nat} {t : Tries} {f : Option Fault} (h : t.last = f.map .error) :
      Minted (count + 1) [t] [] (f.map fun f => .error (.ofFault f))
  /-- The next one is written. -/
  | next {count : Nat} {t : Tries} {id : Flake} {tries : List Tries} {ids : List Flake}
      {r : Option (Except Failure Unit)} (h : t.last = some (.ok id))
      (rest : Minted count tries ids r) : Minted (count + 1) (t :: tries) (id :: ids) r

/-- What a run of `mint` did: the calls that were made, and the identifiers that
were issued and written. -/
def MintDoes (format : Format) (epoch : Duration) (count : Nat) (p : Generator × Watched ω)
    (r : Option (Except Failure Unit)) (q : Generator × Watched ω) : Prop :=
  ∃ tries ids, (∀ t ∈ tries, t.Allowed maxRetries) ∧ Minted count tries ids r ∧
    Does ids (tries.flatMap Tries.calls) (ids.map fun id => format.line epoch id ++ "\n") p q

/-- The calls for the next identifier gave none. -/
theorem MintDoes.failed {format : Format} {epoch : Duration} {count : Nat}
    {p q : Generator × Watched ω} {t : Tries} {f : Option Fault} (ht : t.Allowed maxRetries)
    (hlast : t.last = f.map .error) (hdoes : Does (returned? t.last).toList t.calls [] p q) :
    MintDoes format epoch (count + 1) p (f.map fun f => .error (.ofFault f)) q := by
  have hnone : returned? t.last = none := by
    rw [hlast]
    cases f <;> rfl
  rw [hnone] at hdoes
  refine ⟨[t], [], ?_, .failed hlast, ?_⟩
  · intro u hu
    cases List.mem_singleton.mp hu
    exact ht
  · rw [List.flatMap_cons, List.flatMap_nil, List.append_nil]
    exact hdoes

/-- A run of `mintWith` writes what it issues. -/
theorem mintWith_does
    (hcall : Within call fun p r q => Does (returned? r).toList [r] [] p q)
    (hsleep : ∀ d, Within (sleep d) fun p _ q => Does [] [] [] p q)
    {write : String → StateT Generator (StateM (Watched ω)) Unit}
    (hwrite : ∀ text, Within (write text) fun p _ q => Does [] [] [text] p q) (format : Format)
    (epoch : Duration) (count : Nat) :
    Within (mintWith call sleep write format epoch count) (MintDoes format epoch count) := by
  induction count with
  | zero => exact .pure fun p => ⟨[], [], nofun, .done, .refl p⟩
  | succ count ih =>
      refine (mintOneWith_does hcall hsleep maxRetries).bind fun r => ?_
      rcases r with _ | f | id
      · refine .pure ?_
        rintro q p ⟨t, ht, hr, hdoes⟩
        have hlast := reported_eq_none hr
        exact .failed (f := none) ht hlast hdoes
      · refine .pure ?_
        rintro q p ⟨t, ht, hr, hdoes⟩
        obtain ⟨fault, hlast, rfl⟩ := reported_eq_error hr
        exact .failed (f := some fault) ht hlast hdoes
      · -- The line is written before the calls for the next identifier.
        refine (hwrite (format.line epoch id ++ "\n")).bind fun _ => ih.mono ?_
        rintro u r q ⟨tries, ids, htries, hminted, hrest⟩ s hwritten p ⟨t, ht, hr, hdoes⟩
        have hlast := reported_eq_ok hr
        rw [hlast] at hdoes
        have hall := (hdoes.trans hwritten).trans hrest
        rw [List.append_nil t.calls] at hall
        exact ⟨t :: tries, id :: ids, List.forall_mem_cons.mpr ⟨ht, htries⟩,
          .next hlast hminted, hall⟩

end

/-- Only the two errors about waiting are tried again. -/
theorem retryable_cases {e : Error} (h : e.isRetryable = true) :
    (∃ drift, e = .clockMovedBackward drift) ∨ ∃ waited, e = .generationTimeout waited := by
  cases e with
  | clockMovedBackward drift => exact .inl ⟨drift, rfl⟩
  | generationTimeout waited => exact .inr ⟨waited, rfl⟩
  | _ => cases h

/-- Every identifier that was issued ended the calls for it. Either these were
all, or the calls for one more ended without. -/
theorem Minted.cases {count : Nat} {tries : List Tries} {ids : List Flake}
    {r : Option (Except Failure Unit)} (h : Minted count tries ids r) :
    (r = some (.ok ()) ∧ ids.length = count ∧
      tries.map Tries.last = ids.map fun id => some (.ok id)) ∨
    ∃ (earlier : List Tries) (failed : Tries) (fault? : Option Fault),
      tries = earlier ++ [failed] ∧ ids.length < count ∧
      (earlier.map Tries.last = ids.map fun id => some (.ok id)) ∧
      failed.last = fault?.map .error ∧ r = fault?.map fun f => .error (.ofFault f) := by
  induction h with
  | done => exact .inl ⟨rfl, rfl, rfl⟩
  | failed hlast => exact .inr ⟨[], _, _, rfl, Nat.succ_pos _, rfl, hlast, rfl⟩
  | next hlast rest ih =>
      rcases ih with ⟨hr, hlength, htries⟩ |
        ⟨earlier, failed, fault?, rfl, hlength, hearlier, hfailed, hr⟩
      · exact .inl ⟨hr, congrArg (· + 1) hlength, congrArg₂ List.cons hlast htries⟩
      · refine .inr ⟨_ :: earlier, failed, fault?, rfl, Nat.succ_lt_succ hlength, ?_, hfailed, hr⟩
        exact congrArg₂ List.cons hlast hearlier

/-! ### Under the eyes of the onlooker -/

section

variable {ω : Type}

/-- `mint` with an onlooker, who is told where each call ends. -/
def watchedMint (e : Surroundings ω) (o : Options) (polls : Nat) (format : Format)
    (epoch : Duration) (count : Nat) :
    StateT Generator (StateM (Watched ω)) (Option (Except Failure Unit)) :=
  mintWith (told .called (generate e.watchedEffects o polls)) e.watchedEffects.sleep
    (fun text => StateT.lift (e.watched.machine.write text)) format epoch count

section

variable {ν : Type} {R : Generator × ω → Generator × ν → Prop}
  {call : StateT Generator (StateM ω) (Option (Except Fault Flake))}
  {sleep : Duration → StateT Generator (StateM ω) Unit}
  {other : StateT Generator (StateM ν) (Option (Except Fault Flake))}
  {rest : Duration → StateT Generator (StateM ν) Unit}

/-- The calls for one identifier go alike in two worlds, if the calls and the
sleeps do. -/
theorem mintOneWith_agree (hcall : Agree R call other fun _ => True)
    (hsleep : ∀ d, Agree R (sleep d) (rest d) fun _ => True) (retries : Nat) :
    Agree R (mintOneWith call sleep retries) (mintOneWith other rest retries) fun _ => True := by
  induction retries with
  | zero => exact hcall.bind fun r _ => .pure trivial
  | succ retries ih =>
      refine hcall.bind fun r _ => ?_
      split
      · exact .pure trivial
      · exact (hsleep _).bind fun _ _ => ih

/-- Runs of `mintWith` agree if their calls and their writes do. -/
theorem mintWith_agree (hcall : Agree R call other fun _ => True)
    (hsleep : ∀ d, Agree R (sleep d) (rest d) fun _ => True)
    {write : String → StateT Generator (StateM ω) Unit}
    {put : String → StateT Generator (StateM ν) Unit}
    (hwrite : ∀ text, Agree R (write text) (put text) fun _ => True) (format : Format)
    (epoch : Duration) (count : Nat) :
    Agree R (mintWith call sleep write format epoch count)
      (mintWith other rest put format epoch count) fun _ => True := by
  induction count with
  | zero => exact .pure trivial
  | succ count ih =>
      refine (mintOneWith_agree hcall hsleep maxRetries).bind fun r _ => ?_
      split
      · exact .pure trivial
      · exact .pure trivial
      · exact (hwrite _).bind fun _ _ => ih

end

/-- Being watched changes nothing. -/
theorem mint_watched (e : Surroundings ω) (o : Options) (polls : Nat) (format : Format)
    (epoch : Duration) (count : Nat) :
    Agree (InWorlds Unwatched)
      (mint e.effects (fun text => StateT.lift (e.machine.write text)) o polls format epoch count)
      (watchedMint e o polls format epoch count) fun _ => True := by
  rw [mint_eq]
  refine mintWith_agree ?_ ?_ ?_ format epoch count
  · exact told_agree _ (generate_watched e o polls)
  · exact fun d => (same_watch (fun _ => .slept d) _).lift
  · exact fun text => (same_watch (fun _ => .wrote text) _).lift

/-- The generator and the world are left as they would be without the
onlooker, and the answer is the same. -/
theorem watchedMint_run (e : Surroundings ω) (o : Options) (polls : Nat) (format : Format)
    (epoch : Duration) (count : Nat) (g : Generator) (w : ω) :
    let write := fun text => StateT.lift (e.machine.write text)
    watchedMint e o polls format epoch count g (w, []) =
      ((mint e.effects write o polls format epoch count g w).1,
        ((mint e.effects write o polls format epoch count g w).2,
          (watchedMint e o polls format epoch count g (w, [])).2.2)) := by
  intro write
  obtain ⟨hanswer, -, hgenerator, hworld⟩ :=
    mint_watched e o polls format epoch count (g, w) (g, (w, [])) ⟨rfl, rfl⟩
  exact Prod.ext (Prod.ext hanswer hgenerator) (Prod.ext hworld rfl)

/-- With an onlooker `mint` writes what it issues, and the onlooker has the
account. -/
theorem watchedMint_does (e : Surroundings ω) (o : Options) (polls : Nat) (format : Format)
    (epoch : Duration) (count : Nat) :
    Within (watchedMint e o polls format epoch count) (MintDoes format epoch count) := by
  refine mintWith_does ?_ ?_ ?_ format epoch count
  · refine (generate_does e o polls).bind fun r => ?_
    have hnote := watch_does (ω := ω) (fun _ : Unit => .called r) (pure ()) (fun _ => [r]) []
      (fun _ => rfl) (fun _ => rfl) (fun _ => rfl)
    refine hnote.bind fun _ => .pure ?_
    intro q s hnoted p hcalled
    have hboth := hcalled.trans hnoted
    rw [List.append_nil] at hboth
    exact hboth
  · intro d
    exact watch_does (fun _ => .slept d) _ (fun _ => []) [] (fun _ => rfl) (fun _ => rfl)
      (fun _ => rfl)
  · intro text
    exact watch_does (fun _ => .wrote text) _ (fun _ => []) [text] (fun _ => rfl) (fun _ => rfl)
      (fun _ => rfl)

/-- Take a generator of either kind in any state that nobody else uses, any
machine whose writer does not fail, any clock, panics included, and any
options, and issue so many identifiers in some format. What an onlooker notes
of the run is this.

The texts that were written are one line for each identifier that was issued,
in the order in which they were issued, and none of them has a line break
before its end. Each line shows its identifier: in decimal it is the number of
the word, padded it is a numeral of this number with twenty digits, and in JSON
it is read as a document that tells what the identifier is made of and when it
was issued under the epoch. The identifiers increase, and the last one is the last
identifier of the generator afterwards. When none was issued, that one is as it
was.

The calls fall into groups, one for each identifier. In a group there are three
calls at most, and all but the last ended with one of the two errors about
waiting. The run is a success when the last calls gave the identifiers, as many
as were asked for. Otherwise there are fewer, and the calls for one more came
to nothing: the fault of the last of them is reported, and it is one that no
other call helps against, or it is the third. -/
theorem mint_writes_issued (e : Surroundings ω) (o : Options) (polls : Nat) (format : Format)
    (epoch : Duration) (count : Nat) (g : Generator) (w : ω) :
    let write := fun text => StateT.lift (e.machine.write text)
    let ((r, h), v) := mint e.effects write o polls format epoch count g w
    ∃ deeds tries,
      watchedMint e o polls format epoch count g (w, []) = ((r, h), (v, deeds)) ∧
      let issued := Deed.issued deeds
      Deed.texts deeds = issued.map (fun id => format.line epoch id ++ "\n") ∧
      (∀ id, OneLine (format.line epoch id)) ∧
      (∀ id ∈ issued, format.Shows epoch id (format.line epoch id)) ∧
      issued.Pairwise (· < ·) ∧
      h.cell.last = issued.getLast?.getD g.cell.last ∧
      Deed.calls deeds = tries.flatMap Tries.calls ∧
      (∀ t ∈ tries, t.calls.length ≤ 3 ∧ ∀ e ∈ t.retried,
        (∃ drift, e = .clockMovedBackward drift) ∨ ∃ waited, e = .generationTimeout waited) ∧
      ((r = some (.ok ()) ∧ issued.length = count ∧
          tries.map Tries.last = issued.map fun id => some (.ok id)) ∨
        ∃ (earlier : List Tries) (failed : Tries) (fault? : Option Fault),
          tries = earlier ++ [failed] ∧ issued.length < count ∧
          (earlier.map Tries.last = issued.map fun id => some (.ok id)) ∧
          failed.last = fault?.map .error ∧
          (r = fault?.map fun f => .error (.ofFault f)) ∧
          ∀ e, fault? = some (.error e) → e.isRetryable = false ∨ failed.calls.length = 3) := by
  intro write
  let c := mint e.effects write o polls format epoch count
  let d := watchedMint e o polls format epoch count
  have hrun : d g (w, []) = ((answer c (g, w), (after c (g, w)).1),
      ((after c (g, w)).2, (after d (g, (w, []))).2.2)) :=
    watchedMint_run e o polls format epoch count g w
  have hanswer : answer d (g, (w, [])) = answer c (g, w) := congrArg (fun r => r.1.1) hrun
  have hgenerator : (after d (g, (w, []))).1 = (after c (g, w)).1 :=
    congrArg (fun r => r.1.2) hrun
  -- The rest is the onlooker's account, which begins with empty notes.
  obtain ⟨tries, ids, hallowed, hminted, hdoes⟩ :=
    watchedMint_does e o polls format epoch count (g, (w, []))
  have hissued : Deed.issued (after d (g, (w, []))).2.2 = ids := hdoes.issued
  refine ⟨_, tries, hrun, ?_, fun id => format.oneLine_line epoch id, ?_, ?_, ?_, hdoes.calls,
    ?_, ?_⟩
  · rw [hissued]
    exact hdoes.texts
  · rw [hissued]
    exact fun id hid => format.shows_line epoch (hdoes.issues.isValid id hid)
  · rw [hissued]
    exact hdoes.issues.pairwise
  · rw [hissued, ← hdoes.issues.last_eq]
    exact congrArg (fun h : Generator => h.cell.last) hgenerator.symm
  · intro t ht
    refine ⟨?_, fun e he => retryable_cases ((hallowed t ht).retryable e he)⟩
    rw [t.length_calls]
    exact Nat.succ_le_succ (hallowed t ht).length_le
  · rw [hissued]
    have hr : answer d (g, (w, [])) = answer c (g, w) := hanswer
    -- All identifiers came, or the calls for one more came to nothing.
    rcases hminted.cases with ⟨hok, hlength, hlast⟩ |
      ⟨earlier, failed, fault?, rfl, hlength, hearlier, hfailed, hfault⟩
    · exact .inl ⟨hr.symm.trans hok, hlength, hlast⟩
    · refine .inr ⟨earlier, failed, fault?, rfl, hlength, hearlier, hfailed,
        hr.symm.trans hfault, ?_⟩
      rintro f rfl
      have hlast := hallowed failed (List.mem_append_right _ (.head _))
      exact hlast.final_or_spent hfailed

end

end Cli

end Snowflake
