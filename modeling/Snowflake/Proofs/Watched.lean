import Snowflake.Proofs.Contention.Answers
import Snowflake.Proofs.Session
import Snowflake.Proofs.SideBySide

/-!
# `Snowflake.Proofs.Watched`: a call and what an onlooker sees of it

Statements about a call often speak of what it does on the way: which readings
it took, when it paused and for how long, what it wrote. A `Watched` world
keeps notes of that. It is a world and a list of deeds, and
`Surroundings.watched` are surroundings in which each effect writes its deed
down.

A watched call is still the same call. `generate_watched` shows that it gives
the same answer and leaves the same generator and the same world behind.
-/

set_option autoImplicit false

namespace Snowflake

/-! ### An onlooker's notes -/

/-- What an onlooker sees happen. -/
inductive Deed
  /-- The clock was read. -/
  | took (r : Reading)
  /-- A poll ended. -/
  | polled (r : PollResult)
  /-- The stopwatch was looked at. -/
  | looked (t : Instant)
  /-- The processor was given up. -/
  | yielded
  /-- There was a sleep. -/
  | slept (d : Duration)
  /-- A call ended. -/
  | called (r : Option (Except Fault Flake))
  /-- Text was written. -/
  | wrote (text : String)

namespace Deed

/-- The readings of the clock, panics included, in order. -/
def readings (deeds : List Deed) : List Reading :=
  deeds.filterMap fun
    | took r => some r
    | _ => none

/-- The identifiers that polls issued, in order. -/
def issued (deeds : List Deed) : List Flake :=
  deeds.filterMap fun
    | polled r => issued? r
    | _ => none

/-- How calls ended, in order. -/
def calls (deeds : List Deed) : List (Option (Except Fault Flake)) :=
  deeds.filterMap fun
    | called r => some r
    | _ => none

/-- The texts that were written, in order. -/
def texts (deeds : List Deed) : List String :=
  deeds.filterMap fun
    | wrote text => some text
    | _ => none

/-- The readings of two lists of notes are those of the one and then those of
the other. -/
@[simp] theorem readings_append (ds es : List Deed) :
    readings (ds ++ es) = readings ds ++ readings es :=
  List.filterMap_append ..

/-- The identifiers issued in two lists of notes are those of the one and then
those of the other. -/
@[simp] theorem issued_append (ds es : List Deed) : issued (ds ++ es) = issued ds ++ issued es :=
  List.filterMap_append ..

/-- The calls that ended in two lists of notes are those of the one and then
those of the other. -/
@[simp] theorem calls_append (ds es : List Deed) : calls (ds ++ es) = calls ds ++ calls es :=
  List.filterMap_append ..

/-- The texts written in two lists of notes are those of the one and then those
of the other. -/
@[simp] theorem texts_append (ds es : List Deed) : texts (ds ++ es) = texts ds ++ texts es :=
  List.filterMap_append ..

/-- The end of a poll adds its identifier, if it issued one. -/
theorem issued_polled (r : PollResult) : issued [polled r] = (issued? r).toList := by
  cases h : issued? r with
  | none => exact List.filterMap_cons_none h
  | some id => exact List.filterMap_cons_some h

/-- Readings are no part of what they have no place in. -/
theorem filterMap_took {β : Type} {f : Deed → Option β} (h : ∀ r, f (took r) = none)
    (taken : List Reading) : (taken.map took).filterMap f = [] := by
  rw [List.filterMap_map]
  exact List.filterMap_eq_nil_iff.mpr fun r _ => h r

/-- Readings issue nothing. -/
theorem issued_took (taken : List Reading) : issued (taken.map took) = [] :=
  filterMap_took (fun _ => rfl) taken

/-- Readings end no call. -/
theorem calls_took (taken : List Reading) : calls (taken.map took) = [] :=
  filterMap_took (fun _ => rfl) taken

/-- Readings write nothing. -/
theorem texts_took (taken : List Reading) : texts (taken.map took) = [] :=
  filterMap_took (fun _ => rfl) taken

end Deed

/-- The effects of a call whose generator others use too. They come in where the
call lets go of it: after a look at the stopwatch, and in the pauses. -/
def Effects.among {m : Type → Type} [Monad m] (fx : Effects m) (others : m Unit) : Effects m where
  poll := fx.poll
  instant := do
    let t ← fx.instant
    others
    return t
  yield := do
    fx.yield
    others
  sleep d := do
    fx.sleep d
    others

/-- A world and the notes of an onlooker. -/
abbrev Watched (ω : Type) : Type := ω × List Deed

section

variable {ω ν σ α : Type}

/-- What concerns the first part of a world leaves the second part alone. -/
def inFirst (c : StateM ω α) : StateM (ω × ν) α :=
  fun w => ((c w.1).1, ((c w.1).2, w.2))

/-- What concerns the second part leaves the first part alone. -/
def inSecond (c : StateM ν α) : StateM (ω × ν) α :=
  fun w => ((c w.2).1, (w.1, (c w.2).2))

/-- The onlooker writes down what was done. -/
def watch (deed : α → Deed) (c : StateM ω α) : StateM (Watched ω) α :=
  fun w => ((c w.1).1, ((c w.1).2, w.2 ++ [deed (c w.1).1]))

/-- What is done behind the onlooker's back leaves the notes alone. -/
def unseen (c : StateT σ (StateM ω) α) : StateT σ (StateM (Watched ω)) α :=
  fun s v => ((c s v.1).1, ((c s v.1).2, v.2))

/-- Others who do nothing might as well not be there. -/
theorem Effects.among_nobody (fx : Effects (StateT σ (StateM (Watched ω)))) :
    fx.among (unseen (pure ())) = fx :=
  rfl

/-- The onlooker writes down the answer of a computation on a state. -/
def told (deed : α → Deed) (c : StateT σ (StateM (Watched ω)) α) :
    StateT σ (StateM (Watched ω)) α := do
  let a ← c
  StateT.lift (watch (fun _ => deed a) (pure ()))
  return a

namespace Surroundings

/-- The surroundings under the eyes of an onlooker. -/
def watched (e : Surroundings ω) : Surroundings (Watched ω) where
  machine :=
    { wall := inFirst e.machine.wall
      instant := watch .looked e.machine.instant
      yield := watch (fun _ => .yielded) e.machine.yield
      sleep := fun d => watch (fun _ => .slept d) (e.machine.sleep d)
      write := fun text => watch (fun _ => .wrote text) (e.machine.write text) }
  read := watch .took e.read
  failures := inFirst e.failures

/-- The effects of a call whose polls the onlooker writes down too. -/
def watchedEffects (e : Surroundings ω) : Effects (StateT Generator (StateM (Watched ω))) :=
  { e.watched.effects with poll := told .polled e.watched.effects.poll }

end Surroundings

end

/-! ### The same generator in two worlds -/

section

variable {ω ν α : Type} {V : ω → ν → Prop}

/-- From related worlds the two give the same answer and leave related
worlds. -/
def Same (V : ω → ν → Prop) (c : StateM ω α) (d : StateM ν α) : Prop :=
  ∀ w v, V w v → (d v).1 = (c w).1 ∧ V (c w).2 (d v).2

namespace Same

variable {β : Type}

/-- To do nothing is the same in both worlds. -/
theorem pure (a : α) : Same V (pure a) (pure a) := fun _ _ hV => ⟨rfl, hV⟩

/-- What is the same step by step is the same. -/
theorem bind {c : StateM ω α} {d : StateM ν α} {f : α → StateM ω β} {g : α → StateM ν β}
    (h : Same V c d) (hf : ∀ a, Same V (f a) (g a)) : Same V (c >>= f) (d >>= g) := by
  intro w v hV
  obtain ⟨hanswer, hafter⟩ := h w v hV
  show (g (d v).1 (d v).2).1 = (f (c w).1 (c w).2).1 ∧ V (f (c w).1 (c w).2).2 (g (d v).1 (d v).2).2
  rw [hanswer]
  exact hf _ _ _ hafter

end Same

/-- The same generator, in related worlds. -/
def InWorlds (V : ω → ν → Prop) (p : Generator × ω) (q : Generator × ν) : Prop :=
  q.1 = p.1 ∧ V p.2 q.2

/-- Computations that are the same from every generator agree on it. -/
theorem Same.agree {c : StateT Generator (StateM ω) α} {d : StateT Generator (StateM ν) α}
    {P : α → Prop} (h : ∀ g, Same V (c g) (d g)) (hP : ∀ p, P (answer c p)) :
    Agree (InWorlds V) c d P := by
  rintro ⟨g, w⟩ ⟨_, v⟩ ⟨rfl, hV⟩
  obtain ⟨hsame, hafter⟩ := h _ w v hV
  exact ⟨congrArg Prod.fst hsame, hP _, congrArg Prod.snd hsame, hafter⟩

/-- What acts on the world alone agrees on any generator. -/
theorem Same.lift {c : StateM ω α} {d : StateM ν α} (h : Same V c d) :
    Agree (InWorlds V) (StateT.lift c : StateT Generator (StateM ω) α)
      (StateT.lift d : StateT Generator (StateM ν) α) fun _ => True :=
  Same.agree (fun g => h.bind fun a => .pure (a, g)) fun _ => trivial

/-- All that polls of a generator give. -/
inductive Genuine : PollResult → Prop
  | ready (id : Flake) : Genuine (.ok (.ready id))
  /-- A used-up millisecond is over after one. -/
  | pending : Genuine (.ok (.pending 1))
  /-- A clock that is behind is behind by something. -/
  | behind {drift : Nat} (hdrift : 0 < drift) : Genuine (.ok (.behind drift))
  | overflow (now : Nat) : Genuine (.error (.error (.timestampOverflow now)))
  | poisoned : Genuine (.error (.error .lockPoisoned))
  | panic : Genuine (.error (.panic .clock))

/-- Whatever word a reading is judged against, the answer is one of them. -/
theorem resultAbout_genuine (seen : Flake) (r : Reading) : Genuine (resultAbout seen r) := by
  unfold resultAbout
  cases r with
  | failure => exact .panic
  | millis now =>
      show Genuine ((judge seen now).map Verdict.status)
      -- The four answers of the rule, of which only the third depends on the
      -- reading.
      rcases judge_cases seen now with ⟨next, hjudge, -⟩ | ⟨-, -, hjudge⟩ | ⟨hnow, hjudge⟩ |
        ⟨-, hjudge⟩
      all_goals rw [hjudge]
      · exact .ready next
      · exact .pending
      · exact .behind (Nat.sub_pos_of_lt hnow)
      · exact .overflow now

namespace Generator

/-- However often its swap fails for no reason, a poll ends as a poll with one
of its readings. -/
theorem pollUnlucky_eq_poll (read : StateM ω Reading) (failures : Nat) (p : Generator × ω) :
    ∃ r, (answer (pollUnlucky read failures) p, (after (pollUnlucky read failures) p).1)
      = p.1.poll r := by
  -- Without failures there is one reading, or none when the lock is poisoned.
  have hpollWith : ∀ q : Generator × ω, ∃ r,
      (answer (pollWith read) q, (after (pollWith read) q).1) = q.1.poll r := by
    rintro ⟨⟨worker, cell⟩, w⟩
    cases cell with
    | lockFree last => exact ⟨(read w).1, rfl⟩
    | locked last poisoned =>
        cases poisoned with
        | true => exact ⟨.failure, rfl⟩
        | false => exact ⟨(read w).1, rfl⟩
  induction failures generalizing p with
  | zero => exact hpollWith p
  | succ failures ih =>
      obtain ⟨⟨worker, cell⟩, w⟩ := p
      cases cell with
      | locked last poisoned => exact hpollWith _
      | lockFree last =>
          rcases hread : read w with ⟨r, v⟩
          simp only [answer, after, pollUnlucky, bind, StateT.bind, hread]
          cases hjudge : judgeReading last r with
          | error f => exact ⟨r, rfl⟩
          | ok verdict =>
              cases verdict with
              | answer s => exact ⟨r, rfl⟩
              | issue next => exact ih (⟨worker, .lockFree last⟩, v)

/-- The result of every poll is one of those that polls give. -/
theorem poll_genuine (g : Generator) (r : Reading) : Genuine (g.poll r).1 := by
  show Genuine (g.cell.poll r).1
  rcases g.cell.poll_result r with hrefused | habout
  · rw [hrefused]
    exact .poisoned
  · rw [habout]
    exact resultAbout_genuine g.cell.last r

/-- A poll that finds the millisecond used up names one millisecond. -/
theorem poll_pendingOne (g : Generator) (r : Reading) : PendingOne (g.poll r).1 := by
  intro yieldFor hpending
  have hgenuine := g.poll_genuine r
  rw [hpending] at hgenuine
  cases hgenuine with
  | pending => rfl

/-- Polls that read the same are the same. -/
theorem pollWith_same {read : StateM ω Reading} {other : StateM ν Reading}
    (h : Same V read other) (g : Generator) : Same V (pollWith read g) (pollWith other g) := by
  unfold pollWith
  split
  · exact .pure _
  · exact h.bind fun r => .pure _

/-- Polls that read the same are the same, also when swaps fail for no reason,
as often in both. -/
theorem pollUnlucky_same {read : StateM ω Reading} {other : StateM ν Reading}
    (h : Same V read other) (failures : Nat) (g : Generator) :
    Same V (pollUnlucky read failures g) (pollUnlucky other failures g) := by
  induction failures with
  | zero => exact pollWith_same h g
  | succ failures ih =>
      obtain ⟨worker, cell⟩ := g
      cases cell with
      | locked last poisoned => exact pollWith_same h _
      | lockFree last =>
          refine h.bind fun r => ?_
          -- A failed swap makes both polls read again.
          split
          · exact ih
          · exact .pure _
          · exact .pure _

end Generator

namespace Surroundings

/-- A poll in any surroundings is a poll with one reading. -/
theorem poll_eq_poll (e : Surroundings ω) (p : Generator × ω) :
    ∃ r, p.1.poll r = (answer e.effects.poll p, (after e.effects.poll p).1) := by
  obtain ⟨r, hr⟩ :=
    Generator.pollUnlucky_eq_poll e.read (e.failures p.2).1 (p.1, (e.failures p.2).2)
  exact ⟨r, hr.symm⟩

/-- A poll in any surroundings that finds the millisecond used up names one
millisecond. -/
theorem poll_pendingOne (e : Surroundings ω) (p : Generator × ω) :
    PendingOne (answer e.effects.poll p) := by
  obtain ⟨r, hr⟩ := e.poll_eq_poll p
  have hpending := p.1.poll_pendingOne r
  rw [hr] at hpending
  exact hpending

/-- Polls agree when the readings and the failures of swaps are the same. -/
theorem poll_agree {e : Surroundings ω} {f : Surroundings ν} (hread : Same V e.read f.read)
    (hfailures : Same V e.failures f.failures) :
    Agree (InWorlds V) e.effects.poll f.effects.poll PendingOne :=
  Same.agree (fun g => hfailures.bind fun failures => Generator.pollUnlucky_same hread failures g)
    e.poll_pendingOne

/-- What the readings of a poll keep, the poll keeps. -/
theorem poll_keeps {K : ω → Prop} {e : Surroundings ω} (hread : ∀ w, K w → K (e.read w).2)
    (hfailures : ∀ w, K w → K (e.failures w).2) (p : Generator × ω) (h : K p.2) :
    K (after e.effects.poll p).2 := by
  -- A computation that keeps the property is the same as itself in worlds that
  -- have it.
  have hsame : ∀ {α : Type} {c : StateM ω α}, (∀ w, K w → K (c w).2) →
      Same (fun w v => v = w ∧ K w) c c := by
    rintro α c hc w _ ⟨rfl, hw⟩
    exact ⟨rfl, rfl, hc _ hw⟩
  exact (poll_agree (hsame hread) (hsame hfailures) p p ⟨rfl, rfl, h⟩).2.2.2.2

end Surroundings

end

/-! ### A poll in the notes -/

section

variable {ω : Type}

/-- Since these notes were taken, there have been only readings. -/
def OnlyRead (notes : List Deed) (v : Watched ω) : Prop :=
  ∃ taken : List Reading, v.2 = notes ++ taken.map .took

namespace Surroundings

/-- One more reading is only a reading. -/
theorem read_onlyRead (e : Surroundings ω) {notes : List Deed} (v : Watched ω)
    (h : OnlyRead notes v) : OnlyRead notes (e.watched.read v).2 := by
  obtain ⟨w, _⟩ := v
  obtain ⟨taken, rfl⟩ := h
  refine ⟨taken ++ [(e.read w).1], ?_⟩
  show notes ++ taken.map .took ++ [.took (e.read w).1] = _
  rw [List.map_append, List.append_assoc]
  rfl

/-- A poll writes down its readings and then its result. -/
theorem poll_notes (e : Surroundings ω) :
    Within e.watchedEffects.poll fun p r q =>
      ∃ taken : List Reading, q.2.2 = p.2.2 ++ taken.map .took ++ [.polled r] := by
  rintro ⟨g, w, notes⟩
  -- Nothing but readings can come before the result, since a poll does nothing
  -- else to its world.
  obtain ⟨taken, htaken⟩ : OnlyRead notes (after e.watched.effects.poll (g, (w, notes))).2 :=
    poll_keeps e.read_onlyRead (fun v hv => hv) _ ⟨[], (List.append_nil notes).symm⟩
  exact ⟨taken, congrArg (· ++ _) htaken⟩

/-- The result of a poll in any surroundings is one of those that polls give. -/
theorem poll_genuine (e : Surroundings ω) (p : Generator × ω) :
    Genuine (answer e.effects.poll p) := by
  obtain ⟨r, hr⟩ := e.poll_eq_poll p
  have hgenuine := p.1.poll_genuine r
  rw [hr] at hgenuine
  exact hgenuine

end Surroundings

end

/-! ### Being watched changes nothing -/

section

variable {ω σ α : Type}

/-- The world without the notes. -/
def Unwatched (w : ω) (v : Watched ω) : Prop := v.1 = w

/-- To be watched changes nothing of what is done. -/
theorem same_watch (deed : α → Deed) (c : StateM ω α) : Same Unwatched c (watch deed c) := by
  rintro _ ⟨w, notes⟩ rfl
  exact ⟨rfl, rfl⟩

/-- A world with notes beside it changes nothing of what is done. -/
theorem same_inFirst (c : StateM ω α) : Same Unwatched c (inFirst (ν := List Deed) c) := by
  rintro _ ⟨w, notes⟩ rfl
  exact ⟨rfl, rfl⟩

/-- To tell the onlooker changes nothing either. -/
theorem told_agree {c : StateT Generator (StateM ω) α}
    {d : StateT Generator (StateM (Watched ω)) α} {P : α → Prop} (deed : α → Deed)
    (h : Agree (InWorlds Unwatched) c d P) : Agree (InWorlds Unwatched) c (told deed d) P :=
  h

/-- What the onlooker does not see is done all the same. -/
theorem unseen_agree (c : StateT Generator (StateM ω) α) :
    Agree (InWorlds Unwatched) c (unseen c) fun _ => True := by
  rintro ⟨g, w⟩ ⟨_, ⟨_, notes⟩⟩ ⟨rfl, rfl⟩
  exact ⟨rfl, trivial, rfl, rfl⟩

/-- A blocking call gives the same answer and leaves the same generator and
world when it is watched, whatever others do meanwhile. -/
theorem generate_among_watched (e : Surroundings ω) (others : StateT Generator (StateM ω) Unit)
    (o : Options) (polls : Nat) :
    Agree (InWorlds Unwatched) (generate (e.effects.among others) o polls)
      (generate (e.watchedEffects.among (unseen others)) o polls) fun _ => True := by
  have hothers : Agree (InWorlds Unwatched) others (unseen others) fun _ => True :=
    unseen_agree others
  rw [generate_eq, generate_eq]
  -- Polls, looks and pauses one by one; in the last two the others follow.
  refine callFrom_agree ?_ ?_ ?_ o polls none
  · exact told_agree _ (Surroundings.poll_agree (same_watch _ _) (same_inFirst _))
  · exact (same_watch _ _).lift.bind fun t _ => hothers.bind fun _ _ => .pure trivial
  · intro b _
    cases b with
    | spin yieldFor => exact (same_watch (fun _ => .yielded) _).lift.bind fun _ _ => hothers
    | sleep d => exact (same_watch (fun _ => .slept d) _).lift.bind fun _ _ => hothers

/-- A blocking call whose generator nobody else uses is the same when it is
watched. -/
theorem generate_watched (e : Surroundings ω) (o : Options) (polls : Nat) :
    Agree (InWorlds Unwatched) (generate e.effects o polls) (generate e.watchedEffects o polls)
      fun _ => True :=
  generate_among_watched e (pure ()) o polls

end

end Snowflake
