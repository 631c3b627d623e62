import Snowflake.Proofs.Budget
import Snowflake.Proofs.Minting

/-!
# `Snowflake.Proofs.Transcript`: what stands in the notes of a call

The notes of an onlooker have a grammar. A poll leaves its readings and its
result (`Generator.Reads`). A round adds a look or two at the stopwatch, if it
has to decide about a pause (`RoundNotes`). A call is a sequence of rounds with
pauses between them (`CallNotes`), and the calls for one identifier are calls
with the sleeps of the retries between them (`Cli.TriesNotes`).

`generate_adds` and `Cli.watchedMintOne_adds` show that the notes of every run
are derived in this grammar, together with the result of the run and the
generator that it leaves. So a statement about all runs can be proved by
induction on a derivation, and may speak of what comes after a note as well as
of what came before. A `Course` only looks back.
-/

set_option autoImplicit false

namespace Snowflake

open Cli

variable {ω α β : Type}

/-- An element of two lists that follow each other is in the first or in the
second. -/
theorem append_eq_append_cons {xs ys before rest : List α} {x : α}
    (h : xs ++ ys = before ++ x :: rest) :
    (∃ inside, xs = before ++ x :: inside ∧ rest = inside ++ ys) ∨
      ∃ inside, before = xs ++ inside ∧ ys = inside ++ x :: rest := by
  rcases List.append_eq_append_iff.mp h with ⟨inside, hbefore, hys⟩ | ⟨inside, hxs, hrest⟩
  · exact .inr ⟨inside, hbefore, hys⟩
  · cases inside with
    | nil => exact .inr ⟨[], by simpa using hxs.symm, hrest.symm⟩
    | cons y inside =>
        obtain ⟨rfl, rfl⟩ := List.cons.inj hrest
        exact .inl ⟨inside, hxs, rfl⟩

/-- An element of a list with one more at its end is in the list, or the one
more. -/
theorem concat_eq_append_cons {xs before rest : List α} {a x : α}
    (h : xs ++ [a] = before ++ x :: rest) :
    (∃ inside, xs = before ++ x :: inside ∧ rest = inside ++ [a]) ∨
      (before = xs ∧ x = a ∧ rest = []) := by
  rcases append_eq_append_cons h with hinside | ⟨inside, rfl, hlast⟩
  · exact .inl hinside
  · cases inside with
    | nil =>
        cases hlast
        exact .inr ⟨List.append_nil _, rfl, rfl⟩
    | cons y inside => simp at hlast

/-- An element of two lists with two elements between them. -/
theorem append_cons_cons_eq {xs ys before rest : List α} {a b x : α}
    (h : xs ++ a :: b :: ys = before ++ x :: rest) :
    (∃ inside, xs = before ++ x :: inside ∧ rest = inside ++ a :: b :: ys) ∨
      (before = xs ∧ x = a ∧ rest = b :: ys) ∨ (before = xs ++ [a] ∧ x = b ∧ rest = ys) ∨
      ∃ later, before = xs ++ a :: b :: later ∧ ys = later ++ x :: rest := by
  rcases append_eq_append_cons h with hinside | ⟨inside, rfl, hother⟩
  · exact .inl hinside
  · rcases inside with _ | ⟨y, _ | ⟨z, later⟩⟩
    · cases hother
      exact .inr (.inl ⟨List.append_nil _, rfl, rfl⟩)
    · cases hother
      exact .inr (.inr (.inl ⟨rfl, rfl, rfl⟩))
    · cases hother
      exact .inr (.inr (.inr ⟨later, rfl, rfl⟩))

/-! ### Notes that are added -/

/-- The computation adds notes that `P` allows, and leaves the notes that are
there. -/
def Adds (c : StateT Generator (StateM (Watched ω)) α)
    (P : Generator → α → List Deed → Generator → Prop) : Prop :=
  Within c fun p a q => ∃ ds, q.2.2 = p.2.2 ++ ds ∧ P p.1 a ds q.1

namespace Adds

variable {P : Generator → α → List Deed → Generator → Prop}

/-- What does nothing adds nothing. -/
theorem pure {a : α} (h : ∀ g, P g a [] g) :
    Adds (pure a : StateT Generator (StateM (Watched ω)) α) P :=
  fun p => ⟨[], (List.append_nil _).symm, h p.1⟩

/-- What two computations add stands one after the other. -/
theorem bind {c : StateT Generator (StateM (Watched ω)) α}
    {f : α → StateT Generator (StateM (Watched ω)) β}
    {Q : Generator → β → List Deed → Generator → Prop} (hc : Adds c P)
    (hf : ∀ a, Adds (f a) fun h b es k => ∀ g ds, P g a ds h → Q g b (ds ++ es) k) :
    Adds (c >>= f) Q := by
  intro p
  obtain ⟨ds, hds, hP⟩ := hc p
  obtain ⟨es, hes, hQ⟩ := hf (answer c p) (after c p)
  refine ⟨ds ++ es, ?_, hQ _ ds hP⟩
  show (after (f (answer c p)) (after c p)).2.2 = p.2.2 ++ (ds ++ es)
  rw [hes, hds, List.append_assoc]

/-- Notes that one predicate allows, a weaker one allows. -/
theorem mono {c : StateT Generator (StateM (Watched ω)) α}
    {Q : Generator → α → List Deed → Generator → Prop} (hc : Adds c P)
    (h : ∀ g a ds k, P g a ds k → Q g a ds k) : Adds c Q := by
  intro p
  obtain ⟨ds, hds, hP⟩ := hc p
  exact ⟨ds, hds, h _ _ _ _ hP⟩

/-- A deed is one note, and the generator stays as it is. -/
theorem watch (deed : α → Deed) (c : StateM ω α) :
    Adds (StateT.lift (watch deed c)) fun g a ds h => ds = [deed a] ∧ h = g :=
  fun p => ⟨[deed (c p.2.1).1], rfl, rfl, rfl⟩

/-- To tell the onlooker adds one note at the end. -/
theorem told (deed : α → Deed) {c : StateT Generator (StateM (Watched ω)) α} (hc : Adds c P) :
    Adds (told deed c) fun g a ds h => ∃ es, ds = es ++ [deed a] ∧ P g a es h := by
  intro p
  obtain ⟨ds, hds, hP⟩ := hc p
  refine ⟨ds ++ [deed (answer c p)], ?_, ds, rfl, hP⟩
  show (after c p).2.2 ++ [deed (answer c p)] = _
  rw [hds, List.append_assoc]

end Adds

/-! ### A poll -/

namespace Generator

/-- All that a poll can do without a poisoned lock. Only an identifier and a
panic change the generator. -/
theorem poll_cases {g : Generator} (hpoisoned : g.cell.isPoisoned = false) (x : Reading) :
    (∃ next, judgeReading g.cell.last x = .ok (.issue next) ∧ (g.poll x).1 = .ok (.ready next)) ∨
    (∃ s, judgeReading g.cell.last x = .ok (.answer s) ∧ g.poll x = (.ok s, g)) ∨
    (∃ e, judgeReading g.cell.last x = .error (.error e) ∧ g.poll x = (.error (.error e), g)) ∨
    ∃ p, judgeReading g.cell.last x = .error (.panic p) ∧ (g.poll x).1 = .error (.panic p) := by
  obtain ⟨worker, cell⟩ := g
  -- Without poison a cell is its kind and its last identifier.
  obtain ⟨kind, last, rfl⟩ : ∃ kind last, cell = .ofLast kind last := by
    cases cell with
    | lockFree last => exact ⟨.lockFree, last, rfl⟩
    | locked last poisoned =>
        cases hpoisoned
        exact ⟨.locked, last, rfl⟩
  simp only [Cell.last_ofLast]
  cases hjudge : judgeReading last x with
  | ok verdict =>
      cases verdict with
      | issue next =>
          exact .inl ⟨next, rfl, congrArg Prod.fst (Cell.poll_issue kind hjudge)⟩
      | answer s =>
          refine .inr (.inl ⟨s, rfl, ?_⟩)
          simp only [poll, Cell.poll_answer kind hjudge]
  | error fault =>
      cases fault with
      | error e =>
          refine .inr (.inr (.inl ⟨e, rfl, ?_⟩))
          simp only [poll, Cell.poll_error kind hjudge]
      | panic p =>
          refine .inr (.inr (.inr ⟨p, rfl, ?_⟩))
          cases kind <;>
            simp only [poll, Cell.ofLast, Cell.poll, Cell.exchange, Cell.critical, hjudge]

/-- What a poll makes of its readings. A swap that fails for no reason loses a
reading that would have given an identifier. -/
inductive Reads (g : Generator) : List Reading → PollResult → Generator → Prop
  | refused (hpoisoned : g.cell.isPoisoned = true) :
      Reads g [] (.error (.error .lockPoisoned)) g
  | judged {lost : List Reading} {x : Reading} {r : PollResult} {h : Generator}
      (hpoisoned : g.cell.isPoisoned = false)
      (hlost : ∀ y ∈ lost, ∃ next, judgeReading g.cell.last y = .ok (.issue next))
      (hpoll : g.poll x = (r, h)) : Reads g (lost ++ [x]) r h

/-- A reading is lost before the others. -/
theorem Reads.lost {g h : Generator} {taken : List Reading} {r : PollResult}
    (hreads : g.Reads taken r h) (hpoisoned : g.cell.isPoisoned = false) {y : Reading}
    {next : Flake} (hy : judgeReading g.cell.last y = .ok (.issue next)) :
    g.Reads (y :: taken) r h := by
  cases hreads with
  | refused hrefused =>
      rw [hpoisoned] at hrefused
      cases hrefused
  | @judged lost x _ _ _ hlost hpoll =>
      rw [← List.cons_append]
      exact .judged hpoisoned (List.forall_mem_cons.mpr ⟨⟨next, hy⟩, hlost⟩) hpoll

/-- A poll that loses no swap takes one reading. -/
theorem Reads.once {g : Generator} (hpoisoned : g.cell.isPoisoned = false) (x : Reading) :
    g.Reads [x] (g.poll x).1 (g.poll x).2 := by
  rw [← List.nil_append [x]]
  exact .judged hpoisoned nofun rfl

/-- A poll without failing swaps writes down the reading that it takes, if it
takes one. -/
theorem pollWith_adds (e : Surroundings ω) :
    Adds (pollWith e.watched.read) fun g r ds h =>
      ∃ taken, ds = taken.map .took ∧ g.Reads taken r h := by
  rintro ⟨g, w, notes⟩
  cases hpoisoned : g.cell.isPoisoned with
  | true =>
      have hrun : pollWith e.watched.read g (w, notes)
          = ((.error (.error .lockPoisoned), g), (w, notes)) := by
        simp only [pollWith, hpoisoned, if_true]
        rfl
      refine ⟨[], ?_, [], rfl, ?_⟩
      · simp only [after, hrun, List.append_nil]
      · simp only [answer, after, hrun]
        exact .refused hpoisoned
  | false =>
      have hrun : pollWith e.watched.read g (w, notes)
          = (g.poll (e.read w).1, ((e.read w).2, notes ++ [.took (e.read w).1])) := by
        simp only [pollWith, hpoisoned, Bool.false_eq_true, if_false]
        rfl
      refine ⟨[Deed.took (e.read w).1], ?_, [(e.read w).1], rfl, ?_⟩
      · simp only [after, hrun]
      · simp only [answer, after, hrun]
        exact .once hpoisoned _

/-- By induction on the failures: each of them loses a reading. -/
theorem pollUnlucky_adds (e : Surroundings ω) (failures : Nat) :
    Adds (pollUnlucky e.watched.read failures) fun g r ds h =>
      ∃ taken, ds = taken.map .took ∧ g.Reads taken r h := by
  induction failures with
  | zero => exact pollWith_adds e
  | succ failures ih =>
      rintro ⟨⟨worker, cell⟩, w, notes⟩
      cases cell with
      | locked last poisoned => exact pollWith_adds e (_, w, notes)
      | lockFree last =>
          have hread : e.watched.read (w, notes)
              = ((e.read w).1, ((e.read w).2, notes ++ [.took (e.read w).1])) := rfl
          -- If this reading ends the poll, it is the only one.
          have hends : ∃ taken, [Deed.took (e.read w).1] = taken.map .took ∧
              Reads ⟨worker, .lockFree last⟩ taken (poll ⟨worker, .lockFree last⟩ (e.read w).1).1
                (poll ⟨worker, .lockFree last⟩ (e.read w).1).2 :=
            ⟨[(e.read w).1], rfl, .once rfl _⟩
          simp only [answer, after, pollUnlucky, bind, StateT.bind, hread]
          cases hjudge : judgeReading last (e.read w).1 with
          | error f => exact ⟨_, rfl, hends⟩
          | ok verdict =>
              cases verdict with
              | answer s => exact ⟨_, rfl, hends⟩
              | issue next =>
                  obtain ⟨ds, hds, taken, rfl, hreads⟩ :=
                    ih (⟨worker, .lockFree last⟩, (e.read w).2, notes ++ [.took (e.read w).1])
                  refine ⟨((e.read w).1 :: taken).map .took, ?_, (e.read w).1 :: taken, rfl,
                    hreads.lost rfl hjudge⟩
                  exact hds.trans (List.append_cons ..).symm

end Generator

/-- A poll without an identifier changes nothing, unless it panics. -/
theorem Generator.Reads.unchanged {g h : Generator} {taken : List Reading} {r : PollResult}
    (hreads : g.Reads taken r h) (hready : ∀ id, r ≠ .ok (.ready id))
    (hpanic : ∀ p, r ≠ .error (.panic p)) : h = g := by
  cases hreads with
  | refused => rfl
  | @judged lost x _ _ hpoisoned hlost hpoll =>
      rcases g.poll_cases hpoisoned x with ⟨next, -, hnext⟩ | ⟨s, -, hsame⟩ | ⟨e, -, hsame⟩ |
        ⟨p, -, hp⟩
      · rw [hpoll] at hnext
        exact absurd hnext (hready next)
      · rw [hpoll] at hsame
        exact congrArg Prod.snd hsame
      · rw [hpoll] at hsame
        exact congrArg Prod.snd hsame
      · rw [hpoll] at hp
        exact absurd hp (hpanic p)

/-- A poll writes down its readings and its result. -/
theorem Surroundings.poll_adds (e : Surroundings ω) :
    Adds e.watchedEffects.poll fun g r ds h =>
      ∃ taken, ds = taken.map .took ++ [.polled r] ∧ g.Reads taken r h := by
  have hpoll : Adds e.watched.effects.poll fun g r ds h =>
      ∃ taken, ds = taken.map .took ∧ g.Reads taken r h :=
    fun p => Generator.pollUnlucky_adds e (e.failures p.2.1).1
      (p.1, (e.failures p.2.1).2, p.2.2)
  refine (hpoll.told .polled).mono ?_
  rintro g r ds h ⟨es, rfl, taken, rfl, hreads⟩
  exact ⟨taken, rfl, hreads⟩

/-! ### A round -/

/-- The looks at the stopwatch before a pause: the budget runs from the instant
given, and so much time has passed since. -/
inductive Looks : Option Instant → Instant → Duration → List Instant → Prop
  | first (start now : Instant) : Looks none start (now.since start) [start, now]
  | next (start now : Instant) : Looks (some start) start (now.since start) [now]

/-- The time since the start is one look, or two when the start is looked for. -/
theorem sinceStart_adds (e : Surroundings ω) (started : Option Instant) :
    Adds (sinceStart e.watchedEffects started) fun g a ds h =>
      h = g ∧ ∃ looked, ds = looked.map .looked ∧ Looks started a.1 a.2 looked := by
  have hlook : Adds e.watchedEffects.instant fun g t ds h => ds = [.looked t] ∧ h = g :=
    .watch .looked e.machine.instant
  have hnow : ∀ start : Instant, Adds (e.watchedEffects.instant >>= fun now =>
      Pure.pure (start, now.since start)) fun g a ds h => h = g ∧
        ∃ now : Instant, ds = [.looked now] ∧ a = (start, now.since start) := by
    intro start
    refine hlook.bind fun now => .pure ?_
    rintro h g ds ⟨rfl, rfl⟩
    exact ⟨rfl, now, rfl, rfl⟩
  unfold sinceStart
  cases started with
  | some start =>
      refine (hnow start).mono ?_
      rintro g a ds h ⟨rfl, now, rfl, rfl⟩
      exact ⟨rfl, [now], rfl, .next start now⟩
  | none =>
      refine hlook.bind fun start => (hnow start).mono ?_
      rintro h a es k ⟨rfl, now, rfl, rfl⟩ g ds ⟨rfl, rfl⟩
      exact ⟨rfl, [start, now], rfl, .first start now⟩

namespace Deed

/-- What a round leaves in the notes: its readings, the result of its poll, and
its looks at the stopwatch. -/
def ofRound (taken : List Reading) (r : PollResult) (looked : List Instant) : List Deed :=
  taken.map took ++ polled r :: looked.map .looked

variable (taken : List Reading) (r : PollResult) (looked : List Instant)

/-- What is read off the notes of a round is read off its three parts. -/
theorem filterMap_ofRound (f : Deed → Option β) :
    (ofRound taken r looked).filterMap f = taken.filterMap (fun x => f (took x))
      ++ (f (polled r)).toList ++ looked.filterMap fun t => f (.looked t) := by
  rw [ofRound, List.filterMap_append, List.filterMap_map, List.append_assoc]
  cases hr : f (polled r) <;> simp [hr, List.filterMap_map]

/-- The readings in the notes of a round are its readings. -/
@[simp] theorem readings_ofRound : readings (ofRound taken r looked) = taken := by
  simp [readings, filterMap_ofRound]

/-- A round has one poll. -/
@[simp] theorem polls_ofRound : polls (ofRound taken r looked) = [r] := by
  simp [polls, filterMap_ofRound]

/-- The looks of a round are those that it is given. -/
@[simp] theorem looks_ofRound : looks (ofRound taken r looked) = looked := by
  simp [looks, filterMap_ofRound]

/-- There is no sleep in the notes of a round. -/
@[simp] theorem sleeps_ofRound : sleeps (ofRound taken r looked) = [] := by
  simp [sleeps, filterMap_ofRound]

variable {taken r looked}

/-- A reading in the notes of a round is one of its readings. -/
theorem ofRound_split {before rest : List Deed} {x : Reading}
    (h : ofRound taken r looked = before ++ took x :: rest) :
    ∃ front back, taken = front ++ x :: back ∧ before = front.map took ∧
      rest = ofRound back r looked := by
  rcases append_eq_append_cons h with ⟨rest, htaken, rfl⟩ | ⟨inside, -, hother⟩
  · obtain ⟨front, back, rfl, rfl, hback⟩ := List.map_eq_append_iff.mp htaken
    obtain ⟨y, back, rfl, hy, rfl⟩ := List.map_eq_cons_iff.mp hback
    cases hy
    exact ⟨front, back, rfl, rfl, rfl⟩
  · -- Behind the result there are only looks.
    have hmem : took x ∈ polled r :: looked.map Deed.looked := by
      rw [hother]
      exact List.mem_append_right _ (.head _)
    simp at hmem

end Deed

/-- After these looks the notes of a call show the start and the time waited. -/
theorem Looks.waited {started : Option Instant} {start : Instant} {waited : Duration}
    {looked : List Instant} (h : Looks started start waited looked) {ds es : List Deed}
    (hstarted : (Deed.looks ds).head? = started) (hes : Deed.looks es = looked) :
    Deed.waited (ds ++ es) = waited ∧ (Deed.looks (ds ++ es)).head? = some start := by
  simp only [Deed.waited, Deed.looks_append, hes]
  cases h with
  | first start now =>
      rw [List.head?_eq_none_iff.mp hstarted]
      exact ⟨rfl, rfl⟩
  | next start now => simp [hstarted]

/-- The notes of a round, with its outcome and the instant that the budget runs
from after it. -/
inductive RoundNotes (o : Options) (started : Option Instant) (g : Generator) :
    Round × Option Instant → List Deed → Generator → Prop
  | fault {taken : List Reading} {f : Fault} {h : Generator} (hreads : g.Reads taken (.error f) h) :
      RoundNotes o started g (.finished (.error f), started) (Deed.ofRound taken (.error f) []) h
  | finish {taken : List Reading} {s : Status} {r : Except Error Flake} {h : Generator}
      (hreads : g.Reads taken (.ok s) h) (hdemand : o.demand s = .finish r) :
      RoundNotes o started g (.finished (r.mapError .error), started)
        (Deed.ofRound taken (.ok s) []) h
  | timed {taken : List Reading} {s : Status} {b : Backoff} {h : Generator} {start : Instant}
      {waited : Duration} {looked : List Instant} (hreads : g.Reads taken (.ok s) h)
      (hdemand : o.demand s = .pause b) (hlooks : Looks started start waited looked) :
      RoundNotes o started g (o.settle b waited, some start) (Deed.ofRound taken (.ok s) looked) h

/-- Every round has notes of this form. -/
theorem round_adds (e : Surroundings ω) (o : Options) (started : Option Instant) :
    Adds (round e.watchedEffects o started) (RoundNotes o started) := by
  rw [round_eq]
  refine e.poll_adds.bind fun r => ?_
  cases r with
  | error f =>
      refine .pure ?_
      rintro h g ds ⟨taken, rfl, hreads⟩
      rw [List.append_nil]
      exact .fault hreads
  | ok s =>
      cases hdemand : o.demand s with
      | finish r =>
          simp only [afterPoll, hdemand]
          refine .pure ?_
          rintro h g ds ⟨taken, rfl, hreads⟩
          rw [List.append_nil]
          exact .finish hreads hdemand
      | pause b =>
          rw [afterPoll_pause _ hdemand]
          refine (sinceStart_adds e started).bind fun a => .pure ?_
          rintro h k es ⟨rfl, looked, rfl, hlooks⟩ g ds ⟨taken, rfl, hreads⟩
          rw [List.append_nil, List.append_assoc]
          exact .timed hreads hdemand hlooks

/-! ### A call -/

/-- The notes of a call that is followed for so many polls, with its result. -/
inductive CallNotes (o : Options) : Nat → Option Instant → Generator →
    Option (Except Fault Flake) → List Deed → Generator → Prop
  | waiting {started : Option Instant} {g : Generator} : CallNotes o 0 started g none [] g
  | ended {left : Nat} {started next : Option Instant} {g h : Generator}
      {result : Except Fault Flake} {ds : List Deed}
      (hround : RoundNotes o started g (.finished result, next) ds h) :
      CallNotes o (left + 1) started g (some result) ds h
  | paused {left : Nat} {started next : Option Instant} {g h k : Generator} {b : Backoff}
      {result : Option (Except Fault Flake)} {ds es : List Deed}
      (hround : RoundNotes o started g (.pausing b, next) ds h)
      (hrest : CallNotes o left next h result es k) :
      CallNotes o (left + 1) started g result (ds ++ b.blocked :: es) k

/-- A round that pauses has polled without an identifier, and the stopwatch has
granted the pause. -/
theorem RoundNotes.pausing {o : Options} {started next : Option Instant} {g k : Generator}
    {b : Backoff} {ds : List Deed} (h : RoundNotes o started g (.pausing b, next) ds k) :
    ∃ taken s wanted start waited looked, ds = Deed.ofRound taken (.ok s) looked ∧
      g.Reads taken (.ok s) g ∧ k = g ∧ o.demand s = .pause wanted ∧
      Looks started start waited looked ∧ o.allow waited wanted = .ok b ∧ next = some start := by
  generalize ha : (Round.pausing b, next) = a at h
  cases h with
  | fault | finish => cases ha
  | @timed taken s wanted _ start waited looked hreads hdemand hlooks =>
      obtain ⟨hsettle, rfl⟩ := Prod.mk.inj ha
      -- A status that asks for a pause is no identifier, and no panic either.
      have hsame : k = g := by
        cases Options.demands hdemand <;> exact hreads.unchanged nofun nofun
      refine ⟨taken, s, wanted, start, waited, looked, rfl, hsame ▸ hreads, hsame, hdemand, hlooks,
        ?_, rfl⟩
      unfold Options.settle at hsettle
      cases hallow : o.allow waited wanted with
      | error e =>
          rw [hallow] at hsettle
          cases hsettle
      | ok granted =>
          rw [hallow] at hsettle
          cases hsettle
          rfl

/-- The pause behind a round is no look. -/
theorem Deed.looks_ofRound_pause (taken : List Reading) (r : PollResult) (looked : List Instant)
    (b : Backoff) : looks (ofRound taken r looked ++ [b.blocked]) = looked := by
  rw [looks_append, looks_ofRound]
  cases b <;> simp [looks, Backoff.blocked]

/-- How a call goes on after one of its rounds. -/
inductive AfterRound (o : Options) : Round × Option Instant → Generator →
    Option (Except Fault Flake) → List Deed → Generator → Prop
  | ended {next : Option Instant} {g : Generator} {result : Except Fault Flake} :
      AfterRound o (.finished result, next) g (some result) [] g
  | paused {left : Nat} {next : Option Instant} {g k : Generator} {b : Backoff}
      {result : Option (Except Fault Flake)} {es : List Deed}
      (hrest : CallNotes o left next g result es k) :
      AfterRound o (.pausing b, next) g result (b.blocked :: es) k

/-- A reading in the notes of a call was taken in one of its rounds. The
generator was then as it was when the call began, and the budget runs from the
first look at the stopwatch. -/
theorem CallNotes.round_of_took {o : Options} {left : Nat} {started : Option Instant}
    {g k : Generator} {result : Option (Except Fault Flake)} {ds before rest prior : List Deed}
    {x : Reading} (h : CallNotes o left started g result ds k)
    (hstarted : (Deed.looks prior).head? = started) (hsplit : ds = before ++ .took x :: rest) :
    ∃ earlier inside round tail a h',
      before = earlier ++ inside ∧ rest = round ++ tail ∧
      RoundNotes o (Deed.looks (prior ++ earlier)).head? g a (inside ++ .took x :: round) h' ∧
      AfterRound o a h' result tail k := by
  induction h generalizing prior before with
  | waiting => exact absurd hsplit (by simp)
  | @ended left started next g h result ds hround =>
      subst hsplit
      refine ⟨[], before, rest, [], (.finished result, next), h, rfl, (List.append_nil _).symm, ?_,
        .ended⟩
      rw [List.append_nil, hstarted]
      exact hround
  | @paused left started next g h k b result ds es hround hrest ih =>
      obtain ⟨taken, s, wanted, start, waited, looked, rfl, -, rfl, -, hlooks, -, rfl⟩ :=
        hround.pausing
      rcases append_eq_append_cons hsplit with ⟨round, hds, rfl⟩ | ⟨inside, rfl, hes⟩
      · -- It was taken in this round.
        refine ⟨[], before, round, b.blocked :: es, (.pausing b, some start), h, rfl, rfl, ?_,
          .paused hrest⟩
        rw [List.append_nil, hstarted, ← hds]
        exact hround
      · -- It was taken later, behind the pause.
        obtain ⟨later, rfl, hlater⟩ : ∃ later, inside = b.blocked :: later ∧
            es = later ++ .took x :: rest := by
          rcases List.cons_eq_append_iff.mp hes with ⟨-, hpause⟩ | ⟨later, hinside, hlater⟩
          · cases b <;> cases hpause
          · exact ⟨later, hinside, hlater⟩
        have hlooked := (hlooks.waited hstarted
          (Deed.looks_ofRound_pause taken (.ok s) looked b)).2
        obtain ⟨earlier, own, round, tail, a, h', rfl, hrest', hown, hafter⟩ := ih hlooked hlater
        refine ⟨Deed.ofRound taken (.ok s) looked ++ b.blocked :: earlier, own, round, tail, a, h',
          ?_, hrest', ?_, hafter⟩
        · simp
        · simpa using hown

/-- A call that returns an error leaves the generator as it was. -/
theorem CallNotes.failed {o : Options} {left : Nat} {started : Option Instant} {g k : Generator}
    {result : Option (Except Fault Flake)} {e : Error} {ds : List Deed}
    (h : CallNotes o left started g result ds k) (hresult : result = some (.error (.error e))) :
    k = g := by
  induction h with
  | waiting => cases hresult
  | @ended left started next g h result ds hround =>
      cases hresult
      -- The round that ended the call had no identifier.
      generalize ha : (Round.finished (.error (.error e)), next) = a at hround
      cases hround with
      | fault hreads =>
          cases ha
          exact hreads.unchanged nofun nofun
      | finish hreads hdemand =>
          cases Options.demands hdemand with
          | ready id => cases ha
          | failing | tooFar => exact hreads.unchanged nofun nofun
      | timed hreads hdemand hlooks =>
          cases Options.demands hdemand <;> exact hreads.unchanged nofun nofun
  | paused hround hrest ih =>
      obtain ⟨-, -, -, -, -, -, -, -, rfl, -⟩ := hround.pausing
      exact ih hresult

/-- Every call has notes of this form, from any start of its budget. -/
theorem callFrom_adds (e : Surroundings ω) (o : Options) (polls : Nat) (started : Option Instant) :
    Adds (callFrom e.watchedEffects e.watchedEffects.block o polls started)
      (CallNotes o polls started) := by
  induction polls generalizing started with
  | zero => exact .pure fun g => .waiting
  | succ polls ih =>
      -- A pause is one note, whichever it is.
      have hblock : ∀ b, Adds (e.watchedEffects.block b) fun g _ ds h =>
          ds = [b.blocked] ∧ h = g := by
        intro b
        cases b with
        | spin yieldFor => exact .watch (fun _ => .yielded) e.machine.yield
        | sleep d => exact .watch (fun _ => .slept d) (e.machine.sleep d)
      refine (round_adds e o started).bind fun a => ?_
      obtain ⟨rd, next⟩ := a
      cases rd with
      | finished result =>
          refine .pure ?_
          intro h g ds hround
          rw [List.append_nil]
          exact .ended hround
      | pausing b =>
          refine (hblock b).bind fun _ => (ih next).mono ?_
          rintro h result es k hrest h' ds' ⟨rfl, rfl⟩ g ds hround
          exact .paused hround hrest

/-- A blocking call has them from the beginning. -/
theorem generate_adds (e : Surroundings ω) (o : Options) (polls : Nat) :
    Adds (generate e.watchedEffects o polls) (CallNotes o polls none) := by
  rw [generate_eq]
  exact callFrom_adds e o polls none

/-! ### The calls for one identifier -/

namespace Cli

/-- `mintOne` with an onlooker, who is told where each call ends. -/
def watchedMintOne (e : Surroundings ω) (o : Options) (polls retries : Nat) :
    StateT Generator (StateM (Watched ω)) (Option (Except Failure Flake)) :=
  mintOneWith (told .called (generate e.watchedEffects o polls)) e.watchedEffects.sleep retries

/-- Being watched changes nothing. -/
theorem mintOne_watched (e : Surroundings ω) (o : Options) (polls retries : Nat) :
    Agree (InWorlds Unwatched) (mintOne e.effects o polls retries)
      (watchedMintOne e o polls retries) fun _ => True := by
  rw [mintOne_eq]
  refine mintOneWith_agree ?_ ?_ retries
  · exact told_agree _ (generate_watched e o polls)
  · exact fun d => (same_watch (fun _ => .slept d) _).lift

/-- The notes of the calls for one identifier, with so many retries left. -/
inductive TriesNotes (o : Options) (polls : Nat) : Nat → Generator →
    Option (Except Failure Flake) → List Deed → Generator → Prop
  | ended {retries : Nat} {g h : Generator} {r : Option (Except Fault Flake)} {ds : List Deed}
      (hcall : CallNotes o polls none g r ds h) (hlast : retries = 0 ∨ retried? r = none) :
      TriesNotes o polls retries g (reported r) (ds ++ [.called r]) h
  | again {retries : Nat} {g h k : Generator} {e : Error} {result : Option (Except Failure Flake)}
      {ds es : List Deed} (hcall : CallNotes o polls none g (some (.error (.error e))) ds h)
      (hretry : e.isRetryable = true) (hrest : TriesNotes o polls retries h result es k) :
      TriesNotes o polls (retries + 1) g result
        (ds ++ .called (some (.error (.error e))) :: .slept (backoff e) :: es) k

/-- So have the calls for one identifier. -/
theorem watchedMintOne_adds (e : Surroundings ω) (o : Options) (polls retries : Nat) :
    Adds (watchedMintOne e o polls retries) (TriesNotes o polls retries) := by
  -- Each call is followed by a note of how it ended.
  have hcall := (generate_adds e o polls).told .called
  unfold watchedMintOne
  induction retries with
  | zero =>
      refine hcall.bind fun r => .pure ?_
      rintro h g ds ⟨es, rfl, hnotes⟩
      rw [List.append_nil]
      exact .ended hnotes (.inl rfl)
  | succ retries ih =>
      refine hcall.bind fun r => ?_
      cases hretried : retried? r with
      | none =>
          refine .pure ?_
          rintro h g ds ⟨es, rfl, hnotes⟩
          rw [List.append_nil]
          exact .ended hnotes (.inr hretried)
      | some f =>
          obtain ⟨rfl, hretry⟩ := retried?_eq_some hretried
          have hsleep : Adds (e.watchedEffects.sleep (backoff f)) fun g _ ds h =>
              ds = [.slept (backoff f)] ∧ h = g :=
            .watch (fun _ => .slept (backoff f)) (e.machine.sleep (backoff f))
          refine hsleep.bind fun _ => ih.mono ?_
          rintro h result fs k hrest h' ds' ⟨rfl, rfl⟩ g ds ⟨es, rfl, hnotes⟩
          rw [List.append_assoc]
          exact .again hnotes hretry hrest

end Cli

end Snowflake
