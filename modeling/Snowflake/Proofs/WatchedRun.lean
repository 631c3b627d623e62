import Snowflake.Cli.Run
import Snowflake.Proofs.Minting

/-!
# `Snowflake.Proofs.WatchedRun`: a run and what an onlooker sees of it

`Snowflake.Proofs.Watched` lets an onlooker take notes of a call. A run of the
program does more than to call: it settles a worker, makes a clock, and writes.
Here the onlooker stands beside the machine (`Machine.watched`), and the run is
the program's own, on that machine.

`SameMachine` compares two machines in related worlds, and `Config.run_same`
shows that a run on the one is a run on the other. So being watched changes
nothing (`Config.run_watched`).

`mint_texts` says what is written. It takes the account of `watchedMint`, whose
onlooker is told more, and compares the texts in the two notes.
-/

set_option autoImplicit false

namespace Snowflake

open Cli

variable {ω ν : Type}

/-- A machine under the eyes of the onlooker. -/
def Machine.watched (mc : Machine (StateM ω)) : Machine (StateM (Watched ω)) where
  wall := inFirst mc.wall
  instant := watch .looked mc.instant
  yield := watch (fun _ => .yielded) mc.yield
  sleep := fun d => watch (fun _ => .slept d) (mc.sleep d)
  write := fun text => watch (fun _ => .wrote text) (mc.write text)

/-! ### The same run on two machines -/

/-- In related worlds the machines do and show the same. -/
structure SameMachine (V : ω → ν → Prop) (mc : Machine (StateM ω)) (other : Machine (StateM ν)) :
    Prop where
  wall : Same V mc.wall other.wall
  instant : Same V mc.instant other.instant
  yield : Same V mc.yield other.yield
  sleep : ∀ d, Same V (mc.sleep d) (other.sleep d)
  write : ∀ text, Same V (mc.write text) (other.write text)

/-- What two generators in related worlds agree on, their worlds agree on. -/
theorem Agree.same {α : Type} {V : ω → ν → Prop} {P : α → Prop}
    {c : StateT Generator (StateM ω) α} {d : StateT Generator (StateM ν) α}
    (h : Agree (InWorlds V) c d P) (g : Generator) : Same V (c g) (d g) := by
  intro w v hV
  obtain ⟨hanswer, -, hgenerator, hworld⟩ := h (g, w) (g, v) ⟨rfl, hV⟩
  exact ⟨Prod.ext hanswer hgenerator, hworld⟩

namespace SameMachine

variable {V : ω → ν → Prop} {mc : Machine (StateM ω)} {other : Machine (StateM ν)}
  (h : SameMachine V mc other)

include h

/-- A clock shows the same on both. -/
theorem read (clock : Clock) : Same V (mc.read clock) (other.read clock) := by
  cases clock with
  | system c => exact h.wall.bind fun wall => .pure _
  | monotonic c start => exact h.instant.bind fun now => .pure _

/-- A clock is made at the same moment, or refused on both. -/
theorem makeClock (kind : ClockKind) (epoch : Duration) :
    Same V (mc.makeClock kind epoch) (other.makeClock kind epoch) := by
  refine h.wall.bind fun wall => ?_
  cases kind with
  | system => exact .pure _
  | monotonic => exact h.instant.bind fun start => .pure _

/-- A blocking call is the same on both. -/
theorem generate (clock : Clock) (o : Options) (polls : Nat) :
    Agree (InWorlds V) (generate (mc.effects clock) o polls)
      (generate (other.effects clock) o polls) fun _ => True := by
  -- The generator of a program is polled in surroundings without spurious failures.
  rw [Machine.effects, Machine.effects, ← Surroundings.effects_eq, ← Surroundings.effects_eq,
    generate_eq, generate_eq]
  refine callFrom_agree ?_ h.instant.lift ?_ o polls none
  · exact Surroundings.poll_agree (h.read clock) (.pure 0)
  · intro b _
    cases b with
    | spin yieldFor => exact h.yield.lift
    | sleep d => exact (h.sleep d).lift

/-- A run of `mint` is the same on both. -/
theorem mint (clock : Clock) (o : Options) (polls : Nat) (format : Format) (epoch : Duration)
    (count : Nat) :
    Agree (InWorlds V)
      (mint (mc.effects clock) (fun text => StateT.lift (mc.write text)) o polls format epoch count)
      (mint (other.effects clock) (fun text => StateT.lift (other.write text)) o polls format epoch
        count) fun _ => True := by
  rw [mint_eq, mint_eq]
  exact mintWith_agree (h.generate clock o polls) (fun d => (h.sleep d).lift)
    (fun text => (h.write text).lift) format epoch count

/-- A whole run of the program is the same on both. -/
theorem run (c : Config) (env : Environment) (polls : Nat) :
    Same V (c.run mc env polls) (c.run other env polls) := by
  unfold Config.run
  cases c.command with
  | decode text =>
      have hdecode : Same V (decode mc.write text c.epoch) (decode other.write text c.epoch) := by
        unfold decode
        cases decodeText text c.epoch with
        | error f => exact .pure _
        | ok out => exact (h.write out).bind fun _ => .pure _
      exact hdecode.bind fun r => .pure _
  | generate count format =>
      -- A run that issues settles its worker and its clock first, and either
      -- may fail.
      simp only [Config.generate]
      cases c.worker env with
      | error f => exact .pure _
      | ok worker =>
          refine (h.makeClock c.clock c.epoch).bind fun clock? => ?_
          cases clock? with
          | error e => exact .pure _
          | ok clock =>
              have hmint := h.mint clock c.options polls format c.epoch count
              exact (hmint.same (.new c.generator worker)).bind fun r => .pure _

end SameMachine

/-- Being watched changes nothing. -/
theorem Cli.Config.run_watched (mc : Machine (StateM ω)) (c : Config) (env : Environment)
    (polls : Nat) (w : ω) (notes : List Deed) :
    c.run mc env polls w = ((c.run mc.watched env polls (w, notes)).1,
      (c.run mc.watched env polls (w, notes)).2.1) := by
  have hsame : SameMachine Unwatched mc mc.watched :=
    ⟨same_inFirst _, same_watch _ _, same_watch _ _, fun _ => same_watch _ _,
      fun _ => same_watch _ _⟩
  obtain ⟨hanswer, hworld⟩ := hsame.run c env polls w (w, notes) rfl
  exact Prod.ext hanswer.symm (Eq.symm hworld)

/-! ### What is written -/

/-- The world is the same, and so are the texts in the notes. -/
def SameTexts (w v : Watched ω) : Prop := v.1 = w.1 ∧ Deed.texts v.2 = Deed.texts w.2

namespace SameTexts

variable {α : Type}

/-- Both onlookers note the deed. -/
theorem watch (deed : α → Deed) (c : StateM ω α) :
    Same SameTexts (watch deed c) (watch deed c) := by
  rintro ⟨w, notes⟩ ⟨_, others⟩ ⟨rfl, htexts⟩
  refine ⟨rfl, rfl, ?_⟩
  show Deed.texts (others ++ [deed _]) = Deed.texts (notes ++ [deed _])
  rw [Deed.texts_append, Deed.texts_append, htexts]

/-- What the onlooker does not note leaves the texts alone. -/
theorem inFirst (c : StateM ω α) : Same SameTexts (inFirst c) (inFirst (ν := List Deed) c) := by
  rintro ⟨w, notes⟩ ⟨_, others⟩ ⟨rfl, htexts⟩
  exact ⟨rfl, rfl, htexts⟩

/-- What only one onlooker is told leaves the texts the same. -/
theorem told {c d : StateT Generator (StateM (Watched ω)) α} {P : α → Prop} {deed : α → Deed}
    (hdeed : ∀ a, Deed.texts [deed a] = []) (h : Agree (InWorlds SameTexts) c d P) :
    Agree (InWorlds SameTexts) c (told deed d) P := by
  intro p q hR
  obtain ⟨hanswer, hP, hgenerator, hworld, htexts⟩ := h p q hR
  refine ⟨hanswer, hP, hgenerator, hworld, ?_⟩
  show Deed.texts ((after d q).2.2 ++ [deed (answer d q)]) = Deed.texts (after c p).2.2
  rw [Deed.texts_append, hdeed, List.append_nil, htexts]

/-- An onlooker sees where a clock looks for its readings. Another one is told
the readings instead. -/
theorem read (mc : Machine (StateM ω)) (clock : Clock) :
    Same SameTexts (mc.watched.read clock) (Snowflake.watch .took (mc.read clock)) := by
  rintro ⟨w, notes⟩ ⟨_, others⟩ ⟨rfl, htexts⟩
  -- A reading is no text.
  have htook : ∀ r, Deed.texts (others ++ [.took r]) = Deed.texts notes := by
    intro r
    rw [Deed.texts_append, htexts]
    exact List.append_nil _
  cases clock with
  | system c => exact ⟨rfl, rfl, htook _⟩
  | monotonic c start =>
      refine ⟨rfl, rfl, (htook _).trans ?_⟩
      show Deed.texts notes = Deed.texts (notes ++ [.looked _])
      rw [Deed.texts_append]
      exact (List.append_nil _).symm

/-- Calls with either onlooker leave the same texts. -/
theorem generate (mc : Machine (StateM ω)) (clock : Clock) (o : Options) (polls : Nat) :
    Agree (InWorlds SameTexts) (generate (mc.watched.effects clock) o polls)
      (generate (Surroundings.mk mc (mc.read clock) (pure 0)).watchedEffects o polls)
      fun _ => True := by
  rw [Machine.effects, ← Surroundings.effects_eq, generate_eq, generate_eq]
  refine callFrom_agree ?_ (SameTexts.watch .looked mc.instant).lift ?_ o polls none
  · exact SameTexts.told (fun _ => rfl)
      (Surroundings.poll_agree (read mc clock) (SameTexts.inFirst (pure 0)))
  · intro b _
    cases b with
    | spin yieldFor => exact (SameTexts.watch (fun _ => .yielded) mc.yield).lift
    | sleep d => exact (SameTexts.watch (fun _ => .slept d) (mc.sleep d)).lift

/-- A run of `mint` leaves the same texts, and the second onlooker is told of
its calls. -/
theorem mint (mc : Machine (StateM ω)) (clock : Clock) (o : Options) (polls : Nat)
    (format : Format) (epoch : Duration) (count : Nat) :
    Agree (InWorlds SameTexts)
      (mint (mc.watched.effects clock) (fun text => StateT.lift (mc.watched.write text)) o polls
        format epoch count)
      (watchedMint ⟨mc, mc.read clock, pure 0⟩ o polls format epoch count) fun _ => True := by
  rw [mint_eq]
  refine mintWith_agree ?_ ?_ ?_ format epoch count
  · exact SameTexts.told (fun _ => rfl) (SameTexts.generate mc clock o polls)
  · exact fun d => (SameTexts.watch (fun _ => .slept d) (mc.sleep d)).lift
  · exact fun text => (SameTexts.watch (fun _ => .wrote text) (mc.write text)).lift

end SameTexts

/-- What a run writes on a machine: the lines of identifiers that the generator
issues one after another. -/
theorem mint_texts (mc : Machine (StateM ω)) (clock : Clock) (o : Options) (polls : Nat)
    (format : Format) (epoch : Duration) (count : Nat) (g : Generator) (w : ω) (notes : List Deed)
    (hnotes : Deed.texts notes = []) :
    let run := mint (mc.watched.effects clock) (fun text => StateT.lift (mc.watched.write text)) o
      polls format epoch count
    ∃ ids last, Issues g.cell.last ids last ∧
      Deed.texts (after run (g, (w, notes))).2.2
        = ids.map fun id => format.line epoch id ++ "\n" := by
  intro run
  -- The account is kept by the second onlooker, and the texts are those of the
  -- first.
  obtain ⟨-, -, -, -, htexts⟩ := SameTexts.mint mc clock o polls format epoch count
    (g, (w, notes)) (g, (w, [])) ⟨rfl, rfl, hnotes.symm⟩
  obtain ⟨tries, ids, -, -, hdoes⟩ :=
    watchedMint_does ⟨mc, mc.read clock, pure 0⟩ o polls format epoch count (g, (w, []))
  exact ⟨ids, _, hdoes.issues, htexts.symm.trans hdoes.texts⟩

end Snowflake
