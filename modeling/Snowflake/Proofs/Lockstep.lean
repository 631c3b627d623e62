import Snowflake.Proofs.Watched

/-!
# `Snowflake.Proofs.Lockstep`: the asynchronous call keeps step with the blocking one

The two calls are two loops over the same rounds. The blocking one gives up the
processor when a millisecond is used up, and sleeps when the clock is behind.
The asynchronous one hands every pause to a sleep of its caller's.

`generateAsync_keeps_step` shows that this is the only difference. Take the
same generator, clock and stopwatch, and any sleep that comes to an end. Then
an onlooker's notes of the asynchronous call are those of the blocking call,
with a sleep of one millisecond wherever the processor was given up.

The clock and the stopwatch are those of `clocks`, and what a pause does to the
rest of the world has no influence on them (`Surroundings.apart`). Otherwise
the two calls would not see the same readings: that is what a pause is for.
-/

set_option autoImplicit false

namespace Snowflake

variable {ω π ρ : Type}

/-- Surroundings whose pauses and texts concern one part of the world, and
whose clocks belong to the other. -/
def Surroundings.apart (clocks : Surroundings ω) (rest : Machine (StateM π)) :
    Surroundings (ω × π) where
  machine :=
    { wall := inFirst clocks.machine.wall
      instant := inFirst clocks.machine.instant
      yield := inSecond rest.yield
      sleep := fun d => inSecond (rest.sleep d)
      write := fun text => inSecond (rest.write text) }
  read := inFirst clocks.read
  failures := inFirst clocks.failures

/-- A sleep of the caller's own, under the eyes of the onlooker. -/
def askFor (sleepFor : Duration → StateM π Unit) (d : Duration) :
    StateT Generator (StateM (Watched (ω × π))) Unit :=
  StateT.lift (watch (fun _ => .slept d) (inSecond (sleepFor d)))

/-- What the asynchronous call does in place of a deed of the blocking one. -/
def Deed.awaited : Deed → Deed
  | yielded => slept (.ofMillis 1)
  | deed => deed

/-- The readings are the same, as only pauses change. -/
theorem Deed.readings_map_awaited (deeds : List Deed) :
    readings (deeds.map awaited) = readings deeds := by
  rw [readings, readings, List.filterMap_map]
  refine List.filterMap_congr fun deed _ => ?_
  cases deed <;> rfl

/-- The clocks are the same, and so are the notes but for the pauses. -/
def InStep (w : Watched (ω × π)) (v : Watched (ω × ρ)) : Prop :=
  v.1.1 = w.1.1 ∧ v.2 = w.2.map Deed.awaited

namespace InStep

variable {α : Type}

/-- Both look at a clock, and the onlooker notes what they see. -/
theorem watch_clock {deed : α → Deed} (hdeed : ∀ a, (deed a).awaited = deed a)
    (c : StateM ω α) :
    Same (InStep (π := π) (ρ := ρ)) (watch deed (inFirst c)) (watch deed (inFirst c)) := by
  rintro ⟨⟨w, x⟩, notes⟩ ⟨⟨v, y⟩, others⟩ ⟨hclock, hnotes⟩
  obtain rfl : v = w := hclock
  refine ⟨rfl, rfl, ?_⟩
  show others ++ [deed (c v).1] = (notes ++ [deed (c v).1]).map Deed.awaited
  rw [List.map_append, List.map_singleton, hdeed, show others = notes.map _ from hnotes]

/-- Both look at a clock that the onlooker does not note. -/
theorem clock (c : StateM ω α) :
    Same (InStep (π := π) (ρ := ρ)) (inFirst (inFirst c)) (inFirst (inFirst c)) := by
  rintro ⟨⟨w, x⟩, notes⟩ ⟨⟨v, y⟩, others⟩ ⟨hclock, hnotes⟩
  obtain rfl : v = w := hclock
  exact ⟨rfl, rfl, hnotes⟩

/-- Each pauses in its own way. -/
theorem pause {deed other : Deed} (hdeed : deed.awaited = other) (c : StateM π Unit)
    (d : StateM ρ Unit) :
    Same (InStep (ω := ω)) (watch (fun _ => deed) (inSecond c))
      (watch (fun _ => other) (inSecond d)) := by
  rintro ⟨⟨w, x⟩, notes⟩ ⟨⟨v, y⟩, others⟩ ⟨hclock, hnotes⟩
  refine ⟨rfl, hclock, ?_⟩
  show others ++ [other] = (notes ++ [deed]).map Deed.awaited
  rw [List.map_append, List.map_singleton, hdeed, show others = notes.map _ from hnotes]

/-- The onlooker is told the same of both. -/
theorem told {c : StateT Generator (StateM (Watched (ω × π))) α}
    {d : StateT Generator (StateM (Watched (ω × ρ))) α} {P : α → Prop} {deed : α → Deed}
    (hdeed : ∀ a, (deed a).awaited = deed a) (h : Agree (InWorlds InStep) c d P) :
    Agree (InWorlds InStep) (told deed c) (told deed d) P := by
  intro p q hR
  obtain ⟨hanswer, hP, hgenerator, hclock, hnotes⟩ := h p q hR
  refine ⟨hanswer, hP, hgenerator, hclock, ?_⟩
  show (after d q).2.2 ++ [deed (answer d q)]
    = ((after c p).2.2 ++ [deed (answer c p)]).map Deed.awaited
  rw [List.map_append, List.map_singleton, hdeed, hanswer, hnotes]

end InStep

/-- Take a generator of either kind in any state, any clock and stopwatch, how
often its swaps fail for no reason, any options, and any sleep that the caller
of the asynchronous call provides. Follow both calls for the same number of
polls.

They give the same answer: the same identifier, the same error, the same panic,
or both are still waiting. They leave the same generator, and the clocks at the
same point, after the same readings. Their polls are the same, and they pause
after the same ones. Where the blocking call gives up the processor the other
asks for one millisecond, and where it sleeps the other asks for just as long.

The blocking call for a signed integer gives the identifier of these calls as
one. -/
theorem generateAsync_keeps_step (clocks : Surroundings ω) (rest : Machine (StateM π))
    (other : Machine (StateM ρ)) (sleepFor : Duration → StateM ρ Unit) (o : Options)
    (polls : Nat) (g : Generator) (w : ω) (x : π) (y : ρ) :
    let blocking := (clocks.apart rest).watchedEffects
    let asynchronous := (clocks.apart other).watchedEffects
    let ((r, h), ((v, _), deeds)) := generate blocking o polls g ((w, x), [])
    let ((r', h'), ((v', _), deeds')) :=
      generateAsync asynchronous (askFor sleepFor) o polls g ((w, y), [])
    r' = r ∧ h' = h ∧ v' = v ∧
    Deed.readings deeds' = Deed.readings deeds ∧
    deeds' = deeds.map Deed.awaited ∧
    (generateInt64 blocking o polls g ((w, x), [])).1
      = (r.map fun r => r.map Flake.toInt64, h) := by
  intro blocking asynchronous
  have hstep : Agree (InWorlds InStep) (generate blocking o polls)
      (generateAsync asynchronous (askFor sleepFor) o polls) fun _ => True := by
    -- Both are the same loop, so only the steps between the polls are
    -- compared.
    rw [generate_eq, generateAsync_eq]
    refine callFrom_agree ?_ (InStep.watch_clock (fun _ => rfl) _).lift ?_ o polls none
    · exact InStep.told (fun _ => rfl)
        (Surroundings.poll_agree (InStep.watch_clock (fun _ => rfl) _) (InStep.clock _))
    · intro b htick
      cases b with
      | spin yieldFor =>
          -- The only wait that a used-up millisecond asks for is one millisecond.
          cases htick
          exact (InStep.pause rfl _ _).lift
      | sleep d => exact (InStep.pause rfl _ _).lift
  obtain ⟨hanswer, -, hgenerator, hclock, hnotes⟩ :=
    hstep (g, ((w, x), [])) (g, ((w, y), [])) ⟨rfl, rfl, rfl⟩
  have hreadings := congrArg Deed.readings hnotes
  rw [Deed.readings_map_awaited] at hreadings
  exact ⟨hanswer, hgenerator, hclock, hreadings, hnotes, rfl⟩

end Snowflake
