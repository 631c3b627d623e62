import Snowflake.Proofs.Contention.Journal
import Snowflake.Proofs.Sequential

/-!
# `Snowflake.Proofs.Contention.Linearization`: overlapping polls, one at a time

Polls of the lock-free kind overlap. `lockFree_refines_locked` puts those that
have returned into one order, such that the locked kind, polled in that order
without overlap, gives the same results and keeps the same last identifier. A
poll that ends before another begins stands before it.

Where does a poll stand in the order? One that issues an identifier takes
effect with its swap, when it ends. One that issues nothing takes effect
earlier, when it saw the word that it answers about. Between that and its end
rivals may have replaced the word, and have returned. Such a poll is put before
theirs.

Hence the invariant `Journal.Linear` keeps more than an order. For each caller
that has seen a word and has not compared it yet, it keeps the place in the
order where that word was the last identifier, and knows that every poll after
that place ended no earlier than the caller's poll began.

A poll that a panic of the clock unwinds returns nothing, and is not in the
order. It leaves the word alone, while the locked kind would be poisoned.
-/

set_option autoImplicit false

namespace Snowflake

/-- The locked kind at the identifier `seen`, given the last reading of the
poll, has the result of the poll and goes on from `next`. -/
def Span.Replays (p : Span) (seen next : Flake) : Prop :=
  ∃ r, p.readings.getLast? = some r ∧ Cell.critical seen r = (p.result, .locked next false)

/-- The last reading of a poll settles where the locked kind goes from it. -/
theorem Span.Replays.unique {p : Span} {seen next other : Flake} (h : p.Replays seen next)
    (hother : p.Replays seen other) : next = other := by
  obtain ⟨r, hr, hnext⟩ := h
  obtain ⟨s, hs, hsame⟩ := hother
  rw [hr] at hs
  cases hs
  rw [hnext] at hsame
  cases hsame
  rfl

/-- The locked kind goes through a list of polls, from the identifier `first`
to the identifier `last`. -/
inductive Replay : Flake → List Span → Flake → Prop
  | nil (first : Flake) : Replay first [] first
  | cons {first next last : Flake} {p : Span} {order : List Span} (hp : p.Replays first next)
      (hrest : Replay next order last) : Replay first (p :: order) last

namespace Replay

variable {first seen last : Flake} {before after : List Span}

/-- Two replays one after the other. -/
theorem append (h : Replay first before seen) (hafter : Replay seen after last) :
    Replay first (before ++ after) last := by
  induction h with
  | nil first => exact hafter
  | cons hp hrest ih => exact .cons hp (ih hafter)

/-- A list of polls leads from one identifier to one only. -/
theorem unique {other : Flake} (h : Replay first before last) (hother : Replay first before other) :
    last = other := by
  induction h with
  | nil first =>
      cases hother
      rfl
  | cons hp hrest ih =>
      cases hother with
      | cons hq hotherRest =>
          cases hp.unique hq
          exact ih hotherRest

/-- A replay of two lists goes on from where the first ends. -/
theorem rest (h : Replay first (before ++ after) last) (hbefore : Replay first before seen) :
    Replay seen after last := by
  induction hbefore with
  | nil first => exact h
  | cons hp hrest ih =>
      cases h with
      | cons hq hall =>
          cases hp.unique hq
          exact ih hall

/-- A poll that goes on from where it started can be put there. -/
theorem insert {p : Span} (h : Replay first (before ++ after) last)
    (hbefore : Replay first before seen) (hp : p.Replays seen seen) :
    Replay first (before ++ p :: after) last :=
  hbefore.append (.cons hp (h.rest hbefore))

/-- A replay is a run of the locked kind, polled in order with the last reading
of each poll. -/
theorem pollAll (worker : WorkerId) {order : List Span} (h : Replay first order last) :
    ∃ readings, (order.map fun p => p.readings.getLast?) = readings.map some ∧
      Generator.pollAll ⟨worker, .locked first false⟩ readings
        = (order.map Span.result, ⟨worker, .locked last false⟩) := by
  induction h with
  | nil first => exact ⟨[], rfl, rfl⟩
  | @cons first next last p order hp hrest ih =>
      obtain ⟨r, hr, hcritical⟩ := hp
      obtain ⟨readings, hreadings, hall⟩ := ih
      refine ⟨r :: readings, ?_, ?_⟩
      · rw [List.map_cons, List.map_cons, hr, hreadings]
      · have hpoll : Generator.poll ⟨worker, .locked first false⟩ r
            = (p.result, ⟨worker, .locked next false⟩) := by
          simp only [Generator.poll, Cell.poll, hcritical]
        simp only [Generator.pollAll, hpoll, hall, List.map_cons]

end Replay

/-- At some place in the order `seen` was the last identifier, and every poll
after that place ended at the step `began` or later. -/
def Stood (first : Flake) (order : List Span) (began : Nat) (seen : Flake) : Prop :=
  ∃ before after, order = before ++ after ∧ Replay first before seen ∧
    ∀ p ∈ after, began ≤ p.ended

/-- The last identifier stands at the end. -/
theorem Replay.stood {first last : Flake} {order : List Span} (h : Replay first order last)
    (began : Nat) : Stood first order began last := by
  refine ⟨order, [], (List.append_nil order).symm, h, ?_⟩
  intro p hp
  cases hp

/-- A poll is put into the order. It issues nothing, or nothing comes after it.
Then what stood in the order before still does. -/
theorem Stood.place {first seen next other : Flake} {before after : List Span} {p : Span}
    {began : Nat} (h : Stood first (before ++ after) began other)
    (hbefore : Replay first before seen) (hp : p.Replays seen next)
    (hquiet : next = seen ∨ after = []) (hended : began ≤ p.ended) :
    Stood first (before ++ p :: after) began other := by
  obtain ⟨early, late, heq, hearly, hlate⟩ := h
  -- Where the other word stood, before or after the place of the new poll?
  rcases List.append_eq_append_iff.mp heq with ⟨between, rfl, rfl⟩ | ⟨between, rfl, rfl⟩
  · rcases hquiet with rfl | hnil
    · -- The poll is put before the place.
      refine ⟨before ++ p :: between, late, ?_, hearly.insert hbefore hp, hlate⟩
      rw [List.append_assoc, List.cons_append]
    · -- The place is the end, and the poll comes after it.
      obtain ⟨rfl, rfl⟩ := List.append_eq_nil_iff.mp hnil
      refine ⟨before, [p], rfl, ?_, ?_⟩
      · rw [List.append_nil] at hearly
        exact hearly
      · intro q hq
        cases List.mem_singleton.mp hq
        exact hended
  · -- The poll is put after the place.
    refine ⟨early, between ++ p :: after, ?_, hearly, ?_⟩
    · rw [List.append_assoc]
    · intro q hq
      rcases List.mem_append.mp hq with hbetween | hrest
      · exact hlate q (List.mem_append_left _ hbetween)
      · rcases List.mem_cons.mp hrest with rfl | hafter
        · exact hended
        · exact hlate q (List.mem_append_right _ hafter)

namespace Journal

/-- An order of the polls that have returned, and what is known of it. -/
structure Linear (first : Flake) (order : List Span) (j : Journal) : Prop where
  lockFree : j.arena.cell = .lockFree j.last
  perm : order.Perm j.returned
  /-- No poll stands before one that had ended when it began. -/
  timely : order.Pairwise fun p q => ¬ q.ended < p.began
  replay : Replay first order j.last
  /-- What a caller has seen was the last identifier while its poll ran. -/
  loaded : ∀ caller seen, j.arena.stage caller = .loaded seen →
    Stood first order (j.began caller) seen

/-- Before any step there is nothing to order. -/
theorem linear_start (first : Flake) : (start (.lockFree first)).Linear first [] where
  lockFree := rfl
  perm := .nil
  timely := .nil
  replay := .nil first
  loaded := by
    intro caller seen h
    cases h

/-- A step does not change when the others began. -/
theorem began_note_of_ne {j : Journal} {caller other : Nat} (m : Move) (a : Arena)
    (result : Option PollResult) (h : other ≠ caller) :
    (j.note caller m a result).began other = j.began other :=
  if_neg h

/-- A step adds the poll that it ends to those that returned, if it returns. -/
theorem returned_note (j : Journal) (caller : Nat) (m : Move) (a : Arena)
    (result : Option PollResult) :
    (j.note caller m a result).returned
      = j.returned ++ ((result.map (j.ending caller m)).toList.filter Span.returned) :=
  List.filter_append ..

namespace Linear

variable {first : Flake} {order : List Span} {j : Journal} {caller : Nat} {m : Move} {a : Arena}

/-- A step that returns nothing and leaves the word alone keeps the order. If
its caller has seen a word then, it is the one in the cell. -/
theorem keep (h : j.Linear first order) {result : Option PollResult}
    (htakes : j.arena.Takes caller m a result) (hcell : a.cell = j.arena.cell)
    (hresult : (result.map (j.ending caller m)).toList.filter Span.returned = [])
    (hcaller : ∀ seen, a.stage caller = .loaded seen → seen = j.last) :
    (j.note caller m a result).Linear first order where
  lockFree := by
    show a.cell = .lockFree a.cell.last
    rw [hcell]
    exact h.lockFree
  perm := by
    rw [returned_note, hresult, List.append_nil]
    exact h.perm
  timely := h.timely
  replay := by
    show Replay first order a.cell.last
    rw [hcell]
    exact h.replay
  loaded := by
    intro c seen hstage
    by_cases hc : c = caller
    · subst hc
      rw [hcaller seen hstage]
      exact h.replay.stood _
    · rw [began_note_of_ne m a result hc]
      exact h.loaded c seen ((htakes.stage_of_ne hc).symm.trans hstage)

/-- A step that ends a poll puts it into the order, at a place where it has the
result that it has, and after which no poll had ended when it began. -/
theorem place {before after : List Span} (h : j.Linear first (before ++ after)) (hj : j.Sound)
    {r : PollResult} (htakes : j.arena.Takes caller m a (some r))
    (hreturned : (j.ending caller m r).returned) (hidle : a.stage caller = .idle)
    (hcell : a.cell = .lockFree a.cell.last) {seen next : Flake}
    (hbefore : Replay first before seen) (hp : (j.ending caller m r).Replays seen next)
    (hrest : Replay next after a.cell.last) (hquiet : next = seen ∨ after = [])
    (hafter : ∀ q ∈ after, j.opening caller ≤ q.ended) :
    (j.note caller m a (some r)).Linear first (before ++ j.ending caller m r :: after) where
  lockFree := hcell
  perm := by
    -- The poll that ends is the newest of those that returned, wherever the
    -- order puts it.
    have hadded : (j.note caller m a (some r)).returned = j.returned ++ [j.ending caller m r] := by
      rw [returned_note]
      exact congrArg _ (List.filter_cons_of_pos hreturned)
    rw [hadded]
    exact (List.perm_middle.trans (h.perm.cons _)).trans (List.perm_append_singleton _ _).symm
  timely := by
    obtain ⟨hfront, hback, hacross⟩ := List.pairwise_append.mp h.timely
    refine List.pairwise_append.mpr ⟨hfront, List.pairwise_cons.mpr ⟨?_, hback⟩, ?_⟩
    · intro q hq
      exact Nat.not_lt_of_le (hafter q hq)
    · intro p hp q hq
      rcases List.mem_cons.mp hq with rfl | hq
      · -- The poll ends with this step, after every other one has begun.
        have hmem := h.perm.mem_iff.mp (List.mem_append_left after hp)
        obtain ⟨hle, hlt⟩ := hj.spans p (List.mem_filter.mp hmem).1
        exact Nat.not_lt_of_le (Nat.le_of_lt (Nat.lt_of_le_of_lt hle hlt))
      · exact hacross p hp q hq
  replay := hbefore.append (.cons hp hrest)
  loaded := by
    intro c other hstage
    by_cases hc : c = caller
    · subst hc
      rw [show (j.note c m a (some r)).arena.stage c = .idle from hidle] at hstage
      cases hstage
    · have hloaded : j.arena.stage c = .loaded other := (htakes.stage_of_ne hc).symm.trans hstage
      rw [began_note_of_ne m a (some r) hc]
      refine (h.loaded c other hloaded).place hbefore hp hquiet (Nat.le_of_lt (hj.began_lt c ?_))
      rw [hloaded]
      exact nofun

/-- A poll that answers about the word that it has seen is put where that word
was the last identifier. -/
theorem answer (h : j.Linear first order) (hj : j.Sound) {seen : Flake} {r : Reading}
    {result : PollResult} (hstage : j.arena.stage caller = .loaded seen)
    (htakes : j.arena.Takes caller (.read r) (j.arena.move caller .idle) (some result))
    (hreturned : (j.ending caller (.read r) result).returned)
    (hcritical : Cell.critical seen r = (result, .locked seen false)) :
    ∃ order, (j.note caller (.read r) (j.arena.move caller .idle) (some result)).Linear
      first order := by
  -- The order is cut where the word was the last identifier.
  obtain ⟨before, after, rfl, hbefore, hafter⟩ := h.loaded caller seen hstage
  have hopening : j.opening caller = j.began caller := by
    refine opening_of_stage ?_
    rw [hstage]
    exact nofun
  refine ⟨_, h.place hj htakes hreturned (Arena.stage_move_self ..) h.lockFree hbefore ?_
    (h.replay.rest hbefore) (.inl rfl) ?_⟩
  · exact ⟨r, takenWith_getLast? rfl, hcritical⟩
  · rw [hopening]
    exact hafter

/-- Every step keeps some order of the polls. -/
theorem note (h : j.Linear first order) (hj : j.Sound) {result : Option PollResult}
    (htakes : j.arena.Takes caller m a result) :
    ∃ order, (j.note caller m a result).Linear first order := by
  have hstep := htakes
  cases htakes with
  | load hcell hstage =>
      refine ⟨order, h.keep hstep rfl rfl ?_⟩
      intro seen hseen
      rw [Arena.stage_move_self] at hseen
      cases hseen
      exact (last_of_cell hcell).symm
  | propose hstage hjudge =>
      refine ⟨order, h.keep hstep rfl rfl ?_⟩
      intro seen hseen
      rw [Arena.stage_move_self] at hseen
      cases hseen
  | answer hstage hjudge =>
      exact h.answer hj hstage hstep rfl (Cell.poll_answer .locked hjudge)
  | @fail seen r fault hstage hjudge =>
      cases fault with
      | error e => exact h.answer hj hstage hstep rfl (Cell.poll_error .locked hjudge)
      | panic p =>
          refine ⟨order, h.keep hstep rfl rfl ?_⟩
          intro seen hseen
          rw [Arena.stage_move_self] at hseen
          cases hseen
  | lose hcell hstage hlost =>
      refine ⟨order, h.keep hstep rfl rfl ?_⟩
      intro seen hseen
      rw [Arena.stage_move_self] at hseen
      cases hseen
      exact (last_of_cell hcell).symm
  | @win seen next hcell hstage =>
      -- The word that was seen is the last identifier now, so the poll is put at
      -- the end.
      obtain ⟨now, htaken, hfollows⟩ := hj.proposals caller seen next hstage
      have hlast : j.last = seen := last_of_cell hcell
      have hjudge : judgeReading seen (.millis now) = .ok (.issue next) :=
        judge_issue_iff.mpr hfollows
      have hend : j.Linear first (order ++ []) := by
        rw [List.append_nil]
        exact h
      refine ⟨_, hend.place hj hstep rfl (Arena.stage_move_self ..) rfl h.replay ?_ (.nil next)
        (.inr rfl) ?_⟩
      · refine ⟨.millis now, ?_, ?_⟩
        · show (j.takenWith caller (.swap false)).getLast? = _
          rw [takenWith_swap hstage]
          exact htaken
        · rw [hlast]
          exact Cell.poll_issue .locked hjudge
      · intro q hq
        cases hq
  | refused hcell hstage =>
      rw [h.lockFree] at hcell
      cases hcell
  | pass hcell hstage =>
      rw [h.lockFree] at hcell
      cases hcell

end Linear

/-- Every run of the lock-free kind has an order. -/
theorem linear_run {first : Flake} {moves : List (Nat × Move)} {j : Journal}
    (h : (start (.lockFree first)).run moves = some j) : ∃ order, j.Linear first order := by
  refine sound_invariant (P := fun k => ∃ order, k.Linear first order) ?_
    ⟨[], linear_start first⟩ h
  intro k caller m a result hsound ⟨order, hlinear⟩ htakes
  exact hlinear.note hsound htakes

/-- Without overlap, the order is the one in which the polls ended. -/
theorem Linear.eq_returned {first : Flake} {order : List Span} {j : Journal}
    (h : j.Linear first order) (hj : j.Sound)
    (hapart : j.returned.Pairwise fun p q => p.ended < q.began) : order = j.returned := by
  -- Of two polls, one ends before the other begins.
  have heither : ∀ ⦃p⦄, p ∈ j.returned → ∀ ⦃q⦄, q ∈ j.returned → p ≠ q →
      p.ended < q.began ∨ q.ended < p.began := by
    refine List.Pairwise.forall_of_forall_of_flip ?_ ?_ ?_
    · intro p _ hne
      exact absurd rfl hne
    · exact hapart.imp fun hlt _ => .inl hlt
    · exact hapart.imp fun hlt _ => .inr hlt
  have hends : j.returned.Pairwise fun p q => ¬ q.ended < p.began := by
    refine (hj.ordered.sublist List.filter_sublist).imp_of_mem ?_
    intro p q hp hq hlt hback
    have hspan := (hj.spans p (List.mem_filter.mp hp).1).1
    omega
  -- Both lists are sorted by a relation that holds in one direction only.
  refine List.Perm.eq_of_pairwise ?_ h.timely hends h.perm
  intro p q hp hq hpq hqp
  refine Classical.byContradiction fun hne => ?_
  rcases heither (h.perm.mem_iff.mp hp) hq hne with hlt | hlt
  · exact hqp hlt
  · exact hpq hlt

end Journal

/-- Preload a generator of each kind with the same fields.

In every run of the lock-free one, by any number of callers and with any
readings, the polls that return can be put into an order such that no poll
stands before one that had ended when it began, and the locked one, polled in
that order with the last reading of each poll, gives each poll its result and
ends with the same last identifier. Where polls do not overlap, that is the
order in which they end. A poll that a panic of the clock unwinds does not
return.

On every script of readings, polled one after another, both give the results of
the algorithm of the specification, and keep its fields. -/
theorem lockFree_refines_locked {worker : WorkerId} {timestamp sequence : Nat} {g : Generator}
    (hg : Generator.preloaded .lockFree worker timestamp sequence = .ok g) :
    ∃ l, Generator.preloaded .locked worker timestamp sequence = .ok l ∧
      (∀ moves j, (Journal.start g.cell).run moves = some j →
        ∃ (order : List Span) (readings : List Reading),
          order.Perm j.returned ∧
          (order.Pairwise fun p q => ¬ q.ended < p.began) ∧
          ((j.returned.Pairwise fun p q => p.ended < q.began) → order = j.returned) ∧
          (order.map fun p => p.readings.getLast?) = readings.map some ∧
          l.pollAll readings = (order.map Span.result, ⟨worker, .locked j.last false⟩)) ∧
      ∀ script : List Nat,
        let (results, last) := (⟨worker, timestamp, sequence⟩ : Mark).pollAll script
        g.pollAll (script.map .millis) = (results, ⟨worker, .lockFree last.packed⟩) ∧
          l.pollAll (script.map .millis) = (results, ⟨worker, .locked last.packed false⟩) := by
  obtain ⟨htimestamp, hsequence, rfl⟩ := Generator.preloaded_eq_ok_iff.mp hg
  refine ⟨_, Generator.preloaded_eq_ok_iff.mpr ⟨htimestamp, hsequence, rfl⟩, ?_, ?_⟩
  · intro moves j hrun
    obtain ⟨order, hlinear⟩ := Journal.linear_run hrun
    obtain ⟨readings, hreadings, hall⟩ := hlinear.replay.pollAll worker
    exact ⟨order, readings, hlinear.perm, hlinear.timely,
      hlinear.eq_returned (Journal.sound_run hrun), hreadings, hall⟩
  · intro script
    have hfits : (⟨worker, timestamp, sequence⟩ : Mark).Fits := ⟨htimestamp, hsequence⟩
    -- Polled one after another, both kinds are the algorithm on its fields.
    exact ⟨Generator.pollAll_eq .lockFree script hfits, Generator.pollAll_eq .locked script hfits⟩

/-- The first caller answers about a word that its rival has replaced since. The
locked kind gives both results only when the first caller comes first. -/
def answersLate : List (Nat × Move) :=
  [(0, .load), (1, .load), (1, .read (.millis 6)), (1, .swap false), (0, .read (.millis 4))]

/-- The order puts the second poll to end before the first. -/
theorem lockFree_refines_locked_answersLate :
    ∃ g l j, Generator.preloaded .lockFree ⟨7, by decide⟩ 5 0 = .ok g ∧
      Generator.preloaded .locked ⟨7, by decide⟩ 5 0 = .ok l ∧
      (Journal.start g.cell).run answersLate = some j ∧
      j.results = [(1, .ok (.ready (Flake.ofParts 6 7 0))), (0, .ok (.behind 1))] ∧
      (l.pollAll [.millis 4, .millis 6]).1
        = [.ok (.behind 1), .ok (.ready (Flake.ofParts 6 7 0))] ∧
      ∃ (order : List Span) (readings : List Reading), order.Perm j.returned ∧
        (l.pollAll readings).1 = order.map Span.result := by
  have hrun : ∃ g j, Generator.preloaded .lockFree ⟨7, by decide⟩ 5 0 = .ok g ∧
      (Journal.start g.cell).run answersLate = some j ∧
      j.results = [(1, .ok (.ready (Flake.ofParts 6 7 0))), (0, .ok (.behind 1))] :=
    ⟨_, _, rfl, rfl, rfl⟩
  obtain ⟨g, j, hg, hj, hresults⟩ := hrun
  obtain ⟨l, hl, hruns, -⟩ := lockFree_refines_locked hg
  obtain ⟨order, readings, hperm, -, -, -, hall⟩ := hruns answersLate j hj
  refine ⟨g, l, j, hg, hl, hj, hresults, ?_, order, readings, hperm, ?_⟩
  · cases hl
    rfl
  · rw [hall]

end Snowflake
