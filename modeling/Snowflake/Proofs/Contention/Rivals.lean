import Mathlib.Data.List.Perm.Subperm
import Snowflake.Proofs.Contention.Answers

/-!
# `Snowflake.Proofs.Contention.Rivals`: what a lock-free poll costs

A poll of the lock-free kind reads the clock once for each swap that it tries,
and nothing in it counts how often that may be. What bounds it is the progress
of its rivals. A `Miss` is a swap that failed. When it found another word than
the one that the poll had seen, that word is an identifier which a rival has
issued since, and it is greater than the one that was seen (`Contested`). So a
poll never loses twice to the same identifier, and it never loses to a rival
that issued nothing.

A `Contest` is a journal that also keeps the failed swaps of each poll. The
invariant is `Contest.Fought`. Its main field follows the word that a caller has
seen: the cell still holds it, or a greater one that a rival has put there
since. Identifiers only ever ascend, so no word comes back. `Costs` is what
follows for a poll.

A swap may also fail over the word that it expects. Nothing bounds these
failures, and they are counted apart.
-/

set_option autoImplicit false

namespace Snowflake

namespace Arena

/-! ### The steps of a lock-free poll -/

/-- A step after which its caller is in a poll, and where it stands then. -/
inductive Onward (a : Arena) (caller : Nat) : Move → Stage → Prop
  /-- The poll begins. -/
  | load (hstage : a.stage caller = .idle) : Onward a caller .load (.loaded a.cell.last)
  /-- The reading calls for an identifier. -/
  | propose {seen next : Flake} {r : Reading} (hstage : a.stage caller = .loaded seen) :
      Onward a caller (.read r) (.proposing seen next)
  /-- The swap fails. -/
  | lose {seen next : Flake} {spurious : Bool} (hstage : a.stage caller = .proposing seen next)
      (hlost : spurious = true ∨ a.cell.last ≠ seen) :
      Onward a caller (.swap spurious) (.loaded a.cell.last)

/-- A caller that is led on is in a poll. -/
theorem Onward.ne_idle {a : Arena} {caller : Nat} {m : Move} {s : Stage}
    (h : a.Onward caller m s) : s ≠ .idle := by
  cases h <;> nofun

/-- A step that ends the poll of its caller. -/
inductive Final (a : Arena) (caller : Nat) : Move → Prop
  /-- The reading calls for no identifier. -/
  | read {seen : Flake} {r : Reading} (hstage : a.stage caller = .loaded seen) :
      Final a caller (.read r)
  /-- The swap succeeds. -/
  | win {next : Flake} (hstage : a.stage caller = .proposing a.cell.last next) :
      Final a caller (.swap false)

/-- A step of the lock-free kind leads on in a poll, or ends it. -/
theorem Takes.onward_or_final {a b : Arena} {caller : Nat} {m : Move}
    {result : Option PollResult} (h : a.Takes caller m b result)
    (hcell : a.cell = .lockFree a.cell.last) :
    b.cell = .lockFree b.cell.last ∧
    ((result = none ∧ a.Onward caller m (b.stage caller)) ∨
      (∃ r, result = some r) ∧ b.stage caller = .idle ∧ a.Final caller m) := by
  cases h with
  | @load word hword hstage =>
      refine ⟨hcell, .inl ⟨rfl, ?_⟩⟩
      rw [stage_move_self, show word = a.cell.last by rw [hword]; rfl]
      exact .load hstage
  | propose hstage hjudge =>
      refine ⟨hcell, .inl ⟨rfl, ?_⟩⟩
      rw [stage_move_self]
      exact .propose hstage
  | answer hstage hjudge =>
      exact ⟨hcell, .inr ⟨⟨_, rfl⟩, stage_move_self .., .read hstage⟩⟩
  | fail hstage hjudge =>
      exact ⟨hcell, .inr ⟨⟨_, rfl⟩, stage_move_self .., .read hstage⟩⟩
  | @lose word seen next spurious hword hstage hlost =>
      have hlast : word = a.cell.last := by
        rw [hword]
        rfl
      refine ⟨hcell, .inl ⟨rfl, ?_⟩⟩
      rw [stage_move_self, hlast]
      exact .lose hstage (hlast ▸ hlost)
  | @win seen next hword hstage =>
      have hlast : seen = a.cell.last := by
        rw [hword]
        rfl
      exact ⟨rfl, .inr ⟨⟨_, rfl⟩, stage_move_self a caller .idle, .win (hlast ▸ hstage)⟩⟩
  | refused hlocked hstage =>
      rw [hlocked] at hcell
      cases hcell
  | pass hlocked hstage =>
      rw [hlocked] at hcell
      cases hcell

end Arena

/-! ### Failed swaps -/

/-- A swap that failed. -/
structure Miss where
  /-- The word that the attempt started from. -/
  seen : Flake
  /-- The word that stood in its place. -/
  found : Flake
  /-- The number of the step in which the poll saw the first word. -/
  saw : Nat
  /-- The number of the step in which it tried to swap. -/
  tried : Nat
deriving DecidableEq, Repr

/-- The swap found another word. -/
def Miss.genuine (m : Miss) : Bool := decide (m.seen ≠ m.found)

/-- The identifiers that the rivals of a caller issued between two steps. -/
def Journal.rivalsIssued (j : Journal) (caller after before : Nat) : List Flake :=
  (j.polls.filter fun q => q.caller ≠ caller ∧ after < q.ended ∧ q.ended < before).filterMap
    fun q => issued? q.result

/-- What is known of the failed swaps of a poll that began with one step and has
not gone beyond another. -/
structure Contested (j : Journal) (caller began before : Nat) (misses : List Miss) : Prop where
  /-- The word that was found is greater than the one that was seen, and a rival
  issued it in between. -/
  overtaken : ∀ m ∈ misses, m.genuine = true →
    m.seen < m.found ∧ m.found ∈ j.rivalsIssued caller m.saw m.tried
  within : ∀ m ∈ misses, began ≤ m.saw ∧ m.tried < before
  /-- Each attempt starts when the one before it has failed, from the word that
  it found or a later one. -/
  ordered : misses.Pairwise fun m n => m.tried ≤ n.saw ∧ m.found ≤ n.seen

/-- What such a poll has cost. -/
structure Costs (j : Journal) (caller began before : Nat) (readings : List Reading)
    (misses : List Miss) : Prop extends Contested j caller began before misses where
  /-- No two swaps were lost to the same identifier. -/
  distinct : ((misses.filter Miss.genuine).map Miss.found).Nodup
  /-- There is a reading for each swap, and one for the next. -/
  readings_le : readings.length ≤ misses.length + 1
  bounded : readings.length
    ≤ 1 + misses.countP (fun m => !m.genuine) + (j.rivalsIssued caller began before).length

namespace Journal

/-- Such an identifier is the result of a rival's poll that ended in between. -/
theorem mem_rivalsIssued {j : Journal} {caller after before : Nat} {id : Flake} :
    id ∈ j.rivalsIssued caller after before ↔ ∃ q ∈ j.polls, q.caller ≠ caller ∧
      after < q.ended ∧ q.ended < before ∧ q.result = .ok (.ready id) := by
  simp only [rivalsIssued, List.mem_filterMap, List.mem_filter, decide_eq_true_eq,
    issued?_eq_some_iff, and_assoc]

/-- A longer stretch of a longer run has no fewer identifiers. -/
theorem rivalsIssued_mono {j k : Journal} (hpolls : j.polls ⊆ k.polls)
    {caller after before after' before' : Nat} (hafter : after' ≤ after)
    (hbefore : before ≤ before') {id : Flake} (h : id ∈ j.rivalsIssued caller after before) :
    id ∈ k.rivalsIssued caller after' before' := by
  obtain ⟨q, hq, hcaller, hlate, hearly, hid⟩ := mem_rivalsIssued.mp h
  exact mem_rivalsIssued.mpr ⟨q, hpolls hq, hcaller, Nat.lt_of_le_of_lt hafter hlate,
    Nat.lt_of_lt_of_le hearly hbefore, hid⟩

/-- A step forgets no poll that has ended. -/
theorem polls_subset_note (j : Journal) (caller : Nat) (m : Move) (a : Arena)
    (result : Option PollResult) : j.polls ⊆ (j.note caller m a result).polls :=
  List.subset_append_left ..

/-- A step that returns an identifier adds it to what the caller's rivals see
their rivals issue. -/
theorem mem_rivalsIssued_note (j : Journal) {caller other : Nat} (hne : caller ≠ other) (m : Move)
    (a : Arena) (id : Flake) {after : Nat} (hafter : after < j.clock) :
    id ∈ (j.note caller m a (some (.ok (.ready id)))).rivalsIssued other after (j.clock + 1) :=
  mem_rivalsIssued.mpr ⟨j.ending caller m (.ok (.ready id)),
    List.mem_append_right _ (.head _), hne, hafter, Nat.lt_succ_self _, rfl⟩

end Journal

/-- Words are compared as numbers. -/
theorem Flake.le_iff_toNat_le {a b : Flake} : a ≤ b ↔ a.raw.toNat ≤ b.raw.toNat :=
  UInt64.le_iff_toNat_le

namespace Contested

variable {j : Journal} {caller began before : Nat} {misses : List Miss}

/-- A poll without failed swaps has nothing to account for. -/
theorem nil : Contested j caller began before [] :=
  ⟨nofun, nofun, .nil⟩

/-- What is known stays known as the run goes on. -/
theorem mono (h : Contested j caller began before misses) {k : Journal}
    (hpolls : j.polls ⊆ k.polls) {before' : Nat} (hbefore : before ≤ before') :
    Contested k caller began before' misses where
  overtaken m hm hgenuine := by
    obtain ⟨hlt, hissued⟩ := h.overtaken m hm hgenuine
    exact ⟨hlt, Journal.rivalsIssued_mono hpolls (Nat.le_refl _) (Nat.le_refl _) hissued⟩
  within m hm := ⟨(h.within m hm).1, Nat.lt_of_lt_of_le (h.within m hm).2 hbefore⟩
  ordered := h.ordered

/-- The identifiers that the swaps were lost to ascend. -/
theorem ascending (h : Contested j caller began before misses) :
    ((misses.filter Miss.genuine).map Miss.found).Pairwise (· < ·) := by
  -- An attempt starts from what the one before found, or later, and finds a
  -- greater word.
  refine List.pairwise_map.mpr (List.Pairwise.imp_of_mem ?_ (h.ordered.filter _))
  intro m n _ hn hmn
  obtain ⟨hmem, hgenuine⟩ := List.mem_filter.mp hn
  have hnext := (h.overtaken n hmem hgenuine).1
  have hle := hmn.2
  rw [Flake.lt_iff_toNat_lt] at hnext ⊢
  rw [Flake.le_iff_toNat_le] at hle
  omega

/-- No two swaps were lost to the same identifier. -/
theorem distinct (h : Contested j caller began before misses) :
    ((misses.filter Miss.genuine).map Miss.found).Nodup :=
  h.ascending.imp Flake.ne_of_lt

/-- Each of them was issued while the poll ran, so there are no more of them
than of those. -/
theorem countP_le (h : Contested j caller began before misses) :
    misses.countP Miss.genuine ≤ (j.rivalsIssued caller began before).length := by
  -- Each identifier that a swap was lost to is one that a rival issued
  -- meanwhile.
  have hsubset : (misses.filter Miss.genuine).map Miss.found
      ⊆ j.rivalsIssued caller began before := by
    intro id hid
    obtain ⟨m, hm, rfl⟩ := List.mem_map.mp hid
    obtain ⟨hmem, hgenuine⟩ := List.mem_filter.mp hm
    obtain ⟨hbegan, hbefore⟩ := h.within m hmem
    exact Journal.rivalsIssued_mono (List.Subset.refl _) hbegan (Nat.le_of_lt hbefore)
      (h.overtaken m hmem hgenuine).2
  -- They are distinct, so the other list is no shorter.
  have hlength := (h.distinct.subperm hsubset).length_le
  rw [List.length_map, ← List.countP_eq_length_filter] at hlength
  exact hlength

/-- One more failed swap, after all the others. -/
theorem concat (h : Contested j caller began before misses) {miss : Miss}
    (hovertaken : miss.genuine = true →
      miss.seen < miss.found ∧ miss.found ∈ j.rivalsIssued caller miss.saw miss.tried)
    (hbegan : began ≤ miss.saw) (hbefore : miss.tried < before)
    (hlast : ∀ m ∈ misses, m.tried ≤ miss.saw ∧ m.found ≤ miss.seen) :
    Contested j caller began before (misses ++ [miss]) where
  overtaken := List.forall_mem_append.mpr
    ⟨h.overtaken, List.forall_mem_singleton.mpr hovertaken⟩
  within := List.forall_mem_append.mpr
    ⟨h.within, List.forall_mem_singleton.mpr ⟨hbegan, hbefore⟩⟩
  ordered := by
    refine List.pairwise_append.mpr ⟨h.ordered, List.pairwise_singleton _ _, ?_⟩
    intro m hm n hn
    cases List.mem_singleton.mp hn
    exact hlast m hm

/-- What is known of the failed swaps bounds the readings, when there is at
most one reading more than failed swaps. -/
theorem costs (h : Contested j caller began before misses) {readings : List Reading}
    (hreadings : readings.length ≤ misses.length + 1) :
    Costs j caller began before readings misses where
  toContested := h
  distinct := h.distinct
  readings_le := hreadings
  bounded := by
    -- A failed swap found another word, or the one that it expected.
    have hsplit : misses.length
        = misses.countP Miss.genuine + misses.countP (fun m => !m.genuine) := by
      rw [List.length_eq_countP_add_countP Miss.genuine]
      simp
    have hgenuine := h.countP_le
    omega

end Contested

/-! ### The failed swaps of every poll -/

/-- A run, and the failed swaps of each poll. -/
structure Contest where
  /-- The run. -/
  journal : Journal
  /-- The number of the step in which each caller saw its word. -/
  saw : Nat → Nat := fun _ => 0
  /-- The failed swaps of the poll that each caller is in. -/
  misses : Nat → List Miss := fun _ => []
  /-- The polls that have ended, with their failed swaps. -/
  ended : List (Span × List Miss) := []

namespace Contest

/-- The contest of a cell before any caller has started. -/
def start (cell : Cell) : Contest := { journal := .start cell }

/-- The failed swaps of the poll that a caller's step belongs to, the step
included. A swap has failed when the caller has a word again instead of a
proposal. -/
def missesWith (k : Contest) (caller : Nat) (a : Arena) : List Miss :=
  match k.journal.arena.stage caller, a.stage caller with
  | .idle, _ => []
  | .proposing seen _, .loaded found =>
    k.misses caller ++ [⟨seen, found, k.saw caller, k.journal.clock⟩]
  | _, _ => k.misses caller

/-- When the caller of a step has seen the word that it goes on from. -/
def sawWith (k : Contest) (caller : Nat) (a : Arena) : Nat :=
  match a.stage caller with
  | .loaded _ => k.journal.clock
  | .idle | .proposing _ _ => k.saw caller

/-- The contest after a step. -/
def note (k : Contest) (caller : Nat) (m : Move) (a : Arena) (result : Option PollResult) :
    Contest where
  journal := k.journal.note caller m a result
  saw := fun c => if c = caller then k.sawWith caller a else k.saw c
  misses := fun c => if c = caller then k.missesWith caller a else k.misses c
  ended := k.ended
    ++ (result.map fun r => (k.journal.ending caller m r, k.missesWith caller a)).toList

/-- One step of a caller. -/
def step (k : Contest) (caller : Nat) (m : Move) : Option Contest :=
  (k.journal.arena.step caller m).map fun p => k.note caller m p.1 p.2

/-- A run. -/
def run (k : Contest) : List (Nat × Move) → Option Contest
  | [] => some k
  | (caller, m) :: moves => (k.step caller m).bind fun l => l.run moves

/-- What every step keeps holds of the contest of every run. -/
theorem exists_run {P : Contest → Prop}
    (hstep : ∀ k caller m a result, P k → k.journal.arena.Takes caller m a result →
      P (k.note caller m a result))
    {moves : List (Nat × Move)} {k : Contest} {j : Journal} (hk : P k)
    (h : k.journal.run moves = some j) : ∃ l, k.run moves = some l ∧ l.journal = j ∧ P l := by
  induction moves generalizing k with
  | nil =>
      cases h
      exact ⟨k, rfl, rfl, hk⟩
  | cons head moves ih =>
      obtain ⟨caller, m⟩ := head
      obtain ⟨next, hnext, hrest⟩ := Option.bind_eq_some_iff.mp h
      obtain ⟨⟨a, result⟩, hstep', rfl⟩ := Option.map_eq_some_iff.mp hnext
      -- The contest takes the same step as its journal.
      have hnoted := hstep k caller m a result hk (Arena.takes_of_step hstep')
      obtain ⟨l, hl, hjournal, hP⟩ := ih hnoted hrest
      refine ⟨l, ?_, hjournal, hP⟩
      simp only [run, step, hstep', Option.map_some, Option.bind_some]
      exact hl

/-! ### The invariant -/

/-- What is known of a word that a caller has seen. It stands still, or a rival
has put a greater one in its place. -/
structure Standing (j : Journal) (caller saw : Nat) (seen : Flake) : Prop where
  began_le : j.began caller ≤ saw
  lt_clock : saw < j.clock
  place : seen = j.last ∨ (seen < j.last ∧ j.last ∈ j.rivalsIssued caller saw j.clock)

/-- What a caller has seen is no greater than the last identifier. -/
theorem Standing.le_last {j : Journal} {caller saw : Nat} {seen : Flake}
    (h : Standing j caller saw seen) : seen ≤ j.last := by
  rcases h.place with rfl | ⟨hlt, -⟩
  · exact UInt64.le_refl _
  · exact UInt64.le_of_lt hlt

/-- What is known of the poll that a caller is in. -/
structure Underway (k : Contest) (caller : Nat) (seen : Flake) : Prop extends
    Standing k.journal caller (k.saw caller) seen,
    Contested k.journal caller (k.journal.began caller) k.journal.clock (k.misses caller) where
  before : ∀ m ∈ k.misses caller, m.tried ≤ k.saw caller ∧ m.found ≤ seen

/-- What holds of a contest of the lock-free kind from the start on. -/
structure Fought (first : Flake) (k : Contest) : Prop where
  sound : k.journal.Sound
  ascending : k.journal.Ascending first
  lockFree : k.journal.arena.cell = .lockFree k.journal.last
  underway : ∀ caller seen, (k.journal.arena.stage caller).seen? = some seen →
    k.Underway caller seen
  /-- There is a reading for each failed swap, and one for the proposal. -/
  taken : ∀ caller, match k.journal.arena.stage caller with
    | .idle => True
    | .loaded _ => (k.journal.taken caller).length = (k.misses caller).length
    | .proposing _ _ => (k.journal.taken caller).length = (k.misses caller).length + 1
  polls : k.ended.map Prod.fst = k.journal.polls
  /-- A poll that has ended has one more reading than failed swaps. -/
  ended : ∀ p ∈ k.ended, p.1.readings.length = p.2.length + 1 ∧
    Contested k.journal p.1.caller p.1.began p.1.ended p.2

variable {k : Contest} {caller : Nat} {m : Move} {a : Arena} {result : Option PollResult}

/-- A step of one caller leaves the failed swaps of the others alone. What an
other has seen still stands, or the step has replaced it by a greater
identifier. -/
theorem Underway.note_of_ne {other : Nat} {seen first : Flake} (h : k.Underway other seen)
    (hk : k.Fought first) (htakes : k.journal.arena.Takes caller m a result)
    (hne : other ≠ caller) : (k.note caller m a result).Underway other seen := by
  have hsaw : (k.note caller m a result).saw other = k.saw other := if_neg hne
  have hmisses : (k.note caller m a result).misses other = k.misses other := if_neg hne
  have hbegan : (k.note caller m a result).journal.began other = k.journal.began other :=
    if_neg hne
  have hpolls := Journal.polls_subset_note k.journal caller m a result
  refine ⟨⟨?_, ?_, ?_⟩, ?_, ?_⟩
  · rw [hbegan, hsaw]
    exact h.began_le
  · rw [hsaw]
    exact Nat.lt_succ_of_lt h.lt_clock
  · rw [hsaw]
    -- The step leaves the last identifier, or replaces it by a greater one.
    rcases Journal.note_effect hk.sound htakes with ⟨hsame, -⟩ | ⟨now, -, hfollows, rfl⟩
    · rw [show (k.note caller m a result).journal.last = k.journal.last from hsame]
      refine h.place.imp_right fun ⟨hlt, hissued⟩ => ⟨hlt, ?_⟩
      exact Journal.rivalsIssued_mono hpolls (Nat.le_refl _) (Nat.le_succ _) hissued
    · -- The step has issued the word that stands now, for a rival.
      refine .inr ⟨?_, Journal.mem_rivalsIssued_note _ hne.symm m a _ h.lt_clock⟩
      have hlater : k.journal.last < a.cell.last := (hfollows.later hk.ascending.valid).lt
      rcases h.place with rfl | ⟨hlt, -⟩
      · exact hlater
      · exact UInt64.lt_trans hlt hlater
  · rw [hbegan, hmisses]
    exact h.toContested.mono hpolls (Nat.le_succ _)
  · rw [hsaw, hmisses]
    exact h.before

/-- After a step its caller has seen a word. -/
theorem Fought.underway_note {first : Flake} (hk : k.Fought first)
    (htakes : k.journal.arena.Takes caller m a none)
    (honward : k.journal.arena.Onward caller m (a.stage caller)) {seen : Flake}
    (hseen : (a.stage caller).seen? = some seen) :
    (k.note caller m a none).Underway caller seen := by
  have hsaw : (k.note caller m a none).saw caller = k.sawWith caller a := if_pos rfl
  have hmisses : (k.note caller m a none).misses caller = k.missesWith caller a := if_pos rfl
  have hbegan : (k.note caller m a none).journal.began caller = k.journal.opening caller :=
    if_pos rfl
  have hpolls := Journal.polls_subset_note k.journal caller m a none
  have hopening := hk.sound.opening_le caller
  -- Only a step that ends a poll replaces the word.
  have hlast : (k.note caller m a none).journal.last = k.journal.last := by
    rcases Journal.note_effect hk.sound htakes with ⟨hsame, -⟩ | ⟨-, -, -, hnone⟩
    · exact hsame
    · cases hnone
  -- One case for each step that leads on: the word was just seen, or seen
  -- before, or found by a lost swap.
  generalize hafter : a.stage caller = after at honward hseen
  cases honward with
  | load hstage =>
      cases hseen
      refine ⟨⟨?_, ?_, .inl hlast.symm⟩, ?_, ?_⟩
      · rw [hbegan, hsaw, sawWith, hafter]
        exact hopening
      · rw [hsaw, sawWith, hafter]
        exact Nat.lt_succ_self _
      · rw [hmisses, missesWith, hstage]
        exact .nil
      · rw [hmisses, missesWith, hstage]
        exact nofun
  | @propose word next r hstage =>
      cases hseen
      have hbefore := hk.underway caller seen (by rw [hstage]; rfl)
      have hsame : k.journal.opening caller = k.journal.began caller :=
        Journal.opening_of_stage (by simp [hstage])
      refine ⟨⟨?_, ?_, ?_⟩, ?_, ?_⟩
      · rw [hbegan, hsame, hsaw, sawWith, hafter]
        exact hbefore.began_le
      · rw [hsaw, sawWith, hafter]
        exact Nat.lt_succ_of_lt hbefore.lt_clock
      · rw [hlast, hsaw, sawWith, hafter]
        refine hbefore.place.imp_right fun ⟨hlt, hissued⟩ => ⟨hlt, ?_⟩
        exact Journal.rivalsIssued_mono hpolls (Nat.le_refl _) (Nat.le_succ _) hissued
      · rw [hbegan, hsame, hmisses, missesWith, hstage]
        exact hbefore.toContested.mono hpolls (Nat.le_succ _)
      · rw [hsaw, sawWith, hafter, hmisses, missesWith, hstage]
        exact hbefore.before
  | @lose word next spurious hstage =>
      cases hseen
      have hbefore := hk.underway caller word (by rw [hstage]; rfl)
      have hsame : k.journal.opening caller = k.journal.began caller :=
        Journal.opening_of_stage (by simp [hstage])
      refine ⟨⟨?_, ?_, .inl hlast.symm⟩, ?_, ?_⟩
      · rw [hbegan, hsaw, sawWith, hafter]
        exact hopening
      · rw [hsaw, sawWith, hafter]
        exact Nat.lt_succ_self _
      · rw [hbegan, hsame, hmisses, missesWith, hstage, hafter]
        refine (hbefore.toContested.mono hpolls (Nat.le_succ _)).concat ?_ hbefore.began_le
          (Nat.lt_succ_self _) hbefore.before
        intro hgenuine
        -- What the swap found is not what the caller had seen, so a rival has
        -- put it there.
        obtain ⟨hlt, hissued⟩ := hbefore.place.resolve_left (of_decide_eq_true hgenuine)
        exact ⟨hlt, Journal.rivalsIssued_mono hpolls (Nat.le_refl _) (Nat.le_refl _) hissued⟩
      · rw [hsaw, sawWith, hafter, hmisses, missesWith, hstage, hafter]
        refine List.forall_mem_append.mpr ⟨?_, List.forall_mem_singleton.mpr ?_⟩
        · intro miss hmiss
          obtain ⟨htried, hfound⟩ := hbefore.before miss hmiss
          exact ⟨Nat.le_trans htried (Nat.le_of_lt hbefore.lt_clock),
            UInt64.le_trans hfound hbefore.le_last⟩
        · exact ⟨Nat.le_refl _, UInt64.le_refl _⟩

/-- Before any step nobody is in a poll. -/
theorem fought_start {cell : Cell} (hvalid : cell.last.isValid = true)
    (hcell : cell = .lockFree cell.last) : (start cell).Fought cell.last where
  sound := Journal.sound_start cell
  ascending := Journal.ascending_start hvalid
  lockFree := hcell
  underway := nofun
  taken _ := trivial
  polls := rfl
  ended := nofun

/-- The readings of a poll under way, counted by its failed swaps. -/
theorem Fought.taken_note {first : Flake} (hk : k.Fought first)
    (honward : k.journal.arena.Onward caller m (a.stage caller)) :
    match a.stage caller with
    | .idle => True
    | .loaded _ => (k.journal.takenWith caller m).length = (k.missesWith caller a).length
    | .proposing _ _ =>
      (k.journal.takenWith caller m).length = (k.missesWith caller a).length + 1 := by
  have htaken := hk.taken caller
  generalize hafter : a.stage caller = after at honward
  cases honward with
  | load hstage =>
      show (k.journal.takenWith caller .load).length = _
      simp [Journal.takenWith, missesWith, hstage, Arena.reading?]
  | propose hstage =>
      rw [hstage] at htaken
      show (k.journal.takenWith caller _).length = _
      simpa [Journal.takenWith, missesWith, hstage, Arena.reading?] using htaken
  | lose hstage hlost =>
      rw [hstage] at htaken
      show (k.journal.takenWith caller _).length = _
      rw [Journal.takenWith_swap hstage]
      simpa [missesWith, hstage, hafter] using htaken

/-- The account of a poll that a step ends. -/
theorem Fought.ending_note {first : Flake} (hk : k.Fought first)
    (hfinal : k.journal.arena.Final caller m) (hafter : a.stage caller = .idle)
    (r : PollResult) :
    (k.journal.takenWith caller m).length = (k.missesWith caller a).length + 1 ∧
      Contested (k.journal.note caller m a (some r)) caller (k.journal.opening caller)
        k.journal.clock (k.missesWith caller a) := by
  have htaken := hk.taken caller
  have hpolls := Journal.polls_subset_note k.journal caller m a (some r)
  cases hfinal with
  | @read seen _ hstage =>
      have hbefore := hk.underway caller seen (by rw [hstage]; rfl)
      have hmisses : k.missesWith caller a = k.misses caller := by
        rw [missesWith, hstage]
      rw [hstage] at htaken
      rw [hmisses, Journal.opening_of_stage (by simp [hstage])]
      refine ⟨?_, hbefore.toContested.mono hpolls (Nat.le_refl _)⟩
      simpa [Journal.takenWith, hstage, Arena.reading?] using htaken
  | win hstage =>
      have hbefore := hk.underway caller k.journal.arena.cell.last (by rw [hstage]; rfl)
      have hmisses : k.missesWith caller a = k.misses caller := by
        rw [missesWith, hstage, hafter]
      rw [hstage] at htaken
      rw [hmisses, Journal.opening_of_stage (by simp [hstage]), Journal.takenWith_swap hstage]
      exact ⟨htaken, hbefore.toContested.mono hpolls (Nat.le_refl _)⟩

/-- Every step keeps the account. -/
theorem Fought.note {first : Flake} (hk : k.Fought first)
    (htakes : k.journal.arena.Takes caller m a result) :
    (k.note caller m a result).Fought first := by
  obtain ⟨hcell, hkind⟩ := htakes.onward_or_final hk.lockFree
  have hpolls := Journal.polls_subset_note k.journal caller m a result
  refine ⟨hk.sound.note htakes, hk.ascending.note hk.sound htakes, hcell, ?_, ?_, ?_, ?_⟩
  · -- What the callers have seen.
    intro c seen hseen
    by_cases hc : c = caller
    · subst hc
      rcases hkind with ⟨rfl, honward⟩ | ⟨-, hidle, -⟩
      · exact hk.underway_note htakes honward hseen
      · rw [show (k.note c m a result).journal.arena.stage c = a.stage c from rfl, hidle] at hseen
        cases hseen
    · have hstage : a.stage c = k.journal.arena.stage c := htakes.stage_of_ne hc
      rw [show (k.note caller m a result).journal.arena.stage c = a.stage c from rfl, hstage]
        at hseen
      exact (hk.underway c seen hseen).note_of_ne hk htakes hc
  · -- The readings of the polls under way.
    intro c
    show match a.stage c with | .idle => True | .loaded _ => _ | .proposing _ _ => _
    by_cases hc : c = caller
    · subst hc
      rw [show (k.note c m a result).journal.taken c = k.journal.takenWith c m from if_pos rfl,
        show (k.note c m a result).misses c = k.missesWith c a from if_pos rfl]
      rcases hkind with ⟨-, honward⟩ | ⟨-, hidle, -⟩
      · exact hk.taken_note honward
      · rw [hidle]
        trivial
    · rw [htakes.stage_of_ne hc,
        show (k.note caller m a result).journal.taken c = k.journal.taken c from if_neg hc,
        show (k.note caller m a result).misses c = k.misses c from if_neg hc]
      exact hk.taken c
  · show (k.ended ++ _).map Prod.fst = k.journal.polls ++ _
    rw [List.map_append, hk.polls]
    cases result <;> rfl
  · -- The polls that have ended: the old ones, and the one that the step ends.
    intro p hp
    rcases List.mem_append.mp hp with hold | hnew
    · obtain ⟨hreadings, hcontested⟩ := hk.ended p hold
      exact ⟨hreadings, hcontested.mono hpolls (Nat.le_refl _)⟩
    · obtain ⟨r, rfl, rfl⟩ := Option.map_eq_some_iff.mp (Option.mem_toList.mp hnew)
      rcases hkind with ⟨hnone, -⟩ | ⟨-, hidle, hfinal⟩
      · cases hnone
      · exact hk.ending_note hfinal hidle r

/-- Every run of a lock-free cell has its contest. -/
theorem exists_fought {cell : Cell} (hvalid : cell.last.isValid = true)
    (hcell : cell = .lockFree cell.last) {moves : List (Nat × Move)} {j : Journal}
    (h : (Journal.start cell).run moves = some j) :
    ∃ k, (start cell).run moves = some k ∧ k.journal = j ∧ k.Fought cell.last :=
  exists_run (fun _ _ _ _ _ hk htakes => hk.note htakes) (fought_start hvalid hcell) h

end Contest

end Snowflake
