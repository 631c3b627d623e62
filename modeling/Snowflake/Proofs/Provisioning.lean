import Snowflake.Proofs.Grammar
import Snowflake.Proofs.Startup
import Snowflake.Proofs.WatchedRun

/-!
# `Snowflake.Proofs.Provisioning`: a run that cannot prove its worker writes nothing

The worker number of a run is configured, stands in a variable, or is counted
from a host name. `Arguments.Names` says which number the settings name, as a
number of any size, in terms of the texts alone. `Arguments.resolve_eq_ok_iff`
shows that the run works with exactly that number, provided it has ten bits:
nothing wraps and nothing is cut off on the way.

`run_fails_closed` is the statement about whole runs. What is written are lines
of identifiers of the named worker, and only once the wall clock has reached the
epoch. A worker that cannot be settled is reported before the clock is. To take
an identifier apart, a run looks at nothing but the identifier and the epoch.
-/

set_option autoImplicit false

namespace Snowflake

/-! ### The number that is named -/

/-- A text is read as the worker that it spells between its blanks. -/
theorem WorkerId.parse_eq_ok_iff {s : String} {w : WorkerId} :
    WorkerId.parse s = .ok w ↔ Text.Decimal.Spells (Text.trim s.toList) w.val := by
  have hsmall : w.val < UInt64.size := Nat.lt_of_le_of_lt w.val_le (by decide)
  unfold parse
  constructor
  · intro h
    split at h
    · rename_i value hread
      rw [new_eq_ok_iff] at h
      rw [h]
      exact (Text.Decimal.read_eq_ok_iff.mp hread).1
    · cases h
  · intro h
    rw [Text.Decimal.read_eq_ok_iff.mpr ⟨h, hsmall⟩]
    exact new_val w

namespace WorkerSource

/-- The sum of the ordinal and the offset is a sum of natural numbers. -/
theorem ofOrdinal_eq_ok_iff {hostname : String} {offset : Nat} {w : WorkerId} :
    ofOrdinal hostname offset = .ok w ↔
      ∃ n, trailingOrdinal? hostname = some n ∧ n + offset = w.val := by
  have hsmall : w.val < UInt64.size := Nat.lt_of_le_of_lt w.val_le (by decide)
  unfold ofOrdinal
  cases trailingOrdinal? hostname with
  | none => simp
  | some n =>
      simp only [Option.some.injEq, exists_eq_left']
      constructor
      · intro h
        split at h
        · exact (WorkerId.new_eq_ok_iff.mp h).symm
        · cases h
      · intro h
        rw [if_pos (h ▸ hsmall), h]
        exact WorkerId.new_val w

/-- The text of the variable is read as a worker. -/
theorem resolve_fromEnv_eq_ok_iff {env : Environment} {name : String} {w : WorkerId} :
    (fromEnv name).resolve env = .ok w ↔
      ∃ text, env.text name = .ok text ∧ WorkerId.parse text = .ok w := by
  show (variableText env name >>= WorkerId.parse) = .ok w ↔ _
  unfold variableText
  cases env.text name with
  | error e => exact iff_of_false nofun (by simp)
  | ok text =>
      show WorkerId.parse text = .ok w ↔ _
      simp

end WorkerSource

namespace Cli

namespace Arguments

/-- The settings name this number as the worker's, whatever its size. -/
inductive Names (a : Arguments) (env : Environment) : Nat → Prop
  /-- It is the number that is configured. -/
  | fixed {n : Nat} (hsource : a.workerIdSource = .fixed) (hn : a.workerId = some n) :
      Names a env n
  /-- The variable spells it, with or without blanks around it. -/
  | env {text : String} {n : Nat} (hsource : a.workerIdSource = .env)
      (htext : env.text "WORKER_ID" = .ok text)
      (hn : Text.Decimal.Spells (Text.trim text.toList) n) : Names a env n
  /-- The host name spells an ordinal behind its last `-`, and the number is the
  sum of the ordinal and the offset. -/
  | ordinal {hostname : String} {front suffix : List Char} {n : Nat}
      (hsource : a.workerIdSource = .ordinal) (hhostname : a.hostname = some hostname)
      (hsplit : hostname.toList = front ++ '-' :: suffix) (hlast : '-' ∉ suffix)
      (hn : Text.Decimal.Spells suffix n) : Names a env (n + a.ordinalOffset)

variable {a : Arguments} {env : Environment}

/-- A fixed worker is named by its setting alone. -/
theorem names_fixed_iff (h : a.workerIdSource = .fixed) {n : Nat} :
    a.Names env n ↔ a.workerId = some n := by
  constructor
  · intro hn
    cases hn with
    | fixed _ hn => exact hn
    | env hsource | ordinal hsource => exact absurd (h.symm.trans hsource) nofun
  · exact .fixed h

/-- With the environment as the source, the text of the variable names the
worker. -/
theorem names_env_iff (h : a.workerIdSource = .env) {n : Nat} :
    a.Names env n ↔ ∃ text, env.text "WORKER_ID" = .ok text ∧
      Text.Decimal.Spells (Text.trim text.toList) n := by
  constructor
  · intro hn
    cases hn with
    | env _ htext hn => exact ⟨_, htext, hn⟩
    | fixed hsource | ordinal hsource => exact absurd (h.symm.trans hsource) nofun
  · rintro ⟨text, htext, hn⟩
    exact .env h htext hn

/-- With the host name as the source, its ordinal and the offset do. -/
theorem names_ordinal_iff (h : a.workerIdSource = .ordinal) {m : Nat} :
    a.Names env m ↔ ∃ hostname front suffix n, a.hostname = some hostname ∧
      hostname.toList = front ++ '-' :: suffix ∧ '-' ∉ suffix ∧
      Text.Decimal.Spells suffix n ∧ n + a.ordinalOffset = m := by
  constructor
  · intro hm
    cases hm with
    | ordinal _ hhostname hsplit hlast hn =>
        exact ⟨_, _, _, _, hhostname, hsplit, hlast, hn, rfl⟩
    | fixed hsource | env hsource => exact absurd (h.symm.trans hsource) nofun
  · rintro ⟨hostname, front, suffix, n, hhostname, hsplit, hlast, hn, rfl⟩
    exact .ordinal h hhostname hsplit hlast hn

/-- Settings name one number at most. -/
theorem Names.unique {m n : Nat} (hm : a.Names env m) (hn : a.Names env n) : m = n := by
  cases hm with
  | fixed hsource hm =>
      rw [names_fixed_iff hsource, hm] at hn
      exact Option.some.inj hn
  | env hsource htext hm =>
      obtain ⟨text, htext', hn⟩ := (names_env_iff hsource).mp hn
      rw [htext] at htext'
      cases htext'
      exact hm.unique hn
  | ordinal hsource hhostname hsplit hlast hm =>
      obtain ⟨hostname, front, suffix, n, hhostname', hsplit', hlast', hn, rfl⟩ :=
        (names_ordinal_iff hsource).mp hn
      rw [hhostname] at hhostname'
      cases hhostname'
      -- A host name has one last `-`, so there is one suffix behind it.
      have hfirst := WorkerSource.afterLast?_eq_some_iff.mpr ⟨_, hsplit, hlast⟩
      have hsecond := WorkerSource.afterLast?_eq_some_iff.mpr ⟨_, hsplit', hlast'⟩
      rw [hfirst] at hsecond
      cases hsecond
      rw [hm.unique hn]

/-- A source gives the worker that the settings name. -/
theorem resolve_eq_ok_iff {source : WorkerSource} (h : a.source = .ok (some source))
    {w : WorkerId} : source.resolve env = .ok w ↔ a.Names env w.val := by
  unfold Arguments.source at h
  cases hsource : a.workerIdSource with
  | fixed =>
      rw [names_fixed_iff hsource]
      simp only [hsource] at h
      cases hid : a.workerId with
      | none => simp [hid] at h
      | some value =>
          simp only [hid] at h
          cases hnew : WorkerId.new value with
          | error e => simp [hnew] at h
          | ok worker =>
              simp only [hnew, Except.ok.injEq, Option.some.injEq] at h
              subst h
              rw [WorkerId.new_eq_ok_iff] at hnew
              simp only [WorkerSource.resolve, Except.ok.injEq, Option.some.injEq, ← hnew]
              exact ⟨fun hw => congrArg _ hw, WorkerId.ext_val⟩
  | env =>
      rw [names_env_iff hsource]
      simp only [hsource, Except.ok.injEq, Option.some.injEq] at h
      subst h
      simp only [WorkerSource.resolve_fromEnv_eq_ok_iff, WorkerId.parse_eq_ok_iff]
      exact Iff.rfl
  | ordinal =>
      rw [names_ordinal_iff hsource]
      simp only [hsource, Except.ok.injEq, Option.map_eq_some_iff] at h
      obtain ⟨hostname, hhostname, rfl⟩ := h
      simp only [WorkerSource.resolve, WorkerSource.ofOrdinal_eq_ok_iff,
        WorkerSource.trailingOrdinal?_eq_some_iff]
      have hsmall : w.val < UInt64.size := Nat.lt_of_le_of_lt w.val_le (by decide)
      constructor
      · -- That the ordinal fits into a word is no condition, since the sum has
        -- ten bits.
        rintro ⟨n, ⟨front, suffix, hsplit, hlast, hspells, -⟩, hsum⟩
        exact ⟨hostname, front, suffix, n, hhostname, hsplit, hlast, hspells, hsum⟩
      · rintro ⟨_, front, suffix, n, hother, hsplit, hlast, hspells, hsum⟩
        rw [hhostname] at hother
        cases hother
        exact ⟨n, ⟨front, suffix, hsplit, hlast, hspells, by omega⟩, hsum⟩

end Arguments

/-! ### Settings that were accepted -/

/-- What is known of settings that were accepted. -/
structure Config.Accepts (c : Config) (a : Arguments) : Prop where
  command : c.command = a.command
  source : a.source = .ok c.source
  /-- To issue identifiers there is a source. -/
  provided : a.generates = true → c.source.isSome = true
  epoch : c.epoch = .ofMillis a.epochMillis
  room : a.epochMillis < UInt64.size

/-- Settings that were accepted have passed every check. -/
theorem Config.accepts_of_ofArguments {a : Arguments} {c : Config}
    (h : Config.ofArguments a = .ok c) : c.Accepts a := by
  unfold Config.ofArguments at h
  cases hsource : a.source with
  | error e => simp [hsource, bind, Except.bind] at h
  | ok source =>
      simp only [hsource, bind, Except.bind] at h
      split at h
      · cases h
      · rename_i hprovided
        split at h
        · cases h
        · rename_i hroom
          split at h
          · cases h
          · cases h
            refine ⟨rfl, hsource, ?_, rfl, ?_⟩
            · intro hgenerates
              rw [hgenerates] at hprovided
              cases source with
              | none => exact absurd rfl hprovided
              | some source => rfl
            · simp only [Arguments.hasTimestampRoom, Bool.not_eq_true', decide_eq_false_iff_not,
                Decidable.not_not] at hroom
              omega

end Cli

/-! ### The clock -/

/-- No clock is made while the epoch lies in the future. A wall clock from
before 1970 counts as one that shows the start of 1970. -/
theorem Machine.makeClock_early {ω : Type} (mc : Machine (StateM ω)) (kind : ClockKind)
    {millis : Nat} (hroom : millis < UInt64.size) {w : ω}
    (hearly : (mc.wall w).1.sinceUnixEpoch < .ofMillis millis) :
    (mc.makeClock kind (.ofMillis millis) w).1 = .error .clockBeforeEpoch := by
  have hmillis := Duration.lt_ofMillis_iff.mp hearly
  rw [makeClock_eq rfl (Nat.lt_trans hmillis hroom) hroom, if_pos hearly]

/-! ### Whole runs -/

namespace Cli.Config

variable {ω : Type} {c : Config} {a : Arguments} {env : Environment}

/-- The worker of a run is the one that its source gives. -/
theorem worker_eq_ok_iff {source : WorkerSource} (h : c.source = some source)
    {worker : WorkerId} : c.worker env = .ok worker ↔ source.resolve env = .ok worker := by
  rw [Config.worker, h]
  exact mapError_eq_ok_iff

/-- The worker of a run is the one that its settings name. -/
theorem Accepts.worker_eq_ok_iff (h : c.Accepts a) (hgenerates : a.generates = true)
    {worker : WorkerId} : c.worker env = .ok worker ↔ a.Names env worker.val := by
  obtain ⟨source, hsome⟩ := Option.isSome_iff_exists.mp (h.provided hgenerates)
  have hsource := h.source
  rw [hsome] at hsource
  rw [Config.worker_eq_ok_iff hsome, Arguments.resolve_eq_ok_iff hsource]

/-- If they name none that fits, the source is to blame. -/
theorem Accepts.worker_error (h : c.Accepts a) (hgenerates : a.generates = true)
    (hnone : ∀ n, a.Names env n → 1023 < n) :
    ∃ source e, c.source = some source ∧ source.resolve env = .error e ∧
      c.worker env = .error (.unresolved source e) := by
  obtain ⟨source, hsome⟩ := Option.isSome_iff_exists.mp (h.provided hgenerates)
  cases hresolve : source.resolve env with
  | error e =>
      refine ⟨source, e, hsome, hresolve, ?_⟩
      simp only [Config.worker, hsome, hresolve]
      rfl
  | ok worker =>
      have hsource := h.source
      rw [hsome] at hsource
      have hnames := (Arguments.resolve_eq_ok_iff hsource).mp hresolve
      exact absurd (hnone _ hnames) (Nat.not_lt_of_le worker.val_le)

variable {mc : Machine (StateM ω)} {polls count : Nat} {format : Format} {w : ω}

/-- Without a worker a run ends at once, and nothing has happened. -/
theorem generate_unresolved {f : Failure} (hworker : c.worker env = .error f) :
    c.generate mc env polls count format w = (some (.error f), w) := by
  simp only [Config.generate, hworker]
  rfl

/-- Once the worker is settled, the run makes a clock and issues identifiers
with it. -/
theorem generate_settled {worker : WorkerId} (hworker : c.worker env = .ok worker) :
    c.generate mc env polls count format w =
      match (mc.makeClock c.clock c.epoch w).1 with
      | .error e => (some (.error (.clock e)), (mc.makeClock c.clock c.epoch w).2)
      | .ok clock =>
        let run := mint (mc.effects clock) (fun text => StateT.lift (mc.write text)) c.options polls
          format c.epoch count
        let begin := (Generator.new c.generator worker, (mc.makeClock c.clock c.epoch w).2)
        (answer run begin, (after run begin).2) := by
  simp only [Config.generate, hworker]
  show (match (mc.makeClock c.clock c.epoch w).1 with
    | .error e => _
    | .ok clock => _ : StateM ω _) (mc.makeClock c.clock c.epoch w).2 = _
  cases (mc.makeClock c.clock c.epoch w).1 with
  | error e => rfl
  | ok clock => rfl

/-- Making a clock writes nothing. -/
theorem texts_makeClock (mc : Machine (StateM ω)) (kind : ClockKind) (epoch : Duration) (w : ω) :
    Deed.texts (mc.watched.makeClock kind epoch (w, [])).2.2 = [] := by
  cases kind <;> rfl

/-- The identifiers that a settled run writes are those of its worker, and there
are none unless the clock can be made. -/
theorem generate_texts {worker : WorkerId} (hworker : c.worker env = .ok worker) :
    ∃ ids : List Flake,
      Deed.texts (c.generate mc.watched env polls count format (w, [])).2.2
        = ids.map (fun id => format.line c.epoch id ++ "\n") ∧
      (∀ id ∈ ids, id.worker = worker) ∧
      (ids ≠ [] → ∃ clock, (mc.watched.makeClock c.clock c.epoch (w, [])).1 = .ok clock) := by
  rw [generate_settled hworker]
  have hsilent := texts_makeClock mc c.clock c.epoch w
  cases hclock : (mc.watched.makeClock c.clock c.epoch (w, [])).1 with
  | error e => exact ⟨[], hsilent, List.forall_mem_nil _, fun h => absurd rfl h⟩
  | ok clock =>
      have hbuilt := Generator.Built.new c.generator worker
      obtain ⟨ids, last, hissues, htexts⟩ := mint_texts mc clock c.options polls format c.epoch
        count (.new c.generator worker) (mc.watched.makeClock c.clock c.epoch (w, [])).2.1 _ hsilent
      refine ⟨ids, htexts, ?_, fun _ => ⟨clock, rfl⟩⟩
      intro id hid
      rw [(hissues.later hbuilt.isValid id hid).worker, hbuilt.worker_last]
      rfl

end Cli.Config

/-- Take settings that were accepted, any machine and environment, and follow
each call for any number of polls. An onlooker's notes of the run are these.

To issue identifiers, the run writes lines of identifiers, maybe none. If it
writes any, the settings name one number, it is at most 1023, the wall clock is
not earlier than the epoch, and the number is the worker of every identifier.
If the settings name no number, or a larger one, nothing is written, and the run
reports the error of the worker source, whatever the wall clock shows. If they
name one and the wall clock is earlier than the epoch, nothing is written
either, and the run reports that. A wall clock from before 1970 counts as one
that shows the start of 1970.

To take an identifier apart, the run does just what any other run does that
writes in the same way, for the same text and epoch: whatever else is set, in
any environment, whatever the clocks show. -/
theorem Cli.run_fails_closed {ω : Type} (mc : Machine (StateM ω)) {a : Arguments} {c : Config}
    (hc : Config.ofArguments a = .ok c) (env : Environment) (polls : Nat) (w : ω) :
    let r := (c.run mc.watched env polls (w, [])).1
    let deeds := (c.run mc.watched env polls (w, [])).2.2
    let early := (mc.wall w).1.sinceUnixEpoch < .ofMillis a.epochMillis
    c.run mc env polls w = (r, (c.run mc.watched env polls (w, [])).2.1) ∧
    (∀ count format, a.command = .generate count format →
      (∃ ids : List Flake,
        Deed.texts deeds = ids.map (fun id => format.line c.epoch id ++ "\n") ∧
        (ids ≠ [] → ∃ n ≤ 1023, (∀ m, a.Names env m ↔ m = n) ∧ ¬ early ∧
          ∀ id ∈ ids, id.worker.val = n)) ∧
      ((∀ n, a.Names env n → 1023 < n) → Deed.texts deeds = [] ∧
        ∃ source e, c.source = some source ∧ source.resolve env = .error e ∧
          r = some (.error (.unresolved source e))) ∧
      (∀ n ≤ 1023, a.Names env n → early → Deed.texts deeds = [] ∧
        r = some (.error (.clock .clockBeforeEpoch)))) ∧
    (∀ text, a.command = .decode text →
      ∀ (other : Machine (StateM ω)) (d : Config) (env' : Environment) (polls' : Nat),
        other.write = mc.write → d.command = .decode text → d.epoch = c.epoch →
        d.run other env' polls' = c.run mc env polls) := by
  intro r deeds early
  have haccepts := Config.accepts_of_ofArguments hc
  refine ⟨c.run_watched mc env polls w [], ?_, ?_⟩
  · intro count format hcommand
    have hgenerates : a.generates = true := by
      simp only [Arguments.generates, hcommand]
    have hrun : ∀ {ν : Type} (m : Machine (StateM ν)),
        c.run m env polls = c.generate m env polls count format := by
      intro ν m
      simp only [Config.run, haccepts.command, hcommand]
    have hearly : early →
        (mc.watched.makeClock c.clock c.epoch (w, [])).1 = .error .clockBeforeEpoch := by
      intro h
      rw [haccepts.epoch]
      exact mc.watched.makeClock_early (w := (w, [])) c.clock haccepts.room h
    simp only [deeds, r, hrun]
    refine ⟨?_, ?_, ?_⟩
    -- What is written has passed both checks.
    · cases hworker : c.worker env with
      | error f =>
          rw [Config.generate_unresolved hworker]
          exact ⟨[], rfl, fun h => absurd rfl h⟩
      | ok worker =>
          obtain ⟨ids, htexts, hids, hclock⟩ := Config.generate_texts hworker
          refine ⟨ids, htexts, fun hsome => ⟨worker.val, worker.val_le, ?_, ?_, ?_⟩⟩
          · have hnames := (haccepts.worker_eq_ok_iff hgenerates).mp hworker
            intro m
            constructor
            · exact fun hm => hm.unique hnames
            · rintro rfl
              exact hnames
          · intro h
            obtain ⟨clock, hmade⟩ := hclock hsome
            rw [hearly h] at hmade
            cases hmade
          · exact fun id hid => congrArg WorkerId.val (hids id hid)
    -- No worker: the clock is not even made.
    · intro hnone
      obtain ⟨source, e, hsource, hresolve, hworker⟩ := haccepts.worker_error hgenerates hnone
      rw [Config.generate_unresolved hworker]
      exact ⟨rfl, source, e, hsource, hresolve, rfl⟩
    -- A worker, and no clock.
    · intro n hn hnames h
      have hworker : c.worker env = .ok ⟨n, hn⟩ :=
        (haccepts.worker_eq_ok_iff hgenerates).mpr hnames
      rw [Config.generate_settled hworker, hearly h]
      exact ⟨Config.texts_makeClock mc c.clock c.epoch w, rfl⟩
  · intro text hcommand other d env' polls' hwrite hd hepoch
    have hcommand' := haccepts.command.trans hcommand
    simp only [Config.run, hd, hcommand', hwrite, hepoch]

/-- The third pod of a service whose workers are numbered from 100. -/
def Cli.thirdPod : Cli.Arguments :=
  .ofGiven (.generate 1 .decimal) {
    workerIdSource := some .ordinal
    hostname := some "order-service-2"
    ordinalOffset := some 100 }

/-- Its settings, once they are accepted. -/
def Cli.thirdPodConfig : Cli.Config where
  command := .generate 1 .decimal
  source := some (.ordinal "order-service-2" 100)
  epoch := defaultEpoch
  options := {}
  generator := .lockFree
  clock := .system

/-- The wall clock shows one second after the epoch. -/
def Tape.secondAfterEpoch : Tape where
  wall _ := ⟨1577836801000000000⟩
  stopwatch _ := ⟨0⟩

/-- The third pod issues for worker 102. -/
theorem Cli.run_fails_closed_thirdPod :
    Config.ofArguments thirdPod = .ok thirdPodConfig ∧
    thirdPod.Names .empty 102 ∧
    (Deed.texts (thirdPodConfig.run Tape.machine.watched .empty 1
      (.secondAfterEpoch, [])).2.2 = ["4194721792\n"]) ∧
    ∃ ids, ids ≠ [] ∧ (∀ id ∈ ids, id.worker.val = 102) ∧
      ["4194721792\n"] = ids.map fun id => Format.line .decimal defaultEpoch id ++ "\n" := by
  have hconfig : Config.ofArguments thirdPod = .ok thirdPodConfig := by decide +kernel
  have hnames : thirdPod.Names .empty (2 + 100) :=
    .ordinal rfl rfl (show _ = "order-service".toList ++ '-' :: ['2'] by decide +kernel) (by decide)
      ⟨['2'], List.cons_ne_nil _ _, List.forall_mem_singleton.mpr rfl, .inl rfl, rfl⟩
  have hwritten : Deed.texts (thirdPodConfig.run Tape.machine.watched .empty 1
      (.secondAfterEpoch, [])).2.2 = ["4194721792\n"] := by
    decide +kernel
  have h := run_fails_closed Tape.machine hconfig .empty 1 .secondAfterEpoch
  obtain ⟨ids, htexts, hworker⟩ := (h.2.1 1 .decimal rfl).1
  rw [hwritten] at htexts
  have hsome : ids ≠ [] := by
    rintro rfl
    cases htexts
  obtain ⟨n, -, hn, -, hids⟩ := hworker hsome
  obtain rfl : 102 = n := (hn _).mp hnames
  exact ⟨hconfig, hnames, hwritten, ids, hsome, hids, htexts⟩

end Snowflake
