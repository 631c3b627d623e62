import Mathlib.Order.WellFounded
import Snowflake.Proofs.Decoding
import Snowflake.Proofs.Provisioning

/-!
# `Snowflake.Proofs.Validation`: settings that are accepted are safe

Settings are checked once, before a run begins. `Cli.Requirement` lists what is
asked of them, and `Cli.accepted_settings_are_safe` shows that they are accepted
exactly if they meet all of it. Otherwise the error is that of the first
requirement that they do not meet. The order matters where a mistake hides
another one: a worker number that is too large is refused even when no
identifier is to be issued, but a missing one only when one is.

The checks are there for the sake of the run. `Cli.Config.Safe` says what they
spare it. It never looks for a worker without a source, a call may wait, and
every timestamp has a Unix time under the epoch, since the check of the epoch
leaves room for the largest one. So no document that a run writes lacks the Unix
time, whatever identifier it is about.
-/

set_option autoImplicit false

namespace Snowflake.Cli

/-! ### What is asked of settings -/

/-- What settings have to meet, in the order in which they are checked. -/
inductive Requirement
  /-- A fixed worker number is one, if it is set. -/
  | worker
  /-- To issue identifiers, there is a place that the worker number comes
  from. -/
  | source
  /-- The largest timestamp is a Unix time of 64 bits under the epoch. -/
  | room
  /-- A call may wait. -/
  | wait

namespace Requirement

/-- The place in the order. -/
def place : Requirement → Nat
  | worker => 0
  | source => 1
  | room => 2
  | wait => 3

/-- The settings meet it. -/
def MetBy (a : Arguments) : Requirement → Prop
  | worker => a.workerIdSource = .fixed → ∀ n, a.workerId = some n → n ≤ 1023
  | source => (∃ text, a.command = .decode text) ∨ a.workerIdSource = .env ∨
      (a.workerIdSource = .fixed ∧ a.workerId ≠ none) ∨
      (a.workerIdSource = .ordinal ∧ a.hostname ≠ none)
  | room => a.epochMillis + (2 ^ 41 - 1) ≤ 2 ^ 64 - 1
  | wait => a.maxWaitMillis ≠ 0

/-- The error of settings that do not meet it. -/
def violation (a : Arguments) : Requirement → ConfigError
  | worker => .worker (.invalidWorkerId (a.workerId.getD 0) 1023)
  | source => if a.workerIdSource = .ordinal then .missingHostname else .missingWorkerId
  | room => .epochTooLate a.epochMillis
  | wait => .noWait

/-- It is the first one that the settings do not meet. -/
structure FirstUnmet (a : Arguments) (r : Requirement) : Prop where
  unmet : ¬ r.MetBy a
  earlier : ∀ q : Requirement, q.place < r.place → q.MetBy a

/-- Settings meet every requirement, or there is a first one that they do not
meet. -/
theorem met_or_firstUnmet (a : Arguments) :
    (∀ r : Requirement, r.MetBy a) ∨ ∃ r : Requirement, r.FirstUnmet a := by
  by_cases h : ∀ r : Requirement, r.MetBy a
  · exact .inl h
  · -- Among those that are not met, one has the first place.
    obtain ⟨r, hr, hfirst⟩ :=
      (measure place).wf.has_min {r | ¬ r.MetBy a} (not_forall.mp h)
    exact .inr ⟨r, hr, fun q hq => Classical.not_not.mp fun hunmet => hfirst q hunmet hq⟩

end Requirement

/-! ### The checks -/

namespace Arguments

variable {a : Arguments}

/-- A worker number that is too large is refused with the source. -/
theorem source_of_unmet (h : ¬ Requirement.worker.MetBy a) :
    a.source = .error (Requirement.worker.violation a) := by
  simp only [Requirement.MetBy, not_forall] at h
  obtain ⟨hkind, n, hid, hlarge⟩ := h
  have hnew := WorkerId.new_eq_error_iff.mpr ⟨Nat.lt_of_not_le hlarge, rfl⟩
  simp only [source, hkind, hid, hnew, Requirement.violation, Option.getD_some]
  rfl

/-- There is no source just when the setting that it needs is not there. -/
theorem source_of_met (h : Requirement.worker.MetBy a) :
    ∃ source, a.source = .ok source ∧
      ((source.isNone && a.generates) = true ↔ ¬ Requirement.source.MetBy a) := by
  have hgenerates : a.generates = true ↔ ¬ ∃ text, a.command = .decode text := by
    unfold generates
    cases a.command <;> simp
  simp only [Bool.and_eq_true, hgenerates, Requirement.MetBy, not_or]
  unfold source
  cases hkind : a.workerIdSource with
  | fixed =>
      cases hid : a.workerId with
      | none => exact ⟨none, rfl, by simp⟩
      | some n =>
          have hnew : WorkerId.new n = .ok ⟨n, h hkind n hid⟩ := WorkerId.new_val ⟨n, _⟩
          simp only [hnew]
          exact ⟨_, rfl, by simp⟩
  | env => exact ⟨_, rfl, by simp⟩
  | ordinal => exact ⟨_, rfl, by simp [and_comm]⟩

/-- The check of the epoch is that of its requirement. -/
theorem hasTimestampRoom_iff : a.hasTimestampRoom = true ↔ Requirement.room.MetBy a := by
  rw [hasTimestampRoom, decide_eq_true_eq]
  exact Nat.lt_iff_le_pred (by decide)

end Arguments

namespace Config

variable {a : Arguments}

/-- The settings that a run works with. -/
def ofSource (a : Arguments) (source : Option WorkerSource) : Config where
  command := a.command
  source := source
  epoch := .ofMillis a.epochMillis
  options := a.options
  generator := a.generator
  clock := a.clock

/-- The checks behind that of the worker number, one after another. -/
theorem ofArguments_eq {source : Option WorkerSource} (h : a.source = .ok source) :
    ofArguments a =
      if source.isNone && a.generates then .error (.missing a.workerIdSource)
      else if !a.hasTimestampRoom then .error (.epochTooLate a.epochMillis)
      else if a.maxWaitMillis = 0 then .error .noWait
      else .ok (ofSource a source) := by
  simp only [ofArguments, h, bind, Except.bind]
  -- Each check is one step of the program, and the steps behind a failure are left out.
  cases source.isNone && a.generates with
  | true => rfl
  | false =>
      cases a.hasTimestampRoom with
      | false => rfl
      | true =>
          by_cases hwait : a.maxWaitMillis = 0
          · rw [if_pos hwait]
            simp only [hwait]
            rfl
          · simp only [hwait]
            rfl

/-- The first requirement that is not met gives the error. -/
theorem ofArguments_of_firstUnmet {r : Requirement} (h : r.FirstUnmet a) :
    ofArguments a = .error (r.violation a) := by
  by_cases hworker : Requirement.worker.MetBy a
  case neg =>
    -- No other requirement can be the first one.
    cases r with
    | worker =>
        rw [ofArguments, Arguments.source_of_unmet hworker]
        rfl
    | _ => exact absurd (h.earlier .worker (by decide)) hworker
  -- From here on the worker number is not at fault, and the checks come in the
  -- order of the requirements.
  obtain ⟨source, hsource, hmissing⟩ := Arguments.source_of_met hworker
  rw [ofArguments_eq hsource]
  cases r with
  | worker => exact absurd hworker h.unmet
  | source =>
      rw [if_pos (hmissing.mpr h.unmet), Requirement.violation]
      cases a.workerIdSource <;> rfl
  | room =>
      have hprovided := h.earlier .source (by decide)
      have hroom : (!a.hasTimestampRoom) = true := by
        rw [Bool.not_eq_true', Bool.eq_false_iff, Ne, Arguments.hasTimestampRoom_iff]
        exact h.unmet
      rw [if_neg fun hmiss => hmissing.mp hmiss hprovided, if_pos hroom]
      rfl
  | wait =>
      have hprovided := h.earlier .source (by decide)
      have hroom := Arguments.hasTimestampRoom_iff.mpr (h.earlier .room (by decide))
      have hwait : a.maxWaitMillis = 0 := Decidable.not_not.mp h.unmet
      rw [if_neg fun hmiss => hmissing.mp hmiss hprovided, hroom, if_pos hwait]
      rfl

/-- Settings that meet all of it are accepted. -/
theorem ofArguments_of_met (h : ∀ r : Requirement, r.MetBy a) :
    ∃ source, ofArguments a = .ok (ofSource a source) := by
  obtain ⟨source, hsource, hmissing⟩ := Arguments.source_of_met (h .worker)
  have hroom := Arguments.hasTimestampRoom_iff.mpr (h .room)
  refine ⟨source, ?_⟩
  rw [ofArguments_eq hsource, if_neg fun hmiss => hmissing.mp hmiss (h .source), hroom,
    if_neg (h .wait)]
  rfl

end Config

/-! ### What the checks are for -/

/-- Settings that were accepted meet all of it. -/
theorem Config.met_of_ofArguments {a : Arguments} {c : Config} (h : ofArguments a = .ok c) :
    ∀ r : Requirement, r.MetBy a := by
  rcases Requirement.met_or_firstUnmet a with hmet | ⟨r, hr⟩
  · exact hmet
  · rw [ofArguments_of_firstUnmet hr] at h
    cases h

/-- What a command writes is documents. -/
inductive Command.WritesDocuments : Command → Prop
  | decode (text : String) : WritesDocuments (.decode text)
  | generate (count : Nat) : WritesDocuments (.generate count .json)

/-- What the settings of a run spare it. -/
structure Config.Safe (c : Config) (a : Arguments) : Prop where
  /-- To issue identifiers there is a source, -/
  source : ∀ count format, c.command = .generate count format → c.source.isSome = true
  /-- so a run never misses it. -/
  reported : ∀ {ω : Type} (mc : Machine (StateM ω)) (env : Environment) (polls : Nat) (w : ω),
    (c.run mc env polls w).1 ≠ some (.error .noSource)
  /-- A call may wait. -/
  wait : .ofMillis 0 < c.options.maxWait
  /-- The epoch is the one that is asked for. -/
  epoch : c.epoch.millis = a.epochMillis
  /-- All timestamps have a Unix time, -/
  unixMillis : ∀ id : Flake, id.unixMillis? c.epoch = some (a.epochMillis + id.timestamp)
  /-- and no document that is written lacks it. -/
  documents : c.command.WritesDocuments → ∀ {ω : Type} (mc : Machine (StateM ω))
    (env : Environment) (polls : Nat) (w : ω),
    c.run mc env polls w
      = ((c.run mc.watched env polls (w, [])).1, (c.run mc.watched env polls (w, [])).2.1) ∧
    ∀ text ∈ Deed.texts (c.run mc.watched env polls (w, [])).2.2, ∃ doc id,
      Json.read? text = some doc ∧
      doc.member? "unix_ms" = some (.ofNat (a.epochMillis + Flake.timestamp id))

/-- No timestamp is larger than the one that there is room for. -/
theorem unixMillis?_of_room {epoch : Duration} (h : epoch.millis + (2 ^ 41 - 1) ≤ 2 ^ 64 - 1)
    (id : Flake) : id.unixMillis? epoch = some (epoch.millis + id.timestamp) := by
  have hlast : id.timestamp ≤ 2 ^ 41 - 1 := id.timestamp_le
  rw [Flake.unixMillis?, UInt64.size]
  exact if_pos ⟨by omega, by omega⟩

/-- The Unix time stands in a document about an identifier. -/
theorem member?_unixMillis (id : Flake) (epoch : Duration) :
    (Record.ofFlake id epoch).toJson.member? "unix_ms"
      = some (.ofOption .ofNat (id.unixMillis? epoch)) := by
  rfl

/-- Failures that come from calls have nothing to do with the settings. -/
theorem Minted.ne_noSource {count : Nat} {tries : List Tries} {ids : List Flake}
    {r : Option (Except Failure Unit)} (h : Minted count tries ids r) :
    r ≠ some (.error .noSource) := by
  induction h with
  | done => exact nofun
  | @failed count t f _ =>
      rcases f with _ | (e | p)
      · exact nofun
      · exact nofun
      · exact nofun
  | next _ _ ih => exact ih

namespace Config

variable {ω : Type} {c : Config} {mc : Machine (StateM ω)} {env : Environment} {polls : Nat} {w : ω}

/-- A run whose worker has a source does not report that there is none. -/
theorem generate_ne_noSource {count : Nat} {format : Format}
    (hworker : c.worker env ≠ .error .noSource) :
    (c.generate mc.watched env polls count format (w, [])).1 ≠ some (.error .noSource) := by
  cases hsettled : c.worker env with
  | error f =>
      rw [generate_unresolved hsettled]
      intro hanswer
      cases hanswer
      exact hworker hsettled
  | ok worker =>
      rw [generate_settled hsettled]
      have hsilent := texts_makeClock mc c.clock c.epoch w
      cases (mc.watched.makeClock c.clock c.epoch (w, [])).1 with
      | error e => exact nofun
      | ok clock =>
          -- The run answers as it does under the eyes of an onlooker who is told more.
          obtain ⟨hanswer, -⟩ := SameTexts.mint mc clock c.options polls format c.epoch count
            (.new c.generator worker, (mc.watched.makeClock c.clock c.epoch (w, [])).2)
            (.new c.generator worker, ((mc.watched.makeClock c.clock c.epoch (w, [])).2.1, []))
            ⟨rfl, rfl, hsilent.symm⟩
          obtain ⟨tries, ids, -, hminted, -⟩ := watchedMint_does ⟨mc, mc.read clock, pure 0⟩
            c.options polls format c.epoch count
            (.new c.generator worker, ((mc.watched.makeClock c.clock c.epoch (w, [])).2.1, []))
          have hreport := hminted.ne_noSource
          rw [hanswer] at hreport
          exact hreport

/-- A run that has a source if it needs one does not miss it. -/
theorem run_ne_noSource
    (hsource : ∀ count format, c.command = .generate count format → c.source.isSome = true) :
    (c.run mc env polls w).1 ≠ some (.error .noSource) := by
  rw [c.run_watched mc env polls w []]
  unfold run
  cases hcommand : c.command with
  | generate count format =>
      refine generate_ne_noSource ?_
      obtain ⟨source, hsome⟩ := Option.isSome_iff_exists.mp (hsource count format hcommand)
      simp only [worker, hsome]
      cases source.resolve env <;> rintro ⟨⟩
  | decode text =>
      simp only [decode, decodeText]
      cases Flake.parse text <;> rintro ⟨⟩

/-- A document with a line break behind it is read back. -/
theorem read?_line {l : Json.Layout} (hl : l.Spacious) (id : Flake) (epoch : Duration) :
    Json.read? (Json.textAt l 0 (Record.ofFlake id epoch).toJson ++ "\n")
      = some (Record.ofFlake id epoch).toJson :=
  Json.read?_textAt hl (Record.fits_toJson id epoch) "\n"
    (List.all_eq_true.mp (by decide : "\n".toList.all Json.isBlank = true))

/-- Every text that is written is a document about an identifier. -/
theorem writes_documents (hcommand : c.command.WritesDocuments) :
    ∀ text ∈ Deed.texts (c.run mc.watched env polls (w, [])).2.2, ∃ id : Flake,
      Json.read? text = some (Record.ofFlake id c.epoch).toJson := by
  intro text htext
  generalize hwhat : c.command = command at hcommand
  cases hcommand with
  | decode spelled =>
      simp only [run, hwhat, decode, decodeText] at htext
      cases hparse : Flake.parse spelled with
      | error e =>
          rw [hparse] at htext
          cases htext
      | ok id =>
          rw [hparse] at htext
          obtain rfl := List.mem_singleton.mp htext
          -- One document with a break behind it is what taking an identifier
          -- apart writes.
          exact ⟨id, read?_line Json.Layout.spacious_indented id c.epoch⟩
  | generate count =>
      simp only [run, hwhat] at htext
      cases hworker : c.worker env with
      | error f =>
          rw [generate_unresolved hworker] at htext
          cases htext
      | ok worker =>
          obtain ⟨ids, htexts, -, -⟩ := generate_texts hworker
          rw [htexts] at htext
          obtain ⟨id, -, rfl⟩ := List.mem_map.mp htext
          exact ⟨id, read?_line Json.Layout.spacious_compact id c.epoch⟩

/-- What the checks spare a run, one thing after another. -/
theorem safe_of_ofArguments {a : Arguments} (h : ofArguments a = .ok c) : c.Safe a := by
  have haccepts := accepts_of_ofArguments h
  have hmet := met_of_ofArguments h
  have hepoch : c.epoch.millis = a.epochMillis := by
    rw [haccepts.epoch, Duration.millis_ofMillis]
  have hunix : ∀ id : Flake, id.unixMillis? c.epoch = some (a.epochMillis + id.timestamp) := by
    rw [← hepoch]
    exact unixMillis?_of_room (hepoch ▸ hmet .room)
  have hsource : ∀ count format, c.command = .generate count format → c.source.isSome = true := by
    intro count format hcommand
    refine haccepts.provided ?_
    rw [Arguments.generates, ← haccepts.command, hcommand]
  constructor
  case source => exact hsource
  case reported => exact fun mc env polls w => run_ne_noSource hsource
  case wait =>
    obtain ⟨source, hok⟩ := ofArguments_of_met hmet
    rw [h] at hok
    cases hok
    have hwait : 0 < a.maxWaitMillis := Nat.pos_of_ne_zero (hmet .wait)
    show 0 * 1000000 < a.maxWaitMillis * 1000000
    omega
  case epoch => exact hepoch
  case unixMillis => exact hunix
  case documents =>
    intro hcommand ω mc env polls w
    refine ⟨c.run_watched mc env polls w [], fun text htext => ?_⟩
    obtain ⟨id, hread⟩ := writes_documents hcommand text htext
    refine ⟨_, id, hread, ?_⟩
    rw [member?_unixMillis, hunix]
    rfl

end Config

/-- Take any settings. They are accepted exactly if they meet every requirement.
If not, the error is that of the first one that they do not meet.

Now take settings that were accepted. To issue identifiers there is a source,
and no run reports that there is none: on any machine, in any environment. A
call may wait. The epoch is the one that is asked for, and every identifier,
whatever its fields, has a Unix time under it. So each document that a run
writes has it too, whether identifiers are issued or one is taken apart. -/
theorem accepted_settings_are_safe (a : Arguments) :
    ((∃ c, Config.ofArguments a = .ok c) ↔ ∀ r : Requirement, r.MetBy a) ∧
    (∀ e, Config.ofArguments a = .error e ↔
      ∃ r : Requirement, r.FirstUnmet a ∧ e = r.violation a) ∧
    ∀ c, Config.ofArguments a = .ok c → c.Safe a := by
  refine ⟨⟨?_, fun hmet => ?_⟩, fun e => ⟨fun h => ?_, ?_⟩, fun c => Config.safe_of_ofArguments⟩
  · rintro ⟨c, h⟩
    exact Config.met_of_ofArguments h
  · obtain ⟨source, hok⟩ := Config.ofArguments_of_met hmet
    exact ⟨_, hok⟩
  · rcases Requirement.met_or_firstUnmet a with hmet | ⟨r, hr⟩
    · obtain ⟨source, hok⟩ := Config.ofArguments_of_met hmet
      rw [h] at hok
      cases hok
    · rw [Config.ofArguments_of_firstUnmet hr] at h
      exact ⟨r, hr, (Except.error.inj h).symm⟩
  · rintro ⟨r, hr, rfl⟩
    exact Config.ofArguments_of_firstUnmet hr

/-- Worker 1024 with an epoch that leaves no room: the worker is reported. With
worker 7 and the last epoch that leaves room the settings are accepted, and the
largest timestamp is the last Unix time. -/
theorem accepted_settings_are_safe_lastEpoch :
    let given (worker epoch : Nat) : Arguments := .ofGiven (.generate 1 .json) {
      workerId := some worker
      epochMillis := some epoch }
    Config.ofArguments (given 1024 (2 ^ 64 - 1)) = .error (.worker (.invalidWorkerId 1024 1023)) ∧
    ∃ c, Config.ofArguments (given 7 (2 ^ 64 - 2 ^ 41)) = .ok c ∧
      (Flake.ofParts (2 ^ 41 - 1) 7 0).unixMillis? c.epoch = some (2 ^ 64 - 1) := by
  intro given
  have hlarge : Requirement.worker.FirstUnmet (given 1024 (2 ^ 64 - 1)) :=
    ⟨fun h => absurd (h rfl 1024 rfl) (by decide), fun q hq => absurd hq (Nat.not_lt_zero _)⟩
  have hmet : ∀ r : Requirement, r.MetBy (given 7 (2 ^ 64 - 2 ^ 41)) := by
    intro r
    cases r with
    | worker => rintro - n ⟨⟩; decide
    | source => exact .inr (.inr (.inl ⟨rfl, nofun⟩))
    | room => exact (by decide : 2 ^ 64 - 2 ^ 41 + (2 ^ 41 - 1) ≤ 2 ^ 64 - 1)
    | wait => exact (by decide : 50 ≠ 0)
  obtain ⟨-, herror, -⟩ := accepted_settings_are_safe (given 1024 (2 ^ 64 - 1))
  obtain ⟨haccepted, -, hsafe⟩ := accepted_settings_are_safe (given 7 (2 ^ 64 - 2 ^ 41))
  obtain ⟨c, hc⟩ := haccepted.mpr hmet
  refine ⟨(herror _).mpr ⟨.worker, hlarge, rfl⟩, c, hc, ?_⟩
  have hlast : (Flake.ofParts (2 ^ 41 - 1) 7 0).timestamp = 2 ^ 41 - 1 := by decide
  rw [(hsafe c hc).unixMillis, hlast]
  decide

end Snowflake.Cli
