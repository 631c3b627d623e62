import Snowflake.Cli.Start
import Snowflake.Proofs.Parsing

/-!
# `Snowflake.Proofs.ReadTwice`: a worker number in a variable is read twice

A process whose worker number stands in a variable looks at that variable on two
occasions. Its settings are read from variables, and the worker number is one of them,
even when another source was chosen. Later the source reads the variable once more. The
second reading takes off the blanks on either side, and the first one does not.

So the settings ask for more than the source does. `Cli.worker_variable_is_read_twice`
says how much more. A text that the source takes is taken by both readings if there are no
blanks around it. With blanks, as in `" 7 "`, the settings are refused, though the source
would have found worker 7 (`Cli.worker_variable_is_read_twice_not_with_blanks`). Nothing is
taken that the source does not take.

The proofs turn on one equation (`Cli.configure_of_env`). Once the number is read, the
settings are those of the same environment without the variable. The reason is that the
other settings are read in the same way whatever the worker number is
(`Cli.Given.put_withWorker`), and that their acceptance does not depend on it
(`Cli.Config.ofArguments_withWorker`).
-/

set_option autoImplicit false

namespace Snowflake

open Text.Decimal (Spells read_eq_ok_iff)

/-- The environment without a variable. -/
def Environment.unset (env : Environment) (name : String) : Environment :=
  ⟨env.vars.filter fun var => var.1 ≠ name⟩

/-- The variable is not set any more. -/
@[simp] theorem Environment.get?_unset_self (env : Environment) (name : String) :
    (env.unset name).get? name = none := by
  show (env.vars.filter fun var => var.1 ≠ name).lookup name = none
  rw [List.lookup_eq_none_iff]
  intro var hvar
  have hname := of_decide_eq_true (List.mem_filter.mp hvar).2
  simpa using Ne.symm hname

/-- The other variables stay. -/
theorem Environment.get?_unset_of_ne (env : Environment) {name other : String}
    (h : other ≠ name) : (env.unset name).get? other = env.get? other := by
  show (env.vars.filter fun var => var.1 ≠ name).lookup other = env.vars.lookup other
  induction env.vars with
  | nil => rfl
  | cons var vars ih =>
      by_cases hname : var.1 = name
      · have hother : (other == var.1) = false := by simpa [hname] using h
        -- The variable that goes is not the one that is looked up.
        rw [List.filter_cons_of_neg (by simpa using hname), ih, List.lookup_cons, hother]
      · rw [List.filter_cons_of_pos (by simpa using hname), List.lookup_cons, List.lookup_cons, ih]

/-- The environment of a process that is told its worker number by a variable. -/
def Environment.ofWorker (s : String) : Environment :=
  (Environment.empty.set "WORKER_ID_SOURCE" (.text "env")).set "WORKER_ID" (.text s)

/-- The variable holds the number, -/
theorem Environment.get?_ofWorker (s : String) :
    (ofWorker s).get? "WORKER_ID" = some (.text s) :=
  get?_set_self _ _ _

/-- The variable of the source tells the process to look at the variable of the
worker number. -/
theorem Environment.get?_ofWorker_source (s : String) :
    (ofWorker s).get? "WORKER_ID_SOURCE" = some (.text "env") := by
  rw [ofWorker, get?_set_of_ne _ _ (by decide), get?_set_self]

/-- The source reads what stands in the variable of the worker number. -/
theorem WorkerSource.resolve_of_get? {env : Environment} {s : String}
    (h : env.get? "WORKER_ID" = some (.text s)) :
    (WorkerSource.fromEnv "WORKER_ID").resolve env = WorkerId.parse s :=
  WorkerSource.resolve_fromEnv_text ((env.find?_eq_get? (by decide)).trans h)

namespace Text

/-- A numeral has no blanks around it. -/
theorem Decimal.Spells.core {cs : List Char} {n : Nat} (h : Spells cs n) : Core cs cs := by
  have hnone : ∀ c ∈ cs, isBlank c = false := by
    intro c hc
    obtain ⟨ds, -, hdigits, hcs, -⟩ := h
    rcases hcs with rfl | rfl
    · exact isBlank_of_isDigit (hdigits c hc)
    · rcases List.mem_cons.mp hc with rfl | hc
      · decide +kernel
      · exact isBlank_of_isDigit (hdigits c hc)
  refine ⟨[], [], by simp, by simp, by simp, ?_, ?_⟩
  · exact fun c hc => hnone c (List.mem_of_mem_head? hc)
  · exact fun c hc => hnone c (List.mem_of_mem_getLast? hc)

end Text

namespace Cli

namespace Given

/-! ### Reading settings from variables -/

/-- Reads one setting from its variable. -/
def take (env : Environment) (found : Given) (s : Setting) : Except Usage Given :=
  match s.envName?.bind env.get? with
  | some value => found.putVariable s value
  | none => .ok found

/-- With nothing given, each setting is read from its variable. -/
theorem ofVariables_empty (env : Environment) :
    ofVariables env {} = Setting.shared.foldlM (take env) {} := by
  have hnone : ∀ s : Setting, ({} : Given).has s = false := by
    intro s
    cases s <;> rfl
  unfold ofVariables
  simp only [hnone]
  rfl

/-- A setting has a variable of its own. -/
theorem take_unset {s : Setting} {name : String} (h : s.envName? ≠ some name) (env : Environment)
    (g : Given) : g.take (env.unset name) s = g.take env s := by
  have hsame : s.envName?.bind (env.unset name).get? = s.envName?.bind env.get? := by
    cases hname : s.envName? with
    | none => rfl
    | some other =>
        refine env.get?_unset_of_ne ?_
        rintro rfl
        exact h hname
  rw [take, take, hsame]

/-- Values with another worker number and another source for it. -/
def withWorker (n : Option Nat) (kind : SourceKind) (g : Given) : Given :=
  { g with workerId := n, workerIdSource := some kind }

/-- The settings that have nothing to do with where the worker number comes from. -/
def others : List Setting := Setting.shared.drop 2

/-- Reading one of them leaves the worker number and its source alone. -/
theorem put_withWorker {s : Setting} (h : s ∈ others) (n : Option Nat) (kind : SourceKind)
    (g : Given) (text : String) :
    (g.withWorker n kind).put s text = (g.put s text).map (withWorker n kind) := by
  cases s with
  | workerId | workerIdSource | count | format => exact absurd h (by decide)
  | hostname => rfl
  | driftPolicy | generator | clock =>
      simp only [put, choice]
      split <;> rfl
  | ordinalOffset | epoch | maxDrift | maxWait =>
      simp only [put, number]
      cases Text.Decimal.read text.toList <;> rfl

/-- The worker number and its source may be set before or after the reading of
another setting. -/
theorem take_withWorker {s : Setting} (h : s ∈ others) (n : Option Nat) (kind : SourceKind)
    (env : Environment) (g : Given) :
    (g.withWorker n kind).take env s = (g.take env s).map (withWorker n kind) := by
  unfold take
  cases s.envName?.bind env.get? with
  | none => rfl
  | some value =>
      cases value with
      | text text => exact put_withWorker h n kind g text
      | octets bs => rfl

/-- By induction, they may be set before or after any number of such readings. -/
theorem foldlM_take_withWorker {settings : List Setting} (h : settings ⊆ others) (n : Option Nat)
    (kind : SourceKind) (env : Environment) (g : Given) :
    settings.foldlM (take env) (g.withWorker n kind)
      = (settings.foldlM (take env) g).map (withWorker n kind) := by
  induction settings generalizing g with
  | nil => rfl
  | cons s settings ih =>
      obtain ⟨hs, hsettings⟩ := List.cons_subset.mp h
      rw [List.foldlM_cons, List.foldlM_cons, take_withWorker hs]
      cases g.take env s with
      | error e => rfl
      | ok next => exact ih hsettings next

/-- None of them is read from the variable of the worker number. -/
theorem foldlM_take_unset {settings : List Setting} (h : settings ⊆ others) (env : Environment)
    (g : Given) :
    settings.foldlM (take (env.unset "WORKER_ID")) g = settings.foldlM (take env) g := by
  have hname : ∀ s ∈ others, s.envName? ≠ some "WORKER_ID" := by decide
  induction settings generalizing g with
  | nil => rfl
  | cons s settings ih =>
      obtain ⟨hs, hsettings⟩ := List.cons_subset.mp h
      rw [List.foldlM_cons, List.foldlM_cons, take_unset (hname s hs)]
      exact bind_congr fun next => ih hsettings next

/-- Once the worker number is read, the source and the other settings are. -/
theorem ofVariables_of_take {env : Environment} {n : Option Nat}
    (hsource : env.get? "WORKER_ID_SOURCE" = some (.text "env"))
    (htake : ({} : Given).take env .workerId = .ok { workerId := n }) :
    ofVariables env {} = (others.foldlM (take env) {}).map (withWorker n .env) := by
  have hkind : ({ workerId := n } : Given).take env .workerIdSource
      = .ok (({} : Given).withWorker n .env) := by
    rw [take, show Setting.workerIdSource.envName? = some "WORKER_ID_SOURCE" from rfl,
      Option.bind_some, hsource]
    rfl
  rw [ofVariables_empty, show Setting.shared = .workerId :: .workerIdSource :: others from rfl,
    List.foldlM_cons, htake]
  show (({ workerId := n } : Given).take env .workerIdSource >>= others.foldlM (take env)) = _
  rw [hkind]
  exact foldlM_take_withWorker (List.Subset.refl others) n .env env {}

end Given

/-! ### Both readings -/

/-- A command without options takes all settings from variables. -/
theorem Arguments.parse_generate (env : Environment) :
    Arguments.parse env ["generate"]
      = (Given.ofVariables env {}).map (.ofGiven (.generate 1 .decimal)) := by
  have hscan : ({} : Level).scan .program ["generate"] = .ok ({}, some (.generate, [])) := rfl
  have hfinish : ({} : Level).finish env
      = (Given.ofVariables env {}).map fun g => (({} : Level), g) := by
    show (Given.ofVariables env {} >>= fun g => .ok (({} : Level), g)) = _
    cases Given.ofVariables env {} <;> rfl
  have hcommand : readCommand env .generate []
      = (Given.ofVariables env {}).map fun g => (.generate 1 .decimal, {}, g) := by
    show (({} : Level).finish env >>= fun _ => _) = _
    rw [hfinish]
    cases Given.ofVariables env {} <;> rfl
  rw [parse, hscan]
  show (readCommand env .generate [] >>= fun _ => _) = _
  rw [hcommand]
  cases hread : Given.ofVariables env {} with
  | error e => rfl
  | ok g =>
      show (({} : Level).finish env >>= fun _ => _) = _
      rw [hfinish, hread]
      rfl

/-- A change may be made before or after a failure is wrapped. -/
theorem bind_mapError_map {ε η α β γ : Type} (x : Except ε α) (change : α → β) (wrap : ε → η)
    (f : β → Except η γ) :
    ((x.map change).mapError wrap).bind f = (x.mapError wrap).bind fun a => f (change a) := by
  cases x <;> rfl

/-- What succeeds in two steps has succeeded in each. -/
theorem exists_of_bind_mapError {ε δ η α β : Type} {x : Except ε α} {wrap : ε → η}
    {f : α → Except δ β} {wrapNext : δ → η} {b : β}
    (h : ((x.mapError wrap).bind fun a => (f a).mapError wrapNext) = .ok b) :
    ∃ a, x = .ok a ∧ f a = .ok b := by
  cases x with
  | error e => cases h
  | ok a => exact ⟨a, rfl, mapError_eq_ok_iff.mp h⟩

/-- The settings of a command without options: variables first, then the
checks. -/
theorem configure_generate (env : Environment) :
    configure env ["generate"] =
      ((Given.ofVariables env {}).mapError .usage).bind fun g =>
        (Config.ofArguments (.ofGiven (.generate 1 .decimal) g)).mapError .config := by
  rw [configure, Arguments.parse_generate]
  exact bind_mapError_map _ _ _ _

/-- Whether settings are accepted has nothing to do with the worker number, if that comes
from a variable. -/
theorem Config.ofArguments_withWorker (command : Command) (n : Option Nat) (g : Given) :
    ofArguments (.ofGiven command (g.withWorker n .env))
      = ofArguments (.ofGiven command (g.withWorker none .env)) :=
  rfl

section
variable {env : Environment} {s : String}

/-- The settings when the variable of the worker number is not set. -/
theorem configure_unset (hsource : env.get? "WORKER_ID_SOURCE" = some (.text "env")) :
    configure (env.unset "WORKER_ID") ["generate"] =
      ((Given.others.foldlM (Given.take env) {}).mapError .usage).bind fun g =>
        (Config.ofArguments (.ofGiven (.generate 1 .decimal) (g.withWorker none .env))).mapError
          .config := by
  have hkept : (env.unset "WORKER_ID").get? "WORKER_ID_SOURCE" = some (.text "env") := by
    rw [env.get?_unset_of_ne (by decide), hsource]
  have htake : ({} : Given).take (env.unset "WORKER_ID") .workerId = .ok { workerId := none } := by
    rw [Given.take, show Setting.workerId.envName? = some "WORKER_ID" from rfl, Option.bind_some,
      Environment.get?_unset_self]
  rw [configure_generate, Given.ofVariables_of_take hkept htake,
    Given.foldlM_take_unset (List.Subset.refl _), bind_mapError_map]

/-- The number is read first. After that the settings are those without the variable. -/
theorem configure_of_env (hworker : env.get? "WORKER_ID" = some (.text s))
    (hsource : env.get? "WORKER_ID_SOURCE" = some (.text "env")) :
    configure env ["generate"] =
      match Text.Decimal.read s.toList with
      | .ok _ => configure (env.unset "WORKER_ID") ["generate"]
      | .error _ => .error (.usage (.badNumber "worker-id")) := by
  have htake : ({} : Given).take env .workerId
      = (Given.number .workerId s).map fun n => { workerId := some n } := by
    rw [Given.take, show Setting.workerId.envName? = some "WORKER_ID" from rfl, Option.bind_some,
      hworker]
    show (do return { ({} : Given) with workerId := ← Given.number .workerId s }) = _
    cases Given.number .workerId s <;> rfl
  rw [configure_generate]
  cases hread : Text.Decimal.read s.toList with
  | error flaw =>
      -- The worker number is the first setting, so nothing hides its error.
      have hrefused : Given.ofVariables env {} = .error (.badNumber "worker-id") := by
        rw [Given.ofVariables_empty,
          show Setting.shared = .workerId :: Setting.shared.tail from rfl, List.foldlM_cons, htake,
          Given.number, hread]
        rfl
      rw [hrefused]
      rfl
  | ok n =>
      have htaken : ({} : Given).take env .workerId = .ok { workerId := some n } := by
        rw [htake, Given.number, hread]
        rfl
      rw [Given.ofVariables_of_take hsource htaken, bind_mapError_map]
      simp only [Config.ofArguments_withWorker _ (some n)]
      exact (configure_unset hsource).symm

/-- The source of settings that were accepted is the variable. -/
theorem source_of_configure_unset (hsource : env.get? "WORKER_ID_SOURCE" = some (.text "env"))
    {c : Config} (h : configure (env.unset "WORKER_ID") ["generate"] = .ok c) :
    c.source = some (.fromEnv "WORKER_ID") := by
  rw [configure_unset hsource] at h
  obtain ⟨g, -, haccepted⟩ := exists_of_bind_mapError h
  have hvariable : (Arguments.ofGiven (.generate 1 .decimal) (g.withWorker none .env)).source
      = .ok (some (.fromEnv "WORKER_ID")) := rfl
  have hsame := hvariable.symm.trans (Config.accepts_of_ofArguments haccepted).source
  exact (Except.ok.inj hsame).symm

/-- A numeral of 64 bits makes no difference. -/
theorem configure_of_spells (hworker : env.get? "WORKER_ID" = some (.text s))
    (hsource : env.get? "WORKER_ID_SOURCE" = some (.text "env")) {n : Nat}
    (hn : Spells s.toList n) (hlt : n < 2 ^ 64) :
    configure env ["generate"] = configure (env.unset "WORKER_ID") ["generate"] := by
  rw [configure_of_env hworker hsource, read_eq_ok_iff.mpr ⟨hn, hlt⟩]

/-- Settings are accepted only if the text is a numeral, and lead back to it. -/
theorem leads_of_configure (hworker : env.get? "WORKER_ID" = some (.text s))
    (hsource : env.get? "WORKER_ID_SOURCE" = some (.text "env")) {c : Config}
    (hc : configure env ["generate"] = .ok c) :
    (∃ n, Spells s.toList n) ∧ c.source = some (.fromEnv "WORKER_ID") := by
  rw [configure_of_env hworker hsource] at hc
  cases hnumber : Text.Decimal.read s.toList with
  | error flaw =>
      rw [hnumber] at hc
      cases hc
  | ok n =>
      rw [hnumber] at hc
      exact ⟨⟨n, (read_eq_ok_iff.mp hnumber).1⟩, source_of_configure_unset hsource hc⟩

end

/-- Take an environment whose variable for the worker number holds a text and is the
source, and the command to issue identifiers, without options.

If the text is a numeral of 64 bits without blanks around it, the settings are accepted
exactly if they are without the variable, and they are the same. If it is no such numeral,
they are refused because of it, even if nothing else is wrong. The source of settings that
were accepted is the variable, so that the worker is the one that this source gives in any
process, or none if it gives none.

Now let the source give a worker, and let the settings be accepted without the variable.
With it they are accepted and lead to this worker exactly if there are no blanks around
the text. -/
theorem worker_variable_is_read_twice {env : Environment} {s : String}
    (hworker : env.get? "WORKER_ID" = some (.text s))
    (hsource : env.get? "WORKER_ID_SOURCE" = some (.text "env")) :
    (∀ n, Spells s.toList n → n < 2 ^ 64 →
      configure env ["generate"] = configure (env.unset "WORKER_ID") ["generate"]) ∧
    ((∀ n, Spells s.toList n → 2 ^ 64 ≤ n) →
      configure env ["generate"] = .error (.usage (.badNumber "worker-id"))) ∧
    (∀ c, configure env ["generate"] = .ok c → c.source = some (.fromEnv "WORKER_ID") ∧
      ∀ w, c.worker env = .ok w ↔ (WorkerSource.fromEnv "WORKER_ID").resolve env = .ok w) ∧
    ∀ w, (WorkerSource.fromEnv "WORKER_ID").resolve env = .ok w →
      ∀ c, configure (env.unset "WORKER_ID") ["generate"] = .ok c →
        ((configure env ["generate"] = .ok c ∧ c.worker env = .ok w) ↔
          Text.Core s.toList s.toList) := by
  refine ⟨fun n => configure_of_spells hworker hsource, ?refused, ?sourced, ?found⟩
  case refused =>
    intro hlarge
    rw [configure_of_env hworker hsource]
    cases hnumber : Text.Decimal.read s.toList with
    | error flaw => rfl
    | ok n =>
        obtain ⟨hn, hlt⟩ := read_eq_ok_iff.mp hnumber
        exact absurd hlt (Nat.not_lt_of_le (hlarge n hn))
  case sourced =>
    intro c hc
    obtain ⟨-, hvariable⟩ := leads_of_configure hworker hsource hc
    exact ⟨hvariable, fun w => Config.worker_eq_ok_iff hvariable⟩
  case found =>
    intro w hw c hc
    constructor
    · rintro ⟨haccepted, -⟩
      obtain ⟨⟨n, hn⟩, -⟩ := leads_of_configure hworker hsource haccepted
      exact hn.core
    · intro hcore
      -- What the source reads is all of the text.
      have hspells : Spells s.toList w.val := by
        rw [WorkerSource.resolve_of_get? hworker, WorkerId.parse_eq_ok_iff] at hw
        rw [Text.core_iff.mp hcore]
        exact hw
      have hlt : w.val < 2 ^ 64 := Nat.lt_of_le_of_lt w.val_le (by decide)
      have haccepted := (configure_of_spells hworker hsource hspells hlt).trans hc
      obtain ⟨-, hvariable⟩ := leads_of_configure hworker hsource haccepted
      exact ⟨haccepted, (Config.worker_eq_ok_iff hvariable).mpr hw⟩

/-- The sign and the zeros do not count, in either reading. -/
theorem worker_variable_is_read_twice_zeros :
    ∃ c, configure (.ofWorker "+007") ["generate"] = .ok c ∧
      c.worker (.ofWorker "+007") = .ok ⟨7, by decide⟩ := by
  have hspells : Spells "+007".toList 7 :=
    ⟨['0', '0', '7'], by decide, List.all_eq_true.mp (by decide), .inr rfl, by decide⟩
  have hworker := Environment.get?_ofWorker "+007"
  have hfound : (WorkerSource.fromEnv "WORKER_ID").resolve (.ofWorker "+007")
      = .ok ⟨7, by decide⟩ := by
    rw [WorkerSource.resolve_of_get? hworker, WorkerId.parse_eq_ok_iff,
      ← Text.core_iff.mp hspells.core]
    exact hspells
  obtain ⟨c, hc⟩ : ∃ c, configure ((Environment.ofWorker "+007").unset "WORKER_ID") ["generate"]
      = .ok c := ⟨_, rfl⟩
  obtain ⟨-, -, -, hboth⟩ :=
    worker_variable_is_read_twice hworker (Environment.get?_ofWorker_source "+007")
  exact ⟨c, (hboth _ hfound c hc).mpr hspells.core⟩

/-- The blanks around the number do not count when the source reads it. The settings are
refused because of them, and would be accepted without the variable. -/
theorem worker_variable_is_read_twice_not_with_blanks :
    (WorkerSource.fromEnv "WORKER_ID").resolve (.ofWorker " 7 ") = .ok ⟨7, by decide⟩ ∧
      (∃ c, configure ((Environment.ofWorker " 7 ").unset "WORKER_ID") ["generate"] = .ok c) ∧
      configure (.ofWorker " 7 ") ["generate"] = .error (.usage (.badNumber "worker-id")) := by
  have hcore : Text.Core " 7 ".toList ['7'] :=
    ⟨[' '], [' '], by decide, List.forall_mem_singleton.mpr (by decide),
      List.forall_mem_singleton.mpr (by decide), by rintro - ⟨⟩; decide, by rintro - ⟨⟩; decide⟩
  have hspells : Spells ['7'] 7 :=
    ⟨['7'], by decide, List.all_eq_true.mp (by decide), .inl rfl, by decide⟩
  have hworker := Environment.get?_ofWorker " 7 "
  refine ⟨?_, ⟨_, rfl⟩, ?_⟩
  · rw [WorkerSource.resolve_of_get? hworker, WorkerId.parse_eq_ok_iff, ← Text.core_iff.mp hcore]
    exact hspells
  · rw [configure_of_env hworker (Environment.get?_ofWorker_source " 7 ")]
    rfl

end Cli

end Snowflake
