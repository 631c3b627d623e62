import Snowflake.Proofs.Conversions
import Snowflake.Proofs.Octets
import Snowflake.Proofs.Provisioning

/-!
# `Snowflake.Proofs.Parsing`: numerals between blanks

Identifiers and worker numbers are read from texts that people type and from
variables that a deployment sets. Each reader takes the blanks on both sides
off, reads a numeral of 64 bits and draws its own line after that.
`parsers_follow_grammar` says which texts each of them accepts and which error
the others get, in terms of what stands between the blanks and of the number it
spells, whatever the size of the number.

`Text.Core` is what stands between the blanks, without the function that cuts
it out. A text has exactly one core (`Text.core_iff`): the core neither starts
nor ends with a blank, so no blank around it can be counted to it.
-/

set_option autoImplicit false

namespace Snowflake

open Text.Decimal (Spells read_eq_ok_iff)

namespace Text

/-- What is left of a text without the blanks on either side. -/
def Core (cs core : List Char) : Prop :=
  ∃ front back, cs = front ++ core ++ back ∧
    (∀ c ∈ front, isBlank c = true) ∧ (∀ c ∈ back, isBlank c = true) ∧
    (∀ c ∈ core.head?, isBlank c = false) ∧ (∀ c ∈ core.getLast?, isBlank c = false)

/-- Blanks at the end are taken off. -/
theorem trimEnd_append {back : List Char} (h : ∀ c ∈ back, isBlank c = true) (cs : List Char) :
    trimEnd (cs ++ back) = trimEnd cs := by
  have hback : ∀ c ∈ back.reverse, isBlank c = true := fun c hc => h c (List.mem_reverse.mp hc)
  rw [trimEnd, List.reverse_append, List.dropWhile_append_of_pos hback, trimEnd]

/-- Whatever is a core of a text is what `trim` leaves of it. -/
theorem trim_eq_of_core {cs core : List Char} (h : Core cs core) : trim cs = core := by
  obtain ⟨front, back, rfl, hfront, hback, hhead, hlast⟩ := h
  have hself := trim_eq_self hhead hlast
  rw [List.append_assoc, trim, List.dropWhile_append_of_pos hfront]
  cases core with
  | nil =>
      -- There are blanks only, and both ends meet.
      have hnone : (back ++ []).dropWhile isBlank = [] := List.dropWhile_append_of_pos hback
      rw [List.append_nil] at hnone
      rw [List.nil_append, hnone]
      rfl
  | cons c core =>
      have hc : ¬ isBlank c = true := Bool.eq_false_iff.mp (hhead c rfl)
      rw [trim, List.dropWhile_cons_of_neg hc] at hself
      rw [List.cons_append, List.dropWhile_cons_of_neg hc, ← List.cons_append,
        trimEnd_append hback, hself]

/-- Behind the blanks in front there is no blank. -/
theorem head?_dropWhile_isBlank (cs : List Char) :
    ∀ c ∈ (cs.dropWhile isBlank).head?, isBlank c = false := by
  intro c hc
  have hstop := List.head?_dropWhile_not isBlank cs
  rw [hc] at hstop
  exact hstop

/-- What `trim` leaves is a core. -/
theorem core_trim (cs : List Char) : Core cs (trim cs) := by
  have hfront : cs.takeWhile isBlank ++ cs.dropWhile isBlank = cs :=
    List.takeWhile_append_dropWhile
  generalize hrest : cs.dropWhile isBlank = rest at hfront
  have hback : trimEnd rest ++ (rest.reverse.takeWhile isBlank).reverse = rest := by
    rw [trimEnd, ← List.reverse_append, List.takeWhile_append_dropWhile, List.reverse_reverse]
  refine ⟨cs.takeWhile isBlank, (rest.reverse.takeWhile isBlank).reverse, ?_, ?_, ?_, ?_, ?_⟩
  · rw [List.append_assoc, trim, hrest, hback, hfront]
  · exact List.all_eq_true.mp List.all_takeWhile
  · intro c hc
    exact List.all_eq_true.mp List.all_takeWhile c (List.mem_reverse.mp hc)
  · intro c hc
    -- What is left starts as the text behind the blanks in front does.
    refine head?_dropWhile_isBlank cs c ?_
    rw [trim, hrest] at hc
    rw [hrest, ← hback, List.head?_append, Option.mem_def.mp hc]
    rfl
  · intro c hc
    rw [trim, hrest, trimEnd, List.getLast?_reverse] at hc
    exact head?_dropWhile_isBlank _ c hc

/-- A text has one core, and `trim` cuts it out. -/
theorem core_iff {cs core : List Char} : Core cs core ↔ core = trim cs := by
  constructor
  · exact fun h => (trim_eq_of_core h).symm
  · rintro rfl
    exact core_trim cs

end Text

/-! ### Texts -/

/-- The answer for a text with this core is that of a reader of identifiers. -/
structure Flake.Reads (core : List Char) (answer : Except Error Flake) : Prop where
  /-- A numeral of 63 bits is read as its number, -/
  ok_iff : ∀ f, answer = .ok f ↔ Spells core f.raw.toNat ∧ f.raw.toNat < 2 ^ 63
  /-- and everything else is refused. -/
  refused_iff : (∃ reason, answer = .error (.invalidId reason)) ↔
    ∀ n, Spells core n → 2 ^ 63 ≤ n

/-- The answer for a text with this core is that of a reader of worker
numbers. -/
structure WorkerId.Reads (core : List Char) (answer : Except Error WorkerId) : Prop where
  /-- A numeral of ten bits is read as its number. -/
  ok_iff : ∀ w, answer = .ok w ↔ Spells core w.val
  /-- A larger one is named in the error if it has 64 bits, -/
  tooLarge_iff : ∀ value limit, answer = .error (.invalidWorkerId value limit) ↔
    limit = 1023 ∧ Spells core value ∧ 1024 ≤ value ∧ value < 2 ^ 64
  /-- and everything else is no worker number. -/
  refused_iff : (∃ reason, answer = .error (.workerIdUnavailable reason)) ↔
    ∀ n, Spells core n → 2 ^ 64 ≤ n

/-- A numeral that is not read has more than 64 bits. -/
theorem Text.Decimal.two_pow_64_le_of_read {cs : List Char} {flaw : Flaw}
    (h : read cs = .error flaw) {n : Nat} (hn : Spells cs n) : 2 ^ 64 ≤ n := by
  refine Nat.le_of_not_lt fun hlt => ?_
  rw [read_eq_ok_iff.mpr ⟨hn, hlt⟩] at h
  cases h

/-- A word that the core spells is an identifier exactly below `2 ^ 63`. -/
theorem Flake.ofWord_reads {raw : UInt64} {core : List Char} (h : Spells core raw.toNat) :
    Flake.Reads core (ofWord raw) := by
  constructor
  case ok_iff =>
    intro f
    rw [ofWord_eq_ok_iff, isValid_iff_lt]
    constructor
    · rintro ⟨rfl, hvalid⟩
      exact ⟨h, hvalid⟩
    · rintro ⟨hf, hvalid⟩
      exact ⟨UInt64.toNat_inj.mp (hf.unique h), hvalid⟩
  case refused_iff =>
    by_cases hsmall : raw.toNat < 2 ^ 63
    · have hok := ofWord_eq_ok_iff.mpr ⟨rfl, isValid_iff_lt.mpr hsmall⟩
      rw [hok]
      exact iff_of_false (fun ⟨_, h⟩ => nomatch h) fun hlarge => Nat.not_le_of_lt hsmall (hlarge _ h)
    · have hset : (Flake.mk raw).isValid = false := by
        rw [Bool.eq_false_iff, Ne, isValid_iff_lt]
        exact hsmall
      -- A text spells one number only, so the word is all there is to compare.
      refine iff_of_true (ofWord_of_not_isValid hset) fun n hn => ?_
      rw [hn.unique h]
      exact Nat.le_of_not_lt hsmall

/-- An identifier is read from a text by the rule for its core. -/
theorem Flake.parse_reads (s : String) : Flake.Reads (Text.trim s.toList) (Flake.parse s) := by
  unfold Flake.parse
  cases hread : Text.Decimal.read (Text.trim s.toList) with
  | ok value =>
      obtain ⟨hspells, hlt⟩ := read_eq_ok_iff.mp hread
      have hvalue : (UInt64.ofNat value).toNat = value := UInt64.toNat_ofNat_of_lt hlt
      exact ofWord_reads (hvalue.symm ▸ hspells)
  | error flaw =>
      have hlarge {n : Nat} (hn : Spells (Text.trim s.toList) n) : 2 ^ 63 < n := by
        have := Text.Decimal.two_pow_64_le_of_read hread hn
        omega
      constructor
      case ok_iff =>
        exact fun f => iff_of_false nofun fun ⟨hf, hsmall⟩ => Nat.lt_asymm hsmall (hlarge hf)
      case refused_iff => exact iff_of_true ⟨_, rfl⟩ fun n hn => Nat.le_of_lt (hlarge hn)

/-- A worker number is read by the rule for its core: as a word first, which is
compared with 1023 then. -/
theorem WorkerId.parse_reads (s : String) :
    WorkerId.Reads (Text.trim s.toList) (WorkerId.parse s) := by
  constructor
  case ok_iff => exact fun w => parse_eq_ok_iff
  all_goals
    unfold WorkerId.parse
    cases hread : Text.Decimal.read (Text.trim s.toList)
  case tooLarge_iff.error flaw =>
    refine fun value limit => iff_of_false nofun ?_
    rintro ⟨-, hvalue, -, hlt⟩
    exact Nat.not_le_of_lt hlt (Text.Decimal.two_pow_64_le_of_read hread hvalue)
  case refused_iff.error flaw =>
    exact iff_of_true ⟨_, rfl⟩ fun n hn => Text.Decimal.two_pow_64_le_of_read hread hn
  case tooLarge_iff.ok n =>
    obtain ⟨hspells, hlt⟩ := read_eq_ok_iff.mp hread
    intro value limit
    show WorkerId.new n = .error (.invalidWorkerId value limit) ↔ _
    rw [new_eq_error_iff]
    constructor
    · rintro ⟨hlarge, ⟨⟩⟩
      exact ⟨rfl, hspells, hlarge, hlt⟩
    · rintro ⟨rfl, hvalue, hlarge, -⟩
      rw [hvalue.unique hspells] at hlarge ⊢
      exact ⟨hlarge, rfl⟩
  case refused_iff.ok n =>
    obtain ⟨hspells, hlt⟩ := read_eq_ok_iff.mp hread
    refine iff_of_false ?_ fun hlarge => Nat.not_le_of_lt hlt (hlarge n hspells)
    rintro ⟨reason, h⟩
    obtain ⟨-, h⟩ := new_eq_error_iff.mp h
    cases h

/-! ### Variables -/

namespace VarValue

/-- What stands behind a front in a value is made of octets as the value is. -/
theorem ofOctets_of_behind? {front : List Char} {bs : List UInt8} {v : VarValue}
    (h : (ofOctets bs).behind? front = some v) : ∃ cs, v = ofOctets cs := by
  cases hvalue : ofOctets bs with
  | text s =>
      rw [hvalue] at h
      obtain ⟨rest, -, rfl⟩ := Option.map_eq_some_iff.mp h
      exact ⟨_, (ofOctets_eq_text_iff.mpr rfl).symm⟩
  | octets cs =>
      rw [hvalue] at h
      obtain ⟨rest, hrest, rfl⟩ := Option.map_eq_some_iff.mp h
      have hcs : bs = cs := by
        unfold ofOctets at hvalue
        split at hvalue <;> cases hvalue
        rfl
      subst hcs
      refine ⟨rest, (ofOctets_eq_octets_iff.mpr fun t ht => ?_).symm⟩
      -- Behind a front that is text, a text would make all of it text.
      refine ofOctets_eq_octets_iff.mp hvalue (String.ofList front ++ t) ?_
      rw [Text.utf8_append, ← ht, ← Text.toList_toUTF8]
      exact (List.isPrefixOf?_eq_some_iff_append_eq.mp hrest).symm

end VarValue

/-- A process is started with values that are text whenever their octets are. -/
theorem Environment.find?_ofBlock {block : List UInt8} {name : String} {v : VarValue}
    (h : (ofBlock block).find? name = some v) : ∃ bs, v = .ofOctets bs := by
  have hget {name : String} {v : VarValue} (h : (ofBlock block).get? name = some v) :
      ∃ bs, v = .ofOctets bs := by
    obtain ⟨front, back, hsplit, -⟩ := List.lookup_eq_some_iff.mp h
    have hmem : (name, v) ∈ (ofBlock block).vars := hsplit ▸ List.mem_append_right _ (.head _)
    obtain ⟨entry, -, hentry⟩ := List.mem_filterMap.mp hmem
    unfold ofEntry? at hentry
    split at hentry
    · obtain ⟨_, -, ⟨⟩⟩ := Option.map_eq_some_iff.mp hentry
      exact ⟨_, rfl⟩
    · cases hentry
  unfold find? at h
  split at h
  · exact hget h
  · obtain ⟨value, hvalue, hbehind⟩ := Option.bind_eq_some_iff.mp h
    obtain ⟨bs, rfl⟩ := hget hvalue
    exact VarValue.ofOctets_of_behind? hbehind

namespace WorkerSource

variable {env : Environment} {name : String}

/-- A variable that is text is read like any other text. -/
theorem resolve_fromEnv_text {s : String} (h : env.find? name = some (.text s)) :
    (fromEnv name).resolve env = WorkerId.parse s := by
  show variableText env name >>= WorkerId.parse = _
  rw [variableText, Environment.text, h]
  rfl

/-- A variable that is not set, or is not text, gives no worker. -/
theorem resolve_fromEnv_of_not_text (h : ∀ s, env.find? name ≠ some (.text s)) :
    ∃ reason, (fromEnv name).resolve env = .error (.workerIdUnavailable reason) := by
  show ∃ reason, (variableText env name >>= WorkerId.parse) = _
  rw [variableText, Environment.text]
  match hfind : env.find? name with
  | none => exact ⟨_, rfl⟩
  | some (.octets bs) => exact ⟨_, rfl⟩
  | some (.text s) => exact absurd hfind (h s)

end WorkerSource

/-! ### Both -/

/-- Take a text and what stands in it between the blanks on either side. It is
read as an identifier exactly if that is a numeral below `2 ^ 63`, and as a
worker exactly if it is a numeral of ten bits; the number is the one that is
spelled. A worker number that is too large is named in the error as long as it
has 64 bits. A variable is read as its text, and one that is not set or that
holds no text in UTF-8 gives no worker. -/
theorem parsers_follow_grammar :
    (∀ s : String, ∃ core, (∀ cs, Text.Core s.toList cs ↔ cs = core) ∧
      Flake.Reads core (Flake.parse s) ∧ WorkerId.Reads core (WorkerId.parse s)) ∧
    ∀ (env : Environment) (name : String),
      (env.find? name = none →
        ∃ reason, (WorkerSource.fromEnv name).resolve env = .error (.workerIdUnavailable reason)) ∧
      (∀ s, env.find? name = some (.ofOctets (Text.utf8 s)) →
        (WorkerSource.fromEnv name).resolve env = WorkerId.parse s) ∧
      ∀ bs, (∀ s, bs ≠ Text.utf8 s) → env.find? name = some (.ofOctets bs) →
        ∃ reason,
          (WorkerSource.fromEnv name).resolve env = .error (.workerIdUnavailable reason) := by
  refine ⟨fun s => ?_, fun env name => ⟨fun hnone => ?_, fun s hs => ?_, fun bs hbs hfind => ?_⟩⟩
  · exact ⟨Text.trim s.toList, fun _ => Text.core_iff, Flake.parse_reads s, WorkerId.parse_reads s⟩
  · exact WorkerSource.resolve_fromEnv_of_not_text fun s hs => nomatch hnone.symm.trans hs
  · rw [VarValue.ofOctets_eq_text_iff.mpr rfl] at hs
    exact WorkerSource.resolve_fromEnv_text hs
  · rw [VarValue.ofOctets_eq_octets_iff.mpr hbs] at hfind
    exact WorkerSource.resolve_fromEnv_of_not_text fun s hs => nomatch hfind.symm.trans hs

/-- A wide space in front and a line feed behind do not count, and nor do the
sign and the zeros. -/
theorem parsers_follow_grammar_wideSpace :
    Flake.parse "\u3000+0042\n" = .ok ⟨42⟩ ∧
      (WorkerSource.fromEnv "WORKER_ID").resolve
        (Environment.empty.set "WORKER_ID" (.text "\u3000+0042\n")) = .ok ⟨42, by decide⟩ ∧
      ∃ reason, (WorkerSource.fromEnv "WORKER_ID").resolve
        (Environment.empty.set "WORKER_ID" (.octets [0xFF])) =
          .error (.workerIdUnavailable reason) := by
  have hcore : Text.Core "\u3000+0042\n".toList ['+', '0', '0', '4', '2'] :=
    ⟨['\u3000'], ['\n'], by decide +kernel, List.forall_mem_singleton.mpr (by decide +kernel),
      List.forall_mem_singleton.mpr (by decide +kernel), by rintro - ⟨⟩; decide +kernel,
      by rintro - ⟨⟩; decide +kernel⟩
  have hspells : Spells ['+', '0', '0', '4', '2'] 42 :=
    ⟨['0', '0', '4', '2'], by decide, List.all_eq_true.mp (by decide), .inr rfl, by decide⟩
  have hset (value : VarValue) :
      (Environment.empty.set "WORKER_ID" value).find? "WORKER_ID" = some value := by
    rw [Environment.find?_eq_get? _ (by decide +kernel), Environment.get?_set_self]
  have hstray : VarValue.ofOctets [0xFF] = .octets [0xFF] := by decide +kernel
  obtain ⟨core, hunique, hflake, hworker⟩ := parsers_follow_grammar.1 "\u3000+0042\n"
  obtain rfl := (hunique _).mp hcore
  obtain ⟨-, htext, -⟩ := parsers_follow_grammar.2
    (Environment.empty.set "WORKER_ID" (.text "\u3000+0042\n")) "WORKER_ID"
  obtain ⟨-, -, hoctets⟩ := parsers_follow_grammar.2
    (Environment.empty.set "WORKER_ID" (.octets [0xFF])) "WORKER_ID"
  refine ⟨(hflake.ok_iff ⟨42⟩).mpr ⟨hspells, by decide⟩, ?_, ?_⟩
  · rw [htext "\u3000+0042\n" (by rw [hset, VarValue.ofOctets_eq_text_iff.mpr rfl])]
    exact (hworker.ok_iff _).mpr hspells
  · exact hoctets [0xFF] (VarValue.ofOctets_eq_octets_iff.mp hstray) (by rw [hset, hstray])

end Snowflake
