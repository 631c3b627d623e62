import Snowflake.Proofs.Provisioning

/-!
# `Snowflake.Proofs.Ordinals`: which worker a pod gets

Orchestrators number the pods of a service, and a pod's host name ends in its
number. The worker is that number plus the offset of the service. Both come
from outside and may be of any size, so their sum may have more than ten bits,
or more than 64.

`WorkerSource.HasOrdinal` says what the number of a host name is, in terms of
the text alone. `WorkerSource.Resolved` lists the four things that may become of
it, each with what it answers, and `resolved_ofOrdinal` shows that one of them
always does. Nothing on the list wraps. So two pods share a worker only if
their numbers and offsets have the same sum, and the numbers are those that
stand in the host names (`ofOrdinal_classified`).
-/

set_option autoImplicit false

namespace Snowflake

namespace WorkerSource

open Text

/-- The host name has a `-`, and what stands behind the last one is a numeral
of the number. -/
def HasOrdinal (hostname : String) (n : Nat) : Prop :=
  ∃ front suffix, hostname.toList = front ++ '-' :: suffix ∧ '-' ∉ suffix ∧
    Decimal.Spells suffix n

/-- The number is read exactly if the host name has it and it has 64 bits. -/
theorem trailingOrdinal?_eq_some {hostname : String} {n : Nat} :
    trailingOrdinal? hostname = some n ↔ HasOrdinal hostname n ∧ n < UInt64.size := by
  rw [trailingOrdinal?_eq_some_iff]
  constructor
  · rintro ⟨front, suffix, hsplit, hlast, hspells, hlt⟩
    exact ⟨⟨front, suffix, hsplit, hlast, hspells⟩, hlt⟩
  · rintro ⟨⟨front, suffix, hsplit, hlast, hspells⟩, hlt⟩
    exact ⟨front, suffix, hsplit, hlast, hspells, hlt⟩

/-- A host name has one number at most. -/
theorem HasOrdinal.unique {hostname : String} {m n : Nat} (hm : HasOrdinal hostname m)
    (hn : HasOrdinal hostname n) : m = n := by
  obtain ⟨front, suffix, hsplit, hlast, hm⟩ := hm
  obtain ⟨front', suffix', hsplit', hlast', hn⟩ := hn
  have hfirst := afterLast?_eq_some_iff.mpr ⟨front, hsplit, hlast⟩
  rw [afterLast?_eq_some_iff.mpr ⟨front', hsplit', hlast'⟩] at hfirst
  cases hfirst
  exact hm.unique hn

/-- A pod has the number that its name ends in, whatever stands before the
`-`, other `-` included. -/
theorem hasOrdinal_pod (base numeral : String) {n : Nat} (h : Decimal.Spells numeral.toList n) :
    HasOrdinal (base ++ "-" ++ numeral) n := by
  refine ⟨base.toList, numeral.toList, ?_, h.minus_notMem, h⟩
  simp

/-- What becomes of a host name and an offset. -/
inductive Resolved (hostname : String) (offset : Nat) : Except Error WorkerId → Prop
  /-- The sum has ten bits. -/
  | worker {n : Nat} (hn : HasOrdinal hostname n) (hle : n + offset ≤ 1023) :
      Resolved hostname offset (.ok ⟨n + offset, hle⟩)
  /-- The sum is no worker, and the error names it. -/
  | tooLarge {n : Nat} (hn : HasOrdinal hostname n) (hlt : 1023 < n + offset)
      (hfits : n + offset < UInt64.size) :
      Resolved hostname offset (.error (.invalidWorkerId (n + offset) 1023))
  /-- The sum has no 64 bits, and the error names both parts. -/
  | overflow {n : Nat} (hn : HasOrdinal hostname n) (hfits : n < UInt64.size)
      (hle : UInt64.size ≤ n + offset) :
      Resolved hostname offset (.error (.workerIdUnavailable ("ordinal " ++ Decimal.text n
        ++ " plus offset " ++ Decimal.text offset ++ " overflows u64")))
  /-- There is no number, or it has no 64 bits. -/
  | unnumbered (hnone : ∀ n, HasOrdinal hostname n → UInt64.size ≤ n) :
      Resolved hostname offset (.error (.workerIdUnavailable
        ("hostname " ++ Quoted.text hostname ++ " has no trailing ordinal")))

/-- One of the four always does. -/
theorem resolved_ofOrdinal (hostname : String) (offset : Nat) :
    Resolved hostname offset (ofOrdinal hostname offset) := by
  unfold ofOrdinal
  cases hordinal : trailingOrdinal? hostname with
  | none =>
      refine .unnumbered fun n hn => Nat.le_of_not_lt fun hlt => ?_
      rw [trailingOrdinal?_eq_some.mpr ⟨hn, hlt⟩] at hordinal
      cases hordinal
  | some n =>
      obtain ⟨hn, hfits⟩ := trailingOrdinal?_eq_some.mp hordinal
      by_cases hsum : n + offset < UInt64.size
      · simp only [if_pos hsum, WorkerId.new]
        by_cases hle : n + offset ≤ 1023
        · rw [dif_pos hle]
          exact .worker hn hle
        · rw [dif_neg hle]
          exact .tooLarge hn (Nat.lt_of_not_le hle) hsum
      · simp only [if_neg hsum]
        exact .overflow hn hfits (Nat.le_of_not_lt hsum)

/-- A host name has a worker exactly if its number and the offset add up to
it. -/
theorem ofOrdinal_eq_ok {hostname : String} {offset : Nat} {w : WorkerId} :
    ofOrdinal hostname offset = .ok w ↔ ∃ n, HasOrdinal hostname n ∧ n + offset = w.val := by
  have hsmall : w.val < UInt64.size := Nat.lt_of_le_of_lt w.val_le (by decide)
  rw [ofOrdinal_eq_ok_iff]
  refine exists_congr fun n => ?_
  rw [trailingOrdinal?_eq_some]
  constructor
  · rintro ⟨⟨hn, -⟩, hsum⟩
    exact ⟨hn, hsum⟩
  · rintro ⟨hn, hsum⟩
    exact ⟨⟨hn, by omega⟩, hsum⟩

/-- The sum is refused as no worker exactly if it has 64 bits, but more than
ten. -/
theorem ofOrdinal_eq_invalid {hostname : String} {offset value limit : Nat} :
    ofOrdinal hostname offset = .error (.invalidWorkerId value limit) ↔
      limit = 1023 ∧ ∃ n, HasOrdinal hostname n ∧ n + offset = value ∧
        1024 ≤ value ∧ value < UInt64.size := by
  have hresolved := resolved_ofOrdinal hostname offset
  constructor
  · intro h
    rw [h] at hresolved
    cases hresolved with
    | tooLarge hn hlt hfits => exact ⟨rfl, _, hn, rfl, hlt, hfits⟩
  · rintro ⟨rfl, n, hn, rfl, hlarge, hfits⟩
    -- A host name has one number, so each of the other outcomes would
    -- contradict the sum.
    generalize ofOrdinal hostname offset = result at hresolved
    cases hresolved with
    | worker hm hle =>
        have hsame := hm.unique hn
        omega
    | tooLarge hm hlt hfits => rw [hm.unique hn]
    | overflow hm hroom hle =>
        have hsame := hm.unique hn
        omega
    | unnumbered hnone =>
        have hle := hnone n hn
        omega

/-- There is no worker exactly if no number of the host name has a sum of 64
bits with the offset. -/
theorem ofOrdinal_eq_unavailable {hostname : String} {offset : Nat} :
    (∃ reason, ofOrdinal hostname offset = .error (.workerIdUnavailable reason)) ↔
      ¬ ∃ n, HasOrdinal hostname n ∧ n + offset < UInt64.size := by
  have hresolved := resolved_ofOrdinal hostname offset
  constructor
  · rintro ⟨reason, h⟩ ⟨n, hn, hfits⟩
    rw [h] at hresolved
    cases hresolved with
    | overflow hm hroom hle =>
        have hsame := hm.unique hn
        omega
    | unnumbered hnone =>
        have hle := hnone n hn
        omega
  · intro hnone
    generalize ofOrdinal hostname offset = result at hresolved
    cases hresolved with
    | worker hn hle => exact absurd ⟨_, hn, Nat.lt_of_le_of_lt hle (by decide)⟩ hnone
    | tooLarge hn hlt hfits => exact absurd ⟨_, hn, hfits⟩ hnone
    | overflow | unnumbered => exact ⟨_, rfl⟩

end WorkerSource

open WorkerSource in
/-- Take any host name and any offset. The host name has the worker `w` exactly
if it has a `-`, a numeral stands behind the last one, perhaps with a plus sign
in front, and the number and the offset add up to `w`. The sum is refused as a
worker, and named, exactly if it has 64 bits, but more than ten. In every other
case no worker is available: the host name has no number, or the sum has more
than 64 bits.

Take any two pods, of any services with any offsets, with numbers written in
decimal, leading zeros or not. If both have a worker, then it is the same one
exactly if the numbers and the offsets have the same sum. -/
theorem ofOrdinal_classified :
    (∀ (hostname : String) (offset : Nat),
      (∀ w, ofOrdinal hostname offset = .ok w ↔
        ∃ n, HasOrdinal hostname n ∧ n + offset ≤ 1023 ∧ n + offset = w.val) ∧
      (∀ value limit, ofOrdinal hostname offset = .error (.invalidWorkerId value limit) ↔
        limit = 1023 ∧ ∃ n, HasOrdinal hostname n ∧ n + offset = value ∧
          1024 ≤ value ∧ value < UInt64.size) ∧
      ((∃ reason, ofOrdinal hostname offset = .error (.workerIdUnavailable reason)) ↔
        ¬ ∃ n, HasOrdinal hostname n ∧ n + offset < UInt64.size)) ∧
    (∀ i, Text.Decimal.Spells (Text.Decimal.text i).toList i) ∧
    ∀ (a b s t : String) (i j o₁ o₂ : Nat) (v w : WorkerId),
      Text.Decimal.Spells s.toList i → Text.Decimal.Spells t.toList j →
      ofOrdinal (a ++ "-" ++ s) o₁ = .ok v → ofOrdinal (b ++ "-" ++ t) o₂ = .ok w →
      (v = w ↔ i + o₁ = j + o₂) := by
  refine ⟨fun hostname offset => ⟨fun w => ?_, fun _ _ => ofOrdinal_eq_invalid,
    ofOrdinal_eq_unavailable⟩, Text.Decimal.spells_text, ?_⟩
  · rw [ofOrdinal_eq_ok]
    constructor
    · rintro ⟨n, hn, hsum⟩
      exact ⟨n, hn, hsum ▸ w.val_le, hsum⟩
    · rintro ⟨n, hn, -, hsum⟩
      exact ⟨n, hn, hsum⟩
  · intro a b s t i j o₁ o₂ v w hi hj hv hw
    obtain ⟨m, hm, hmv⟩ := ofOrdinal_eq_ok.mp hv
    obtain ⟨n, hn, hnw⟩ := ofOrdinal_eq_ok.mp hw
    -- The numbers are those that the names end in.
    obtain rfl : m = i := hm.unique (hasOrdinal_pod a s hi)
    obtain rfl : n = j := hn.unique (hasOrdinal_pod b t hj)
    rw [hmv, hnw]
    exact ⟨congrArg WorkerId.val, WorkerId.ext_val⟩

/-- A pod of one service has a leading zero, and a pod of another has a `-` in
its base. They get the same worker, since their sums are the same. -/
theorem ofOrdinal_classified_pods :
    WorkerSource.ofOrdinal "search-007" 95 = .ok ⟨102, by decide⟩ ∧
    WorkerSource.ofOrdinal "order-service-2" 100 = .ok ⟨102, by decide⟩ ∧
    ((⟨102, by decide⟩ : WorkerId) = ⟨102, by decide⟩ ↔ 7 + 95 = 2 + 100) := by
  have hsearch : WorkerSource.ofOrdinal "search-007" 95 = .ok ⟨102, by decide⟩ := by
    decide +kernel
  have horder : WorkerSource.ofOrdinal "order-service-2" 100 = .ok ⟨102, by decide⟩ := by
    decide +kernel
  have hseven : Text.Decimal.Spells "007".toList 7 :=
    ⟨['0', '0', '7'], by decide, List.all_eq_true.mp rfl, .inl rfl, rfl⟩
  have htwo : Text.Decimal.Spells "2".toList 2 :=
    ⟨['2'], by decide, List.all_eq_true.mp rfl, .inl rfl, rfl⟩
  refine ⟨hsearch, horder, ?_⟩
  exact ofOrdinal_classified.2.2 "search" "order-service" "007" "2" 7 2 95 100 _ _ hseven
    htwo hsearch horder

end Snowflake
