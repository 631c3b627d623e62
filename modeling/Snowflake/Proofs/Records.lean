import Snowflake.Cli.Run
import Snowflake.Proofs.Dates
import Snowflake.Proofs.Documents
import Snowflake.Proofs.Ordering
import Snowflake.Proofs.Packing

/-!
# `Snowflake.Proofs.Records`: what a line shows of an identifier

An identifier is taken apart into a document: when it is decoded, and on the
line that is written for it in JSON. `Record.Tells` says which document tells
the truth about an identifier under an epoch. The fields make it up again, and
the point in time stands in it as far as a word and the calendar reach
(`Record.Moment`). A sum beyond 64 bits has no Unix time, and a Unix time after
the year 262142 has no date.

`Cli.Format.Shows` says which lines show an identifier in a format, without the
functions that write them: the decimal number, a numeral of twenty digits, and
a text that is read as a document about the identifier. `Cli.Format.shows_line`
is what the rest of the development takes from here. It asks for a clear
reserved bit, because the fields of any other word do not make it up again.
-/

set_option autoImplicit false

namespace Snowflake

/-! ### Numbers as text -/

namespace Text.Decimal

/-- The digits of a number are those that the library gives to the base ten. -/
theorem digits_eq_toDigits (n : Nat) : digits n = Nat.toDigits 10 n := by
  induction n using Nat.strongRecOn with
  | _ n ih =>
      by_cases hn : n < 10
      · rw [digits_of_lt hn, Nat.toDigits_of_lt_base hn]
      · have hge := Nat.le_of_not_lt hn
        rw [digits_of_ge hge, ih (n / 10) (by omega), Nat.toDigits_of_base_le (by decide) hge]

/-- Numbers are written as everywhere. -/
theorem text_eq_toString (n : Nat) : text n = toString n := by
  rw [text, digits_eq_toDigits]
  rfl

end Text.Decimal

/-! ### Documents about identifiers -/

namespace Json

/-- The first member of an object with a name. -/
def member? (name : String) : Json → Option Json
  | object members => members.lookup name
  | _ => none

/-- A number below `2 ^ 64` is read back from its text. -/
theorem fits_ofNat {room n : Nat} (h : n < 2 ^ 64) : Fits room (ofNat n) :=
  .whole (by omega) (by omega)

end Json

namespace Record

/-- How a point in time stands in a document, so many milliseconds after the
start of 1970: as a number, and as a date with a time of day. -/
inductive Moment (ms : Nat) : Json → Json → Prop
  /-- The number does not fit. -/
  | beyondWord (h : 2 ^ 64 ≤ ms) : Moment ms .null .null
  /-- The calendar does not reach so far. -/
  | beyondCalendar (hlate : Calendar.lastMillis < ms) (hword : ms < 2 ^ 64) :
      Moment ms (.ofNat ms) .null
  | written {text : String} (h : ms ≤ Calendar.lastMillis) (htext : Calendar.Denotes text ms) :
      Moment ms (.ofNat ms) (.string text)

/-- The document says what the identifier is made of, and when it was issued
under the epoch. -/
inductive Tells (epoch : Duration) (id : Flake) : Json → Prop
  | intro {unix time : Json}
      (hparts : Flake.ofParts id.timestamp id.worker.val id.sequence = id)
      (hmoment : Moment (epoch.millis + id.timestamp) unix time) :
      Tells epoch id (.object
        [("id", .string (toString id.raw.toNat)), ("timestamp", .ofNat id.timestamp),
          ("unix_ms", unix), ("time", time), ("worker_id", .ofNat id.worker.val),
          ("sequence", .ofNat id.sequence)])

/-- The Unix time and the date of a record are the point in time at which the
identifier was issued. -/
theorem moment_ofFlake (epoch : Duration) (id : Flake) :
    Moment (epoch.millis + id.timestamp) (.ofOption .ofNat (id.unixMillis? epoch))
      (.ofOption .string ((id.unixMillis? epoch).bind Calendar.stamp?)) := by
  unfold Flake.unixMillis?
  -- The sum fits only if the epoch does, so one question stands for both checks.
  by_cases hword : epoch.millis + id.timestamp < 2 ^ 64
  · have hepoch : epoch.millis < 2 ^ 64 := by omega
    rw [if_pos ⟨hepoch, hword⟩, Option.bind_some, Calendar.stamp?]
    by_cases hlate : epoch.millis + id.timestamp ≤ Calendar.lastMillis
    · rw [if_pos hlate]
      exact .written hlate (Calendar.denotes_stampText _)
    · rw [if_neg hlate]
      exact .beyondCalendar (Nat.lt_of_not_le hlate) hword
  · rw [if_neg fun h => hword h.2]
    exact .beyondWord (Nat.le_of_not_lt hword)

/-- The record of a valid identifier tells the truth about it. -/
theorem tells_ofFlake (epoch : Duration) {id : Flake} (h : id.isValid = true) :
    Tells epoch id (ofFlake id epoch).toJson := by
  have htext : id.text = toString id.raw.toNat := Text.Decimal.text_eq_toString _
  rw [toJson, ofFlake, htext]
  exact .intro (Flake.ofParts_fields h) (moment_ofFlake epoch id)

/-- A point in time is read back, whether it is there or not. -/
theorem Moment.fits {ms room : Nat} {unix time : Json} (h : Moment ms unix time) :
    Json.Fits room unix ∧ Json.Fits room time := by
  cases h with
  | beyondWord _ => exact ⟨.null, .null⟩
  | beyondCalendar _ hword => exact ⟨Json.fits_ofNat hword, .null⟩
  | written hlast _ => exact ⟨Json.fits_ofNat (Nat.lt_of_le_of_lt hlast (by decide)), .string _⟩

/-- A document about an identifier can be read back. -/
theorem fits_toJson (id : Flake) (epoch : Duration) :
    Json.Fits Json.maxDepth (ofFlake id epoch).toJson := by
  obtain ⟨hunix, htime⟩ := (moment_ofFlake epoch id).fits
  have htimestamp : id.timestamp < 2 ^ 64 := Nat.lt_of_le_of_lt id.timestamp_le (by decide)
  have hworker : id.worker.val < 2 ^ 64 := Nat.lt_of_le_of_lt id.worker.val_le (by decide)
  have hsequence : id.sequence < 2 ^ 64 := Nat.lt_of_le_of_lt id.sequence_le (by decide)
  refine .object ?_
  simp only [List.forall_mem_cons]
  exact ⟨.string _, Json.fits_ofNat htimestamp, hunix, htime, Json.fits_ofNat hworker,
    Json.fits_ofNat hsequence, nofun⟩

end Record

/-! ### Lines -/

namespace Cli

/-- The line shows the identifier in the format, under the epoch. -/
inductive Format.Shows (epoch : Duration) (id : Flake) : Format → String → Prop
  /-- The number of its word. -/
  | decimal : Shows epoch id .decimal (toString id.raw.toNat)
  /-- A numeral of this number, as wide as that of the greatest word. -/
  | padded {line : String} (hlength : line.length = 20)
      (hdigits : ∀ c ∈ line.toList, c.isDigit = true)
      (hnumber : Text.Decimal.Spells line.toList id.raw.toNat) : Shows epoch id .padded line
  /-- A document that tells what it is made of and when it was issued. -/
  | json {line : String} {doc : Json} (hread : Json.read? line = some doc)
      (htells : Record.Tells epoch id doc) : Shows epoch id .json line

/-- The line of a valid identifier shows it, whatever the format. -/
theorem Format.shows_line (format : Format) (epoch : Duration) {id : Flake}
    (h : id.isValid = true) : format.Shows epoch id (format.line epoch id) := by
  cases format with
  | decimal =>
      have htext : Format.decimal.line epoch id = toString id.raw.toNat :=
        Text.Decimal.text_eq_toString _
      rw [htext]
      exact .decimal
  | padded =>
      refine .padded id.length_paddedText (fun _ => Flake.isDigit_of_mem_paddedText) ?_
      show Text.Decimal.Spells id.paddedText.toList id.raw.toNat
      rw [Flake.paddedText, String.toList_ofList]
      exact Text.Decimal.spells_padded _ _
  | json =>
      have hread : Json.read? (Format.json.line epoch id) = some (Record.ofFlake id epoch).toJson :=
        Json.read?_compact (Record.fits_toJson id epoch)
      exact .json hread (Record.tells_ofFlake epoch h)

end Cli

end Snowflake
