import Snowflake.Proofs.Conversions
import Snowflake.Proofs.Minting

/-!
# `Snowflake.Proofs.Decoding`: what is told about a text

A text that spells an identifier is taken apart into a document about it, and
any other text is refused. `Cli.decode_tells` shows that what is decoded is
told truly (`Record.Tells`), and the same for every way in which an issued
identifier was written. The texts are read back by the readers of this program,
so nothing depends on how they are laid out. That an issued identifier can be
read at all is due to its reserved bit, which is clear whatever word the
generator started from (`Issues.isValid`).
-/

set_option autoImplicit false

namespace Snowflake

/-! ### What is written -/

namespace Cli

/-- Taking the text apart fails. The reason is reported, and nothing is
written. -/
def Refuses (text : String) (epoch : Duration) (e : Error) : Prop :=
  ∀ {m : Type → Type} [Monad m] (write : String → m Unit),
    decode write text epoch = return .error (.notAnId text e)

/-- Taking the text apart succeeds. What is written is the document, and a line
break behind it. -/
def Prints (text : String) (epoch : Duration) (doc : Json) : Prop :=
  ∃ body, Json.read? body = some doc ∧
    ∀ {m : Type → Type} [Monad m] (write : String → m Unit),
      decode write text epoch = (do
        write (body ++ "\n")
        return .ok ())

/-- A text that does not parse is refused with the reason. -/
theorem refuses_of_parse {text : String} {e : Error} (h : Flake.parse text = .error e)
    (epoch : Duration) : Refuses text epoch e := by
  intro m _ write
  rw [decode, decodeText, h]

/-- A text that parses is taken apart into the document of its identifier. -/
theorem prints_of_parse {text : String} {id : Flake} (h : Flake.parse text = .ok id)
    (epoch : Duration) : Prints text epoch (Record.ofFlake id epoch).toJson := by
  refine ⟨_, Json.read?_indented (Record.fits_toJson id epoch), ?_⟩
  intro m _ write
  rw [decode, decodeText, h]

/-- However an identifier is written, it is taken apart into one document, which
is its line in JSON. -/
theorem prints_written (epoch : Duration) {id : Flake} (h : id.isValid = true) :
    ∃ doc text, Record.Tells epoch id doc ∧
      Json.read? (Format.json.line epoch id) = some doc ∧
      doc.member? "id" = some (.string text) ∧
      ∀ line ∈ [text, Format.decimal.line epoch id, Format.padded.line epoch id],
        Prints line epoch doc := by
  -- The document is written in both layouts, and read back from both.
  have hline := Json.read?_compact (Record.fits_toJson id epoch)
  have hword : Flake.ofWord id.raw = .ok id := Flake.ofWord_eq_ok_iff.mpr ⟨rfl, h⟩
  have htext := prints_of_parse ((Flake.parse_text id).trans hword) epoch
  have hpadded := prints_of_parse ((Flake.parse_paddedText id).trans hword) epoch
  refine ⟨_, id.text, Record.tells_ofFlake epoch h, hline, rfl, ?_⟩
  simp only [List.forall_mem_cons]
  exact ⟨htext, htext, hpadded, nofun⟩

/-- Take any epoch. A text that is no identifier is refused, and nothing is
written for it. For any other text, one document is written, and it tells what
the identifier is made of and when it was issued under the epoch.

Now issue identifiers, with a generator of either kind in any state, on any
machine and with any clock, and write each on a line in some format. What an
onlooker notes of the run is this: the texts are the lines of the identifiers
that were issued. Take any of these identifiers. Its line in JSON is a document
about it. The text of its member `id`, its decimal line and its padded line are
taken apart into this very document. -/
theorem decode_tells (epoch : Duration) :
    (∀ text e, Flake.parse text = .error e → Refuses text epoch e) ∧
    (∀ text id, Flake.parse text = .ok id →
      ∃ doc, Prints text epoch doc ∧ Record.Tells epoch id doc) ∧
    ∀ {ω : Type} (e : Surroundings ω) (o : Options) (polls : Nat) (format : Format) (count : Nat)
      (g : Generator) (w : ω),
      let write := fun text => StateT.lift (e.machine.write text)
      let run := mint e.effects write o polls format epoch count g w
      ∃ deeds, watchedMint e o polls format epoch count g (w, []) = (run.1, (run.2, deeds)) ∧
        (Deed.texts deeds = (Deed.issued deeds).map fun id => format.line epoch id ++ "\n") ∧
        ∀ id ∈ Deed.issued deeds, ∃ doc text, Record.Tells epoch id doc ∧
          Json.read? (Format.json.line epoch id) = some doc ∧
          doc.member? "id" = some (.string text) ∧
          ∀ line ∈ [text, Format.decimal.line epoch id, Format.padded.line epoch id],
            Prints line epoch doc := by
  refine ⟨fun text e h => refuses_of_parse h epoch, fun text id h => ?_, ?_⟩
  · exact ⟨_, prints_of_parse h epoch, Record.tells_ofFlake epoch (Flake.isValid_of_parse h)⟩
  · intro ω e o polls format count g w write run
    -- The onlooker's account is that of the run, and its identifiers are
    -- valid.
    have hrun := watchedMint_run e o polls format epoch count g w
    obtain ⟨tries, ids, -, -, hdoes⟩ :=
      watchedMint_does e o polls format epoch count (g, (w, []))
    have hissued : Deed.issued (watchedMint e o polls format epoch count g (w, [])).2.2 = ids :=
      hdoes.issued
    refine ⟨_, hrun, ?_, fun id hid => ?_⟩
    · rw [hissued]
      exact hdoes.texts
    · rw [hissued] at hid
      exact prints_written epoch (hdoes.issues.isValid id hid)

/-- A machine on which nothing happens, with a clock that stands one second
after the epoch. -/
def oneSecond : Surroundings Unit where
  machine :=
    { wall := pure ⟨0⟩
      instant := pure ⟨0⟩
      yield := pure ()
      sleep := fun _ => pure ()
      write := fun _ => pure () }
  read := pure (.millis 1000)
  failures := pure 0

/-- Worker 7 issues its first identifier after the epoch, in twenty digits, and
these are taken apart into a document about it. With a letter behind them they
are refused. -/
theorem decode_tells_oneSecond :
    (∃ doc, Prints "00000000004194332672" defaultEpoch doc ∧
      Record.Tells defaultEpoch ⟨4194332672⟩ doc) ∧
    Refuses "4194332672x" defaultEpoch
      (.invalidId "\"4194332672x\": invalid digit found in string") ∧
    ∃ deeds, Deed.issued deeds = [⟨4194332672⟩] ∧
      Deed.texts deeds = ["00000000004194332672\n"] ∧
      ∃ doc, Json.read? (Format.json.line defaultEpoch ⟨4194332672⟩) = some doc ∧
        Prints (Format.padded.line defaultEpoch ⟨4194332672⟩) defaultEpoch doc := by
  have hread : Flake.parse "00000000004194332672" = .ok ⟨4194332672⟩ := by decide +kernel
  have hletter : Flake.parse "4194332672x"
      = .error (.invalidId "\"4194332672x\": invalid digit found in string") := by
    decide +kernel
  have hissued : Deed.issued (watchedMint oneSecond {} 1 .padded defaultEpoch 1
      (.new .locked ⟨7, by decide⟩) ((), [])).2.2 = [⟨4194332672⟩] := by
    decide +kernel
  obtain ⟨hrefused, hdecoded, hminted⟩ := decode_tells defaultEpoch
  refine ⟨hdecoded _ _ hread, hrefused _ _ hletter, ?_⟩
  obtain ⟨deeds, hrun, htexts, hids⟩ :=
    hminted oneSecond {} 1 .padded 1 (.new .locked ⟨7, by decide⟩) ()
  rw [hrun] at hissued
  obtain ⟨doc, text, -, hline, -, hprints⟩ := hids ⟨4194332672⟩ (hissued ▸ .head _)
  refine ⟨deeds, hissued, ?_, doc, hline, hprints _ (.tail _ (.tail _ (.head _)))⟩
  rw [htexts, hissued]
  decide +kernel

end Cli

end Snowflake
