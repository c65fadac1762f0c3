import ActorManifest.Proofs.Ledger.Reload
import ActorManifest.Proofs.Ledger.Schema

/-!
# Times as values and as text

A manifest may give the time of a condition as text or, without quotes, as a date or as a date
with a time of day.  Such a value becomes text before it is read, and this text differs from the
standard one at most in the code point between the date and the time, which the reader passes
over.  Since a text that ends in a digit has no mark to be expanded, both texts are read as the
same time.
-/

namespace ActorManifest

open Document DocumentEntries

/-! ## Texts without a mark at their end -/

namespace Text

/-- The last code point of the text is a digit. -/
def EndsInDigit (t : Text) : Prop :=
  ∃ n < 10, t.getLast? = some (digit n)

theorem endsInDigit_append {s t : Text} (ht : EndsInDigit t) : EndsInDigit (s ++ t) := by
  obtain ⟨n, hn, hlast⟩ := ht
  exact ⟨n, hn, by simp [List.getLast?_append, hlast]⟩

theorem endsInDigit_concat
    {pieces : List Text} {t : Text} (hlast : pieces.getLast? = some t) (ht : EndsInDigit t) :
    EndsInDigit (concat pieces) := by
  obtain ⟨init, rfl⟩ := List.getLast?_eq_some_iff.mp hlast
  rw [concat, List.flatten_append, List.flatten_singleton]
  exact endsInDigit_append ht

theorem endsInDigit_ofNatPadded (width n : Nat) : EndsInDigit (ofNatPadded width n) := by
  apply endsInDigit_append
  by_cases hn : n < 10
  · exact ⟨n, hn, by simp [ofNat_of_lt hn]⟩
  · rw [ofNat_of_le (by omega)]
    exact ⟨n % 10, Nat.mod_lt n (by decide), by simp⟩

/-- A fraction of a second is absent or ends in a digit itself. -/
theorem endsInDigit_append_fractionText {s : Text} (hs : EndsInDigit s) (micro : Nat) :
    EndsInDigit (s ++ fractionText micro) := by
  unfold fractionText
  split
  · rwa [List.append_nil]
  · exact endsInDigit_append (endsInDigit_concat rfl (endsInDigit_ofNatPadded 6 micro))

end Text

open Text

theorem Date.endsInDigit_text (d : Date) : EndsInDigit d.text :=
  endsInDigit_concat rfl (endsInDigit_ofNatPadded 2 d.day)

theorem Clock.endsInDigit_text (c : Clock) : EndsInDigit c.text := by
  have htext : c.text = concat
      [ofNatPadded 2 c.hour, ofString ":", ofNatPadded 2 c.minute, ofString ":",
       ofNatPadded 2 c.second ++ fractionText c.micro] := by
    simp [Clock.text, concat]
  rw [htext]
  exact endsInDigit_concat rfl
    (endsInDigit_append_fractionText (endsInDigit_ofNatPadded 2 c.second) c.micro)

theorem Offset.endsInDigit_text (o : Offset) : EndsInDigit o.text := by
  have hminute := endsInDigit_ofNatPadded 2 (o.micros.natAbs / 1000000 / 60 % 60)
  have hsecond := endsInDigit_append_fractionText
    (endsInDigit_ofNatPadded 2 (o.micros.natAbs / 1000000 % 60)) (o.micros.natAbs % 1000000)
  unfold Offset.text
  dsimp only
  by_cases hwhole : o.micros.natAbs / 1000000 % 60 = 0 ∧ o.micros.natAbs % 1000000 = 0
  · rw [if_pos hwhole]
    simpa [concat] using
      endsInDigit_append (endsInDigit_append (endsInDigit_append hminute))
  · rw [if_neg hwhole]
    refine endsInDigit_concat rfl ?_
    simpa [concat] using endsInDigit_append hsecond

theorem Timestamp.endsInDigit_textWith (separator : Text) (t : Timestamp) :
    EndsInDigit (t.textWith separator) := by
  cases hoffset : t.offset with
  | none =>
      have htext : t.textWith separator = concat [t.date.text, separator, t.clock.text] := by
        simp [Timestamp.textWith, concat, hoffset]
      rw [htext]
      exact endsInDigit_concat rfl t.clock.endsInDigit_text
  | some o =>
      refine endsInDigit_concat ?_ o.endsInDigit_text
      simp [hoffset]

theorem Iso.expandMark_eq_self {t : Text} (ht : EndsInDigit t) : expandMark t = t := by
  obtain ⟨n, hn, hlast⟩ := ht
  unfold expandMark
  split
  · rename_i before hreverse
    have hmark : digit n = .char 'Z' := by
      rw [← List.head?_reverse, hreverse] at hlast
      exact (Option.some.inj hlast).symm
    exact absurd hmark (digit_ne hn (by decide))
  · rfl

/-! ## Moments -/

/-- A date or a time on a date, as a manifest gives it without quotes. -/
inductive Moment where
  | date (d : Date)
  | time (t : Timestamp)

namespace Moment

/-- The value under which a document holds the moment. -/
def scalar : Moment → Scalar
  | .date d => .date d
  | .time t => .time t

/-- The text of the moment in the standard form. -/
def text : Moment → Text
  | .date d => d.text
  | .time t => t.text

/-- The timestamp that the moment stands for; a date stands for its first microsecond. -/
def timestamp : Moment → Timestamp
  | .date d => ⟨d, .midnight, none⟩
  | .time t => t

/-- The moment has no offset or one of whole minutes. -/
def HasWholeMinutes (m : Moment) : Prop :=
  ∀ o ∈ m.timestamp.offset, Iso.IsWholeMinutes o

end Moment

theorem Iso.read_dateText (d : Date) : Iso.read d.text = .ok ⟨d, .midnight, none⟩ := by
  have hlength : ¬d.text.length < 7 := by simp [d.length_text]
  have hdate : dateLength? d.text = some 10 := by
    simpa using dateLength?_text d []
  have htake : d.text.take 10 = d.text := List.take_of_length_le (Nat.le_of_eq d.length_text)
  have hdrop : d.text.drop 10 = [] := List.drop_of_length_le (Nat.le_of_eq d.length_text)
  have hparts : readParts? d.text =
      some ((d.year, d.month, d.day), ⟨0, 0, 0, 0⟩, none) := by
    rw [readParts?, if_neg hlength]
    simp only [hdate, Option.bind_some, htake, readDate?_text, hdrop]
  rw [Iso.read, hparts]
  simp only [bind, Except.bind, readOffset, d.ofParts_self, Except.mapError]
  rfl

namespace Timestamp

theorem read_dateText (d : Date) :
    Timestamp.read d.text = .ok (Moment.date d).timestamp.aware := by
  rw [Timestamp.read, Iso.expandMark_eq_self d.endsInDigit_text, Iso.read_dateText]
  rfl

theorem read_textWith
    {t : Timestamp} (separator : CodePoint) (hminutes : ∀ o ∈ t.offset, Iso.IsWholeMinutes o) :
    Timestamp.read (t.textWith [separator]) = .ok t.aware := by
  rw [Timestamp.read, Iso.expandMark_eq_self (t.endsInDigit_textWith [separator]),
    Iso.read_textWith separator hminutes]
  rfl

theorem instant_aware (t : Timestamp) : t.aware.instant = t.instant := by
  simp [instant, aware, localMicros]

end Timestamp

namespace Condition

/-- As a value and as text, a moment is the same time. -/
theorem timeOf_moment [Machine] {m : Moment} (hminutes : m.HasWholeMinutes) :
    timeOf (.scalar m.scalar) = .ok m.timestamp.aware ∧
      timeOf (.text m.text) = .ok m.timestamp.aware := by
  cases m with
  | date d =>
      have hread := Timestamp.read_dateText d
      exact ⟨congrArg (Except.mapError Refusal.badTime) hread,
        congrArg (Except.mapError Refusal.badTime) hread⟩
  | time t =>
      have hshown := Timestamp.read_textWith (.char ' ') hminutes
      have hstandard := Timestamp.read_textWith (.char 'T') hminutes
      exact ⟨congrArg (Except.mapError Refusal.badTime) hshown,
        congrArg (Except.mapError Refusal.badTime) hstandard⟩

/-! ## Conditions -/

/-- The entries describe a condition but for its time. -/
structure SchemaBesideTime (entries : DocumentEntries) : Prop where
  phase : entries.Requires Phase.IsNamed "type"
  status : entries.Requires IsStatus "status"
  reason : entries.Allows IsText "reason"
  message : entries.Allows IsText "message"
  generation : entries.Allows IsInteger "observedGeneration"

/-- The entries with a text in place of what they hold as the time. -/
def withTimeText (t : Text) (entries : DocumentEntries) : DocumentEntries :=
  entries.map fun (key, value) =>
    if key = .text "lastTransitionTime" then (key, .text t) else (key, value)

theorem lookup?_withTimeText (t : Text) (entries : DocumentEntries) :
    lookup? "lastTransitionTime" (withTimeText t entries) =
      (lookup? "lastTransitionTime" entries).map fun _ => .text t := by
  rw [lookup?, lookup?, withTimeText, List.findSome?_map, List.map_findSome?]
  congr 1
  funext entry
  obtain ⟨key, value⟩ := entry
  by_cases hkey : key = .text "lastTransitionTime" <;> simp [hkey]

theorem lookup?_withTimeText_of_ne
    {name : String} (hname : name ≠ "lastTransitionTime") (t : Text)
    (entries : DocumentEntries) :
    lookup? name (withTimeText t entries) = lookup? name entries := by
  have hother : Text.ofString "lastTransitionTime" ≠ Text.ofString name :=
    fun heq => hname (Text.ofString_inj.mp heq).symm
  rw [lookup?, lookup?, withTimeText, List.findSome?_map]
  congr 1
  funext entry
  obtain ⟨key, value⟩ := entry
  by_cases hkey : key = .text "lastTransitionTime" <;> simp [hkey, hother]

/-- What the entries say of the condition, its time left aside. -/
structure Describes [Machine] (c : Condition) (entries : DocumentEntries) : Prop where
  phase : lookup? "type" entries = some (.ofJson (.text c.phase.name))
  status : lookup? "status" entries = some (.ofJson (.text (statusText c.asserted)))
  reason : Field.textOrEmpty .condition "reason" entries = .ok c.reason
  message : Field.textOrEmpty .condition "message" entries = .ok c.message
  generation : Field.integer? .condition "observedGeneration" entries = .ok c.generation

theorem exists_describes [Machine]
    {entries : DocumentEntries} (hschema : SchemaBesideTime entries) (since : Timestamp) :
    ∃ c : Condition, c.since = since ∧ c.Describes entries := by
  obtain ⟨_, hphase, phase, rfl⟩ := hschema.phase
  obtain ⟨_, hstatus, asserted, rfl⟩ := hschema.status
  have htext : ∀ field : String, entries.Allows IsText field →
      ∃ t, Field.textOrEmpty .condition field entries = .ok t := fun field hfield =>
    have hsettled : IsSettledBy (entries.Allows IsText field) True
      (Field.textOrEmpty .condition field entries) := Field.settled_textOrEmpty
    (hsettled.exists_ok_iff trivial).1.mpr hfield
  obtain ⟨reason, hreason⟩ := htext "reason" hschema.reason
  obtain ⟨message, hmessage⟩ := htext "message" hschema.message
  obtain ⟨generation, hgeneration⟩ :
      ∃ n, Field.integer? .condition "observedGeneration" entries = .ok n := by
    cases hentry : lookup? "observedGeneration" entries with
    | none => exact ⟨none, by simp [Field.integer?, hentry]⟩
    | some found =>
        rcases hschema.generation found hentry with rfl | ⟨n, rfl⟩
        · exact ⟨none, by simp [Field.integer?, hentry]⟩
        · exact ⟨some n, by simp [Field.integer?, hentry]⟩
  exact ⟨⟨phase, asserted, reason, message, since, generation⟩, rfl, hphase, hstatus, hreason,
    hmessage, hgeneration⟩

theorem describes_withTimeText [Machine]
    {c : Condition} {entries : DocumentEntries} (hdescribes : c.Describes entries) (t : Text) :
    c.Describes (withTimeText t entries) := by
  have hlookup : ∀ name : String, name ≠ "lastTransitionTime" →
      lookup? name (withTimeText t entries) = lookup? name entries :=
    fun name hname => lookup?_withTimeText_of_ne hname t entries
  have htext : ∀ name : String, name ≠ "lastTransitionTime" →
      Field.textOrEmpty .condition name (withTimeText t entries) =
        Field.textOrEmpty .condition name entries := by
    intro name hname
    simp only [Field.textOrEmpty, Field.text?, hlookup name hname]
  refine ⟨?_, ?_, ?_, ?_, ?_⟩
  · rw [hlookup _ (by decide), hdescribes.phase]
  · rw [hlookup _ (by decide), hdescribes.status]
  · rw [htext _ (by decide), hdescribes.reason]
  · rw [htext _ (by decide), hdescribes.message]
  · rw [← hdescribes.generation]
    simp only [Field.integer?, hlookup "observedGeneration" (by decide)]

theorem ofDocument_of_describes [Machine] {c : Condition} {d : Document} {entries : DocumentEntries}
    {time : Document}
    (hentries : d.entries? = some entries) (hdescribes : c.Describes entries)
    (hlisted : lookup? "lastTransitionTime" entries = some time)
    (htime : timeOf time = .ok c.since) : ofDocument d = .ok c := by
  have hread : entriesOf .condition d = .ok entries := by
    rw [entriesOf, hentries]
    rfl
  simp only [ofDocument, bind, Except.bind, pure, Except.pure, hread,
    present_of_lookup hdescribes.phase, present_of_lookup hdescribes.status,
    present_of_lookup hlisted, htime, Phase.ofDocument_name, statusOf_statusText,
    hdescribes.reason, hdescribes.message, hdescribes.generation]

/-- A document that describes a condition, with a date or a time in place of text, is accepted.
The condition holds exactly that time, which is in universal time if it has no offset and
midnight if it is a date, and it is the one that the document with the standard text of the
value describes. -/
theorem ofDocument_of_moment [Machine]
    {m : Moment} {d : Document} {entries : DocumentEntries} (hminutes : m.HasWholeMinutes)
    (hentries : d.entries? = some entries) (hschema : SchemaBesideTime entries)
    (hlisted : lookup? "lastTransitionTime" entries = some (.scalar m.scalar)) :
    ∃ c, ofDocument d = .ok c ∧ c.since = m.timestamp.aware ∧
      c.since.instant = m.timestamp.instant ∧
      ofDocument (.mapping (withTimeText m.text entries)) = .ok c := by
  obtain ⟨hvalue, htext⟩ := timeOf_moment hminutes
  obtain ⟨c, hsince, hdescribes⟩ := exists_describes hschema m.timestamp.aware
  rw [← hsince] at hvalue htext
  have hreplaced : lookup? "lastTransitionTime" (withTimeText m.text entries) =
      some (.text m.text) := by
    rw [lookup?_withTimeText, hlisted, Option.map_some]
  have hinstant : c.since.instant = m.timestamp.instant := by
    rw [hsince, Timestamp.instant_aware]
  refine ⟨c, ofDocument_of_describes hentries hdescribes hlisted hvalue, hsince, hinstant, ?_⟩
  exact ofDocument_of_describes rfl (describes_withTimeText hdescribes m.text) hreplaced htext

/-- The last second of a leap day and one microsecond, five and a half hours west of universal
time. -/
theorem ofDocument_of_moment_leap_day :
    let m : Moment := .time
      ⟨⟨2024, 2, 29, by decide⟩, ⟨23, 59, 59, 1, by decide⟩, some ⟨-19800000000, by decide⟩⟩
    let entries : DocumentEntries :=
      [(.text "type", .text "Running"), (.text "status", .text "False"),
       (.text "lastTransitionTime", .scalar m.scalar),
       (.text "observedGeneration", .scalar (.int 3))]
    m.HasWholeMinutes ∧ SchemaBesideTime entries ∧
      ∃ c, ofDocument (.mapping entries) = .ok c ∧ c.since = m.timestamp ∧
        ofDocument (.mapping (withTimeText "2024-02-29T23:59:59.000001-05:30" entries)) =
          .ok c := by
  intro m entries
  have hminutes : m.HasWholeMinutes := by
    intro o ho
    cases ho
    rfl
  have hschema : SchemaBesideTime entries :=
    { phase := ⟨_, rfl, .running, rfl⟩
      status := ⟨_, rfl, false, rfl⟩
      reason := Field.allows_of_none rfl
      message := Field.allows_of_none rfl
      generation := (Field.allows_iff_of_some rfl (by simp)).mpr ⟨3, rfl⟩ }
  obtain ⟨c, hvalue, hsince, -, htext⟩ :=
    ofDocument_of_moment (d := .mapping entries) hminutes rfl hschema rfl
  exact ⟨hminutes, hschema, c, hvalue, hsince, htext⟩

end Condition
end ActorManifest
