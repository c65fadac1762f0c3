import ActorManifest.Proofs.Text.Digits
import Mathlib.Data.List.TakeDrop

/-!
# Timestamps are read back

A timestamp is written as a date, a time of day and an offset of hours and minutes, each
part in a fixed width.  Whatever single code point stands between the date and the time,
the reader takes ten code points for the date, reads the fields of the time octet by octet,
and gives the timestamp back.
-/

namespace ActorManifest

open Text

/-! ## Dates -/

theorem Date.parts_lt (d : Date) : d.year < 10 ^ 4 ∧ d.month < 10 ^ 2 ∧ d.day < 10 ^ 2 := by
  obtain ⟨hyear, hmonth, hday⟩ := d.isDate
  have hlast : Calendar.daysInMonth d.year d.month ≤ 31 := by
    unfold Calendar.daysInMonth
    split
    · split <;> decide
    · split <;> decide
  omega

theorem Date.text_eq (d : Date) :
    d.text =
      fixed 4 d.year ++ .char '-' :: (fixed 2 d.month ++ .char '-' :: fixed 2 d.day) := by
  obtain ⟨hyear, hmonth, hday⟩ := d.parts_lt
  rw [Date.text, ofNatPadded_eq_fixed (by decide) hyear,
    ofNatPadded_eq_fixed (by decide) hmonth, ofNatPadded_eq_fixed (by decide) hday]
  simp [concat, ofString]

theorem Date.ofParts_self (d : Date) : Date.ofParts d.year d.month d.day = .ok d :=
  dif_pos d.isDate

theorem Clock.ofParts_self (c : Clock) :
    Clock.ofParts c.hour c.minute c.second c.micro = .ok c :=
  dif_pos c.isClock

theorem Date.length_text (d : Date) : d.text.length = 10 := by
  simp [Date.text_eq]

namespace Iso

/-- The marks of a date at the start of a text show that it takes ten code points. -/
theorem dateLength?_text (d : Date) (rest : Text) : dateLength? (d.text ++ rest) = some 10 := by
  have hweek : digit (d.month / 10 % 10) ≠ .char 'W' :=
    digit_ne (Nat.mod_lt _ (by decide)) (by decide)
  rw [Date.text_eq]
  simp [dateLength?, fixed, hweek]

theorem fields?_fixed {first second : Nat} (hfirst : first < 10 ^ 2) (hsecond : second < 10 ^ 2) :
    fields? true 2 2 (fixed 2 first ++ .char '-' :: fixed 2 second) = some (first, second) := by
  have hrest : after? (ofString "-") (.char '-' :: fixed 2 second) = some (fixed 2 second) := by
    simp [ofString, after?]
  simp [fields?, number?_fixed hfirst, number?_fixed hsecond, hrest]

theorem readDate?_text (d : Date) : readDate? d.text = some (d.year, d.month, d.day) := by
  obtain ⟨hyear, hmonth, hday⟩ := d.parts_lt
  have htake : d.text.take 4 = fixed 4 d.year := by
    simp [Date.text_eq]
  have hdrop : d.text.drop 4 =
      .char '-' :: (fixed 2 d.month ++ .char '-' :: fixed 2 d.day) := by
    simp [Date.text_eq]
  rw [readDate?, htake, hdrop, number?_fixed hyear]
  simp only [Option.bind_some]
  split
  · rename_i rest heq
    have hweek : digit (d.month / 10 % 10) ≠ .char 'W' :=
      digit_ne (Nat.mod_lt _ (by decide)) (by decide)
    simp [fixed, hweek] at heq
  · rw [fields?_fixed hmonth hday]
    rfl

/-! ## Times of day -/

/-- The octets of a fraction of a second. -/
def fractionOctets (micro : Nat) : List UInt8 :=
  if micro = 0 then [] else 0x2E :: fixedOctets 6 micro

/-- The octets of a time of day. -/
def clockOctets (c : Clock) : List UInt8 :=
  fixedOctets 2 c.hour ++ 0x3A ::
    (fixedOctets 2 c.minute ++ 0x3A :: (fixedOctets 2 c.second ++ fractionOctets c.micro))

theorem encode?_cons
    {c : CodePoint} {octet : UInt8} {rest : Text} {octets : List UInt8}
    (hc : Utf8.encode? [c] = some [octet]) (hrest : Utf8.encode? rest = some octets) :
    Utf8.encode? (c :: rest) = some (octet :: octets) :=
  encode?_append hc hrest

theorem encode?_fractionText {micro : Nat} (hmicro : micro < 10 ^ 6) :
    Utf8.encode? (fractionText micro) = some (fractionOctets micro) := by
  unfold fractionText fractionOctets
  split
  · rfl
  · rw [ofNatPadded_eq_fixed (by decide) hmicro]
    have hfraction : concat [ofString ".", fixed 6 micro] = .char '.' :: fixed 6 micro := by
      simp [concat, ofString]
    rw [hfraction]
    exact encode?_cons (by decide) (encode?_fixed 6 micro)

theorem encode?_clock (c : Clock) : Utf8.encode? c.text = some (clockOctets c) := by
  obtain ⟨hhour, hminute, hsecond, hmicro⟩ := c.isClock
  have htext : c.text = fixed 2 c.hour ++ .char ':' ::
      (fixed 2 c.minute ++ .char ':' :: (fixed 2 c.second ++ fractionText c.micro)) := by
    rw [Clock.text, ofNatPadded_eq_fixed (by decide) (by omega),
      ofNatPadded_eq_fixed (by decide) (by omega), ofNatPadded_eq_fixed (by decide) (by omega)]
    simp [concat, ofString]
  have hcolon : Utf8.encode? [.char ':'] = some [0x3A] := by decide
  rw [htext]
  exact encode?_append (encode?_fixed 2 c.hour) <| encode?_cons hcolon <|
    encode?_append (encode?_fixed 2 c.minute) <| encode?_cons hcolon <|
      encode?_append (encode?_fixed 2 c.second) (encode?_fractionText hmicro)

/-- A field before a colon is read, and the fields after it follow. -/
theorem readFields?_field
    {next : UInt8} {count n : Nat} {colons : Option Bool} {fields : List Nat}
    {rest : List UInt8} (hn : n < 10 ^ 2) (hcolons : colons.getD true = true)
    (hrest : rest ≠ []) :
    readFields? next (count + 1) colons fields (fixedOctets 2 n ++ 0x3A :: rest) =
      readFields? next count (some true) (fields ++ [n]) rest := by
  obtain ⟨octet, more, rfl⟩ := List.exists_cons_of_ne_nil hrest
  rw [readFields?, takeDigits?_fixedOctets_of_lt hn]
  simp [hcolons]

theorem readFraction?_fixedOctets
    {next : UInt8} {micro : Nat} {fields : List Nat} (hmicro : micro < 10 ^ 6) :
    readFraction? fields (fixedOctets 6 micro) next =
      some (clockParts fields micro, next != 0) := by
  have hdigits := takeDigits?_fixedOctets_of_lt hmicro []
  rw [List.append_nil] at hdigits
  simp [readFraction?, hdigits]

/-- The last field is read with its fraction. -/
theorem readFields?_last
    {next : UInt8} {count n micro : Nat} {fields : List Nat}
    (hn : n < 10 ^ 2) (hmicro : micro < 10 ^ 6) :
    readFields? next (count + 1) (some true) fields (fixedOctets 2 n ++ fractionOctets micro) =
      some (clockParts (fields ++ [n]) micro, next != 0) := by
  rw [readFields?, takeDigits?_fixedOctets_of_lt hn]
  unfold fractionOctets
  split
  · simp [*]
  · have hfraction := @readFraction?_fixedOctets next micro (fields ++ [n]) hmicro
    obtain ⟨octet, more, hmore⟩ := List.exists_cons_of_ne_nil
      (List.ne_nil_of_length_eq_add_one (length_fixedOctets 6 micro))
    rw [hmore] at hfraction ⊢
    simp [hfraction]

/-- The fields of a time of day. -/
def partsOf (c : Clock) : ClockParts :=
  ⟨c.hour, c.minute, c.second, c.micro⟩

theorem readClock?_clockOctets (c : Clock) (next : UInt8) :
    readClock? (clockOctets c) next = some (partsOf c, next != 0) := by
  obtain ⟨hhour, hminute, hsecond, hmicro⟩ := c.isClock
  rw [readClock?, clockOctets, readFields?_field (by omega) rfl (by simp),
    readFields?_field (by omega) rfl (by simp [fixedOctets]),
    readFields?_last (by omega) hmicro]
  rfl

/-- Hours and minutes alone are read as a time of day, too. -/
theorem readClock?_hourMinute {hour minute : Nat} (hhour : hour < 10 ^ 2)
    (hminute : minute < 10 ^ 2) :
    readClock? (fixedOctets 2 hour ++ 0x3A :: fixedOctets 2 minute) 0 =
      some (⟨hour, minute, 0, 0⟩, false) := by
  have hlast := @readFields?_last 0 1 minute 0 [hour] hminute (by decide)
  rw [fractionOctets, if_pos rfl, List.append_nil] at hlast
  rw [readClock?, readFields?_field hhour rfl (by simp [fixedOctets]), List.nil_append, hlast]
  rfl

/-! ## Offsets -/

/-- An offset of whole minutes. -/
def IsWholeMinutes (o : Offset) : Prop :=
  o.micros % 60000000 = 0

/-- The hours of an offset, its sign left aside. -/
def offsetHours (o : Offset) : Nat :=
  o.micros.natAbs / 3600000000

/-- The minutes of an offset beside its hours. -/
def offsetMinutes (o : Offset) : Nat :=
  o.micros.natAbs / 60000000 % 60

/-- The octet of the sign of an offset. -/
def signOctet (o : Offset) : UInt8 :=
  if o.micros < 0 then 0x2D else 0x2B

/-- The octets of an offset of whole minutes behind its sign. -/
def offsetOctets (o : Offset) : List UInt8 :=
  fixedOctets 2 (offsetHours o) ++ 0x3A :: fixedOctets 2 (offsetMinutes o)

theorem offset_parts_lt (o : Offset) :
    offsetHours o < 10 ^ 2 ∧ offsetMinutes o < 10 ^ 2 := by
  have hoffset := o.isOffset
  simp only [dayMicros] at hoffset
  simp only [offsetHours, offsetMinutes]
  omega

/-- Hours and minutes are all that an offset of whole minutes has. -/
theorem natAbs_micros {o : Offset} (hminutes : IsWholeMinutes o) :
    o.micros.natAbs = (offsetHours o * 60 + offsetMinutes o) * 60 * 1000000 := by
  unfold IsWholeMinutes at hminutes
  simp only [offsetHours, offsetMinutes]
  omega

theorem encode?_offset {o : Offset} (hminutes : IsWholeMinutes o) :
    Utf8.encode? o.text = some (signOctet o :: offsetOctets o) := by
  obtain ⟨hhour, hminute⟩ := offset_parts_lt o
  unfold IsWholeMinutes at hminutes
  have hhours : o.micros.natAbs / 1000000 / 3600 = offsetHours o := by
    simp only [offsetHours]
    omega
  have hmin : o.micros.natAbs / 1000000 / 60 % 60 = offsetMinutes o := by
    simp only [offsetMinutes]
    omega
  have hwhole : o.micros.natAbs / 1000000 % 60 = 0 ∧ o.micros.natAbs % 1000000 = 0 := by
    omega
  have htext : o.text = (if o.micros < 0 then .char '-' else .char '+') ::
      (fixed 2 (offsetHours o) ++ .char ':' :: fixed 2 (offsetMinutes o)) := by
    rw [Offset.text]
    simp only [hhours, hmin, if_pos hwhole]
    rw [ofNatPadded_eq_fixed (by decide) hhour, ofNatPadded_eq_fixed (by decide) hminute]
    split <;> simp [concat, ofString]
  have hsign : Utf8.encode? [if o.micros < 0 then .char '-' else .char '+'] =
      some [signOctet o] := by
    unfold signOctet
    split <;> decide
  rw [htext]
  exact encode?_cons hsign <| encode?_append (encode?_fixed 2 _) <|
    encode?_cons (by decide) (encode?_fixed 2 _)

/-! ## Times with an offset -/

theorem beginsOffset_digitOctet : ∀ n < 10, beginsOffset (digitOctet n) = false := by
  decide

theorem beginsOffset_of_mem_fixedOctets
    {width n : Nat} {octet : UInt8} (hmem : octet ∈ fixedOctets width n) :
    beginsOffset octet = false := by
  induction width generalizing n with
  | zero => simp [fixedOctets] at hmem
  | succ width ih =>
      rw [fixedOctets, List.mem_append, List.mem_singleton] at hmem
      rcases hmem with hmem | rfl
      · exact ih hmem
      · exact beginsOffset_digitOctet (n % 10) (Nat.mod_lt n (by decide))

theorem beginsOffset_of_mem_clockOctets
    {c : Clock} {octet : UInt8} (hmem : octet ∈ clockOctets c) :
    beginsOffset octet = false := by
  have hfraction : ∀ octet ∈ fractionOctets c.micro, beginsOffset octet = false := by
    intro octet hmem
    unfold fractionOctets at hmem
    split at hmem
    · simp at hmem
    · rcases List.mem_cons.mp hmem with rfl | hmem
      · decide
      · exact beginsOffset_of_mem_fixedOctets hmem
  simp only [clockOctets, List.mem_append, List.mem_cons] at hmem
  rcases hmem with hmem | rfl | hmem | rfl | hmem | hmem
  · exact beginsOffset_of_mem_fixedOctets hmem
  · decide
  · exact beginsOffset_of_mem_fixedOctets hmem
  · decide
  · exact beginsOffset_of_mem_fixedOctets hmem
  · exact hfraction octet hmem

/-- The octets of an optional offset with its sign. -/
def zoneOctets : Option Offset → List UInt8
  | none => []
  | some o => signOctet o :: offsetOctets o

/-- The octets of a time end where its offset begins. -/
theorem span_clockOctets (c : Clock) (offset : Option Offset) :
    (clockOctets c ++ zoneOctets offset).span (fun octet => !beginsOffset octet) =
      (clockOctets c, zoneOctets offset) := by
  have hclock : ∀ octet ∈ clockOctets c, (!beginsOffset octet) = true := by
    intro octet hmem
    simp [beginsOffset_of_mem_clockOctets hmem]
  rw [List.span_eq_takeWhile_dropWhile, List.takeWhile_append_of_pos hclock,
    List.dropWhile_append_of_pos hclock]
  cases offset with
  | none => simp [zoneOctets]
  | some o =>
      have hsign : beginsOffset (signOctet o) = true := by
        unfold signOctet
        split <;> decide
      simp [zoneOctets, hsign]

theorem readTime?_octets
    (c : Clock) {offset : Option Offset} (hminutes : ∀ o ∈ offset, IsWholeMinutes o) :
    readTime? (clockOctets c ++ zoneOctets offset) =
      some (partsOf c, offset.map Offset.micros) := by
  rw [readTime?, span_clockOctets]
  cases offset with
  | none => simp [zoneOctets, readClock?_clockOctets]
  | some o =>
      obtain ⟨hhour, hminute⟩ := offset_parts_lt o
      have htotal := natAbs_micros (hminutes o rfl)
      have hrest := readClock?_hourMinute hhour hminute
      have hsign : (signOctet o == 0x5A) = false := by
        unfold signOctet
        split <;> decide
      have hnegative : (signOctet o == 0x2D) = decide (o.micros < 0) := by
        unfold signOctet
        split <;> simp [*]
      have hmicros :
          (if (offsetHours o * 60 + offsetMinutes o) * 60 + 0 = 0 then 0
            else ((offsetHours o * 60 + offsetMinutes o) * 60 + 0) * 1000000 + 0) =
              o.micros.natAbs := by
        split <;> omega
      have habs : (if o.micros < 0 then -(o.micros.natAbs : Int) else o.micros.natAbs) =
          o.micros := by
        split <;> omega
      simp only [zoneOctets, readClock?_clockOctets, Option.bind_some, hsign, offsetOctets,
        hrest, hnegative, hmicros, decide_eq_true_eq, habs]
      rfl

/-! ## Timestamps -/

/-- A timestamp that is naive or has an offset of whole minutes is read back from its text,
whatever code point separates its date from its time. -/
theorem read_textWith
    {t : Timestamp} (separator : CodePoint) (hminutes : ∀ o ∈ t.offset, IsWholeMinutes o) :
    Iso.read (t.textWith [separator]) = .ok t := by
  have htext : t.textWith [separator] =
      t.date.text ++ separator :: (t.clock.text ++ (t.offset.map Offset.text).getD []) := by
    simp [Timestamp.textWith, concat]
  have hlength : ¬(t.textWith [separator]).length < 7 := by
    rw [htext, List.length_append, t.date.length_text]
    omega
  have hzone : Utf8.encode? ((t.offset.map Offset.text).getD []) =
      some (zoneOctets t.offset) := by
    cases hoffset : t.offset with
    | none => rfl
    | some o => exact encode?_offset (hminutes o hoffset)
  have htake : (t.textWith [separator]).take 10 = t.date.text := by
    rw [htext, ← t.date.length_text, List.take_left]
  have hdrop : (t.textWith [separator]).drop 10 =
      separator :: (t.clock.text ++ (t.offset.map Offset.text).getD []) := by
    rw [htext, ← t.date.length_text, List.drop_left]
  have hparts : readParts? (t.textWith [separator]) =
      some ((t.date.year, t.date.month, t.date.day), partsOf t.clock,
        t.offset.map Offset.micros) := by
    rw [readParts?, if_neg hlength]
    have hdate : dateLength? (t.textWith [separator]) = some 10 := by
      rw [htext]
      exact dateLength?_text t.date _
    simp only [hdate, Option.bind_some, htake, readDate?_text, hdrop,
      encode?_append (encode?_clock t.clock) hzone, readTime?_octets t.clock hminutes,
      Option.map_some]
  have hoffset : readOffset (t.offset.map Offset.micros) = .ok t.offset := by
    cases t.offset with
    | none => rfl
    | some o => simp [readOffset, Offset.ofMicros?, o.isOffset]
  rw [Iso.read, hparts]
  simp only [bind, Except.bind, hoffset, t.date.ofParts_self, Except.mapError, partsOf,
    t.clock.ofParts_self]
  rfl

end Iso
end ActorManifest
