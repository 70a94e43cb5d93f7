import Logbook.Text.Decimal
import Logbook.Time.Instant

/-!
# Timestamps as text

The RFC 3339 form of a point of time, `2024-03-01T12:00:00.5+02:00`.  Three styles are in use: messages
show as many digits as the time needs and always a numeric offset, documents the same with `Z`, packets
six digits with `Z`.

## Main definitions

* `TimeStyle` — how many digits are shown, and how an offset of zero is.
* `Stamp.write` — the text of a stamp.
* `Instant.shown`, `Instant.document` — the text of an instant in messages and in documents.
-/

namespace Logbook

/-- How a timestamp is written. -/
structure TimeStyle where
  /-- Whether six digits of the second are shown, and not the fewest threes that lose nothing. -/
  micros : Bool
  /-- Whether an offset of zero is shown as `Z`. -/
  zulu : Bool
  deriving DecidableEq, Repr

namespace TimeStyle

/-- The style of messages. -/
def shown : TimeStyle := ⟨false, false⟩

/-- The style of documents. -/
def document : TimeStyle := ⟨false, true⟩

/-- The style of packets. -/
def packet : TimeStyle := ⟨true, true⟩

end TimeStyle

namespace Stamp

/-- A year: four digits, or a sign and at least four digits where these do not suffice. -/
def writeYear (year : Int) : List Char :=
  if 0 ≤ year ∧ year ≤ 9999 then Decimal.fixed 4 year.toNat
  else (if year < 0 then '-' else '+') :: Decimal.padded 4 year.natAbs

/-- A date. -/
def writeDate (d : Date) : List Char :=
  writeYear d.year ++ '-' :: Decimal.fixed 2 d.month ++ '-' :: Decimal.fixed 2 d.day

/-- The digits of the second for nanoseconds below a thousand million. -/
def writeFraction (micros : Bool) (nanos : Nat) : List Char :=
  if micros then '.' :: Decimal.fixed 6 (nanos / 1000)
  else if nanos = 0 then []
  else if nanos % 1000000 = 0 then '.' :: Decimal.fixed 3 (nanos / 1000000)
  else if nanos % 1000 = 0 then '.' :: Decimal.fixed 6 (nanos / 1000)
  else '.' :: Decimal.fixed 9 nanos

/-- The time of day at `second` seconds after midnight.  In a leap second one more is shown. -/
def writeTime (micros : Bool) (second nanos : Nat) : List Char :=
  let leap := nanos / nanosPerSecond
  Decimal.fixed 2 (second / 3600) ++ ':' :: Decimal.fixed 2 (second / 60 % 60) ++
    ':' :: Decimal.fixed 2 (second % 60 + leap) ++ writeFraction micros (nanos % nanosPerSecond)

/-- An offset to the nearest minute, half a minute away from zero. -/
def writeOffset (zulu : Bool) (offset : Int) : List Char :=
  if zulu ∧ offset = 0 then ['Z']
  else
    let minutes := (offset.natAbs + 30) / 60
    (if offset < 0 then '-' else '+') :: Decimal.fixed 2 (minutes / 60) ++
      ':' :: Decimal.fixed 2 (minutes % 60)

/-- The characters of a stamp. -/
def writeChars (style : TimeStyle) (s : Stamp) : List Char :=
  let day := s.localSeconds / secondsPerDay
  let second := (s.localSeconds % secondsPerDay).toNat
  writeDate (.ofDays day) ++ 'T' :: writeTime style.micros second s.instant.nanos ++
    writeOffset style.zulu s.offset

/-- The text of a stamp. -/
def write (style : TimeStyle) (s : Stamp) : String := String.ofList (s.writeChars style)

end Stamp

namespace Instant

/-- The text of an instant in messages. -/
def shown (t : Instant) : String := (Stamp.utc t).write .shown

/-- The text of an instant in documents. -/
def document (t : Instant) : String := (Stamp.utc t).write .document

end Instant

end Logbook
