import Stencil.Decimal.Reading

/-!
# Moments

Moments are counted in seconds from the beginning of 1970, in universal time, on the proleptic
Gregorian calendar.

- `Moment`: a moment within the years -262143 to 262142, with its nanoseconds.
- `Moment.ofUnix`: the moment at a number of seconds, if it is in range.
- `Moment.add`: the moment some nanoseconds later, if it is in range.
- `Moment.before`: the order of moments.
- `Moment.read`: reads a date and time with an offset such as `2030-01-01T12:00:00.5+01:00`.
-/

namespace Stencil

/-- Seconds since the beginning of 1970 and nanoseconds after them. A leap second is written as
the second before it with a thousand million nanoseconds or more. -/
structure Moment where
  seconds : Int
  nanos : Nat
deriving DecidableEq, Inhabited

namespace Moment

/-! ## The calendar -/

/-- Days from the beginning of 1970 to a date. -/
def days (year : Int) (month day : Nat) : Int :=
  let y := if month ≤ 2 then year - 1 else year
  let era := Int.fdiv y 400
  let yearOfEra := y - era * 400
  let shifted := if 2 < month then month - 3 else month + 9
  let dayOfYear := Int.ofNat ((153 * shifted + 2) / 5 + day - 1)
  era * 146097 + (yearOfEra * 365 + yearOfEra / 4 - yearOfEra / 100 + dayOfYear) - 719468

/-- A leap year of the Gregorian calendar. -/
def isLeapYear (year : Nat) : Bool := year % 4 == 0 && (year % 100 != 0 || year % 400 == 0)

/-- The length of a month. -/
def daysInMonth (year month : Nat) : Nat :=
  if month == 2 then (if isLeapYear year then 29 else 28)
  else if month == 4 || month == 6 || month == 9 || month == 11 then 30
  else 31

/-- The first second of the first year. -/
def first : Int := days (-262143) 1 1 * 86400

/-- The last second of the last year. -/
def last : Int := days 262142 12 31 * 86400 + 86399

/-- The second lies within the years that have dates. -/
def inRange (seconds : Int) : Bool := first ≤ seconds && seconds ≤ last

/-! ## Moments and seconds -/

/-- The moment at a number of seconds since the beginning of 1970. -/
def ofUnix (seconds : Int) : Option Moment :=
  if inRange seconds then some ⟨seconds, 0⟩ else none

/-- The nanoseconds of a second. -/
def perSecond : Int := 1000000000

/-- The moment at a number of nanoseconds since the beginning of 1970, in range or not. -/
def ofNanos (nanos : Int) : Moment := ⟨nanos / perSecond, (nanos % perSecond).toNat⟩

/-- What lies some nanoseconds behind a moment, in range or not. What lies in the same leap second
is written as such; what lies behind it does not count it. -/
def shift (m : Moment) (nanos : Int) : Moment :=
  let past := m.nanos + nanos
  if m.nanos < perSecond ∨ past < perSecond then ofNanos (m.seconds * perSecond + past)
  else if past < 2 * perSecond then ⟨m.seconds, past.toNat⟩
  else ofNanos (m.seconds * perSecond + (past - perSecond))

/-- The moment some nanoseconds later. -/
def add (m : Moment) (nanos : Int) : Option Moment :=
  if inRange (m.shift nanos).seconds then some (m.shift nanos) else none

/-- The first moment lies before the second one. -/
def before (m n : Moment) : Bool :=
  m.seconds < n.seconds || (m.seconds == n.seconds && m.nanos < n.nanos)

/-! ## Reading dates -/

/-- Takes `n` digits off a text. -/
def takeDigits (n : Nat) (cs : List Char) : Option (Nat × List Char) :=
  let ds := cs.take n
  if ds.length == n && ds.all Char.isDigit then some (Decimal.ofDigits ds, cs.drop n) else none

/-- Takes one given character off a text. -/
def takeChar (c : Char) : List Char → Option (List Char)
  | d :: cs => if d = c then some cs else none
  | [] => none

/-- Takes a fraction of a second off a text: nine digits count, further ones are passed over. -/
def takeFraction : List Char → Option (Nat × List Char)
  | '.' :: cs =>
    let (ds, rest) := cs.span Char.isDigit
    if ds.isEmpty then none
    else some (Decimal.ofDigits ((ds ++ List.replicate 9 '0').take 9), rest)
  | cs => some (0, cs)

/-- The minutes of an offset from universal time, in seconds; nothing may follow. -/
def readOffset : List Char → Option Int
  | [] => none
  | c :: cs =>
    if c == 'Z' || c == 'z' then (if cs.isEmpty then some 0 else none)
    else if c == '+' || c == '-' || c == '−' then do
      let (hours, cs) ← takeDigits 2 cs
      let cs ← takeChar ':' cs
      let (minutes, cs) ← takeDigits 2 cs
      if 59 < minutes || 23 < hours || !cs.isEmpty then none
      else
        let seconds := Int.ofNat (hours * 3600 + minutes * 60)
        some (if c == '+' then seconds else -seconds)
    else none

/-- Reads a date, a time and an offset. The second 60 stands for a leap second. -/
def read (s : String) : Option Moment := do
  let (year, cs) ← takeDigits 4 s.toList
  let cs ← takeChar '-' cs
  let (month, cs) ← takeDigits 2 cs
  let cs ← takeChar '-' cs
  let (day, cs) ← takeDigits 2 cs
  let cs ← match cs with
    | c :: cs => if c == 'T' || c == 't' || c == ' ' then some cs else none
    | [] => none
  let (hour, cs) ← takeDigits 2 cs
  let cs ← takeChar ':' cs
  let (minute, cs) ← takeDigits 2 cs
  let cs ← takeChar ':' cs
  let (second, cs) ← takeDigits 2 cs
  let (nanos, cs) ← takeFraction cs
  let offset ← readOffset cs
  if month == 0 || 12 < month || day == 0 || daysInMonth year month < day || 23 < hour ||
      59 < minute || 60 < second then none
  else
    let time := Int.ofNat (hour * 3600 + minute * 60 + min second 59)
    some ⟨days year month day * 86400 + time - offset,
      if second == 60 then nanos + 1000000000 else nanos⟩

end Moment

end Stencil
