import Stencil.Error
import Stencil.Moment
import Stencil.Text.Blank
import Stencil.Word

/-!
# Lifetimes of cached blocks

- `Lifetime.unitSeconds?`: the length of a unit of time.
- `Lifetime.duration`: reads a duration, a number of seconds or a text such as `2 hours`.
- `Lifetime.expiration`: reads a moment, seconds since the beginning of 1970 or a date.

Specification: section E4; `parse_duration` and `parse_expiration`.
-/

namespace Stencil.Lifetime

/-- The seconds of a unit; a month has 30 days and a year 365. -/
def unitSeconds? (unit : String) : Option Int :=
  if unit = "second" || unit = "sec" then some 1
  else if unit = "minute" || unit = "min" then some 60
  else if unit = "hour" then some 3600
  else if unit = "day" then some 86400
  else if unit = "week" then some 604800
  else if unit = "month" then some 2592000
  else if unit = "year" then some 31536000
  else none

/-- The unit of a text: blanks at its ends and all `s` at its end do not count. -/
def unitOf (cs : List Char) : String :=
  String.ofList ((Text.trim cs).reverse.dropWhile (· == 's')).reverse

/-- The seconds of a text: a number alone, or a number, a blank and a unit. The number and the
product must fit into 64 bits. -/
def seconds? (s : String) : Option Int :=
  let cs := Text.trim s.toList
  match cs.dropWhile (!Text.isBlank ·) with
  | [] => Decimal.readInt64 cs
  | _ :: unit => do
    let n ← Decimal.readInt64 (cs.takeWhile (!Text.isBlank ·))
    let u ← unitSeconds? (unitOf unit)
    if Word.fitsSigned (n * u) then some (n * u) else none

/-- Durations are counted in thousandths of a second with 64 bits, which bounds the seconds. -/
def longest : Int := (Int.ofNat Word.signedBound - 1) / 1000

/-- The number of seconds is one of a duration. -/
def isDuration (seconds : Int) : Bool := -longest ≤ seconds && seconds ≤ longest

/-- Reads a duration in seconds; none is no duration. -/
def duration (v : Value) : Except Error (Option Int) :=
  let fault : Except Error (Option Int) := .error (.arguments (.cacheDuration v))
  let check : Option Int → Except Error (Option Int)
    | some n => if isDuration n then .ok (some n) else fault
    | none => fault
  match v with
  | .none => .ok none
  | .int n => check (some n.toInt)
  | .text s => check (seconds? s)
  | _ => fault

/-- Reads a moment; none is no moment. -/
def expiration (v : Value) : Except Error (Option Moment) :=
  let check : Option Moment → Except Error (Option Moment)
    | some m => .ok (some m)
    | none => .error (.arguments (.cacheExpiration v))
  match v with
  | .none => .ok none
  | .int n => check (Moment.ofUnix n.toInt)
  | .text s => check (Moment.read s)
  | _ => check none

end Stencil.Lifetime
