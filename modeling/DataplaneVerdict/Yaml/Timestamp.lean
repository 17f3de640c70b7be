import DataplaneVerdict.Calendar
import DataplaneVerdict.Number.Decimal
import DataplaneVerdict.Text.Search

/-!
# `Yaml.Timestamp` — points in time

A timestamp is a date, perhaps with a time of day and a time zone, in the civil calendar. It is kept as the milliseconds
since the start of 1970 in universal time. Months, days and hours beyond their usual range run over into the next
unit, and a year below one hundred lies in the twentieth century.
-/

namespace DataplaneVerdict.Yaml

namespace Timestamp

/-! ## Reading -/

/-- A run of digits of an allowed length. -/
def digits (least most : Nat) (cs : List Char) : Option (Nat × List Char) :=
  let ds := (cs.take most).takeWhile Number.isDigit
  if least ≤ ds.length then some (Number.digitsToNat ds, cs.drop ds.length) else none

def expect (c : Char) : List Char → Option (List Char)
  | [] => none
  | d :: r => if c = d then some r else none

def isBlank (c : Char) : Bool := c = ' ' || c = '\t'

def triple (width most : Nat) (sep : Char) (cs : List Char) : Option (Nat × Nat × Nat × List Char) := do
  let (a, r) ← digits width most cs
  let r ← expect sep r
  let (b, r) ← digits 1 2 r
  let r ← expect sep r
  let (c, r) ← digits 1 2 r
  pure (a, b, c, r)

def fraction (ds : List Char) : Nat := Number.digitsToNat ((ds ++ ['0', '0']).take 3)

def zoneMinutes (negative : Bool) (hours : Nat) (minutes : Option Nat) : Int :=
  let written : Int := match minutes with
    | some m => hours * 60 + m
    | none => hours
  let d := if written < 30 then written * 60 else written
  if negative then -d else d

/-- The zone's distance from universal time, in minutes. -/
def zone (cs : List Char) : Option Int :=
  match cs.dropWhile isBlank with
  | [] => if cs.isEmpty then some 0 else none
  | ['Z'] => some 0
  | c :: r =>
    if c = '-' || c = '+' then
      let most := match r with
        | d :: _ => if d = '0' || d = '1' || d = '2' then 2 else 1
        | [] => 1
      match digits 1 most r with
      | some (h, []) => some (zoneMinutes (c = '-') h none)
      | some (h, ':' :: r) =>
        match digits 2 2 r with
        | some (m, []) => some (zoneMinutes (c = '-') h (some m))
        | _ => none
      | _ => none
    else none

/-- Milliseconds since the epoch. -/
def ofParts (year month day hour minute second millisecond : Nat) (ahead : Int) : Int :=
  let year := if year < 100 then 1900 + year else year
  let days := Calendar.dayNumber year ((month : Int) - 1) day
  let seconds : Int := hour * 3600 + minute * 60 + second
  days * 86400000 + seconds * 1000 + millisecond - ahead * 60000

/-- A point in time, in one of the written forms. -/
def read? (s : String) : Option Int := do
  let (year, month, day, r) ← triple 4 4 '-' s.toList
  match r with
  | [] => pure (ofParts year month day 0 0 0 0 0)
  | c :: r =>
    let r ← if c = 't' || c = 'T' then some r else if isBlank c then some (r.dropWhile isBlank) else none
    let (hour, minute, second, r) ← triple 1 2 ':' r
    match r with
    | '.' :: r =>
      let ds := r.takeWhile Number.isDigit
      if ds.isEmpty then none
      else
        let ahead ← zone (r.dropWhile Number.isDigit)
        pure (ofParts year month day hour minute second (fraction ds) ahead)
    | r =>
      let ahead ← zone r
      pure (ofParts year month day hour minute second 0 ahead)

/-! ## Writing -/

def padded (width : Nat) (n : Nat) : String :=
  let ds := Nat.toDigits 10 n
  String.ofList (List.replicate (width - ds.length) '0' ++ ds)

def clock (ms : Int) : Nat × Nat × Nat × Nat :=
  let t := (ms % 86400000).toNat
  (t / 3600000, t / 60000 % 60, t / 1000 % 60, t % 1000)

def fullText (ms : Int) : String :=
  let (year, month, day) := Calendar.civil (ms / 86400000)
  let (h, m, s, milli) := clock ms
  let yearText := if 0 ≤ year ∧ year ≤ 9999 then padded 4 year.toNat
    else (if year < 0 then "-" else "+") ++ padded 6 year.natAbs
  yearText ++ "-" ++ padded 2 month.toNat ++ "-" ++ padded 2 day.toNat ++ "T" ++ padded 2 h ++
    ":" ++ padded 2 m ++ ":" ++
    padded 2 s ++ "." ++ padded 3 milli ++ "Z"

def dropEnding (ending s : String) : String :=
  if Text.endsWith s ending then String.ofList (s.toList.take (s.toList.length - ending.toList.length)) else s

def isoText (ms : Int) : String :=
  let t := fullText ms
  if Text.endsWith t ".000Z" then dropEnding "T00:00:00" (dropEnding ".000Z" t) else t

def dayNames : List String := ["Sun", "Mon", "Tue", "Wed", "Thu", "Fri", "Sat"]

def monthNames : List String := ["Jan", "Feb", "Mar", "Apr", "May", "Jun", "Jul", "Aug", "Sep", "Oct", "Nov", "Dec"]

def longText (ms : Int) : String :=
  let days := ms / 86400000
  let (year, month, day) := Calendar.civil days
  let (h, m, s, _) := clock ms
  dayNames[Calendar.weekday days]?.getD "" ++ " " ++ monthNames[(month - 1).toNat]?.getD "" ++
    " " ++ padded 2 day.toNat ++ " " ++
    (if year < 0 then "-" else "") ++ padded 4 year.natAbs ++ " " ++ padded 2 h ++ ":" ++
      padded 2 m ++ ":" ++ padded 2 s ++
    " GMT+0000 (Coordinated Universal Time)"

end Timestamp

end DataplaneVerdict.Yaml
