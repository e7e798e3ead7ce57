import Overloads.Number.Shortest

/-! Days and times of day. -/
namespace Overloads.Document

open Overloads.Number (decimalDigits decimalText)

/-- The number with at least `width` digits. -/
def padded (width n : Nat) : String :=
  let ds := decimalDigits n
  String.ofList (List.replicate (width - ds.length) '0' ++ ds)

structure Day where
  year : Nat
  month : Nat
  day : Nat
  deriving DecidableEq, Repr

structure Clock where
  hour : Nat
  minute : Nat
  second : Nat
  microsecond : Nat
  deriving DecidableEq, Repr

def isLeap (year : Nat) : Bool := year % 4 = 0 && (year % 100 ≠ 0 || year % 400 = 0)

def daysIn (year month : Nat) : Nat :=
  if month = 2 then if isLeap year then 29 else 28
  else if month = 4 || month = 6 || month = 9 || month = 11 then 30
  else 31

namespace Day

def exists? (d : Day) : Bool := 1 ≤ d.year && d.day ≤ daysIn d.year d.month

def text (d : Day) : String := padded 4 d.year ++ "-" ++ padded 2 d.month ++ "-" ++ padded 2 d.day

end Day

namespace Clock

def text (t : Clock) : String :=
  padded 2 t.hour ++ ":" ++ padded 2 t.minute ++ ":" ++ padded 2 t.second ++
    (if t.microsecond = 0 then "" else "." ++ padded 6 t.microsecond)

/-- The parts of a time; zeros at the end are left out, but for the minutes. -/
def parts (t : Clock) : List Nat :=
  if t.microsecond ≠ 0 then [t.hour, t.minute, t.second, t.microsecond]
  else if t.second ≠ 0 then [t.hour, t.minute, t.second]
  else [t.hour, t.minute]

end Clock

/-- A difference from universal time in minutes. -/
abbrev Offset := Int

def Offset.text (o : Offset) : String :=
  (if o < 0 then "-" else "+") ++ padded 2 (o.natAbs / 60) ++ ":" ++ padded 2 (o.natAbs % 60)

/-- The difference as a call that makes it. -/
def Offset.literal (o : Offset) : String :=
  if o = 0 then "datetime.timezone.utc"
  else
    let arguments :=
      if o < 0 then "days=-1, seconds=" ++ decimalText (86400 + o * 60)
      else "seconds=" ++ decimalText (o * 60)
    "datetime.timezone(datetime.timedelta(" ++ arguments ++ "))"

def numbers (ns : List Nat) : String := ", ".intercalate (ns.map fun (n : Nat) => decimalText n)

end Overloads.Document
