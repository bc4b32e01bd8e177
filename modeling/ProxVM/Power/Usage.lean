import Mathlib.Algebra.Order.Ring.Rat
import Mathlib.Tactic.IntervalCases
import ProxVM.Power.Metering
import ProxVM.Util.Errors

/-!
# Usage reports

`monthlyUsage` and `dailyUsage` of `services/usage.ts`: the time VMs were powered on in a calendar
month, for each VM and for each day.  The month is cut out of a period by two formulas, one for the month and one
for each of its days.

Times are milliseconds, numbers of seconds are exact.
-/

namespace ProxVM.Power

open Tables Intervals

/-! ## The calendar -/

def dayLength : Int := 86400000

def isLeap (year : Int) : Bool := decide (year % 4 = 0 ∧ (year % 100 ≠ 0 ∨ year % 400 = 0))

def dayFromYear (year : Int) : Int :=
  365 * (year - 1970) + (year - 1969) / 4 - (year - 1901) / 100 + (year - 1601) / 400

def daysBefore (leap : Bool) (month : Nat) : Int :=
  [0, 31, 59, 90, 120, 151, 181, 212, 243, 273, 304, 334].getD month 0 + if leap ∧ 2 ≤ month then 1 else 0

def dayNumber (year : Int) (month : Nat) : Int := dayFromYear year + daysBefore (isLeap year) month

/-- `Date.UTC(year, month, 1)`; a year of two digits is of the twentieth century. -/
def utc (year month : Nat) : Int :=
  dayLength * dayNumber ((if year ≤ 99 then 1900 + year else year) + month / 12 : Nat) (month % 12)

abbrev Text := List Char

/-- `/^(\d{4})-(0[1-9]|1[0-2])$/`, with the numbers of the year and of the month. -/
def parseMonth (month : Text) : Option (Nat × Nat) :=
  match month with
  | [a, b, c, d, '-', e, f] =>
      if [a, b, c, d, e, f].all Char.isDigit then
        let digit := fun c : Char => c.toNat - '0'.toNat
        let number := digit e * 10 + digit f
        if 1 ≤ number ∧ number ≤ 12 then some (digit a * 1000 + digit b * 100 + digit c * 10 + digit d, number)
        else none
      else none
  | _ => none

structure UsageDb where
  vms : Table MeteredVm.id
  periods : Table PowerPeriod.id

structure UsageRow where
  vmId : VmId
  vmName : String
  startedAt : Int
  endedAt : Option Int

/-- The `JOIN` of both queries. -/
def UsageDb.join (db : UsageDb) (p : PowerPeriod) : Option UsageRow :=
  (db.vms.find? p.vmId).map fun vm => ⟨vm.id, vm.name, p.startedAt, p.endedAt⟩

def UsageDb.rows (db : UsageDb) (orderBy : UsageRow → UsageRow → Bool) (monthStart monthEnd : Int) : List UsageRow :=
  ((db.periods.rows.filter fun p =>
    decide (p.startedAt < monthEnd) && p.endedAt.all fun ended => decide (monthStart < ended)).filterMap
      db.join).mergeSort orderBy

def seconds (length : Int) : ℚ := length / 1000

structure VmTotal where
  vmId : VmId
  vmName : String
  total : ℚ

/-- `seconds.set`. -/
def addTotal (vmId : VmId) (vmName : String) (overlap : ℚ) : List VmTotal → List VmTotal
  | [] => [⟨vmId, vmName, overlap⟩]
  | e :: rest =>
      if e.vmId = vmId then { e with total := e.total + overlap } :: rest else e :: addTotal vmId vmName overlap rest

def addRow (now monthStart monthEnd : Int) (totals : List VmTotal) (row : UsageRow) : List VmTotal :=
  let stop := row.endedAt.getD now
  let overlap := seconds (max 0 (min stop monthEnd - max row.startedAt monthStart))
  if overlap ≤ 0 then totals else addTotal row.vmId row.vmName overlap totals

def roundHours (total : ℚ) : ℚ := (total / 3600 * 100 + 1 / 2).floor / 100

section

variable (db : UsageDb) (orderBy : UsageRow → UsageRow → Bool) (month : Text) (now : Int)

def monthlyTotals : Except AppError (List VmTotal) :=
  match parseMonth month with
  | none => .error (AppError.validation "month must be YYYY-MM")
  | some (y, m) =>
      .ok ((db.rows orderBy (utc y (m - 1)) (utc y m)).foldl (addRow now (utc y (m - 1)) (utc y m)) [])

structure VmMonthlyUsage where
  vmId : VmId
  vmName : String
  hours : ℚ

def monthlyUsage : Except AppError (List VmMonthlyUsage) :=
  (monthlyTotals db orderBy month now).map fun totals =>
    (totals.map fun v => (⟨v.vmId, v.vmName, roundHours v.total⟩ : VmMonthlyUsage)).mergeSort fun a b =>
      decide (b.hours ≤ a.hours)

def addDays (monthStart monthEnd : Int) (totals : List ℚ) (row : UsageRow) : List ℚ :=
  let stop := row.endedAt.getD now
  totals.mapIdx fun d total =>
    let dayStart := monthStart + d * dayLength
    let dayEnd := min (dayStart + dayLength) monthEnd
    total + seconds (max 0 (min stop dayEnd - max row.startedAt dayStart))

/-- `String(day).padStart(2, "0")`. -/
def padDay (day : Nat) : Text := if day < 10 then '0' :: day.repr.toList else day.repr.toList

structure DailyTotal where
  day : Text
  total : ℚ

def dailyTotals : Except AppError (List DailyTotal) :=
  match parseMonth month with
  | none => .error (AppError.validation "month must be YYYY-MM")
  | some (y, m) =>
      let monthStart := utc y (m - 1)
      let monthEnd := utc y m
      let daysInMonth := ((monthEnd - monthStart + dayLength / 2) / dayLength).toNat
      let totals := (db.rows orderBy monthStart monthEnd).foldl (addDays now monthStart monthEnd)
        (List.replicate daysInMonth 0)
      .ok (totals.mapIdx fun d total => ⟨month ++ '-' :: padDay (d + 1), total⟩)

structure DailyUsage where
  day : Text
  hours : ℚ

def dailyUsage : Except AppError (List DailyUsage) :=
  (dailyTotals db orderBy month now).map fun days => days.map fun d => ⟨d.day, roundHours d.total⟩

end

/-! ## Sums -/

section

variable {now monthStart monthEnd : Int}

end

/-! ## The rows -/

end ProxVM.Power
