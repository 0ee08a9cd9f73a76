import SocksMonitor.Time.Calendar

/-!
# Timestamps

A moment in UTC with nanoseconds. A leap second is kept as the second before it with a fraction of
one second or more, so it stands at the end of a minute. `Timestamp.nanosSince` is the time that
passed between two moments.
-/

namespace SocksMonitor.Time

def second : Nat := 1000000000

def daySeconds : Nat := 86400

structure Timestamp where
  date : Date
  seconds : Nat
  /-- Nanoseconds within the second; from 1000000000 on, within the leap second that follows. -/
  nanos : Nat
  seconds_lt : seconds < daySeconds
  nanos_lt : nanos < 2 * second
  leap : second ≤ nanos → seconds % 60 = 59
deriving DecidableEq

namespace Timestamp

/-- The moment with the given parts, if they make one up. -/
def of? (date : Date) (seconds nanos : Nat) : Option Timestamp :=
  if h : seconds < daySeconds ∧ nanos < 2 * second ∧ (second ≤ nanos → seconds % 60 = 59) then
    some ⟨date, seconds, nanos, h.1, h.2.1, h.2.2⟩
  else none

theorem of?_fields (t : Timestamp) : of? t.date t.seconds t.nanos = some t := by
  simp only [of?, t.seconds_lt, t.nanos_lt, true_and]
  rw [dif_pos t.leap]

def epoch : Timestamp where
  date := ⟨1970, 1, 1, by decide, by decide, by decide, by decide⟩
  seconds := 0
  nanos := 0
  seconds_lt := by decide
  nanos_lt := by decide
  leap := by decide

instance : Inhabited Timestamp := ⟨epoch⟩

/-- The UTC moment of a local date and time that is `offset` seconds ahead of UTC. -/
def ofLocal? (date : Date) (seconds nanos : Nat) (offset : Int) : Option Timestamp :=
  let utc := (seconds : Int) - offset
  if utc < 0 then
    date.previous?.bind fun d => of? d (utc + daySeconds).toNat nanos
  else if utc < daySeconds then of? date utc.toNat nanos
  else date.next?.bind fun d => of? d (utc - daySeconds).toNat nanos

/-- The moment so many nanoseconds after 1970-01-01T00:00:00Z. -/
def ofUnixNanos? (n : Nat) : Option Timestamp :=
  (Date.ofNumber? (n / second / daySeconds)).bind fun date =>
    of? date (n / second % daySeconds) (n % second)

/-- The nanoseconds from `earlier` to `t`. A leap second between them on the clock counts. -/
def nanosSince (t earlier : Timestamp) : Int :=
  let extra : Int :=
    if earlier.seconds < t.seconds ∧ second ≤ earlier.nanos then 1
    else if t.seconds < earlier.seconds ∧ second ≤ t.nanos then -1
    else 0
  let days := t.date.number - earlier.date.number
  (days * daySeconds + t.seconds - earlier.seconds + extra) * second + t.nanos - earlier.nanos

/-- Whole seconds from `earlier` to `t`, none if `earlier` is the later one. -/
def secondsSince (t earlier : Timestamp) : Nat := (t.nanosSince earlier / second).toNat

end Timestamp

end SocksMonitor.Time
