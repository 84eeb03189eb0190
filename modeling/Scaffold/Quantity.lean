import Scaffold.Number.Shortest

namespace Scaffold

/-!
# Quantities for people

Durations and sizes as they are shown to people.
-/

/-- A number of seconds, whole or not. -/
inductive Seconds
  | whole (n : Int)
  | fraction (x : Double)
  deriving DecidableEq, Repr

namespace Seconds

def text : Seconds → String
  | .whole n => toString n
  | .fraction x => FloatLayout.plain.write x

/-- Is there any time in it? -/
def isPositive : Seconds → Bool
  | .whole n => 0 < n
  | .fraction x => Double.zero.lt x

/-- Minutes and seconds, or seconds alone below a minute. -/
def inMinutes (minutes seconds : Nat) (tenths : String) : String :=
  if 0 < minutes then s!"{minutes}m {seconds}s" else tenths ++ "s"

/-- A duration in milliseconds below a second, in seconds with one digit after the point below a
minute, and in minutes and seconds above. What has no whole minutes has no text. -/
def format? : Seconds → Option String
  | .whole n =>
    if n < 1 then some "0ms"
    else
      let seconds := n.toNat % 60
      some (inMinutes (n.toNat / 60) seconds s!"{seconds}.0")
  | .fraction x =>
    if x.lt .zero then some "0ms"
    else if x.lt (.ofInt 1) then
      ((x.mul (.ofInt 1000)).round?).map fun n => s!"{n}ms"
    else do
      let minutes ← x.wholeQuotient? (.ofInt 60)
      let rest ← x.remainder? (.ofInt 60)
      let seconds ← rest.truncate?
      pure (inMinutes minutes seconds.toNat rest.toTenths)

def noTextMessage : String := "cannot convert float NaN to integer"

def notNumberMessage (type : String) : String :=
  s!"'<' not supported between instances of '{type}' and 'int'"

end Seconds

/-- A size in bytes, from 1024 on in kilobytes with one digit after the point. -/
def formatSize (bytes : Int) : String :=
  if bytes < 1024 then s!"{bytes} B"
  else (Double.ofFraction false bytes.toNat 1024).toTenths ++ " KB"

end Scaffold
