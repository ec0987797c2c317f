import FederatedSearch.Calendar.Instant
import FederatedSearch.Number.Decimal

/-!
# Times for readers

How long something took, and how long ago something was, in words.
-/

namespace FederatedSearch.CommandLine

open Calendar Number

/-- The number sixty. -/
def sixty : Binary64 := .ofNat 60

/-- **How long something took**: milliseconds below a second, seconds with two decimals below a
minute, else minutes and seconds. -/
def durationText (seconds : Binary64) : String :=
  if seconds.atLeast sixty then
    let minutes := (seconds.div sixty).floor
    minutes.toFixed 0 ++ "m " ++ (seconds.sub (minutes.mul sixty)).toFixed 1 ++ "s"
  else if seconds.atLeast (.ofNat 1) then seconds.toFixed 2 ++ "s"
  else (seconds.mul (.ofNat 1000)).toFixed 0 ++ "ms"

/-- **How long ago something was**, in the greatest unit that fits. -/
def ageText (t now : Instant) : String :=
  let seconds := (now.since t).wholeSeconds
  if seconds < 0 then "in the future"
  else if 86400 ≤ seconds then toString (seconds / 86400) ++ "d ago"
  else if 3600 ≤ seconds then toString (seconds / 3600) ++ "h ago"
  else if 60 ≤ seconds then toString (seconds / 60) ++ "m ago"
  else "just now"

end FederatedSearch.CommandLine
