import Toolwright.Json.Basic
import Toolwright.Text.Numeral

/-!
# Limits on the rate of requests

A limiter allows each caller a number of requests in a window of time that slides. It remembers
when the requests of a caller were allowed, the oldest first, and forgets those that the window has
left behind. Time is given with every request, in the unit in which the window is given; that is the
millisecond if variables of the environment set the limiter up.
-/

namespace Toolwright

/-- A limiter and what it remembers. -/
structure RateLimiter where
  maxRequests : Nat := 100
  /-- The length of the window. -/
  window : Nat := 60000
  /-- The times of the requests allowed to each caller. -/
  histories : List (String × List Nat) := []
  deriving DecidableEq, Repr, Inhabited

namespace RateLimiter

/-- The limiter that two variables of the environment set up, as far as they are there and are numbers. -/
def ofVariables (requests window : Option String) : RateLimiter where
  maxRequests := (requests.bind fun text => Text.naturalBelow? 0x10000000000000000 text.toList).getD 100
  window := ((window.bind fun text => Text.naturalBelow? 0x10000000000000000 text.toList).map
    fun seconds => seconds * 1000).getD 60000

/-- The times remembered for a caller. -/
def history (limiter : RateLimiter) (caller : String) : List Nat :=
  (Members.get? caller limiter.histories).getD []

/-- The times without those at the front that are a whole window ago. -/
def recent (limiter : RateLimiter) (now : Nat) (times : List Nat) : List Nat :=
  times.dropWhile fun seen => limiter.window ≤ now - seen

/-- Whether a request of a caller is allowed now, and the limiter after it. A request that is not allowed
is not remembered. -/
def check (limiter : RateLimiter) (caller : String) (now : Nat) : Bool × RateLimiter :=
  let times := limiter.recent now (limiter.history caller)
  let allowed := times.length < limiter.maxRequests
  let times := if allowed then times ++ [now] else times
  (allowed, { limiter with histories := Members.insert caller times limiter.histories })

/-- How many requests are remembered. -/
def tracked (limiter : RateLimiter) : Nat :=
  limiter.histories.foldl (fun count entry => count + entry.2.length) 0

end RateLimiter

end Toolwright
