import PullReview.Moment
import PullReview.Text.Percent
import PullReview.Text.Digit

/-!
# Rate limits

A request that is counted leaves a hit: the client that it came from, the path that it asked for, and when. A limiter
says from the hits before it whether a request is admitted under a rate, which is a text of the settings.

One limiter is `fixedWindow`. A window of a client and a path opens with the first hit that it counts, and the next hit
after its end opens another. Hits over the limit are counted too, but never move the window.

Left out are texts that name several rates or count in months or years.

| here | there |
| --- | --- |
| `Limiter` | `Limiter.limit`, `default_limits` and `SlowAPIMiddleware` (main:45, 84), with any storage |
| `Hit.client` | `key_func=get_remote_address` (main:45) |
| `Rate.ofText?` | the text of `settings.rate_limit` |
| `fixedWindow` | the fixed-window storage in memory |
-/

namespace PullReview.Web

/-- A request that is counted. -/
structure Hit where
  client : String
  path : List Char
  moment : Moment
  deriving DecidableEq, Repr

/-- Whether a request is admitted under a rate after the hits before it. -/
abbrev Limiter := (rate : String) → (before : List Hit) → Hit → Bool

/-- How many requests are admitted in how many seconds. -/
structure Rate where
  count : Nat
  seconds : Int
  deriving DecidableEq, Repr

/-- The seconds of the units in which rates are given. -/
def rateUnits : List (String × Int) := [("second", 1), ("minute", 60), ("hour", 3600), ("day", 86400)]

/-- Reads a rate: a number, a slash and a unit. -/
def Rate.ofText? (s : String) : Option Rate :=
  match Text.splitOn '/' s.toList with
  | [count, unit] => do
    let digits ← count.mapM Text.asciiDigit?
    let seconds ← rateUnits.lookup (String.ofList unit)
    if digits = [] then none else some ⟨Text.ofDigits digits, seconds⟩
  | _ => none

/-- An open window: when it was opened and how many hits it has counted. -/
structure Window where
  openedAt : Moment
  count : Nat
  deriving DecidableEq, Repr

/-- The window after a hit at a moment. -/
def Window.next (seconds : Int) (w : Option Window) (now : Moment) : Window :=
  match w with
  | some w => if now < w.openedAt + seconds then { w with count := w.count + 1 } else ⟨now, 1⟩
  | none => ⟨now, 1⟩

/-- The window after some hits. -/
def windowAfter (seconds : Int) (hits : List Hit) : Option Window :=
  hits.foldl (fun w hit => some (Window.next seconds w hit.moment)) none

/-- Admits so many hits in each window of a client and a path. A rate that cannot be read limits nothing. -/
def fixedWindow : Limiter := fun rate before hit =>
  match Rate.ofText? rate with
  | none => true
  | some r =>
    let same := before.filter fun h => h.client == hit.client && h.path == hit.path
    (Window.next r.seconds (windowAfter r.seconds same) hit.moment).count ≤ r.count

end PullReview.Web
