/-!
# Instants

An `Instant` is a point of time as a clock reads it: seconds since the
start of 1970, in UTC, and nanoseconds. A leap second carries the seconds
of the second before it and more than `10 ^ 9` nanoseconds, so that
instants are ordered by seconds and then by nanoseconds.
-/

namespace GraphGateway.Time

/-- **A point of time.** -/
structure Instant where
  /-- Seconds since 1970-01-01T00:00:00Z, leap seconds not counted. -/
  seconds : Int
  /-- Nanoseconds since that second, beyond `10 ^ 9` in a leap second. -/
  nanos : Nat
  deriving DecidableEq, Repr, Inhabited

namespace Instant

/-- Earlier instants are smaller. -/
instance : Ord Instant where
  compare a b := (compare a.seconds b.seconds).then (compare a.nanos b.nanos)

end Instant

end GraphGateway.Time
