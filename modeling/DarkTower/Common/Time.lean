import Mathlib.Data.Nat.Notation
import Mathlib.Data.Int.Notation

/-!
# Clocks

All clocks count nanoseconds: a Rust `Instant` from an arbitrary origin, a
`chrono::DateTime<Utc>` and a PostgreSQL `TIMESTAMPTZ` from the Unix epoch.
Durations are nanoseconds too.
-/

namespace DarkTower.Common

/-- `Duration::from_secs`. -/
def fromSecs (secs : ℕ) : ℕ := secs * 1000000000

/-- `chrono::Duration::hours`. -/
def hours (n : ℕ) : ℕ := fromSecs (n * 3600)

/-- `chrono::Duration::days`. -/
def days (n : ℕ) : ℕ := fromSecs (n * 86400)

/-- `Utc::now().timestamp()`: whole seconds since the epoch. -/
def timestamp (now : ℕ) : ℤ := (now / 1000000000 : ℕ)

end DarkTower.Common
