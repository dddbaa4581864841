/-!
# The clock

Time is counted in milliseconds. A wait begins at one moment and ends at a later one; no single
wait is longer than thirty years, whatever it was asked to be.

A client goes in rounds. A round takes no time, and one moment may have many of them; in each, only
so many waits end. What has to be waited for counts as a wait even if it is there at once.
-/

namespace PacedPurge.Clock

/-- The longest wait: thirty years of 365 days. -/
def longestWait : Nat := 30 * 365 * 24 * 60 * 60 * 1000

/-- The moment at which a wait of some milliseconds ends that begins now. -/
def after (now ms : Nat) : Nat := now + min ms longestWait

/-- How many waits a client sees to their end in one round. -/
def waitsPerRound : Nat := 128

end PacedPurge.Clock
