/-!
# Tickets

A store lets only so many operations work at a time. An operation takes a ticket before it works
and gives it back when it is done. What the store knows are the tickets that it was set up with and
those that can still be had; how many are out it has to work out.
-/

namespace PacedPurge

/-- Tickets of one kind. -/
structure Tickets where
  /-- How many the store was told to have. -/
  configured : Nat
  /-- How many can be had. -/
  permits : Nat
  permits_le : permits ≤ max 1 configured
  deriving DecidableEq, Repr

namespace Tickets

/-- Tickets of which none is out; there is always at least one. -/
def ofTotal (n : Nat) : Tickets := ⟨n, max 1 n, Nat.le_refl _⟩

/-- How many tickets there are. -/
def total (t : Tickets) : Nat := max 1 t.configured

/-- How many tickets are out. -/
def out (t : Tickets) : Nat := t.total - t.permits

/-- Whether a ticket can be had. -/
def available (t : Tickets) : Bool := 0 < t.permits

/-- Hands out a ticket. -/
def take (t : Tickets) : Tickets :=
  { t with
    permits := t.permits - 1
    permits_le := Nat.le_trans (Nat.sub_le _ 1) t.permits_le }

/-- Takes a ticket back; there are never more than at first. -/
def giveBack (t : Tickets) : Tickets :=
  { t with
    permits := min t.total (t.permits + 1)
    permits_le := Nat.min_le_left _ _ }

variable (t : Tickets)

@[simp] theorem total_take : t.take.total = t.total := rfl

@[simp] theorem total_giveBack : t.giveBack.total = t.total := rfl

/-- Tickets are at hand or out. -/
theorem permits_add_out : t.permits + t.out = t.total := Nat.add_sub_of_le t.permits_le

/-- At first no ticket is out. -/
theorem out_ofTotal (n : Nat) : (ofTotal n).out = 0 := Nat.sub_self (max 1 n)

theorem available_iff : t.available = true ↔ t.out < t.total := by
  have parted := t.permits_add_out
  simp only [available, decide_eq_true_eq]
  omega

theorem out_take (free : t.available = true) : t.take.out = t.out + 1 := by
  have parted := t.permits_add_out
  have there : 0 < t.permits := of_decide_eq_true free
  show t.total - (t.permits - 1) = t.out + 1
  omega

theorem out_giveBack : t.giveBack.out = t.out - 1 := by
  have parted := t.permits_add_out
  show t.total - min t.total (t.permits + 1) = t.out - 1
  omega

/-- A ticket that was to be had and has come back can be had again. -/
theorem giveBack_take (free : t.available = true) : t.take.giveBack = t := by
  have there : 0 < t.permits := of_decide_eq_true free
  have same : min t.total (t.permits - 1 + 1) = t.permits := by
    rw [Nat.sub_one_add_one (Nat.ne_of_gt there)]
    exact Nat.min_eq_right t.permits_le
  cases t
  simp only [take, giveBack, mk.injEq, true_and]
  exact same

end Tickets

end PacedPurge
