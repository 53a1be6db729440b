import NatGateway.Mapping.ExactSettings

/-!
# Times in whole units

A time is given to the nanosecond and kept in whole seconds or milliseconds. Counting its milliseconds
drops what is left over, and nothing else is lost: the whole seconds are the same, and a time that has
nothing left over comes back as it was.
-/

namespace NatGateway.Mapping.Duration

variable {duration : Duration}

/-- A time without what is left over a whole number of milliseconds. -/
def floor (duration : Duration) : Duration where
  seconds := duration.seconds
  nanoseconds := duration.nanoseconds / 1000000 * 1000000
  nanoseconds_lt :=
    Nat.lt_of_le_of_lt (Nat.div_mul_le_self duration.nanoseconds 1000000) duration.nanoseconds_lt

/-- There are fewer than a thousand milliseconds beside the seconds. -/
theorem nanoseconds_div_lt (duration : Duration) : duration.nanoseconds / 1000000 < 1000 :=
  Nat.div_lt_of_lt_mul duration.nanoseconds_lt

/-- The whole seconds of a time are those of its milliseconds. -/
@[simp] theorem milliseconds_div (duration : Duration) :
    duration.milliseconds / 1000 = duration.seconds := by
  have hlt := duration.nanoseconds_div_lt
  rw [milliseconds]
  omega

/-- A second is a thousand milliseconds. -/
@[simp] theorem milliseconds_ofSeconds (seconds : Nat) :
    (ofSeconds seconds).milliseconds = seconds * 1000 := by
  rw [milliseconds, ofSeconds, Nat.zero_div, Nat.add_zero]

/-- A thousand milliseconds are a second. -/
@[simp] theorem ofMilliseconds_mul (seconds : Nat) : ofMilliseconds (seconds * 1000) = ofSeconds seconds := by
  rw [ofMilliseconds, ofSeconds, Duration.mk.injEq]
  omega

/-- What is left over does not count. -/
@[simp] theorem milliseconds_floor (duration : Duration) :
    duration.floor.milliseconds = duration.milliseconds := by
  rw [milliseconds, milliseconds, floor, Nat.mul_div_cancel _ (by decide)]

/-- The milliseconds of a time are the time without what is left over. -/
theorem ofMilliseconds_milliseconds (duration : Duration) :
    ofMilliseconds duration.milliseconds = duration.floor := by
  have hlt := duration.nanoseconds_div_lt
  rw [ofMilliseconds, floor, Duration.mk.injEq]
  refine ⟨duration.milliseconds_div, ?_⟩
  rw [milliseconds]
  omega

/-- A time with nothing left over stays as it is. -/
theorem floor_eq_self (h : 1000000 ∣ duration.nanoseconds) : duration.floor = duration := by
  rw [floor, Duration.mk.injEq]
  exact ⟨rfl, Nat.div_mul_cancel h⟩

/-- Nothing is left over a whole number of milliseconds. -/
theorem dvd_floor (duration : Duration) : 1000000 ∣ duration.floor.nanoseconds :=
  Nat.dvd_mul_left 1000000 _

/-- A time without nanoseconds is a number of seconds. -/
theorem ofSeconds_seconds (h : duration.nanoseconds = 0) : ofSeconds duration.seconds = duration := by
  rw [ofSeconds, Duration.mk.injEq]
  exact ⟨rfl, h.symm⟩

end NatGateway.Mapping.Duration
