import FilterSql.Time.Text

/-!
# Leap seconds

The nanoseconds of an instant can reach into a leap second in any second, though leap seconds stand
at the ends of minutes. Before any other end of a second the texts show the second that follows:
they are those of another instant, whose nanoseconds are those within it.

* `Instant.LeapLast`: a leap second stands at the end of a minute.
* `Instant.settle`: the instant in whose second the texts show the nanoseconds.
* `Instant.shown`: the instant that the text with milliseconds shows.
* `Instant.millisText_settle`, `Instant.exactText_settle`: the texts are those of it.
-/

namespace FilterSql.Time

namespace Instant

/-- A leap second, if the instant is in one, follows the last second of a minute. -/
def LeapLast (i : Instant) : Prop :=
  nanosPerSecond ≤ i.nanos → i.seconds % 60 = 59

instance (i : Instant) : Decidable i.LeapLast :=
  inferInstanceAs (Decidable (nanosPerSecond ≤ i.nanos → i.seconds % 60 = 59))

/-- The instant with a leap second within a minute moved to the second that follows. -/
def settle (i : Instant) : Instant :=
  if i.LeapLast then i
  else
    { seconds := i.seconds + 1
      nanos := i.nanos - nanosPerSecond
      nanos_lt := Nat.lt_of_le_of_lt (Nat.sub_le _ _) i.nanos_lt }

/-- The instant that the text with milliseconds shows. -/
def shown (i : Instant) : Instant :=
  i.settle.truncateMillis

variable {i : Instant}

theorem settle_of_leapLast (h : i.LeapLast) : i.settle = i :=
  if_pos h

/-- A leap second within a minute, and what it is moved to. -/
theorem not_leapLast (h : ¬i.LeapLast) : nanosPerSecond ≤ i.nanos ∧ i.seconds % 60 ≠ 59 ∧
    i.settle.seconds = i.seconds + 1 ∧ i.settle.nanos = i.nanos - nanosPerSecond := by
  obtain ⟨hLeap, hSecond⟩ := Classical.not_imp.mp h
  have hSettle : i.settle = _ := if_neg h
  exact ⟨hLeap, hSecond, by rw [hSettle], by rw [hSettle]⟩

/-- To settle an instant moves it by a second, or not at all. -/
theorem leapLast_of_seconds (h : i.settle.seconds = i.seconds) : i.LeapLast :=
  Decidable.byContradiction fun hLeap => by
    have hMoved := (not_leapLast hLeap).2.2.1
    omega

theorem settle_eq_self_iff : i.settle = i ↔ i.LeapLast :=
  ⟨fun h => leapLast_of_seconds (congrArg seconds h), settle_of_leapLast⟩

theorem leapLast_settle (i : Instant) : i.settle.LeapLast := by
  by_cases h : i.LeapLast
  · rw [settle_of_leapLast h]
    exact h
  · intro hLeap
    have hLt := i.nanos_lt
    have hMoved := (not_leapLast h).2.2.2
    omega

theorem leapLast_truncateMillis (h : i.LeapLast) : i.truncateMillis.LeapLast :=
  fun hLeap => h (Nat.le_trans hLeap (Nat.div_mul_le_self _ _))

/-- Such a text shows the instant itself, cut off to milliseconds, if no leap second stands within a
minute. -/
theorem shown_eq_iff : i.shown = i.truncateMillis ↔ i.LeapLast := by
  refine ⟨fun h => ?_, fun h => congrArg truncateMillis (settle_of_leapLast h)⟩
  have hSeconds : i.shown.seconds = i.truncateMillis.seconds := congrArg seconds h
  exact leapLast_of_seconds hSeconds

/-! ## Texts -/

/-- What follows a second within a minute is in the same day. -/
theorem date_settle (i : Instant) : i.settle.date = i.date := by
  by_cases h : i.LeapLast
  · rw [settle_of_leapLast h]
  · obtain ⟨-, hSecond, hMoved, -⟩ := not_leapLast h
    have hDay : (i.seconds + 1) / secondsPerDay = i.seconds / secondsPerDay := by
      unfold secondsPerDay
      omega
    unfold date
    rw [hMoved, hDay]

/-- It is shown as a leap second within the minute is. -/
theorem clock_settle (i : Instant) : i.settle.clock = i.clock := by
  by_cases h : i.LeapLast
  · rw [settle_of_leapLast h]
  · obtain ⟨hLeap, hSecond, hMoved, hNanos⟩ := not_leapLast h
    have hLt := i.nanos_lt
    unfold clock secondsPerDay
    simp only [hMoved, hNanos, Clock.mk.injEq]
    unfold nanosPerSecond at *
    refine ⟨by omega, by omega, ?_, ?_⟩
    · rw [if_neg (by omega), if_pos hLeap]
      omega
    · rw [if_neg (by omega), if_pos hLeap]

theorem wholeText_settle (i : Instant) : i.settle.wholeText = i.wholeText := by
  unfold wholeText
  rw [date_settle, clock_settle]

/-- **The text with milliseconds is that of the settled instant.** -/
theorem millisText_settle (i : Instant) : i.settle.millisText = i.millisText := by
  unfold millisText millisChars
  rw [wholeText_settle, clock_settle]

/-- **So is the text with the whole fraction.** -/
theorem exactText_settle (i : Instant) : i.settle.exactText = i.exactText := by
  unfold exactText
  rw [wholeText_settle, clock_settle]

end Instant

end FilterSql.Time
