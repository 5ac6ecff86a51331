import Autotext.Calendar.Relative
import Mathlib.Tactic.SplitIfs

/-!
# Relative phrases read both ways

The signed time between two instants changes sign when they swap. As whole seconds and
nanoseconds `0 ≤ n < 10 ^ 9`, the time from `a` back to `b` is the negation of the time from `b`
to `a` (`since_swap`), leap seconds and nanoseconds of either instant included: the leap second
that one direction counts, the other counts too. Cut toward zero to whole seconds, the two
times are opposite numbers (`wholeSeconds_since_swap`).

So the phrase of `a` for `b` is `just now` exactly when the phrase of `b` for `a` is, and
otherwise one of them is `N units ago` and the other `in N units`, for one count `N ≥ 1` and one
of the five units (`relativePhrase_swap`).
-/

namespace Autotext.Calendar

/-! ## The signed time changes sign -/

/-- The negation of a signed time given as whole seconds `s` and nanoseconds `0 ≤ n < 10 ^ 9`
added to them: `-(s + n)` is `-s - 1` seconds and `10 ^ 9 - n` nanoseconds when `n > 0`. -/
def negateTime (d : Int × Nat) : Int × Nat :=
  if d.2 = 0 then (-d.1, 0) else (-d.1 - 1, nanosPerSecond - d.2)

/-- The whole seconds between the times of day of two instants, counting a leap second that
lies between them: `b`'s leap second when `a` is later in the day, `a`'s when it is earlier. -/
def clockSeconds (a b : Instant) : Int :=
  if a.seconds > b.seconds ∧ b.isLeap then (a.seconds : Int) - b.seconds + 1
  else if a.seconds < b.seconds ∧ a.isLeap then (a.seconds : Int) - b.seconds - 1
  else (a.seconds : Int) - b.seconds

theorem since_eq (a b : Instant) :
    a.since b = ((a.date.toDays - b.date.toDays) * 86400 + clockSeconds a b +
        ((a.nanos : Int) - b.nanos) / (nanosPerSecond : Int),
      (((a.nanos : Int) - b.nanos) % (nanosPerSecond : Int)).toNat) := rfl

theorem clockSeconds_swap (a b : Instant) : clockSeconds b a = -clockSeconds a b := by
  unfold clockSeconds
  split_ifs <;> omega

/-- A whole count of seconds and a count of nanoseconds, split into whole seconds and the
rest, give the negated split when both are negated. -/
theorem negate_split (s f : Int) :
    (-s + (-f) / (nanosPerSecond : Int), ((-f) % (nanosPerSecond : Int)).toNat) =
      negateTime (s + f / (nanosPerSecond : Int), (f % (nanosPerSecond : Int)).toNat) := by
  have hpos : (0 : Int) < nanosPerSecond := by decide
  rw [Int.neg_ediv, Int.neg_emod, Int.sign_natCast_of_ne_zero (by decide), Int.natAbs_natCast]
  by_cases hdvd : (nanosPerSecond : Int) ∣ f
  · -- a whole number of seconds: no nanoseconds on either side
    have hrest : f % (nanosPerSecond : Int) = 0 := Int.emod_eq_zero_of_dvd hdvd
    simp [negateTime, hdvd, hrest]
    omega
  · -- the nanoseconds `r > 0` become `10 ^ 9 - r`, and one second more is borrowed
    have hrest : f % (nanosPerSecond : Int) ≠ 0 := fun h => hdvd (Int.dvd_of_emod_eq_zero h)
    have hlt : f % (nanosPerSecond : Int) < nanosPerSecond := Int.emod_lt_of_pos f hpos
    have hnonneg : 0 ≤ f % (nanosPerSecond : Int) := Int.emod_nonneg f (by omega)
    have hne : (f % (nanosPerSecond : Int)).toNat ≠ 0 := by omega
    simp only [negateTime, hdvd, if_false, hne, Prod.mk.injEq]
    omega

/-- The time from `a` back to `b` is the negation of the time from `b` to `a`. -/
theorem since_swap (a b : Instant) : b.since a = negateTime (a.since b) := by
  rw [since_eq, since_eq, clockSeconds_swap, ← negate_split]
  have hnanos : (b.nanos : Int) - a.nanos = -((a.nanos : Int) - b.nanos) := by omega
  rw [hnanos, Prod.mk.injEq]
  exact ⟨by omega, rfl⟩

theorem since_nanos_lt (a b : Instant) : (a.since b).2 < nanosPerSecond := by
  rw [since_eq]
  have hpos : (0 : Int) < nanosPerSecond := by decide
  have hlt := Int.emod_lt_of_pos ((a.nanos : Int) - b.nanos) hpos
  have hnonneg := Int.emod_nonneg ((a.nanos : Int) - b.nanos) (by omega : (nanosPerSecond : Int) ≠ 0)
  show (((a.nanos : Int) - b.nanos) % (nanosPerSecond : Int)).toNat < nanosPerSecond
  omega

/-- Whole seconds toward zero change sign with the time. -/
theorem wholeSeconds_negateTime (d : Int × Nat) (h : d.2 < nanosPerSecond) :
    wholeSeconds (negateTime d) = -wholeSeconds d := by
  obtain ⟨s, n⟩ := d
  by_cases hn : n = 0
  · -- a whole number of seconds: nothing to cut
    subst hn
    simp [negateTime, wholeSeconds]
  · -- both `s + n` and `-s - 1 + (10 ^ 9 - n)` lie strictly between two whole seconds
    have hrest : 0 < nanosPerSecond - n := by simp only at h; omega
    simp only [negateTime, wholeSeconds, hn, if_false]
    split_ifs <;> omega

theorem wholeSeconds_since_swap (a b : Instant) :
    wholeSeconds (b.since a) = -wholeSeconds (a.since b) := by
  rw [since_swap]
  exact wholeSeconds_negateTime _ (since_nanos_lt a b)

/-! ## The phrases -/

/-- The units a relative phrase counts in. -/
def timeUnits : List String := ["minute", "hour", "day", "month", "year"]

/-- The phrase for a signed count of whole seconds from the instant to the reference. -/
def secondsPhrase (seconds : Int) : String :=
  if seconds.natAbs < 45 then "just now"
  else if seconds < 0 then "in " ++ distanceWords seconds.natAbs
  else distanceWords seconds.natAbs ++ " ago"

theorem relativePhrase_eq (a b : Instant) :
    relativePhrase a b = secondsPhrase (wholeSeconds (b.since a)) := rfl

/-- A distance of at least 45 seconds is a count of at least one of one of the units. -/
theorem distanceWords_eq {d : Nat} (h : 45 ≤ d) :
    ∃ n unit, 1 ≤ n ∧ unit ∈ timeUnits ∧ distanceWords d = countWords n unit := by
  unfold distanceWords
  split_ifs
  · exact ⟨_, _, by omega, by simp [timeUnits], rfl⟩
  · exact ⟨_, _, Nat.div_pos (by omega) (by decide), by simp [timeUnits], rfl⟩
  · exact ⟨_, _, Nat.div_pos (by omega) (by decide), by simp [timeUnits], rfl⟩
  · exact ⟨_, _, Nat.div_pos (by omega) (by decide), by simp [timeUnits], rfl⟩
  · exact ⟨_, _, Nat.div_pos (by omega) (by decide), by simp [timeUnits], rfl⟩

/-- A phrase about the future starts with `i`, so it is not `just now`. -/
theorem in_ne_justNow (s : String) : "in " ++ s ≠ "just now" := by
  intro h
  have := congrArg (fun t => t.toList.head?) h
  simp at this

/-- A phrase about the past is longer than `just now`. -/
theorem countWords_ago_ne_justNow (n : Nat) {unit : String} (hunit : unit ∈ timeUnits) :
    countWords n unit ++ " ago" ≠ "just now" := by
  intro h
  have hlen := congrArg String.length h
  have hn : 0 < (toString n).length := Nat.length_repr_pos
  have hu : 3 ≤ unit.length := by
    simp only [timeUnits, List.mem_cons, List.not_mem_nil, or_false] at hunit
    rcases hunit with rfl | rfl | rfl | rfl | rfl <;> decide
  simp only [countWords, String.length_append] at hlen
  have hspace : " ".length = 1 := by decide
  have hago : " ago".length = 4 := by decide
  have hjust : "just now".length = 8 := by decide
  omega

/-- The phrase of `a` for `b` is `just now` exactly when the phrase of `b` for `a` is; otherwise
one of them is `N units ago` and the other `in N units`, for one count and one unit. -/
theorem relativePhrase_swap (a b : Instant) :
    (relativePhrase a b = "just now" ↔ relativePhrase b a = "just now") ∧
    (relativePhrase a b = "just now" ∨
      ∃ n unit, 1 ≤ n ∧ unit ∈ timeUnits ∧
        ((relativePhrase a b = countWords n unit ++ " ago" ∧
            relativePhrase b a = "in " ++ countWords n unit) ∨
          (relativePhrase a b = "in " ++ countWords n unit ∧
            relativePhrase b a = countWords n unit ++ " ago"))) := by
  rw [relativePhrase_eq, relativePhrase_eq, wholeSeconds_since_swap a b]
  generalize wholeSeconds (a.since b) = s
  by_cases hnear : s.natAbs < 45
  · -- both directions are within 45 seconds
    simp [secondsPhrase, hnear]
  · obtain ⟨n, unit, hn, hunit, hwords⟩ := distanceWords_eq (d := s.natAbs) (by omega)
    have hago := countWords_ago_ne_justNow n hunit
    have hin := in_ne_justNow (countWords n unit)
    by_cases hneg : s < 0
    · -- `b` lies after `a`: `a` is some time ago as seen from `b`
      have hpos : ¬(-s) < 0 := by omega
      simp only [secondsPhrase, hnear, hneg, hpos, Int.natAbs_neg, hwords, if_false,
        if_true]
      exact ⟨by simp [hago, hin], .inr ⟨n, unit, hn, hunit, .inl ⟨rfl, rfl⟩⟩⟩
    · have hneg' : -s < 0 := by omega
      simp only [secondsPhrase, hnear, hneg, hneg', Int.natAbs_neg, hwords, if_false,
        if_true]
      exact ⟨by simp [hago, hin], .inr ⟨n, unit, hn, hunit, .inr ⟨rfl, rfl⟩⟩⟩

end Autotext.Calendar
