import Mathlib.Data.Rat.Floor
import ShapeCheck.Instant

namespace ShapeCheck

/-- A time in UTC, within the years that instants are kept for. -/
structure UtcTime where
  seconds : Int
  nanos : Nat
  first_le : Instant.first ≤ seconds * 1000
  le_last : seconds * 1000 ≤ Instant.last
  nanos_lt : nanos < 2000000000

namespace Instant

theorem first_eq : first = -8334601228800 * 1000 := by
  decide

theorem last_eq : last = 8210266876799 * 1000 + 999 := by
  decide

end Instant

namespace UtcTime

def exactMillis (t : UtcTime) : ℚ :=
  t.seconds * 1000 + t.nanos / 1000000

def instant (t : UtcTime) : Instant :=
  Instant.ofNanos t.seconds t.nanos

def ofMillis (millis : Int) (within : Instant.first ≤ millis ∧ millis ≤ Instant.last) : UtcTime where
  seconds := millis / 1000
  nanos := (millis % 1000).toNat * 1000000
  first_le := by
    rw [Instant.first_eq] at within ⊢
    omega
  le_last := by omega
  nanos_lt := by omega

def ofMillis? (millis : Int) : Option UtcTime :=
  if within : Instant.first ≤ millis ∧ millis ≤ Instant.last then some (ofMillis millis within)
  else none

def kept (t : UtcTime) : UtcTime :=
  (ofMillis? t.instant.millis).getD t

/-- Whether a time is in the leap second after the last second of the last year. -/
def InLastLeapSecond (t : UtcTime) : Prop :=
  t.seconds = Instant.last / 1000 ∧ 1000000000 ≤ t.nanos
  deriving Decidable

def toIso (t : UtcTime) : String :=
  let date := Calendar.dateOf (t.seconds / 86400)
  let second := (t.seconds % 86400).toNat
  Instant.yearText date.year ++ "-" ++ Text.padded 2 date.month ++ "-" ++ Text.padded 2 date.day ++
    "T" ++ (Text.padded 2 (second / 3600) ++ ":" ++ Text.padded 2 (second / 60 % 60) ++ ":" ++
      Text.padded 2 (second % 60 + t.nanos / 1000000000) ++ "." ++
      Text.padded 3 (t.nanos / 1000000 % 1000)) ++ "Z"

variable (t : UtcTime)

theorem instant_millis : t.instant.millis = t.seconds * 1000 + (t.nanos / 1000000 : Nat) :=
  rfl

theorem millis_eq_floor : t.instant.millis = ⌊t.exactMillis⌋ := by
  have fraction : ⌊(t.nanos / 1000000 : ℚ)⌋ = (t.nanos / 1000000 : Nat) := by
    exact_mod_cast Rat.floor_natCast_div_natCast t.nanos 1000000
  have whole : (t.seconds * 1000 : ℚ) = (t.seconds * 1000 : Int) := by
    push_cast
    rfl
  rw [exactMillis, whole, Int.floor_intCast_add, fraction, instant_millis]

theorem first_le_millis : Instant.first ≤ t.instant.millis := by
  have := t.first_le
  rw [instant_millis]
  omega

theorem millis_le_last_iff : t.instant.millis ≤ Instant.last ↔ ¬ t.InLastLeapSecond := by
  have inside := t.le_last
  have part := t.nanos_lt
  rw [instant_millis, InLastLeapSecond]
  rw [Instant.last_eq] at inside ⊢
  omega

theorem instant_ofMillis {millis : Int} (within : Instant.first ≤ millis ∧ millis ≤ Instant.last) :
    (ofMillis millis within).instant = ⟨millis⟩ := by
  simp only [instant, Instant.ofNanos, ofMillis, Instant.mk.injEq]
  omega

theorem map_instant_ofMillis? (millis : Int) :
    (ofMillis? millis).map instant = Instant.ofMillis? millis := by
  unfold ofMillis? Instant.ofMillis?
  split
  · next within => rw [Option.map_some, instant_ofMillis within]
  · rfl

theorem kept_of_inLastLeapSecond (leap : t.InLastLeapSecond) : t.kept = t := by
  rw [kept, ofMillis?, dif_neg (fun within => t.millis_le_last_iff.1 within.2 leap),
    Option.getD_none]

theorem kept_of_not_inLastLeapSecond (common : ¬ t.InLastLeapSecond) :
    t.kept = ofMillis t.instant.millis ⟨t.first_le_millis, t.millis_le_last_iff.2 common⟩ := by
  rw [kept, ofMillis?, dif_pos, Option.getD_some]

theorem instant_kept : t.kept.instant = t.instant := by
  by_cases leap : t.InLastLeapSecond
  · rw [t.kept_of_inLastLeapSecond leap]
  · rw [t.kept_of_not_inLastLeapSecond leap, instant_ofMillis]

theorem ofMillis?_millis :
    ofMillis? t.instant.millis = if t.InLastLeapSecond then none else some t.kept := by
  split
  · next leap => rw [ofMillis?, dif_neg (fun within => t.millis_le_last_iff.1 within.2 leap)]
  · next leap => rw [t.kept_of_not_inLastLeapSecond leap, ofMillis?, dif_pos]

theorem ofMillis?_instant :
    Instant.ofMillis? t.instant.millis = if t.InLastLeapSecond then none else some t.instant := by
  rw [← map_instant_ofMillis?, ofMillis?_millis, apply_ite (Option.map instant), Option.map_none,
    Option.map_some, instant_kept]

theorem kept_kept : t.kept.kept = t.kept := by
  rw [kept, instant_kept, kept]
  cases ofMillis? t.instant.millis <;> rfl

theorem nanos_kept : t.kept.nanos < 1000000000 ∨ t.kept.InLastLeapSecond := by
  by_cases leap : t.InLastLeapSecond
  · rw [t.kept_of_inLastLeapSecond leap]
    exact .inr leap
  · rw [t.kept_of_not_inLastLeapSecond leap]
    refine .inl ?_
    simp only [ofMillis]
    omega

-- Other leap seconds than the last are shown as the start of the next minute, once they are kept.
variable {t} in
theorem toIso_instant (shown : t.nanos < 1000000000 ∨ t.InLastLeapSecond) :
    t.toIso = t.instant.toIso := by
  have inside := t.le_last
  have millis := t.instant_millis
  rw [Instant.last_eq] at inside
  rw [InLastLeapSecond, Instant.last_eq] at shown
  have day : min t.instant.millis Instant.last / Instant.dayLength = t.seconds / 86400 := by
    rw [Instant.last_eq, Instant.dayLength]
    omega
  have ofDay : (t.instant.millis - t.seconds / 86400 * Instant.dayLength).toNat =
      (t.seconds % 86400).toNat * 1000 + t.nanos / 1000000 := by
    rw [Instant.dayLength]
    omega
  have carried : min (((t.seconds % 86400).toNat * 1000 + t.nanos / 1000000) / 1000) 86399 =
      (t.seconds % 86400).toNat := by
    omega
  have leap : ((t.seconds % 86400).toNat * 1000 + t.nanos / 1000000) / 1000 -
      (t.seconds % 86400).toNat = t.nanos / 1000000000 := by
    omega
  have thousandths : ((t.seconds % 86400).toNat * 1000 + t.nanos / 1000000) % 1000 =
      t.nanos / 1000000 % 1000 := by
    omega
  simp only [toIso, Instant.toIso, day, ofDay, Instant.timeText, carried, leap, thousandths]

/-- The milliseconds of an instant are those of its time, rounded down, and it is the instant that
they stand for, except in the leap second after the last second, where they stand for none. The
time that is kept has the same instant and shows it, and it is kept as it is. -/
theorem reconstruct_instant :
    t.instant.millis = ⌊t.exactMillis⌋ ∧
      Instant.ofMillis? t.instant.millis =
        (if t.InLastLeapSecond then none else some t.instant) ∧
      t.kept.instant = t.instant ∧ t.kept.toIso = t.instant.toIso ∧ t.kept.kept = t.kept := by
  refine ⟨t.millis_eq_floor, t.ofMillis?_instant, t.instant_kept, ?_, t.kept_kept⟩
  rw [toIso_instant t.nanos_kept, instant_kept]

def lastLeapSecond : UtcTime where
  seconds := 8210266876799
  nanos := 1000000000
  first_le := by decide
  le_last := by decide
  nanos_lt := by decide

theorem lastLeapSecond_not_reconstructed :
    lastLeapSecond.instant.millis = 8210266876800000 ∧
      lastLeapSecond.instant.toIso = "+262142-12-31T23:59:60.000Z" ∧
      Instant.ofMillis? 8210266876800000 = none := by
  refine ⟨rfl, ?_, ?_⟩
  · decide +kernel
  · decide

end UtcTime
end ShapeCheck
