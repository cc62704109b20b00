import SmbClient.Error
import Mathlib.Algebra.Ring.Int.Defs

/-!
# Explicit timestamps (`runtime/metadata.rs`, `binrw_util/file_time.rs`)

`SystemTime` is that of Unix: seconds in an `i64` and the nanoseconds behind them.
-/

namespace Runtime.Metadata

/-- `std::time::Duration`. -/
structure Duration where
  secs : ℕ
  nanos : ℕ

def Duration.asNanos (d : Duration) : ℕ := d.secs * 1000000000 + d.nanos

structure SystemTime where
  secs : ℤ
  nanos : ℕ
  inSecs : -2 ^ 63 ≤ secs ∧ secs < 2 ^ 63
  inNanos : nanos < 1000000000

structure FileTime where
  value : ℕ

namespace SystemTime

variable (t : SystemTime)

/-- `t.duration_since(UNIX_EPOCH)`; the error is the distance to the past. -/
def durationSinceUnixEpoch : Except Duration Duration :=
  if 0 ≤ t.secs then .ok ⟨t.secs.toNat, t.nanos⟩
  else if t.nanos = 0 then .error ⟨(-t.secs).toNat, 0⟩
  else .error ⟨(-t.secs - 1).toNat, 1000000000 - t.nanos⟩

/-- `t + d`; `none` is its panic. -/
def add (d : Duration) : Option SystemTime :=
  let carry := (t.nanos + d.nanos) / 1000000000
  let secs := t.secs + d.secs + carry
  if h : -2 ^ 63 ≤ secs ∧ secs < 2 ^ 63 then
    some ⟨secs, (t.nanos + d.nanos) % 1000000000, h, Nat.mod_lt _ (by decide)⟩
  else none

/-- `FileTime::EPOCH`, 369 years with 89 leap days before 1970. -/
def fileTimeEpoch : SystemTime := ⟨-((369 * 365 + 89) * 86400), 0, by decide, by decide⟩

end SystemTime

namespace FileTime

variable (f : FileTime)

def sinceEpoch : Duration := ⟨f.value / 10000000, f.value % 10000000 * 100 % 2 ^ 32⟩

/-- `SystemTime::from`. -/
def toSystemTime : Option SystemTime := SystemTime.fileTimeEpoch.add f.sinceEpoch

end FileTime

def unixOffsetNs : ℤ := 11644473600 * 1000000000

def invalidTimestamp : Error :=
  .invalidArgument "timestamp is outside the positive SMB FILETIME range"

/-- An `i128`, where the value is one. -/
def i128 (n : ℤ) : Option ℤ := if -2 ^ 127 ≤ n ∧ n < 2 ^ 127 then some n else none

def unixNs (t : SystemTime) : Option ℤ :=
  match t.durationSinceUnixEpoch with
  | .ok duration => i128 duration.asNanos
  | .error duration => (i128 duration.asNanos).map (- ·)

def fileTime : Option SystemTime → Except Error FileTime
  | none => .ok ⟨0⟩
  | some value =>
    match (unixNs value).bind fun ns => i128 (ns + unixOffsetNs) with
    | none => .error invalidTimestamp
    | some ns =>
      let ticks := ns / 100
      if ticks ≤ 0 ∨ ticks > 2 ^ 63 - 1 then .error invalidTimestamp
      else if 2 ^ 64 ≤ ticks then .error invalidTimestamp
      else .ok ⟨ticks.toNat⟩

/-! ## The instant a time stands for -/

namespace SystemTime

/-- Nanoseconds since 1601. -/
def instant (t : SystemTime) : ℤ := (t.secs - fileTimeEpoch.secs) * 1000000000 + t.nanos

variable {t : SystemTime}

theorem instant_eq : t.instant = t.secs * 1000000000 + t.nanos + unixOffsetNs := by
  change (t.secs - -11644473600) * 1000000000 + t.nanos = _
  unfold unixOffsetNs
  omega

theorem unixNs_eq : unixNs t = some (t.secs * 1000000000 + t.nanos) := by
  have := t.inSecs
  have := t.inNanos
  have fits {n : ℤ} (h : -2 ^ 63 * 1000000000 ≤ n ∧ n ≤ 2 ^ 63 * 1000000000) : i128 n = some n :=
    if_pos (by omega)
  unfold unixNs durationSinceUnixEpoch Duration.asNanos
  split_ifs <;> dsimp only
  · rw [fits (by omega)]
    congr 1
    omega
  all_goals
    rw [fits (by omega), Option.map_some]
    congr 1
    omega

end SystemTime

theorem fileTime_eq (t : SystemTime) :
    fileTime (some t) = if 1 ≤ t.instant / 100 ∧ t.instant / 100 ≤ 2 ^ 63 - 1
      then .ok ⟨(t.instant / 100).toNat⟩ else .error invalidTimestamp := by
  have fits : i128 (t.secs * 1000000000 + t.nanos + unixOffsetNs) = some t.instant := by
    have := t.inSecs
    have := t.inNanos
    rw [SystemTime.instant_eq]
    refine if_pos ?_
    unfold unixOffsetNs
    omega
  rw [fileTime, SystemTime.unixNs_eq, Option.bind_some, fits]
  dsimp only
  split_ifs <;> first | rfl | omega

theorem FileTime.toSystemTime_instant {v : ℕ} (h : v < 2 ^ 63) :
    ∃ t, FileTime.toSystemTime ⟨v⟩ = some t ∧ t.instant = v * 100 := by
  refine ⟨_, dif_pos ?_, ?_⟩
  · simp only [sinceEpoch, SystemTime.fileTimeEpoch]
    omega
  · simp only [SystemTime.instant, sinceEpoch, SystemTime.fileTimeEpoch]
    omega

/-- A timestamp is sent as its number of whole intervals of 100 ns since 1601, if that is positive
and fits, and comes back rounded down. -/
theorem explicit_time_kept (t : SystemTime) :
    (fileTime (some t) = if 1 ≤ t.instant / 100 ∧ t.instant / 100 ≤ 2 ^ 63 - 1
      then .ok ⟨(t.instant / 100).toNat⟩ else .error invalidTimestamp) ∧
    (∀ f, fileTime (some t) = .ok f → 0 < f.value ∧ f.value < 2 ^ 63 ∧
      ∃ back, f.toSystemTime = some back ∧ t.instant - 100 < back.instant ∧
        back.instant ≤ t.instant) ∧
    ∀ v : ℕ, 1 ≤ v → v ≤ 2 ^ 63 - 1 →
      ∃ back, FileTime.toSystemTime ⟨v⟩ = some back ∧ fileTime (some back) = .ok ⟨v⟩ := by
  refine ⟨fileTime_eq t, fun f sent => ?_, fun v positive bound => ?_⟩
  · rw [fileTime_eq] at sent
    split_ifs at sent with range
    cases sent
    obtain ⟨back, converted, instant⟩ :=
      @FileTime.toSystemTime_instant (t.instant / 100).toNat (by omega)
    refine ⟨by dsimp only; omega, by dsimp only; omega, back, converted, ?_, ?_⟩ <;> omega
  · obtain ⟨back, converted, instant⟩ := @FileTime.toSystemTime_instant v (by omega)
    refine ⟨back, converted, ?_⟩
    rw [fileTime_eq, instant, Int.mul_ediv_cancel _ (by decide), if_pos (by omega),
      Int.toNat_natCast]

end Runtime.Metadata
