import LintDispatch.Console.Transcript
import LintDispatch.Proofs.Number.Magnitude

/-! Timing never fails by itself. As long as the clock keeps to readings of a moderate size, every
duration has its milliseconds, and timed work comes out as it would without the clock. -/

namespace LintDispatch

namespace Seconds

variable {start stop : Seconds}

def Below (bound : Nat) : Seconds → Prop
  | .whole n => n.natAbs < bound
  | .real x => x.Below bound

/-- What a clock may read: a million million seconds either way. -/
def bound : Nat := 10 ^ 12

theorem doubleOfInt_isOk {n : Int} {k : Nat} (h : n.natAbs ≤ 2 ^ k) (hk : k ≤ 900) :
    ∃ x, doubleOfInt n = .ok x ∧ x.AtMost k := by
  obtain ⟨s, m, e, he, hle⟩ := Double.atMost_ofInt h hk
  exact ⟨.finite s m e, by simp [doubleOfInt, he], s, m, e, rfl, hle⟩

theorem toDouble_isOk (h : start.Below bound) : ∃ x, start.toDouble = .ok x ∧ x.AtMost 40 := by
  have hb : bound ≤ 2 ^ 40 := by decide
  cases start with
  | whole n => exact doubleOfInt_isOk (Nat.le_of_lt (h.trans_le hb)) (by decide)
  | real x => exact ⟨x, rfl, Double.Below.atMost h hb⟩

theorem microseconds_isOk_of_real {x : Double} (h : x.AtMost 41) :
    ∃ n, (real x).microseconds = .ok n ∧ n.natAbs ≤ 2 ^ 61 := by
  have ht : Double.AtMost 10 thousand := Double.atMost_ofInt (by decide) (by decide)
  have hmul := Double.atMost_mul (Double.atMost_mul h ht (by decide)) ht (by decide)
  obtain ⟨n, hn, hle⟩ := Double.atMost_truncate? hmul
  obtain ⟨s, m, e, he, -⟩ := hmul
  rw [he] at hn
  exact ⟨n, by simp [microseconds, he, hn], hle⟩

theorem microseconds_since (hstop : stop.Below bound) (hstart : start.Below bound) :
    ∃ duration n, stop.since start = .ok duration ∧ duration.microseconds = .ok n ∧
      n.natAbs ≤ 2 ^ 61 := by
  obtain ⟨x, hx, hxk⟩ := toDouble_isOk hstop
  obtain ⟨y, hy, hyk⟩ := toDouble_isOk hstart
  have hsub : (x.sub y).AtMost 41 := Double.atMost_add hxk (Double.atMost_neg hyk) (by decide)
  obtain ⟨n, hn, hle⟩ := microseconds_isOk_of_real hsub
  match stop, start with
  | .whole a, .whole b =>
    refine ⟨_, _, rfl, rfl, ?_⟩
    simp only [Below, bound] at hstop hstart
    omega
  | .whole a, .real b => exact ⟨_, n, by simp only [since, hx, hy], hn, hle⟩
  | .real a, .whole b => exact ⟨_, n, by simp only [since, hx, hy], hn, hle⟩
  | .real a, .real b => exact ⟨_, n, by simp only [since, hx, hy], hn, hle⟩

theorem milliseconds_since (hstop : stop.Below bound) (hstart : start.Below bound) :
    ∃ ms, (stop.since start).bind milliseconds = .ok ms := by
  obtain ⟨duration, n, hd, hn, hle⟩ := microseconds_since hstop hstart
  obtain ⟨x, hx, -⟩ := doubleOfInt_isOk hle (by decide)
  exact ⟨x.divNat 1000, by simp [hd, Except.bind, milliseconds, hn, hx]⟩

end Seconds

def Clock.Steady (clock : Clock) : Prop :=
  ∀ t ∈ clock, t.Below Seconds.bound

theorem Clock.Steady.read {clock : Clock} (h : clock.Steady) :
    clock.read.1.Below Seconds.bound ∧ clock.read.2.Steady := by
  cases clock with
  | nil => exact ⟨Double.below_zero false (by decide), h⟩
  | cons t rest =>
    exact ⟨h t List.mem_cons_self, fun u hu => h u (List.mem_cons_of_mem _ hu)⟩

namespace Console

variable {α ε : Type} {clock : Clock} {work : Transcript × Except ε α} {value : α}

theorem timed_of_steady (debugging : Bool) (message : String) (ofError : Seconds.Error → ε)
    (h : clock.Steady) (hwork : work.2 = .ok value) :
    (timed debugging clock message ofError work).result = .ok value := by
  obtain ⟨hstart, hrest⟩ := h.read
  obtain ⟨ms, hms⟩ := Seconds.milliseconds_since hrest.read.1 hstart
  cases debugging <;> simp [timed, hwork, hms]

theorem timed_commands (debugging : Bool) (clock : Clock) (message : String)
    (ofError : Seconds.Error → ε) (work : Transcript × Except ε α) :
    (timed debugging clock message ofError work).transcript.commands = work.1.commands := by
  simp only [timed]
  repeat' split
  all_goals simp [Transcript.commands]

end Console

end LintDispatch
