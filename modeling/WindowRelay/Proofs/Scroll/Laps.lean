import Mathlib.Data.List.Chain
import WindowRelay.Proofs.Scroll.Streams

/-!
# Laps — scroll times that come from a counter of 32 bits

Some toolkits tell the time by a counter of milliseconds that starts again after a lap of 2^32 of
them, some fifty days.  A phase tracker hands on no time that is earlier than one it has seen.  So
the times of a stream follow the counter up to the end of its lap, and stand still from there until
the counter is back where it was.

* `Time.counted` — what the counter tells at a true time;
* `Time.marks` — the latest of what it told so far;
* `Time.Follows` — how far differences of such times are the differences of the true times;
* `Time.follows_marks` — they are as long as the counter neither starts again nor is behind.
-/

namespace WindowRelay
namespace Time

/-! ## The counter -/

def lap : Nat :=
  Nat.pow 2 32

/-- The reading of the counter at a true time in milliseconds. -/
def reading (ms : Nat) : UInt32 :=
  UInt32.ofNat ms

/-- The time that the counter tells. -/
def counted (ms : Nat) : Time :=
  ofMillis (reading ms).toNat

/-- The true times do not go back, and half a lap is never spent between two of them. -/
def Steady (times : List Nat) : Prop :=
  times.IsChain fun s t => s ≤ t ∧ t < s + lap / 2

instance (times : List Nat) : Decidable (Steady times) :=
  inferInstanceAs (Decidable (times.IsChain fun s t => s ≤ t ∧ t < s + lap / 2))

/-- The latest of a time and of all that the counter told so far. -/
def marks (mark : Time) : List Nat → List Time
  | [] => []
  | t :: ts => max mark (counted t) :: marks (max mark (counted t)) ts

/-- What is heard at the true times is the latest of what the counter told.  A difference is exact
if and only if no time went by, or the counter is in the lap it was in and its former time was not
behind the latest.  When the counter starts again nothing is added.  So all differences are exact
within one lap, unless a later time was seen before. -/
structure Follows (mark : Time) (times : List Nat) (heard : List Time) : Prop where
  eq_marks : heard = marks mark times
  exact_iff : ∀ (i s t : Nat) (a b : Time), times[i]? = some s → times[i + 1]? = some t →
    heard[i]? = some a → heard[i + 1]? = some b →
      (b - a = ofMillis (t - s) ↔ s = t ∨ s / lap = t / lap ∧ a = counted s)
  stands_still : ∀ (i s t : Nat) (a b : Time), times[i]? = some s → times[i + 1]? = some t →
    heard[i]? = some a → heard[i + 1]? = some b → s / lap ≠ t / lap → b = a
  exact_in_lap : (∀ s ∈ times, ∀ t ∈ times, s / lap = t / lap) →
    (∀ s ∈ times.head?, mark ≤ counted s) →
      ∀ (i s t : Nat) (a b : Time), times[i]? = some s → times[i + 1]? = some t →
        heard[i]? = some a → heard[i + 1]? = some b → b - a = ofMillis (t - s)

variable {mark a b : Time} {times : List Nat} {i s t : Nat}

theorem nanoseconds_counted (ms : Nat) : (counted ms).nanoseconds = ms % lap * 1000000 := by
  simp only [counted, ofMillis, reading, UInt32.toNat_ofNat']
  rfl

theorem lap_eq : lap = 4294967296 :=
  rfl

/-! ## Two times, one after the other -/

theorem counted_le_counted (h : s ≤ t) (hlap : s / lap = t / lap) : counted s ≤ counted t := by
  change (counted s).nanoseconds ≤ (counted t).nanoseconds
  rw [nanoseconds_counted, nanoseconds_counted]
  rw [lap_eq] at hlap ⊢
  omega

/-- The counter starts again between the two times, and tells less than before. -/
theorem max_counted_of_wrap (hs : counted s ≤ a) (h : s ≤ t ∧ t < s + lap / 2)
    (hwrap : s / lap ≠ t / lap) : max a (counted t) = a := by
  have hs' : (counted s).nanoseconds ≤ a.nanoseconds := hs
  rw [eq_iff_nanoseconds, nanoseconds_max, nanoseconds_counted]
  rw [nanoseconds_counted] at hs'
  rw [lap_eq] at hs' h hwrap ⊢
  omega

theorem sub_eq_iff (hs : counted s ≤ a) (h : s ≤ t ∧ t < s + lap / 2) :
    max a (counted t) - a = ofMillis (t - s) ↔ s = t ∨ s / lap = t / lap ∧ a = counted s := by
  have hs' : (counted s).nanoseconds ≤ a.nanoseconds := hs
  have hmillis : (ofMillis (t - s)).nanoseconds = (t - s) * 1000000 := rfl
  by_cases hlap : s / lap = t / lap
  · -- Within a lap the counter runs as the true time does.
    rw [eq_iff_nanoseconds, eq_iff_nanoseconds (a := a), nanoseconds_sub, nanoseconds_max,
      nanoseconds_counted, nanoseconds_counted, hmillis]
    rw [nanoseconds_counted] at hs'
    rw [lap_eq] at hs' h hlap ⊢
    omega
  · have hne : s ≠ t := fun heq => hlap (congrArg (· / lap) heq)
    rw [max_counted_of_wrap hs h hlap, eq_iff_nanoseconds, nanoseconds_sub, hmillis]
    simp only [hlap, false_and, or_false, hne, iff_false]
    omega

/-! ## A run of times -/

theorem marks_next (hs : times[i]? = some s) (ht : times[i + 1]? = some t)
    (ha : (marks mark times)[i]? = some a) (hb : (marks mark times)[i + 1]? = some b) :
    counted s ≤ a ∧ b = max a (counted t) := by
  induction times generalizing mark i with
  | nil =>
      cases hs
  | cons first times ih =>
      cases i with
      | succ i =>
          exact ih hs ht ha hb
      | zero =>
          obtain rfl : first = s := Option.some.inj hs
          obtain rfl : max mark (counted first) = a := Option.some.inj ha
          cases times with
          | nil =>
              cases ht
          | cons second times =>
              obtain rfl : second = t := Option.some.inj ht
              exact ⟨le_max_right _ _, (Option.some.inj hb).symm⟩

/-- Within one lap the counter is never behind. -/
theorem marks_eq_map (hsteady : Steady times)
    (hlap : ∀ s ∈ times, ∀ t ∈ times, s / lap = t / lap)
    (hmark : ∀ s ∈ times.head?, mark ≤ counted s) : marks mark times = times.map counted := by
  induction times generalizing mark with
  | nil =>
      rfl
  | cons first times ih =>
      have hfirst : max mark (counted first) = counted first := max_eq_right (hmark first rfl)
      rw [marks, hfirst, List.map_cons]
      refine congrArg _ (ih (List.IsChain.tail hsteady) ?_ ?_)
      · intro s hs t ht
        exact hlap s (List.mem_cons_of_mem _ hs) t (List.mem_cons_of_mem _ ht)
      · intro second hsecond
        cases times with
        | nil =>
            cases hsecond
        | cons next times =>
            obtain rfl : next = second := Option.some.inj hsecond
            have hle : first ≤ next := (List.isChain_cons_cons.1 hsteady).1.1
            exact counted_le_counted hle (hlap first (by simp) next (by simp))

theorem Steady.next (h : Steady times) (hs : times[i]? = some s) (ht : times[i + 1]? = some t) :
    s ≤ t ∧ t < s + lap / 2 := by
  rcases List.getElem?_eq_some_iff.1 hs with ⟨_, rfl⟩
  rcases List.getElem?_eq_some_iff.1 ht with ⟨hi, rfl⟩
  exact List.isChain_iff_getElem.1 h i hi

theorem follows_marks (mark : Time) (hsteady : Steady times) :
    Follows mark times (marks mark times) where
  eq_marks := rfl
  exact_iff i s t a b hs ht ha hb := by
    rcases marks_next hs ht ha hb with ⟨hle, rfl⟩
    exact sub_eq_iff hle (hsteady.next hs ht)
  stands_still i s t a b hs ht ha hb hwrap := by
    rcases marks_next hs ht ha hb with ⟨hle, rfl⟩
    exact max_counted_of_wrap hle (hsteady.next hs ht) hwrap
  exact_in_lap hlap hmark i s t a b hs ht ha hb := by
    rcases marks_next hs ht ha hb with ⟨hle, rfl⟩
    rw [sub_eq_iff hle (hsteady.next hs ht)]
    have hexact : a = counted s := by
      rw [marks_eq_map hsteady hlap hmark, List.getElem?_map, hs] at ha
      exact (Option.some.inj ha).symm
    have hsame : s / lap = t / lap :=
      hlap s (List.mem_of_getElem? hs) t (List.mem_of_getElem? ht)
    exact .inr ⟨hsame, hexact⟩

end Time
end WindowRelay
