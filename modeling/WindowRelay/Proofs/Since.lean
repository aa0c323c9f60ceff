import Mathlib.Data.List.Induction

/-!
# Since — what holds from one point of a history on

`Since begins ends past` says that something in the history `past` began what `begins` describes,
and that nothing after it ended it.  The law of the last entry (`since_snoc`) and those of two
histories joined (`since_append`, `since_append_still`) are what proofs about machines need: a
machine remembers whether such a thing holds, and finds out again at each entry.
-/

namespace WindowRelay

variable {α : Type} {begins ends : α → Prop} {x : α} {past later : List α}

def Since (begins ends : α → Prop) (past : List α) : Prop :=
  ∃ before x after, past = before ++ x :: after ∧ begins x ∧ ∀ y ∈ after, ¬ ends y

theorem not_since_nil : ¬ Since begins ends [] := by
  rintro ⟨before, x, after, hpast, -, -⟩
  cases before <;> cases hpast

theorem since_snoc :
    Since begins ends (past ++ [x]) ↔ begins x ∨ (¬ ends x ∧ Since begins ends past) := by
  constructor
  · rintro ⟨before, y, after, hpast, hbegins, hlasts⟩
    -- The beginning is the last entry, or else that entry is the last of those after it.
    rcases List.eq_nil_or_concat after with rfl | ⟨after, z, rfl⟩
    · rcases List.append_inj' hpast rfl with ⟨-, hx⟩
      cases hx
      exact .inl hbegins
    · have hsplit : past ++ [x] = (before ++ y :: after) ++ [z] := by
        simpa using hpast
      rcases List.append_inj' hsplit rfl with ⟨rfl, hx⟩
      cases hx
      refine .inr ⟨hlasts x (by simp), before, y, after, rfl, hbegins, ?_⟩
      intro z hz
      exact hlasts z (by simp [hz])
  · rintro (hbegins | ⟨hlasts, before, y, after, rfl, hbegins, hafter⟩)
    · exact ⟨past, x, [], rfl, hbegins, by simp⟩
    · refine ⟨before, y, after ++ [x], by simp, hbegins, ?_⟩
      intro z hz
      rcases List.mem_append.1 hz with hz | hz
      · exact hafter z hz
      · rw [List.mem_singleton.1 hz]
        exact hlasts

/-- What is the same for the entries of a history is the same for the history. -/
theorem since_congr {begins' ends' : α → Prop} (hbegins : ∀ x ∈ past, begins x ↔ begins' x)
    (hends : ∀ x ∈ past, ends x ↔ ends' x) :
    Since begins ends past ↔ Since begins' ends' past := by
  induction past using List.reverseRecOn with
  | nil =>
      exact iff_of_false not_since_nil not_since_nil
  | append_singleton past x ih =>
      have hlast : x ∈ past ++ [x] := by simp
      rw [since_snoc, since_snoc, hbegins x hlast, hends x hlast,
        ih (fun y hy => hbegins y (by simp [hy])) fun y hy => hends y (by simp [hy])]

/-- Nothing that began before an end lasts beyond it. -/
theorem since_append (hx : ends x) (hbegins : ¬ begins x) :
    Since begins ends (past ++ x :: later) ↔ Since begins ends later := by
  induction later using List.reverseRecOn with
  | nil =>
      rw [since_snoc]
      simp [hx, hbegins, not_since_nil]
  | append_singleton later y ih =>
      have hsplit : past ++ x :: (later ++ [y]) = (past ++ x :: later) ++ [y] := by
        simp
      rw [hsplit, since_snoc, since_snoc, ih]

/-- What neither begins nor ends it changes nothing. -/
theorem since_append_still (still : ∀ y ∈ later, ¬ begins y ∧ ¬ ends y) :
    Since begins ends (past ++ later) ↔ Since begins ends past := by
  induction later using List.reverseRecOn with
  | nil =>
      rw [List.append_nil]
  | append_singleton later y ih =>
      have hlast := still y (by simp)
      have hbefore := ih fun z hz => still z (by simp [hz])
      rw [← List.append_assoc, since_snoc, hbefore]
      simp [hlast.1, hlast.2]

end WindowRelay
