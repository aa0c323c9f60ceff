import WindowRelay.Proofs.Text.Quiet

/-!
# Telling — operations that only tell the listener something

Most operations of a dispatcher make a callback, or let the listener's editor work.  They may leave
the listener changed, and nothing else.

- `Dispatcher.Tells`: an operation of this sort, with effects of a certain kind.
-/

namespace WindowRelay
namespace Dispatcher

variable {K α : Type} {P : Effect K → Prop}

/-- An operation that at most changes the listener, with effects that satisfy `P`. -/
def Tells (P : Effect K → Prop) (m : Act K (Dispatcher K) α) : Prop :=
  ∀ d, (∃ l, (m.run d).state = { d with listener := l }) ∧ ∀ e ∈ (m.run d).effects, P e

theorem tells_notify {c : Callback K} (h : P (.callback c)) : Tells P (notify c) := by
  intro d
  rw [run_notify]
  refine ⟨⟨d.listener, rfl⟩, fun e he => ?_⟩
  cases hattached : d.attached with
  | false =>
      simp [hattached] at he
  | true =>
      have hc : e = .callback c := by
        simpa [hattached] using he
      rw [hc]
      exact h

theorem tells_edit {m : Act K (Editor K) α}
    (hm : ∀ e, ∀ x ∈ (m.run e).effects, x.isAside = true) (hP : ∀ x, x.isAside = true → P x) :
    Tells P (edit m) := by
  intro d
  cases heditor : (if d.attached then d.listener.editor else none) with
  | none =>
      rw [run_edit_none heditor]
      exact ⟨⟨d.listener, rfl⟩, fun e he => by cases he⟩
  | some e =>
      rw [run_edit_some heditor]
      exact ⟨⟨_, rfl⟩, fun x hx => hP x (hm e x hx)⟩

/-- A question to the listener, answered from the state of the line. -/
theorem tells_ask {c : Callback K} (h : P (.callback c)) (answer : Dispatcher K → α) :
    Tells P (do
      notify c
      let d ← get
      pure (answer d)) := by
  intro d
  simpa using tells_notify h d

theorem tells_shouldClose (h : P (.callback .shouldClose)) :
    Tells P (shouldClose : Act K (Dispatcher K) Bool) :=
  tells_ask h _

theorem tells_hitTest {p : Point K} (h : P (.callback (.hitTest p))) : Tells P (hitTest p) :=
  tells_ask h _

theorem tells_hasEditor : Tells P (hasEditor : Act K (Dispatcher K) Bool) :=
  fun d => ⟨⟨d.listener, rfl⟩, fun e he => by cases he⟩

end Dispatcher
end WindowRelay
