import WindowRelay.Proofs.Gesture.Moves
import WindowRelay.Proofs.Text.Reading

/-!
# Quiet — text input stays between the relay and the document

An operation on a text asks the document and may complain, but makes no callback.  This holds
whatever the document is and however the host answers, valid or not, and also when the operation
fails half way.
-/

namespace WindowRelay

namespace Editing

variable {K α β : Type}

/-- All effects are requests to the document and harmless warnings. -/
def Quiet (m : Editing K α) : Prop :=
  ∀ e, ∀ x ∈ (m.outcome e).effects, x.isAside = true

namespace Quiet

theorem pure (a : α) : Quiet (pure a : Editing K α) := by
  intro e x hx
  cases hx

theorem bind {m : Editing K α} {f : α → Editing K β} (hm : Quiet m) (hf : ∀ a, Quiet (f a)) :
    Quiet (m >>= f) := by
  intro e x hx
  rcases mem_effects_bind hx with hx | ⟨a, e', hx⟩
  · exact hm e x hx
  · exact hf a e' x hx

theorem map {m : Editing K α} (h : Quiet m) (f : α → β) : Quiet (f <$> m) := by
  rw [map_eq_pure_bind]
  exact h.bind fun _ => .pure _

theorem access (q : Access) : Quiet (access q : Editing K Unit) := by
  intro e x hx
  cases List.mem_singleton.1 hx
  rfl

theorem warnIf (condition : Bool) {w : Warning} (harmless : w.isLeak = false) :
    Quiet (warnIf condition w : Editing K Unit) := by
  intro e x hx
  cases condition with
  | false =>
      cases hx
  | true =>
      cases List.mem_singleton.1 hx
      simp [Effect.isAside, harmless]

theorem put (d : Document) : Quiet (put d : Editing K Unit) := by
  intro e x hx
  cases hx

theorem doWhen (condition : Bool) {m : Editing K Unit} (h : Quiet m) :
    Quiet (doWhen condition m) := by
  cases condition with
  | false => exact .pure ()
  | true => exact h

end Quiet

/-- To look at the document is no more than to ask it. -/
theorem Reading.quiet {m : Editing K α} (h : Reading m) : Quiet m := by
  intro e x hx
  have hread := h e x hx
  cases x with
  | access a =>
      rfl
  | callback c =>
      simp [Effect.isRead] at hread
  | warning w =>
      simp [Effect.isRead] at hread

namespace Quiet

/-! ## Requests that write -/

theorem replace (r : ByteRange) (new : Text) : Quiet (replace r new : Editing K Unit) :=
  (access (.replace r new)).bind fun _ => Reading.document.quiet.bind fun _ =>
    (Reading.expect _).quiet.bind fun _ => .put _

theorem setComposition (r : Option ByteRange) : Quiet (setComposition r : Editing K Unit) :=
  (access (.setComposition r)).bind fun _ => Reading.document.quiet.bind fun _ => .put _

theorem setSelection (r : ByteRange) : Quiet (setSelection r : Editing K Unit) :=
  (access (.setSelection r)).bind fun _ => Reading.document.quiet.bind fun _ => .put _

end Quiet

end Editing

/-! ## Calls of the input method -/

namespace InputMethod

open Editing (Quiet Reading)

variable {K : Type}

theorem quiet_insertionTarget (r : Option TextRange) :
    Quiet (insertionTarget r : Editing K ByteRange) := by
  cases r with
  | none =>
      exact Reading.document.quiet.bind fun _ => .pure _
  | some r =>
      exact Reading.document.quiet.bind fun _ => (Quiet.warnIf _ rfl).bind fun _ =>
        (reading_locate r).quiet.bind fun _ => .pure _

theorem quiet_insertText (t : Text) (r : Option TextRange) :
    Quiet (insertText t r : Editing K Bool) := by
  unfold insertText
  split
  · exact (quiet_insertionTarget r).bind fun _ => (Quiet.replace _ _).bind fun _ =>
      (Quiet.setComposition _).bind fun _ => (Quiet.setSelection _).bind fun _ => .pure _
  · exact (Quiet.warnIf _ rfl).bind fun _ => .pure _

theorem quiet_setComposingText (t : Text) (s : TextRange) (r : Option TextRange) :
    Quiet (setComposingText t s r : Editing K Unit) :=
  (reading_composingTarget r).quiet.bind fun _ => (Quiet.replace _ _).bind fun _ =>
    (Reading.subtract _ _).quiet.bind fun _ => (Quiet.setComposition _).bind fun _ =>
      (reading_within _ _).quiet.bind fun _ => .setSelection _

theorem quiet_boundingRect (r : TextRange) :
    Quiet (boundingRect r : Editing K (Rect K × TextRange)) :=
  (reading_locate r).quiet.bind fun _ => (Reading.bounds _).quiet.bind fun _ =>
    (Quiet.warnIf _ rfl).bind fun _ => (Reading.expect _).quiet.bind fun _ => .pure _

theorem quiet_answer (c : Call K) : Quiet (answer c) := by
  cases c with
  | insertText t r =>
      exact (quiet_insertText t r).bind fun _ => .pure _
  | setComposingText t s r =>
      exact (quiet_setComposingText t s r).bind fun _ => .pure _
  | clearComposingText =>
      exact (Quiet.setComposition none).bind fun _ => .pure _
  | selectedRange =>
      exact reading_selectedRange.quiet.bind fun _ => .pure _
  | composingRange =>
      exact reading_composingRange.quiet.bind fun _ => .pure _
  | textInRange r =>
      exact (reading_textInRange r).quiet.bind fun _ => .pure _
  | boundingRect r =>
      exact (quiet_boundingRect r).bind fun _ => .pure _
  | characterIndex p =>
      exact (reading_characterIndex p).quiet.bind fun _ => .pure _

theorem step_asides (c : Call K) (e : Editor K) :
    ∀ x ∈ ((step c).run e).effects, x.isAside = true :=
  quiet_answer c e

end InputMethod
end WindowRelay
