import WindowRelay.Proofs.Text.Cutting
import WindowRelay.Text.InputMethod

/-!
# Dialogue — what an operation on an editor says to the document

An operation on an editor is a conversation with the document behind it: every request is made to
the document that the earlier requests left.  This file defines:

* `Access.Dialogue` — a list of requests that are legal one after the other;
* `Editing.Performs m e a d` — run on `e`, the operation `m` meets no fault, answers `a`, leaves
  the document `d`, and does so by a legal dialogue.

`Performs.bind` chains operations, and there is one statement for each request of
`WindowRelay.Editing`.
-/

namespace WindowRelay

/-! ## Requests in order -/

namespace Access

/-- The byte offsets that a request names. -/
def offsets : Access → List Nat
  | .slice r | .bounds r | .replace r _ | .setSelection r => [r.start, r.stop]
  | .floor n => [n]
  | .setComposition none => []
  | .setComposition (some r) => [r.start, r.stop]

inductive Dialogue : Document → List Access → Document → Prop
  | done (d : Document) : Dialogue d [] d
  | next {d d' : Document} {a : Access} {as : List Access} (legal : a.Legal d)
      (rest : Dialogue (a.after d) as d') : Dialogue d (a :: as) d'

theorem offset_le_of_covers {d : Document} {r : ByteRange} (h : d.Covers r) {n : Nat}
    (hn : n ∈ [r.start, r.stop]) : n ≤ d.length := by
  rcases h with ⟨_, hstart, hstop⟩
  simp only [List.mem_cons, List.not_mem_nil, or_false] at hn
  rcases hn with rfl | rfl
  · exact hstart.le_byteLength
  · exact hstop.le_byteLength

theorem Legal.offset_le {d : Document} {a : Access} (h : a.Legal d) {n : Nat}
    (hn : n ∈ a.offsets) : n ≤ d.length := by
  cases a with
  | slice r =>
      exact offset_le_of_covers h hn
  | floor m =>
      obtain rfl : n = m := by simpa [offsets] using hn
      exact h
  | bounds r =>
      exact offset_le_of_covers h hn
  | replace r new =>
      exact offset_le_of_covers h hn
  | setComposition r =>
      cases r with
      | none =>
          simp [offsets] at hn
      | some r =>
          exact offset_le_of_covers h hn
  | setSelection r =>
      exact offset_le_of_covers h hn

namespace Dialogue

variable {d d' d'' : Document} {as bs : List Access}

theorem append (h : Dialogue d as d') (h' : Dialogue d' bs d'') : Dialogue d (as ++ bs) d'' := by
  induction h with
  | done d =>
      exact h'
  | next legal _ ih =>
      exact .next legal (ih h')

theorem eq_foldl (h : Dialogue d as d') : d' = as.foldl Access.after d := by
  induction h with
  | done d =>
      rfl
  | next _ _ ih =>
      exact ih

/-- Each request of a dialogue is legal at its moment. -/
theorem legal_of_split {before after : List Access} {a : Access}
    (h : Dialogue d (before ++ a :: after) d') : a.Legal (before.foldl Access.after d) := by
  -- The requests before the one in question move the document on, each by its effect.
  induction before generalizing d with
  | nil =>
      cases h with
      | next legal _ => exact legal
  | cons b before ih =>
      cases h with
      | next _ rest => exact ih rest

end Dialogue

end Access

/-! ## Operations that keep to a dialogue -/

namespace Editing

variable {K α β : Type}

def outcome (m : Editing K α) (e : Editor K) : Outcome (Effect K) (Editor K) (Except Fault α) :=
  Action.run (ExceptT.run m) e

structure Performs (m : Editing K α) (e : Editor K) (a : α) (d : Document) : Prop where
  value : (m.outcome e).value = .ok a
  state : (m.outcome e).state = { e with document := d }
  dialogue : Access.Dialogue e.document (Effect.accesses (m.outcome e).effects) d

variable {m : Editing K α} {f : α → Editing K β} {e : Editor K} {a : α} {b : β}
  {d d' : Document}

theorem Performs.pure (a : α) (e : Editor K) :
    Performs (Pure.pure a : Editing K α) e a e.document :=
  ⟨rfl, rfl, .done _⟩

theorem outcome_bind {e' : Editor K} {es : List (Effect K)} (h : m.outcome e = ⟨.ok a, e', es⟩) :
    (m >>= f).outcome e =
      ⟨((f a).outcome e').value, ((f a).outcome e').state, es ++ ((f a).outcome e').effects⟩ := by
  unfold outcome at h ⊢
  rw [ExceptT.run_bind, Action.run_bind, h]

theorem outcome_map (g : α → β) (m : Editing K α) (e : Editor K) :
    (g <$> m).outcome e =
      ⟨(m.outcome e).value.map g, (m.outcome e).state, (m.outcome e).effects⟩ := by
  unfold outcome
  rw [ExceptT.run_map, Action.run_map]

/-- A chain of operations has no effects but those of its links, also where a fault cuts it off. -/
theorem mem_effects_bind {x : Effect K} (hx : x ∈ ((m >>= f).outcome e).effects) :
    x ∈ (m.outcome e).effects ∨ ∃ a e', x ∈ ((f a).outcome e').effects := by
  cases hvalue : (m.outcome e).value with
  | ok a =>
      have hrun := outcome_bind (f := f) (e := e) (m := m) (a := a)
        (show m.outcome e = ⟨.ok a, _, _⟩ by rw [← hvalue])
      rw [hrun] at hx
      rcases List.mem_append.1 hx with hx | hx
      · exact .inl hx
      · exact .inr ⟨a, _, hx⟩
  | error fault =>
      -- What was to follow is not begun.
      have hrun : ((m >>= f).outcome e).effects = (m.outcome e).effects := by
        unfold outcome at hvalue ⊢
        rw [ExceptT.run_bind, Action.run_bind, hvalue]
        exact List.append_nil _
      rw [hrun] at hx
      exact .inl hx

theorem Performs.outcome_eq (h : Performs m e a d) :
    m.outcome e = ⟨.ok a, { e with document := d }, (m.outcome e).effects⟩ := by
  rw [← h.value, ← h.state]

theorem Performs.bind (hm : Performs m e a d) (hf : Performs (f a) { e with document := d } b d') :
    Performs (m >>= f) e b d' := by
  -- The second operation starts with the document that the first one leaves.
  have h := outcome_bind (f := f) hm.outcome_eq
  refine ⟨?_, ?_, ?_⟩
  · rw [h]
    exact hf.value
  · rw [h]
    exact hf.state
  · rw [h, Effect.accesses_append]
    exact hm.dialogue.append hf.dialogue

theorem Performs.effects_bind (hm : Performs m e a d) :
    ((m >>= f).outcome e).effects =
      (m.outcome e).effects ++ ((f a).outcome { e with document := d }).effects := by
  rw [outcome_bind hm.outcome_eq]

theorem Performs.map (h : Performs m e a d) (f : α → β) : Performs (f <$> m) e (f a) d := by
  rw [map_eq_pure_bind]
  exact h.bind (.pure _ _)

/-! ## Requests, one by one -/

theorem performs_editor (e : Editor K) : Performs editor e e e.document :=
  ⟨rfl, rfl, .done _⟩

theorem performs_document (e : Editor K) : Performs document e e.document e.document :=
  (performs_editor e).bind (.pure _ _)

theorem performs_length (e : Editor K) : Performs length e e.document.length e.document :=
  (performs_document e).bind (.pure _ _)

theorem performs_indexAt (p : Point K) (e : Editor K) :
    Performs (indexAt p) e (e.layout.indexAt e.document.text p) e.document :=
  (performs_editor e).bind (.pure _ _)

theorem performs_warnIf (condition : Bool) (w : Warning) (e : Editor K) :
    Performs (warnIf condition w) e () e.document := by
  cases condition with
  | false =>
      exact ⟨rfl, rfl, .done _⟩
  | true =>
      exact ⟨rfl, rfl, .done _⟩

theorem performs_expect {o : Option α} (h : o = some a) (e : Editor K) :
    Performs (expect o) e a e.document := by
  subst h
  exact .pure a e

theorem performs_subtract {n k m : Nat} (h : k + m = n) (e : Editor K) :
    Performs (subtract n k) e m e.document := by
  have hle : k ≤ n := by omega
  have hm : n - k = m := by omega
  simpa [subtract, hle, hm] using Performs.pure m e

/-- A request that changes nothing. -/
theorem performs_access {q : Access} (hlegal : q.Legal e.document)
    (hafter : q.after e.document = e.document) : Performs (access q) e () e.document := by
  refine ⟨rfl, rfl, .next hlegal ?_⟩
  rw [hafter]
  exact .done _

theorem performs_slice {r : ByteRange} {t : Text} (hr : e.document.Covers r)
    (ht : Text.slice? r.start r.stop e.document.text = some t) :
    Performs (slice r) e t e.document :=
  (performs_access (q := .slice r) hr rfl).bind
    ((performs_document e).bind (performs_expect ht e))

theorem performs_floor {n : Nat} (hn : n ≤ e.document.length) :
    Performs (floor n) e (Text.floorOffset n e.document.text) e.document :=
  (performs_access (q := .floor n) hn rfl).bind ((performs_document e).bind (.pure _ e))

theorem performs_bounds {r : ByteRange} (hr : e.document.Covers r) :
    Performs (bounds r) e (e.layout.bounds e.document.text r) e.document :=
  (performs_access (q := .bounds r) hr rfl).bind ((performs_editor e).bind (.pure _ e))

theorem outcome_replace {r : ByteRange} {new t : Text}
    (ht : Text.replace? r.start r.stop new e.document.text = some t) :
    (replace r new : Editing K Unit).outcome e =
      ⟨.ok (), { e with document := { e.document with text := t } },
        [.access (.replace r new)]⟩ := by
  have hexpect : (expect (Text.replace? r.start r.stop new e.document.text)).outcome e =
      ⟨.ok t, e, []⟩ := by
    rw [ht]
    rfl
  have haccess : (access (.replace r new)).outcome e =
      ⟨.ok (), e, [.access (.replace r new)]⟩ := rfl
  have hdocument : document.outcome e = ⟨.ok e.document, e, []⟩ := rfl
  rw [replace, outcome_bind haccess, outcome_bind hdocument, outcome_bind hexpect]
  rfl

theorem performs_replace {r : ByteRange} {new t : Text} (hr : e.document.Covers r)
    (ht : Text.replace? r.start r.stop new e.document.text = some t) :
    Performs (replace r new) e () { e.document with text := t } := by
  have hafter : (Access.replace r new).after e.document = { e.document with text := t } := by
    rw [Access.after, ht]
  refine ⟨?_, ?_, ?_⟩
  · rw [outcome_replace ht]
  · rw [outcome_replace ht]
  · rw [outcome_replace ht]
    refine .next hr ?_
    rw [hafter]
    exact .done _

theorem performs_setComposition {r : Option ByteRange}
    (hr : (Access.setComposition r).Legal e.document) :
    Performs (setComposition r) e () { e.document with composition := r } :=
  ⟨rfl, rfl, .next hr (.done _)⟩

theorem performs_setSelection {r : ByteRange} (hr : e.document.Covers r) :
    Performs (setSelection r) e () { e.document with selection := r } :=
  ⟨rfl, rfl, .next hr (.done _)⟩

end Editing

end WindowRelay
