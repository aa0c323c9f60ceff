import WindowRelay.Proofs.Text.Dialogue

/-!
# Reading — which requests of an operation write

Most of what an operation asks of a document only looks at it.  The few requests that write are what
is left of the operation when it is over, so they are told apart here:

* `Effect.writes` — the requests that write, in order;
* `Editing.Reading m` — whatever the document is, `m` makes requests that read and does nothing
  else;
* `Editing.Writes m e a d ws` — `m` performs in the sense of `Editing.Performs`, and `ws` are the
  requests by which it writes.

An operation that only reads gives no warning either, so the warnings of a longer one come from its
other parts.
-/

namespace WindowRelay

/-! ## Effects -/

namespace Effect

variable {K : Type} {es fs : List (Effect K)}

/-- A request that leaves the document as it is. -/
def isRead : Effect K → Bool
  | .access a => !a.isWrite
  | .callback _ | .warning _ => false

def writes (es : List (Effect K)) : List Access :=
  (accesses es).filter Access.isWrite

@[simp]
theorem writes_append (es fs : List (Effect K)) : writes (es ++ fs) = writes es ++ writes fs := by
  simp [writes]

theorem mem_writes {a : Access} (h : .access a ∈ es) (ha : a.isWrite = true) : a ∈ writes es := by
  apply List.mem_filter.2
  exact ⟨List.mem_filterMap.2 ⟨.access a, h, rfl⟩, ha⟩

theorem writes_of_reads (h : ∀ x ∈ es, x.isRead = true) : writes es = [] := by
  apply List.filter_eq_nil_iff.2
  intro a ha
  rcases List.mem_filterMap.1 ha with ⟨x, hx, hxa⟩
  cases x with
  | access b =>
      cases hxa
      simpa [isRead] using h _ hx
  | callback c =>
      cases hxa
  | warning w =>
      cases hxa

theorem warnings_of_reads (h : ∀ x ∈ es, x.isRead = true) : warnings es = [] := by
  apply List.eq_nil_iff_forall_not_mem.2
  intro w hw
  have hread := h _ (mem_warnings.1 hw)
  simp [isRead] at hread

end Effect

/-! ## Operations that only read -/

namespace Editing

variable {K α β : Type}

def Reading (m : Editing K α) : Prop :=
  ∀ e, ∀ x ∈ (m.outcome e).effects, x.isRead = true

namespace Reading

theorem pure (a : α) : Reading (pure a : Editing K α) := by
  intro e x hx
  cases hx

theorem bind {m : Editing K α} {f : α → Editing K β} (hm : Reading m) (hf : ∀ a, Reading (f a)) :
    Reading (m >>= f) := by
  intro e x hx
  rcases mem_effects_bind hx with hx | ⟨a, e', hx⟩
  · exact hm e x hx
  · exact hf a e' x hx

theorem access {q : Access} (h : q.isWrite = false) : Reading (access q : Editing K Unit) := by
  intro e x hx
  cases List.mem_singleton.1 hx
  simp [Effect.isRead, h]

theorem editor : Reading (editor : Editing K (Editor K)) := by
  intro e x hx
  cases hx

theorem expect (o : Option α) : Reading (expect o : Editing K α) := by
  intro e x hx
  cases o <;> cases hx

theorem subtract (n k : Nat) : Reading (subtract n k : Editing K Nat) := by
  intro e x hx
  unfold Editing.subtract at hx
  split at hx <;> cases hx

theorem document : Reading (document : Editing K Document) :=
  editor.bind fun _ => .pure _

theorem length : Reading (length : Editing K Nat) :=
  document.bind fun _ => .pure _

theorem indexAt (p : Point K) : Reading (indexAt p) :=
  editor.bind fun _ => .pure _

theorem slice (r : ByteRange) : Reading (slice r : Editing K Text) :=
  (access (q := .slice r) rfl).bind fun _ => document.bind fun _ => .expect _

theorem floor (n : Nat) : Reading (floor n : Editing K Nat) :=
  (access (q := .floor n) rfl).bind fun _ => document.bind fun _ => .pure _

theorem bounds (r : ByteRange) : Reading (bounds r : Editing K (Rect K × Nat)) :=
  (access (q := .bounds r) rfl).bind fun _ => editor.bind fun _ => .pure _

end Reading

/-! ## What an operation writes -/

structure Writes (m : Editing K α) (e : Editor K) (a : α) (d : Document) (ws : List Access) : Prop
    extends Performs m e a d where
  writes : Effect.writes (m.outcome e).effects = ws

variable {m : Editing K α} {f : α → Editing K β} {e : Editor K} {a : α} {b : β}
  {d d' : Document} {ws ws' : List Access}

theorem Writes.bind (hm : Writes m e a d ws) (hf : Writes (f a) { e with document := d } b d' ws') :
    Writes (m >>= f) e b d' (ws ++ ws') where
  toPerforms := hm.toPerforms.bind hf.toPerforms
  writes := by
    rw [hm.toPerforms.effects_bind, Effect.writes_append, hm.writes, hf.writes]

theorem Performs.reading (h : Performs m e a d) (hm : Reading m) : Writes m e a d [] :=
  ⟨h, Effect.writes_of_reads (hm e)⟩

theorem Writes.pure (a : α) (e : Editor K) : Writes (Pure.pure a : Editing K α) e a e.document [] :=
  (Performs.pure a e).reading (.pure a)

theorem writes_warnIf (condition : Bool) (w : Warning) (e : Editor K) :
    Writes (warnIf condition w) e () e.document [] where
  toPerforms := performs_warnIf condition w e
  writes := by
    cases condition <;> rfl

theorem writes_replace {r : ByteRange} {new t : Text} (hr : e.document.Covers r)
    (ht : Text.replace? r.start r.stop new e.document.text = some t) :
    Writes (replace r new) e () { e.document with text := t } [.replace r new] where
  toPerforms := performs_replace hr ht
  writes := by
    rw [outcome_replace ht]
    rfl

theorem writes_setComposition {r : Option ByteRange}
    (hr : (Access.setComposition r).Legal e.document) :
    Writes (setComposition r) e () { e.document with composition := r } [.setComposition r] :=
  ⟨performs_setComposition hr, rfl⟩

theorem writes_setSelection {r : ByteRange} (hr : e.document.Covers r) :
    Writes (setSelection r) e () { e.document with selection := r } [.setSelection r] :=
  ⟨performs_setSelection hr, rfl⟩

end Editing

/-! ## Calls of the input method -/

namespace InputMethod

open Editing (Reading)

variable {K : Type}

theorem reading_locate (r : TextRange) : Reading (locate r : Editing K Located) :=
  Reading.length.bind fun _ => (Reading.floor _).bind fun _ => (Reading.slice _).bind fun _ =>
    (Reading.subtract _ _).bind fun _ => (Reading.expect _).bind fun _ =>
      (Reading.subtract _ _).bind fun _ => (Reading.subtract _ _).bind fun _ => .pure _

theorem reading_toUnits (r : ByteRange) : Reading (toUnits r : Editing K TextRange) :=
  (Reading.slice _).bind fun _ => (Reading.expect _).bind fun _ => (Reading.expect _).bind fun _ =>
    .pure _

theorem reading_within (r : TextRange) (text : Text) :
    Reading (within r text : Editing K ByteRange) :=
  (Reading.expect _).bind fun _ => .pure _

theorem reading_composingTarget (r : Option TextRange) :
    Reading (composingTarget r : Editing K (ByteRange × ByteRange)) := by
  refine Reading.document.bind fun d => ?_
  cases d.composition with
  | none =>
      cases r with
      | none =>
          exact .pure _
      | some r =>
          exact (reading_locate r).bind fun _ => .pure _
  | some composition =>
      cases r with
      | none =>
          exact .pure _
      | some r =>
          -- The range counts inside the composition, and only its text is read.
          exact (Reading.slice _).bind fun _ => (reading_within _ _).bind fun _ => .pure _

theorem reading_selectedRange : Reading (selectedRange : Editing K TextRange) :=
  Reading.document.bind fun _ => reading_toUnits _

theorem reading_composingRange : Reading (composingRange : Editing K (Option TextRange)) := by
  refine Reading.document.bind fun d => ?_
  cases d.composition with
  | none =>
      exact .pure _
  | some r =>
      exact (reading_toUnits r).bind fun _ => .pure _

theorem reading_textInRange (r : TextRange) :
    Reading (textInRange r : Editing K (Text × TextRange)) :=
  (reading_locate r).bind fun _ => (Reading.expect _).bind fun _ => .pure _

theorem reading_characterIndex (p : Point K) : Reading (characterIndex p) := by
  refine (Reading.indexAt p).bind fun i => ?_
  cases i with
  | none =>
      exact .pure _
  | some i =>
      exact Reading.length.bind fun _ => (Reading.floor _).bind fun _ =>
        (Reading.slice _).bind fun _ => .pure _

end InputMethod
end WindowRelay
