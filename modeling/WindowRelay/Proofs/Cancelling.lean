import WindowRelay.Proofs.InputMethods

/-!
# Cancelling — an empty step of a composition

GTK cancels a composition with an empty preedit, and Win32 with a message that announces neither a
result nor a composing text.  Both come to an empty step of typing, which takes its target out of
the document.  That is the composition, if there is one, and the selection otherwise: text that was
committed long ago.

- `Document.typed_empty`: what an empty step leaves.
- `Typing.types_emptyMessage`: the message is such a step.
- `cancelling_takes_the_target_out`: the documents of both windows after a cancellation.
-/

namespace WindowRelay

/-! ## Empty steps -/

namespace Document

variable {d : Document} {before target after : Text}

theorem typed_empty (h : Text.Spans d.text d.target before target after) (caret : Nat) :
    d.typed (.preedit [] caret) = ⟨before ++ after, .caret d.target.start, none⟩ := by
  have hcaret : Text.byteLength (before ++ ([] : Text).take caret) = d.target.start := by
    rw [List.take_nil, List.append_nil, h.start]
  rw [typed_preedit h, hcaret, composing]
  simp

/-- Nothing is taken out of the text if and only if the target is empty. -/
theorem removed_eq_iff (h : Text.Spans d.text d.target before target after) :
    before ++ after = d.text ↔ d.target.start = d.target.stop := by
  have hempty : d.target.start = d.target.stop ↔ target = [] := by
    rw [h.start, h.stop, Text.byteLength_append, ← Text.byteLength_eq_zero_iff]
    omega
  rw [hempty, h.text]
  constructor
  · intro hsame
    have hlength := congrArg List.length hsame
    simp only [List.length_append] at hlength
    exact List.length_eq_zero_iff.1 (by omega)
  · rintro rfl
    rw [List.append_nil]

end Document

namespace ByteRange

theorem sorted_start_eq_stop_iff (r : ByteRange) :
    r.sorted.start = r.sorted.stop ↔ r.start = r.stop := by
  unfold sorted
  split
  · exact Iff.rfl
  · exact eq_comm

/-- A range without length is a caret. -/
theorem caret_sorted {r : ByteRange} (h : r.start = r.stop) : caret r.sorted.start = r := by
  have hsorted : r.sorted = r := if_pos (Nat.le_of_eq h)
  rw [hsorted]
  exact congrArg (ByteRange.mk r.start) h

end ByteRange

/-! ## The two cancellations -/

namespace Typing

variable {K : Type} [Scalar K]

theorem types_emptyPreedit (cursor : Int) :
    Act.Types Gtk.Window.relay .done (Gtk.Window.step (K := K) (.preeditChanged [] cursor))
      (.preedit [] cursor.toNat) :=
  Act.types_request (fun _ _ => rfl) fun _ => performs_request (.preedit [] cursor.toNat)

omit [Scalar K] in
theorem applyComposition_empty {c : Win32.Composition} (noResult : c.parts.has .result = false)
    (noComposing : c.parts.has .composing = false) :
    Win32.Window.applyComposition (K := K) c = Typing.request (.preedit [] 0) := by
  have hcaret : Text.unitsOfChars 0 [] = 0 := rfl
  simp [Win32.Window.applyComposition, Editing.doWhen, noResult, noComposing, request, hcaret]

theorem types_emptyMessage {c : Win32.Composition} (noResult : c.parts.has .result = false)
    (noComposing : c.parts.has .composing = false) :
    Act.Types Win32.Window.relay (.response (.handled 0))
      (Win32.Window.step (K := K) (.composition c)) (.preedit [] 0) := by
  refine Act.types_request (fun _ _ => rfl) fun e hvalid => ?_
  rw [applyComposition_empty noResult noComposing]
  exact (performs_request (.preedit [] 0) hvalid).map _

end Typing

/-! ## The main statement -/

/-- A cancellation takes the composed text out of the document, and leaves no composition.  When
there is none to begin with it takes the selected text out instead, so the document stays as it is
if and only if nothing is selected. -/
theorem cancelling_takes_the_target_out {K : Type} [Scalar K] (gtk : Gtk.Window K)
    (win32 : Win32.Window K) {d : Document} (valid : d.Valid)
    (hgtk : gtk.relay.document? = some d) (hwin32 : win32.relay.document? = some d) (cursor : Int)
    {c : Win32.Composition} (noResult : c.parts.has .result = false)
    (noComposing : c.parts.has .composing = false) :
    let g := (Gtk.Window.step (.preeditChanged [] cursor)).run gtk
    let w := (Win32.Window.step (.composition c)).run win32
    g.value = .ok .done ∧ w.value = .ok (.response (.handled 0)) ∧
      ∃ before removed after d', g.state.relay.document? = some d' ∧
        w.state.relay.document? = some d' ∧
        d'.text = before ++ after ∧ d'.composition = none ∧
        (∀ r, d.composition = some r →
          Text.Spans d.text r before removed after ∧ d'.selection = .caret r.start) ∧
        (d.composition = none →
          Text.Spans d.text d.selection.sorted before removed after ∧
            d'.selection = .caret d.selection.sorted.start ∧
            (d'.text = d.text ↔ d.selection.start = d.selection.stop) ∧
            (d.selection.start = d.selection.stop → d' = d)) := by
  intro g w
  rcases valid.covers_target.exists_spans with ⟨before, removed, after, hspans⟩
  -- Both cancellations are an empty step, whatever its caret.
  rcases Typing.types_emptyPreedit cursor gtk d hgtk valid with ⟨hgvalue, hg⟩
  rcases Typing.types_emptyMessage noResult noComposing win32 d hwin32 valid with ⟨hwvalue, hw⟩
  rw [Document.typed_empty hspans] at hg hw
  refine ⟨hgvalue, hwvalue, before, removed, after, _, hg, hw, rfl, rfl, fun r hr => ?_,
    fun hnone => ?_⟩
  · have htarget : d.target = r := by
      rw [Document.target, hr, Option.getD_some]
    rw [htarget] at hspans ⊢
    exact ⟨hspans, rfl⟩
  · have htarget : d.target = d.selection.sorted := by
      rw [Document.target, hnone, Option.getD_none]
    have hsame := Document.removed_eq_iff hspans
    rw [htarget, ByteRange.sorted_start_eq_stop_iff] at hsame
    rw [htarget] at hspans ⊢
    refine ⟨hspans, rfl, hsame, fun hcaret => ?_⟩
    rw [hsame.2 hcaret, ByteRange.caret_sorted hcaret, ← hnone]

/-- The composed text goes, and the text beside it stays. -/
theorem cancelling_takes_a_preedit_out :
    let d : Document := ⟨['x', '日', 'y'], .caret 4, some ⟨1, 4⟩⟩
    let listener : Listener Float :=
      { Listener.deaf with editor := some ⟨d, GridLayout.standard.toLayout⟩ }
    let gtk := Gtk.Window.attach (.detached ⟨1⟩) Attributes.standard listener
    let win32 := (Win32.Window.attach (.detached ⟨1⟩) Attributes.standard listener 96).state
    let message : Win32.Composition := ⟨Mask.empty, [], [], none⟩
    let g := (Gtk.Window.step (.preeditChanged [] (-1))).run gtk
    let w := (Win32.Window.step (.composition message)).run win32
    d.Valid ∧ gtk.relay.document? = some d ∧ win32.relay.document? = some d ∧
      message.parts.has .result = false ∧ message.parts.has .composing = false ∧
      ∃ d', g.state.relay.document? = some d' ∧ w.state.relay.document? = some d' ∧
        d'.composition = none ∧ d'.selection = .caret 1 := by
  intro d listener gtk win32 message g w
  have hvalid : d.Valid := by
    refine ⟨by decide, by decide, fun r hr => ?_⟩
    cases hr
    decide
  have hempty (p : Win32.CompositionPart) : message.parts.has p = false := Mask.has_empty p
  rcases cancelling_takes_the_target_out gtk win32 hvalid rfl rfl (-1) (hempty .result)
    (hempty .composing) with ⟨-, -, _, _, _, d', hg, hw, -, hnone, hcomposed, -⟩
  exact ⟨hvalid, rfl, rfl, hempty _, hempty _, d', hg, hw, hnone, (hcomposed ⟨1, 4⟩ rfl).2⟩

/-- With a part of a text selected and nothing composed, a cancellation takes the part out. -/
theorem cancelling_takes_a_selection_out :
    let d : Document := ⟨['a', 'b', 'c'], ⟨1, 2⟩, none⟩
    let listener : Listener Float :=
      { Listener.deaf with editor := some ⟨d, GridLayout.standard.toLayout⟩ }
    let gtk := Gtk.Window.attach (.detached ⟨1⟩) Attributes.standard listener
    let win32 := (Win32.Window.attach (.detached ⟨1⟩) Attributes.standard listener 96).state
    let message : Win32.Composition := ⟨Mask.empty, [], [], none⟩
    let g := (Gtk.Window.step (.preeditChanged [] 0)).run gtk
    let w := (Win32.Window.step (.composition message)).run win32
    d.Valid ∧ gtk.relay.document? = some d ∧ win32.relay.document? = some d ∧
      g.state.relay.document? = some ⟨['a', 'c'], .caret 1, none⟩ ∧
      w.state.relay.document? = some ⟨['a', 'c'], .caret 1, none⟩ := by
  intro d listener gtk win32 message g w
  have hvalid : d.Valid := ⟨by decide, by decide, by simp [d]⟩
  exact ⟨hvalid, rfl, rfl, by decide +kernel, by decide +kernel⟩

end WindowRelay
