import WindowRelay.AppKit.TextClient
import WindowRelay.Gtk.Window
import WindowRelay.Proofs.Text.Typing
import WindowRelay.Text.GridLayout
import WindowRelay.Win32.Window

/-!
# Input methods — one composition, told by three toolkits

An input method shows a text with a caret in it, again and again, until it commits one.  GTK counts
the characters in front of the caret; Win32 and AppKit count UTF-16 units, and write the rest of the
request in other ways.  The document behind the window is written the same by all of them.

- `Typing.gtk`, `Typing.win32`, `Typing.appKit`: how a toolkit tells of a step.
- `Act.Types`: an operation that writes a step to the document of a relay.
- `toolkits_agree_on_typing`: the documents of the three windows are the same after every step.
-/

namespace WindowRelay

/-! ## The document of a relay -/

namespace Relay

variable {K α : Type} {r : Relay K} {e : Editor K}

/-- The editor that the relay can reach. -/
def editor? (r : Relay K) : Option (Editor K) :=
  if r.dispatcher.attached then r.dispatcher.listener.editor else none

def document? (r : Relay K) : Option Document :=
  r.editor?.map Editor.document

/-- The relay with another editor behind it. -/
def withEditor (r : Relay K) (e : Editor K) : Relay K :=
  let listener := { r.dispatcher.listener with editor := some e }
  { r with arbiter := { r.arbiter with dispatcher := { r.dispatcher with listener := listener } } }

theorem attached_of_editor? (he : r.editor? = some e) : r.dispatcher.attached = true := by
  by_contra hcut
  simp [editor?, hcut] at he

/-- A request comes to the operation on the editor. -/
theorem run_request (name : String) (missing : α) (m : Editing K α) (he : r.editor? = some e) :
    (request name missing m).run r =
      ⟨(m.outcome e).value, r.withEditor (m.outcome e).state, (m.outcome e).effects⟩ := by
  have hline := attached_of_editor? he
  have hedit := Dispatcher.run_edit_some (m := m.run) he
  simp only [dispatcher] at hedit hline
  simp only [request, edit, dispatch, arbitrate, Arbiter.dispatch, Action.run_bind,
    Action.run_within, Action.run_pure, hedit, withEditor, dispatcher, Editing.outcome,
    List.append_nil]

theorem document?_withEditor (he : r.editor? = some e) (e' : Editor K) :
    (r.withEditor e').document? = some e'.document := by
  have hline := attached_of_editor? he
  simp only [dispatcher] at hline
  simp [document?, editor?, withEditor, dispatcher, hline]

theorem request_performs {m : Editing K α} {a : α} {d : Document} (name : String) (missing : α)
    (he : r.editor? = some e) (h : Editing.Performs m e a d) :
    ((request name missing m).run r).value = .ok a ∧
      ((request name missing m).run r).state.document? = some d := by
  rw [run_request name missing m he, h.state, document?_withEditor he]
  exact ⟨h.value, rfl⟩

end Relay

/-! ## Steps of typing -/

namespace Act

variable {K σ ρ : Type} {view : σ → Relay K} {reply : ρ}

/-- On a window with a valid document, `m` answers `reply` and writes the step. -/
def Types (view : σ → Relay K) (reply : ρ) (m : Act K σ (Except Fault ρ)) (typing : Typing) :
    Prop :=
  ∀ s d, (view s).document? = some d → d.Valid →
    (m.run s).value = .ok reply ∧ (view (m.run s).state).document? = some (d.typed typing)

theorem Types.replay {κ : Type} {act : κ → Act K σ (Except Fault ρ)} {call : Typing → κ}
    {steps : List Typing} (h : ∀ typing ∈ steps, Types view reply (act (call typing)) typing)
    {s : σ} {d : Document} (hd : (view s).document? = some d) (hvalid : d.Valid) :
    let run := (Action.replay act (steps.map call)).run s
    (∀ v ∈ run.value, v = .ok reply) ∧
      (view run.state).document? = some (steps.foldl Document.typed d) := by
  induction steps generalizing s d with
  | nil =>
      exact ⟨by simp, hd⟩
  | cons typing steps ih =>
      rcases h typing (List.mem_cons_self ..) s d hd hvalid with ⟨hvalue, hstate⟩
      have hrest : ∀ typing ∈ steps, Types view reply (act (call typing)) typing :=
        fun typing htyping => h typing (List.mem_cons_of_mem _ htyping)
      rcases ih hrest hstate (hvalid.typed typing) with ⟨hvalues, hfinal⟩
      simp only [List.map_cons, Action.run_replay_cons, hvalue]
      refine ⟨?_, hfinal⟩
      intro v hv
      rcases List.mem_cons.1 hv with rfl | hv
      · rfl
      · exact hvalues v hv

/-- A request to the relay whose conversation is that of the step. -/
theorem types_request {α : Type} {m : Editing K α} {name : String} {missing a : α}
    {put : σ → Relay K → σ} {f : α → ρ} {typing : Typing} (hput : ∀ s r, view (put s r) = r)
    (h : ∀ e : Editor K, e.document.Valid →
      Editing.Performs m e a (e.document.typed typing)) :
    Types view (f a)
      (Except.map f <$> Action.within view put (Relay.request name missing m)) typing := by
  intro s d hd hvalid
  rcases Option.map_eq_some_iff.1 hd with ⟨e, he, rfl⟩
  rcases Relay.request_performs name missing he (h e hvalid) with ⟨hvalue, hstate⟩
  simp only [Action.run_map, Action.run_within, hvalue, hput]
  exact ⟨rfl, hstate⟩

end Act

/-! ## The three toolkits -/

namespace Typing

variable {K : Type}

def gtk : Typing → Gtk.Call K
  | .preedit t caret => .preeditChanged t caret
  | .commit t => .commit t

def composition : Typing → Win32.Composition
  | .preedit t caret => .ofComposing t (Text.unitLength (t.take caret))
  | .commit t => .ofResult t

def win32 (typing : Typing) : Win32.Call K :=
  .composition typing.composition

def appKit : Typing → AppKit.Call K
  | .preedit t caret => .setMarkedText t ⟨Text.unitLength (t.take caret), 0⟩ .notFound
  | .commit t => .insertText t .notFound

/-- The caret fits a signed number of 32 bits. -/
def IsShort : Typing → Prop
  | .preedit _ caret => caret ≤ 2147483647
  | .commit _ => True

/-- A unit position in front of so many characters is never the one that means "no range". -/
theorem toRange?_caret {caret : Nat} (short : caret ≤ 2147483647) (t : Text) :
    AppKit.NativeRange.toRange? ⟨Text.unitLength (t.take caret), 0⟩ =
      some ⟨Text.unitsOfChars caret t, 0⟩ := by
  have hunits : Text.unitLength (t.take caret) ≤ 2 * caret := by
    calc
      Text.unitLength (t.take caret) ≤ 2 * (t.take caret).length := Text.unitLength_le _
      _ ≤ 2 * caret := Nat.mul_le_mul_left 2 (List.length_take_le ..)
  have hlocation : AppKit.NativeRange.notFoundLocation = 9223372036854775807 := rfl
  have hne : Text.unitLength (t.take caret) ≠ AppKit.NativeRange.notFoundLocation := by
    omega
  exact if_neg hne

/-- A caret of the text is not past its end, so it is taken as it is told. -/
theorem cursorUnits_ofComposing (t : Text) (caret : Nat) :
    (Win32.Composition.ofComposing t (Text.unitLength (t.take caret))).cursorUnits =
      Text.unitsOfChars caret t := by
  have hinside : Text.unitLength (t.take caret) ≤ Text.unitLength t := by
    calc
      Text.unitLength (t.take caret) ≤ Text.unitLength (t.take caret ++ t.drop caret) := by
        rw [Text.unitLength_append]
        exact Nat.le_add_right _ _
      _ = Text.unitLength t := by rw [List.take_append_drop]
  have htold : (Mask.ofList [Win32.CompositionPart.composing, .cursor]).has .cursor = true := by
    decide
  simp only [Win32.Composition.cursorUnits, Win32.Composition.ofComposing, htold, if_true,
    Option.getD_some, Nat.min_eq_left hinside]
  rfl

/-- Of the three parts of a message only those that it announces are done. -/
theorem applyComposition_composition (typing : Typing) :
    Win32.Window.applyComposition (K := K) typing.composition = typing.request := by
  cases typing with
  | preedit t caret =>
      have hresult :
          (Mask.ofList [Win32.CompositionPart.composing, .cursor]).has .result = false := by
        decide
      have hcomposing :
          (Mask.ofList [Win32.CompositionPart.composing, .cursor]).has .composing = true := by
        decide
      have hcursor := cursorUnits_ofComposing t caret
      simp only [Win32.Composition.ofComposing] at hcursor
      simp [Win32.Window.applyComposition, composition, Win32.Composition.ofComposing,
        Editing.doWhen, hresult, hcomposing, hcursor, request]
  | commit t =>
      have hresult : (Mask.single Win32.CompositionPart.result).has .result = true := by
        decide
      have hcomposing : (Mask.single Win32.CompositionPart.result).has .composing = false := by
        decide
      simp [Win32.Window.applyComposition, composition, Win32.Composition.ofResult,
        Editing.doWhen, hresult, hcomposing, request]

variable [Scalar K]

theorem types_gtk (typing : Typing) :
    Act.Types Gtk.Window.relay .done (Gtk.Window.step (K := K) typing.gtk) typing := by
  cases typing with
  | preedit t caret =>
      exact Act.types_request (fun _ _ => rfl) fun _ => performs_request (.preedit t caret)
  | commit t =>
      exact Act.types_request (fun _ _ => rfl) fun _ => performs_request (.commit t)

theorem types_win32 (typing : Typing) :
    Act.Types Win32.Window.relay (.response (.handled 0)) (Win32.Window.step (K := K) typing.win32)
      typing := by
  refine Act.types_request (fun _ _ => rfl) fun e hvalid => ?_
  rw [applyComposition_composition]
  exact (performs_request typing hvalid).map _

theorem types_appKit {typing : Typing} (short : typing.IsShort) :
    Act.Types AppKit.Window.relay .done (AppKit.Window.step (K := K) typing.appKit) typing := by
  cases typing with
  | preedit t caret =>
      have hcaret := toRange?_caret short t
      refine Act.types_request (a := ()) (fun _ _ => rfl) fun e hvalid => ?_
      rw [hcaret]
      exact performs_request (.preedit t caret) hvalid
  | commit t =>
      exact Act.types_request (fun _ _ => rfl) fun _ => performs_request (.commit t)

end Typing

/-! ## Whole runs -/

/-- After every step of a composition, and after the commit at its end, the three windows hold the
same document.  The composition begins where the first step found its target, and the caret is
behind so many characters of the preedit as the input method counted, or behind all of them. -/
theorem toolkits_agree_on_typing {K : Type} [Scalar K] (gtk : Gtk.Window K)
    (win32 : Win32.Window K) (appKit : AppKit.Window K) {d : Document} (valid : d.Valid)
    (hgtk : gtk.relay.document? = some d) (hwin32 : win32.relay.document? = some d)
    (happKit : appKit.relay.document? = some d) {preedits : List (Text × Nat)}
    (short : ∀ p ∈ preedits, p.2 ≤ 2147483647) (text : Text) (n : Nat) :
    let typing := (Typing.session preedits text).take n
    let g := (Action.replay Gtk.Window.step (typing.map Typing.gtk)).run gtk
    let w := (Action.replay Win32.Window.step (typing.map Typing.win32)).run win32
    let a := (Action.replay AppKit.Window.step (typing.map Typing.appKit)).run appKit
    (∀ v ∈ g.value, v = .ok .done) ∧ (∀ v ∈ w.value, v = .ok (.response (.handled 0))) ∧
      (∀ v ∈ a.value, v = .ok .done) ∧
      ∃ d', g.state.relay.document? = some d' ∧ w.state.relay.document? = some d' ∧
        a.state.relay.document? = some d' ∧
        (∀ t caret, typing.getLast? = some (.preedit t caret) →
          d'.composition =
              (if t = [] then none
                else some ⟨d.target.start, d.target.start + Text.byteLength t⟩) ∧
            d'.selection =
              ByteRange.caret (d.target.start + Text.byteLength (t.take caret))) ∧
        (typing.getLast? = some (.commit text) → Text.isInsertable text = true →
          d'.composition = none ∧
            d'.selection = ByteRange.caret (d.target.start + Text.byteLength text)) := by
  intro typing g w a
  have hshort : ∀ step ∈ typing, step.IsShort := by
    intro step hstep
    rcases List.mem_append.1 (List.mem_of_mem_take hstep) with hpreedit | hcommit
    · rcases List.mem_map.1 hpreedit with ⟨p, hp, rfl⟩
      exact short p hp
    · cases List.mem_singleton.1 hcommit
      trivial
  rcases Act.Types.replay (fun step _ => Typing.types_gtk step) hgtk valid with
    ⟨hgvalues, hg⟩
  rcases Act.Types.replay (fun step _ => Typing.types_win32 step) hwin32 valid with
    ⟨hwvalues, hw⟩
  rcases Act.Types.replay (fun step hstep => Typing.types_appKit (hshort step hstep)) happKit
    valid with ⟨havalues, ha⟩
  refine ⟨hgvalues, hwvalues, havalues, typing.foldl Document.typed d, hg, hw, ha, ?_, ?_⟩
  · intro t caret hlast
    rw [Document.foldl_typed_session valid hlast rfl]
    exact ⟨rfl, rfl⟩
  · intro hlast hinsertable
    rw [Document.foldl_typed_session valid hlast hinsertable, Document.typed, if_pos hinsertable]
    exact ⟨rfl, rfl⟩

/-- A selection of three bytes is composed over.  The second preedit counts its caret past the end
of its text. -/
theorem toolkits_agree_on_a_preedit :
    let d : Document := ⟨['x', '日', 'y'], ⟨4, 1⟩, none⟩
    let listener : Listener Float :=
      { Listener.deaf with editor := some ⟨d, GridLayout.standard.toLayout⟩ }
    let gtk := Gtk.Window.attach (.detached ⟨1⟩) Attributes.standard listener
    let win32 := (Win32.Window.attach (.detached ⟨1⟩) Attributes.standard listener 96).state
    let appKit := AppKit.Window.attach (.detached ⟨1⟩) Attributes.standard listener ⟨100, 100⟩
    let preedits : List (Text × Nat) := [(['😀', 'か'], 1), (['é', '😀'], 7)]
    let typing := (Typing.session preedits ['字']).take 2
    let g := (Action.replay Gtk.Window.step (typing.map Typing.gtk)).run gtk
    let w := (Action.replay Win32.Window.step (typing.map Typing.win32)).run win32
    let a := (Action.replay AppKit.Window.step (typing.map Typing.appKit)).run appKit
    d.Valid ∧ gtk.relay.document? = some d ∧ win32.relay.document? = some d ∧
      appKit.relay.document? = some d ∧ (∀ p ∈ preedits, p.2 ≤ 2147483647) ∧
      ∃ d', g.state.relay.document? = some d' ∧ w.state.relay.document? = some d' ∧
        a.state.relay.document? = some d' ∧ d'.composition = some ⟨1, 7⟩ ∧
        d'.selection = ByteRange.caret 7 := by
  intro d listener gtk win32 appKit preedits typing g w a
  have hvalid : d.Valid := ⟨by decide, by decide, by simp [d]⟩
  have hshort : ∀ p ∈ preedits, p.2 ≤ 2147483647 := by decide
  rcases toolkits_agree_on_typing gtk win32 appKit hvalid rfl rfl rfl hshort ['字'] 2 with
    ⟨-, -, -, d', hg, hw, ha, hpreedit, -⟩
  rcases hpreedit ['é', '😀'] 7 rfl with ⟨hcomposition, hselection⟩
  exact ⟨hvalid, rfl, rfl, rfl, hshort, d', hg, hw, ha, hcomposition, hselection⟩

end WindowRelay
