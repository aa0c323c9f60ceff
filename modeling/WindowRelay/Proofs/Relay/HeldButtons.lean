import WindowRelay.Proofs.Relay.ButtonNews
import WindowRelay.Win32.Window

/-!
# Held buttons — what the set of pressed buttons stands for

A relay keeps the set of the buttons whose press it handed on and whose release it did not.  It goes
by what happens, not by what is told.  The two agree as long as the line to the listener is there;
after the close a press is kept that nobody hears of, and a Win32 window asks for the mouse capture.

- `Relay.told`: the news in what is told.
- `Relay.pressed_live`, `Relay.told_live`: the set by what happens, and what is told of it.
-/

namespace WindowRelay
namespace Relay

variable {K : Type} [Scalar K]

/-! ## What is told -/

/-- The presses and releases that a turn tells the listener of.  That the buttons are forgotten is
news whether or not there is a listener. -/
def toldBy (t : Turn K) (r : Relay K) : List ButtonNews :=
  ((Effect.callbacks ((turn t).run r).effects).filterMap Callback.mouseButton?).map
      (fun x => .button x.2.1 x.2.2) ++
    if t.forgets then [.forgotten] else []

def told : List (Turn K) → Relay K → List ButtonNews
  | [], _ => []
  | t :: turns, r => toldBy t r ++ told turns ((turn t).run r).state

theorem told_snoc (turns : List (Turn K)) (t : Turn K) (r : Relay K) :
    told (turns ++ [t]) r = told turns r ++ toldBy t ((Action.replay turn turns).run r).state := by
  induction turns generalizing r with
  | nil =>
      simp [told]
  | cons t' turns ih =>
      simp [told, ih, Action.run_replay_cons]

theorem toldBy_eq (t : Turn K) (r : Relay K) (h : r.arbiter.Coherent) :
    toldBy t r =
      if r.arbiter.dispatcher.attached then t.news?.toList
      else if t.forgets then [.forgotten] else [] := by
  -- The buttons told of are those in the reports, and what is reported is what happened.
  have hbuttons : (Effect.callbacks ((turn t).run r).effects).filterMap Callback.mouseButton? =
      if r.arbiter.dispatcher.attached then t.mouseButton?.toList else [] := by
    calc (Effect.callbacks ((turn t).run r).effects).filterMap Callback.mouseButton?
        = (Effect.reports ((turn t).run r).effects).filterMap PointerReport.button? := by
          simp only [Effect.reports, List.filterMap_filterMap, ← Callback.mouseButton?_eq]
      _ = if r.arbiter.dispatcher.attached then t.mouseButton?.toList else [] := by
          rw [reports_turn t r h, Turn.mouseButton?_eq]
          cases r.arbiter.dispatcher.attached with
          | false => rfl
          | true =>
              cases t.report? with
              | none => rfl
              | some report => cases hbutton : report.button? <;> simp [hbutton]
  have hquiet : t.forgets = true → t.mouseButton? = none := by
    intro hforgets
    rcases t with (_ | _) | _ <;> first | rfl | cases hforgets
  rw [toldBy, hbuttons, Turn.news?]
  cases hforgets : t.forgets with
  | false => cases r.arbiter.dispatcher.attached <;> cases t.mouseButton? <;> simp
  | true => simp [hquiet hforgets]

/-! ## Whole lives -/

section Lives

variable (handle : WindowHandle) (attributes : Attributes K) (listener : Listener K)
  (turns : List (Turn K))

theorem pressed_live (n : Fin 32) :
    (live handle attributes listener turns).state.pressed.bits.getLsbD n = true ↔
      IsDown n (turns.filterMap Turn.news?) := by
  rw [live, pressed_replay]
  exact getLsbD_foldl _ n

/-- As long as the line is there, what is told is what happens.  Once it is cut, all buttons are up
by what is told. -/
theorem told_live :
    let r := (live handle attributes listener turns).state
    let heard := told turns (attach handle attributes listener)
    (r.dispatcher.attached = true → heard = turns.filterMap Turn.news?) ∧
      (r.dispatcher.attached = false → ∀ n, ¬ IsDown n heard) := by
  induction turns using List.reverseRecOn with
  | nil =>
      exact ⟨fun _ => rfl, fun h => by cases h⟩
  | append_singleton turns t ih =>
      intro r heard
      have hr : r = ((turn t).run (live handle attributes listener turns).state).state := by
        simp [r, live, Action.replay_append_state, Action.run_replay_cons]
      have hline : r.dispatcher.attached =
          ((live handle attributes listener turns).state.dispatcher.attached && !t.isClose) := by
        rw [hr]
        exact attached_turn t _
      have hheard : heard = told turns (attach handle attributes listener) ++
          toldBy t (live handle attributes listener turns).state :=
        told_snoc turns t _
      rw [toldBy_eq t _ (coherent_live handle attributes listener turns)] at hheard
      cases hbefore : (live handle attributes listener turns).state.dispatcher.attached with
      | true =>
          -- The line was there for all turns before, and a close is news itself.
          have hsame := ih.1 hbefore
          have hboth : heard = (turns ++ [t]).filterMap Turn.news? := by
            rw [hheard, hsame]
            cases hnews : t.news? <;> simp_all [dispatcher]
          refine ⟨fun _ => hboth, fun hcut n => ?_⟩
          have hclose : t.isClose = true := by
            simpa [hline, hbefore] using hcut
          have hforgotten : t.news? = some .forgotten := by
            rcases t with (_ | _) | _ <;> first | rfl | cases hclose
          rw [hboth, List.filterMap_append, List.filterMap_cons_some hforgotten]
          exact not_isDown_of_forgotten n _
      | false =>
          refine ⟨fun h => ?_, fun _ n => ?_⟩
          · simp [hline, hbefore] at h
          · have hquiet := ih.2 hbefore n
            cases hforgets : t.forgets with
            | true =>
                have hend : heard = told turns (attach handle attributes listener) ++
                    [.forgotten] := by
                  simp_all [dispatcher]
                rw [hend]
                exact not_isDown_of_forgotten n _
            | false =>
                have hend : heard = told turns (attach handle attributes listener) := by
                  simp_all [dispatcher]
                rwa [hend]

end Lives

/-- The set of a window has the buttons that are down by all that happened, synthetic events apart.
That is what its listener was told as long as the line is there.  After the close the listener hears
of no button, while the set goes on from nothing: it is what it was told only if it is empty, and a
Win32 window wants the mouse capture for a button that went down after the close. -/
theorem pressed_buttons_go_by_what_happens (handle : WindowHandle) (attributes : Attributes K)
    (listener : Listener K) (turns : List (Turn K)) :
    let r := (live handle attributes listener turns).state
    let happened := turns.filterMap Turn.news?
    let heard := told turns (attach handle attributes listener)
    (∀ n : Fin 32, r.pressed.bits.getLsbD n = true ↔ IsDown n happened) ∧
      (r.dispatcher.attached = true →
        ∀ n : Fin 32, r.pressed.bits.getLsbD n = true ↔ IsDown n heard) ∧
      (r.dispatcher.attached = false → ∀ n, ¬ IsDown n heard) ∧
      ((∀ n : Fin 32, r.pressed.bits.getLsbD n = true ↔ IsDown n heard) ↔
        r.dispatcher.attached = true ∨ r.pressed.isEmpty = true) ∧
      (∀ before after, turns = before ++ .call .close :: after →
        ∀ n : Fin 32, r.pressed.bits.getLsbD n = true ↔ IsDown n (after.filterMap Turn.news?)) ∧
      ∀ w : Win32.Window K, w.relay = r → (w.wantsCapture = true ↔ ∃ n, IsDown n happened) := by
  intro r happened heard
  have hpressed : ∀ n : Fin 32, r.pressed.bits.getLsbD n = true ↔ IsDown n happened :=
    pressed_live handle attributes listener turns
  have htold : (r.dispatcher.attached = true → heard = happened) ∧
      (r.dispatcher.attached = false → ∀ n, ¬ IsDown n heard) :=
    told_live handle attributes listener turns
  have hexact : r.dispatcher.attached = true →
      ∀ n : Fin 32, r.pressed.bits.getLsbD n = true ↔ IsDown n heard := by
    intro hline n
    rw [hpressed n, htold.1 hline]
  refine ⟨hpressed, hexact, htold.2, ?_, ?_, ?_⟩
  · cases hline : r.dispatcher.attached with
    | true =>
        simpa using hexact hline
    | false =>
        have hup := htold.2 hline
        have hiff : (∀ n : Fin 32, r.pressed.bits.getLsbD n = true ↔ IsDown n heard) ↔
            ∀ n : Fin 32, r.pressed.bits.getLsbD n = false := by
          refine forall_congr' fun n => ?_
          rw [iff_false_right (hup n), Bool.not_eq_true]
        rw [hiff, ← Mask.eq_empty_iff_bits, ← Mask.isEmpty_iff]
        simp
  · intro before after hturns n
    have hclose : (Turn.call Call.close : Turn K).news? = some .forgotten := rfl
    have hhappened : happened =
        before.filterMap Turn.news? ++ .forgotten :: after.filterMap Turn.news? := by
      simp only [happened, hturns, List.filterMap_append, List.filterMap_cons_some hclose]
    rw [hpressed n, hhappened]
    exact since_append trivial not_false
  · intro w hw
    have hwants : w.wantsCapture = true ↔ ¬ r.pressed.isEmpty = true := by
      simp [Win32.Window.wantsCapture, hw]
    rw [hwants, Mask.isEmpty_iff, Mask.eq_empty_iff_bits]
    simp only [← hpressed, not_forall, Bool.not_eq_false]

end Relay

/-- After the close a press is told to nobody, and kept: the window wants the mouse capture. -/
theorem Win32.Window.press_after_the_close_wants_capture :
    let w : Window Float := unscaled (.detached ⟨1⟩) Attributes.standard Listener.deaf
    let run := (Action.replay step
      [.message ⟨0x0002, 0, 0, 0⟩, .message ⟨0x0201, 0, 0, 0⟩]).run w
    run.effects = [.callback .closed] ∧ run.state.relay.dispatcher.attached = false ∧
      run.state.relay.pressed.has .left = true ∧ run.state.wantsCapture = true := by
  intro w run
  have hpressed : run.state.relay.pressed = Mask.empty.insert .left := rfl
  refine ⟨rfl, rfl, ?_, ?_⟩
  · rw [hpressed, Mask.has_insert_self]
  · rw [wantsCapture, hpressed, Mask.insert_ne_empty]
    rfl

end WindowRelay
