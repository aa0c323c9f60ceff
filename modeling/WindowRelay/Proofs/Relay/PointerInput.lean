import WindowRelay.Proofs.Relay.Sessions

/-!
# Pointer input — nothing is lost, repeated or reordered

The pointer callbacks of a window's life are compared with the pointer events among its turns.

- `Callback.mouseButton?`, `Callback.motion?`: the two streams of what is told.
- `Relay.Turn.mouseButton?`, `Relay.Turn.motion?`: the two streams of what happens.
- `Relay.beforeClose`: the turns that still count.

Both streams are parts of one, the stream of `PointerReport`s, which is proved equal on both sides.
-/

namespace WindowRelay

/-! ## What is told -/

namespace Callback

variable {K : Type}

def mouseButton? : Callback K → Option (Point K × Bool × MouseButton)
  | .mouseButton p pressed b => some (p, pressed, b)
  | _ => none

/-- Motion, told to the listener or to a drag. -/
def motion? : Callback K → Option (Point K)
  | .mouseMotion p => some p
  | .drag _ (.motion p) => some p
  | _ => none

end Callback

namespace PointerReport

variable {K : Type}

def button? : PointerReport K → Option (Point K × Bool × MouseButton)
  | .motion _ => none
  | .button p pressed b => some (p, pressed, b)

def motion? : PointerReport K → Option (Point K)
  | .motion p => some p
  | .button _ _ _ => none

end PointerReport

theorem Callback.mouseButton?_eq {K : Type} (c : Callback K) :
    c.mouseButton? = c.report?.bind PointerReport.button? := by
  cases c with
  | drag n call => cases call <;> rfl
  | _ => rfl

theorem Callback.motion?_eq {K : Type} (c : Callback K) :
    c.motion? = c.report?.bind PointerReport.motion? := by
  cases c with
  | drag n call => cases call <;> rfl
  | _ => rfl

/-- A callback of motion that is in order is made on the open drag, if there is one. -/
theorem Book.Reads.target?_of_motion {K : Type} {b b' : Book} {c : Callback K} (h : b.Reads c b')
    (hmotion : c.motion?.isSome = true) :
    c.target? = (b.current .drag).map (SessionId.mk .drag) := by
  have hcases : (∃ p, c = .mouseMotion p) ∨ ∃ n p, c = .drag n (.motion p) := by
    cases c with
    | mouseMotion p => exact .inl ⟨p, rfl⟩
    | drag n call =>
        cases call with
        | motion p => exact .inr ⟨n, p, rfl⟩
        | _ => cases hmotion
    | _ => cases hmotion
  -- Motion on the listener is in order only without a drag, motion on a drag only while it is open.
  rcases hcases with ⟨p, rfl⟩ | ⟨n, p, rfl⟩
  · cases h with
    | opening opens fresh vacant => cases opens
    | calling calls lasts isOpen => cases calls
    | ending ends isOpen => cases ends
    | other opens calls motion =>
        rw [motion p rfl]
        rfl
  · cases h with
    | opening opens fresh vacant => cases opens
    | calling calls lasts isOpen =>
        cases calls
        rw [isOpen]
        rfl
    | ending ends isOpen => cases ends
    | other opens calls motion => cases calls

namespace Effect

variable {K : Type} {es fs : List (Effect K)}

def reports (es : List (Effect K)) : List (PointerReport K) :=
  (callbacks es).filterMap Callback.report?

@[simp]
theorem reports_append (es fs : List (Effect K)) :
    reports (es ++ fs) = reports es ++ reports fs := by
  simp [reports]

theorem reports_eq_nil (h : ∀ e ∈ es, e.reportsPointer = false) : reports es = [] := by
  refine List.filterMap_eq_nil_iff.2 fun c hc => ?_
  rcases List.mem_filterMap.1 hc with ⟨e, he, hcall⟩
  have hquiet := h e he
  cases e <;> simp_all [callback?, reportsPointer]

end Effect

/-! ## Routing -/

namespace Arbiter

variable {K : Type} {a b : Arbiter K} {es : List (Effect K)}

theorem Background.reports (h : a.Background es b) : Effect.reports es = [] :=
  Effect.reports_eq_nil fun e he => Effect.reportsPointer_of_isBackground (Play.effects h e he)

theorem reports_notify (c : Callback K) (a : Arbiter K) :
    Effect.reports ((dispatch (Dispatcher.notify c)).run a).effects =
      if a.dispatcher.attached then c.report?.toList else [] := by
  rw [Effect.reports, callbacks_notify]
  cases a.dispatcher.attached <;> cases hreport : c.report? <;> simp [hreport]

theorem attached_settleLifted (a : Arbiter K) :
    (settleLifted.run a).state.dispatcher.attached = a.dispatcher.attached :=
  (plays_settleLifted a).attached fun _ => Effect.cutsLine_of_isBackground

/-- A button is reported once, as long as the line is not cut, whatever is open. -/
theorem reports_pointer_button {e : PointerEvent K} {b : MouseButton} (button : e.button = some b)
    (dragGestures : Bool) (a : Arbiter K) :
    Effect.reports ((pointer e dragGestures).run a).effects =
      if a.dispatcher.attached then [.button e.position e.pressed b] else [] := by
  -- The drag hears of the button after the listener, and reports nothing.
  have hafter (a' : Arbiter K) :
      Effect.reports ((if e.pressed then press e.position b dragGestures
        else letGo e.position b).run a').effects = [] := by
    cases e.pressed with
    | true => exact Background.reports (plays_press e.position b dragGestures a')
    | false => exact Background.reports (plays_letGo e.position b a')
  simp only [pointer, button, Action.run_bind, Effect.reports_append]
  rw [hafter, List.append_nil, reports_notify]
  rfl

/-- A routed event is reported once, as long as the line is not cut. -/
theorem reports_pointer (e : PointerEvent K) (dragGestures : Bool) (ha : a.Coherent) :
    Effect.reports ((pointer e dragGestures).run a).effects =
      if a.dispatcher.attached then [e.report] else [] := by
  cases hbutton : e.button with
  | none =>
      have hreport : e.report = .motion e.position := by
        simp [PointerEvent.report, hbutton]
      simp only [pointer, hbutton, hreport]
      cases hdrag : a.drag.session with
      | some s =>
          rw [run_motion_drag _ hdrag, ha.attached_of_drag hdrag]
          rfl
      | none =>
          rw [run_motion_listener _ hdrag, reports_notify]
          rfl
  | some b =>
      have hreport : e.report = .button e.position e.pressed b := by
        simp [PointerEvent.report, hbutton]
      rw [hreport]
      exact reports_pointer_button hbutton dragGestures a

end Arbiter

namespace Relay

variable {K : Type}

/-! ## What happens -/

namespace Turn

/-- The press or release of a button, unless it is synthetic. -/
def mouseButton? : Turn K → Option (Point K × Bool × MouseButton)
  | .call (.pointer ⟨p, some b, pressed, .primary⟩) => some (p, pressed, b)
  | _ => none

def motion? : Turn K → Option (Point K)
  | .call (.pointer ⟨p, none, _, .primary⟩) => some p
  | _ => none

def report? : Turn K → Option (PointerReport K)
  | .call (.pointer e) => e.primary?.map PointerEvent.report
  | _ => none

def isClose : Turn K → Bool
  | .call .close => true
  | _ => false

theorem mouseButton?_eq (t : Turn K) : t.mouseButton? = t.report?.bind PointerReport.button? := by
  rcases t with (⟨p, _ | b, pressed, _ | _⟩ | _) | _ <;> rfl

theorem motion?_eq (t : Turn K) : t.motion? = t.report?.bind PointerReport.motion? := by
  rcases t with (⟨p, _ | b, pressed, _ | _⟩ | _) | _ <;> rfl

end Turn

/-- The turns before the first close. -/
def beforeClose (turns : List (Turn K)) : List (Turn K) :=
  turns.takeWhile fun t => !t.isClose

/-! ## Turn by turn -/

theorem effects_route (e : PointerEvent K) (r : Relay K) :
    ((route e).run r).effects =
      ((Arbiter.pointer e r.attributes.dragGestures).run r.arbiter).effects := by
  cases hbutton : e.button <;> simp [route, attributesOf, arbitrate, hold, hbutton]

/-- The settling and the complaint report nothing, and the routing finds the arbiter settled. -/
theorem reports_pointer_eq (e : PointerEvent K) (r : Relay K) :
    Effect.reports ((pointer e).run r).effects =
      e.primary?.elim [] fun e' =>
        Effect.reports ((Arbiter.pointer e' r.attributes.dragGestures).run
          (Arbiter.settleLifted.run r.arbiter).state).effects := by
  have hwarn (condition : Bool) :
      Effect.reports (if condition then [.warning .lostDoubleClick] else [] : List (Effect K)) =
        [] := by
    cases condition <;> rfl
  simp only [pointer, arbitrate, Action.run_bind, Action.run_within, Action.run_get,
    Act.run_warnIf, Effect.reports_append,
    Arbiter.Background.reports (Arbiter.plays_settleLifted r.arbiter), hwarn, List.nil_append]
  cases e.primary? with
  | none => rfl
  | some e' => exact congrArg Effect.reports (effects_route e' _)

theorem reports_pointer_call (e : PointerEvent K) (r : Relay K) (h : r.arbiter.Coherent) :
    Effect.reports ((pointer e).run r).effects =
      if r.arbiter.dispatcher.attached then (e.primary?.map PointerEvent.report).toList
      else [] := by
  rw [reports_pointer_eq]
  cases e.primary? with
  | none =>
      cases r.arbiter.dispatcher.attached <;> rfl
  | some e' =>
      have hcoherent : (Arbiter.settleLifted.run r.arbiter).state.Coherent :=
        (Arbiter.plays_settleLifted r.arbiter).coherent h
      have hroute := Arbiter.reports_pointer e' r.attributes.dragGestures hcoherent
      rwa [Arbiter.attached_settleLifted] at hroute

variable [Scalar K]

theorem reports_turn (t : Turn K) (r : Relay K) (h : r.arbiter.Coherent) :
    Effect.reports ((turn t).run r).effects =
      if r.arbiter.dispatcher.attached then t.report?.toList else [] := by
  have hfits := (plays_turn t r).effects
  -- All turns but pointer events are silent about the pointer, on both sides.
  have hsilent (hnone : t.report? = none) (hquiet : ∀ e, t.fits e → e.reportsPointer = false) :
      Effect.reports ((turn t).run r).effects =
        if r.arbiter.dispatcher.attached then t.report?.toList else [] := by
    rw [hnone, Effect.reports_eq_nil fun e he => hquiet e (hfits e he)]
    simp
  rcases t with c | l
  · cases c with
    | pointer e =>
        simpa [turn, step, Turn.report?] using reports_pointer_call e r h
    | close =>
        exact hsilent rfl fun _ he => he
    | _ =>
        exact hsilent rfl fun _ => Effect.reportsPointer_of_isBackground
  · exact hsilent rfl fun _ => Effect.reportsPointer_of_isBackground

omit [Scalar K] in
theorem attached_close (r : Relay K) :
    (close.run r).state.arbiter.dispatcher.attached = false := by
  have hcut (d : Dispatcher K) : (Dispatcher.closed.run d).state.attached = false := by
    cases hattached : d.attached <;> simp [Dispatcher.closed, hattached]
  simp [close, dispatch, arbitrate, Arbiter.dispatch, hcut]

theorem attached_turn (t : Turn K) (r : Relay K) :
    ((turn t).run r).state.arbiter.dispatcher.attached =
      (r.arbiter.dispatcher.attached && !t.isClose) := by
  -- All turns but the close leave the line as it is.
  have hkept (hopen : t.isClose = false) (hline : ∀ e, t.fits e → e.cutsLine = false) :
      ((turn t).run r).state.arbiter.dispatcher.attached =
        (r.arbiter.dispatcher.attached && !t.isClose) := by
    rw [hopen, (plays_turn t r).attached hline]
    simp
  rcases t with c | l
  · cases c with
    | pointer e =>
        exact hkept rfl fun _ he => he
    | close =>
        have hcut := attached_close r
        simpa [turn, step, Turn.isClose] using hcut
    | _ =>
        exact hkept rfl fun _ => Effect.cutsLine_of_isBackground
  · exact hkept rfl fun _ => Effect.cutsLine_of_isBackground

theorem reports_replay (turns : List (Turn K)) (r : Relay K) (h : r.arbiter.Coherent) :
    Effect.reports ((Action.replay turn turns).run r).effects =
      if r.arbiter.dispatcher.attached then (beforeClose turns).filterMap Turn.report? else [] := by
  induction turns generalizing r with
  | nil =>
      simp [beforeClose, Effect.reports, Effect.callbacks]
  | cons t turns ih =>
      have hnext := ih ((turn t).run r).state ((plays_turn t r).coherent h)
      rw [attached_turn] at hnext
      simp only [Action.run_replay_cons, Effect.reports_append, reports_turn t r h, hnext]
      -- Once the line is cut nothing is reported; until then the turns before the close are.
      cases r.arbiter.dispatcher.attached with
      | false =>
          simp
      | true =>
          cases hclose : t.isClose with
          | false =>
              cases hreport : t.report? <;> simp [beforeClose, hclose, hreport]
          | true =>
              have hnone : t.report? = none := by
                rcases t with (_ | _) | _ <;> simp_all [Turn.isClose, Turn.report?]
              simp [beforeClose, hclose, hnone]

/-! ## Whole lives -/

theorem reports_live (handle : WindowHandle) (attributes : Attributes K) (listener : Listener K)
    (turns : List (Turn K)) :
    Effect.reports (live handle attributes listener turns).effects =
      (beforeClose turns).filterMap Turn.report? :=
  reports_replay turns (attach handle attributes listener) (.initial handle.id listener)

/-- Pointer events reach the window in their order, each once: those with a button are told to the
listener, and motion to the drag that is open at the time, or to the listener when none is.
Synthetic events and all that follows the close are told to nobody. -/
theorem pointer_input_is_delivered (handle : WindowHandle) (attributes : Attributes K)
    (listener : Listener K) (turns : List (Turn K)) :
    let log := Effect.callbacks (live handle attributes listener turns).effects
    log.filterMap Callback.report? = (beforeClose turns).filterMap Turn.report? ∧
      log.filterMap Callback.mouseButton? = (beforeClose turns).filterMap Turn.mouseButton? ∧
      log.filterMap Callback.motion? = (beforeClose turns).filterMap Turn.motion? ∧
      ∀ before c after, log = before ++ c :: after → c.motion?.isSome = true →
        c.target? = openDrag? before := by
  intro log
  have hreports : log.filterMap Callback.report? = (beforeClose turns).filterMap Turn.report? :=
    reports_live handle attributes listener turns
  refine ⟨hreports, ?_, ?_, ?_⟩
  · calc log.filterMap Callback.mouseButton?
        = (log.filterMap Callback.report?).filterMap PointerReport.button? := by
          simp only [List.filterMap_filterMap, ← Callback.mouseButton?_eq]
      _ = ((beforeClose turns).filterMap Turn.report?).filterMap PointerReport.button? := by
          rw [hreports]
      _ = (beforeClose turns).filterMap Turn.mouseButton? := by
          simp only [List.filterMap_filterMap, ← Turn.mouseButton?_eq]
  · calc log.filterMap Callback.motion?
        = (log.filterMap Callback.report?).filterMap PointerReport.motion? := by
          simp only [List.filterMap_filterMap, ← Callback.motion?_eq]
      _ = ((beforeClose turns).filterMap Turn.report?).filterMap PointerReport.motion? := by
          rw [hreports]
      _ = (beforeClose turns).filterMap Turn.motion? := by
          simp only [List.filterMap_filterMap, ← Turn.motion?_eq]
  · intro before c after hlog hmotion
    have hfollows : Book.blank.Follows log _ := follows_live handle attributes listener turns
    rw [hlog] at hfollows
    -- The log is in order, so it can be read up to the motion in question.
    rcases hfollows.split with ⟨b, b', hbefore, hreads, -⟩
    rw [(Book.Account.of_follows hbefore).openDrag?_eq]
    exact hreads.target?_of_motion hmotion

end Relay
end WindowRelay
