import Mathlib.Data.List.Forall2
import WindowRelay.AppKit.TextClient
import WindowRelay.Gtk.Window
import WindowRelay.Proofs.Exact
import WindowRelay.Proofs.Relay.Lanes
import WindowRelay.Win32.Window

/-!
# Toolkits — one pointer, told by three toolkits

What is done with a mouse reaches a window in the words of its toolkit: the buttons have other
numbers, the second press of a double click is told twice by one and by another word in another,
and the positions are counted from other corners and in other units.  The relay behind the window
is told the same by all of them.

- `PhysicalButton`, `Deed`: what is done.
- `Gtk.Renders`, `Win32.Window.Renders`, `AppKit.Window.Renders`: how a toolkit tells of it.
- `Act.Imitates`: a window that does to its relay what a relay does by itself.
- `toolkits_agree_on_the_pointer`: the relays of the three windows do the same.
-/

namespace WindowRelay

/-! ## Deeds -/

inductive PhysicalButton
  | left
  | right
  | middle
  | back
  | forward
  deriving DecidableEq, Repr

def PhysicalButton.button : PhysicalButton → MouseButton
  | .left => .left
  | .right => .right
  | .middle => .middle
  | .back => .back
  | .forward => .forward

/-- What is done with the mouse, at a position in the content area, and with the focus. -/
inductive Deed (K : Type)
  | press (b : PhysicalButton) (p : Point K)
  | release (b : PhysicalButton) (p : Point K)
  | move (p : Point K)
  | leave
  | focus (gained : Bool)
  deriving DecidableEq, Repr

/-- What a relay is told of a deed. -/
def Deed.call {K : Type} : Deed K → Relay.Call K
  | .press b p => .pointer (.press p b.button)
  | .release b p => .pointer (.release p b.button)
  | .move p => .pointer (.motion p)
  | .leave => .pointerLeft
  | .focus gained => .focus gained

/-! ## Imitation -/

namespace Act

variable {K σ τ α β : Type} {I : σ → Prop} {view : σ → τ}

/-- From a state that satisfies `I`, `m` does to what `view` sees what `n` does, and `I` holds
again. -/
def Imitates (I : σ → Prop) (view : σ → τ) (m : Act K σ α) (n : Act K τ β) : Prop :=
  ∀ s, I s → I (m.run s).state ∧ view (m.run s).state = (n.run (view s)).state ∧
    (m.run s).effects = (n.run (view s)).effects

theorem Imitates.replay {κ ι : Type} {act : κ → Act K σ α} {deed : ι → Act K τ β} {ks : List κ}
    {is : List ι} (h : List.Forall₂ (fun i k => Imitates I view (act k) (deed i)) is ks) :
    Imitates I view (Action.replay act ks) (Action.replay deed is) := by
  induction h with
  | nil =>
      intro s hs
      exact ⟨hs, rfl, rfl⟩
  | cons first _ ih =>
      intro s hs
      rcases first s hs with ⟨hs', hview, heffects⟩
      rcases ih _ hs' with ⟨hs'', hview', heffects'⟩
      simp only [Action.run_replay_cons]
      rw [hview] at hview' heffects'
      exact ⟨hs'', hview', by rw [heffects, heffects']⟩

end Act

/-! ## Extra clicks -/

namespace Relay

variable {K : Type} [Scalar K] {r : Relay K}

/-- After a pointer event no scroll gesture waits for momentum. -/
theorem stage_pointer (e : PointerEvent K) (r : Relay K) :
    ((step (.pointer e)).run r).state.arbiter.stage? ≠ some .lifted := by
  have hsettled := Arbiter.stage_settleLifted r.arbiter
  rcases e with ⟨p, button, pressed, activation⟩
  cases activation with
  | synthetic =>
      simpa [step, pointer, arbitrate, PointerEvent.primary?] using hsettled
  | primary =>
      -- The event settles first, and what is routed then stays apart from the scroll gesture.
      have hkept (a : Arbiter K) (e : PointerEvent K) (drags : Bool) :
          ((Arbiter.pointer e drags).run a).state.stage? = a.stage? := by
        have hscroll := Sum.inr.inj (Arbiter.apart_pointer e drags a).2.1
        simp [Arbiter.stage?, hscroll]
      simp only [step, pointer, PointerEvent.primary?, route, attributesOf, arbitrate,
        Action.run_bind, Action.run_pure, Action.run_within, Action.run_get, Action.run_modify,
        Act.run_warnIf, hkept]
      rcases hold_eq ⟨p, button, pressed, .primary⟩
        { r with arbiter := (Arbiter.settleLifted.run r.arbiter).state } with ⟨m, hm⟩
      rw [hm]
      exact hsettled

theorem has_pressed (p : Point K) (b : MouseButton) (r : Relay K) :
    ((step (.pointer (.press p b))).run r).state.pressed.has b = true := by
  have hgrip := congrArg (fun g => g.2.1) (grip_of_button (e := .press p b) rfl rfl r)
  have hpressed : ((step (.pointer (.press p b))).run r).state.pressed = r.pressed.insert b :=
    hgrip
  rw [hpressed, Mask.has_insert_self]

/-- The extra report of a double click, after the press itself. -/
theorem run_pointer_again {b : MouseButton} (p : Point K) (held : r.pressed.has b = true)
    (settled : r.arbiter.stage? ≠ some .lifted) :
    (step (.pointer (PointerEvent.press p b).synthetic)).run r = ⟨.done, r, []⟩ := by
  simp [step, pointer, arbitrate, Arbiter.run_settleLifted_other settled, losesDoubleClick,
    PointerEvent.synthetic, PointerEvent.press, PointerEvent.primary?, held]

end Relay

/-! ## GTK -/

namespace Gtk

variable {K : Type}

/-- The number of a button in the X11 protocol. -/
def numberOf : PhysicalButton → UInt32
  | .left => 1
  | .middle => 2
  | .right => 3
  | .back => 8
  | .forward => 9

/-- The report of a double or triple click, which comes after that of the press. -/
def IsExtraClick (b : PhysicalButton) (e : Event K) : Prop :=
  ∃ type p t, (type = .doublePress ∨ type = .triplePress) ∧ e = .button ⟨type, p, numberOf b, t⟩

inductive Renders : Deed K → List (Event K) → Prop
  | press (b : PhysicalButton) (p : Point K) (t : UInt32) (extra : List (Event K))
      (again : ∀ e ∈ extra, IsExtraClick b e) :
      Renders (.press b p) (.button ⟨.press, p, numberOf b, t⟩ :: extra)
  | release (b : PhysicalButton) (p : Point K) (t : UInt32) :
      Renders (.release b p) [.button ⟨.release, p, numberOf b, t⟩]
  | move (p : Point K) (t : UInt32) : Renders (.move p) [.motion p t]
  | leave : Renders .leave [.leaveNotify]
  | focus (gained : Bool) : Renders (.focus gained) [.focus gained]

theorem buttonOfNumber?_numberOf (b : PhysicalButton) :
    buttonOfNumber? (numberOf b).toNat = some b.button := by
  cases b <;> rfl

namespace Window

variable [Scalar K]

open Act

abbrev tell (events : List (Event K)) : Act K (Window K) (List (Except Fault (Reply K))) :=
  Action.replay (fun e => step (.event e)) events

theorem run_button (type : ButtonEventType) (b : PhysicalButton) (p : Point K) (t : UInt32)
    (w : Window K) :
    let e : ButtonEvent K := ⟨type, p, numberOf b, t⟩
    let next := (Relay.step (.pointer (pointerEvent e b.button))).run w.relay
    (step (.event (.button e))).run w =
      ⟨.ok (.propagation .stop), ⟨next.state⟩, next.effects⟩ := by
  simp [step, handle, button, buttonOfNumber?_numberOf, relaying, Relay.step]

/-- The extra clicks after a press do nothing. -/
theorem run_extra {b : PhysicalButton} {extra : List (Event K)}
    (again : ∀ e ∈ extra, IsExtraClick b e) {w : Window K}
    (held : w.relay.pressed.has b.button = true)
    (settled : w.relay.arbiter.stage? ≠ some .lifted) :
    ((tell extra).run w).state = w ∧ ((tell extra).run w).effects = [] := by
  induction extra with
  | nil =>
      exact ⟨rfl, rfl⟩
  | cons e extra ih =>
      rcases again e (List.mem_cons_self ..) with ⟨type, p, t, htype, rfl⟩
      have hrun : (step (.event (.button ⟨type, p, numberOf b, t⟩))).run w =
          ⟨.ok (.propagation .stop), w, []⟩ := by
        have hagain := Relay.run_pointer_again p held settled
        rcases htype with rfl | rfl <;> simp [run_button, pointerEvent, hagain]
      rcases ih fun e he => again e (List.mem_cons_of_mem _ he) with ⟨hstate, heffects⟩
      simp only [tell, Action.run_replay_cons, hrun]
      exact ⟨hstate, heffects⟩

theorem imitates {d : Deed K} {events : List (Event K)} (h : Renders d events) :
    Imitates (fun _ => True) Window.relay (tell events) (Relay.step d.call) := by
  intro w _
  refine ⟨trivial, ?_⟩
  cases h with
  | press b p t extra again =>
      -- The press leaves the window as the extra clicks need it to come to nothing.
      have hpress := run_button .press b p t w
      have hheld := Relay.has_pressed p b.button w.relay
      have hsettled := Relay.stage_pointer (.press p b.button) w.relay
      simp only [tell, Action.run_replay_cons, hpress]
      rcases run_extra again (w := ⟨_⟩) hheld hsettled with ⟨hstate, heffects⟩
      refine ⟨congrArg Window.relay hstate, ?_⟩
      exact (congrArg (_ ++ ·) heffects).trans (List.append_nil _)
  | release b p t =>
      simp [tell, Action.run_replay_cons, run_button, pointerEvent, Deed.call]
  | move p t =>
      simp [tell, Action.run_replay_cons, step, handle, relaying, Relay.step, Deed.call]
  | leave =>
      simp [tell, Action.run_replay_cons, step, handle, relaying, Relay.step, Deed.call]
  | focus gained =>
      simp [tell, Action.run_replay_cons, step, handle, relaying, Relay.step, Deed.call]

theorem imitates_all {deeds : List (Deed K)} {events : List (List (Event K))}
    (h : List.Forall₂ Renders deeds events) :
    Imitates (fun _ => True) Window.relay (tell events.flatten)
      (Action.replay (fun d => Relay.step d.call) deeds) := by
  induction h with
  | nil =>
      intro w _
      exact ⟨trivial, rfl, rfl⟩
  | cons first _ ih =>
      intro w _
      rcases imitates first w trivial with ⟨-, hrelay, heffects⟩
      rcases ih _ trivial with ⟨-, hrelay', heffects'⟩
      rw [hrelay] at hrelay' heffects'
      simp only [tell, List.flatten_cons, Action.replay_append_state, Action.replay_append_effects,
        Action.run_replay_cons]
      exact ⟨trivial, hrelay', by rw [heffects, heffects']⟩

end Window
end Gtk

/-! ## Win32 -/

namespace Win32

variable {K : Type}

/-- The number of a button message. -/
def numberOf : PhysicalButton → ButtonTransition → UInt32
  | .left, .down => 0x0201
  | .left, .up => 0x0202
  | .left, .doubleClick => 0x0203
  | .right, .down => 0x0204
  | .right, .up => 0x0205
  | .right, .doubleClick => 0x0206
  | .middle, .down => 0x0207
  | .middle, .up => 0x0208
  | .middle, .doubleClick => 0x0209
  | .back, .down | .forward, .down => 0x020B
  | .back, .up | .forward, .up => 0x020C
  | .back, .doubleClick | .forward, .doubleClick => 0x020D

/-- The two extended buttons share their messages, which tell them apart. -/
def extendedIndex? : PhysicalButton → Option UInt16
  | .back => some 1
  | .forward => some 2
  | _ => none

def nativeOf : PhysicalButton → NativeButton
  | .left => .left
  | .right => .right
  | .middle => .middle
  | .back | .forward => .extended

theorem ofNumber?_numberOf (b : PhysicalButton) (t : ButtonTransition) :
    MessageKind.ofNumber? (numberOf b t) = some (.button (nativeOf b) t) := by
  cases b <;> cases t <;> rfl

namespace Window

variable [Scalar K]

open Act

theorem buttonOf?_nativeOf {b : PhysicalButton} {m : Message}
    (h : ∀ i ∈ extendedIndex? b, hiWord m.wParam32 = i) :
    buttonOf? (nativeOf b) m = some b.button := by
  cases b with
  | back => simp [buttonOf?, nativeOf, h 1 rfl, PhysicalButton.button]
  | forward => simp [buttonOf?, nativeOf, h 2 rfl, PhysicalButton.button]
  | _ => rfl

/-- How a window is told of a deed, at its resolution. -/
inductive Renders (w : Window K) : Deed K → Message → Prop
  | press (b : PhysicalButton) (t : ButtonTransition) (m : Message) (pressed : t.isPress = true)
      (number : m.number = numberOf b t) (index : ∀ i ∈ extendedIndex? b, hiWord m.wParam32 = i) :
      Renders w (.press b (w.clientPoint m)) m
  | release (b : PhysicalButton) (m : Message) (number : m.number = numberOf b .up)
      (index : ∀ i ∈ extendedIndex? b, hiWord m.wParam32 = i) :
      Renders w (.release b (w.clientPoint m)) m
  | move (m : Message) (number : m.number = 0x0200) : Renders w (.move (w.clientPoint m)) m
  | leave (m : Message) (number : m.number = 0x02A3) : Renders w .leave m
  | focusGained (m : Message) (number : m.number = 0x0007) : Renders w (.focus true) m
  | focusLost (m : Message) (number : m.number = 0x0008) : Renders w (.focus false) m

theorem clientPoint_congr {v w : Window K} (h : v.scaleFactor = w.scaleFactor) (m : Message) :
    v.clientPoint m = w.clientPoint m := by
  simp [clientPoint, toLogical, h]

theorem imitates {w : Window K} {d : Deed K} {m : Message} (h : w.Renders d m) :
    Imitates (fun v => v.scaleFactor = w.scaleFactor) Window.relay (step (.message m))
      (Relay.step d.call) := by
  intro v hv
  -- No message of a deed changes the resolution, so positions are counted as at the start.
  have hpoint := clientPoint_congr hv m
  cases h with
  | press b t m pressed number index =>
      simp [step, handle, number, ofNumber?_numberOf, handleKind, mouseButton,
        buttonOf?_nativeOf index, relaying, Relay.step, Deed.call, pressed, hpoint, hv]
  | release b m number index =>
      simp [step, handle, number, ofNumber?_numberOf, handleKind, mouseButton,
        buttonOf?_nativeOf index, relaying, Relay.step, Deed.call, ButtonTransition.isPress, hpoint,
        hv]
  | move m number =>
      simp [step, handle, number, MessageKind.ofNumber?, handleKind, handled, relaying, Relay.step,
        Deed.call, hpoint, hv]
  | leave m number =>
      simp [step, handle, number, MessageKind.ofNumber?, handleKind, handled, relaying, Relay.step,
        Deed.call, hv]
  | focusGained m number =>
      simp [step, handle, number, MessageKind.ofNumber?, handleKind, handled, relaying, Relay.step,
        Deed.call, hv]
  | focusLost m number =>
      simp [step, handle, number, MessageKind.ofNumber?, handleKind, handled, relaying, Relay.step,
        Deed.call, hv]

end Window
end Win32

/-! ## AppKit -/

namespace AppKit

variable {K : Type}

def numberOf : PhysicalButton → Int
  | .left => 0
  | .right => 1
  | .middle => 2
  | .back => 3
  | .forward => 4

theorem ofIndex?_numberOf (b : PhysicalButton) :
    (numberOf b).toNat?.bind MouseButton.ofIndex? = some b.button := by
  cases b <;> rfl

def EventType.isDown : EventType → Bool
  | .leftMouseDown | .rightMouseDown | .otherMouseDown => true
  | _ => false

def EventType.isUp : EventType → Bool
  | .leftMouseUp | .rightMouseUp | .otherMouseUp => true
  | _ => false

def EventType.isMotion : EventType → Bool
  | .mouseMoved | .leftMouseDragged | .rightMouseDragged | .otherMouseDragged => true
  | _ => false

namespace Window

variable [Scalar K]

open Act

/-- How a window is told of a deed, with its content height. -/
inductive Renders (w : Window K) : Deed K → Call K → Prop
  | press (b : PhysicalButton) (e : Event K) (down : e.type.isDown = true)
      (number : e.buttonNumber = numberOf b) :
      Renders w (.press b (w.toContent e.location)) (.event e)
  | release (b : PhysicalButton) (e : Event K) (up : e.type.isUp = true)
      (number : e.buttonNumber = numberOf b) :
      Renders w (.release b (w.toContent e.location)) (.event e)
  | move (e : Event K) (moves : e.type.isMotion = true) :
      Renders w (.move (w.toContent e.location)) (.event e)
  | leave (e : Event K) (exits : e.type = .mouseExited) : Renders w .leave (.event e)
  | focusGained : Renders w (.focus true) .didBecomeKey
  | focusLost : Renders w (.focus false) .didResignKey

theorem toContent_congr {v w : Window K} (h : v.contentHeight = w.contentHeight) (p : Point K) :
    v.toContent p = w.toContent p := by
  simp [toContent, h]

theorem imitates {w : Window K} {d : Deed K} {c : Call K} (h : w.Renders d c) :
    Imitates (fun v => v.contentHeight = w.contentHeight) Window.relay (step c)
      (Relay.step d.call) := by
  intro v hv
  cases h with
  | press b e down number =>
      have hpoint := toContent_congr hv e.location
      cases htype : e.type <;> simp [htype, EventType.isDown] at down <;>
        simp [step, handle, htype, mouseButton, number, ofIndex?_numberOf, relaying, Relay.step,
          Deed.call, hpoint, hv]
  | release b e up number =>
      have hpoint := toContent_congr hv e.location
      cases htype : e.type <;> simp [htype, EventType.isUp] at up <;>
        simp [step, handle, htype, mouseButton, number, ofIndex?_numberOf, relaying, Relay.step,
          Deed.call, hpoint, hv]
  | move e moves =>
      have hpoint := toContent_congr hv e.location
      cases htype : e.type <;> simp [htype, EventType.isMotion] at moves <;>
        simp [step, handle, htype, relaying, Relay.step, Deed.call, hpoint, hv]
  | leave e exits =>
      simp [step, handle, exits, relaying, Relay.step, Deed.call, hv]
  | focusGained =>
      simp [step, relaying, Relay.step, Deed.call, hv]
  | focusLost =>
      simp [step, relaying, Relay.step, Deed.call, hv]

end Window
end AppKit
/-! ## Agreement -/

/-- Whatever is done with the mouse and the focus, told in the words of the three toolkits it has the
same effects, and leaves the relays of the three windows equal: in the buttons that are pressed and
in their gestures as in all else.  So it is after each deed. -/
theorem toolkits_agree_on_the_pointer {K : Type} [Scalar K] (handle : WindowHandle)
    (attributes : Attributes K) (listener : Listener K) (dpi : UInt16) (contentSize : Size K)
    {deeds : List (Deed K)} {events : List (List (Gtk.Event K))} {messages : List Win32.Message}
    {calls : List (AppKit.Call K)} (gtk : List.Forall₂ Gtk.Renders deeds events)
    (win32 : List.Forall₂
      (Win32.Window.Renders (Win32.Window.attach handle attributes listener dpi).state)
      deeds messages)
    (appKit : List.Forall₂
      (AppKit.Window.Renders (AppKit.Window.attach handle attributes listener contentSize))
      deeds calls)
    (n : Nat) :
    let g := (Action.replay (fun e => Gtk.Window.step (.event e)) (events.take n).flatten).run
      (Gtk.Window.attach handle attributes listener)
    let w := (Action.replay (fun m => Win32.Window.step (.message m)) (messages.take n)).run
      (Win32.Window.attach handle attributes listener dpi).state
    let a := (Action.replay AppKit.Window.step (calls.take n)).run
      (AppKit.Window.attach handle attributes listener contentSize)
    g.effects = w.effects ∧ w.effects = a.effects ∧ g.state.relay = w.state.relay ∧
      w.state.relay = a.state.relay := by
  intro g w a
  have hrelay : (Win32.Window.attach handle attributes listener dpi).state.relay =
      Relay.attach handle attributes listener := by
    unfold Win32.Window.attach Win32.Window.setDpi
    split <;> rfl
  -- Each of the three is compared with a relay that is told of the deeds themselves.
  rcases Gtk.Window.imitates_all (List.forall₂_take n gtk)
    (Gtk.Window.attach handle attributes listener) trivial with ⟨-, hg, hg'⟩
  have hwin32 := (List.forall₂_take n win32).imp fun _ _ h => Win32.Window.imitates h
  rcases Act.Imitates.replay hwin32 _ rfl with ⟨-, hw, hw'⟩
  have happKit := (List.forall₂_take n appKit).imp fun _ _ h => AppKit.Window.imitates h
  rcases Act.Imitates.replay happKit _ rfl with ⟨-, ha, ha'⟩
  rw [hrelay] at hw hw'
  exact ⟨hg'.trans hw'.symm, hw'.trans ha'.symm, hg.trans hw.symm, hw.trans ha.symm⟩

/-- A double click of the left button at (3, 4), on a Win32 window with two pixels to a point and
an AppKit window that is 100 points high. -/
theorem toolkits_agree_on_a_double_click :
    let p : Point Rat := ⟨3, 4⟩
    let deeds : List (Deed Rat) :=
      [.press .left p, .release .left p, .press .left p, .release .left p]
    let events : List (List (Gtk.Event Rat)) :=
      [[.button ⟨.press, p, 1, 0⟩], [.button ⟨.release, p, 1, 10⟩],
        [.button ⟨.press, p, 1, 20⟩, .button ⟨.doublePress, p, 1, 20⟩],
        [.button ⟨.release, p, 1, 30⟩]]
    let messages : List Win32.Message :=
      [.mouse 0x0201 6 8, .mouse 0x0202 6 8, .mouse 0x0203 6 8, .mouse 0x0202 6 8]
    let calls : List (AppKit.Call Rat) :=
      [.event (.ofType .leftMouseDown ⟨3, 96⟩), .event (.ofType .leftMouseUp ⟨3, 96⟩),
        .event (.ofType .leftMouseDown ⟨3, 96⟩), .event (.ofType .leftMouseUp ⟨3, 96⟩)]
    let gtk := Gtk.Window.attach (.detached ⟨1⟩) (Attributes.standard (K := Rat)) Listener.deaf
    let win32 := (Win32.Window.attach (.detached ⟨1⟩) (Attributes.standard (K := Rat))
      Listener.deaf 192).state
    let appKit := AppKit.Window.attach (.detached ⟨1⟩) (Attributes.standard (K := Rat))
      Listener.deaf ⟨100, 100⟩
    let g := (Action.replay (fun e => Gtk.Window.step (.event e)) (events.take 4).flatten).run gtk
    let w := (Action.replay (fun m => Win32.Window.step (.message m)) (messages.take 4)).run win32
    let a := (Action.replay AppKit.Window.step (calls.take 4)).run appKit
    List.Forall₂ Gtk.Renders deeds events ∧ List.Forall₂ win32.Renders deeds messages ∧
      List.Forall₂ appKit.Renders deeds calls ∧ g.effects = w.effects ∧ w.effects = a.effects ∧
      g.state.relay = w.state.relay ∧ w.state.relay = a.state.relay := by
  intro p deeds events messages calls gtk win32 appKit g w a
  have hgtk : List.Forall₂ Gtk.Renders deeds events :=
    .cons (.press .left p 0 [] (by simp)) <|
      .cons (.release .left p 10) <|
        .cons (.press .left p 20 _ (by simp [Gtk.IsExtraClick, Gtk.numberOf])) <|
          .cons (.release .left p 30) .nil
  have hpixels (number : UInt32) : win32.clientPoint (.mouse number 6 8) = p := by
    -- Which message it is plays no part in the position.
    have h : win32.clientPoint (.mouse 0 6 8) = p := by
      decide +kernel
    exact h
  have hdown (t : Win32.ButtonTransition) (ht : t.isPress = true) :
      win32.Renders (.press .left p) (.mouse (Win32.numberOf .left t) 6 8) := by
    rw [← hpixels (Win32.numberOf .left t)]
    exact .press .left t _ ht rfl nofun
  have hup : win32.Renders (.release .left p) (.mouse 0x0202 6 8) := by
    rw [← hpixels 0x0202]
    exact .release .left _ rfl nofun
  have hwin32 : List.Forall₂ win32.Renders deeds messages :=
    .cons (hdown .down rfl) (.cons hup (.cons (hdown .doubleClick rfl) (.cons hup .nil)))
  have hflip : appKit.toContent ⟨3, 96⟩ = p := by
    decide +kernel
  have hclick : appKit.Renders (.press .left p) (.event (.ofType .leftMouseDown ⟨3, 96⟩)) := by
    rw [← hflip]
    exact .press .left (.ofType .leftMouseDown ⟨3, 96⟩) rfl rfl
  have hlet : appKit.Renders (.release .left p) (.event (.ofType .leftMouseUp ⟨3, 96⟩)) := by
    rw [← hflip]
    exact .release .left (.ofType .leftMouseUp ⟨3, 96⟩) rfl rfl
  have happKit : List.Forall₂ appKit.Renders deeds calls :=
    .cons hclick (.cons hlet (.cons hclick (.cons hlet .nil)))
  exact ⟨hgtk, hwin32, happKit, toolkits_agree_on_the_pointer (.detached ⟨1⟩) Attributes.standard
    Listener.deaf 192 ⟨100, 100⟩ hgtk hwin32 happKit 4⟩

end WindowRelay
