import WindowRelay.Proofs.Relay.Turns

/-!
# Sessions — no session of a window is lost

Every session that a listener opens is ended exactly once, and the listener hears nothing of it
after that.  This does not depend on the order of the calls, on what the listener answers, or on
whether the toolkit closes the window before it drops the relay.

The argument has two parts.  The moves of the arbiter keep the ledger in balance with the slots,
and they read as entries of a `Book`; what the book says of a log is `Book.Account`.
-/

namespace WindowRelay
namespace Relay

variable {K : Type}

/-- The number of sessions that the ledger of the window counts as open. -/
def outstanding (r : Relay K) : Nat :=
  r.dispatcher.ledger.outstanding

/-! ## The end of a relay -/

/-- The drop of a relay cancels what is open before the line is cut, and says nothing more. -/
theorem play_drop (r : Relay K) :
    ∃ a, r.arbiter.Background (drop.run r).effects a ∧ a.openSlots = 0 ∧
      (drop.run r).state.arbiter = a.cutLine := by
  refine ⟨(Arbiter.cancelAll.run r.arbiter).state, ?_, ?_, rfl⟩
  · have hcancel := Arbiter.plays_cancelAll r.arbiter
    have heffects : (drop.run r).effects = (Arbiter.cancelAll.run r.arbiter).effects := by
      simp [drop, arbitrate, dispatch, Arbiter.dispatch, Dispatcher.drop]
    rw [heffects]
    exact hcancel
  · exact Arbiter.openSlots_eq_zero.2 (Arbiter.run_cancelAll_vacant r.arbiter)

/-- What is left of the arbiter holds no capability that its own drop could leak. -/
theorem drop_leaves_nothing (r : Relay K) :
    ((arbitrate Arbiter.drop).run (drop.run r).state).effects = [] := by
  rcases play_drop r with ⟨a, -, hvacant, hstate⟩
  have hslots := Arbiter.openSlots_eq_zero.1 hvacant
  simp [arbitrate, Arbiter.drop, hstate, Arbiter.cutLine, hslots, Arbiter.giveUp, Arbiter.dispatch,
    Dispatcher.drop]

/-! ## Logs of lives -/

section Logs

variable [Scalar K] (handle : WindowHandle) (attributes : Attributes K) (listener : Listener K)
  (turns : List (Turn K))

theorem coherent_live : (live handle attributes listener turns).state.arbiter.Coherent :=
  (play_live handle attributes listener turns).coherent (.initial handle.id listener)

theorem follows_live :
    Book.blank.Follows (Effect.callbacks (live handle attributes listener turns).effects)
      (live handle attributes listener turns).state.arbiter.book := by
  have hblank : (fresh handle listener).book = Book.blank := Arbiter.book_eq rfl rfl rfl
  rw [← hblank]
  exact (play_live handle attributes listener turns).follows

/-- The ledger counts the sessions that began and did not end. -/
theorem outstanding_live :
    (live handle attributes listener turns).state.outstanding =
      (unfinished (Effect.callbacks (live handle attributes listener turns).effects)).length := by
  have haccount := Book.Account.of_follows (follows_live handle attributes listener turns)
  calc (live handle attributes listener turns).state.outstanding
      = (live handle attributes listener turns).state.arbiter.openSlots :=
        (coherent_live handle attributes listener turns).balanced
    _ = (live handle attributes listener turns).state.arbiter.book.sessions.length :=
        (Arbiter.length_sessions _).symm
    _ = (unfinished (Effect.callbacks
          (live handle attributes listener turns).effects)).length :=
        haccount.unfinished_perm.length_eq.symm

end Logs

/-- Whatever happens to a window, its ledger counts the open sessions and its slots hold them; by
the time its relay is dropped every session has ended exactly once, and nothing leaked or is left
to leak. -/
theorem every_session_ends_once [Scalar K] (handle : WindowHandle) (attributes : Attributes K)
    (listener : Listener K) (turns : List (Turn K)) :
    let life := live handle attributes listener turns
    let last := drop.run life.state
    let log := Effect.callbacks life.effects
    let whole := Effect.callbacks (life.effects ++ last.effects)
    let warnings := Effect.warnings (life.effects ++ last.effects)
    life.state.outstanding = (unfinished log).length ∧
      life.state.outstanding = life.state.arbiter.openSlots ∧
      life.state.outstanding ≤ 2 ∧
      (begun whole).Nodup ∧
      (∀ s ∈ begun whole, EndsOnce s whole) ∧
      last.state.outstanding = 0 ∧
      Warning.capabilityDropped ∉ warnings ∧
      Warning.closedWithOpenCapabilities ∉ warnings ∧
      ((arbitrate Arbiter.drop).run last.state).effects = [] := by
  intro life last log whole warnings
  have hcoherent : life.state.arbiter.Coherent := coherent_live handle attributes listener turns
  have hbalanced : life.state.outstanding = life.state.arbiter.openSlots := hcoherent.balanced
  rcases play_drop life.state with ⟨a, hdrop, hvacant, hstate⟩
  -- The callbacks of the drop continue the book where the life left it.
  have hwhole : Book.blank.Follows whole a.book := by
    have hlife := follows_live handle attributes listener turns
    have happend := hlife.append hdrop.follows
    simpa [whole, Effect.callbacks_append] using happend
  -- No slot is occupied after the drop, so the book has no open session.
  have hsessions : a.book.sessions = [] := by
    rw [← List.length_eq_zero_iff, Arbiter.length_sessions, hvacant]
  have hleak : ∀ w ∈ warnings, w.isLeak = false := by
    intro w hw
    have hplay := (play_live handle attributes listener turns).trans (hdrop.mono fun _ _ => trivial)
    exact hplay.no_leak (.initial handle.id listener) w (Effect.mem_warnings.1 hw)
  refine ⟨outstanding_live handle attributes listener turns, hbalanced, ?_, ?_, ?_, ?_, ?_, ?_,
    drop_leaves_nothing life.state⟩
  · rw [hbalanced]
    exact Arbiter.openSlots_le_two _
  · exact (Book.Account.of_follows hwhole).nodup
  · intro s hs
    -- What began and is not open in the last book has ended once.
    refine Book.Account.endsOnce hwhole hs ?_
    intro hopen
    have hmem : s ∈ a.book.sessions := Book.mem_sessions.2 hopen
    rw [hsessions] at hmem
    cases hmem
  · have hend : last.state.outstanding = a.dispatcher.ledger.outstanding := by
      simp only [outstanding, dispatcher, last, hstate]
      rfl
    rw [hend, (hdrop.coherent hcoherent).balanced, hvacant]
  · intro hw
    cases hleak _ hw
  · intro hw
    cases hleak _ hw

end Relay
end WindowRelay
