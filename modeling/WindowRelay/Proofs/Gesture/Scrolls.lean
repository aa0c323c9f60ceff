import Mathlib.Computability.RegularExpressions
import WindowRelay.Proofs.Gesture.Course
import WindowRelay.Proofs.Gesture.Protocol

/-!
# Scrolls — what a scroll session hears

A scroll session hears of motion, perhaps of the start of momentum and of motion again, and then
either that no motion follows and of its release, or of its cancelling.  Between the lifting of the
fingers, of which it does not hear, and the start of momentum there is no motion.

- `ScrollBeat`: the calls on a session, as the letters of a regular language.
- `ScrollBeat.ongoing`, `ScrollBeat.complete`: what an open and an ended session has heard.
- `ScrollProgress.next?`: the protocol, and `ScrollProgress.reading`, what leads to each phase.
- `Arbiter.Course.scroll_track`: every course follows the protocol.
-/

namespace WindowRelay

variable {K : Type}

/-! ## The language of a session -/

inductive ScrollBeat
  | motion
  | startMomentum
  | finish
  | release
  | cancel
  deriving DecidableEq, Repr

def ScrollCall.beat : ScrollCall K → ScrollBeat
  | .motion _ _ _ => .motion
  | .startMomentum => .startMomentum
  | .finish => .finish
  | .ended .release => .release
  | .ended .cancel => .cancel

namespace ScrollBeat

open RegularExpression

def motions : RegularExpression ScrollBeat :=
  star (char motion)

/-- The momentum phase. -/
def momentum : RegularExpression ScrollBeat :=
  char startMomentum * motions

/-- What an open session may have heard. -/
def ongoing : RegularExpression ScrollBeat :=
  motions * (1 + momentum)

/-- What a session has heard that is over. -/
def complete : RegularExpression ScrollBeat :=
  ongoing * (char finish * char release + char cancel)

variable {w : List ScrollBeat}

theorem nil_mem_motions : [] ∈ motions.matches' :=
  Language.nil_mem_kstar _

theorem motions_snoc (h : w ∈ motions.matches') : w ++ [motion] ∈ motions.matches' := by
  have hstar : motions.matches' = 1 + motions.matches' * (char motion).matches' :=
    (Language.one_add_kstar_mul_self_eq_kstar _).symm
  rw [hstar, Language.mem_add]
  exact .inr (Language.append_mem_mul h rfl)

theorem startMomentum_mem_momentum : [startMomentum] ∈ momentum.matches' := by
  have hmomentum : [startMomentum] ++ [] ∈ momentum.matches' :=
    Language.append_mem_mul rfl nil_mem_motions
  exact hmomentum

theorem ongoing_of_motions (h : w ∈ motions.matches') : w ∈ ongoing.matches' := by
  have hplain : w ++ [] ∈ ongoing.matches' := Language.append_mem_mul h (.inl rfl)
  rwa [List.append_nil] at hplain

theorem ongoing_of_momentum (h : w ∈ (motions * momentum).matches') : w ∈ ongoing.matches' := by
  rcases Language.mem_mul.1 h with ⟨u, hu, v, hv, rfl⟩
  exact Language.append_mem_mul hu (.inr hv)

theorem complete_of_finish (h : w ∈ (ongoing * char finish).matches') :
    w ++ [release] ∈ complete.matches' := by
  rcases Language.mem_mul.1 h with ⟨u, hu, v, hv, rfl⟩
  rw [List.append_assoc]
  exact Language.append_mem_mul hu (.inl (Language.append_mem_mul hv rfl))

theorem complete_of_cancel (h : w ∈ ongoing.matches') : w ++ [cancel] ∈ complete.matches' :=
  Language.append_mem_mul h (.inr rfl)

end ScrollBeat

/-! ## The protocol -/

inductive ScrollProgress
  | staged (stage : ScrollStage)
  /-- No motion follows, and the release is due. -/
  | finished
  | ended
  deriving DecidableEq, Repr

namespace ScrollProgress

open ScrollBeat RegularExpression

/-- The phase after a call, where the call is allowed. -/
def next? : ScrollProgress → ScrollBeat → Option ScrollProgress
  | .staged .lifted, .motion => none
  | .staged stage, .motion => some (.staged stage)
  | .staged .lifted, .startMomentum => some (.staged .momentum)
  | .staged _, .finish => some .finished
  | .staged _, .cancel => some .ended
  | .finished, .release => some .ended
  | _, _ => none

/-- The fingers lift without a word to the session. -/
def Slips (ph ph' : ScrollProgress) : Prop :=
  ph = .staged .tracking ∧ ph' = .staged .lifted

/-- The words that lead to a phase. -/
def reading : ScrollProgress → RegularExpression ScrollBeat
  | .staged .momentum => motions * momentum
  | .staged _ => motions
  | .finished => ongoing * char .finish
  | .ended => complete

variable {ph ph' : ScrollProgress} {w : List ScrollBeat}

theorem ongoing_of_staged {stage : ScrollStage} (h : w ∈ (reading (.staged stage)).matches') :
    w ∈ ongoing.matches' := by
  cases stage with
  | tracking => exact ongoing_of_motions h
  | lifted => exact ongoing_of_motions h
  | momentum => exact ongoing_of_momentum h

theorem reading_slip (h : Slips ph ph') (hw : w ∈ ph.reading.matches') :
    w ∈ ph'.reading.matches' := by
  rcases h with ⟨rfl, rfl⟩
  exact hw

theorem reading_next {c : ScrollBeat} (h : next? ph c = some ph')
    (hw : w ∈ ph.reading.matches') : w ++ [c] ∈ ph'.reading.matches' := by
  cases ph with
  | staged stage =>
      cases c with
      | motion =>
          cases stage with
          | tracking =>
              cases h
              exact motions_snoc hw
          | lifted =>
              cases h
          | momentum =>
              cases h
              rcases Language.mem_mul.1 hw with ⟨u, hu, v, hv, rfl⟩
              rcases Language.mem_mul.1 hv with ⟨s, hs, t, ht, rfl⟩
              rw [List.append_assoc, List.append_assoc]
              exact Language.append_mem_mul hu (Language.append_mem_mul hs (motions_snoc ht))
      | startMomentum =>
          cases stage with
          | lifted =>
              cases h
              exact Language.append_mem_mul hw startMomentum_mem_momentum
          | _ =>
              cases h
      | finish =>
          have hfinished : ph' = .finished := by
            cases stage <;> cases h <;> rfl
          rw [hfinished]
          exact Language.append_mem_mul (ongoing_of_staged hw) rfl
      | release =>
          cases stage <;> cases h
      | cancel =>
          have hover : ph' = .ended := by
            cases stage <;> cases h <;> rfl
          rw [hover]
          exact complete_of_cancel (ongoing_of_staged hw)
  | finished =>
      cases c with
      | release =>
          cases h
          exact complete_of_finish hw
      | _ =>
          cases h
  | ended =>
      cases h

/-- Whatever a session has heard, it can be completed. -/
theorem prefix_of_reading (hw : w ∈ ph.reading.matches') :
    ∃ u ∈ complete.matches', w <+: u := by
  cases ph with
  | staged stage =>
      exact ⟨_, complete_of_cancel (ongoing_of_staged hw), List.prefix_append _ _⟩
  | finished =>
      exact ⟨_, complete_of_finish hw, List.prefix_append _ _⟩
  | ended =>
      exact ⟨w, hw, List.prefix_rfl⟩

end ScrollProgress

namespace Callback

/-- The number of the scroll session that a callback opens, with the place. -/
def beginScroll? : Callback K → Option (Nat × Point K)
  | .beginScroll n p => some (n, p)
  | _ => none

def scrollBeat? : Callback K → Option (Nat × ScrollBeat)
  | .scroll n call => some (n, call.beat)
  | _ => none

theorem eq_of_beginScroll? {c : Callback K} {n : Nat} {p : Point K}
    (h : c.beginScroll? = some (n, p)) : c = .beginScroll n p := by
  cases c with
  | beginScroll m q =>
      cases h
      rfl
  | _ =>
      cases h

end Callback

def scrollProtocol : Protocol K (Point K) ScrollBeat ScrollProgress where
  opening? := Callback.beginScroll?
  calling? := Callback.scrollBeat?
  opening_apart c x h := by
    cases c <;> first | rfl | cases h
  start _ := .staged .tracking
  next? := ScrollProgress.next?
  slips := ScrollProgress.Slips
  ended := .ended

/-- What a scroll session hears in a log. -/
def scrollBeats (n : Nat) (log : List (Callback K)) : List ScrollBeat :=
  callsOf Callback.scrollBeat? n log

namespace ScrollProgress

variable {ph ph' : ScrollProgress} {w cs : List ScrollBeat}

/-- A path reads words of its first phase on to words of its last. -/
theorem reading_path (h : (scrollProtocol (K := K)).Path ph cs ph')
    (hw : w ∈ ph.reading.matches') : w ++ cs ∈ ph'.reading.matches' := by
  induction h generalizing w with
  | nil ph =>
      rwa [List.append_nil]
  | call step _ ih =>
      have hrest := ih (reading_next step hw)
      rwa [List.append_assoc] at hrest
  | slip slips _ ih =>
      exact ih (reading_slip slips hw)

theorem motionless_next {c : ScrollBeat} (h : next? ph c = some ph')
    (hstill : next? ph .motion = none) (hc : c ≠ .startMomentum) : next? ph' .motion = none := by
  cases ph with
  | staged stage =>
      cases stage with
      | lifted =>
          cases c with
          | startMomentum =>
              exact absurd rfl hc
          | finish =>
              cases h
              rfl
          | cancel =>
              cases h
              rfl
          | _ =>
              cases h
      | _ =>
          cases hstill
  | finished =>
      cases c with
      | release =>
          cases h
          rfl
      | _ =>
          cases h
  | ended =>
      cases h

/-- From a phase that allows no motion, none comes before the start of momentum. -/
theorem momentum_before_motion (h : (scrollProtocol (K := K)).Path ph cs ph')
    (hstill : next? ph .motion = none) {before after : List ScrollBeat}
    (hcs : cs = before ++ .motion :: after) : .startMomentum ∈ before := by
  induction h generalizing before with
  | nil ph =>
      cases before <;> cases hcs
  | @call ph ph' _ c cs step _ ih =>
      cases before with
      | nil =>
          cases hcs
          rw [show next? ph .motion = some ph' from step] at hstill
          cases hstill
      | cons d before =>
          cases hcs
          by_cases hc : c = .startMomentum
          · rw [hc]
            exact List.mem_cons_self
          · have hbefore := ih (motionless_next step hstill hc) rfl
            exact List.mem_cons_of_mem c hbefore
  | slip slips _ _ =>
      -- Only a session that still allows motion is lifted unheard.
      rcases slips with ⟨rfl, -⟩
      cases hstill

end ScrollProgress

/-! ## Moves keep the protocol -/

namespace Arbiter

variable {a b : Arbiter K} {es : List (Effect K)}

def scrollStanding (a : Arbiter K) : Standing ScrollProgress :=
  ⟨a.dispatcher.ledger.opened,
    a.scroll.session.map fun s => (s.capability.session, .staged s.stage)⟩

theorem scrollStanding_none (h : a.scroll.session = none) :
    a.scrollStanding = ⟨a.dispatcher.ledger.opened, none⟩ := by
  simp [scrollStanding, h]

theorem scrollStanding_some {s : ScrollSession} (h : a.scroll.session = some s) :
    a.scrollStanding =
      ⟨a.dispatcher.ledger.opened, some (s.capability.session, .staged s.stage)⟩ := by
  simp [scrollStanding, h]

/-- What does not touch the scroll gesture leaves it where it stands. -/
theorem scroll_track_still (hscroll : b.scroll = a.scroll)
    (later : a.dispatcher.ledger.opened ≤ b.dispatcher.ledger.opened)
    (ignored : (Effect.callbacks es).all scrollProtocol.ignores = true) :
    scrollProtocol.Track a.scrollStanding (Effect.callbacks es) b.scrollStanding := by
  refine .of_ignored ignored later ?_
  simp only [scrollStanding, hscroll]

theorem scroll_ignores_lastWords (a : Arbiter K) :
    (Effect.callbacks a.lastWords).all scrollProtocol.ignores = true := by
  rw [callbacks_lastWords]
  rfl

/-- The callbacks of a move follow the protocol. -/
theorem Move.scroll_track (h : Move a es b) :
    scrollProtocol.Track a.scrollStanding (Effect.callbacks es) b.scrollStanding := by
  cases h with
  | tell c plain attached =>
      refine scroll_track_still rfl le_rfl ?_
      cases c <;> first | rfl | cases plain
  | remark w harmless =>
      exact scroll_track_still rfl le_rfl rfl
  | adapt l =>
      exact scroll_track_still rfl le_rfl rfl
  | edit l es attached asides =>
      refine scroll_track_still rfl le_rfl ?_
      rw [Effect.callbacks_of_asides asides]
      rfl
  | mouseMotion p attached idle =>
      exact scroll_track_still rfl le_rfl rfl
  | beginDrag p button attached idle =>
      exact scroll_track_still rfl (Nat.le_succ _) rfl
  | dragMotion p isOpen =>
      exact scroll_track_still rfl le_rfl rfl
  | mouseDown p button isOpen fresh =>
      exact scroll_track_still rfl le_rfl rfl
  | mouseUp p button isOpen held more =>
      exact scroll_track_still rfl le_rfl rfl
  | lastUp p button isOpen held last =>
      exact scroll_track_still rfl le_rfl rfl
  | cancelDrag isOpen =>
      exact scroll_track_still rfl le_rfl rfl
  | beginScroll p attached idle =>
      rw [scrollStanding_none idle]
      exact .opening rfl le_rfl (.nil _)
  | @scrollMotion s precise d v t isOpen moving =>
      have hmotion : ScrollProgress.next? (.staged s.stage) .motion = some (.staged s.stage) := by
        cases hstage : s.stage with
        | lifted => exact absurd hstage moving
        | _ => rfl
      rw [scrollStanding_some isOpen]
      exact .calling rfl hmotion (.nil _)
  | @lift s isOpen tracking =>
      rw [scrollStanding_some isOpen]
      exact .slip ⟨by rw [tracking], rfl⟩ (.nil _)
  | @momentum s isOpen lifted =>
      have hmomentum : ScrollProgress.next? (.staged s.stage) .startMomentum =
          some (.staged .momentum) := by
        rw [lifted]
        rfl
      rw [scrollStanding_some isOpen]
      exact .calling rfl hmomentum (.nil _)
  | @releaseScroll s isOpen =>
      have hfinish : ScrollProgress.next? (.staged s.stage) .finish = some .finished := by
        cases s.stage <;> rfl
      rw [scrollStanding_some isOpen]
      exact .calling rfl hfinish (.calling rfl rfl (.leave (.nil _)))
  | @cancelScroll s isOpen =>
      have hcancel : ScrollProgress.next? (.staged s.stage) .cancel = some .ended := by
        cases s.stage <;> rfl
      rw [scrollStanding_some isOpen]
      exact .calling rfl hcancel (.leave (.nil _))
  | cut attached noDrag noScroll =>
      exact scroll_track_still rfl le_rfl (scroll_ignores_lastWords a)

theorem Course.scroll_track (h : Course a es b) :
    scrollProtocol.Track a.scrollStanding (Effect.callbacks es) b.scrollStanding := by
  induction h with
  | nil a =>
      exact .nil _
  | move first _ ih =>
      rw [Effect.callbacks_append]
      exact first.scroll_track.append ih
  | @cut a c fs attached _ ih =>
      -- The cut leaves an open scroll gesture as it is: it is called as before.
      have hcut : scrollProtocol.Track a.scrollStanding (Effect.callbacks a.lastWords)
          a.cutLine.scrollStanding :=
        scroll_track_still rfl le_rfl (scroll_ignores_lastWords a)
      rw [Effect.callbacks_append]
      exact hcut.append ih

end Arbiter

/-! ## Logs in order -/

/-- The scroll sessions of a log, of which the one with the number `current` is open. -/
structure ScrollsInOrder (log : List (Callback K)) (current : Option Nat) : Prop where
  opened : ∀ n, current = some n → ∃ p, .beginScroll n p ∈ log
  opened_before : ∀ n before call after, log = before ++ .scroll n call :: after →
    ∃ p, .beginScroll n p ∈ before
  completable : ∀ n p, .beginScroll n p ∈ log →
    ∃ w ∈ ScrollBeat.complete.matches', scrollBeats n log <+: w
  ongoing : ∀ n p, .beginScroll n p ∈ log → current = some n →
    scrollBeats n log ∈ ScrollBeat.ongoing.matches'
  complete : ∀ n p, .beginScroll n p ∈ log → current ≠ some n →
    scrollBeats n log ∈ ScrollBeat.complete.matches'

/-- In the log the session hears of motion only after it heard of momentum. -/
def MotionAfterMomentum (n : Nat) (log : List (Callback K)) : Prop :=
  ∀ before precise d v after, log = before ++ .scroll n (.motion precise d v) :: after →
    .scroll n .startMomentum ∈ before

theorem mem_of_startMomentum {n : Nat} {log : List (Callback K)}
    (h : .startMomentum ∈ scrollBeats n log) : .scroll n .startMomentum ∈ log := by
  rcases List.mem_filterMap.1 h with ⟨c, hc, hbeat⟩
  cases c with
  | scroll m call =>
      have hm : m = n ∧ call.beat = .startMomentum := by
        simpa [Callback.scrollBeat?] using hbeat
      cases call with
      | startMomentum =>
          rw [← hm.1]
          exact hc
      | ended how =>
          cases how <;> cases hm.2
      | _ =>
          cases hm.2
  | _ =>
      cases hbeat

namespace Arbiter

variable {a b c : Arbiter K} {es fs : List (Effect K)}

/-- A course that starts without a scroll gesture keeps the sessions in order. -/
theorem Course.scrolls_in_order (h : Course a es b) (idle : a.scroll.session = none) :
    ScrollsInOrder (Effect.callbacks es) (b.session? .scroll) := by
  have htrack := h.scroll_track
  rw [scrollStanding_none idle] at htrack
  have hbounded : Protocol.Bounded (⟨a.dispatcher.ledger.opened, none⟩ :
      Standing ScrollProgress) := by
    intro m ph hm
    cases hm
  have hreading : ∀ n p, .beginScroll n p ∈ Effect.callbacks es →
      scrollBeats n (Effect.callbacks es) ∈
        ((scrollProtocol (K := K)).phase b.scrollStanding n).reading.matches' := by
    intro n p hbegin
    have hpath := htrack.path_of_opening hbounded hbegin rfl
    exact ScrollProgress.reading_path hpath ScrollBeat.nil_mem_motions
  refine ⟨?_, ?_, ?_, ?_, ?_⟩
  · intro n hopen
    rcases Option.map_eq_some_iff.1 hopen with ⟨s, hs, rfl⟩
    rw [scrollStanding_some hs] at htrack
    rcases htrack.current_opened rfl with ⟨ph, hnone⟩ | ⟨c, hc, p, hopens⟩
    · cases hnone
    · rw [Callback.eq_of_beginScroll? hopens] at hc
      exact ⟨p, hc⟩
  · intro n before call after hsplit
    rw [hsplit] at htrack
    rcases htrack.opening_before_calling rfl with ⟨c, hc, p, hopens⟩
    rw [Callback.eq_of_beginScroll? hopens] at hc
    exact ⟨p, hc⟩
  · intro n p hbegin
    exact ScrollProgress.prefix_of_reading (hreading n p hbegin)
  · intro n p hbegin hopen
    rcases Option.map_eq_some_iff.1 hopen with ⟨s, hs, rfl⟩
    have hread := hreading _ p hbegin
    rw [scrollStanding_some hs, Protocol.phase_self] at hread
    exact ScrollProgress.ongoing_of_staged hread
  · intro n p hbegin hclosed
    have hread := hreading n p hbegin
    cases hs : b.scroll.session with
    | none =>
        rw [scrollStanding_none hs] at hread
        exact hread
    | some s =>
        have hne : s.capability.session ≠ n := by
          intro hn
          exact hclosed (by simp [session?, hs, hn])
        rw [scrollStanding_some hs, Protocol.phase_ne hne] at hread
        exact hread

/-- From the lifting of the fingers on there is no motion before momentum. -/
theorem Course.motion_after_momentum {s : ScrollSession} (h : Course a es b)
    (idle : a.scroll.session = none) (hs : b.scroll.session = some s) (lifted : s.stage = .lifted)
    (h' : Course b fs c) :
    MotionAfterMomentum s.capability.session (Effect.callbacks fs) := by
  have hbounded : Protocol.Bounded b.scrollStanding := by
    refine h.scroll_track.bounded fun m ph hm => ?_
    rw [scrollStanding_none idle] at hm
    cases hm
  -- The session was numbered before, so all its calls from here on are a path from `lifted`.
  have hn : s.capability.session < b.scrollStanding.next := by
    refine hbounded _ (.staged s.stage) ?_
    rw [scrollStanding_some hs]
  have hpath := h'.scroll_track.path hn
  rw [scrollStanding_some hs, Protocol.phase_self, lifted] at hpath
  intro before precise d v after hlog
  have hbeats : scrollBeats s.capability.session (Effect.callbacks fs) =
      scrollBeats s.capability.session before ++
        .motion :: scrollBeats s.capability.session after := by
    rw [scrollBeats, hlog, callsOf_append, callsOf_cons_self rfl]
    rfl
  exact mem_of_startMomentum (ScrollProgress.momentum_before_motion hpath rfl hbeats)

/-- The fingers are lifted from a session that is tracked, and leave it lifted. -/
theorem lifted_of_moved (h : (liftScroll.run a).value = true) :
    ∃ s, a.scroll.session = some s ∧
      (liftScroll.run a).state.scroll.session = some { s with stage := .lifted } := by
  by_cases htracking : a.stage? = some .tracking
  · rcases Option.map_eq_some_iff.1 htracking with ⟨s, hs, hstage⟩
    refine ⟨s, hs, ?_⟩
    rw [run_liftScroll_tracking hs hstage]
    rfl
  · simp [run_liftScroll_other htracking] at h

end Arbiter

end WindowRelay
