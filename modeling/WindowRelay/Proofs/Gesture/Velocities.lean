import WindowRelay.Proofs.Gesture.Buttons
import WindowRelay.Proofs.Gesture.Naming
import WindowRelay.Proofs.Seconds

/-!
# Velocities — how fast a scroll gesture moves

Every motion of a scroll gesture is told with a velocity, for which the arbiter remembers one time
of the open session.  That time is the latest of all motions that the session was told of, whatever
the order of their times, and a new session starts without one.

- `Time.Latest`: the latest of some times.
- `Measures`: the velocity of a motion, by the times of the motions before.
- `Arbiter.deliveries`: the motions that a run of calls delivers, and when.
- `Arbiter.Recalls`: what the open session remembers of them.
- `Arbiter.velocities_follow_the_session`: the velocity of any motion in any run.
-/

namespace WindowRelay

/-! ## Latest times -/

/-- The latest of some times, if there are any. -/
inductive Time.Latest : List Time → Option Time → Prop
  | none : Latest [] none
  | some {ts : List Time} {m : Time} (mem : m ∈ ts) (bound : ∀ u ∈ ts, u ≤ m) :
      Latest ts (some m)

/-- The velocity of a motion at the time `t`, when motions at the times `earlier` came before it:
the distance by the seconds since the latest of them, if that is in the past, and zero otherwise. -/
inductive Measures {K : Type} [Scalar K] (d : Delta K) (t : Time) (earlier : List Time) :
    Delta K → Prop
  | first (none : earlier = []) : Measures d t earlier Point.zero
  | ahead {m : Time} (mem : m ∈ earlier) (latest : ∀ u ∈ earlier, u ≤ m) (past : m < t) :
      Measures d t earlier ⟨d.x / (t - m).toSeconds, d.y / (t - m).toSeconds⟩
  | behind {m : Time} (mem : m ∈ earlier) (latest : ∀ u ∈ earlier, u ≤ m) (notPast : t ≤ m) :
      Measures d t earlier Point.zero

namespace ScrollSession

variable {s : ScrollSession} {ts : List Time}

theorem latest_moved (h : Time.Latest ts s.lastMotion) (t : Time) :
    Time.Latest (ts ++ [t]) (s.moved t).lastMotion := by
  unfold moved
  cases hlast : s.lastMotion with
  | none =>
      rw [hlast] at h
      cases h
      exact .some (List.mem_singleton_self t) fun u hu => by
        rw [List.mem_singleton.1 hu]
        exact Nat.le_refl _
  | some last =>
      rw [hlast] at h
      cases h with
      | some mem bound =>
          have hmem : max last t ∈ ts ++ [t] := by
            rcases Time.max_eq_or last t with hmax | hmax
            · rw [hmax]
              exact List.mem_append_left _ mem
            · rw [hmax]
              exact List.mem_append_right _ (List.mem_singleton_self t)
          refine .some hmem fun u hu => ?_
          rcases List.mem_append.1 hu with hu | hu
          · exact Time.le_trans (bound u hu) (Time.le_max_left last t)
          · rw [List.mem_singleton.1 hu]
            exact Time.le_max_right last t

theorem measures_velocity {K : Type} [Scalar K] (h : Time.Latest ts s.lastMotion) (d : Delta K)
    (t : Time) : Measures d t ts (s.velocity d t) := by
  unfold velocity
  cases hlast : s.lastMotion with
  | none =>
      rw [hlast] at h
      cases h
      exact .first rfl
  | some last =>
      rw [hlast] at h
      cases h with
      | some mem bound =>
          by_cases hpast : last < t
          · simp only [hpast, if_true]
            exact .ahead mem bound hpast
          · simp only [hpast, if_false]
            exact .behind mem bound (Nat.not_lt.1 hpast)

end ScrollSession

/-! ## Deliveries -/

/-- The session, the kind, the distance and the velocity of a motion that is told. -/
def Callback.scrollMotion? {K : Type} : Callback K → Option (Nat × Bool × Delta K × Delta K)
  | .scroll n (.motion precise d v) => some (n, precise, d, v)
  | _ => none

/-- A motion that a session was told of, and the time it was told for. -/
structure Delivery (K : Type) where
  session : Nat
  time : Time
  precise : Bool
  delta : Delta K
  velocity : Delta K

namespace Delivery

variable {K : Type}

def told (x : Delivery K) : Nat × Bool × Delta K × Delta K :=
  (x.session, x.precise, x.delta, x.velocity)

/-- The times of what a session was told of. -/
def times (n : Nat) (log : List (Delivery K)) : List Time :=
  (log.filter fun x => x.session = n).map time

theorem times_concat (past : List (Delivery K)) (x : Delivery K) :
    times x.session (past ++ [x]) = times x.session past ++ [x.time] := by
  simp [times]

end Delivery

namespace Arbiter

variable {K : Type} {a b : Arbiter K} {es : List (Effect K)} {past : List (Delivery K)}

/-- What is delivered of a call, which is told to its session at the time of the call. -/
def Call.deliveries (c : Call K) (told : List (Callback K)) : List (Delivery K) :=
  match c with
  | .scrollMotion _ _ t =>
      (told.filterMap Callback.scrollMotion?).map fun x => ⟨x.1, t, x.2.1, x.2.2.1, x.2.2.2⟩
  | _ => []

def deliveries [Scalar K] : List (Call K) → Arbiter K → List (Delivery K)
  | [], _ => []
  | c :: calls, a =>
      c.deliveries (Effect.callbacks ((step c).run a).effects) ++
        deliveries calls ((step c).run a).state

/-- No call but that of a motion tells of one. -/
theorem still_step [Scalar K] {c : Call K} (h : ∀ precise d t, c ≠ .scrollMotion precise d t)
    (a : Arbiter K) : ∀ x ∈ Effect.callbacks ((step c).run a).effects, x.scrollMotion? = none := by
  intro x hx
  have hutters : c.Utters (.callback x) := utters_step c a _ (Effect.mem_callbacks.1 hx)
  cases hutters with
  | pointer utters => cases utters <;> rfl
  | motion n precise d v t => exact absurd rfl (h precise d t)
  | _ => rfl

theorem Call.deliveries_eq_nil {c : Call K} (h : ∀ precise d t, c ≠ .scrollMotion precise d t)
    (told : List (Callback K)) : c.deliveries told = [] := by
  cases c with
  | scrollMotion precise d t => exact absurd rfl (h precise d t)
  | _ => rfl

/-- The motions that are told are the deliveries, in their order. -/
theorem told_deliveries [Scalar K] (calls : List (Call K)) (a : Arbiter K) :
    (Effect.callbacks ((Action.replay step calls).run a).effects).filterMap
        Callback.scrollMotion? = (deliveries calls a).map Delivery.told := by
  induction calls generalizing a with
  | nil =>
      rfl
  | cons c calls ih =>
      have hfirst : (Effect.callbacks ((step c).run a).effects).filterMap Callback.scrollMotion? =
          (c.deliveries (Effect.callbacks ((step c).run a).effects)).map Delivery.told := by
        by_cases hmotion : ∃ precise d t, c = .scrollMotion precise d t
        · rcases hmotion with ⟨precise, d, t, rfl⟩
          simp [Call.deliveries, Delivery.told, Function.comp_def]
        · have hother : ∀ precise d t, c ≠ .scrollMotion precise d t := by
            simpa using hmotion
          rw [Call.deliveries_eq_nil hother, List.filterMap_eq_nil_iff.2 (still_step hother a)]
          rfl
      rw [Action.run_replay_cons, Effect.callbacks_append, List.filterMap_append, hfirst, ih,
        deliveries, List.map_append]

/-! ## What is remembered -/

/-- The open scroll session remembers the latest time of what it was told of, and the numbers of
all sessions so far are used up. -/
structure Recalls (past : List (Delivery K)) (a : Arbiter K) : Prop where
  fresh : ∀ x ∈ past, x.session < a.dispatcher.ledger.opened
  numbered : ∀ s, a.scroll.session = some s → s.capability.session < a.dispatcher.ledger.opened
  latest : ∀ s, a.scroll.session = some s →
    Time.Latest (Delivery.times s.capability.session past) s.lastMotion

namespace Recalls

theorem initial (d : Dispatcher K) : Recalls [] (ofDispatcher d) where
  fresh := nofun
  numbered := nofun
  latest := nofun

/-- The slot of scroll gestures is left as it is. -/
theorem keep (h : Recalls past a) (hscroll : b.scroll = a.scroll)
    (hopened : a.dispatcher.ledger.opened ≤ b.dispatcher.ledger.opened) : Recalls past b where
  fresh x hx := Nat.lt_of_lt_of_le (h.fresh x hx) hopened
  numbered s hs := by
    rw [hscroll] at hs
    exact Nat.lt_of_lt_of_le (h.numbered s hs) hopened
  latest s hs := by
    rw [hscroll] at hs
    exact h.latest s hs

/-- The gesture goes on to another stage. -/
theorem restage {s : ScrollSession} (h : Recalls past a) (hs : a.scroll.session = some s)
    (stage : ScrollStage) : Recalls past (a.withScroll { s with stage := stage }) where
  fresh := h.fresh
  numbered := by
    rintro _ ⟨⟩
    exact h.numbered s hs
  latest := by
    rintro _ ⟨⟩
    exact h.latest s hs

theorem vacate (h : Recalls past a) (hscroll : b.scroll.session = none)
    (hopened : b.dispatcher.ledger.opened = a.dispatcher.ledger.opened) : Recalls past b where
  fresh x hx := by
    rw [hopened]
    exact h.fresh x hx
  numbered s hs := by
    rw [hscroll] at hs
    cases hs
  latest s hs := by
    rw [hscroll] at hs
    cases hs

/-- A new gesture has a number of its own, under which nothing was told yet. -/
theorem install (h : Recalls past a) (token : GestureToken) :
    Recalls past { a.enter with
      scroll := Slot.install ⟨token, a.capability .scroll, .tracking, none⟩ token } where
  fresh x hx := Nat.lt_succ_of_lt (h.fresh x hx)
  numbered := by
    rintro _ ⟨⟩
    exact Nat.lt_succ_self _
  latest := by
    rintro _ ⟨⟩
    have hnone : Delivery.times a.dispatcher.ledger.opened past = [] := by
      refine List.map_eq_nil_iff.2 (List.filter_eq_nil_iff.2 fun x hx heq => ?_)
      exact absurd (h.fresh x hx) (Nat.not_lt.2 (Nat.le_of_eq (of_decide_eq_true heq).symm))
    change Time.Latest (Delivery.times a.dispatcher.ledger.opened past) none
    rw [hnone]
    exact .none

/-- A motion is told to the open session, which remembers it. -/
theorem moved {s : ScrollSession} (h : Recalls past a) (hs : a.scroll.session = some s)
    (precise : Bool) (d v : Delta K) (t : Time) :
    Recalls (past ++ [⟨s.capability.session, t, precise, d, v⟩]) (a.withScroll (s.moved t)) where
  fresh x hx := by
    rcases List.mem_append.1 hx with hx | hx
    · exact h.fresh x hx
    · rw [List.mem_singleton.1 hx]
      exact h.numbered s hs
  numbered := by
    rintro _ ⟨⟩
    exact h.numbered s hs
  latest := by
    rintro _ ⟨⟩
    have htimes := Delivery.times_concat past ⟨s.capability.session, t, precise, d, v⟩
    have hlatest := ScrollSession.latest_moved (h.latest s hs) t
    rw [← htimes] at hlatest
    exact hlatest

end Recalls

/-- Any move but that of a motion keeps what is remembered. -/
theorem Move.recalls (h : Move a es b) (still : ∀ x ∈ Effect.callbacks es, x.scrollMotion? = none)
    (ha : Recalls past a) : Recalls past b := by
  cases h with
  | beginDrag p button attached idle => exact ha.keep rfl (Nat.le_succ _)
  | beginScroll p attached idle => exact ha.install a.token
  | scrollMotion precise d v t isOpen moving =>
      cases still _ (List.mem_singleton_self _)
  | lift isOpen tracking => exact ha.restage isOpen .lifted
  | momentum isOpen lifted => exact ha.restage isOpen .momentum
  | releaseScroll isOpen => exact ha.vacate rfl rfl
  | cancelScroll isOpen => exact ha.vacate rfl rfl
  | _ => exact ha.keep rfl (Nat.le_refl _)

theorem Course.recalls (h : Course a es b)
    (still : ∀ x ∈ Effect.callbacks es, x.scrollMotion? = none) (ha : Recalls past a) :
    Recalls past b := by
  induction h with
  | nil a =>
      exact ha
  | move first _ ih =>
      rw [Effect.callbacks_append] at still
      exact ih (fun x hx => still x (List.mem_append_right _ hx))
        (first.recalls (fun x hx => still x (List.mem_append_left _ hx)) ha)
  | cut attached _ ih =>
      rw [Effect.callbacks_append] at still
      exact ih (fun x hx => still x (List.mem_append_right _ hx)) (ha.keep rfl (Nat.le_refl _))

/-! ## Calls -/

/-- With a gesture that is not lifted a motion is delivered. -/
theorem run_step_motion [Scalar K] {s : ScrollSession} (hs : a.scroll.session = some s)
    (moving : s.stage ≠ .lifted) (precise : Bool) (d : Delta K) (t : Time) :
    (step (.scrollMotion precise d t)).run a =
      ⟨.moved true, a.withScroll (s.moved t),
        [.callback (.scroll s.capability.session (.motion precise d (s.velocity d t)))]⟩ := by
  have hstage : a.stage? ≠ some .lifted := by
    simpa [stage?, hs] using moving
  simp only [step, scrollMotion, Action.run_bind, Action.run_pure, run_settleLifted_other hstage,
    run_moveScroll_some precise d t hs, List.nil_append, List.append_nil]

/-- Without one it is not, and a lifted gesture is settled. -/
theorem run_step_still [Scalar K] (still : a.scroll.session = none ∨ a.stage? = some .lifted)
    (precise : Bool) (d : Delta K) (t : Time) :
    (step (.scrollMotion precise d t)).run a =
      ⟨.moved false, (settleLifted.run a).state, (settleLifted.run a).effects⟩ := by
  have hnone : (settleLifted.run a).state.scroll.session = none := by
    rcases still with hnone | hlifted
    · have hstage : a.stage? ≠ some .lifted := by
        simp [stage?, hnone]
      rw [run_settleLifted_other hstage]
      exact hnone
    · rcases Option.map_eq_some_iff.1 hlifted with ⟨s, hs, -⟩
      rw [run_settleLifted_lifted hlifted, run_finishScroll_release hs]
      rfl
  simp only [step, scrollMotion, Action.run_bind, Action.run_pure,
    run_moveScroll_none precise d t hnone, List.append_nil]

theorem still_settleLifted (a : Arbiter K) :
    ∀ x ∈ Effect.callbacks (settleLifted.run a).effects, x.scrollMotion? = none := by
  have hemits : Act.Emits (fun e => ∀ x, e = .callback x → x.scrollMotion? = none)
      (settleLifted : Act K (Arbiter K) Unit) :=
    emits_settleLifted (by rintro n _ ⟨⟩; rfl) (by rintro n how _ ⟨⟩; rfl)
  intro x hx
  exact hemits a _ (Effect.mem_callbacks.1 hx) x rfl

theorem recalls_step [Scalar K] (c : Call K) (h : Recalls past a) :
    Recalls (past ++ c.deliveries (Effect.callbacks ((step c).run a).effects))
      ((step c).run a).state := by
  by_cases hmotion : ∃ precise d t, c = .scrollMotion precise d t
  · rcases hmotion with ⟨precise, d, t, rfl⟩
    by_cases hstill : a.scroll.session = none ∨ a.stage? = some .lifted
    · have hsettled : Recalls past (settleLifted.run a).state :=
        (plays_settleLifted a).course.recalls (still_settleLifted a) h
      have hnothing : (Effect.callbacks (settleLifted.run a).effects).filterMap
          Callback.scrollMotion? = [] :=
        List.filterMap_eq_nil_iff.2 (still_settleLifted a)
      rw [run_step_still hstill]
      simpa [Call.deliveries, hnothing] using hsettled
    · rcases not_or.1 hstill with ⟨hsome, hstage⟩
      rcases Option.ne_none_iff_exists'.1 hsome with ⟨s, hs⟩
      have hmoving : s.stage ≠ .lifted := by
        simpa [stage?, hs] using hstage
      rw [run_step_motion hs hmoving]
      exact h.moved hs precise d _ t
  · have hother : ∀ precise d t, c ≠ .scrollMotion precise d t := by
      simpa using hmotion
    rw [Call.deliveries_eq_nil hother, List.append_nil]
    exact (course_step c a).recalls (still_step hother a) h

theorem recalls_replay [Scalar K] (calls : List (Call K)) (h : Recalls past a) :
    Recalls (past ++ deliveries calls a) ((Action.replay step calls).run a).state := by
  induction calls generalizing past a with
  | nil =>
      simpa [deliveries] using h
  | cons c calls ih =>
      have hnext := ih (recalls_step c h)
      rw [List.append_assoc] at hnext
      rw [Action.run_replay_cons]
      exact hnext

/-! ## Whole runs -/

/-- The session of a delivery was opened in the run. -/
theorem begun_of_delivery [Scalar K] (d : Dispatcher K) (calls : List (Call K)) {x : Delivery K}
    (hx : x ∈ deliveries calls (ofDispatcher d)) :
    ⟨.scroll, x.session⟩ ∈
      begun (Effect.callbacks ((Action.replay step calls).run (ofDispatcher d)).effects) := by
  let run := (Action.replay step calls).run (ofDispatcher d)
  have hmotion : x.told ∈ (Effect.callbacks run.effects).filterMap Callback.scrollMotion? := by
    rw [told_deliveries]
    exact List.mem_map_of_mem hx
  rcases List.mem_filterMap.1 hmotion with ⟨c, hc, htold⟩
  have htarget : c.target? = some ⟨.scroll, x.session⟩ := by
    cases c with
    | scroll n call =>
        cases call with
        | motion precise d v =>
            cases htold
            rfl
        | _ => cases htold
    | _ => cases htold
  -- The motion was in order, so its session was open, and so it had begun before.
  have hfollows := (course_replay calls (ofDispatcher d)).follows
  rcases List.append_of_mem hc with ⟨before, after, hlog⟩
  change Book.Follows _ (Effect.callbacks run.effects) _ at hfollows
  rw [hlog] at hfollows
  rcases hfollows.split with ⟨b, b', hbefore, hreads, -⟩
  have haccount := (Known.initial d).account.append hbefore
  have hopen : b.current .scroll = some x.session := by
    by_contra hclosed
    exact hreads.target?_ne hclosed htarget
  have hbegun := ((haccount.open_iff ⟨.scroll, x.session⟩).1 hopen).1
  change _ ∈ begun (Effect.callbacks run.effects)
  rw [hlog, begun_append]
  exact List.mem_append_left _ hbegun

/-- A motion is delivered to the scroll gesture that is open and not lifted, if there is one, and
to nobody otherwise.  It is told with the distance that it has, and with that distance by the
seconds since the latest of all earlier motions of the same gesture; with zero, if there was none
or the latest is not in the past.  Nothing is ever divided by zero seconds. -/
theorem velocities_follow_the_session (d : Dispatcher Float) (calls : List (Call Float)) :
    let start := ofDispatcher d
    let run := (Action.replay step calls).run start
    let log := Effect.callbacks run.effects
    log.filterMap Callback.scrollMotion? = (deliveries calls start).map Delivery.told ∧
      (begun log).Nodup ∧
      (∀ x ∈ deliveries calls start, ⟨.scroll, x.session⟩ ∈ begun log) ∧
      ∀ before precise delta t after, calls = before ++ .scrollMotion precise delta t :: after →
        let s := ((Action.replay step before).run start).state
        let out := (step (.scrollMotion precise delta t)).run s
        (∃ n v, s.session? .scroll = some n ∧ s.stage? ≠ some .lifted ∧ out.value = .moved true ∧
            out.effects = [.callback (.scroll n (.motion precise delta v))] ∧
            let earlier := Delivery.times n (deliveries before start)
            Measures delta t earlier v ∧
              ∀ m ∈ earlier, m < t → Scalar.isZero ((t - m).toSeconds : Float) = false) ∨
          ((s.session? .scroll = none ∨ s.stage? = some .lifted) ∧ out.value = .moved false ∧
            (Effect.callbacks out.effects).filterMap Callback.scrollMotion? = []) := by
  intro start run log
  refine ⟨told_deliveries calls start, (Known.replay d calls).account.nodup,
    fun x => begun_of_delivery d calls, ?_⟩
  rintro before precise delta t after - s out
  have hrecalls : Recalls (deliveries before start) s := by
    have hrun := recalls_replay before (Recalls.initial d)
    rwa [List.nil_append] at hrun
  by_cases hstill : s.scroll.session = none ∨ s.stage? = some .lifted
  · have hout : out = _ := run_step_still hstill precise delta t
    have hnothing := List.filterMap_eq_nil_iff.2 (still_settleLifted s)
    refine .inr ⟨hstill.imp_left fun hnone => ?_, ?_, ?_⟩
    · simp [session?, hnone]
    · rw [hout]
    · rw [hout]
      exact hnothing
  · rcases not_or.1 hstill with ⟨hsome, hstage⟩
    rcases Option.ne_none_iff_exists'.1 hsome with ⟨session, hsession⟩
    have hmoving : session.stage ≠ .lifted := by
      simpa [stage?, hsession] using hstage
    have hout : out = _ := run_step_motion hsession hmoving precise delta t
    have hmeasures := ScrollSession.measures_velocity (hrecalls.latest session hsession) delta t
    refine .inl ⟨session.capability.session, session.velocity delta t, ?_, hstage, ?_, ?_,
      hmeasures, fun m _ hpast => Time.isZero_toSeconds ?_⟩
    · simp [session?, hsession]
    · rw [hout]
    · rw [hout]
    · exact Nat.ne_of_gt (Nat.sub_pos_of_lt hpast)

/-- The third motion is told late, and the fourth is of the momentum phase.  It goes by the
second. -/
theorem velocities_follow_a_session :
    let start : Arbiter Float := ofDispatcher (Dispatcher.attach ⟨1⟩ Listener.deaf)
    let motion (precise : Bool) (ms : Nat) : Call Float :=
      .scrollMotion precise ⟨8, 2⟩ (.ofMillis ms)
    let before := [.beginScroll ⟨0, 0⟩, motion true 1000, motion true 3000, motion true 2000,
      .liftScroll, .startMomentum]
    let earlier := Delivery.times 0 (deliveries before start)
    let out := (step (motion false 3500)).run ((Action.replay step before).run start).state
    earlier = [.ofMillis 1000, .ofMillis 3000, .ofMillis 2000] ∧
      out.effects = [.callback (.scroll 0 (.motion false ⟨8, 2⟩ ⟨16, 4⟩))] ∧
      Measures ⟨8, 2⟩ (.ofMillis 3500) earlier (⟨16, 4⟩ : Delta Float) := by
  intro start motion before earlier out
  have heffects : out.effects = [.callback (.scroll 0 (.motion false ⟨8, 2⟩ ⟨16, 4⟩))] := by
    decide +kernel
  have hvalue : out.value = .moved true := by
    decide +kernel
  have hearlier : earlier = [.ofMillis 1000, .ofMillis 3000, .ofMillis 2000] := by
    decide +kernel
  refine ⟨hearlier, heffects, ?_⟩
  rcases (velocities_follow_the_session (Dispatcher.attach ⟨1⟩ Listener.deaf)
    (before ++ [motion false 3500])).2.2.2 before false ⟨8, 2⟩ (.ofMillis 3500) [] rfl with
    ⟨n, v, -, -, -, htold, hmeasures, -⟩ | ⟨-, hnot, -⟩
  · have hsame := heffects.symm.trans htold
    cases hsame
    exact hmeasures
  · cases hvalue.symm.trans hnot

end Arbiter
end WindowRelay
