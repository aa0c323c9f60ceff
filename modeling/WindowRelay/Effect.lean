import WindowRelay.Action
import WindowRelay.Callback
import WindowRelay.Text.Document
import WindowRelay.Warning

/-!
# Effects

The one stream in which everything the relay does to the outside appears, in order: callbacks to
the listener and its sessions, requests to the host's document, and warnings.
-/

namespace WindowRelay

inductive Effect (K : Type)
  | callback (c : Callback K)
  | access (a : Access)
  | warning (w : Warning)
  deriving DecidableEq, Repr

namespace Effect

variable {K : Type}

def callback? : Effect K → Option (Callback K)
  | .callback c => some c
  | _ => none

def access? : Effect K → Option Access
  | .access a => some a
  | _ => none

def warning? : Effect K → Option Warning
  | .warning w => some w
  | _ => none

def callbacks (es : List (Effect K)) : List (Callback K) :=
  es.filterMap callback?

def accesses (es : List (Effect K)) : List Access :=
  es.filterMap access?

def warnings (es : List (Effect K)) : List Warning :=
  es.filterMap warning?

@[simp]
theorem callbacks_append (es fs : List (Effect K)) :
    callbacks (es ++ fs) = callbacks es ++ callbacks fs :=
  List.filterMap_append

@[simp]
theorem accesses_append (es fs : List (Effect K)) :
    accesses (es ++ fs) = accesses es ++ accesses fs :=
  List.filterMap_append

@[simp]
theorem warnings_append (es fs : List (Effect K)) :
    warnings (es ++ fs) = warnings es ++ warnings fs :=
  List.filterMap_append

theorem mem_callbacks {es : List (Effect K)} {c : Callback K} :
    c ∈ callbacks es ↔ .callback c ∈ es := by
  simp only [callbacks, List.mem_filterMap]
  constructor
  · rintro ⟨e, he, hc⟩
    cases e <;> simp_all [callback?]
  · intro hc
    exact ⟨.callback c, hc, rfl⟩

@[simp]
theorem mem_warnings {es : List (Effect K)} {w : Warning} :
    w ∈ warnings es ↔ .warning w ∈ es := by
  simp only [warnings, List.mem_filterMap]
  constructor
  · rintro ⟨e, he, hw⟩
    cases e <;> simp_all [warning?]
  · intro hw
    exact ⟨.warning w, hw, rfl⟩

end Effect

/-- An operation on a state that causes effects. -/
abbrev Act (K σ α : Type) : Type :=
  Action (Effect K) σ α

namespace Act

variable {K σ : Type}

def call (c : Callback K) : Act K σ Unit :=
  Action.emit (.callback c)

def warn (w : Warning) : Act K σ Unit :=
  Action.emit (.warning w)

def warnIf (condition : Bool) (w : Warning) : Act K σ Unit :=
  if condition then warn w else pure ()

@[simp]
theorem run_call (c : Callback K) (s : σ) : (call c).run s = ⟨(), s, [.callback c]⟩ :=
  rfl

@[simp]
theorem run_warn (w : Warning) (s : σ) :
    (warn w : Act K σ Unit).run s = ⟨(), s, [.warning w]⟩ :=
  rfl

@[simp]
theorem run_warnIf (condition : Bool) (w : Warning) (s : σ) :
    (warnIf condition w : Act K σ Unit).run s =
      ⟨(), s, if condition then [.warning w] else []⟩ := by
  cases condition <;> rfl

end Act

end WindowRelay
