import VibeXperia.Agps.DataCalls

namespace VibeXperia.Agps
open Lib

/-! ## Attempts to start the data call of `ds_nif` -/

inductive CallEffect
  | request
  | retryAfter (msec : Nat)
  /-- The normal ATL is asked for. -/
  | fallback
  deriving DecidableEq, Repr

def Effect.ofCall : Effect → Option CallEffect
  | .dataCall .requestAgpsDataConn => some .request
  | .timerStart msec => some (.retryAfter msec)
  | .informed _ .denied _ => some .fallback
  | _ => none

/-- An event, and the answers to the requests that its retries make. -/
structure Attempt where
  event : DsEvent
  later : Nat → Answers

namespace Attempt

/-- The answers to the requests of the attempt, the one that the event makes first. -/
def answers (attempt : Attempt) : Nat → Answers
  | 0 => attempt.event.answers
  | n + 1 => attempt.later n

def busy (attempt : Attempt) (i : Nat) : Prop :=
  (attempt.answers i).requestRsrc = LOC_API_ADAPTER_ERR_ENGINE_BUSY

end Attempt

namespace DsSystem

/-- The timer fires and the message of the retry is handled, at most `n` times. -/
def follow : Nat → DsSystem → (Nat → Answers) → DsSystem × List Effect
  | 0, s, _ => (s, [])
  | n + 1, s, answers =>
      if s.timers = 0 then (s, [])
      else
        let fired := s.step .timer
        let retried := fired.1.step (.retry (answers 0))
        let rest := follow n retried.1 fun i => answers (i + 1)
        (rest.1, fired.2 ++ retried.2 ++ rest.2)

def attempt (s : DsSystem) (attempt : Attempt) : DsSystem × List Effect :=
  let first := s.step attempt.event
  let rest := follow MAX_START_DATA_CALL_RETRIES.toNat first.1 attempt.later
  (rest.1, first.2 ++ rest.2)

def startsCall (s : DsSystem) (e : DsEvent) : Prop :=
  .dataCall .requestAgpsDataConn ∈ (s.step e).2

end DsSystem

/-! ## What is asked of an attempt -/

/-- The results other than a busy modem after which the normal ATL is asked for. -/
def givesUp (requestRsrc : Int) : Bool :=
  requestRsrc = LOC_API_ADAPTER_ERR_UNSUPPORTED || requestRsrc = -1

/-- As long as the modem is busy, an attempt is retried `left` times, and then falls back. -/
def attemptPlan : Nat → (Nat → Answers) → List CallEffect
  | 0, answers =>
      if (answers 0).requestRsrc = LOC_API_ADAPTER_ERR_ENGINE_BUSY ∨
        givesUp (answers 0).requestRsrc then [.request, .fallback]
      else [.request]
  | left + 1, answers =>
      if (answers 0).requestRsrc = LOC_API_ADAPTER_ERR_ENGINE_BUSY then
        .request :: .retryAfter DATA_CALL_RETRY_DELAY_MSEC ::
          attemptPlan left fun i => answers (i + 1)
      else if givesUp (answers 0).requestRsrc then [.request, .fallback]
      else [.request]

def FollowsPlan (t : Transition DsSystem Attempt Effect) : Prop :=
  t.before.startsCall t.event.event →
    t.outputs.filterMap Effect.ofCall =
      attemptPlan MAX_START_DATA_CALL_RETRIES.toNat t.event.answers

/-- Where the data call is asked for in Released: no retries are left over from before, or the
modem is busy no more often than they allow, and timers start. A data call that is asked for in
Releasing does not find the modem busy. -/
def DsSystem.HasRetries (s : DsSystem) (attempt : Attempt) : Prop :=
  match attempt.event with
  | .subscribe .. => s.machine.mState = .released →
      (s.machine.mRetries = 0 ∨ ∃ i, ¬ attempt.busy i ∧
        i + s.machine.mRetries.toNat ≤ MAX_START_DATA_CALL_RETRIES.toNat) ∧
      ∀ i, i + s.machine.mRetries.toNat < MAX_START_DATA_CALL_RETRIES.toNat →
        (∀ j ≤ i, attempt.busy j) → (attempt.answers i).timerStarted = true
  | .released _ | .denied _ => s.machine.mState = .releasing → s.active → ¬ attempt.busy 0
  | .unsubscribe _ | .timer | .retry _ | .granted => True

end VibeXperia.Agps
