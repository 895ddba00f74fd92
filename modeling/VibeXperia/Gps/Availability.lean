import VibeXperia.Gps.Engine
import VibeXperia.Lib.Pending

namespace VibeXperia.Gps
open Lib

/-! ## The network's availability -/

def maxApnLen : Nat := 100

/-- Messages to the thread of the engine; those that have nothing to do with `enableData` are
alike. -/
inductive DataMsg
  | init
  | up
  | enableData (enable : BitVec 32) (apn : Option CString)
  | other
  deriving DecidableEq, Repr

inductive DataEffect
  | enableData (enable : BitVec 32)
  | setAPN (apn : CString)
  deriving DecidableEq, Repr

/-- Where the framework is in the calls that it makes one after the other. -/
inductive FrameworkAt
  | idle
  /-- `agpsStatus` is written, and it is not yet checked whether there is an adapter. -/
  | updating (available : BitVec 32) (apn : Option CString)
  /-- The adapter is there, and the message to initialise it is not yet sent. -/
  | initialising
  deriving DecidableEq, Repr

inductive EngineAt
  | idle
  /-- In `loc_eng_reinit`, which has not yet read `agpsStatus`. -/
  | reinit
  | sending (enable : BitVec 32)
  deriving DecidableEq, Repr

structure Availability where
  agpsStatus : BitVec 32
  created : Bool
  msgs : List DataMsg
  framework : FrameworkAt
  engine : EngineAt
  deriving DecidableEq, Repr

/-- Steps of the framework, the modem and the engine, in any order. -/
inductive DataStep
  | update (available : BitVec 32) (apn : Option CString)
  | updateSends
  | init
  | initSends
  | engineUp
  | others
  | takes
  | reinitReads
  | reinitSends
  deriving DecidableEq, Repr

/-- `agpsStatus ? 1 : 0` -/
def agpsCopy (agpsStatus : BitVec 32) : BitVec 32 := if agpsStatus = 0 then 0 else 1

/-- The message of a call, which there is only with an access point. -/
def updateSent (available : BitVec 32) : Option CString → List DataMsg
  | none => []
  | some apn => [.enableData available (some (apn.take maxApnLen))]

namespace Availability

def initial : Availability := ⟨0, false, [], .idle, .idle⟩

def step (s : Availability) : DataStep → Availability × List DataEffect
  | .update available apn =>
      match s.framework with
      | .idle => ({ s with agpsStatus := available, framework := .updating available apn }, [])
      | .updating .. | .initialising => (s, [])
  | .updateSends =>
      match s.framework with
      | .updating available apn =>
          let sent := if s.created then updateSent available apn else []
          ({ s with msgs := s.msgs ++ sent, framework := .idle }, [])
      | .idle | .initialising => (s, [])
  | .init =>
      match s.framework with
      | .idle =>
          if s.created then (s, []) else ({ s with created := true, framework := .initialising }, [])
      | .updating .. | .initialising => (s, [])
  | .initSends =>
      match s.framework with
      | .initialising => ({ s with msgs := s.msgs ++ [.init], framework := .idle }, [])
      | .idle | .updating .. => (s, [])
  | .engineUp => if s.created then ({ s with msgs := s.msgs ++ [.up] }, []) else (s, [])
  | .others => if s.created then ({ s with msgs := s.msgs ++ [.other] }, []) else (s, [])
  | .takes =>
      match s.engine, s.msgs with
      | .idle, .init :: msgs | .idle, .up :: msgs => ({ s with msgs, engine := .reinit }, [])
      | .idle, .enableData enable apn :: msgs =>
          ({ s with msgs }, .enableData enable :: (apn.map .setAPN).toList)
      | .idle, .other :: msgs => ({ s with msgs }, [])
      | _, _ => (s, [])
  | .reinitReads =>
      match s.engine with
      | .reinit => ({ s with engine := .sending (agpsCopy s.agpsStatus) }, [])
      | .idle | .sending _ => (s, [])
  | .reinitSends =>
      match s.engine with
      | .sending enable => ({ s with msgs := s.msgs ++ [.enableData enable none], engine := .idle }, [])
      | .idle | .reinit => (s, [])

end Availability

abbrev DataTransition := Transition Availability DataStep DataEffect

/-! ## What the modem was given -/

def enabled : DataEffect → Option (BitVec 32)
  | .enableData enable => some enable
  | .setAPN _ => none

def reported (t : DataTransition) : Option (BitVec 32) :=
  match t.event, t.before.framework with
  | .update available _, .idle => some available
  | _, _ => none

/-- The availability that the framework reported last. -/
def lastReported (ts : List DataTransition) : BitVec 32 := (lastWrite reported ts).getD 0

def Reports (t : DataTransition) : Prop := (reported t).isSome = true

def Reads (t : DataTransition) : Prop := t.event = .reinitReads ∧ t.before.engine = .reinit

/-- The last report came without an access point after the initialisation, and the status that
it left was not read since. -/
def Unposted (ts : List DataTransition) : Prop :=
  ∃ before t after available, ts = before ++ t :: after ∧ t.event = .update available none ∧
    t.before.created = true ∧ t.before.framework = .idle ∧ ∀ u ∈ after, ¬ Reports u ∧ ¬ Reads u

/-- A copy of the status was sent though a report had changed it, which sends nothing more; since
then there was no report, and the status was not read. -/
def Outdated (ts : List DataTransition) : Prop :=
  ∃ before t after enable, ts = before ++ t :: after ∧ t.event = .reinitSends ∧
    t.before.engine = .sending enable ∧ enable ≠ agpsCopy t.before.agpsStatus ∧
    (∀ available apn, t.before.framework ≠ .updating available (some apn)) ∧
    ∀ u ∈ after, ¬ Reports u ∧ ¬ Reads u

/-- The engine is initialised, nobody is in the middle of anything, and no message waits. -/
structure AtRest (s : Availability) : Prop where
  created : s.created = true
  framework : s.framework = .idle
  engine : s.engine = .idle
  msgs : s.msgs = []

end VibeXperia.Gps
