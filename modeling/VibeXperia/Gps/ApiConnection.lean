import VibeXperia.Gps.Registry

namespace VibeXperia.Gps
open Lib

/-! ## `LocApiBase` and the messages it sends to itself -/

inductive ApiMsg
  | locOpenMsg (mask : EventMask)
  | locSsrMsg
  deriving DecidableEq, Repr

/-- `queue` holds what was sent with `mMsgTask`, and `opened` what `open` was called with since the
last `close`. -/
structure ApiConnection (α : Type) where
  api : LocApiBase α
  queue : List ApiMsg
  opened : Option EventMask

inductive ApiEvent (α : Type)
  | addAdapter (adapter : α)
  | removeAdapter (adapter : α)
  | handleEngineUpEvent
  /-- The message task takes a message. -/
  | proc
  deriving DecidableEq, Repr

namespace ApiConnection
variable {α : Type}

def initial (mExcludedMask : EventMask) : ApiConnection α := ⟨.initial mExcludedMask, [], none⟩

/-- `LocOpenMsg` goes to the queue, and `close` is called at once. -/
def perform (s : ApiConnection α) : ApiEffect α → ApiConnection α
  | .locOpenMsg mask => { s with queue := s.queue ++ [.locOpenMsg mask] }
  | .close => { s with opened := none }
  | .reported _ => s

section Proc
variable (mask : α → EventMask) (s : ApiConnection α)

def procMsg : ApiMsg → ApiConnection α
  | .locOpenMsg mask => { s with opened := some mask }
  | .locSsrMsg => { s with opened := some (s.api.getEvtMask mask) }

/-- What the message task leaves once it has taken all messages. -/
def settled : ApiConnection α := s.queue.foldl (procMsg mask) { s with queue := [] }

end Proc

variable [DecidableEq α] (mask : α → EventMask) (s : ApiConnection α)

def step : ApiEvent α → ApiConnection α × List (ApiEffect α)
  | .addAdapter adapter =>
      let (api, effects) := s.api.addAdapter mask adapter
      (effects.foldl perform { s with api := api }, effects)
  | .removeAdapter adapter =>
      let (api, effects) := s.api.removeAdapter mask adapter
      (effects.foldl perform { s with api := api }, effects)
  | .handleEngineUpEvent => ({ s with queue := s.queue ++ [.locSsrMsg] }, [])
  | .proc =>
      match s.queue with
      | [] => (s, [])
      | msg :: queue => (procMsg mask { s with queue := queue } msg, [])

end ApiConnection

end VibeXperia.Gps
