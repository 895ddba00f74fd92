import VibeXperia.Lib.Run
import Mathlib.Logic.Function.Basic

namespace VibeXperia.Gps
open Lib

/-! ## `LocApiBase` -/

def maxAdapters : Nat := 10

/-- `LOC_API_ADAPTER_EVENT_MASK_T` -/
abbrev EventMask := BitVec 32

/-- What `mLocAdapters` and the masks hold; an entry of the array is `none` for `NULL`. -/
structure LocApiBase (α : Type) where
  mLocAdapters : Nat → Option α
  mExcludedMask : EventMask

inductive ApiEffect (α : Type)
  /-- `LocOpenMsg` goes to the queue. -/
  | locOpenMsg (mask : EventMask)
  | close
  /-- A report reaches an adapter. -/
  | reported (adapter : α)
  deriving DecidableEq, Repr

section Adapters
variable {α : Type}

/-- The adapters that `TO_ALL_ADAPTERS` calls, from the entry `i` on. -/
def toAllAdapters (adapters : Nat → Option α) (i : Nat) : Nat → List α
  | 0 => []
  | rest + 1 =>
      match adapters i with
      | none => []
      | some adapter => adapter :: toAllAdapters adapters (i + 1) rest

namespace LocApiBase
variable (api : LocApiBase α)

def toAllLocAdapters : List α := toAllAdapters api.mLocAdapters 0 maxAdapters

/-- An adapter's own mask never changes. -/
def getEvtMask (mask : α → EventMask) : EventMask :=
  api.toAllLocAdapters.foldl (fun all adapter => all ||| mask adapter) 0 &&& ~~~api.mExcludedMask

variable [DecidableEq α]

/-- The loop of `addAdapter` from the entry `i` on. -/
def addAdapterFrom (mask : α → EventMask) (adapter : α) (i : Nat) :
    Nat → LocApiBase α × List (ApiEffect α)
  | 0 => (api, [])
  | rest + 1 =>
      match api.mLocAdapters i with
      | none =>
          ({ api with mLocAdapters := Function.update api.mLocAdapters i (some adapter) },
            [.locOpenMsg (mask adapter)])
      | some found =>
          if found = adapter then (api, []) else addAdapterFrom mask adapter (i + 1) rest

def addAdapter (mask : α → EventMask) (adapter : α) : LocApiBase α × List (ApiEffect α) :=
  api.addAdapterFrom mask adapter 0 maxAdapters

end LocApiBase

/-- The `while` loop of `removeAdapter`, which steps over the adapters from the entry `i` on. -/
def skipAdapters (adapters : Nat → Option α) (i : Nat) : Nat → Nat
  | 0 => i
  | rest + 1 => if adapters i = none then i else skipAdapters adapters (i + 1) rest

namespace LocApiBase
variable [DecidableEq α]

/-- What `removeAdapter` does with the adapter at the entry `j`, and the last entry in use. -/
def vacate (api : LocApiBase α) (mask : α → EventMask) (j : Nat) :
    Nat × LocApiBase α × List (ApiEffect α) :=
  let cleared := Function.update api.mLocAdapters j none
  let i := skipAdapters cleared (j + 1) (maxAdapters - (j + 1)) - 1
  let moved := Function.update cleared j (cleared i)
  let api := { api with mLocAdapters := Function.update moved i none }
  (i, api, [if i = 0 then .close else .locOpenMsg (api.getEvtMask mask)])

/-- The loop of `removeAdapter` from the entry `i` on; there are no more rounds than entries. -/
def removeAdapterFrom (mask : α → EventMask) (adapter : α) :
    LocApiBase α → Nat → Nat → LocApiBase α × List (ApiEffect α)
  | api, _, 0 => (api, [])
  | api, i, rounds + 1 =>
      if i < maxAdapters then
        match api.mLocAdapters i with
        | none => (api, [])
        | some found =>
            if found = adapter then
              let vacated := api.vacate mask i
              let later :=
                removeAdapterFrom mask adapter vacated.2.1 (vacated.1 + 1) rounds
              (later.1, vacated.2.2 ++ later.2)
            else removeAdapterFrom mask adapter api (i + 1) rounds
      else (api, [])

def removeAdapter (api : LocApiBase α) (mask : α → EventMask) (adapter : α) :
    LocApiBase α × List (ApiEffect α) :=
  removeAdapterFrom mask adapter api 0 maxAdapters

end LocApiBase

inductive RegistryCall (α : Type)
  | addAdapter (adapter : α)
  | removeAdapter (adapter : α)
  /-- Any of the upward calls that go to all adapters. -/
  | report
  deriving DecidableEq, Repr

def LocApiBase.call [DecidableEq α] (mask : α → EventMask) (api : LocApiBase α) :
    RegistryCall α → LocApiBase α × List (ApiEffect α)
  | .addAdapter adapter => api.addAdapter mask adapter
  | .removeAdapter adapter => api.removeAdapter mask adapter
  | .report => (api, api.toAllLocAdapters.map .reported)

def LocApiBase.initial (mExcludedMask : EventMask) : LocApiBase α := ⟨fun _ => none, mExcludedMask⟩

/-! ## What the registry is for -/

/-- The adapter was added and not removed since. -/
def Registered (calls : List (RegistryCall α)) (adapter : α) : Prop :=
  ∃ before after, calls = before ++ .addAdapter adapter :: after ∧ .removeAdapter adapter ∉ after

/-- At no time more adapters are registered than there are entries. -/
def RoomFor (calls : List (RegistryCall α)) : Prop :=
  ∀ before after, calls = before ++ after →
    ∀ adapters : List α, adapters.Nodup → (∀ adapter ∈ adapters, Registered before adapter) →
      adapters.length ≤ maxAdapters

/-- The entries are the registered adapters, each once and without a hole, and then `NULL`s. -/
def LocApiBase.Lists (api : LocApiBase α) (calls : List (RegistryCall α)) : Prop :=
  ∃ adapters : List α, (∀ i, api.mLocAdapters i = adapters[i]?) ∧ adapters.Nodup ∧
    adapters.length ≤ maxAdapters ∧ ∀ adapter, adapter ∈ adapters ↔ Registered calls adapter

/-- The adapter is the only one that is registered. -/
def LastRegistered (calls : List (RegistryCall α)) (adapter : α) : Prop :=
  ∀ other, Registered calls other ↔ other = adapter

/-- What the calls leave in the array, whom a report then reaches, and which of them closed the
connection. -/
structure RegistryKept [DecidableEq α] (mask : α → EventMask) (mExcludedMask : EventMask)
    (calls : List (RegistryCall α)) : Prop where
  lists : (final (LocApiBase.call mask) (.initial mExcludedMask) calls).Lists calls
  reached : ∀ adapter, Registered calls adapter →
    ((final (LocApiBase.call mask) (.initial mExcludedMask) calls).call mask .report).2.count
      (.reported adapter) = 1
  unreached : ∀ adapter, ¬ Registered calls adapter →
    .reported adapter ∉
      ((final (LocApiBase.call mask) (.initial mExcludedMask) calls).call mask .report).2
  closes : ∀ before call after, calls = before ++ call :: after →
    (.close ∈ ((final (LocApiBase.call mask) (.initial mExcludedMask) before).call mask call).2 ↔
      ∃ adapter, call = .removeAdapter adapter ∧ LastRegistered before adapter)

end Adapters

end VibeXperia.Gps
