import VibeXperia.Lib.Chain
import VibeXperia.Sensord.Channel

namespace VibeXperia.Sensord
open Lib

/-! ## The lists of `util_misc.c` -/

section UtilMisc
variable {α : Type} [DecidableEq α]

def listAddHead (next : α → Option α) (head : Option α) (new : α) : α → Option α :=
  Function.update next new head

/-- The loop of `list_find_node`. There is no result where it goes on for `fuel` steps. -/
def listFindNode (next : α → Option α) (nod : α) : Nat → Option α → Option (Option α)
  | 0, _ => none
  | _ + 1, none => some none
  | fuel + 1, some cur =>
      if cur = nod then some (some cur) else listFindNode next nod fuel (next cur)

/-- The loop of `list_del_node`, with the variables `cur` and `prev`. -/
def listDelLoop (next : α → Option α) (head : Option α) (nod : α) :
    Nat → Option α → Option α → Option (Option α × (α → Option α))
  | 0, _, _ => none
  | _ + 1, none, _ => some (head, next)
  | fuel + 1, some cur, prev =>
      if cur = nod then
        let newHead := if some cur = head then next cur else head
        match prev with
        | some prev => some (newHead, Function.update next prev (next cur))
        | none => some (newHead, next)
      else listDelLoop next head nod fuel (next cur) (some cur)

/-- The new head, and the links. -/
def listDelNode (fuel : Nat) (next : α → Option α) (head : Option α) (nod : α) :
    Option (Option α × (α → Option α)) :=
  listDelLoop next head nod fuel head none

end UtilMisc

/-! ## Tables of channels -/

/-- A `g_list_ch` of any length after `channel_subscribe2sp`: what stays as it is. -/
structure ChannelTable (α π δ : Type) [DecidableEq π] where
  gListCh : List α
  nodup : gListCh.Nodup
  sp : α → Option π
  listed : ∀ ch p, sp ch = some p → ch ∈ gListCh
  handle : α → Int
  type : α → Nat
  noDelay : α → Bool
  bypassProc : α → Bool
  /-- What `get_data` returns, from what drivers and algorithms answer it. -/
  getData : α → δ → Int
  getData_le : ∀ ch answer, getData ch answer ≤ 1

/-- An entry of `buf_out`. -/
structure Exchange (δ : Type) where
  sensor : Int
  type : Nat
  data : δ
  ts : Int

structure Clients (α π : Type) where
  next : α → Option α
  /-- The field of each provider. -/
  clients : π → Option α
  state : α → ChannelState
  prevState : α → ChannelState

structure Pass (α δ : Type) where
  timeNow : Int
  ts : Int
  interval : α → Int
  tsLastEv : α → Int
  answer : α → δ
  buf : Nat → Exchange δ

structure Reporting (α δ : Type) where
  n : Nat
  data : Nat → Exchange δ
  tsLastEv : α → Int
  /-- The entries that `get_data` was given. -/
  given : List Nat

/-! ## `get_data` of this table -/

/-- The status of the flip gesture, in eight bits, and `g_last_value_gest_flip`. -/
structure DataAnswer where
  gestFlip : Nat
  gLastValueGestFlip : Int

def algoGetProcDataGestFlip (answer : DataAnswer) : Int :=
  if (answer.gestFlip : Int) ≠ answer.gLastValueGestFlip then 1 else 0

/-- `data_filter_gest_flip` of one entry, between `SENSOR_GEST_FLIP_VAL_UNKNOWN` and `_END`. -/
def dataFilterGestFlip (gestFlip : Nat) : Int := if 0 < gestFlip ∧ gestFlip < 4 then 1 else 0

def Sensor.getData (ch : Sensor) (answer : DataAnswer) : Int :=
  match ch with
  | .gestFlip =>
      let ret := algoGetProcDataGestFlip answer
      if 0 < ret then dataFilterGestFlip answer.gestFlip else ret
  | .a | .g | .m | .o | .p | .vg | .vla | .vrv => 1

namespace ChannelTable
variable {α π δ : Type} [DecidableEq α] [DecidableEq π]

/-! ## Commands -/

section Commands
variable (table : ChannelTable α π δ) (fuel : Nat)

def registered (p : π) : Nat := table.gListCh.countP fun ch => table.sp ch == some p

/-- `client_num`, which has six bits. -/
def clientNum (p : π) : Nat := table.registered p % 2 ^ 6

/-- After `channel_init` and `sp_preinit`. -/
def initial : Clients α π := ⟨fun _ => none, fun _ => none, fun _ => .sleep, fun _ => .sleep⟩

/-- The list in `sp_enable_ch`. -/
def spEnableCh (p : π) (ch : α) (enable : Bool) (s : Clients α π) : Option (Clients α π) :=
  let head := s.clients p
  if enable then do
    let found ← listFindNode s.next ch fuel head
    let next := if found = none then listAddHead s.next head ch else s.next
    some { s with next, clients := Function.update s.clients p (some ch) }
  else do
    let deleted ← listDelNode fuel s.next head ch
    some { s with next := deleted.2, clients := Function.update s.clients p deleted.1 }

def channelSetState (s : Clients α π) (ch : α) (state : ChannelState) : Option (Clients α π) :=
  match table.sp ch with
  | none => some s
  | some p => do
      let s ←
        match state with
        | .sleep => if s.state ch ≠ .sleep then spEnableCh fuel p ch false s else some s
        | .normal | .bg => if s.state ch = .sleep then spEnableCh fuel p ch true s else some s
      some { s with
        prevState := Function.update s.prevState ch (s.state ch)
        state := Function.update s.state ch state }

def channelSetStates (changes : List (α × ChannelState)) (s : Clients α π) :
    Option (Clients α π) :=
  changes.foldlM (fun s change => table.channelSetState fuel s change.1 change.2) s

end Commands

/-! ## One pass of `re_proc` -/

/-- `CFG_TOLERANCE_TIME_PRECISION` -/
def toleranceTimePrecision : Int := 2

section ReProc
variable (table : ChannelTable α π δ) (fuel : Nat) (pass : Pass α δ) (s : Clients α π) (p : π)

def due (tsLastEv : α → Int) (ch : α) : Bool :=
  let elapse := signed 32 (pass.timeNow - tsLastEv ch)
  let elapse :=
    if 0 < elapse then elapse - pass.interval ch
    else if elapse = 0 then -1 - toleranceTimePrecision
    else 0
  table.noDelay ch || 0 ≤ elapse || 0 < elapse + toleranceTimePrecision

/-- The loop over the `tmp` entries from `n` on. -/
def stamp (ch : α) (n tmp : Nat) (data : Nat → Exchange δ) (i : Nat) : Exchange δ :=
  if n ≤ i ∧ i < n + tmp then { data i with sensor := table.handle ch, type := table.type ch }
  else data i

def reportCh (r : Reporting α δ) (ch : α) : Reporting α δ :=
  if s.state ch = .normal && !table.bypassProc ch && table.due pass r.tsLastEv ch then
    let tmp := (table.getData ch (pass.answer ch)).toNat
    let data :=
      if 0 < tmp then Function.update r.data r.n { r.data r.n with data := pass.answer ch }
      else r.data
    { n := r.n + tmp
      data := table.stamp ch r.n tmp data
      tsLastEv := Function.update r.tsLastEv ch pass.timeNow
      given := r.given ++ [r.n] }
  else r

def reportLoop : Nat → Option α → Reporting α δ → Option (Reporting α δ)
  | 0, _, _ => none
  | _ + 1, none, r => some r
  | fuel + 1, some cur, r => reportLoop fuel (s.next cur) (table.reportCh pass s r cur)

/-- The events for `sp_report_data`, and the entries that were used. -/
def reProc : Option (List (Exchange δ) × List Nat) := do
  let r ← table.reportLoop pass s fuel (s.clients p) ⟨0, pass.buf, pass.tsLastEv, []⟩
  some ((List.range r.n).map fun i => { r.data i with ts := pass.ts }, r.given)

end ReProc

/-! ## What is to hold -/

section Listed
variable (table : ChannelTable α π δ) (s : Clients α π)

/-- The clients of a provider are its channels that are not asleep, each linked once. -/
def Listed : Prop :=
  ∀ p, ∃ l, Chain s.next (s.clients p) l ∧ l.Nodup ∧
    ∀ ch, ch ∈ l ↔ table.sp ch = some p ∧ s.state ch ≠ .sleep

structure Room (p : π) (events : List (Exchange δ)) (given : List Nat) : Prop where
  few : events.length ≤ table.clientNum p
  inside : ∀ i ∈ given, i < table.clientNum p

structure Reported (p : π) (events : List (Exchange δ)) (given : List Nat) : Prop where
  room : table.registered p < 2 ^ 6 → table.Room p events given
  own : ∃ reported : List α, reported.Nodup ∧
    (∀ ch ∈ reported, table.sp ch = some p ∧ s.state ch ≠ .sleep) ∧
      events.map (fun event => (event.sensor, event.type)) =
        reported.map fun ch => (table.handle ch, table.type ch)

end Listed

end ChannelTable

end VibeXperia.Sensord
