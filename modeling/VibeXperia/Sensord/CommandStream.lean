import VibeXperia.Lib.Records
import VibeXperia.Sensord.Channel

namespace VibeXperia.Sensord
open Lib

/-! ## `struct exchange` -/

/-- What a command packet holds; `gap` and `rest` are what `check_cmd_event` does not read, the
first of them for alignment. -/
structure CmdExchange where
  magic : BitVec 32
  gap : List UInt8
  cmd : BitVec 32
  code : BitVec 32
  value : BitVec 32
  rest : List UInt8
  length_gap : gap.length = 4
  length_rest : rest.length = 36

def sizeofExchange : Nat := 56

/-- `CHANNEL_PKT_MAGIC_CMD` -/
def channelPktMagicCmd : BitVec 32 := BitVec.ofNat 32 'C'.toNat

namespace CmdExchange
variable (x : CmdExchange)

def bytes : List UInt8 :=
  leBytes 4 x.magic.toNat ++ x.gap ++ leBytes 4 x.cmd.toNat ++ leBytes 4 x.code.toNat ++
    leBytes 4 x.value.toNat ++ x.rest

/-- The command that a client sends with the packet. -/
def command : Option Command :=
  if x.magic = channelPktMagicCmd then some (.cmd x.code.toInt x.cmd.toInt x.value.toInt) else none

end CmdExchange

/-- The `int` at an offset of the packet. -/
def intAt (packet : List UInt8) (offset : Nat) : BitVec 32 :=
  BitVec.ofNat 32 (leNat ((packet.drop offset).take 4))

/-! ## `event_handler.c` -/

/-- `fifo` holds what was written to `FIFO_CMD` and not read yet, and `buf` what `readn` has read
of the packet so far. -/
structure EventLoop where
  daemon : Daemon
  fifo : List UInt8
  buf : List UInt8

inductive LoopEvent
  /-- A client writes to `FIFO_CMD`. -/
  | writes (bytes : List UInt8)
  /-- `read` returns `nread` bytes, of those that there are. -/
  | reads (nread : Nat) (calls : Sensor → HwCalls)
  /-- `read` fails. -/
  | fails
  | display (on : Bool) (calls : Sensor → HwCalls)

inductive LoopEffect
  | handled (packet : List UInt8) (e : Event)
  | discarded (packet : List UInt8)
  /-- `part` is what was read before the error. -/
  | invalid (part : List UInt8)
  | displayed (e : Event)

section EventHandler
variable (b : Build)

/-- What `check_cmd_event` does with a packet. -/
def checkCmdEvent (calls : Sensor → HwCalls) (packet : List UInt8) (s : Daemon) :
    Daemon × LoopEffect :=
  if intAt packet 0 = channelPktMagicCmd then
    let e : Event :=
      ⟨.cmd (intAt packet 12).toInt (intAt packet 8).toInt (intAt packet 16).toInt, calls⟩
    ((step b s e).1, .handled packet e)
  else (s, .discarded packet)

/-- One `read` of `readn`, which asks for what the packet still lacks. -/
def readn (nread : Nat) (calls : Sensor → HwCalls) (s : EventLoop) : EventLoop × List LoopEffect :=
  if 0 < nread ∧ nread ≤ sizeofExchange - s.buf.length ∧ nread ≤ s.fifo.length then
    let packet := s.buf ++ s.fifo.take nread
    let fifo := s.fifo.drop nread
    if packet.length = sizeofExchange then
      let (daemon, effect) := checkCmdEvent b calls packet s.daemon
      (⟨daemon, fifo, []⟩, [effect])
    else (⟨s.daemon, fifo, packet⟩, [])
  else (s, [])

/-- `ev_loop_check_cmd` and `ev_loop_check_display_state` -/
def loopStep (s : EventLoop) : LoopEvent → EventLoop × List LoopEffect
  | .writes bytes => ({ s with fifo := s.fifo ++ bytes }, [])
  | .reads nread calls => readn b nread calls s
  | .fails => ({ s with buf := [] }, [.invalid s.buf])
  | .display on calls =>
      let e : Event := ⟨.display on, calls⟩
      ({ s with daemon := (step b s.daemon e).1 }, [.displayed e])

def EventLoop.new (daemon : Daemon) : EventLoop := ⟨daemon, [], []⟩

end EventHandler

end VibeXperia.Sensord
