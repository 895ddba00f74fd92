import VibeXperia.Sensord.CommandStream
import VibeXperia.Proof.Sensord.Agreement

namespace VibeXperia.Proof.Sensord
open Lib VibeXperia.Sensord

variable {b : Build} {s s' : EventLoop} {first : Daemon} {arrived : List UInt8}
variable {outs : List LoopEffect} {e : LoopEvent}

/-! ## What the daemon takes from the stream -/

def bytesWritten : LoopEvent → List UInt8
  | .writes bytes => bytes
  | _ => []

def packetOf : LoopEffect → Option (List UInt8)
  | .handled packet _ | .discarded packet => some packet
  | _ => none

def consumedBy : LoopEffect → List UInt8
  | .handled packet _ | .discarded packet => packet
  | .invalid part => part
  | .displayed _ => []

def lostBy : LoopEffect → Nat
  | .invalid part => part.length
  | _ => 0

def eventOf : LoopEffect → Option Event
  | .handled _ e | .displayed e => some e
  | _ => none

def commandOf : LoopEffect → Option Command
  | .handled _ e => some e.command
  | _ => none

def decode (packet : List UInt8) : Option Command :=
  if intAt packet 0 = channelPktMagicCmd then
    some (.cmd (intAt packet 12).toInt (intAt packet 8).toInt (intAt packet 16).toInt)
  else none

structure Streams (b : Build) (first : Daemon) (arrived : List UInt8) (outs : List LoopEffect)
    (s : EventLoop) : Prop where
  conserved : arrived = outs.flatMap consumedBy ++ (s.buf ++ s.fifo)
  short : s.buf.length < sizeofExchange
  whole : ∀ effect ∈ outs, ∀ packet, packetOf effect = some packet →
    packet.length = sizeofExchange ∧ commandOf effect = decode packet
  daemon : s.daemon = final (step b) first (outs.filterMap eventOf)

theorem streams_start : Streams b first [] [] (.new first) where
  conserved := rfl
  short := Nat.zero_lt_succ _
  whole := by simp
  daemon := rfl

theorem checkCmdEvent_packet (calls : Sensor → HwCalls) (packet : List UInt8) (daemon : Daemon) :
    packetOf (checkCmdEvent b calls packet daemon).2 = some packet ∧
      commandOf (checkCmdEvent b calls packet daemon).2 = decode packet ∧
      consumedBy (checkCmdEvent b calls packet daemon).2 = packet ∧
      (checkCmdEvent b calls packet daemon).1 =
        final (step b) daemon ([(checkCmdEvent b calls packet daemon).2].filterMap eventOf) := by
  simp only [checkCmdEvent, decode]
  split_ifs with magic
  · exact ⟨rfl, rfl, rfl, rfl⟩
  · exact ⟨rfl, rfl, rfl, rfl⟩

theorem Streams.readn (streams : Streams b first arrived outs s) (nread : Nat)
    (calls : Sensor → HwCalls) :
    Streams b first arrived (outs ++ (readn b nread calls s).2) (readn b nread calls s).1 := by
  rw [VibeXperia.Sensord.readn]
  by_cases answers : 0 < nread ∧ nread ≤ sizeofExchange - s.buf.length ∧ nread ≤ s.fifo.length
  · rw [if_pos answers]
    obtain ⟨-, asked, there⟩ := answers
    have cut : s.buf ++ s.fifo = (s.buf ++ s.fifo.take nread) ++ s.fifo.drop nread := by
      rw [List.append_assoc, List.take_append_drop]
    have length : (s.buf ++ s.fifo.take nread).length = s.buf.length + nread := by
      rw [List.length_append, List.length_take_of_le there]
    have conserved := streams.conserved
    have short := streams.short
    rw [cut] at conserved
    by_cases complete : (s.buf ++ s.fifo.take nread).length = sizeofExchange
    · obtain ⟨packet, command, consumed, daemon⟩ :=
        @checkCmdEvent_packet b calls (s.buf ++ s.fifo.take nread) s.daemon
      simp only [complete, if_true]
      refine ⟨?_, Nat.zero_lt_succ _, fun effect member other other_packet => ?_, ?_⟩
      · simp [conserved, consumed]
      · rcases List.mem_append.mp member with old | new
        · exact streams.whole effect old other other_packet
        · obtain rfl := List.mem_singleton.mp new
          obtain rfl := Option.some.inj (packet.symm.trans other_packet)
          exact ⟨complete, command⟩
      · rw [List.filterMap_append, final_append, ← streams.daemon]
        exact daemon
    · simp only [if_neg complete, List.append_nil]
      refine ⟨conserved, ?_, streams.whole, streams.daemon⟩
      show (s.buf ++ s.fifo.take nread).length < sizeofExchange
      omega
  · rw [if_neg answers, List.append_nil]
    exact streams

theorem Streams.whole_append (streams : Streams b first arrived outs s) {effect : LoopEffect}
    (none : packetOf effect = none) : ∀ effect' ∈ outs ++ [effect], ∀ packet,
      packetOf effect' = some packet →
        packet.length = sizeofExchange ∧ commandOf effect' = decode packet := by
  intro effect' member packet taken
  rcases List.mem_append.mp member with old | new
  · exact streams.whole effect' old packet taken
  · rw [List.mem_singleton.mp new, none] at taken
    cases taken

theorem Streams.step (streams : Streams b first arrived outs s) (e : LoopEvent) :
    Streams b first (arrived ++ bytesWritten e) (outs ++ (loopStep b s e).2) (loopStep b s e).1 := by
  cases e with
  | writes bytes =>
      simp only [loopStep, bytesWritten, List.append_nil]
      refine ⟨?_, streams.short, streams.whole, streams.daemon⟩
      simp [streams.conserved]
  | reads nread calls =>
      show Streams b first (arrived ++ []) _ _
      rw [List.append_nil]
      exact streams.readn nread calls
  | fails =>
      simp only [loopStep, bytesWritten, List.append_nil]
      refine ⟨?_, Nat.zero_lt_succ _, streams.whole_append rfl, ?_⟩
      · simp [streams.conserved, consumedBy]
      · rw [List.filterMap_append, final_append, ← streams.daemon]
        rfl
  | display on calls =>
      simp only [loopStep, bytesWritten, List.append_nil]
      refine ⟨?_, streams.short, streams.whole_append rfl, ?_⟩
      · simp [streams.conserved, consumedBy]
      · rw [List.filterMap_append, final_append, ← streams.daemon]
        rfl

theorem run_streams (b : Build) (first : Daemon) (es : List LoopEvent) :
    Streams b first (es.flatMap bytesWritten) (outputs (loopStep b) (.new first) es)
      (final (loopStep b) (.new first) es) := by
  induction es using List.reverseRecOn with
  | nil => exact streams_start
  | append_singleton es e ih =>
      have now : outputs (loopStep b) (final (loopStep b) (.new first) es) [e] =
          (loopStep b (final (loopStep b) (.new first) es) e).2 := List.append_nil _
      rw [List.flatMap_append, outputs_append, final_append, now, List.flatMap_singleton]
      exact ih.step e

/-! ## Streams of commands -/

theorem intAt_append (front back : List UInt8) (x : BitVec 32) :
    intAt (front ++ (leBytes 4 x.toNat ++ back)) front.length = x := by
  have four : (leBytes 4 x.toNat ++ back).take 4 = leBytes 4 x.toNat := by
    rw [List.take_append_of_le_length (by simp), List.take_of_length_le (by simp)]
  rw [intAt, List.drop_left, four, leNat_leBytes x.isLt, BitVec.ofNat_toNat, BitVec.setWidth_eq]

theorem length_bytes (x : CmdExchange) : x.bytes.length = sizeofExchange := by
  simp [CmdExchange.bytes, x.length_gap, x.length_rest, sizeofExchange]

theorem decode_bytes (x : CmdExchange) : decode x.bytes = x.command := by
  have magic : intAt x.bytes 0 = x.magic := by
    have at_magic := intAt_append [] (x.gap ++ leBytes 4 x.cmd.toNat ++ leBytes 4 x.code.toNat ++
      leBytes 4 x.value.toNat ++ x.rest) x.magic
    simpa [CmdExchange.bytes] using at_magic
  have cmd : intAt x.bytes 8 = x.cmd := by
    have at_cmd := intAt_append (leBytes 4 x.magic.toNat ++ x.gap)
      (leBytes 4 x.code.toNat ++ leBytes 4 x.value.toNat ++ x.rest) x.cmd
    simpa [CmdExchange.bytes, x.length_gap] using at_cmd
  have code : intAt x.bytes 12 = x.code := by
    have at_code := intAt_append (leBytes 4 x.magic.toNat ++ x.gap ++ leBytes 4 x.cmd.toNat)
      (leBytes 4 x.value.toNat ++ x.rest) x.code
    simpa [CmdExchange.bytes, x.length_gap] using at_code
  have value : intAt x.bytes 16 = x.value := by
    have at_value := intAt_append (leBytes 4 x.magic.toNat ++ x.gap ++ leBytes 4 x.cmd.toNat ++
      leBytes 4 x.code.toNat) x.rest x.value
    simpa [CmdExchange.bytes, x.length_gap] using at_value
  rw [decode, magic, cmd, code, value, CmdExchange.command]

theorem length_consumedBy {effect : LoopEffect}
    (whole : ∀ packet, packetOf effect = some packet → packet.length = sizeofExchange) :
    (consumedBy effect).length =
      sizeofExchange * (packetOf effect).toList.length + lostBy effect := by
  cases effect with
  | handled packet | discarded packet => exact whole packet rfl
  | invalid part => exact (Nat.zero_add _).symm
  | displayed => rfl

theorem length_consumed {part : List LoopEffect}
    (whole : ∀ effect ∈ part, ∀ packet, packetOf effect = some packet →
      packet.length = sizeofExchange) :
    (part.flatMap consumedBy).length =
      sizeofExchange * (part.filterMap packetOf).length + (part.map lostBy).sum := by
  induction part with
  | nil => rfl
  | cons effect part ih =>
      have later := ih fun effect' member => whole effect' (by simp [member])
      have now := length_consumedBy (whole effect (by simp))
      have count : ((effect :: part).filterMap packetOf).length =
          (packetOf effect).toList.length + (part.filterMap packetOf).length := by
        cases taken : packetOf effect <;> simp [taken, Nat.add_comm]
      rw [List.flatMap_cons, List.length_append, later, now, count, List.map_cons, List.sum_cons,
        Nat.mul_add]
      omega

/-- Each packet that the daemon takes is where those before it end, further on by the bytes that
failed reads have lost. -/
theorem packets_shifted (b : Build) (first : Daemon) (es : List LoopEvent) :
    Throughout (fun before effect => ∀ packet, packetOf effect = some packet →
      packet = ((es.flatMap bytesWritten).drop
        (sizeofExchange * (before.filterMap packetOf).length +
          (before.map lostBy).sum)).take sizeofExchange)
      (outputs (loopStep b) (.new first) es) := by
  intro before effect after split packet taken
  have streams := run_streams b first es
  have whole : ∀ effect' ∈ before, ∀ packet', packetOf effect' = some packet' →
      packet'.length = sizeofExchange := fun effect' member packet' same =>
    (streams.whole effect' (by simp [split, member]) packet' same).1
  have size := (streams.whole effect (by simp [split]) packet taken).1
  have consumed : consumedBy effect = packet := by
    cases effect with
    | handled | discarded => exact Option.some.inj taken
    | invalid | displayed => cases taken
  rw [streams.conserved, split, List.flatMap_append, List.flatMap_cons, consumed,
    ← length_consumed whole, List.append_assoc, List.append_assoc, List.drop_left, ← size,
    List.take_left]

/-- Where no read fails inside a packet, no byte is lost. -/
theorem consumedBy_unbroken {es : List LoopEvent}
    (unbroken : ∀ t ∈ trace (loopStep b) (.new first) es, t.event = .fails → t.before.buf = []) :
    ∀ effect ∈ outputs (loopStep b) (.new first) es,
      consumedBy effect = (packetOf effect).getD [] := by
  intro effect member
  cases effect with
  | handled | discarded | displayed => rfl
  | invalid part =>
      obtain ⟨t, there, put⟩ := List.mem_flatMap.mp member
      have whole := unbroken t there
      rw [eq_react_of_mem there] at put
      generalize t.event = e at put whole
      cases e with
      | writes | display => simp [react, loopStep] at put
      | reads nread calls =>
          simp only [react, loopStep, VibeXperia.Sensord.readn] at put
          split_ifs at put
          · simp only [checkCmdEvent] at put
            split_ifs at put <;> simp at put
          · simp at put
          · simp at put
      | fails =>
          simp only [react, loopStep, List.mem_singleton] at put
          cases put
          exact whole rfl

theorem flatMap_consumedBy
    (kept : ∀ effect ∈ outs, consumedBy effect = (packetOf effect).getD []) :
    outs.flatMap consumedBy = (outs.filterMap packetOf).flatten := by
  induction outs with
  | nil => rfl
  | cons effect outs ih =>
      have later := ih fun effect' member => kept effect' (by simp [member])
      rw [List.flatMap_cons, kept effect (by simp), later]
      cases taken : packetOf effect <;> simp [taken]

theorem Streams.commands (streams : Streams b first arrived outs s) :
    outs.filterMap commandOf = (outs.filterMap packetOf).filterMap decode := by
  rw [List.filterMap_filterMap]
  apply List.filterMap_congr
  intro effect member
  cases packet : packetOf effect with
  | some packet' => exact (streams.whole effect member packet' packet).2
  | none =>
      cases effect with
      | handled | discarded => cases packet
      | invalid | displayed => rfl

/-- The commands that clients send are handled in order, however they are written and read, as long
as no read fails inside a packet. -/
theorem commands_in_order (b : Build) (first : Daemon) {es : List LoopEvent}
    {packets : List CmdExchange} {later : List UInt8}
    (sent : es.flatMap bytesWritten ++ later = packets.flatMap CmdExchange.bytes)
    (unbroken : ∀ t ∈ trace (loopStep b) (.new first) es, t.event = .fails → t.before.buf = []) :
    let outs := outputs (loopStep b) (.new first) es
    let s := final (loopStep b) (.new first) es
    ∃ done rest, packets = done ++ rest ∧
      outs.filterMap commandOf = done.filterMap CmdExchange.command ∧
      s.daemon = final (step b) first (outs.filterMap eventOf) ∧
      s.buf ++ s.fifo ++ later = rest.flatMap CmdExchange.bytes := by
  intro outs s
  have streams := run_streams b first es
  have theirs : ∀ y ∈ packets.map CmdExchange.bytes, y.length = sizeofExchange := by
    intro y member
    obtain ⟨x, -, rfl⟩ := List.mem_map.mp member
    exact length_bytes x
  have ours : ∀ y ∈ outs.filterMap packetOf, y.length = sizeofExchange := by
    intro y member
    obtain ⟨effect, there, taken⟩ := List.mem_filterMap.mp member
    exact (streams.whole effect there y taken).1
  rw [streams.conserved, flatMap_consumedBy (consumedBy_unbroken unbroken), List.append_assoc,
    List.flatMap_def] at sent
  obtain ⟨zs, split, left⟩ := exists_of_flatten_append (by decide) ours theirs sent
  obtain ⟨done, rest, rfl, taken, rfl⟩ := List.map_eq_append_iff.mp split
  refine ⟨done, rest, rfl, ?_, streams.daemon, left⟩
  rw [streams.commands, ← taken, List.filterMap_map]
  exact List.filterMap_congr fun x _ => decode_bytes x

def orientationPacket : CmdExchange where
  magic := channelPktMagicCmd
  gap := List.replicate 4 0
  cmd := 1
  code := 3
  value := 1
  rest := List.replicate 36 0
  length_gap := rfl
  length_rest := rfl

def inParts : List LoopEvent :=
  [.writes (orientationPacket.bytes.take 30), .reads 20 fun _ => quiet,
    .writes (orientationPacket.bytes.drop 30), .reads 10 fun _ => quiet, .reads 26 fun _ => quiet,
    .fails]

theorem commands_in_order_parts :
    ∃ done rest, [orientationPacket] = done ++ rest ∧
      (outputs (loopStep nicki) (.new (start nicki noErrs)) inParts).filterMap commandOf =
        done.filterMap CmdExchange.command ∧
      (final (loopStep nicki) (.new (start nicki noErrs)) inParts).daemon =
        final (step nicki) (start nicki noErrs)
          ((outputs (loopStep nicki) (.new (start nicki noErrs)) inParts).filterMap eventOf) ∧
      (final (loopStep nicki) (.new (start nicki noErrs)) inParts).buf ++
        (final (loopStep nicki) (.new (start nicki noErrs)) inParts).fifo ++ [] =
          rest.flatMap CmdExchange.bytes := by
  refine commands_in_order nicki (start nicki noErrs) (by decide) ?_
  intro t member fails
  simp only [inParts, trace_cons, trace_nil, List.mem_cons, List.not_mem_nil, or_false] at member
  obtain rfl | rfl | rfl | rfl | rfl | rfl := member
  iterate 5 cases fails
  rfl

/-- Whatever is written, and however it is read, the counts agree with the channels that are awake,
and so does the power of hardware whose driver did not fail. -/
theorem stream_refs_agree (b : Build) (errs : InitErrs) (es : List LoopEvent) :
    let s := (final (loopStep b) (.new (start b errs)) es).daemon
    RefsAgree b s ∧ ∀ hw, (∀ e ∈ (outputs (loopStep b) (.new (start b errs)) es).filterMap eventOf,
      ∀ ch, Fine (e.calls ch) hw) → HwAgrees b s hw := by
  intro s
  have daemon := (run_streams b (start b errs) es).daemon
  generalize (outputs (loopStep b) (.new (start b errs)) es).filterMap eventOf = events at daemon ⊢
  have sound := @run_sound b (fun hw => ∀ e ∈ events, ∀ ch, Fine (e.calls ch) hw) errs events
    fun e member ch hw fine => fine e member ch
  rw [← daemon] at sound
  exact ⟨sound.agrees.refsAgree, fun hw fine => (sound.powered hw fine).hwAgrees⟩

end VibeXperia.Proof.Sensord
