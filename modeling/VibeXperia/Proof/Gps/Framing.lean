import Mathlib.Algebra.Order.BigOperators.Group.List
import Mathlib.Algebra.Order.Group.Nat
import VibeXperia.Gps.Framing

namespace VibeXperia.Proof.Gps
open Lib VibeXperia.Gps

variable {pipe rest more : List UInt8} {m : Message} {msgbufsz n : Nat} {r : Received}
variable {es later : List PipeEvent} {rs : List Received}

/-! ## One message -/

theorem encodeSize_length : (encodeSize n).length = sizeofMsgsz := by
  rw [encodeSize, List.length_map, List.length_range]

theorem decode_encode (small : n < 2 ^ 32) : decodeSize (encodeSize n) = n := by
  simp [encodeSize, decodeSize, sizeofMsgsz, List.range_succ]
  omega

theorem piperead_append {bytes : List UInt8} {room : Nat} (fits : bytes.length ≤ room) :
    piperead (bytes ++ rest) room bytes.length = some (bytes, rest) := by
  simp [piperead, fits]

theorem piperead_split {bytes : List UInt8} {room sz : Nat}
    (read : piperead pipe room sz = some (bytes, rest)) :
    pipe = bytes ++ rest ∧ bytes.length = sz ∧ sz ≤ room := by
  rw [piperead] at read
  split_ifs at read with enough
  cases read
  exact ⟨(List.take_append_drop sz pipe).symm, List.length_take_of_le enough.2, enough.1⟩

theorem sent_length (m : Message) : m.sent.length = m.size := by
  have header := m.header
  rw [Message.sent, List.length_append, encodeSize_length, Message.payload, List.length_drop,
    Message.size]
  omega

theorem payload_length (m : Message) : sizeofMsgsz + m.payload.length = m.size := by
  rw [← sent_length, Message.sent, List.length_append, encodeSize_length]

theorem msgsnd_sent (m : Message) : (msgsnd pipe m.bytes m.size).2 = pipe ++ m.sent := by
  have whole : (encodeSize m.size ++ m.bytes.drop sizeofMsgsz).take m.size = m.sent := by
    show m.sent.take m.size = m.sent
    rw [← sent_length, List.take_length]
  show pipe ++ (encodeSize m.size ++ m.bytes.drop sizeofMsgsz).take m.size = pipe ++ m.sent
  rw [whole]

theorem signed_size (m : Message) : signed 32 m.size = m.size := by
  have writable := m.writable
  apply signed_of_lt
  · omega
  · rw [Message.size]
    omega

theorem msgrcv_sent (m : Message) (fits : m.size ≤ msgbufsz) :
    msgrcv (m.sent ++ rest) msgbufsz = some (m.received msgbufsz, rest) := by
  have writable := m.writable
  have length := payload_length m
  have four : sizeofMsgsz = 4 := rfl
  have small : m.size < 2 ^ 32 := by
    rw [Message.size]
    omega
  have header : piperead (m.sent ++ rest) msgbufsz sizeofMsgsz =
      some (encodeSize m.size, m.payload ++ rest) := by
    rw [Message.sent, List.append_assoc, ← @encodeSize_length m.size]
    apply piperead_append
    rw [encodeSize_length]
    omega
  have count : (m.size + 2 ^ 32 - sizeofMsgsz) % 2 ^ 32 = m.payload.length := by omega
  have room : m.payload.length ≤ msgbufsz - sizeofMsgsz := by omega
  rw [msgrcv, header]
  simp only [Option.bind_eq_bind, Option.bind_some, decode_encode small, count,
    piperead_append room]
  rw [if_neg (Nat.not_lt.mpr fits), Message.received, if_pos fits, signed_size]
  rfl

/-! ## What a receive takes from the pipe -/

def consumed : Received → Nat
  | .message _ msg => msg.length
  | .failed => sizeofMsgsz

theorem msgrcv_consumed (received : msgrcv pipe msgbufsz = some (r, rest)) :
    ∃ taken, pipe = taken ++ rest ∧ taken.length = consumed r ∧
      (∀ result msg, r = .message result msg → taken = msg) ∧ sizeofMsgsz ≤ msgbufsz := by
  rw [msgrcv, Option.bind_eq_bind, Option.bind_eq_some_iff] at received
  obtain ⟨⟨header, pipe'⟩, first, received⟩ := received
  obtain ⟨rfl, length, room⟩ := piperead_split first
  dsimp only at received
  generalize signed 32 (decodeSize header) = result at received
  generalize (decodeSize header + 2 ^ 32 - sizeofMsgsz) % 2 ^ 32 = count at received
  split_ifs at received with big
  · cases received
    exact ⟨header, rfl, length, by simp, room⟩
  · rw [Option.bind_eq_some_iff] at received
    obtain ⟨⟨bytes, pipe''⟩, second, received⟩ := received
    obtain ⟨rfl, -⟩ := piperead_split second
    cases received
    refine ⟨header ++ bytes, (List.append_assoc ..).symm, rfl, ?_, room⟩
    intro result msg same
    cases same
    rfl

/-! ## Runs -/

def stream (ms : List Message) : List UInt8 := ms.flatMap Message.sent

theorem pipeRun_append : pipeRun (es ++ later) pipe = (pipeRun es pipe).bind fun first =>
    (pipeRun later first.2).map fun second => (first.1 ++ second.1, second.2) := by
  induction es generalizing pipe with
  | nil => simp [pipeRun]
  | cons e es ih =>
      cases e with
      | msgsnd m => exact ih
      | msgrcv msgbufsz =>
          rw [List.cons_append, pipeRun, pipeRun]
          cases received : msgrcv pipe msgbufsz with
          | none => rfl
          | some first =>
              simp only [Option.bind_eq_bind, Option.bind_some, ih]
              cases rest : pipeRun es first.2 with
              | none => rfl
              | some middle =>
                  simp only [Option.bind_some, Option.map_eq_bind]
                  cases pipeRun later middle.2 <;> rfl

theorem messages_append : messages (es ++ later) = messages es ++ messages later := by
  induction es with
  | nil => rfl
  | cons e es ih => cases e <;> simp [messages, ih]

theorem buffers_append : buffers (es ++ later) = buffers es ++ buffers later := by
  induction es with
  | nil => rfl
  | cons e es ih => cases e <;> simp [buffers, ih]

theorem timely_append : timely n (es ++ later) = true ↔ timely n es = true ∧
    timely (n + (messages es).length - (buffers es).length) later = true := by
  induction es generalizing n with
  | nil => simp [timely, messages, buffers]
  | cons e es ih =>
      cases e with
      | msgsnd m =>
          rw [List.cons_append, timely, timely, ih, messages, buffers, List.length_cons]
          congr! 3
          omega
      | msgrcv msgbufsz =>
          rw [List.cons_append, timely, timely, Bool.and_eq_true, Bool.and_eq_true, ih, and_assoc,
            messages, buffers, List.length_cons]
          apply and_congr_right
          intro some'
          have pos : 0 < n := by simpa using some'
          congr! 3
          omega

theorem timely_length (timed : timely n es = true) :
    (buffers es).length ≤ n + (messages es).length := by
  induction es generalizing n with
  | nil => simp [buffers]
  | cons e es ih =>
      cases e with
      | msgsnd m =>
          have := ih timed
          rw [messages, buffers, List.length_cons]
          omega
      | msgrcv msgbufsz =>
          rw [timely, Bool.and_eq_true, decide_eq_true_eq] at timed
          have := ih timed.2
          rw [messages, buffers, List.length_cons]
          omega

/-- Nothing but whole messages is in the pipe, as long as each fits its buffer. -/
theorem pipeRun_stream {ms : List Message} (timed : timely ms.length es = true)
    (fit : ∀ p ∈ (ms ++ messages es).zip (buffers es), p.1.size ≤ p.2) :
    (pipeRun es (stream ms)).map Prod.fst =
      some (((ms ++ messages es).zip (buffers es)).map fun p => p.1.received p.2) := by
  induction es generalizing ms with
  | nil => simp [pipeRun, buffers]
  | cons e es ih =>
      cases e with
      | msgsnd m =>
          have sent : stream ms ++ m.sent = stream (ms ++ [m]) := by simp [stream]
          have same : ms ++ messages (.msgsnd m :: es) = (ms ++ [m]) ++ messages es :=
            List.append_cons ..
          rw [pipeRun, msgsnd_sent, sent, same]
          rw [same] at fit
          apply ih _ fit
          rw [List.length_append, List.length_singleton]
          exact timed
      | msgrcv msgbufsz =>
          rw [timely, Bool.and_eq_true] at timed
          cases ms with
          | nil => simp at timed
          | cons m ms =>
              rw [messages, buffers, List.cons_append, List.zip_cons_cons] at fit ⊢
              rw [List.forall_mem_cons] at fit
              have whole : msgrcv (stream (m :: ms)) msgbufsz =
                  some (m.received msgbufsz, stream ms) := msgrcv_sent m fit.1
              have rest := @ih ms timed.2 fit.2
              rw [Option.map_eq_some_iff] at rest
              obtain ⟨⟨rs, pipe⟩, run, same⟩ := rest
              rw [pipeRun, whole]
              simp only [Option.bind_eq_bind, Option.bind_some, run, Option.map_some, List.map_cons]
              rw [← same]

theorem pipeRun_consumed (run : pipeRun es pipe = some (rs, rest)) :
    ∃ taken, pipe ++ stream (messages es) = taken ++ rest ∧
      taken.length = (rs.map consumed).sum := by
  induction es generalizing pipe rs with
  | nil =>
      cases run
      exact ⟨[], List.append_nil _, rfl⟩
  | cons e es ih =>
      cases e with
      | msgsnd m =>
          rw [pipeRun, msgsnd_sent] at run
          obtain ⟨taken, same, length⟩ := ih run
          rw [List.append_assoc] at same
          exact ⟨taken, same, length⟩
      | msgrcv msgbufsz =>
          rw [pipeRun, Option.bind_eq_bind, Option.bind_eq_some_iff] at run
          obtain ⟨⟨r, pipe'⟩, received, run⟩ := run
          rw [Option.bind_eq_bind, Option.bind_eq_some_iff] at run
          obtain ⟨⟨rs', rest'⟩, run, same⟩ := run
          cases same
          obtain ⟨first, rfl, length, -⟩ := msgrcv_consumed received
          obtain ⟨taken, same, length'⟩ := ih run
          refine ⟨first ++ taken, ?_, ?_⟩
          · rw [List.append_assoc, List.append_assoc, ← same]
            rfl
          · rw [List.length_append, List.map_cons, List.sum_cons, length, length']

theorem pipeRun_room (run : pipeRun es pipe = some (rs, rest)) :
    ∀ msgbufsz ∈ buffers es, sizeofMsgsz ≤ msgbufsz := by
  induction es generalizing pipe rs rest with
  | nil => simp [buffers]
  | cons e es ih =>
      cases e with
      | msgsnd m => exact ih run
      | msgrcv msgbufsz =>
          rw [pipeRun, Option.bind_eq_bind, Option.bind_eq_some_iff] at run
          obtain ⟨⟨r, pipe'⟩, received, run⟩ := run
          rw [Option.bind_eq_bind, Option.bind_eq_some_iff] at run
          obtain ⟨⟨rs', rest'⟩, run, -⟩ := run
          obtain ⟨-, -, -, -, room⟩ := msgrcv_consumed received
          rw [buffers, List.forall_mem_cons]
          exact ⟨room, ih run⟩

theorem consumed_received (m : Message) :
    consumed (m.received msgbufsz) = if m.size ≤ msgbufsz then m.size else sizeofMsgsz := by
  rw [Message.received]
  split_ifs
  · exact sent_length m
  · rfl

theorem consumed_le (m : Message) : consumed (m.received msgbufsz) ≤ m.size := by
  rw [consumed_received]
  split_ifs
  · exact Nat.le_refl _
  · exact m.header

/-! ## Receiving what is in the pipe, and then some more -/

def outstanding (es : List PipeEvent) : List Message := (messages es).drop (buffers es).length

def receiveAll (ms : List Message) : List PipeEvent := ms.map fun m => .msgrcv m.size

def exchange (ms : List Message) : List PipeEvent :=
  ms.flatMap fun m => [.msgsnd m, .msgrcv m.size]

variable {ms : List Message}

theorem messages_receiveAll : messages (receiveAll ms) = [] := by
  induction ms with
  | nil => rfl
  | cons m ms ih => exact ih

theorem buffers_receiveAll : buffers (receiveAll ms) = ms.map Message.size := by
  induction ms with
  | nil => rfl
  | cons m ms ih => exact congrArg (m.size :: ·) ih

theorem timely_receiveAll : timely ms.length (receiveAll ms) = true := by
  induction ms with
  | nil => rfl
  | cons m ms ih => simpa [receiveAll, timely] using ih

theorem messages_exchange : messages (exchange ms) = ms := by
  induction ms with
  | nil => rfl
  | cons m ms ih => exact congrArg (m :: ·) ih

theorem buffers_exchange : buffers (exchange ms) = ms.map Message.size := by
  induction ms with
  | nil => rfl
  | cons m ms ih => exact congrArg (m.size :: ·) ih

theorem timely_exchange : timely n (exchange ms) = true := by
  induction ms with
  | nil => rfl
  | cons m ms ih => simpa [exchange, timely] using ih

def afterwards (es : List PipeEvent) (ms : List Message) : List PipeEvent :=
  receiveAll (outstanding es) ++ exchange ms

theorem timely_afterwards (timed : timely 0 es = true) :
    timely 0 (es ++ afterwards es ms) = true := by
  rw [timely_append, afterwards, timely_append]
  refine ⟨timed, ?_, timely_exchange⟩
  rw [Nat.zero_add, ← List.length_drop]
  exact timely_receiveAll

theorem take_pairs (timed : timely 0 es = true) :
    (pairs (es ++ later)).take (buffers es).length = pairs es := by
  have enough := timely_length timed
  rw [Nat.zero_add] at enough
  rw [pairs, messages_append, buffers_append, List.zip, List.take_zipWith, List.take_left,
    List.take_append_of_le_length enough]
  show ((messages es).take (buffers es).length).zip (buffers es) = pairs es
  rw [pairs, @List.zip_eq_zip_take_min _ _ (messages es), Nat.min_eq_right enough,
    List.take_length]

theorem pairs_afterwards (timed : timely 0 es = true) :
    pairs (es ++ afterwards es ms) =
      pairs es ++ (outstanding es ++ ms).map fun m => (m, m.size) := by
  have enough := timely_length timed
  rw [Nat.zero_add] at enough
  have split : messages es = (messages es).take (buffers es).length ++ outstanding es :=
    (List.take_append_drop ..).symm
  have first : pairs es = ((messages es).take (buffers es).length).zip (buffers es) := by
    rw [pairs, List.zip_eq_zip_take_min, Nat.min_eq_right enough, List.take_length]
  rw [pairs, messages_append, buffers_append, afterwards, messages_append, buffers_append,
    messages_receiveAll, buffers_receiveAll, messages_exchange, buffers_exchange,
    ← List.map_append, List.nil_append, first]
  conv_lhs => rw [split, List.append_assoc]
  rw [List.zip_append (List.length_take_of_le enough)]
  have own := @List.zip_map' _ _ _ id Message.size (outstanding es ++ ms)
  rw [List.map_id] at own
  rw [own]
  rfl

theorem toReceive_afterwards (timed : timely 0 es = true) :
    toReceive (es ++ afterwards es ms) =
      toReceive es ++ (outstanding es ++ ms).map fun m => .message m.size m.sent := by
  rw [toReceive, pairs_afterwards timed, List.map_append, List.map_map]
  congr 2
  funext m
  exact if_pos (Nat.le_refl _)

theorem framed_afterwards (framed : Framed es) (timed : timely 0 es = true) (ms : List Message) :
    (pipeRun (es ++ afterwards es ms) []).map Prod.fst =
      some (toReceive es ++ (outstanding es ++ ms).map fun m => .message m.size m.sent) := by
  rw [← toReceive_afterwards timed]
  apply framed _ (timely_afterwards timed)
  have enough := timely_length timed
  rw [Nat.zero_add] at enough
  have length : (buffers es).length = (pairs es).length := by
    rw [pairs, List.length_zip, Nat.min_eq_right enough]
  rw [pairs_afterwards timed, length, List.drop_left]
  intro p listed
  obtain ⟨m, -, rfl⟩ := List.mem_map.mp listed
  exact Nat.le_refl m.size

theorem messages_afterwards : messages (es ++ afterwards es ms) = messages es ++ ms := by
  rw [messages_append, afterwards, messages_append, messages_receiveAll, messages_exchange,
    List.nil_append]

theorem sum_sizes (timed : timely 0 es = true) :
    (stream (messages es)).length =
      ((pairs (es ++ afterwards es [])).map fun p => p.1.size).sum := by
  have enough := timely_length timed
  rw [Nat.zero_add] at enough
  have all : (messages es).length ≤ (buffers (es ++ afterwards es [])).length := by
    rw [buffers_append, afterwards, buffers_append, buffers_receiveAll, outstanding,
      List.length_append, List.length_append, List.length_map, List.length_drop]
    omega
  have firsts : (pairs (es ++ afterwards es [])).map Prod.fst = messages es := by
    rw [pairs, messages_afterwards, List.append_nil, List.map_fst_zip all]
  rw [← firsts, stream, List.length_flatMap, List.map_map]
  congr 2
  funext p
  exact sent_length p.1

theorem pipeRun_exchange (x : Message) : pipeRun (exchange [x]) pipe =
    (msgrcv (pipe ++ x.sent) x.size).map fun received => ([received.1], received.2) := by
  show pipeRun [.msgrcv x.size] (msgsnd pipe x.bytes x.size).2 = _
  rw [msgsnd_sent, pipeRun]
  cases msgrcv (pipe ++ x.sent) x.size <;> rfl

/-- Once everything was received, another message has to follow what is left; and the size of each
message had room. -/
theorem left_over (framed : Framed es) (timed : timely 0 es = true) :
    ∃ rest : List UInt8,
      (((pairs (es ++ afterwards es [])).map fun p => consumed (p.1.received p.2))).sum +
        rest.length = ((pairs (es ++ afterwards es [])).map fun p => p.1.size).sum ∧
      (∀ p ∈ pairs es, sizeofMsgsz ≤ p.2) ∧ ∀ x : Message, ∃ rest', rest ++ x.sent = x.sent ++ rest' := by
  have all := framed_afterwards framed timed []
  rw [← toReceive_afterwards timed, Option.map_eq_some_iff] at all
  obtain ⟨⟨rs, rest⟩, run, same⟩ := all
  dsimp only at same
  refine ⟨rest, ?_, ?_, ?_⟩
  · obtain ⟨taken, whole, length⟩ := pipeRun_consumed run
    rw [messages_afterwards, List.append_nil, List.nil_append] at whole
    have sizes := sum_sizes timed
    rw [whole, List.length_append, length, same, toReceive, List.map_map] at sizes
    exact sizes
  · intro p listed
    apply pipeRun_room run
    rw [buffers_append]
    exact List.mem_append_left _ (List.of_mem_zip listed).2
  · intro x
    have more := framed_afterwards framed timed [x]
    have split : es ++ afterwards es [x] = es ++ afterwards es [] ++ exchange [x] := by
      simp [afterwards, exchange]
    rw [split, pipeRun_append, run, Option.bind_some, pipeRun_exchange, Option.map_map,
      Option.map_map, Option.map_eq_some_iff] at more
    obtain ⟨⟨r, rest'⟩, received, more⟩ := more
    rw [toReceive_afterwards timed, List.append_nil] at same
    rw [Function.comp_apply, Function.comp_apply, same, List.map_append, ← List.append_assoc]
      at more
    have returned := List.append_cancel_left more
    obtain ⟨taken, whole, -, msg, -⟩ := msgrcv_consumed received
    rw [msg x.size x.sent (List.singleton_inj.mp returned)] at whole
    exact ⟨rest', whole⟩

theorem sent_head (m : Message) : m.sent.head? = some (UInt8.ofNat m.size) := by
  rw [Message.sent, List.head?_append_of_ne_nil]
  · simp [encodeSize, sizeofMsgsz, List.range_succ]
  · simp [encodeSize, sizeofMsgsz, List.range_succ]

def bareHeader : Message := ⟨[0, 0, 0, 0], by decide, by decide⟩

theorem nothing_left {rest : List UInt8}
    (follows : ∀ x : Message, ∃ rest', rest ++ x.sent = x.sent ++ rest') : rest = [] := by
  cases rest with
  | nil => rfl
  | cons byte rest =>
      have head : ∀ x : Message, byte = UInt8.ofNat x.size := by
        intro x
        obtain ⟨rest', same⟩ := follows x
        have heads := congrArg List.head? same
        have nonempty : x.sent ≠ [] := by
          intro empty
          have := sent_head x
          simp [empty] at this
        rw [List.head?_append_of_ne_nil _ nonempty, sent_head] at heads
        exact Option.some.inj heads
      have four := head bareHeader
      have five := head ⟨[0, 0, 0, 0, 0], by decide, by decide⟩
      rw [four] at five
      simp [Message.size, bareHeader] at five

/-- Every receive returns its own message, whatever follows, if and only if each message fits the
buffer that it is received with. -/
theorem messages_framed (timed : timely 0 es = true) :
    Framed es ↔ ∀ p ∈ pairs es, p.1.size ≤ p.2 := by
  constructor
  · intro framed p listed
    obtain ⟨rest, total, room, follows⟩ := left_over framed timed
    rw [nothing_left follows, List.length_nil, Nat.add_zero] at total
    by_contra! big
    apply Nat.ne_of_lt (List.sum_lt_sum _ _ _ _) total
    · intro p _
      exact consumed_le p.1
    · refine ⟨p, ?_, ?_⟩
      · rw [pairs_afterwards timed]
        exact List.mem_append_left _ listed
      · have header := room p listed
        rw [consumed_received, if_neg (Nat.not_le.mpr big)]
        omega
  · intro fits later timed' fit
    apply @pipeRun_stream _ [] timed'
    intro p listed
    rw [List.nil_append] at listed
    have listed : p ∈ pairs (es ++ later) := listed
    rw [← List.take_append_drop (buffers es).length (pairs (es ++ later)), take_pairs timed]
      at listed
    rcases List.mem_append.mp listed with old | new
    · exact fits p old
    · exact fit p new

/-- The second message is sent while the first waits, and a third once both are received. -/
theorem messages_framed_three :
    Framed [.msgsnd ⟨[0, 0, 0, 0, 1, 2, 3, 4], by decide, by decide⟩,
      .msgsnd ⟨[0, 0, 0, 0, 5], by decide, by decide⟩, .msgrcv 8, .msgrcv 272,
      .msgsnd ⟨[0, 0, 0, 0, 6, 7], by decide, by decide⟩, .msgrcv 272] :=
  (messages_framed (by decide)).mpr (by decide)

/-- Eight bytes of the message that was too big are received in place of the second message. -/
theorem payload_received :
    let first : Message := ⟨[0, 0, 0, 0, 8, 0, 0, 0, 1, 2, 3, 4], by decide, by decide⟩
    let second : Message := ⟨[0, 0, 0, 0, 5, 6, 7, 8], by decide, by decide⟩
    let es : List PipeEvent := [.msgsnd first, .msgsnd second, .msgrcv 8, .msgrcv 8]
    timely 0 es = true ∧
      (pipeRun es []).map Prod.fst = some [.failed, .message 8 [8, 0, 0, 0, 1, 2, 3, 4]] ∧
      toReceive es = [.failed, .message 8 [8, 0, 0, 0, 5, 6, 7, 8]] ∧ ¬Framed es := by
  intro first second es
  have got : (pipeRun es []).map Prod.fst = some [.failed, .message 8 [8, 0, 0, 0, 1, 2, 3, 4]] := by
    decide
  refine ⟨by decide, got, by decide, ?_⟩
  intro framed
  have returned := framed [] (by decide) (by decide)
  rw [List.append_nil, got] at returned
  revert returned
  decide

end VibeXperia.Proof.Gps
