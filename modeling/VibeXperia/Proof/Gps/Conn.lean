import VibeXperia.Gps.Conn
import VibeXperia.Proof.Gps.Framing

namespace VibeXperia.Proof.Gps
open Lib VibeXperia.Gps

theorem decodeSize_lt (bytes : List UInt8) : decodeSize bytes < 256 ^ bytes.length := by
  induction bytes with
  | nil => decide
  | cons byte bytes ih =>
      have small := byte.toNat_lt
      have step : decodeSize (byte :: bytes) = byte.toNat + 256 * decodeSize bytes := rfl
      rw [step, List.length_cons, Nat.pow_succ]
      omega

theorem toNat_msgsz {header : List UInt8} (whole : header.length = sizeofMsgsz) :
    (BitVec.ofNat 32 (decodeSize header)).toNat = decodeSize header ∧
      (BitVec.ofNat 32 (decodeSize header) - 4).toNat =
        (decodeSize header + 2 ^ 32 - sizeofMsgsz) % 2 ^ 32 := by
  have small := decodeSize_lt header
  rw [whole] at small
  have size : sizeofMsgsz = 4 := rfl
  have four : (4 : BitVec 32).toNat = 4 := rfl
  have msgsz : (BitVec.ofNat 32 (decodeSize header)).toNat = decodeSize header := by
    rw [BitVec.toNat_ofNat]
    exact Nat.mod_eq_of_lt small
  refine ⟨msgsz, ?_⟩
  rw [BitVec.toNat_sub, msgsz]
  omega

/-! ## One receive -/

theorem pipereadShort_field {pipe : List UInt8} {read : PipeRead} :
    (∃ most, read = .takes most ∧ sizeofMsgsz ≤ most) ∧ sizeofMsgsz ≤ pipe.length ∧
        pipereadShort pipe read 4 =
          ((sizeofMsgsz : Int), pipe.take sizeofMsgsz, pipe.drop sizeofMsgsz) ∨
      ¬ ((∃ most, read = .takes most ∧ sizeofMsgsz ≤ most) ∧ sizeofMsgsz ≤ pipe.length) ∧
        (pipereadShort pipe read 4).1 ≠ sizeofMsgsz := by
  cases read with
  | fails =>
      refine .inr ⟨?_, by simp [pipereadShort]⟩
      rintro ⟨⟨most, failed, -⟩, -⟩
      cases failed
  | takes most =>
      by_cases whole : sizeofMsgsz ≤ most ∧ sizeofMsgsz ≤ pipe.length
      · have len : min (min most (4 : BitVec 32).toNat) pipe.length = sizeofMsgsz := by
          have : (4 : BitVec 32).toNat = sizeofMsgsz := rfl
          omega
        refine .inl ⟨⟨most, rfl, whole.1⟩, whole.2, ?_⟩
        simp only [pipereadShort, len]
        rw [signed_of_lt (by omega) (by decide)]
      · refine .inr ⟨?_, ?_⟩
        · rintro ⟨⟨most', same, enough⟩, long⟩
          cases same
          exact whole ⟨enough, long⟩
        · have : (4 : BitVec 32).toNat = sizeofMsgsz := rfl
          have size : sizeofMsgsz = 4 := rfl
          have short : min (min most (4 : BitVec 32).toNat) pipe.length < 4 := by omega
          have result : (pipereadShort pipe (.takes most) 4).1 =
              (min (min most (4 : BitVec 32).toNat) pipe.length : Nat) := by
            simp only [pipereadShort]
            exact signed_of_lt (by omega) (by omega)
          rw [result]
          omega

theorem asked_inside_iff (pipe : List UInt8) (call : Receive) :
    (∀ asked ∈ (receiveStep pipe call).2, asked.Inside call) ↔ LengthHolds pipe call := by
  have size : sizeofMsgsz = 4 := rfl
  have room := call.holdsMsgsz
  have field : (⟨0, 4⟩ : Asked).Inside call := by
    have : (4 : BitVec 32).toNat = 4 := rfl
    unfold Asked.Inside
    dsimp only
    omega
  unfold LengthHolds receiveStep msgrcvShort
  dsimp only
  rcases pipereadShort_field with ⟨whole, long, read⟩ | ⟨short, read⟩
  · rw [read]
    have length : (pipe.take sizeofMsgsz).length = sizeofMsgsz := by
      rw [List.length_take, Nat.min_eq_left long]
    obtain ⟨msgsz, rest⟩ := toNat_msgsz length
    have small := call.msgbufsz.isLt
    dsimp only
    rw [if_neg (by simp)]
    by_cases tooLarge : call.msgbufsz < BitVec.ofNat 32 (decodeSize (pipe.take sizeofMsgsz))
    · rw [if_pos tooLarge]
      rw [BitVec.lt_def, msgsz] at tooLarge
      refine iff_of_true ?_ fun _ _ => by omega
      simpa using field
    · have asked (received : Receipt) (both : received.asked =
          [⟨0, 4⟩, ⟨sizeofMsgsz, BitVec.ofNat 32 (decodeSize (pipe.take sizeofMsgsz)) - 4⟩]) :
          (∀ asked ∈ received.asked, asked.Inside call) ↔
            4 ≤ decodeSize (pipe.take sizeofMsgsz) := by
        rw [both, List.forall_mem_cons, List.forall_mem_singleton, and_iff_right field,
          Asked.Inside]
        rw [BitVec.lt_def, msgsz] at tooLarge
        dsimp only
        rw [rest]
        omega
      rw [if_neg tooLarge]
      have holds : (((∃ most, call.first = .takes most ∧ sizeofMsgsz ≤ most) →
          sizeofMsgsz ≤ pipe.length → sizeofMsgsz ≤ decodeSize (pipe.take sizeofMsgsz)) ↔
            4 ≤ decodeSize (pipe.take sizeofMsgsz)) :=
        ⟨fun all => all whole long, fun all _ _ => all⟩
      rw [holds]
      split
      · exact asked _ rfl
      · exact asked _ rfl
  · rw [if_pos read]
    refine iff_of_true ?_ fun whole long => absurd ⟨whole, long⟩ short
    simpa using field

/-- A run of receives asks for nothing outside its buffers exactly when no length field that it
reads is smaller than itself. -/
theorem receives_inside_iff (pipe : List UInt8) (calls : List Receive) :
    (∀ t ∈ trace receiveStep pipe calls, ∀ asked ∈ t.outputs, asked.Inside t.event) ↔
      ∀ t ∈ trace receiveStep pipe calls, LengthHolds t.before t.event := by
  have meets (pipe : List UInt8) (call : Receive) (_ : True) := asked_inside_iff pipe call
  exact run_iff meets (fun _ _ _ _ => trivial) trivial

theorem receive_outside : ¬ ∀ t ∈ trace receiveStep [0, 0, 0, 0]
    [⟨272, by decide, .takes 4, .takes 0⟩], ∀ asked ∈ t.outputs, asked.Inside t.event := by
  intro inside
  have payload := inside _ (.head _) ⟨4, -4⟩ (by decide)
  exact absurd payload (by unfold Asked.Inside; decide)

/-! ## Reads that wait -/

theorem pipereadShort_of_piperead {pipe bytes rest : List UInt8} {sz : BitVec 32}
    {room most : Nat} (read : piperead pipe room sz.toNat = some (bytes, rest))
    (enough : sz.toNat ≤ most) :
    pipereadShort pipe (.takes most) sz = (sz.toInt, bytes, rest) := by
  unfold piperead at read
  split at read
  case isFalse => cases read
  case isTrue long =>
    obtain ⟨rfl, rfl⟩ := Prod.mk.inj (Option.some.inj read)
    have len : min (min most sz.toNat) pipe.length = sz.toNat := by omega
    rw [pipereadShort, len, BitVec.toInt_eq_toNat_bmod]
    rfl

theorem msgrcvShort_of_msgrcv {pipe last : List UInt8} {call : Receive} {received : Received}
    (waits : msgrcv pipe call.msgbufsz.toNat = some (received, last))
    (first : call.first = .takes (2 ^ 32)) (second : call.second = .takes (2 ^ 32)) :
    (msgrcvShort pipe call).received = received ∧ (msgrcvShort pipe call).pipe = last := by
  rw [msgrcv, Option.bind_eq_bind, Option.bind_eq_some_iff] at waits
  obtain ⟨⟨header, pipe'⟩, field, waits⟩ := waits
  have whole : header.length = sizeofMsgsz := by
    unfold piperead at field
    split at field
    case isFalse => cases field
    case isTrue long =>
      obtain ⟨rfl, -⟩ := Prod.mk.inj (Option.some.inj field)
      rw [List.length_take, Nat.min_eq_left long.2]
  obtain ⟨msgsz, rest⟩ := toNat_msgsz whole
  have read : pipereadShort pipe call.first 4 = ((sizeofMsgsz : Int), header, pipe') := by
    rw [first]
    exact @pipereadShort_of_piperead pipe header pipe' 4 _ (2 ^ 32) field (by decide)
  unfold msgrcvShort
  dsimp only at waits ⊢
  rw [read]
  dsimp only
  rw [if_neg (by simp)]
  by_cases tooLarge : call.msgbufsz.toNat < decodeSize header
  · rw [if_pos tooLarge] at waits
    obtain ⟨rfl, rfl⟩ := Prod.mk.inj (Option.some.inj waits)
    rw [if_pos (by rw [BitVec.lt_def, msgsz]; exact tooLarge)]
    exact ⟨rfl, rfl⟩
  · rw [if_neg tooLarge, Option.bind_eq_some_iff] at waits
    obtain ⟨⟨payload, pipe''⟩, payloadRead, waits⟩ := waits
    obtain ⟨rfl, rfl⟩ := Prod.mk.inj (Option.some.inj waits)
    rw [← rest] at payloadRead
    have later := @pipereadShort_of_piperead _ _ _ _ _ (2 ^ 32) payloadRead
      (Nat.le_of_lt (BitVec.isLt _))
    rw [if_neg (by rw [BitVec.lt_def, msgsz]; exact tooLarge), second, later]
    dsimp only
    rw [if_neg (by simp), BitVec.toInt_eq_toNat_bmod, msgsz]
    exact ⟨rfl, rfl⟩

end VibeXperia.Proof.Gps
