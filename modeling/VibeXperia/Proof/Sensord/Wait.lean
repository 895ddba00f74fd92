import VibeXperia.Proof.Sensord.ClientTable
import VibeXperia.Sensord.Wait

namespace VibeXperia.Proof.Sensord
open Lib VibeXperia.Sensord

variable {b : Build} {calls : HwCalls} {sp : ProviderName} {ch : Sensor} {enable : Bool}
variable {s : Daemon} {t : Threads} {state : ChannelState}

/-! ## The lists of clients -/

structure Clientele (s : Daemon) : Prop where
  nodup : ∀ sp, (s.sp sp).clients.Nodup
  mem : ∀ sp ch, ch ∈ (s.sp sp).clients ↔ s.awake ch = true ∧ sp = home ch
  normal : ∀ ch, s.awake ch = true → (s.channel ch).state = .normal

theorem enableClient_nodup {clients : List Sensor} (nodup : clients.Nodup) :
    (enableClient clients ch enable).Nodup := by
  rw [enableClient]
  split_ifs with on listed
  · exact nodup.sublist (List.dropWhile_sublist _)
  · exact List.nodup_cons.mpr ⟨listed, nodup⟩
  · exact nodup.erase ch

theorem mem_enableClient {clients : List Sensor} {other : Sensor} (nodup : clients.Nodup)
    (fresh : enable = true → ch ∉ clients) :
    other ∈ enableClient clients ch enable ↔
      if other = ch then enable = true else other ∈ clients := by
  rw [enableClient]
  cases enable with
  | true =>
      rw [if_pos rfl, if_neg (fresh rfl), List.mem_cons]
      split_ifs with same <;> simp [same]
  | false =>
      rw [if_neg Bool.false_ne_true, nodup.mem_erase_iff]
      split_ifs with same <;> simp [same]

theorem Clientele.switched (clientele : Clientele s) (listed : ch ∈ gListCh b)
    (opposite : s.awake ch = !(state != .sleep)) (normal : state ≠ .sleep → state = .normal) :
    Clientele (withState (spEnableCh b calls (home ch) ch (state != .sleep) s) ch state) := by
  have awake : (withState (spEnableCh b calls (home ch) ch (state != .sleep) s) ch state).awake =
      Function.update s.awake ch (state != .sleep) := by
    rw [withState_awake, (spEnableCh_switched listed).awake]
  have clients (sp : ProviderName) := @spEnableCh_clients b calls s ch (state != .sleep) listed sp
  constructor
  case nodup =>
    intro sp
    have kept := clientele.nodup sp
    show ((spEnableCh b calls (home ch) ch (state != .sleep) s).sp sp).clients.Nodup
    rw [clients]
    split_ifs
    · exact enableClient_nodup kept
    · exact kept
  case mem =>
    intro sp other
    show other ∈ ((spEnableCh b calls (home ch) ch (state != .sleep) s).sp sp).clients ↔ _
    rw [clients, awake]
    by_cases here : sp = home ch
    · have fresh : (state != .sleep) = true → ch ∉ (s.sp sp).clients := by
        intro on inside
        have up := ((clientele.mem sp ch).mp inside).1
        rw [opposite, on] at up
        cases up
      rw [if_pos here, mem_enableClient (clientele.nodup sp) fresh]
      by_cases same : other = ch
      · simp [same, here]
      · simp [same, clientele.mem]
    · rw [if_neg here, clientele.mem]
      by_cases same : other = ch
      · simp [same, here]
      · simp [same]
  case normal =>
    intro other up
    rw [awake] at up
    by_cases same : other = ch
    · subst same
      rw [Function.update_self, bne_iff_ne] at up
      simpa [withState, Daemon.setChannel] using normal up
    · rw [Function.update_of_ne same] at up
      have kept : ((withState (spEnableCh b calls (home ch) ch (state != .sleep) s) ch
          state).channel other).state = (s.channel other).state := by
        simp [withState, Daemon.setChannel, same, spEnableCh_channel listed]
      rw [kept]
      exact clientele.normal other up

theorem Clientele.channelSetState (clientele : Clientele s) (agrees : Agrees b s)
    (normal : state ≠ .sleep → state = .normal) :
    Clientele (channelSetState b calls ch state s) := by
  cases registered : (s.channel ch).sp with
  | none => rwa [VibeXperia.Sensord.channelSetState, registered]
  | some sp =>
      obtain ⟨listed, rfl⟩ := agrees.registered ch sp registered
      rw [channelSetState_eq registered]
      split_ifs with same
      · have awake : (withState s ch state).awake = s.awake :=
          (withState_sameUses same).awake
        refine ⟨clientele.nodup, fun sp other => ?_, fun other up => ?_⟩
        · rw [awake]
          exact clientele.mem sp other
        · rw [awake] at up
          by_cases found : other = ch
          · subst found
            rw [same, bne_iff_ne] at up
            simpa [withState, Daemon.setChannel] using normal up
          · simpa [withState, Daemon.setChannel, found] using clientele.normal other up
      · apply clientele.switched listed _ normal
        cases up : s.awake ch <;> cases wanted : state != .sleep <;> simp_all

theorem Clientele.channelSetDelay (clientele : Clientele s) (value : Int) :
    Clientele (channelSetDelay b calls ch value s).2 := by
  have awake := (@channelSetDelay_sameUses b calls ch s value).1.awake
  obtain ⟨states, clients⟩ := @channelSetDelay_rest b calls s ch value
  refine ⟨fun sp => ?_, fun sp other => ?_, fun other up => ?_⟩
  · rw [clients]
    exact clientele.nodup sp
  · rw [clients, awake]
    exact clientele.mem sp other
  · rw [awake] at up
    rw [(states other).1]
    exact clientele.normal other up

theorem Clientele.command {calls : Sensor → HwCalls} (clientele : Clientele s)
    (agrees : Agrees b s) (handle cmd value : Int) :
    Clientele (channelOnCmdReceived b calls handle cmd value s).2 := by
  rw [channelOnCmdReceived]
  cases channelGetCh b handle with
  | none => exact clientele
  | some ch =>
      dsimp only
      split
      · exact clientele
      · split
        · apply clientele.channelSetState agrees
          split <;> simp
        · split
          · exact clientele.channelSetDelay value
          · exact clientele

theorem start_clientele (errs : InitErrs) : Clientele (Sensord.start b errs) := by
  have resting := @start_resting b errs
  refine ⟨fun sp => ?_, fun sp ch => ?_, fun ch up => ?_⟩
  · rw [(resting.sp sp).clients]
    exact List.nodup_nil
  · rw [(resting.sp sp).clients, resting.awake]
    simp
  · rw [resting.awake] at up
    cases up

/-! ## Signals -/

theorem channelSetStateSignals_eq (registered : (s.channel ch).sp = some sp) :
    channelSetStateSignals b calls ch state s =
      if s.awake ch = (state != .sleep) then []
      else spEnableChSignals b calls sp ch (state != .sleep) s := by
  rw [channelSetStateSignals, registered, Daemon.awake]
  cases state <;> cases (s.channel ch).state <;> rfl

theorem channelSetState_unsignaled (agrees : Agrees b s)
    (unsignaled : sp ∉ channelSetStateSignals b calls ch state s) (zero : (s.sp sp).ref = 0) :
    ((channelSetState b calls ch state s).sp sp).ref = 0 := by
  cases registered : (s.channel ch).sp with
  | none => rwa [channelSetState, registered]
  | some own =>
      obtain ⟨listed, rfl⟩ := agrees.registered ch own registered
      rw [channelSetStateSignals_eq registered] at unsignaled
      rw [channelSetState_eq registered]
      split_ifs at unsignaled ⊢ with same
      · exact zero
      · show ((spEnableCh b calls (home ch) ch (state != .sleep) s).sp sp).ref = 0
        have after := @spEnableCh_ref b calls ch (state != .sleep) s listed sp
        rw [spEnableChSignals, spEnableCh_channel listed] at unsignaled
        rw [zero] at after
        by_cases counted : (s.processed ch && sp == home ch) = true
        · rw [if_pos counted] at after
          rw [Bool.and_eq_true, Daemon.processed, Bool.not_eq_true', beq_iff_eq] at counted
          obtain ⟨processed, rfl⟩ := counted
          cases on : state != .sleep with
          | true =>
              -- The count becomes 1, and a signal is sent.
              rw [on] at after unsignaled
              have one : changeSpRef 0 true = 1 := by decide
              rw [one] at after
              simp [processed, after] at unsignaled
          | false =>
              rw [on] at after
              exact after
        · rw [if_neg counted] at after
          exact after

theorem command_unsignaled {calls : Sensor → HwCalls} (agrees : Agrees b s)
    {handle cmd value : Int}
    (unsignaled : sp ∉ channelOnCmdReceivedSignals b calls handle cmd value s)
    (zero : (s.sp sp).ref = 0) :
    ((channelOnCmdReceived b calls handle cmd value s).2.sp sp).ref = 0 := by
  rw [channelOnCmdReceivedSignals] at unsignaled
  rw [channelOnCmdReceived]
  cases found : channelGetCh b handle with
  | none => exact zero
  | some ch =>
      rw [found] at unsignaled
      dsimp only at unsignaled ⊢
      split
      · exact zero
      · rename_i available
        rw [if_neg available] at unsignaled
        split
        · rename_i active
          rw [if_pos active] at unsignaled
          exact channelSetState_unsignaled agrees unsignaled zero
        · split
          · rw [(channelSetDelay_sameUses value).2 sp]
            exact zero
          · exact zero

theorem signal_waiting {signals : List ProviderName}
    (waits : (signals.foldl Threads.signal t).re sp = .waiting) :
    sp ∉ signals ∧ t.re sp = .waiting := by
  induction signals generalizing t with
  | nil => exact ⟨List.not_mem_nil, waits⟩
  | cons first rest ih =>
      obtain ⟨later, signaled⟩ := ih waits
      rw [Threads.signal, Threads.setRe] at signaled
      by_cases same : sp = first
      · rw [same] at signaled
        dsimp only at signaled
        rw [Function.update_self] at signaled
        cases re : t.re first <;> rw [re] at signaled <;> cases signaled
      · dsimp only at signaled
        rw [Function.update_of_ne same] at signaled
        exact ⟨by simp [same, later], signaled⟩

theorem signal_daemon (signals : List ProviderName) :
    (signals.foldl Threads.signal t).daemon = t.daemon := by
  induction signals generalizing t with
  | nil => rfl
  | cons first rest ih => exact ih

/-! ## Threads -/

/-- Whoever waits without a signal has nothing to report. -/
structure Idle (b : Build) (t : Threads) : Prop where
  agrees : Agrees b t.daemon
  clientele : Clientele t.daemon
  waiting : ∀ sp, t.re sp = .waiting → (t.daemon.sp sp).ref = 0

theorem Idle.setRe (idle : Idle b t) {re : ReState}
    (waiting : re = .waiting → (t.daemon.sp sp).ref = 0) : Idle b (t.setRe sp re) where
  agrees := idle.agrees
  clientele := idle.clientele
  waiting other waits := by
    rw [Threads.setRe] at waits
    dsimp only at waits
    by_cases same : other = sp
    · rw [same, Function.update_self] at waits
      rw [same]
      exact waiting waits
    · rw [Function.update_of_ne same] at waits
      exact idle.waiting other waits

theorem Idle.step (idle : Idle b t) (block : LockedBlock) : Idle b (t.step b block).1 := by
  cases block with
  | command handle cmd value calls =>
      have agrees : Agrees b (channelOnCmdReceived b calls handle cmd value t.daemon).2 := by
        have sound : Sound b (fun _ => False) t.daemon := ⟨idle.agrees, fun _ never => never.elim⟩
        exact (channelOnCmdReceived_sound sound (fun _ _ never => never.elim)
          handle cmd value).agrees
      constructor
      case agrees => rwa [Threads.step, signal_daemon]
      case clientele =>
        rw [Threads.step, signal_daemon]
        exact idle.clientele.command idle.agrees handle cmd value
      case waiting =>
        intro sp waits
        obtain ⟨unsignaled, before⟩ := signal_waiting waits
        rw [Threads.step, signal_daemon]
        exact command_unsignaled idle.agrees unsignaled (idle.waiting sp before)
  | locks sp =>
      rw [Threads.step]
      split_ifs with here zero
      · exact idle.setRe fun _ => zero
      · exact idle.setRe nofun
      · exact idle
  | wakes sp err =>
      rw [Threads.step]
      split_ifs
      · exact idle
      · exact idle.setRe nofun
      · exact idle.setRe nofun

theorem start_idle (errs : InitErrs) : Idle b (Threads.start b errs) where
  agrees := (@start_sound b (fun _ => False) errs).agrees
  clientele := start_clientele errs
  waiting _ := nofun

theorem Idle.reports (idle : Idle b t) (sp : ProviderName) : Reports b t sp := by
  have woken : 0 < (t.daemon.sp sp).ref → t.re sp ≠ .waiting := by
    intro used waits
    have zero := idle.waiting sp waits
    omega
  refine ⟨woken, fun ch up processed client => ⟨t.daemon.reported sp, ?_, ?_⟩⟩
  · have used : 0 < (t.daemon.sp sp).ref := by
      rw [idle.agrees.ref, Daemon.processedUsers, Int.natCast_pos, tally_pos]
      refine ⟨ch, awake_listed idle.agrees up, up, ?_⟩
      rw [processed, client]
      rfl
    cases re : t.re sp with
    | running =>
        have nonzero : (t.daemon.sp sp).ref ≠ 0 := by omega
        simp [Threads.next, Threads.step, re, nonzero, Threads.proc]
    | waiting => exact absurd re (woken used)
    | signaled => simp [Threads.next, Threads.step, re, Threads.proc]
  · have own : sp = home ch :=
      (idle.agrees.registered ch sp (by simpa [Daemon.clientOf] using client)).2
    rw [Daemon.reported, List.mem_filter]
    refine ⟨(idle.clientele.mem sp ch).mpr ⟨up, own⟩, ?_⟩
    rw [idle.clientele.normal ch up]
    exact processed

/-- After every interleaving of commands with the threads of the providers, no thread waits
without a signal for a sensor that is switched on. -/
theorem threads_report (b : Build) (errs : InitErrs) (blocks : List LockedBlock)
    (sp : ProviderName) :
    Reports b (final (Threads.step b) (Threads.start b errs) blocks) sp := by
  have idle := (@invariant Threads LockedBlock Turn (Threads.step b) (Idle b)
    (fun _ block idle => idle.step block) (Threads.start b errs) (start_idle errs) blocks).1
  exact idle.reports sp

/-- The thread waits before the orientation is switched on, and then reports it. -/
example :
    outputs (Threads.step nicki) (Threads.start nicki noErrs)
      [.locks .spFusion, .command 3 setSensorActive 1 fun _ => quiet, .wakes .spFusion 0] =
      [⟨.spFusion, [.o]⟩] := by
  decide

end VibeXperia.Proof.Sensord
