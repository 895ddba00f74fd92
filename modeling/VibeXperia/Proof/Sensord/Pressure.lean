import VibeXperia.Sensord.Pressure
import VibeXperia.Proof.Sensord.Delay
import VibeXperia.Proof.Sensord.Boot

namespace VibeXperia.Proof.Sensord
open Lib VibeXperia.Sensord

variable {b : Build} {calls : HwCalls} {ch : Sensor} {s s' s'' : Daemon} {e : ChannelEvent}
variable {on : Bool} {state : ChannelState}

/-! ## What other channels leave alone -/

structure SamePressure (s s' : Daemon) : Prop where
  channel : s'.channel .p = s.channel .p
  provider : s'.sp .spPressure = s.sp .spPressure

theorem SamePressure.refl (s : Daemon) : SamePressure s s := ⟨rfl, rfl⟩

theorem SamePressure.trans (first : SamePressure s s') (second : SamePressure s' s'') :
    SamePressure s s'' :=
  ⟨second.channel.trans first.channel, second.provider.trans first.provider⟩

theorem setSp_self {sp : ProviderName} (changed : SensorProvider) :
    (s.setSp sp changed).sp sp = changed :=
  Function.update_self ..

theorem setSp_other {sp other : ProviderName} (distinct : other ≠ sp) (changed : SensorProvider) :
    (s.setSp sp changed).sp other = s.sp other :=
  Function.update_of_ne distinct ..

def ChannelEvent.channel : ChannelEvent → Sensor
  | .setState ch _ _ | .setDelay ch _ _ => ch

theorem spEnableCh_elsewhere (listed : ch ∈ gListCh b) (other : ch ≠ .p) :
    SamePressure s (spEnableCh b calls .spFusion ch on s) := by
  have atHome : home ch = .spFusion := if_neg other
  have apart : ProviderName.spPressure ≠ .spFusion := nofun
  have channel := @spEnableCh_channel b calls ch on s listed
  rw [atHome] at channel
  refine ⟨by rw [channel], ?_⟩
  have told := (@onChEnabled_rest b ch on (s.setSp .spFusion
    { s.sp .spFusion with clients := enableClient (s.sp .spFusion).clients ch on }) listed).2.1
  rw [atHome] at told
  have before : (learned b .spFusion ch on s).sp .spPressure = s.sp .spPressure := by
    rw [learned, told, setSp_other apart]
  have checked : (spReCheckDepHw b calls .spFusion (learned b .spFusion ch on s)).2.sp .spPressure =
      s.sp .spPressure := by
    rw [← before]
    exact setSp_other apart _
  rw [spEnableCh]
  split_ifs
  · exact (setSp_other apart _).trans (by rw [onHwDepChecked_sp]; exact checked)
  · refine (setSp_other apart _).trans ((setSp_other apart _).trans ?_)
    rw [onHwDepChecked_sp]
    exact checked

theorem onChIntervalChanged_elsewhere (other : ch ≠ .p) (interval : Int) :
    SamePressure s (spRecalcIntervalRe b .spFusion
      (ProviderName.spFusion.onChIntervalChanged b calls ch interval s)) := by
  have apart : ProviderName.spPressure ≠ .spFusion := nofun
  have changed : SamePressure s
      (ProviderName.spFusion.onChIntervalChanged b calls ch interval s) := by
    rw [ProviderName.onChIntervalChanged, fusionOnChIntervalChanged]
    cases fusionGetProduct b ch.type <;> exact ⟨Function.update_of_ne (Ne.symm other) .., rfl⟩
  exact changed.trans ⟨rfl, setSp_other apart _⟩

theorem handle_elsewhere (agrees : Agrees b s) (other : ChannelEvent.channel e ≠ .p) :
    SamePressure s (handle b s e).1 := by
  cases e with
  | setState ch state calls =>
      change SamePressure s (channelSetState b calls ch state s)
      cases registered : (s.channel ch).sp with
      | none =>
          rw [channelSetState, registered]
          exact .refl s
      | some sp =>
          obtain ⟨listed, rfl⟩ := agrees.registered ch sp registered
          have atHome : home ch = .spFusion := if_neg other
          rw [channelSetState_eq registered, atHome]
          have stored (t : Daemon) : SamePressure t (withState t ch state) :=
            ⟨Function.update_of_ne (Ne.symm other) .., rfl⟩
          split_ifs
          · exact stored s
          · exact (spEnableCh_elsewhere listed other).trans (stored _)
  | setDelay ch value calls =>
      change SamePressure s (channelSetDelay b calls ch value s).2
      cases registered : (s.channel ch).sp with
      | none =>
          rw [channelSetDelay, registered]
          exact .refl s
      | some sp =>
          obtain ⟨listed, rfl⟩ := agrees.registered ch sp registered
          have atHome : home ch = .spFusion := if_neg other
          rw [channelSetDelay, registered, atHome]
          dsimp only
          split_ifs
          case pos => exact .refl s
          all_goals exact onChIntervalChanged_elsewhere other _

/-! ## What the pressure channel is told -/

structure PressureInv (b : Build) (s : Daemon) : Prop where
  agrees : Agrees b s
  clients : (s.sp .spPressure).clients = if s.awake .p then [.p] else []
  cfg : .p ∈ gListCh b → GoodCfg (s.channel .p).cfg
  interval : .p ∈ gListCh b → 10 ≤ (s.channel .p).interval ∧ (s.channel .p).interval ≤ 200

theorem PressureInv.same (h : PressureInv b s) (agrees : Agrees b s') (same : SamePressure s s') :
    PressureInv b s' where
  agrees := agrees
  clients := by
    rw [same.provider, Daemon.awake, same.channel]
    exact h.clients
  cfg := by
    rw [same.channel]
    exact h.cfg
  interval := by
    rw [same.channel]
    exact h.interval

def wanted (s : Daemon) : Int :=
  max intvProcMin (if s.awake .p then Int.gcd (s.channel .p).interval 1000 else 1000)

theorem clientInterval_pressure (agrees : Agrees b s) (listed : .p ∈ gListCh b) :
    ((s.clientInterval b .spPressure : Nat) : Int) =
      if s.awake .p then (Int.gcd (s.channel .p).interval 1000 : Int) else 1000 := by
  have only (ch : Sensor) : (s.awake ch && s.clientOf .spPressure ch) = true ↔
      ch = .p ∧ s.awake .p = true := by
    constructor
    · intro client
      obtain ⟨up, registered⟩ := Bool.and_eq_true_iff.mp client
      obtain ⟨-, atHome⟩ := agrees.registered ch .spPressure (beq_iff_eq.mp registered)
      cases ch <;> first | exact ⟨rfl, up⟩ | cases atHome
    · rintro ⟨rfl, up⟩
      cases registered : (s.channel .p).sp with
      | none => exact absurd registered (agrees.served .p up)
      | some sp =>
          obtain ⟨-, rfl⟩ := agrees.registered .p sp registered
          rw [up, Daemon.clientOf, registered]
          rfl
  have clients : s.awakeClients b .spPressure = if s.awake .p then [.p] else [] := by
    rw [Daemon.awakeClients]
    split_ifs with up
    · have alone (ch : Sensor) : (s.awake ch && s.clientOf .spPressure ch) = (ch == .p) := by
        rw [Bool.eq_iff_iff, only, beq_iff_eq]
        exact and_iff_left up
      rw [List.filter_congr fun ch _ => alone ch, List.filter_beq,
        List.count_eq_one_of_mem gListCh_nodup listed, List.replicate_one]
    · rw [List.filter_eq_nil_iff]
      intro ch _ client
      exact up ((only ch).mp client).2
  rw [Daemon.clientInterval, clients]
  split_ifs <;> rfl

theorem intervalsFit_iff (agrees : Agrees b s) :
    IntervalsFit b s ↔ (.p ∈ gListCh b → ((s.sp .spPressure).interval : Int) = wanted s) := by
  have compiled : .spPressure ∈ gListSp b ↔ .p ∈ gListCh b := by
    rw [gListSp, gListCh, List.mem_filter]
    split_ifs with present <;> simp [present, Sensor.all]
  constructor
  · intro fit listed
    rw [fit .spPressure (compiled.mpr listed) rfl, clientInterval_pressure agrees listed, wanted]
  · intro fit sp member unhinted
    cases sp with
    | spFusion => cases unhinted
    | spPressure =>
        have listed := compiled.mp member
        rw [fit listed, clientInterval_pressure agrees listed, wanted]

theorem spRecalcIntervalRe_pressure :
    (spRecalcIntervalRe b .spPressure s).sp .spPressure =
      { s.sp .spPressure with
        interval := (max ((s.sp .spPressure).clients.foldl (fun val ch =>
          if (s.channel ch).state ≠ .sleep then getMaxCommDiv val (s.channel ch).interval else val)
          1000 % 2 ^ 16) intvProcMin).toNat } := by
  rw [spRecalcIntervalRe, setSp_self]
  rfl

theorem spEnableCh_pressure :
    ((spEnableCh b calls .spPressure .p on s).sp .spPressure).clients =
        enableClient (s.sp .spPressure).clients .p on ∧
      ((spEnableCh b calls .spPressure .p on s).sp .spPressure).interval =
        (max ((enableClient (s.sp .spPressure).clients .p on).foldl (fun val ch =>
          if (s.channel ch).state ≠ .sleep then getMaxCommDiv val (s.channel ch).interval else val)
          1000 % 2 ^ 16) intvProcMin).toNat := by
  let s₀ := s.setSp .spPressure
    { s.sp .spPressure with clients := enableClient (s.sp .spPressure).clients .p on }
  let s₁ := (spReCheckDepHw b calls .spPressure (ProviderName.spPressure.onChEnabled b .p on s₀)).2
  have checked : (s₁.sp .spPressure).clients = enableClient (s.sp .spPressure).clients .p on := by
    have kept : (s₁.sp .spPressure).clients = (s₀.sp .spPressure).clients := by
      apply setSp_kept SensorProvider.clients
      rfl
    rw [kept, setSp_self]
  have recalculated := @spRecalcIntervalRe_pressure b s₁
  rw [checked] at recalculated
  have last : spEnableCh b calls .spPressure .p on s =
      if (s.channel .p).cfg.bypassProc then spRecalcIntervalRe b .spPressure s₁
      else (spRecalcIntervalRe b .spPressure s₁).setSp .spPressure
        { (spRecalcIntervalRe b .spPressure s₁).sp .spPressure with
          ref := changeSpRef ((spRecalcIntervalRe b .spPressure s₁).sp .spPressure).ref on } := rfl
  rw [last]
  split_ifs
  · rw [recalculated]
    exact ⟨checked, rfl⟩
  · rw [setSp_self, recalculated]
    exact ⟨checked, rfl⟩

/-! ## One command for the pressure channel -/

theorem wanted_congr (awake : s'.awake .p = s.awake .p)
    (interval : (s'.channel .p).interval = (s.channel .p).interval) : wanted s' = wanted s := by
  rw [wanted, wanted, awake, interval]

theorem wanted_asleep (asleep : s.awake .p = false) : wanted s = 1000 := by
  rw [wanted, asleep]
  rfl

theorem wanted_awake (up : s.awake .p = true) (positive : 0 < (s.channel .p).interval) :
    wanted s = max intvProcMin (getMaxCommDiv 1000 (s.channel .p).interval) := by
  rw [wanted, up, if_pos rfl, getMaxCommDiv_eq (by decide) positive, Int.gcd_comm]

theorem wanted_awake_lt (up : s.awake .p = true) (positive : 0 < (s.channel .p).interval)
    (most : (s.channel .p).interval ≤ 200) : wanted s < 1000 := by
  have divides := Int.gcd_dvd_left (s.channel .p).interval 1000
  have least := Int.le_of_dvd positive divides
  rw [wanted, up, if_pos rfl, intvProcMin]
  omega

/-- What is recalculated leaves the channel out, as its state is stored only afterwards. -/
theorem PressureInv.toggled (h : PressureInv b s) (calls : HwCalls) (toggles : s.awake .p ≠ on) :
    ((spEnableCh b calls .spPressure .p on s).sp .spPressure).clients = (if on then [.p] else []) ∧
      ((spEnableCh b calls .spPressure .p on s).sp .spPressure).interval = 1000 := by
  obtain ⟨clients, recalculated⟩ := @spEnableCh_pressure b calls s on
  rw [clients, recalculated, h.clients]
  cases asleep : s.awake .p with
  | false =>
      have sleeping : (s.channel .p).state = .sleep := by simpa [Daemon.awake] using asleep
      have awakes : on = true := Bool.eq_true_of_not_eq_false fun off => toggles (asleep.trans off.symm)
      rw [awakes]
      simp [enableClient, sleeping, intvProcMin]
  | true =>
      have falls : on = false := Bool.eq_false_of_not_eq_true fun up => toggles (asleep.trans up.symm)
      rw [falls]
      simp [enableClient, intvProcMin]

theorem setState_pressure (h : PressureInv b s) (registered : (s.channel .p).sp = some .spPressure)
    (fits : ((s.sp .spPressure).interval : Int) = wanted s) (calls : HwCalls)
    (state : ChannelState) :
    PressureInv b (channelSetState b calls .p state s) ∧
      ((((channelSetState b calls .p state s).sp .spPressure).interval : Int) =
          wanted (channelSetState b calls .p state s) ↔
        ¬ (s.awake .p = false ∧ state ≠ .sleep)) := by
  obtain ⟨listed, -⟩ := h.agrees.registered .p .spPressure registered
  have agrees : Agrees b (channelSetState b calls .p state s) :=
    handle_agrees h.agrees (.setState .p state calls)
  rw [channelSetState_eq registered] at agrees ⊢
  by_cases same : s.awake .p = (state != .sleep)
  · rw [if_pos same] at agrees ⊢
    have kept := @withState_sameUses .p s state same
    have up : (withState s .p state).awake .p = s.awake .p := by rw [kept.awake]
    have interval := @withState_interval .p s state .p
    refine ⟨⟨agrees, ?_, ?_, ?_⟩, ?_⟩
    · rw [up]
      exact h.clients
    · rw [withState_cfg]
      exact h.cfg
    · rw [interval]
      exact h.interval
    · rw [wanted_congr up interval]
      refine iff_of_true fits ?_
      rintro ⟨asleep, awakes⟩
      rw [asleep] at same
      simp [awakes] at same
  · rw [if_neg same] at agrees ⊢
    generalize switched : spEnableCh b calls .spPressure .p (state != .sleep) s = t at agrees ⊢
    have channel : t.channel = s.channel := by
      rw [← switched]
      exact @spEnableCh_channel b calls .p (state != .sleep) s listed
    obtain ⟨clients, interval₁⟩ := h.toggled calls same
    rw [switched] at clients interval₁
    have up : (withState t .p state).awake .p = (state != .sleep) := by
      rw [withState_awake, Function.update_self]
    have interval : ((withState t .p state).channel .p).interval = (s.channel .p).interval := by
      rw [withState_interval, channel]
    obtain ⟨low, high⟩ := h.interval listed
    refine ⟨⟨agrees, ?_, ?_, ?_⟩, ?_⟩
    · rw [up]
      exact clients
    · rw [withState_cfg, channel]
      exact h.cfg
    · rw [interval]
      exact h.interval
    · change ((t.sp .spPressure).interval : Int) = _ ↔ _
      rw [interval₁]
      cases awakes : (state != .sleep) with
      | false =>
          rw [awakes] at up
          refine iff_of_true (wanted_asleep up).symm ?_
          rintro ⟨-, stays⟩
          simp [stays] at awakes
      | true =>
          rw [awakes] at up same
          have less := wanted_awake_lt up (by omega) (by omega)
          refine iff_of_false (by omega) ?_
          rw [not_not]
          refine ⟨by simpa using same, by simpa using awakes⟩

theorem setDelay_pressure (h : PressureInv b s) (registered : (s.channel .p).sp = some .spPressure)
    (fits : ((s.sp .spPressure).interval : Int) = wanted s) (calls : HwCalls) (value : Int) :
    PressureInv b (channelSetDelay b calls .p value s).2 ∧
      (((channelSetDelay b calls .p value s).2.sp .spPressure).interval : Int) =
        wanted (channelSetDelay b calls .p value s).2 := by
  obtain ⟨listed, -⟩ := h.agrees.registered .p .spPressure registered
  have agrees : Agrees b (channelSetDelay b calls .p value s).2 :=
    handle_agrees h.agrees (.setDelay .p value calls)
  obtain ⟨low, ordered, high⟩ := h.cfg listed
  rw [channelSetDelay, registered] at agrees ⊢
  dsimp only at agrees ⊢
  by_cases refused : value < sampleIntervalMin
  · rw [if_pos refused]
    exact ⟨h, fits⟩
  · rw [if_neg refused, clamp_eq ordered] at agrees ⊢
    obtain ⟨above, below⟩ := clamp_bounds ordered value
    generalize (s.channel .p).cfg.clamp value = bound at agrees above below ⊢
    have least : 10 ≤ bound := low.trans above
    have most : bound ≤ 200 := below.trans high
    have stored : signed 16 bound = bound := signed_of_lt (by omega) (by omega)
    rw [ProviderName.onChIntervalChanged] at agrees ⊢
    dsimp only at agrees ⊢
    generalize handled : spRecalcIntervalRe b .spPressure (s.setChannel .p
      { s.channel .p with interval := signed 16 bound }) = t at agrees ⊢
    have channel : t.channel .p = { s.channel .p with interval := bound } := by
      rw [← handled, stored]
      change (s.setChannel .p { s.channel .p with interval := bound }).channel .p = _
      rw [setChannel_self]
    have up : t.awake .p = s.awake .p := by rw [Daemon.awake, Daemon.awake, channel]
    have provider : (t.sp .spPressure).clients = (s.sp .spPressure).clients ∧
        (t.sp .spPressure).interval = (max ((s.sp .spPressure).clients.foldl (fun val ch =>
          if (t.channel ch).state ≠ .sleep then getMaxCommDiv val (t.channel ch).interval else val)
          1000 % 2 ^ 16) intvProcMin).toNat := by
      rw [← handled, spRecalcIntervalRe_pressure]
      exact ⟨rfl, rfl⟩
    refine ⟨⟨agrees, ?_, ?_, ?_⟩, ?_⟩
    · rw [provider.1, up]
      exact h.clients
    · rw [channel]
      exact h.cfg
    · rw [channel]
      exact fun _ => ⟨least, most⟩
    · rw [provider.2, h.clients, ← up]
      cases awake : t.awake .p with
      | false =>
          rw [wanted_asleep awake]
          rfl
      | true =>
          have here : (t.channel .p).interval = bound := by rw [channel]
          have awakes : (t.channel .p).state ≠ .sleep := by simpa [Daemon.awake] using awake
          have divisor := @getMaxCommDiv_eq 1000 bound (by decide) (by omega)
          have least' := Int.le_of_dvd (by omega) (Int.gcd_dvd_right 1000 bound)
          rw [wanted_awake awake (by omega), here]
          simp only [if_true, List.foldl_cons, List.foldl_nil, if_pos awakes, here, intvProcMin]
          omega

/-! ## One command -/

def pressurePart (b : Build) (e : Event) (s : Daemon) : Option ChannelEvent :=
  match e.command with
  | .cmd _ _ _ => (e.parts b s).find? fun part => ChannelEvent.channel part = .p
  | .display on =>
      if .p ∈ gListCh b ∧ (s.channel .p).cfg.availability ≠ .unavailable then
        some (.setState .p (if on then (s.channel .p).prevState else .sleep) (e.calls .p))
      else none

theorem channelGetCh_eq_some {handle : Int} :
    channelGetCh b handle = some ch ↔ ch ∈ gListCh b ∧ handle = ch.handle := by
  constructor
  · intro found
    rw [channelGetCh] at found
    have same := List.find?_some found
    exact ⟨List.mem_of_find?_eq_some found, beq_iff_eq.mp same⟩
  · rintro ⟨listed, rfl⟩
    exact channelGetCh_handle listed

theorem cmd_parts (code cmd value : Int) (calls : Sensor → HwCalls) (s : Daemon) :
    (⟨.cmd code cmd value, calls⟩ : Event).parts b s = [] ∨
      ∃ part, (⟨.cmd code cmd value, calls⟩ : Event).parts b s = [part] ∧
        ChannelEvent.channel part ∈ gListCh b ∧
        (s.channel (ChannelEvent.channel part)).cfg.availability ≠ .unavailable := by
  simp only [Event.parts]
  cases found : channelGetCh b code with
  | none => exact .inl rfl
  | some ch =>
      obtain ⟨listed, -⟩ := channelGetCh_eq_some.mp found
      dsimp only
      by_cases unavailable : (s.channel ch).cfg.availability = .unavailable
      · rw [if_pos unavailable]
        exact .inl rfl
      · rw [if_neg unavailable]
        by_cases active : cmd = setSensorActive
        · rw [if_pos active]
          exact .inr ⟨_, rfl, listed, unavailable⟩
        · rw [if_neg active]
          by_cases delay : cmd = setSensorDelay
          · rw [if_pos delay]
            exact .inr ⟨_, rfl, listed, unavailable⟩
          · rw [if_neg delay]
            exact .inl rfl

theorem cmd_parts_setState {code cmd value : Int} {calls : Sensor → HwCalls} :
    (∃ state calls', (⟨.cmd code cmd value, calls⟩ : Event).parts b s =
        [.setState .p state calls'] ∧ state ≠ .sleep) ↔
      .p ∈ gListCh b ∧ (s.channel .p).cfg.availability ≠ .unavailable ∧
        code = Sensor.p.handle ∧ cmd = setSensorActive ∧ value ≠ 0 := by
  constructor
  · rintro ⟨state, calls', same, awakes⟩
    simp only [Event.parts] at same
    cases found : channelGetCh b code with
    | none =>
        rw [found] at same
        cases same
    | some ch =>
        obtain ⟨listed, rfl⟩ := channelGetCh_eq_some.mp found
        rw [found] at same
        dsimp only at same
        split_ifs at same with unavailable active on delay
        · cases same
          exact ⟨listed, unavailable, rfl, active, on⟩
        · cases same
          exact absurd rfl awakes
        · cases same
  · rintro ⟨listed, available, rfl, rfl, on⟩
    refine ⟨.normal, calls .p, ?_, by simp⟩
    simp only [Event.parts, channelGetCh_handle listed, if_neg available, if_pos on, if_true]

theorem wakesPressure_iff {e : Event} : e.WakesPressure b s ↔
    s.awake .p = false ∧ ∃ state calls, pressurePart b e s = some (.setState .p state calls) ∧
      state ≠ .sleep := by
  obtain ⟨command, calls⟩ := e
  rw [Event.WakesPressure, pressurePart]
  cases command with
  | cmd code cmd value =>
      have part (state : ChannelState) (calls' : HwCalls) :
          (((⟨.cmd code cmd value, calls⟩ : Event).parts b s).find? fun part =>
            ChannelEvent.channel part = .p) = some (.setState .p state calls') ↔
          (⟨.cmd code cmd value, calls⟩ : Event).parts b s = [.setState .p state calls'] := by
        rcases cmd_parts code cmd value calls s with none | ⟨part, one, -⟩
        · rw [none]
          exact iff_of_false nofun nofun
        · rw [one]
          constructor
          · intro found
            rw [List.mem_singleton.mp (List.mem_of_find?_eq_some found)]
          · intro same
            rw [same]
            rfl
      have woken := @cmd_parts_setState b s code cmd value calls
      dsimp only
      simp only [part]
      rw [woken]
      tauto
  | display on =>
      dsimp only
      split_ifs <;> simp_all

theorem channelOnDisplay_eq {calls : Sensor → HwCalls} : channelOnDisplay b calls on s ch =
    if (s.channel ch).cfg.availability = .unavailable then s
    else (handle b s (.setState ch (if on then (s.channel ch).prevState else .sleep)
      (calls ch))).1 := rfl

theorem channelOnDisplay_elsewhere {calls : Sensor → HwCalls} (agrees : Agrees b s)
    (other : ch ≠ .p) :
    SamePressure s (channelOnDisplay b calls on s ch) ∧
      Agrees b (channelOnDisplay b calls on s ch) := by
  rw [channelOnDisplay_eq]
  by_cases unavailable : (s.channel ch).cfg.availability = .unavailable
  · rw [if_pos unavailable]
    exact ⟨.refl s, agrees⟩
  · rw [if_neg unavailable]
    exact ⟨handle_elsewhere agrees other, handle_agrees agrees _⟩

theorem foldl_elsewhere {calls : Sensor → HwCalls} {l : List Sensor} (agrees : Agrees b s)
    (other : ∀ ch ∈ l, ch ≠ .p) :
    SamePressure s (l.foldl (channelOnDisplay b calls on) s) ∧
      Agrees b (l.foldl (channelOnDisplay b calls on) s) := by
  induction l generalizing s with
  | nil => exact ⟨.refl s, agrees⟩
  | cons ch l ih =>
      obtain ⟨here, rest⟩ := List.forall_mem_cons.mp other
      obtain ⟨first, agrees'⟩ := @channelOnDisplay_elsewhere b ch s on calls agrees here
      obtain ⟨later, agrees''⟩ := ih agrees' rest
      exact ⟨first.trans later, agrees''⟩

theorem step_around (agrees : Agrees b s) (e : Event) :
    ∃ t, SamePressure s t ∧ Agrees b t ∧
      SamePressure (match pressurePart b e s with
        | none => t
        | some part => (handle b t part).1) (step b s e).1 := by
  obtain ⟨command, calls⟩ := e
  cases command with
  | cmd code cmd value =>
      refine ⟨s, .refl s, agrees, ?_⟩
      rw [← final_eventParts, pressurePart]
      dsimp only
      rcases cmd_parts code cmd value calls s with none | ⟨part, one, -⟩
      · rw [none]
        exact .refl s
      · rw [one, List.find?_singleton]
        by_cases own : ChannelEvent.channel part = .p
        · rw [decide_eq_true own]
          exact .refl _
        · rw [decide_eq_false own]
          exact handle_elsewhere agrees own
  | display on =>
      simp only [pressurePart]
      change ∃ t, SamePressure s t ∧ Agrees b t ∧
        SamePressure _ ((gListCh b).foldl (channelOnDisplay b calls on) s)
      by_cases listed : .p ∈ gListCh b
      · obtain ⟨before, after, split⟩ := List.append_of_mem listed
        have alone := @gListCh_nodup b
        rw [split, List.nodup_middle, List.nodup_cons, List.mem_append, not_or] at alone
        obtain ⟨first, agrees'⟩ := @foldl_elsewhere b s on calls before agrees
          fun ch member same => alone.1.1 (same ▸ member)
        refine ⟨_, first, agrees', ?_⟩
        rw [split, List.foldl_append, List.foldl_cons]
        generalize before.foldl (channelOnDisplay b calls on) s = t at first agrees' ⊢
        have later (u : Daemon) (agrees'' : Agrees b u) :
            SamePressure u (after.foldl (channelOnDisplay b calls on) u) :=
          (foldl_elsewhere agrees'' fun ch member same => alone.1.2 (same ▸ member)).1
        rw [channelOnDisplay_eq, first.channel]
        by_cases unavailable : (s.channel .p).cfg.availability = .unavailable
        · rw [if_pos unavailable, if_neg fun reached => reached.2 unavailable]
          exact later t agrees'
        · rw [if_neg unavailable, if_pos ⟨split ▸ listed, unavailable⟩]
          exact later _ (handle_agrees agrees' _)
      · refine ⟨s, .refl s, agrees, ?_⟩
        rw [if_neg fun reached => listed reached.1]
        exact (foldl_elsewhere agrees fun ch member same => listed (same ▸ member)).1

theorem pressurePart_registered (agrees : Agrees b s) {e : Event} {part : ChannelEvent}
    (told : pressurePart b e s = some part) :
    ChannelEvent.channel part = .p ∧ (s.channel .p).sp = some .spPressure := by
  have served (listed : .p ∈ gListCh b)
      (available : (s.channel .p).cfg.availability ≠ .unavailable) :
      (s.channel .p).sp = some .spPressure := by
    cases registered : (s.channel .p).sp with
    | none => exact absurd registered (agrees.reached .p listed available)
    | some sp =>
        obtain ⟨-, rfl⟩ := agrees.registered .p sp registered
        rfl
  obtain ⟨command, calls⟩ := e
  cases command with
  | cmd code cmd value =>
      simp only [pressurePart] at told
      rcases cmd_parts code cmd value calls s with none | ⟨part', one, listed, available⟩
      · rw [none] at told
        cases told
      · rw [one] at told
        have own := List.find?_some told
        obtain rfl := List.mem_singleton.mp (List.mem_of_find?_eq_some told)
        rw [decide_eq_true_eq] at own
        rw [own] at listed available
        exact ⟨own, served listed available⟩
  | display on =>
      simp only [pressurePart] at told
      split_ifs at told with reached
      · cases told
        exact ⟨rfl, served reached.1 reached.2⟩
      · cases told
        exact ⟨rfl, served reached.1 reached.2⟩

theorem step_agrees (agrees : Agrees b s) (e : Event) : Agrees b (step b s e).1 := by
  rw [← final_eventParts]
  have keep (s : Daemon) (part : ChannelEvent) (agrees : Agrees b s) :
      Agrees b (handle b s part).1 := handle_agrees agrees part
  exact (Lib.invariant keep agrees (e.parts b s)).1

theorem SamePressure.fits (same : SamePressure s s') (agrees : Agrees b s)
    (agrees' : Agrees b s') : IntervalsFit b s' ↔ IntervalsFit b s := by
  have kept : wanted s' = wanted s :=
    wanted_congr (by rw [Daemon.awake, Daemon.awake, same.channel]) (by rw [same.channel])
  rw [intervalsFit_iff agrees, intervalsFit_iff agrees', kept, same.provider]

theorem step_pressure (h : PressureInv b s) (fit : IntervalsFit b s) (e : Event) :
    PressureInv b (step b s e).1 ∧ (IntervalsFit b (step b s e).1 ↔ ¬ e.WakesPressure b s) := by
  obtain ⟨t, before, agrees, after⟩ := step_around h.agrees e
  have agrees' := step_agrees h.agrees e
  have known := h.same agrees before
  have fit' := (intervalsFit_iff agrees).mp ((before.fits h.agrees agrees).mpr fit)
  rw [wakesPressure_iff]
  cases told : pressurePart b e s with
  | none =>
      rw [told] at after
      refine ⟨known.same agrees' after, iff_of_true ?_ (by simp)⟩
      exact (after.fits agrees agrees').mpr ((intervalsFit_iff agrees).mpr fit')
  | some part =>
      obtain ⟨own, registered⟩ := pressurePart_registered h.agrees told
      rw [told] at after
      have asleep : t.awake .p = s.awake .p := by rw [Daemon.awake, Daemon.awake, before.channel]
      rw [← before.channel] at registered
      obtain ⟨listed, -⟩ := agrees.registered .p .spPressure registered
      cases part with
      | setState ch state calls =>
          obtain rfl : ch = .p := own
          obtain ⟨inv, fits⟩ := setState_pressure known registered (fit' listed) calls state
          change SamePressure (channelSetState b calls .p state t) _ at after
          refine ⟨inv.same agrees' after, ?_⟩
          have woken : (∃ state' calls', some (ChannelEvent.setState .p state calls) =
              some (.setState .p state' calls') ∧ state' ≠ .sleep) ↔ state ≠ .sleep := by
            constructor
            · rintro ⟨state', calls', same, awakes⟩
              cases same
              exact awakes
            · exact fun awakes => ⟨state, calls, rfl, awakes⟩
          rw [after.fits inv.agrees agrees', intervalsFit_iff inv.agrees, woken, ← asleep, ← fits]
          exact ⟨fun fit => fit listed, fun fit _ => fit⟩
      | setDelay ch value calls =>
          obtain rfl : ch = .p := own
          obtain ⟨inv, fits⟩ := setDelay_pressure known registered (fit' listed) calls value
          change SamePressure (channelSetDelay b calls .p value t).2 _ at after
          refine ⟨inv.same agrees' after, iff_of_true ?_ (by simp)⟩
          rw [after.fits inv.agrees agrees', intervalsFit_iff inv.agrees]
          exact fun _ => fits

/-! ## Start -/

theorem init_interval {sp other : ProviderName} (errs : InitErrs) :
    ((sp.init b errs s).2.sp other).interval = (s.sp other).interval := by
  cases sp <;> rfl

theorem spPreinitOne_interval {sp other : ProviderName} (errs : InitErrs) :
    ((spPreinitOne b errs s sp).sp other).interval =
      if other = sp then 1000 else (s.sp other).interval := by
  have cleared : ((s.setSp sp ⟨false, 0, 0, 0, [], 1000⟩).sp other).interval =
      if other = sp then 1000 else (s.sp other).interval := by
    split_ifs with same
    · rw [same, setSp_self]
    · rw [setSp_other same]
  have initialised := @init_interval b (s.setSp sp ⟨false, 0, 0, 0, [], 1000⟩) sp other errs
  rw [← cleared, ← initialised, spPreinitOne]
  dsimp only
  split_ifs
  · rfl
  · apply setSp_kept SensorProvider.interval
    rfl

theorem spPreinit_interval (errs : InitErrs) (listed : .p ∈ gListCh b) :
    ((spPreinit b errs s).sp .spPressure).interval = 1000 := by
  have compiled : b.sptSensor .p = true := (List.mem_filter.mp listed).2
  rw [spPreinit, gListSp, if_pos compiled, List.foldl_cons, List.foldl_cons, List.foldl_nil,
    spPreinitOne_interval, if_pos rfl]

theorem channelSubscribeOne_interval {sp : ProviderName} :
    ((channelSubscribeOne b s ch).sp sp).interval = (s.sp sp).interval := by
  rw [channelSubscribeOne]
  split
  · rfl
  · split
    · rfl
    · split
      · unfold spRegisterCh
        apply setSp_kept SensorProvider.interval
        rfl
      · rfl

theorem start_interval (errs : InitErrs) (listed : .p ∈ gListCh b) :
    ((start b errs).sp .spPressure).interval = 1000 := by
  rw [start, spInit, channelSubscribe2sp]
  apply List.foldlRecOn (motive := fun t : Daemon => (t.sp .spPressure).interval = 1000)
  · apply List.foldlRecOn (motive := fun t : Daemon => (t.sp .spPressure).interval = 1000)
    · exact spPreinit_interval errs listed
    · intro t kept ch _
      rw [channelSubscribeOne_interval, kept]
  · intro t kept sp _
    rw [spInitOne]
    split_ifs
    · rw [← kept]
      apply setSp_kept SensorProvider.interval
      rfl
    · exact kept

theorem start_pressure (errs : InitErrs) :
    PressureInv b (start b errs) ∧ IntervalsFit b (start b errs) := by
  have agrees : Agrees b (start b errs) := (@start_sound b (fun _ => True) errs).agrees
  have resting := @start_resting b errs
  have asleep := resting.awake .p
  refine ⟨⟨agrees, ?_, ?_, ?_⟩, ?_⟩
  · rw [asleep, (resting.sp .spPressure).clients]
    rfl
  · exact fun listed => ((start_booted errs).channel .p listed).cfg
  · intro listed
    rw [((start_booted errs).channel .p listed).interval]
    omega
  · rw [intervalsFit_iff agrees, wanted_asleep asleep]
    intro listed
    rw [start_interval errs listed]
    rfl

/-- After every command of a run the interval of the pressure provider fits its channels, as long
as no command wakes them. -/
theorem interval_fits_iff (b : Build) (errs : InitErrs) (events : List Event) :
    (∀ t ∈ trace (step b) (start b errs) events, IntervalsFit b t.after) ↔
      ∀ t ∈ trace (step b) (start b errs) events, ¬ t.event.WakesPressure b t.before := by
  apply @run_iff Daemon Event Int (step b) (fun s => PressureInv b s ∧ IntervalsFit b s)
    (fun s e => ¬ e.WakesPressure b s)
  · intro s e known
    exact (step_pressure known.1 known.2 e).2
  · intro s e known still
    obtain ⟨inv, fits⟩ := step_pressure known.1 known.2 e
    exact ⟨inv, fits.mpr still⟩
  · exact start_pressure errs

/-- Switched on, the pressure sensor is to be read every 200 ms; its provider waits a second. -/
theorem woken_interval_stale :
    let s := final (step withPressure) (start withPressure noErrs)
      [⟨.cmd 6 setSensorActive 1, fun _ => quiet⟩]
    s.awakeClients withPressure .spPressure = [.p] ∧ (s.channel .p).interval = 200 ∧
    s.clientInterval withPressure .spPressure = 200 ∧ (s.sp .spPressure).interval = 1000 ∧
    ¬ IntervalsFit withPressure s := by
  intro s
  have interval : (s.sp .spPressure).interval = 1000 := by decide
  have common : s.clientInterval withPressure .spPressure = 200 := by decide
  refine ⟨by decide, by decide, common, interval, fun fit => ?_⟩
  have fits := fit .spPressure (by decide) rfl
  rw [interval, common] at fits
  exact absurd fits (by decide)

end VibeXperia.Proof.Sensord
