import VibeXperia.Proof.Sensord.Agreement
import VibeXperia.Proof.Sensord.Clients
import VibeXperia.Proof.Sensord.Handle

namespace VibeXperia.Proof.Sensord
open Lib VibeXperia.Sensord

variable {b : Build} {errs : InitErrs} {calls : HwCalls} {s : Daemon} {ch : Sensor} {on : Bool}
variable {sp : ProviderName} {state : ChannelState} {e : ChannelEvent}

/-! ## The table of this device -/

theorem sensor_getData_le (ch : Sensor) (answer : DataAnswer) : ch.getData answer ≤ 1 := by
  cases ch
  case gestFlip =>
    simp only [Sensor.getData, algoGetProcDataGestFlip, dataFilterGestFlip]
    split_ifs <;> omega
  all_goals exact Int.le_refl 1

def channelTable (b : Build) (errs : InitErrs) : ChannelTable Sensor ProviderName DataAnswer where
  gListCh := gListCh b
  nodup := gListCh_nodup
  sp ch := ((start b errs).channel ch).sp
  listed ch sp registered := (((start_resting errs).channel ch).registered sp registered).1
  handle := Sensor.handle
  type := Sensor.type
  noDelay ch := ((start b errs).channel ch).cfg.noDelay
  bypassProc ch := ((start b errs).channel ch).cfg.bypassProc
  getData := Sensor.getData
  getData_le := sensor_getData_le

/-! ## The lists of the daemon -/

/-- The daemon's lists are those that the links make. -/
structure Linked (table : ChannelTable Sensor ProviderName DataAnswer) (s : Daemon)
    (c : Clients Sensor ProviderName) : Prop where
  provider : ∀ ch, (s.channel ch).sp = table.sp ch
  state : ∀ ch, c.state ch = (s.channel ch).state
  prevState : ∀ ch, c.prevState ch = (s.channel ch).prevState
  clients : ∀ sp, Chain c.next (c.clients sp) (s.sp sp).clients

theorem spRecalcIntervalRe_clients (other : ProviderName) :
    ((spRecalcIntervalRe b sp s).sp other).clients = (s.sp other).clients := by
  rw [spRecalcIntervalRe]
  apply setSp_kept SensorProvider.clients
  rfl

theorem spReCheckDepHw_clients (other : ProviderName) :
    ((spReCheckDepHw b calls sp s).2.sp other).clients = (s.sp other).clients := by
  rw [spReCheckDepHw]
  apply setSp_kept SensorProvider.clients
  rfl

theorem spEnableCh_clients (listed : ch ∈ gListCh b) (other : ProviderName) :
    ((spEnableCh b calls (home ch) ch on s).sp other).clients =
      if other = home ch then enableClient (s.sp other).clients ch on else (s.sp other).clients := by
  let s₀ := s.setSp (home ch)
    { s.sp (home ch) with clients := enableClient (s.sp (home ch)).clients ch on }
  let s₁ := (spReCheckDepHw b calls (home ch) ((home ch).onChEnabled b ch on s₀)).2
  let s₂ := spRecalcIntervalRe b (home ch) ((home ch).onHwDepChecked calls s₁)
  have last : ((spEnableCh b calls (home ch) ch on s).sp other).clients = (s₂.sp other).clients := by
    rw [spEnableCh]
    split_ifs
    · rfl
    · apply setSp_kept SensorProvider.clients
      rfl
  rw [last, spRecalcIntervalRe_clients, onHwDepChecked_sp, spReCheckDepHw_clients,
    (onChEnabled_rest listed).2.1]
  by_cases same : other = home ch <;> simp [s₀, Daemon.setSp, same]

/-! ## Commands -/

section Steps
variable {table : ChannelTable Sensor ProviderName DataAnswer} {c : Clients Sensor ProviderName}
variable {fuel : Nat}

theorem Linked.listed (linked : Linked table s c) (listed : ChannelTable.Listed table c)
    (sp : ProviderName) : ListedAt table c sp (s.sp sp).clients := by
  obtain ⟨l, chain, -, members⟩ := listed sp
  rw [chain.unique (linked.clients sp)] at members
  exact ⟨linked.clients sp, members⟩

theorem Linked.channelSetState (agrees : Agrees b s) (linked : Linked table s c)
    (listed : ChannelTable.Listed table c) (enough : table.gListCh.length < fuel) :
    ∃ c', table.channelSetState fuel c ch state = some c' ∧
      Linked table (channelSetState b calls ch state s) c' := by
  cases registered : (s.channel ch).sp with
  | none =>
      refine ⟨c, ?_, ?_⟩
      · rw [ChannelTable.channelSetState, ← linked.provider, registered]
      · rwa [VibeXperia.Sensord.channelSetState, registered]
  | some sp =>
      obtain ⟨inside, rfl⟩ := agrees.registered ch sp registered
      have served : table.sp ch = some (home ch) := (linked.provider ch).symm.trans registered
      have stored' (t : Daemon) (d : Clients Sensor ProviderName) (linked : Linked table t d) :
          Linked table (withState t ch state) (stored d ch state) := by
        constructor
        · intro other
          rw [withState_sp, linked.provider]
        · intro other
          by_cases same : other = ch
          · simp [stored, withState, Daemon.setChannel, same]
          · simp [stored, withState, Daemon.setChannel, same, linked.state]
        · intro other
          by_cases same : other = ch
          · simp [stored, withState, Daemon.setChannel, same, linked.state]
          · simp [stored, withState, Daemon.setChannel, same, linked.prevState]
        · exact linked.clients
      have awake : s.awake ch = (state != .sleep) ↔ (c.state ch = .sleep ↔ state = .sleep) := by
        rw [Daemon.awake, ← linked.state]
        cases c.state ch <;> cases state <;> decide
      rw [clients_channelSetState_eq served, channelSetState_eq registered]
      by_cases same : s.awake ch = (state != .sleep)
      · rw [if_pos same, if_pos (awake.mp same)]
        exact ⟨_, rfl, stored' s c linked⟩
      · have switched := mt awake.mpr same
        obtain ⟨c', enabled, state', prevState', chains⟩ :=
          spEnableCh_links enough listed served switched
        rw [if_neg same, if_neg switched, enabled]
        refine ⟨_, rfl, stored' _ c' ⟨fun other => ?_, fun other => ?_, fun other => ?_, fun sp => ?_⟩⟩
        · rw [spEnableCh_channel inside, linked.provider]
        · rw [spEnableCh_channel inside, state', linked.state]
        · rw [spEnableCh_channel inside, prevState', linked.prevState]
        · have here := linked.listed listed sp
          have chain := chains sp _ here
          rw [spEnableCh_clients inside]
          split_ifs at chain ⊢ with atHome off
          · simpa [enableClient, off] using chain
          · have absent : ch ∉ (s.sp sp).clients := by
              intro member
              exact switched ⟨fun asleep => absurd asleep ((here.2 ch).mp member).2,
                fun asleep => absurd asleep off⟩
            simpa [enableClient, off, absent] using chain
          · exact chain

theorem channelSetDelay_rest (value : Int) :
    (∀ ch', ((channelSetDelay b calls ch value s).2.channel ch').state = (s.channel ch').state ∧
      ((channelSetDelay b calls ch value s).2.channel ch').prevState = (s.channel ch').prevState) ∧
      ∀ sp, ((channelSetDelay b calls ch value s).2.sp sp).clients = (s.sp sp).clients := by
  have interval (t : Daemon) (interval : Int) (ch' : Sensor) :
      ((t.setChannel ch { t.channel ch with interval }).channel ch').state = (t.channel ch').state ∧
      ((t.setChannel ch { t.channel ch with interval }).channel ch').prevState =
        (t.channel ch').prevState := by
    by_cases same : ch' = ch <;> simp [Daemon.setChannel, same]
  have changed (sp : ProviderName) (value : Int) (ch' : Sensor) :
      ((sp.onChIntervalChanged b calls ch value s).channel ch').state = (s.channel ch').state ∧
      ((sp.onChIntervalChanged b calls ch value s).channel ch').prevState =
        (s.channel ch').prevState := by
    cases sp with
    | spFusion =>
        rw [ProviderName.onChIntervalChanged, fusionOnChIntervalChanged]
        split <;> exact interval _ _ ch'
    | spPressure => exact interval s _ ch'
  rw [channelSetDelay]
  split
  · exact ⟨fun _ => ⟨rfl, rfl⟩, fun _ => rfl⟩
  · split
    · exact ⟨fun _ => ⟨rfl, rfl⟩, fun _ => rfl⟩
    · refine ⟨fun ch' => changed _ _ ch', fun sp => ?_⟩
      exact (spRecalcIntervalRe_clients sp).trans
        (congrArg (fun sps => (sps sp).clients) (onChIntervalChanged_sp _))

def changes : ChannelEvent → List (Sensor × ChannelState)
  | .setState ch state _ => [(ch, state)]
  | .setDelay .. => []

theorem Linked.handle (agrees : Agrees b s) (linked : Linked table s c)
    (listed : ChannelTable.Listed table c) (enough : table.gListCh.length < fuel) :
    ∃ c', table.channelSetStates fuel (changes e) c = some c' ∧
      Linked table (handle b s e).1 c' := by
  cases e with
  | setState ch state calls =>
      obtain ⟨c', changed, linked'⟩ := linked.channelSetState agrees listed enough
      refine ⟨c', ?_, linked'⟩
      rw [changes, ChannelTable.channelSetStates, List.foldlM_cons, changed]
      rfl
  | setDelay ch value calls =>
      obtain ⟨states, clients⟩ := @channelSetDelay_rest b calls s ch value
      refine ⟨c, rfl, fun ch' => ?_, fun ch' => ?_, fun ch' => ?_, fun sp => ?_⟩
      · exact ((channelSetDelay_sameUses value).1.provider ch').trans (linked.provider ch')
      · exact (linked.state ch').trans (states ch').1.symm
      · exact (linked.prevState ch').trans (states ch').2.symm
      · show Chain c.next (c.clients sp) ((channelSetDelay b calls ch value s).2.sp sp).clients
        rw [clients]
        exact linked.clients sp

theorem Linked.run (agrees : Agrees b s) (linked : Linked table s c)
    (listed : ChannelTable.Listed table c) (enough : table.gListCh.length < fuel)
    (es : List ChannelEvent) :
    ∃ c', table.channelSetStates fuel (es.flatMap changes) c = some c' ∧
      Linked table (final (VibeXperia.Sensord.handle b) s es) c' := by
  induction es generalizing s c with
  | nil => exact ⟨c, rfl, linked⟩
  | cons e es ih =>
      obtain ⟨c', changed, linked'⟩ := @Linked.handle b s e table c fuel agrees linked listed enough
      obtain ⟨d, same, listed'⟩ := channelSetStates_listed enough listed (changes e)
      obtain rfl : c' = d := Option.some.inj (changed.symm.trans same)
      obtain ⟨c'', rest, linked''⟩ := ih (handle_agrees agrees e) linked' listed'
      refine ⟨c'', ?_, linked''⟩
      rw [ChannelTable.channelSetStates] at changed
      rw [List.flatMap_cons, ChannelTable.channelSetStates, List.foldlM_append, changed]
      exact rest

end Steps

theorem start_linked (errs : InitErrs) :
    Linked (channelTable b errs) (start b errs) ChannelTable.initial where
  provider _ := rfl
  state ch := ((start_resting errs).channel ch).asleep.symm
  prevState ch := ((start_resting errs).channel ch).prevState.symm
  clients sp := by
    rw [((start_resting errs).sp sp).clients]
    exact .nil

theorem daemon_linked (b : Build) (errs : InitErrs) (events : List Event) {fuel : Nat}
    (enough : (gListCh b).length < fuel) :
    ∃ c, (channelTable b errs).channelSetStates fuel
        ((parts b (start b errs) events).flatMap changes) ChannelTable.initial = some c ∧
      Linked (channelTable b errs) (final (step b) (start b errs) events) c := by
  have agrees := (@start_sound b (fun _ => True) errs).agrees
  rw [← final_parts]
  exact (start_linked errs).run agrees initial_listed enough _

/-! ## `client_num` -/

structure Subscribed (l : List Sensor) (s : Daemon) : Prop where
  clientNum : ∀ sp, (s.sp sp).clientNum =
    (l.countP fun ch => (s.channel ch).sp == some sp) % 2 ^ 6
  others : ∀ ch ∉ l, (s.channel ch).sp = none

theorem channelSubscribeOne_subscribed {l : List Sensor} (before : Subscribed l s)
    (absent : ch ∉ l) : Subscribed (l ++ [ch]) (channelSubscribeOne b s ch) := by
  have unregistered := before.others ch absent
  have others : ∀ other ∉ l ++ [ch], ((channelSubscribeOne b s ch).channel other).sp = none := by
    intro other outside
    rw [List.mem_append, not_or, List.mem_singleton] at outside
    rw [channelSubscribeOne_other outside.2]
    exact before.others other outside.1
  refine ⟨fun sp => ?_, others⟩
  have same : (l.countP fun other => ((channelSubscribeOne b s ch).channel other).sp == some sp) =
      l.countP fun other => (s.channel other).sp == some sp := by
    apply List.countP_congr
    intro other member
    rw [channelSubscribeOne_other]
    rintro rfl
    exact absent member
  have fits : (s.sp sp).clientNum < 2 ^ 6 := by
    rw [before.clientNum]
    exact Nat.mod_lt _ (by decide)
  have kept (t : Daemon) (none' : (t.channel ch).sp = none)
      (num : (t.sp sp).clientNum = (s.sp sp).clientNum) :
      (t.sp sp).clientNum =
        ((s.sp sp).clientNum + if (t.channel ch).sp == some sp then 1 else 0) % 2 ^ 6 := by
    simpa [none', num] using (Nat.mod_eq_of_lt fits).symm
  rw [List.countP_append, same, List.countP_singleton, ← Nat.mod_add_mod, ← before.clientNum]
  rw [channelSubscribeOne]
  split
  · exact kept s unregistered rfl
  · split
    · apply kept
      · simpa [makeUnavailable, Daemon.setChannel] using unregistered
      · rfl
    · rename_i home' found
      split
      · by_cases mine : sp = home'
        · simp [spRegisterCh, Daemon.setChannel, Daemon.setSp, mine]
        · simpa [spRegisterCh, Daemon.setChannel, Daemon.setSp, mine, Ne.symm mine]
            using (Nat.mod_eq_of_lt fits).symm
      · apply kept
        · simpa [makeUnavailable, Daemon.setChannel] using unregistered
        · rfl

theorem channelSubscribe_subscribed {l : List Sensor} (before : Subscribed [] s)
    (distinct : l.Nodup) : Subscribed l (l.foldl (channelSubscribeOne b) s) := by
  induction l using List.reverseRecOn with
  | nil => exact before
  | append_singleton l ch ih =>
      rw [List.nodup_append'] at distinct
      rw [List.foldl_append]
      apply channelSubscribeOne_subscribed (ih distinct.1)
      intro inside
      exact distinct.2.2 inside (List.mem_singleton_self ch)

theorem setChannel_subscribed (before : Subscribed [] s) {channel : Channel}
    (same : channel.sp = (s.channel ch).sp) : Subscribed [] (s.setChannel ch channel) where
  clientNum := before.clientNum
  others other _ := by
    by_cases found : other = ch
    · simp [Daemon.setChannel, found, same, before.others]
    · simp [Daemon.setChannel, found, before.others]

theorem channelInit_subscribed (before : Subscribed [] s) : Subscribed [] (channelInit b s) := by
  rw [channelInit]
  apply List.foldlRecOn (motive := Subscribed []) _ _ before
  intro s before ch _
  rw [channelInitOne]
  split_ifs <;> exact setChannel_subscribed before rfl

theorem spPreinit_subscribed (before : Subscribed [] s) : Subscribed [] (spPreinit b errs s) := by
  rw [spPreinit]
  apply List.foldlRecOn (motive := Subscribed []) _ _ before
  intro s before sp _
  have cleared (t : Daemon) (before : Subscribed [] t) (changed : SensorProvider)
      (zero : changed.clientNum = 0) : Subscribed [] (t.setSp sp changed) := by
    refine ⟨fun other => ?_, before.others⟩
    by_cases same : other = sp
    · simp [Daemon.setSp, same, zero]
    · simpa [Daemon.setSp, same] using before.clientNum other
  have initialised : Subscribed [] (sp.init b errs (s.setSp sp ⟨false, 0, 0, 0, [], 1000⟩)).2 := by
    have first := cleared s before ⟨false, 0, 0, 0, [], 1000⟩ rfl
    cases sp <;> exact ⟨first.clientNum, first.others⟩
  rw [spPreinitOne]
  split_ifs
  · exact initialised
  · exact cleared _ initialised _ (initialised.clientNum sp)

theorem spInit_clientNum (other : ProviderName) :
    ((spInit b s).sp other).clientNum = (s.sp other).clientNum := by
  rw [spInit]
  apply List.foldlRecOn (motive := fun t : Daemon => (t.sp other).clientNum = (s.sp other).clientNum)
  · rfl
  · intro t same sp _
    rw [spInitOne]
    split_ifs
    · rw [← same]
      apply setSp_kept SensorProvider.clientNum
      rfl
    · exact same

theorem channelTable_registered (sp : ProviderName) :
    (channelTable b errs).registered sp < 2 ^ 6 := by
  apply Nat.lt_of_le_of_lt List.countP_le_length
  apply Nat.lt_of_lt_of_le gListCh_length
  decide

theorem start_clientNum (errs : InitErrs) (sp : ProviderName) :
    ((start b errs).sp sp).clientNum = (channelTable b errs).clientNum sp := by
  have fresh : Subscribed [] { statics b with hw := hwCntlInit b errs.hw (statics b).hw } :=
    ⟨fun _ => rfl, fun _ _ => rfl⟩
  have done := @channelSubscribe_subscribed b _ (gListCh b)
    (@spPreinit_subscribed b errs _ (@channelInit_subscribed b _ fresh)) gListCh_nodup
  rw [start, spInit_clientNum, channelSubscribe2sp, done.clientNum, ChannelTable.clientNum,
    ChannelTable.registered]
  show _ = (gListCh b).countP (fun ch => ((start b errs).channel ch).sp == some sp) % 2 ^ 6
  rw [start, spInit_channel, channelSubscribe2sp]

/-! ## Any table -/

/-- Of any number of channels and after every sequence of changes, each provider's list is made of
its channels that are not asleep, and one pass over it reports each of them once at most; there is
room for that as far as `client_num` can count the channels. -/
theorem clients_listed {α π δ : Type} [DecidableEq α] [DecidableEq π]
    (table : ChannelTable α π δ) (fuel : Nat)
    (enough : table.gListCh.length < fuel) (changes : List (α × ChannelState)) :
    ∃ s, table.channelSetStates fuel changes ChannelTable.initial = some s ∧
      ChannelTable.Listed table s ∧
        ∀ pass p, ∃ events given, table.reProc fuel pass s p = some (events, given) ∧
          ChannelTable.Reported table s p events given := by
  obtain ⟨s, changed, listed⟩ := channelSetStates_listed enough initial_listed changes
  exact ⟨s, changed, listed, reProc_reported enough listed⟩

/-- The magnetometer and the orientation are switched on, and the magnetometer off. -/
theorem clients_listed_nicki :
    ∃ s, (channelTable nicki noErrs).channelSetStates 4
        [(.m, .normal), (.o, .normal), (.m, .sleep)] ChannelTable.initial = some s ∧
      (channelTable nicki noErrs).Listed s ∧
        ∀ pass sp, ∃ events given, (channelTable nicki noErrs).reProc 4 pass s sp =
          some (events, given) ∧ (channelTable nicki noErrs).Reported s sp events given :=
  clients_listed (channelTable nicki noErrs) 4 (by decide) _

def manyChannels : ChannelTable Nat Unit Unit where
  gListCh := List.range 65
  nodup := List.nodup_range
  sp ch := if ch < 65 then some () else none
  listed ch _ registered := by
    rw [List.mem_range]
    by_contra beyond
    simp [beyond] at registered
  handle ch := ch
  type ch := ch
  noDelay _ := true
  bypassProc _ := false
  getData _ _ := 1
  getData_le _ _ := Int.le_refl 1

def manyPass : Pass Nat Unit :=
  ⟨10, 10, fun _ => 0, fun _ => 0, fun _ => (), fun _ => ⟨0, 0, (), 0⟩⟩

/-- The buffer then has one entry, and 65 events are put into it. -/
theorem many_channels_overrun :
    manyChannels.clientNum () = 1 ∧
      ((manyChannels.channelSetStates 66 ((List.range 65).map fun ch => (ch, .normal))
        ChannelTable.initial).bind fun s =>
          (manyChannels.reProc 66 manyPass s ()).map fun r => r.1.length) = some 65 := by
  decide +kernel

end VibeXperia.Proof.Sensord
