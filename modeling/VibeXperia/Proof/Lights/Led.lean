import VibeXperia.Lights.Led

namespace VibeXperia.Proof.Lights
open Lib VibeXperia.Lights

variable {κ : Type} {d : LedDriver κ} {vendor : Bool} {led : Led} {state : LightState}

/-! ## The lines that are written -/

theorem length_printed_le (n : BitVec 32) : (printed n).length ≤ 11 :=
  length_decimalText_le 0 n (by decide)

theorem ledCtlBuf_eq {cmd : Char} {params : List (List Char)} (few : params.length ≤ 3)
    (short : ∀ param ∈ params, param.length ≤ 11) :
    ledCtlBuf cmd params = [cmd] ++ separated ' ' params ++ ['\n'] := by
  have fields : (separated ' ' params).length ≤ 12 * params.length := by
    clear few
    induction params with
    | nil => simp
    | cons param params ih =>
        have later := ih fun other member => short other (by simp [member])
        have now := short param (by simp)
        rw [separated_cons, List.length_cons, List.length_append, List.length_cons]
        omega
  have length : ([cmd] ++ separated ' ' params).length ≤ 37 := by
    rw [List.length_append, List.length_singleton]
    omega
  rw [ledCtlBuf, snprintf_of_lt (by omega)]
  have line : ([cmd] ++ separated ' ' params ++ ['\n']).length < 72 := by
    rw [List.length_append, List.length_singleton]
    omega
  simp only [ledCtl, snprintf_of_lt line, List.take_length]

def channelCommands (level : BitVec 32) (blink : Bool) (onMS offMS : BitVec 32) :
    List LedCommand :=
  if level.toInt ≤ 0 then [.blink false, .steady false]
  else .brightness level ::
    if blink ∧ 0 < onMS.toInt ∧ 0 < offMS.toInt then [.timing onMS offMS, .blink true]
    else [.blink false, .steady true]

theorem setLedChannel_eq (led : Led) (level : BitVec 32) (blink : Bool) (onMS offMS : BitVec 32) :
    setLedChannel led.id level blink onMS offMS =
      (channelCommands level blink onMS offMS).map (LedCommand.line led) := by
  have short (n : BitVec 32) := length_printed_le n
  rw [setLedChannel, channelCommands]
  split_ifs <;>
    simp [ledCtlBuf_eq, short, LedCommand.line, LedCommand.code, LedCommand.params, flag]

theorem channelCommands_valid {level onMS offMS : BitVec 32} {blink : Bool}
    (small : level.toInt ≤ 255) :
    ∀ command ∈ channelCommands level blink onMS offMS, command.Valid := by
  intro command member
  rw [channelCommands] at member
  split_ifs at member with dark flashes
  · rcases List.mem_pair.mp member with rfl | rfl <;> trivial
  · rcases List.mem_cons.mp member with rfl | rest
    · exact ⟨by omega, small⟩
    · rcases List.mem_pair.mp rest with rfl | rfl
      · exact flashes.2
      · trivial
  · rcases List.mem_cons.mp member with rfl | rest
    · exact ⟨by omega, small⟩
    · rcases List.mem_pair.mp rest with rfl | rfl <;> trivial

def commandsOf (state : LightState) (led : Led) : List LedCommand :=
  let blink := decide (state.flashMode ≠ .none)
  channelCommands (state.level led) blink
    (if blink then state.flashOnMS else 0) (if blink then state.flashOffMS else 0)

def allCommands (state : LightState) : List (Led × LedCommand) :=
  [.red, .green, .blue].flatMap fun led => (commandsOf state led).map (led, ·)

theorem component_eq (color : BitVec 32) (place : Nat) (inside : place + 8 ≤ 24) :
    ((color &&& 0x00ffffff) >>> place) &&& 0xff = (color.extractLsb' place 8).setWidth 32 := by
  apply BitVec.eq_of_getLsbD_eq
  intro i below
  have mask : (0xff : BitVec 32).getLsbD i = decide (i < 8) := by
    revert i
    decide
  rw [BitVec.getLsbD_and, BitVec.getLsbD_ushiftRight, BitVec.getLsbD_and, mask,
    BitVec.getLsbD_setWidth, BitVec.getLsbD_extractLsb']
  by_cases low : i < 8
  · have color : ∀ k < 24, (0x00ffffff : BitVec 32).getLsbD k = true := by decide
    rw [color _ (by omega)]
    simp [low, below]
  · simp [low]

theorem toInt_level (state : LightState) (led : Led) :
    0 ≤ (state.level led).toInt ∧ (state.level led).toInt ≤ 255 := by
  have small (color : BitVec 32) (place : Nat) :
      0 ≤ ((color.extractLsb' place 8).setWidth 32).toInt ∧
        ((color.extractLsb' place 8).setWidth 32).toInt ≤ 255 := by
    have below := (color.extractLsb' place 8).isLt
    have number : ((color.extractLsb' place 8).setWidth 32).toNat =
        (color.extractLsb' place 8).toNat := by
      rw [BitVec.toNat_setWidth]
      omega
    rw [BitVec.toInt_eq_toNat_cond, number]
    omega
  cases led <;> exact small _ _

theorem lightsSetLightLed_eq (state : LightState) :
    lightsSetLightLed state = (allCommands state).map fun (led, command) => command.line led := by
  have blinks : (state.flashMode = .timed ∨ state.flashMode = .hardware) ↔
      state.flashMode ≠ .none := by
    cases state.flashMode <;> decide
  have red := component_eq state.color 16 (by decide)
  have green := component_eq state.color 8 (by decide)
  have blue := component_eq state.color 0 (by decide)
  rw [BitVec.ushiftRight_zero] at blue
  simp only [lightsSetLightLed, red, green, blue, blinks]
  have one (led : Led) := setLedChannel_eq led (state.level led) (state.flashMode ≠ .none)
    (if state.flashMode ≠ .none then state.flashOnMS else 0)
    (if state.flashMode ≠ .none then state.flashOffMS else 0)
  simp only [allCommands, commandsOf, List.flatMap_cons, List.flatMap_nil, List.append_nil,
    List.map_append, List.map_map, Function.comp_def, decide_eq_true_eq]
  rw [List.append_assoc]
  exact congrArg₂ (· ++ ·) (one .red) (congrArg₂ (· ++ ·) (one .green) (one .blue))

theorem allCommands_valid (state : LightState) : ∀ c ∈ allCommands state, c.2.Valid := by
  intro c member
  obtain ⟨led, -, made⟩ := List.mem_flatMap.mp member
  obtain ⟨command, there, rfl⟩ := List.mem_map.mp made
  exact channelCommands_valid (toInt_level state led).2 command there

theorem allCommands_led (state : LightState) (led : Led) :
    ((allCommands state).filter fun c => c.1 = led).map Prod.snd = commandsOf state led := by
  cases led <;> simp [allCommands, List.filter_map, Function.comp_def]

/-! ## What the LEDs show -/

theorem look_foldl (documented : d.Documented) (k : κ) {commands : List (Led × LedCommand)}
    (valid : ∀ c ∈ commands, c.2.Valid) (led : Led) :
    d.look ((commands.map fun (led, command) => command.line led).foldl d.write k) led =
      ((commands.filter fun c => c.1 = led).map Prod.snd).foldl LedState.after (d.look k led) := by
  induction commands generalizing k with
  | nil => rfl
  | cons c commands ih =>
      have later := @ih (d.write k (c.2.line c.1)) fun other member =>
        valid other (by simp [member])
      have now := documented k c.1 c.2 (valid c (by simp))
      rw [List.map_cons, List.foldl_cons, later, now]
      by_cases mine : c.1 = led
      · simp [mine]
      · rw [List.filter_cons_of_neg (by simpa using mine), Function.update_of_ne (Ne.symm mine)]

theorem commandsOf_eq (state : LightState) (led : Led) :
    commandsOf state led =
      if state.level led = 0 then [.blink false, .steady false]
      else .brightness (state.level led) ::
        if state.Flashes then [.timing state.flashOnMS state.flashOffMS, .blink true]
        else [.blink false, .steady true] := by
  have level := (toInt_level state led).1
  have dark : (state.level led).toInt ≤ 0 ↔ state.level led = 0 := by
    have zero : (0 : BitVec 32).toInt = 0 := by decide
    refine ⟨fun below => BitVec.eq_of_toInt_eq ?_, fun none => ?_⟩
    · rw [zero]
      omega
    · exact Int.le_of_eq ((congrArg BitVec.toInt none).trans zero)
  rw [commandsOf, channelCommands, if_congr dark rfl rfl]
  by_cases still : state.flashMode = .none <;> simp [LightState.Flashes, still]

theorem commandsOf_shows (s : LedState) (state : LightState) (led : Led) :
    ((commandsOf state led).foldl LedState.after s).Shows state led := by
  rw [LedState.Shows, commandsOf_eq]
  split_ifs <;> simp [LedState.after]

theorem look_lightStep (documented : d.Documented) (k : κ) {call : LightCall}
    (leds : openLights vendor call.light = some .lightsSetLightLed) (led : Led) :
    d.look (lightStep d vendor k call).1 led =
      ((commandsOf call.state led).filter fun command => !call.fails (command.line led)).foldl
        LedState.after (d.look k led) := by
  rw [lightStep, leds]
  dsimp only
  have valid : ∀ c ∈ (allCommands call.state).filter fun c => !call.fails (c.2.line c.1),
      c.2.Valid := fun c member => allCommands_valid call.state c (List.mem_filter.mp member).1
  have written := look_foldl documented k valid led
  rw [lightsSetLightLed_eq, List.filter_map]
  refine written.trans ?_
  congr 1
  rw [← allCommands_led call.state led, List.filter_map, List.filter_filter, List.filter_filter]
  congr 1
  apply List.filter_congr
  intro c _
  by_cases mine : c.1 = led <;> simp [mine]

theorem lightStep_other (k : κ) {call : LightCall}
    (other : openLights vendor call.light ≠ some .lightsSetLightLed) :
    (lightStep d vendor k call).1 = k := by
  rw [lightStep]
  split
  · next leds => exact absurd leds other
  · rfl

theorem final_others (k : κ) {es : List LightCall}
    (others : ∀ e ∈ es, openLights vendor e.light ≠ some .lightsSetLightLed) :
    final (lightStep d vendor) k es = k := by
  induction es generalizing k with
  | nil => rfl
  | cons e es ih =>
      rw [final_cons, lightStep_other k (others e (by simp))]
      exact ih k fun other member => others other (by simp [member])

/-- The lights that share the LEDs: whatever was written before, and whatever of it failed, the LEDs
show what the last call asked for if its lines can be written. -/
theorem lights_show_last (documented : d.Documented) (k : κ) (before after : List LightCall)
    (call : LightCall) (leds : openLights vendor call.light = some .lightsSetLightLed)
    (writes : ∀ line ∈ lightsSetLightLed call.state, call.fails line = false)
    (others : ∀ e ∈ after, openLights vendor e.light ≠ some .lightsSetLightLed) (led : Led) :
    (d.look (final (lightStep d vendor) k (before ++ call :: after)) led).Shows call.state led := by
  rw [final_append, final_cons, final_others _ others, look_lightStep documented _ leds]
  have all : ∀ command ∈ commandsOf call.state led, (!call.fails (command.line led)) = true := by
    intro command member
    have there : (led, command) ∈ allCommands call.state :=
      List.mem_flatMap.mpr ⟨led, by cases led <;> simp, List.mem_map.mpr ⟨command, member, rfl⟩⟩
    rw [writes _ (by
      rw [lightsSetLightLed_eq]
      exact List.mem_map.mpr ⟨_, there, rfl⟩)]
    rfl
  rw [List.filter_eq_self.mpr all]
  exact commandsOf_shows _ call.state led

/-! ## What no call has asked for -/

def ledStates (vendor : Bool) (es : List LightCall) : List LightState :=
  (es.filter fun e => openLights vendor e.light = some .lightsSetLightLed).map LightCall.state

/-- What a LED shows is what it has shown at first, or what one of `states` asks for. -/
structure AsAsked (states : List LightState) (led : Led) (first s : LedState) : Prop where
  brightness : s.brightness = first.brightness ∨
    ∃ state ∈ states, s.brightness = state.level led
  timing : s.onMS = first.onMS ∧ s.offMS = first.offMS ∨
    ∃ state ∈ states, state.Flashes ∧ s.onMS = state.flashOnMS ∧ s.offMS = state.flashOffMS
  blink : s.blink = true → first.blink = true ∨
    ∃ state ∈ states, state.Flashes ∧ state.level led ≠ 0

theorem AsAsked.more {states : List LightState} {first s : LedState}
    (asked : AsAsked states led first s) (others : List LightState) :
    AsAsked (states ++ others) led first s where
  brightness := asked.brightness.imp_right fun ⟨state, member, same⟩ =>
    ⟨state, List.mem_append_left _ member, same⟩
  timing := asked.timing.imp_right fun ⟨state, member, same⟩ =>
    ⟨state, List.mem_append_left _ member, same⟩
  blink blinks := (asked.blink blinks).imp_right fun ⟨state, member, same⟩ =>
    ⟨state, List.mem_append_left _ member, same⟩

theorem AsAsked.after {states : List LightState} {first s : LedState}
    (asked : AsAsked states led first s) (here : state ∈ states) {command : LedCommand}
    (member : command ∈ commandsOf state led) : AsAsked states led first (s.after command) := by
  rw [commandsOf_eq] at member
  split_ifs at member with dark flashes
  · rcases List.mem_pair.mp member with rfl | rfl
    · exact ⟨asked.brightness, asked.timing, fun no => by cases no⟩
    · exact ⟨asked.brightness, asked.timing, asked.blink⟩
  · rcases List.mem_cons.mp member with rfl | rest
    · exact ⟨.inr ⟨state, here, rfl⟩, asked.timing, asked.blink⟩
    · rcases List.mem_pair.mp rest with rfl | rfl
      · exact ⟨asked.brightness, .inr ⟨state, here, flashes, rfl, rfl⟩, asked.blink⟩
      · exact ⟨asked.brightness, asked.timing, fun _ => .inr ⟨state, here, flashes, dark⟩⟩
  · rcases List.mem_cons.mp member with rfl | rest
    · exact ⟨.inr ⟨state, here, rfl⟩, asked.timing, asked.blink⟩
    · rcases List.mem_pair.mp rest with rfl | rfl
      · exact ⟨asked.brightness, asked.timing, fun no => by cases no⟩
      · exact ⟨asked.brightness, asked.timing, asked.blink⟩

/-- Whatever cannot be written, a LED never has a brightness or times, and never blinks, that no
call has asked for. -/
theorem lights_as_asked (documented : d.Documented) (k : κ) (es : List LightCall) (led : Led) :
    AsAsked (ledStates vendor es) led (d.look k led)
      (d.look (final (lightStep d vendor) k es) led) := by
  induction es using List.reverseRecOn with
  | nil => exact ⟨.inl rfl, .inl ⟨rfl, rfl⟩, .inl⟩
  | append_singleton es call ih =>
      rw [final_append, final_cons, final_nil]
      have earlier := ih.more (ledStates vendor [call])
      have states : ledStates vendor (es ++ [call]) =
          ledStates vendor es ++ ledStates vendor [call] := by
        rw [ledStates, List.filter_append, List.map_append]
        rfl
      rw [states]
      by_cases leds : openLights vendor call.light = some .lightsSetLightLed
      · have here : call.state ∈ ledStates vendor es ++ ledStates vendor [call] := by
          simp [ledStates, leds]
        rw [look_lightStep documented _ leds]
        exact List.foldlRecOn _ _ earlier fun s asked command member =>
          asked.after here (List.mem_filter.mp member).1
      · rw [lightStep_other _ leds]
        exact earlier

/-! ## A driver -/

def readLed (text : List Char) : Option Led :=
  match readNumber text with
  | 0 => some .red
  | 1 => some .green
  | 2 => some .blue
  | _ => none

def readLevel (text : List Char) : BitVec 32 := BitVec.ofNat 32 (readNumber text)

def readCommand : List (List Char) → Option (Led × LedCommand)
  | [['4'], led, level] => (readLed led).map (·, .brightness (readLevel level))
  | [['1'], led, on] => (readLed led).map (·, .steady (on = ['1']))
  | [['2'], led, on] => (readLed led).map (·, .blink (on = ['1']))
  | [['7'], led, onMS, offMS] => (readLed led).map (·, .timing (readLevel onMS) (readLevel offMS))
  | _ => none

def fihLed : LedDriver (Led → LedState) where
  write k text :=
    match readCommand (text.dropLast.splitOn ' ') with
    | some (led, command) => Function.update k led ((k led).after command)
    | none => k
  look := id

theorem readNumber_printed {n : BitVec 32} (positive : 0 ≤ n.toInt) :
    readNumber (printed n) = n.toNat := by
  have number : n.toInt = (n.toNat : Int) := by
    rw [BitVec.toInt_eq_toNat_cond] at positive ⊢
    split_ifs at positive ⊢ with small
    · rfl
    · have := n.isLt
      omega
  rw [printed, number, readNumber_decimalText]

theorem readLevel_printed {n : BitVec 32} (positive : 0 ≤ n.toInt) : readLevel (printed n) = n := by
  rw [readLevel, readNumber_printed positive, BitVec.ofNat_toNat, BitVec.setWidth_eq]

theorem readLed_printed (led : Led) : readLed (printed led.id) = some led := by
  rw [readLed, readNumber_printed (by cases led <;> decide)]
  cases led <;> rfl

theorem space_notMem_printed (n : BitVec 32) : ' ' ∉ printed n := by
  intro member
  rcases mem_decimalText member with sign | digit
  · cases sign
  · exact absurd digit (by decide)

theorem readCommand_fields (led : Led) {command : LedCommand} (valid : command.Valid) :
    readCommand (command.code :: printed led.id :: command.params) = some (led, command) := by
  cases command with
  | brightness level =>
      simp [readCommand, LedCommand.code, LedCommand.params, readLed_printed,
        readLevel_printed valid.1]
  | steady on | blink on =>
      cases on <;> simp [readCommand, LedCommand.code, LedCommand.params, readLed_printed, flag]
  | timing onMS offMS =>
      simp [readCommand, LedCommand.code, LedCommand.params, readLed_printed,
        readLevel_printed (Int.le_of_lt valid.1), readLevel_printed (Int.le_of_lt valid.2)]

theorem space_notMem_fields (led : Led) (command : LedCommand) :
    ∀ field ∈ command.code :: printed led.id :: command.params, ' ' ∉ field := by
  cases command with
  | brightness | timing => simp [LedCommand.code, LedCommand.params, space_notMem_printed]
  | steady on | blink on =>
      cases on <;> simp [LedCommand.code, LedCommand.params, space_notMem_printed, flag]

theorem fihLed_documented : fihLed.Documented := by
  intro k led command valid
  have fields : (command.line led).dropLast.splitOn ' ' =
      command.code :: printed led.id :: command.params := by
    rw [LedCommand.line, List.dropLast_concat]
    exact splitOn_separated (space_notMem_fields led command)
  simp only [fihLed, fields, readCommand_fields led valid, id]

def unlit : Led → LedState := fun _ => ⟨0, false, false, 0, 0⟩

def batteryLow : LightCall := ⟨.battery, ⟨0xffff0000, .none, 0, 0⟩, fun _ => false⟩

def message : LightCall := ⟨.notifications, ⟨0xff00ff00, .timed, 500, 2000⟩, fun _ => false⟩

/-- The message takes the battery's light away. -/
theorem lights_show_last_message :
    (fihLed.look (final (lightStep fihLed false) unlit
      ([batteryLow] ++ message :: [⟨.backlight, ⟨0xffffffff, .none, 0, 0⟩, fun _ => false⟩]))
        .red).Shows message.state .red :=
  lights_show_last fihLed_documented unlit [batteryLow]
    [⟨.backlight, ⟨0xffffffff, .none, 0, 0⟩, fun _ => false⟩] message rfl (fun _ _ => rfl)
    (by decide) .red

theorem lights_as_asked_message :
    AsAsked (ledStates false [batteryLow, message]) .green (fihLed.look unlit .green)
      (fihLed.look (final (lightStep fihLed false) unlit [batteryLow, message]) .green) :=
  lights_as_asked fihLed_documented unlit [batteryLow, message] .green

end VibeXperia.Proof.Lights
