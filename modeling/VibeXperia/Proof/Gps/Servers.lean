import VibeXperia.Proof.Gps.Engine
import VibeXperia.Gps.Servers

namespace VibeXperia.Proof.Gps
open Lib VibeXperia.Gps

variable {conf : EngineConf} {answers : EngineAnswers} {data : LocEngData} {eng : LocEng}
variable {e : EngineEvent} {msg : LocMsg} {msgs : List LocMsg} {keeps : Bool}
variable {type : LocServerType} {server : LocServer} {hostname : CString} {port : Int}
variable {resolve : Resolver}

/-! ## What a call sends -/

theorem serverAsked_type (asked : serverAsked resolve type hostname port = some server) :
    server.type = type := by
  cases type
  case agpsSupl =>
    cases asked
    rfl
  all_goals
    obtain ⟨addr, -, rfl⟩ := Option.map_eq_some_iff.mp asked
    rfl

theorem locEngSetServer_eq :
    locEngSetServer resolve type hostname port =
      if deliverable resolve type hostname port then
        ((serverAsked resolve type hostname port).map LocMsg.setServer).toList
      else [] := by
  cases type
  case agpsSupl => simp [locEngSetServer, deliverable, serverAsked]
  all_goals
    cases found : resolve hostname <;>
      simp [locEngSetServer, deliverable, serverAsked, found]

theorem asked_of_deliverable (fits : deliverable resolve type hostname port = true) :
    ∃ server, serverAsked resolve type hostname port = some server := by
  cases type
  case agpsSupl => exact ⟨_, rfl⟩
  all_goals
    obtain ⟨addr, found⟩ := Option.isSome_iff_exists.mp fits
    rw [serverAsked, found]
    exact ⟨_, rfl⟩

theorem mem_locEngSetServer (sent : msg ∈ locEngSetServer resolve type hostname port) :
    ∃ server, msg = .setServer server ∧ server.type = type ∧
      ∀ url, server = .url url → url.length < maxUrlLen := by
  rw [locEngSetServer_eq] at sent
  split at sent
  · rename_i fits
    obtain ⟨server, asked⟩ := asked_of_deliverable fits
    rw [asked, Option.map_some, Option.toList_some, List.mem_singleton] at sent
    refine ⟨server, sent, serverAsked_type asked, ?_⟩
    rintro url rfl
    have supl := serverAsked_type asked
    cases supl
    cases asked
    exact of_decide_eq_true fits
  · cases sent

/-! ## Engines without buffered servers -/

structure Unbuffered (data : LocEngData) : Prop where
  suplHost : data.suplHost = none
  c2kHost : data.c2kHost = none

theorem Unbuffered.agpsReinit (unbuffered : Unbuffered data) :
    locEngAgpsReinit data resolve = [] := by
  rw [locEngAgpsReinit, unbuffered.suplHost, unbuffered.c2kHost]
  rfl

theorem Unbuffered.proc (unbuffered : Unbuffered data) :
    Unbuffered (msg.proc conf answers data).1 ∧ (msg.proc conf answers data).2.1 = [] := by
  have same := @proc_sameSetup conf answers data msg
  refine ⟨⟨same.suplHost.trans unbuffered.suplHost, same.c2kHost.trans unbuffered.c2kHost⟩, ?_⟩
  apply List.eq_nil_iff_forall_not_mem.mpr
  intro m sent
  cases msg
  case up =>
    rw [LocMsg.proc, locEngHandleEngineUp, unbuffered.agpsReinit, ite_self] at sent
    dsimp only at sent
    split at sent <;> cases sent
  case reportSv =>
    rw [LocMsg.proc] at sent
    split at sent <;> cases sent
  case requestNi =>
    rw [LocMsg.proc] at sent
    split at sent <;> cases sent
  all_goals cases sent

theorem Unbuffered.perform {call : EngineCall} (unbuffered : Unbuffered data)
    (created : data.created = true) :
    Unbuffered (call.perform conf resolve data).1 ∧
      ∀ msg ∈ (call.perform conf resolve data).2, ∀ server, msg = .setServer server →
        (∃ hostname port, call = .setServer server.type hostname port) ∧
          ∀ url, server = .url url → url.length < maxUrlLen := by
  cases call with
  | init =>
      rw [EngineCall.perform, if_pos created]
      exact ⟨unbuffered, by simp⟩
  | agpsInit =>
      rw [EngineCall.perform, unbuffered.agpsReinit, ite_self]
      split
      · exact ⟨⟨unbuffered.suplHost, unbuffered.c2kHost⟩, by simp⟩
      · exact ⟨unbuffered, by simp⟩
  | setServer type hostname port =>
      rw [EngineCall.perform, locEngSetServerProxy.eq_def, if_pos created]
      refine ⟨unbuffered, fun msg sent server same => ?_⟩
      obtain ⟨server', same', rfl, fits⟩ := mem_locEngSetServer sent
      rw [same] at same'
      cases same'
      exact ⟨⟨hostname, port, rfl⟩, fits⟩
  | setPositionMode | start | stop | deleteAidingData =>
      rw [EngineCall.perform, if_pos created]
      refine ⟨unbuffered, fun msg sent server same => ?_⟩
      rw [List.mem_singleton.mp sent] at same
      cases same
  | cleanup =>
      rw [EngineCall.perform]
      refine ⟨unbuffered, fun msg sent server same => ?_⟩
      dsimp only at sent
      split at sent
      · rw [List.mem_singleton.mp sent] at same
        cases same
      · cases sent

/-! ## What is delivered -/

theorem proc_delivered :
    (msg.proc conf answers data).2.2.findSome? (serverDelivered type) = serverSent type msg := by
  have reported (data : LocEngData) (status : GpsStatusValue) :
      (locEngReportStatus data status).2.findSome? (serverDelivered type) = none := by
    rw [locEngReportStatus]
    dsimp only
    split <;> rfl
  have updated (data : LocEngData) :
      (updateAidingDataForDeletion data).2.findSome? (serverDelivered type) = none := by
    rw [updateAidingDataForDeletion]
    split <;> rfl
  have started (data : LocEngData) :
      (locEngStartHandler answers data).2.findSome? (serverDelivered type) = none := by
    rw [locEngStartHandler]
    split_ifs <;> rfl
  cases msg with
  | init | positionMode => rfl
  | startFix => exact started data
  | stopFix =>
      rw [LocMsg.proc, silent, locEngStopHandler]
      split
      · dsimp only
        split <;> rfl
      · rfl
  | setServer server =>
      rw [LocMsg.proc, List.findSome?_singleton]
      rfl
  | delAidData flags => exact updated _
  | reportPosition position =>
      obtain same | ⟨location, same⟩ | ⟨location, stops, -, stopped, same⟩ :=
        @reportPosition_cases conf data position <;> rw [LocMsg.proc, silent, same]
      · rfl
      · rfl
      · rcases stopped with rfl | rfl <;> rfl
  | reportSv =>
      rw [LocMsg.proc]
      split <;> rfl
  | reportStatus status =>
      rw [LocMsg.proc]
      dsimp only
      rw [List.findSome?_append, reported, updated]
      rfl
  | requestNi privacyOverride =>
      rw [LocMsg.proc]
      split <;> rfl
  | down => exact reported data .engineOff
  | up =>
      rw [LocMsg.proc, locEngHandleEngineUp]
      dsimp only
      split
      · rw [List.findSome?_append, reported, List.findSome?_cons, started]
        rfl
      · exact reported data .engineOn

/-! ## One reaction of an engine without buffered servers -/

theorem Unbuffered.step (unbuffered : Unbuffered eng.data) (created : eng.data.created = true)
    (other : setServerCalled type e = false) :
    Unbuffered (eng.step conf e).1.data ∧
      lastWrite (serverSent type) eng.msgs =
        (lastWrite (serverSent type) (eng.step conf e).1.msgs).or
          ((eng.step conf e).2.findSome? (serverDelivered type)) := by
  cases e with
  | call call resolve =>
      obtain ⟨after, sent⟩ :=
        @Unbuffered.perform conf eng.data resolve call unbuffered created
      refine ⟨after, ?_⟩
      have silent : ∀ msg ∈ (call.perform conf resolve eng.data).2,
          serverSent type msg = none := by
        intro msg member
        cases msg with
        | setServer server =>
            obtain ⟨⟨hostname, port, same⟩, -⟩ := sent _ member server rfl
            rw [serverSent, if_neg]
            rintro rfl
            rw [same] at other
            simp [setServerCalled] at other
        | _ => rfl
      rw [LocEng.step]
      dsimp only
      rw [lastWrite_append, lastWrite_eq_none.mpr silent, Option.none_or, List.findSome?_nil,
        Option.or_none]
  | report report =>
      have silent : lastWrite (serverSent type) (report.sent conf) = none := by
        rw [lastWrite, report_silent (fun _ => rfl) rfl (fun _ => rfl) (fun _ => rfl) rfl rfl]
        rfl
      rw [LocEng.step, if_pos created]
      refine ⟨unbuffered, ?_⟩
      dsimp only
      rw [lastWrite_append, silent, Option.none_or, List.findSome?_nil, Option.or_none]
  | proc answers =>
      cases waiting : eng.msgs with
      | nil =>
          rw [step_proc_nil waiting, waiting]
          exact ⟨unbuffered, rfl⟩
      | cons msg msgs =>
          obtain ⟨after, sent⟩ := @Unbuffered.proc conf answers eng.data msg unbuffered
          rw [step_proc_cons waiting]
          refine ⟨after, ?_⟩
          dsimp only
          rw [sent, List.append_nil, proc_delivered, lastWrite_cons]

theorem Unbuffered.fits (unbuffered : Unbuffered eng.data) (created : eng.data.created = true)
    (queued : ∀ url, .setServer (.url url) ∈ eng.msgs → url.length < maxUrlLen) :
    Unbuffered (eng.step conf e).1.data ∧
      (∀ url, .setServer (.url url) ∈ (eng.step conf e).1.msgs → url.length < maxUrlLen) ∧
      ∀ url, (eng.step conf e).2.findSome? (serverDelivered type) = some (.url url) →
        url.length < maxUrlLen := by
  cases e with
  | call call resolve =>
      obtain ⟨after, sent⟩ :=
        @Unbuffered.perform conf eng.data resolve call unbuffered created
      refine ⟨after, fun url member => ?_, by simp [LocEng.step]⟩
      rcases List.mem_append.mp member with before | now
      · exact queued url before
      · exact (sent _ now _ rfl).2 url rfl
  | report report =>
      rw [LocEng.step, if_pos created]
      refine ⟨unbuffered, fun url member => ?_, by simp⟩
      rcases List.mem_append.mp member with before | now
      · exact queued url before
      · cases report with
        | niNotify privacyOverride =>
            rw [ModemReport.sent] at now
            split at now
            · cases List.mem_singleton.mp now
            · cases now
        | position | sv | status | engineDown | engineUp => cases List.mem_singleton.mp now
  | proc answers =>
      cases waiting : eng.msgs with
      | nil =>
          rw [step_proc_nil waiting]
          exact ⟨unbuffered, queued, by simp⟩
      | cons msg msgs =>
          obtain ⟨after, sent⟩ := @Unbuffered.proc conf answers eng.data msg unbuffered
          rw [step_proc_cons waiting]
          refine ⟨after, fun url member => ?_, fun url delivered => ?_⟩
          · rw [sent, List.append_nil] at member
            apply queued
            rw [waiting]
            exact List.mem_cons_of_mem msg member
          · have carried : msg = .setServer (.url url) := by
              dsimp only at delivered
              rw [proc_delivered] at delivered
              cases msg with
              | setServer server =>
                  rw [serverSent] at delivered
                  split at delivered
                  · exact congrArg LocMsg.setServer (Option.some.inj delivered)
                  · cases delivered
              | _ => cases delivered
            apply queued
            rw [waiting, carried]
            exact List.mem_cons_self

/-! ## Runs -/

variable {past ts : List EngineTransition} {t : EngineTransition}

theorem modemServer_snoc :
    modemServer keeps type (ts ++ [t]) =
      (serverWritten keeps type t).getD (modemServer keeps type ts) := by
  rw [modemServer, settled_sent, ← List.nil_append [t], lastWrite_snoc, lastWrite_nil,
    Option.or_none]
  rfl

theorem restartsBefore_snoc :
    RestartsBefore type (ts ++ [t]) ↔
      RestartsBefore type ts ∧
        (handledIn t = some .up → lastWrite (serverSent type) t.before.msgs ≠ none) := by
  rw [RestartsBefore, List.forall_mem_append, List.forall_mem_singleton]
  rfl

theorem handledUp_delivers (up : handledIn (react (LocEng.step conf) eng e) = some .up) :
    (eng.step conf e).2.findSome? (serverDelivered type) = none := by
  cases e with
  | call | report => cases up
  | proc answers =>
      obtain ⟨msgs, waiting⟩ : ∃ msgs, eng.msgs = .up :: msgs := List.head?_eq_some_iff.mp up
      rw [step_proc_cons waiting]
      exact proc_delivered

/-- Before the engine is initialised, nothing reaches the modem; afterwards, nothing is buffered. -/
structure Served (keeps : Bool) (type : LocServerType) (ts : List EngineTransition)
    (eng : LocEng) : Prop where
  born : Born eng
  unset : eng.data.created = false → modemServer keeps type ts = none
  unbuffered : eng.data.created = true → Unbuffered eng.data
  queued : ∀ url, .setServer (.url url) ∈ eng.msgs → url.length < maxUrlLen
  modem : ∀ url, modemServer keeps type ts = some (.url url) → url.length < maxUrlLen

theorem unborn_written (unborn : Unborn eng) :
    serverWritten keeps type (react (LocEng.step conf) eng e) = none := by
  have silent : (react (LocEng.step conf) eng e).outputs = [] := (unborn.step e).1
  have unhandled : handledIn (react (LocEng.step conf) eng e) ≠ some .up := by
    rw [handledIn.eq_def, react]
    cases e <;> simp [unborn.msgs]
  rw [serverWritten, if_neg fun up => unhandled up.1, silent]
  rfl

theorem modemServer_from (set : modemServer keeps type (ts ++ [t]) = some server) :
    t.outputs.findSome? (serverDelivered type) = some server ∨
      modemServer keeps type ts = some server := by
  rw [modemServer_snoc, serverWritten] at set
  split at set
  · cases set
  · cases delivered : t.outputs.findSome? (serverDelivered type) with
    | none =>
        rw [delivered] at set
        exact .inr set
    | some now =>
        rw [delivered] at set
        exact .inl set

theorem Served.step (served : Served keeps type ts eng) (e : EngineEvent) :
    Served keeps type (ts ++ [react (LocEng.step conf) eng e]) (eng.step conf e).1 := by
  have born := @Born.step conf eng e served.born
  cases created : eng.data.created with
  | false =>
      have unborn := served.born created
      have unset : modemServer keeps type (ts ++ [react (LocEng.step conf) eng e]) = none := by
        rw [modemServer_snoc, unborn_written unborn]
        exact served.unset created
      have unfit (url : CString) (set : modemServer keeps type
          (ts ++ [react (LocEng.step conf) eng e]) = some (.url url)) : url.length < maxUrlLen := by
        rw [unset] at set
        cases set
      obtain ⟨-, still | ⟨-, fresh⟩⟩ := @Unborn.step conf eng unborn e
      · refine ⟨born, fun _ => unset, fun now => ?_, fun url member => ?_, unfit⟩
        · rw [still.created] at now
          cases now
        · rw [still.msgs] at member
          cases member
      · refine ⟨born, fun _ => unset, fun _ => ?_, fun url member => ?_, unfit⟩
        · rw [fresh]
          exact ⟨rfl, rfl⟩
        · rw [fresh] at member
          cases List.mem_singleton.mp member
  | true =>
      have unbuffered := served.unbuffered created
      obtain ⟨after, queued, delivered⟩ :=
        @Unbuffered.fits conf eng e type unbuffered created served.queued
      refine ⟨born, fun never => ?_, fun _ => after, queued, fun url set => ?_⟩
      · rw [step_created created] at never
        cases never
      · rcases modemServer_from set with now | before
        · exact delivered url now
        · exact served.modem url before

theorem run_served (events : List EngineEvent) :
    Served keeps type (trace (LocEng.step conf) .zero events)
      (final (LocEng.step conf) .zero events) := by
  have zero : Served keeps type [] .zero := ⟨fun _ => zero_unborn, fun _ => rfl, nofun, nofun, nofun⟩
  exact @history_invariant LocEng EngineEvent EngineEffect (LocEng.step conf) (Served keeps type)
    (fun _ => True) (fun _ _ e served _ => served.step e) .zero events zero fun _ _ => trivial

structure Unset (keeps : Bool) (type : LocServerType) (past ts : List EngineTransition)
    (eng : LocEng) : Prop where
  born : Born eng
  unbuffered : eng.data.created = true → Unbuffered eng.data
  queued : lastWrite (serverSent type) eng.msgs = none
  modem : modemServer keeps type (past ++ ts) = none

theorem Unset.step (unset : Unset keeps type past ts eng)
    (other : setServerCalled type e = false) :
    Unset keeps type past (ts ++ [react (LocEng.step conf) eng e]) (eng.step conf e).1 := by
  have born := @Born.step conf eng e unset.born
  cases created : eng.data.created with
  | false =>
      have unborn := unset.born created
      have modem : modemServer keeps type (past ++ (ts ++ [react (LocEng.step conf) eng e])) =
          none := by
        rw [← List.append_assoc, modemServer_snoc, unborn_written unborn]
        exact unset.modem
      obtain ⟨-, still | ⟨-, fresh⟩⟩ := @Unborn.step conf eng unborn e
      · refine ⟨born, fun now => ?_, ?_, modem⟩
        · rw [still.created] at now
          cases now
        · rw [still.msgs]
          rfl
      · refine ⟨born, fun _ => ?_, ?_, modem⟩
        · rw [fresh]
          exact ⟨rfl, rfl⟩
        · rw [fresh]
          rfl
  | true =>
      obtain ⟨after, waits⟩ :=
        @Unbuffered.step conf eng e type (unset.unbuffered created) created other
      rw [unset.queued] at waits
      obtain ⟨queued, delivered⟩ := Option.or_eq_none_iff.mp waits.symm
      refine ⟨born, fun _ => after, queued, ?_⟩
      rw [← List.append_assoc, modemServer_snoc, serverWritten, react, delivered]
      split
      · rfl
      · exact unset.modem

structure Follows (keeps : Bool) (type : LocServerType) (server : LocServer)
    (past ts : List EngineTransition) (eng : LocEng) : Prop where
  created : eng.data.created = true
  unbuffered : Unbuffered eng.data
  server : (lastWrite (serverSent type) eng.msgs = some server ∧ RestartsBefore type ts) ∨
    (lastWrite (serverSent type) eng.msgs = none ∧
      (modemServer keeps type (past ++ ts) = some server ↔
        keeps = true ∨ RestartsBefore type ts))

theorem Follows.step (follows : Follows keeps type server past ts eng)
    (other : setServerCalled type e = false) :
    Follows keeps type server past (ts ++ [react (LocEng.step conf) eng e])
      (eng.step conf e).1 := by
  obtain ⟨after, waits⟩ :=
    @Unbuffered.step conf eng e type follows.unbuffered follows.created other
  refine ⟨step_created follows.created, after, ?_⟩
  have before : (react (LocEng.step conf) eng e).before = eng := rfl
  have outputs : (react (LocEng.step conf) eng e).outputs = (eng.step conf e).2 := rfl
  rw [restartsBefore_snoc, before, ← List.append_assoc, modemServer_snoc, serverWritten, outputs]
  rcases follows.server with ⟨queued, restarts⟩ | ⟨taken, modem⟩
  · rw [queued] at waits ⊢
    cases still : lastWrite (serverSent type) (eng.step conf e).1.msgs with
    | some same =>
        rw [still, Option.some_or] at waits
        exact .inl ⟨waits.symm, restarts, fun _ => nofun⟩
    | none =>
        rw [still, Option.none_or] at waits
        have down : handledIn (react (LocEng.step conf) eng e) ≠ some .up := by
          intro up
          rw [handledUp_delivers up] at waits
          cases waits
        refine .inr ⟨rfl, ?_⟩
        rw [if_neg fun up => down up.1, ← waits]
        exact iff_of_true rfl (.inr ⟨restarts, fun _ => nofun⟩)
  · rw [taken] at waits
    obtain ⟨queued, delivered⟩ := Option.or_eq_none_iff.mp waits.symm
    refine .inr ⟨queued, ?_⟩
    rw [taken, delivered]
    split
    · rename_i up
      refine iff_of_false nofun ?_
      rintro (kept | ⟨-, unhandled⟩)
      · rw [up.2] at kept
        cases kept
      · exact unhandled up.1 rfl
    · rename_i down
      refine modem.trans (or_congr_right' fun forgets => ?_)
      have unhandled : handledIn (react (LocEng.step conf) eng e) ≠ some .up := by
        intro up
        exact down ⟨up, Bool.not_eq_true _ ▸ forgets⟩
      exact ⟨fun restarts => ⟨restarts, fun up => absurd up unhandled⟩, And.left⟩

theorem asked_undeliverable (unfit : deliverable resolve type hostname port = false)
    (asked : serverAsked resolve type hostname port = some server) :
    ∃ url, server = .url url ∧ maxUrlLen ≤ url.length := by
  cases type
  case agpsSupl =>
    cases asked
    exact ⟨_, rfl, Nat.le_of_not_lt (of_decide_eq_false unfit)⟩
  all_goals
    obtain ⟨addr, found, -⟩ := Option.map_eq_some_iff.mp asked
    rw [deliverable, found] at unfit
    cases unfit

abbrev setServerCall (type : LocServerType) (hostname : CString) (port : Int)
    (resolve : Resolver) : EngineEvent :=
  .call (.setServer type hostname port) resolve

theorem unborn_call (unborn : Unborn eng) (unset : modemServer keeps type past = none) :
    Unset keeps type
      (past ++ [react (LocEng.step conf) eng (setServerCall type hostname port resolve)]) []
      (eng.step conf (setServerCall type hostname port resolve)).1 := by
  obtain ⟨-, still | ⟨⟨_, init⟩, -⟩⟩ :=
    @Unborn.step conf eng unborn (setServerCall type hostname port resolve)
  · refine ⟨fun _ => still, fun now => ?_, ?_, ?_⟩
    · rw [still.created] at now
      cases now
    · rw [still.msgs]
      rfl
    · rw [List.append_nil, modemServer_snoc, unborn_written unborn]
      exact unset
  · injection init with call
    cases call

theorem created_call (created : eng.data.created = true) (unbuffered : Unbuffered eng.data)
    (fits : deliverable resolve type hostname port = true)
    (asked : serverAsked resolve type hostname port = some server) :
    Follows keeps type server past []
      (eng.step conf (setServerCall type hostname port resolve)).1 := by
  have sent : (eng.step conf (setServerCall type hostname port resolve)).1 =
      ⟨eng.data, eng.msgs ++ [.setServer server]⟩ := by
    rw [LocEng.step, EngineCall.perform, locEngSetServerProxy.eq_def, if_pos created]
    dsimp only
    rw [locEngSetServer_eq, if_pos fits, asked]
    rfl
  rw [sent]
  refine ⟨created, unbuffered, .inl ⟨?_, List.forall_mem_nil _⟩⟩
  rw [lastWrite_snoc, serverSent, if_pos (serverAsked_type asked), Option.some_or]

theorem run_unset (unset : Unset keeps type past [] eng) {after : List EngineEvent}
    (last : ∀ e ∈ after, setServerCalled type e = false) :
    Unset keeps type past (trace (LocEng.step conf) eng after)
      (final (LocEng.step conf) eng after) :=
  @history_invariant LocEng EngineEvent EngineEffect (LocEng.step conf) (Unset keeps type past)
    (setServerCalled type · = false) (fun _ _ _ unset other => unset.step other) eng after unset last

theorem run_follows (follows : Follows keeps type server past [] eng) {after : List EngineEvent}
    (last : ∀ e ∈ after, setServerCalled type e = false) :
    Follows keeps type server past (trace (LocEng.step conf) eng after)
      (final (LocEng.step conf) eng after) :=
  @history_invariant LocEng EngineEvent EngineEffect (LocEng.step conf)
    (Follows keeps type server past) (setServerCalled type · = false)
    (fun _ _ _ follows other => follows.step other) eng after follows last

/-- Once the server of the last call has left the queue, it is the server of the modem exactly if
the engine was initialised before the call, the server could be sent, and the modem did not forget
it in a restart. -/
theorem server_kept (conf : EngineConf) (keeps : Bool) {type : LocServerType}
    {hostname : CString} {port : Int} {resolve : Resolver} {before after : List EngineEvent}
    (last : ∀ e ∈ after, setServerCalled type e = false)
    (taken : lastWrite (serverSent type) (final (LocEng.step conf) .zero
      (before ++ setServerCall type hostname port resolve :: after)).msgs = none) :
    (∃ server, serverAsked resolve type hostname port = some server ∧
      modemServer keeps type (trace (LocEng.step conf) .zero
        (before ++ setServerCall type hostname port resolve :: after)) = some server) ↔
    (final (LocEng.step conf) .zero before).data.created = true ∧
      deliverable resolve type hostname port = true ∧
      (keeps = true ∨ RestartsBefore type (trace (LocEng.step conf)
        (final (LocEng.step conf) .zero
          (before ++ [setServerCall type hostname port resolve])) after)) := by
  have served := @run_served conf keeps type before
  have ended := @run_served conf keeps type
    (before ++ setServerCall type hostname port resolve :: after)
  rw [final_append, final_cons] at taken
  rw [final_append _ before [_], final_cons, final_nil]
  rw [trace_append, trace_cons, List.append_cons] at ended ⊢
  generalize trace (LocEng.step conf) .zero before = past at *
  generalize final (LocEng.step conf) .zero before = eng at *
  cases created : eng.data.created with
  | false =>
      have unset := @run_unset conf _ _ _ _ (@unborn_call conf eng keeps type hostname port resolve
        past (served.born created) (served.unset created)) after last
      refine iff_of_false ?_ (fun all => Bool.false_ne_true all.1)
      rintro ⟨server, -, set⟩
      rw [unset.modem] at set
      cases set
  | true =>
      cases fits : deliverable resolve type hostname port with
      | true =>
          obtain ⟨server, asked⟩ := asked_of_deliverable fits
          let now := react (LocEng.step conf) eng (setServerCall type hostname port resolve)
          have follows := @run_follows conf _ _ _ _ _ (@created_call conf eng keeps type server
            hostname port resolve (past ++ [now]) created (served.unbuffered created) fits asked)
            after last
          have kept := follows.server.resolve_left fun waits => by
            rw [taken] at waits
            cases waits.1
          simpa [asked] using kept.2
      | false =>
          refine iff_of_false ?_ (fun all => Bool.false_ne_true all.2.1)
          rintro ⟨server, asked, set⟩
          obtain ⟨url, rfl, long⟩ := asked_undeliverable fits asked
          exact Nat.not_lt.mpr long (ended.modem url set)

def suplCall : EngineEvent := setServerCall .agpsSupl ['h'] 7275 unresolved

def startedAndRestarted : List EngineEvent :=
  [.call .init unresolved, .proc obliging, .call .agpsInit unresolved, .proc obliging,
    .report .engineDown, .proc obliging, .report .engineUp, .proc obliging, .proc obliging]

theorem server_kept_initialised :
    (∃ server, serverAsked unresolved .agpsSupl ['h'] 7275 = some server ∧
      modemServer true .agpsSupl (trace (LocEng.step phone) .zero
        (initialised ++ suplCall :: startedAndRestarted)) = some server) ↔
    (final (LocEng.step phone) .zero initialised).data.created = true ∧
      deliverable unresolved .agpsSupl ['h'] 7275 = true ∧
      (true = true ∨ RestartsBefore .agpsSupl (trace (LocEng.step phone)
        (final (LocEng.step phone) .zero (initialised ++ [suplCall])) startedAndRestarted)) :=
  server_kept phone true (by simp [startedAndRestarted, setServerCalled]) (by decide)

/-- A server that is set before the initialisation does not reach the modem. -/
theorem early_server_lost :
    serverAsked unresolved .agpsSupl ['h'] 7275 = some (.url ("h:7275".toList)) ∧
      (final (LocEng.step phone) .zero (suplCall :: startedAndRestarted)).data.agpsStatusCb =
        true ∧
      (final (LocEng.step phone) .zero (suplCall :: startedAndRestarted)).msgs = [] ∧
      modemServer true .agpsSupl (trace (LocEng.step phone) .zero
        (suplCall :: startedAndRestarted)) = none := by
  decide

end VibeXperia.Proof.Gps
