import VibeXperia.Agps.Requests
import VibeXperia.Proof.Agps.Machine

namespace VibeXperia.Proof.Agps
open Lib VibeXperia.Agps VibeXperia.Agps.Act VibeXperia.Gps

variable {P : Subscriber → Prop} {s : Subscriber} {a : Act} {n : Notification}
variable {answers : Answers}

/-! ## Only clients of a kind are told -/

def addresseeOf : Subscriber → Option Addressee
  | .bit .. => some (.queue .locApiResp)
  | .atl ID _ | .ds ID _ => some (.atl ID)
  | .wifi senderId .. => (dataConnQueue senderId).map .queue

def Tells (P : Subscriber → Prop) : Effect → Prop
  | .told s _ call => P s ∧ ∀ x, call.bind Call.addressee = some x → addresseeOf s = some x
  | .informed .. => False
  | _ => True

/-- Only clients that satisfy `P` are in the list, and only such were told of something. -/
structure Within (P : Subscriber → Prop) (a : Act) : Prop where
  agps : a.machine.machineClass = .agps
  listed : ∀ s ∈ a.machine.mSubscribers, P s
  told : ∀ e ∈ a.log, Tells P e

structure OfClients (P : Subscriber → Prop) : Prop where
  cloned : ∀ s, P s → P s.clone
  marked : ∀ s, P s → P s.markInactive
  never : ∀ s, P s → s.kind ≠ .ds

theorem mem_modify {α : Type*} {list : List α} {i : Nat} {f : α → α} {c : α}
    (member : c ∈ list.modify i f) : c ∈ list ∨ ∃ c' ∈ list, c = f c' := by
  induction list generalizing i with
  | nil => simp at member
  | cons d list ih =>
      cases i with
      | zero =>
          rcases List.mem_cons.mp member with rfl | old
          · exact .inr ⟨d, by simp, rfl⟩
          · exact .inl (by simp [old])
      | succ i =>
          rcases List.mem_cons.mp member with rfl | later
          · exact .inl (by simp)
          · refine (ih later).imp (fun old => by simp [old]) fun ⟨c', old, same⟩ => ?_
            exact ⟨c', by simp [old], same⟩

theorem statusCall_addressee {m : AgpsStateMachine} {status : AgpsRsrcStatus} {x : Addressee}
    (answered : (statusCall m s status).bind Call.addressee = some x) : addresseeOf s = some x := by
  cases s <;> cases status <;>
    simp_all [statusCall, informCall, Call.addressee, addresseeOf, dataConnQueue,
      LOC_ENG_IF_REQUEST_SENDER_ID_GPSONE_DAEMON]

theorem Within.effect {e : Effect} (within : Within P a) (tells : Tells P e) :
    Within P (a.effect e) where
  agps := within.agps
  listed := within.listed
  told e' member := by
    rcases List.mem_append.mp member with old | new
    · exact within.told e' old
    · exact List.mem_singleton.mp new ▸ tells

theorem Within.setSubscribers {list : List Subscriber} (within : Within P a)
    (listed : ∀ s ∈ list, P s) : Within P (a.setSubscribers list) :=
  ⟨within.agps, listed, within.told⟩

theorem Within.setState (within : Within P a) (state : AgpsState) : Within P (a.setState state) :=
  ⟨within.agps, within.listed, within.told⟩

theorem Within.found {receiver : Receiver} (within : Within P a)
    (found : a.findSubscriber receiver = some s) : P s := by
  rw [findSubscriber_eq] at found
  exact within.listed s (List.mem_of_find?_eq_some found)

theorem Within.sent {action : AGpsStatusValue} (within : Within P a) :
    Within P (sendRsrcRequest answers action a).2 := by
  rw [sendRsrcRequest_agps answers action within.agps, sendAgpsRequest]
  cases a.findSubscriber .broadcastActive with
  | none =>
      dsimp only
      split_ifs
      · exact within.effect trivial
      · exact within
  | some s =>
      dsimp only
      split_ifs
      · exact within
      · exact within.effect trivial

theorem Within.left {stays : AgpsState} (within : Within P a) :
    Within P (if !a.hasSubscribers then
        (AgpsState.released, (sendRsrcRequest answers .releaseAgpsDataConn a).2)
      else if !a.hasActiveSubscribers then
        (.releasing, (sendRsrcRequest answers .releaseAgpsDataConn a).2)
      else (stays, a)).2 := by
  split_ifs
  · exact within.sent
  · exact within.sent
  · exact within

section Clients
variable (clients : OfClients P)
include clients

theorem Within.notified (within : Within P a) (mine : P s) :
    Within P (notifyRsrcStatus s n a).2 := by
  have tells (status : AgpsRsrcStatus) :
      Tells P (.told s status (statusCall a.machine s status)) :=
    ⟨mine, fun x answered => statusCall_addressee answered⟩
  have not_ds := clients.never s mine
  simp only [Act.notifyRsrcStatus, if_neg not_ds]
  split_ifs
  · cases n.rsrcStatus with
    | subscribe | max => exact within
    | _ => exact within.effect (tells _)
  · exact within

theorem Within.search {delete : Bool} {list : List Subscriber} (within : Within P a)
    (listed : ∀ s ∈ list, P s) :
    (∀ s ∈ (linkedListSearch (notifySubscriber n) delete list a).2.1, P s) ∧
      Within P (linkedListSearch (notifySubscriber n) delete list a).2.2 := by
  induction list generalizing a with
  | nil => exact ⟨listed, within⟩
  | cons s list ih =>
      have mine := listed s (by simp)
      have others : ∀ s ∈ list, P s := fun s' member => listed s' (by simp [member])
      have told : Within P (notifySubscriber n s a).2 :=
        within.notified clients mine
      rw [linkedListSearch]
      dsimp only
      split_ifs
      · exact ⟨others, told⟩
      · exact ⟨listed, told⟩
      · obtain ⟨rest, after⟩ := ih told others
        exact ⟨fun s' member => (List.mem_cons.mp member).elim (fun same => same ▸ mine) (rest s'),
          after⟩

theorem Within.looped {turns : Nat} {list : List Subscriber} (within : Within P a)
    (listed : ∀ s ∈ list, P s) : Within P (notifyLoop n turns list a) := by
  induction turns generalizing list a with
  | zero => exact within.setSubscribers listed
  | succ turns ih =>
      have searched := @Within.search P a n clients true list within listed
      rw [Act.notifyLoop]
      split
      · next rest told same =>
          rw [same] at searched
          exact searched.2.setSubscribers searched.1
      · next found rest told same =>
          rw [same] at searched
          exact ih searched.2 searched.1

theorem Within.notifiedAll (within : Within P a) : Within P (notifySubscribers n a) := by
  rw [Act.notifySubscribers]
  split_ifs
  · exact within.looped clients within.listed
  · exact (within.search clients within.listed).2

theorem Within.added (within : Within P a) (mine : P s) :
    Within P (addSubscriber s a) := by
  rw [addSubscriber_eq]
  refine within.setSubscribers fun c member => ?_
  rcases mem_enlist member with old | ⟨rfl, -⟩
  · exact within.listed c old
  · exact clients.cloned s mine

theorem Within.leaving (within : Within P a) (mine : P s) (entry : Nat) :
    Within P (leave s entry a) := by
  rw [VibeXperia.Agps.leave]
  split_ifs
  · rw [setInactive, if_neg (clients.never s mine)]
    refine within.setSubscribers fun c member => ?_
    rcases mem_modify member with old | ⟨c', old, rfl⟩
    · exact within.listed c old
    · exact clients.marked c' (within.listed c' old)
  · exact within.notifiedAll clients

theorem Within.closed {status : AgpsRsrcStatus} (within : Within P a) :
    Within P (if (notifySubscribers ⟨.broadcastInactive, status, true⟩ a).hasActiveSubscribers then
        (AgpsState.pending, (sendRsrcRequest answers .requestAgpsDataConn
          (notifySubscribers ⟨.broadcastInactive, status, true⟩ a)).2)
      else (.released, notifySubscribers ⟨.broadcastInactive, status, true⟩ a)).2 := by
  have told := @Within.notifiedAll P a ⟨.broadcastInactive, status, true⟩ clients within
  split_ifs
  · exact told.sent
  · exact told

def RsrcEvent.data : RsrcEvent → Option Subscriber
  | .subscribe data | .unsubscribe data _ => some data
  | _ => none

theorem Within.afterEvent {event : RsrcEvent} (within : Within P a)
    (mine : ∀ data, RsrcEvent.data event = some data → P data) :
    Within P (onStateEvent answers event a) := by
  have added (data) (asks : event = .subscribe data) : Within P (Act.addSubscriber data a) :=
    within.added clients (mine data (by rw [asks]; rfl))
  have left (data entry) (asks : event = .unsubscribe data entry) :
      Within P (VibeXperia.Agps.leave data entry a) :=
    within.leaving clients (mine data (by rw [asks]; rfl)) entry
  rw [VibeXperia.Agps.onStateEvent]
  refine Within.setState ?_ _
  cases a.machine.mState with
  | released =>
      cases event with
      | subscribe data =>
          simp only [AgpsReleasedState.onRsrcEvent]
          split_ifs
          · exact (added data rfl).sent
          · exact (added data rfl).sent
      | unsubscribe data entry => exact within.notified clients (mine data rfl)
      | granted | released | denied => exact within
  | pending =>
      cases event with
      | subscribe data => exact added data rfl
      | unsubscribe data entry => exact (left data entry rfl).left
      | granted | denied =>
          simp only [AgpsPendingState.onRsrcEvent]
          exact within.notifiedAll clients
      | released => exact within
  | acquired =>
      cases event with
      | subscribe data =>
          have told : Within P (Act.notifyRsrcStatus data ⟨.rcver data, .granted, false⟩ a).2 :=
            within.notified clients (mine data rfl)
          exact told.added clients (mine data rfl)
      | unsubscribe data entry => exact (left data entry rfl).left
      | granted | denied => exact within
      | released =>
          simp only [AgpsAcquiredState.onRsrcEvent]
          exact within.notifiedAll clients
  | releasing =>
      cases event with
      | subscribe data => exact added data rfl
      | unsubscribe data entry =>
          simp only [AgpsReleasingState.onRsrcEvent]
          split_ifs
          · exact left data entry rfl
          · exact left data entry rfl
      | granted => exact within
      | released | denied => exact within.closed clients

theorem Within.unsubscribed (within : Within P a) :
    Within P (AgpsStateMachine.unsubscribeRsrc noAnswers s a).2 := by
  rw [AgpsStateMachine.unsubscribeRsrc]
  split
  · exact within
  · next found here =>
      refine within.afterEvent clients fun data same => ?_
      cases same
      exact within.found here

theorem Within.processed {msg : AgpsMsg} (within : Within P a)
    (mine : ∀ c, msg = .subscribe c → P c) : Within P (msg.procAct a) := by
  cases msg with
  | subscribe c =>
      rw [AgpsMsg.procAct, AgpsStateMachine.subscribeRsrc]
      split_ifs
      · exact within.notified clients (mine c rfl)
      · refine within.afterEvent clients fun data same => ?_
        cases same
        exact mine c rfl
  | unsubscribe c => exact within.unsubscribed clients
  | openSuccess apn bearerType =>
      have set : Within P
          (AgpsStateMachine.setAPN apn (AgpsStateMachine.setBearer bearerType a)) :=
        ⟨within.agps, within.listed, within.told⟩
      exact set.afterEvent clients fun data same => by cases same
  | closed | openFailed => exact within.afterEvent clients fun data same => by cases same

end Clients

/-! ## Answers go to those who asked -/

variable {nifs : Nifs} {who who' : Nif → List Addressee} {own : Option Addressee}

def Client (asking : List Addressee) (s : Subscriber) : Prop :=
  s.kind ≠ .ds ∧ ∀ x, addresseeOf s = some x → x ∈ asking

theorem ofClients (asking : List Addressee) : OfClients (Client asking) where
  cloned s mine := by cases s <;> exact mine
  marked s mine := by cases s <;> exact mine
  never s mine := mine.1

/-- The clients in the lists of the machines are of those who asked. -/
structure OfAskers (nifs : Nifs) (who : Nif → List Addressee) : Prop where
  agps : ∀ n m, nifs.nif n = some m → m.machineClass = .agps
  listed : ∀ n m, nifs.nif n = some m → ∀ s ∈ m.mSubscribers, Client (who n) s
  wifi : nifs.nif .wifi ≠ none

theorem OfAskers.mono (askers : OfAskers nifs who) (more : ∀ n x, x ∈ who n → x ∈ who' n) :
    OfAskers nifs who' where
  agps := askers.agps
  listed n m here s member :=
    ⟨(askers.listed n m here s member).1,
      fun x same => more n x ((askers.listed n m here s member).2 x same)⟩
  wifi := askers.wifi

theorem nif_set (n n' : Nif) (m : AgpsStateMachine) :
    (nifs.set n m).nif n' = if n' = n then some m else nifs.nif n' := rfl

theorem OfAskers.set {n : Nif} {m : AgpsStateMachine} (askers : OfAskers nifs who)
    (agps : m.machineClass = .agps) (listed : ∀ s ∈ m.mSubscribers, Client (who' n) s)
    (others : ∀ n', n' ≠ n → who' n' = who n') : OfAskers (nifs.set n m) who' where
  agps n' m' here := by
    rw [nif_set] at here
    split_ifs at here with same
    · exact Option.some.inj here ▸ agps
    · exact askers.agps n' m' here
  listed n' m' here := by
    rw [nif_set] at here
    split_ifs at here with same
    · exact Option.some.inj here ▸ same ▸ listed
    · exact others n' same ▸ askers.listed n' m' here
  wifi := by
    rw [nif_set]
    split_ifs
    · exact Option.some_ne_none m
    · exact askers.wifi

/-- Whom an effect may answer: who has asked the machine, or else the handle of the message. -/
def MayAnswer (who : Nif → List Addressee) (own : Option Addressee) (x : Addressee) :
    NifEffect → Prop
  | .nif n _ => x ∈ who n
  | _ => own = some x

structure AnswersAskers (who : Nif → List Addressee) (own : Option Addressee)
    (r : Nifs × List NifEffect) : Prop where
  askers : OfAskers r.1 who
  answered : ∀ effect ∈ r.2, ∀ x, effect.addressee = some x → MayAnswer who own x effect

theorem OfAskers.quiet (askers : OfAskers nifs who) : AnswersAskers who own (nifs, []) :=
  ⟨askers, fun _ member => by cases member⟩

theorem OfAskers.acted {n : Nif} {a : Act} (askers : OfAskers nifs who)
    (within : Within (Client (who n)) a) :
    AnswersAskers who own (nifs.set n a.machine, a.log.map (.nif n)) where
  askers := askers.set within.agps within.listed fun _ _ => rfl
  answered effect member x answers := by
    obtain ⟨e, there, rfl⟩ := List.mem_map.mp member
    have tells := within.told e there
    cases e with
    | told s status call => exact tells.1.2 x (tells.2 x answers)
    | informed => exact tells.elim
    | _ => cases answers

theorem OfAskers.start {n : Nif} {m : AgpsStateMachine} (askers : OfAskers nifs who)
    (here : nifs.nif n = some m) : Within (Client (who n)) ⟨m, []⟩ :=
  ⟨askers.agps n m here, askers.listed n m here, fun _ member => by cases member⟩

theorem OfAskers.proc {n : Nif} {msg : AgpsMsg} (askers : OfAskers nifs who)
    (mine : ∀ c, msg = .subscribe c → Client (who n) c) :
    AnswersAskers who own (nifs.proc n msg) := by
  rw [Nifs.proc]
  cases here : nifs.nif n with
  | none => exact askers.quiet
  | some m => exact askers.acted ((askers.start here).processed (ofClients _) mine)

theorem OfAskers.procAt {n : Option Nif} {msg : AgpsMsg} (askers : OfAskers nifs who)
    (mine : ∀ n', n = some n' → ∀ c, msg = .subscribe c → Client (who n') c) :
    AnswersAskers who own (nifs.procAt n msg) := by
  cases n with
  | none => exact askers.quiet
  | some n => exact askers.proc (mine n rfl)

theorem OfAskers.tryRelease {n : Nif} {id : UInt32} {r : Nifs × List NifEffect}
    (askers : OfAskers nifs who) (released : nifs.tryRelease id n = some r) :
    AnswersAskers who own r := by
  rw [Nifs.tryRelease] at released
  cases here : nifs.nif n with
  | none => simp [here] at released
  | some m =>
      have act := @Within.unsubscribed _ (.atl id false) _ (ofClients _) (askers.start here)
      simp only [here, Option.ite_none_right_eq_some, Option.some.injEq] at released
      exact released.2 ▸ askers.acted act

theorem OfAskers.releaseATL {id : UInt32} (askers : OfAskers nifs who) :
    AnswersAskers who (some (.atl id)) (nifs.releaseATL id) := by
  rw [Nifs.releaseATL]
  split
  · next released there => exact askers.tryRelease there
  · split
    · next released there => exact askers.tryRelease there
    · refine ⟨askers, fun effect member x answers => ?_⟩
      cases List.mem_singleton.mp member
      exact answers

theorem OfAskers.requestATL {id : UInt32} {type : Int} (askers : OfAskers nifs who)
    (asks : ∀ n, getAgpsStateMachine type = some n → .atl id ∈ who n) :
    AnswersAskers who (some (.atl id)) (nifs.requestATL id type) := by
  rw [Nifs.requestATL]
  split
  · next n found =>
      refine askers.proc fun c same => ?_
      cases same
      refine ⟨by simp [Subscriber.kind], fun x same => ?_⟩
      cases same
      exact asks n (Option.filter_eq_some_iff.mp found).1
  · refine ⟨askers, fun effect member x answers => ?_⟩
    cases List.mem_singleton.mp member
    exact answers

theorem AnswersAskers.result {effects : List NifEffect}
    (served : AnswersAskers who own (nifs, effects)) (r : Int) :
    AnswersAskers who own (nifs, .result r :: effects) where
  askers := served.askers
  answered effect member x answers := by
    rcases List.mem_cons.mp member with rfl | there
    · cases answers
    · exact served.answered effect there x answers

theorem OfAskers.handle {isReq : Bool} {r : CtrlMsgIfRequest} (askers : OfAskers nifs who)
    (asks : isReq = true → ∀ n x, (NifEvent.ifRequest r).asks n = some x → x ∈ who n) :
    AnswersAskers who none (nifs.handle isReq r) := by
  simp only [Nifs.handle, ifHandler]
  cases known : ifRequestType r.type with
  | none => exact askers.quiet.result (-1)
  | some type =>
      dsimp only
      split_ifs with one daemon
      · obtain ⟨m, there⟩ := Option.ne_none_iff_exists'.mp askers.wifi
        simp only [Nifs.procIf, there]
        refine AnswersAskers.result (askers.proc fun c same => ?_) 0
        cases isReq with
        | false => cases same
        | true =>
            cases same
            have route : (NifEvent.ifRequest r).asks .wifi =
                (dataConnQueue r.senderId).map .queue := by
              simp [NifEvent.asks, ifHandler, known, one]
            exact ⟨by simp [Subscriber.kind], fun x same => asks rfl .wifi x (route.trans same)⟩
      · refine AnswersAskers.result (askers.procAt fun n machine c same => ?_) 0
        cases isReq with
        | false => cases same
        | true =>
            cases same
            have route : (NifEvent.ifRequest r).asks n = some (.queue .locApiResp) := by
              simp only [NifEvent.asks, ifHandler, known, if_neg one, if_pos daemon, if_pos machine]
            exact ⟨by simp [Subscriber.kind], fun x same => asks rfl n x (route.trans same)⟩
      · exact askers.quiet.result (-1)

theorem OfAskers.dropAll {n : Nif} (askers : OfAskers nifs who) :
    OfAskers (nifs.dropAll n) fun n' => if n' = n then [] else who n' := by
  rw [Nifs.dropAll]
  cases here : nifs.nif n with
  | none =>
      refine ⟨askers.agps, fun n' m there s member => ?_, askers.wifi⟩
      have other : n' ≠ n := by
        rintro rfl
        rw [here] at there
        cases there
      simpa only [if_neg other] using askers.listed n' m there s member
  | some m =>
      refine askers.set (askers.agps n m here) (fun s member => ?_) fun n' other => if_neg other
      cases member

theorem asked_append (n : Nif) (before : List NifEvent) (e : NifEvent) :
    asked n (before ++ [e]) =
      match e with
      | .engineUp => if n = .wifi then asked n before else []
      | _ => (e.asks n).toList ++ asked n before := by
  rw [asked, List.foldl_append]
  rfl

theorem OfAskers.step {before : List NifEvent} {e : NifEvent}
    (askers : OfAskers nifs fun n => asked n before) :
    AnswersAskers (fun n => asked n (before ++ [e])) e.handle (nifs.step e) := by
  have more (calm : e ≠ .engineUp) : OfAskers nifs fun n => asked n (before ++ [e]) := by
    refine askers.mono fun n x there => ?_
    rw [asked_append]
    cases e with
    | engineUp => exact absurd rfl calm
    | _ => exact List.mem_append_right _ there
  have asks (calm : e ≠ .engineUp) (n) (x) (asking : e.asks n = some x) :
      x ∈ asked n (before ++ [e]) := by
    rw [asked_append]
    cases e with
    | engineUp => exact absurd rfl calm
    | _ => exact List.mem_append_left _ (Option.mem_toList.mpr asking)
  cases e with
  | ifRequest r => exact (more (by simp)).handle fun _ => asks (by simp)
  | ifRelease r => exact (more (by simp)).handle fun no => by cases no
  | requestATL id type =>
      refine (more (by simp)).requestATL fun n machine => asks (by simp) n _ ?_
      rw [NifEvent.asks, if_pos machine]
  | releaseATL id => exact (more (by simp)).releaseATL
  | requestSuplEs id =>
      refine ⟨more (by simp), fun effect member x answers => ?_⟩
      cases List.mem_singleton.mp member
      exact answers
  | agpsOpen type apn bearerType | agpsClosed type | agpsOpenFailed type =>
      exact (more (by simp)).procAt fun _ _ _ same => by cases same
  | engineUp =>
      refine OfAskers.quiet (askers.dropAll.dropAll.mono fun n x there => ?_)
      rw [asked_append]
      cases n with
      | agnss | internet => simp at there
      | wifi => simpa using there

theorem ofAskers_init (agnss : Bool) : OfAskers (.init agnss) fun n => asked n [] where
  agps n m here := by
    cases n <;> simp only [Nifs.init] at here
    · split_ifs at here
      exact Option.some.inj here ▸ rfl
    · exact Option.some.inj here ▸ rfl
    · exact Option.some.inj here ▸ rfl
  listed n m here s member := by
    cases n <;> simp only [Nifs.init] at here
    · split_ifs at here
      rw [← Option.some.inj here] at member
      cases member
    · rw [← Option.some.inj here] at member
      cases member
    · rw [← Option.some.inj here] at member
      cases member
  wifi := by simp [Nifs.init]

/-- A machine answers only who has asked it, after the last restart of the modem where that empties
the machine, and what no machine answers goes to the handle that the message names. -/
theorem answers_to_askers (agnss : Bool) (before : List NifEvent) (e : NifEvent) :
    ∀ effect ∈ ((final Nifs.step (.init agnss) before).step e).2, ∀ x, effect.addressee = some x →
      MayAnswer (fun n => asked n (before ++ [e])) e.handle x effect := by
  have askers : OfAskers (final Nifs.step (.init agnss) before) fun n => asked n before := by
    induction before using List.reverseRecOn with
    | nil => exact ofAskers_init agnss
    | append_singleton before last ih =>
        rw [final_append]
        exact ih.step.askers
  exact askers.step.answered

def quipcRequest : CtrlMsgIfRequest := ⟨1, 0, 0, [], [65], [66]⟩

theorem answers_to_askers_quipc :
    .queue .quipc ∈ asked .wifi [.ifRequest quipcRequest, .agpsOpen AGPS_TYPE_WIFI [67] 1] :=
  answers_to_askers true [.ifRequest quipcRequest] (.agpsOpen AGPS_TYPE_WIFI [67] 1)
    (.nif .wifi (.told (.wifi 0 (some [65]) (some [66]) false) .granted
      (some (.dataConn 0 .requestSuccess)))) (by decide) (.queue .quipc) rfl

end VibeXperia.Proof.Agps
