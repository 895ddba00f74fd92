import VibeXperia.Gps.Ni

namespace VibeXperia.Proof.Gps
open Lib VibeXperia.Gps

variable {υ ρ : Type} {noResp : ρ} {s u : NiSystem υ ρ}

/-! ## Runs in good order -/

/-- A request is accepted only when the threads of all requests before it have ended. The locked
block of `loc_eng_ni_respond` runs only while what the function checked still holds, and the one of
`loc_eng_ni_reset_on_engine_restart` only while a thread has yet to take its request. -/
def Orderly (s : NiSystem υ ρ) : NiEvent υ ρ → Prop
  | .request _ _ =>
      s.handler = .idle → s.data.rawRequest = none → ∀ n < s.requests, s.threads n = .done
  | .answer user _ => ∀ p ∈ s.users user, p.1 = s.data.reqID ∧ s.data.rawRequest.isSome
  | .handler _ _ => s.handler = .wake → ∃ n < s.requests, (s.threads n).isOpen
  | _ => True

instance [DecidableEq ρ] (s : NiSystem υ ρ) : (e : NiEvent υ ρ) → Decidable (Orderly s e)
  | .request _ _ =>
      inferInstanceAs (Decidable (s.handler = .idle → s.data.rawRequest = none →
        ∀ n < s.requests, s.threads n = .done))
  | .answer user _ =>
      inferInstanceAs (Decidable (∀ p ∈ s.users user,
        p.1 = s.data.reqID ∧ s.data.rawRequest.isSome))
  | .handler _ _ =>
      inferInstanceAs (Decidable (s.handler = .wake → ∃ n < s.requests, (s.threads n).isOpen))
  | .tick _ | .restart | .thread _ | .expire _ | .spurious _ | .respond _ _ _ => .isTrue trivial

/-! ## Steps -/

/-- The steps in which something happens. -/
inductive Move [DecidableEq υ] (noResp : ρ) (s : NiSystem υ ρ) :
    NiEvent υ ρ → NiSystem υ ρ → List (NiOutput ρ) → Prop
  | stay {e} : Move noResp s e s []
  | tick {time : Nat} : Move noResp s (.tick time) { s with now := s.now + time } []
  | accept {hasData timeout} (idle : s.handler = .idle) (free : s.data.rawRequest = none) :
      Move noResp s (.request hasData timeout)
        { s with
          handler := .save (if hasData then some s.requests else none) s.requests timeout
          requests := s.requests + 1 }
        [.accepted s.requests hasData timeout]
  | restart (idle : s.handler = .idle) :
      Move noResp s .restart { s with handler := .free } []
  | save {passThrough n timeout created first} (next : s.handler = .save passThrough n timeout) :
      Move noResp s (.handler created first)
        { s with
          data := { s.data with rawRequest := passThrough }
          handler := .identify n timeout } []
  | identify {n timeout created first} (next : s.handler = .identify n timeout) :
      Move noResp s (.handler created first)
        { s with handler := .setTime n s.data.reqID timeout } [.identified n s.data.reqID]
  | setTime {n id timeout created first} (next : s.handler = .setTime n id timeout) :
      Move noResp s (.handler created first)
        { s with
          data := { s.data with respTimeLeft := respTime timeout }
          handler := .create n id } []
  | create {n id first} (next : s.handler = .create n id) :
      Move noResp s (.handler true first)
        { s with handler := .notify n id, threads := Function.update s.threads n .start } []
  | createFailed {n id first} (next : s.handler = .create n id) :
      Move noResp s (.handler false first) { s with handler := .notify n id } []
  | notify {n id created first} (next : s.handler = .notify n id) :
      Move noResp s (.handler created first) { s with handler := .idle } [.notified n id]
  | free {created first} (next : s.handler = .free) :
      Move noResp s (.handler created first) { s with handler := .clear } []
  | clear {created first} (next : s.handler = .clear) :
      Move noResp s (.handler created first)
        { s with data := { s.data with rawRequest := none }, handler := .wake } []
  | wake {created first} (next : s.handler = .wake) :
      Move noResp s (.handler created first)
        { s with
          data := { s.data with respRecvd := true }
          handler := .idle
          threads := s.signal first } []
  | startTake {n} (next : s.threads n = .start) (recvd : s.data.respRecvd = true) :
      Move noResp s (.thread n)
        { s with data := s.data.take.1, threads := Function.update s.threads n s.data.take.2 }
        [.started n s.now]
  | startWait {n} (next : s.threads n = .start) (recvd : s.data.respRecvd = false) :
      Move noResp s (.thread n)
        { s with
          threads := Function.update s.threads n
            (.waiting (s.now + 1000000 * s.data.respTimeLeft)) }
        [.started n s.now]
  | wokenTake {n expireTime} (next : s.threads n = .woken expireTime)
      (recvd : s.data.respRecvd = true) :
      Move noResp s (.thread n)
        { s with data := s.data.take.1, threads := Function.update s.threads n s.data.take.2 } []
  | wokenWait {n expireTime} (next : s.threads n = .woken expireTime)
      (recvd : s.data.respRecvd = false) :
      Move noResp s (.thread n)
        { s with threads := Function.update s.threads n (.waiting expireTime) } []
  | timedOutTake {n} (next : s.threads n = .timedOut) :
      Move noResp s (.thread n)
        { s with
          data := (LocEngNiData.take { s.data with resp := noResp }).1
          threads := Function.update s.threads n
            (LocEngNiData.take { s.data with resp := noResp }).2 } []
  | clearTime {n msg} (next : s.threads n = .clearTime msg) :
      Move noResp s (.thread n)
        { s with
          data := { s.data with respTimeLeft := 0 }
          threads := Function.update s.threads n (.countUp msg) } []
  | countUp {n msg} (next : s.threads n = .countUp msg) :
      Move noResp s (.thread n)
        { s with
          data := { s.data with reqID := signed 32 (s.data.reqID + 1) }
          threads := Function.update s.threads n (.send msg) } []
  | send {n resp m} (next : s.threads n = .send (some (resp, m))) :
      Move noResp s (.thread n)
        { s with threads := Function.update s.threads n .done } [.sent m resp]
  | sendNothing {n} (next : s.threads n = .send none) :
      Move noResp s (.thread n) { s with threads := Function.update s.threads n .done } []
  | expire {n expireTime} (next : s.threads n = .waiting expireTime) (late : expireTime ≤ s.now) :
      Move noResp s (.expire n)
        { s with threads := Function.update s.threads n .timedOut } [.timedOut n s.now]
  | spurious {n} :
      Move noResp s (.spurious n)
        { s with threads := Function.update s.threads n (s.threads n).wakeUp } []
  | refuse {user notifId userResponse} :
      Move noResp s (.respond user notifId userResponse) s [.given notifId userResponse]
  | respond {user notifId userResponse} :
      Move noResp s (.respond user notifId userResponse)
        { s with users := Function.update s.users user (some (notifId, userResponse)) }
        [.given notifId userResponse]
  | answer {user first notifId userResponse} (next : s.users user = some (notifId, userResponse)) :
      Move noResp s (.answer user first)
        { s with
          data := { s.data with resp := userResponse, respRecvd := true }
          threads := s.signal first
          users := Function.update s.users user none }
        [.answered s.data.rawRequest notifId userResponse]

theorem handle_cases [DecidableEq υ] (s : NiSystem υ ρ) (created : Bool) (first : Nat) :
    Move noResp s (.handler created first) (s.handle created first).1
      (s.handle created first).2 := by
  cases next : s.handler <;> rw [NiSystem.handle, next]
  case idle => exact .stay
  case save => exact .save next
  case identify => exact .identify next
  case setTime => exact .setTime next
  case create =>
    cases created with
    | true => exact .create next
    | false => exact .createFailed next
  case notify => exact .notify next
  case free => exact .free next
  case clear => exact .clear next
  case wake => exact .wake next

theorem thread_cases [DecidableEq υ] (s : NiSystem υ ρ) (n : Nat) :
    Move noResp s (.thread n) (s.niThreadProc noResp n).1 (s.niThreadProc noResp n).2 := by
  cases next : s.threads n <;> rw [NiSystem.niThreadProc, next] <;> dsimp only
  case start =>
    cases recvd : s.data.respRecvd with
    | true =>
        rw [LocEngNiData.waitForResponse, recvd]
        exact .startTake next recvd
    | false =>
        rw [LocEngNiData.waitForResponse, recvd]
        exact .startWait next recvd
  case woken expireTime =>
    cases recvd : s.data.respRecvd with
    | true =>
        rw [LocEngNiData.waitForResponse, recvd]
        exact .wokenTake next recvd
    | false =>
        rw [LocEngNiData.waitForResponse, recvd]
        exact .wokenWait next recvd
  case timedOut => exact .timedOutTake next
  case clearTime => exact .clearTime next
  case countUp => exact .countUp next
  case send msg =>
    cases msg with
    | none => exact .sendNothing next
    | some p => exact .send next
  all_goals exact .stay

theorem niStep_cases [DecidableEq υ] (noResp : ρ) (s : NiSystem υ ρ) (e : NiEvent υ ρ) :
    Move noResp s e (niStep noResp s e).1 (niStep noResp s e).2 := by
  cases e with
  | tick time => exact .tick
  | request hasData timeout =>
      rw [niStep]
      split_ifs with idle
      · rw [NiSystem.locEngNiRequestHandler]
        cases free : s.data.rawRequest with
        | none => exact .accept idle free
        | some n => exact .stay
      · exact .stay
  | restart =>
      rw [niStep]
      split_ifs with idle
      · rw [NiSystem.locEngNiResetOnEngineRestart]
        split_ifs
        · exact .restart idle
        · exact .stay
      · exact .stay
  | handler created first => exact handle_cases s created first
  | thread request => exact thread_cases s request
  | expire request =>
      rw [niStep, NiSystem.expire]
      split
      case h_1 expireTime next =>
        split_ifs with late
        · exact .expire next late
        · exact .stay
      case h_2 => exact .stay
  | spurious request => exact .spurious
  | respond user notifId userResponse =>
      rw [niStep, NiSystem.locEngNiRespond]
      cases s.users user with
      | some p => exact .stay
      | none =>
          dsimp only
          split_ifs
          · exact .respond
          · exact .refuse
  | answer user first =>
      rw [niStep, NiSystem.answer]
      cases next : s.users user with
      | none => exact .stay
      | some p => exact .answer next

/-! ## Threads -/

variable {e : NiEvent υ ρ} {i n : Nat} {t : NiThread ρ}

structure Alike (t t' : NiThread ρ) : Prop where
  done : t = .done → t' = .done
  absent : t = .absent ↔ t' = .absent
  counted : t'.isCounted = t.isCounted

theorem alike_refl (t : NiThread ρ) : Alike t t := ⟨id, Iff.rfl, rfl⟩

theorem alike_wakeUp (t : NiThread ρ) : Alike t t.wakeUp := by
  cases t <;> exact ⟨by simp [NiThread.wakeUp], by simp [NiThread.wakeUp], rfl⟩

theorem isOpen_wakeUp (t : NiThread ρ) : t.wakeUp.isOpen = t.isOpen := by cases t <;> rfl

theorem waiting_wakeUp (t : NiThread ρ) (waiting : t.wakeUp.isWaiting = true) :
    t.isWaiting = true := by
  revert waiting
  cases t <;> simp [NiThread.wakeUp, NiThread.isWaiting]

theorem update_elim {β : Type} {threads : Nat → NiThread ρ} {f : NiThread ρ → β} {b : β}
    (now : f (Function.update threads n t i) = b) : i = n ∧ f t = b ∨ f (threads i) = b := by
  by_cases same : i = n
  · subst same
    rw [Function.update_self] at now
    exact Or.inl ⟨rfl, now⟩
  · rw [Function.update_of_ne same] at now
    exact Or.inr now

theorem update_before {β : Type} {threads : Nat → NiThread ρ} {f : NiThread ρ → β} {b : β}
    (still : f t = b → f (threads n) = b) (now : f (Function.update threads n t i) = b) :
    f (threads i) = b := by
  rcases update_elim now with ⟨rfl, own⟩ | before
  · exact still own
  · exact before

theorem update_other {threads : Nat → NiThread ρ} {f : NiThread ρ → Bool} (quiet : f t = false)
    (now : f (Function.update threads n t i) = true) : f (threads i) = true := by
  apply update_before _ now
  intro own
  rw [quiet] at own
  cases own

theorem alike_update {threads : Nat → NiThread ρ} (alike : Alike (threads n) t) (i : Nat) :
    Alike (threads i) (Function.update threads n t i) := by
  by_cases same : i = n
  · subst same
    rw [Function.update_self]
    exact alike
  · rw [Function.update_of_ne same]
    exact alike_refl _

theorem alike_running (next : s.threads n = t) {t' : NiThread ρ} (alike : Alike t t') (i : Nat) :
    Alike (s.threads i) (Function.update s.threads n t' i) := by
  rw [← next] at alike
  exact alike_update alike i

theorem signal_cases (s : NiSystem υ ρ) (first i : Nat) :
    s.signal first i = s.threads i ∨ s.signal first i = (s.threads i).wakeUp := by
  rw [NiSystem.signal]
  split_ifs
  · exact Or.inr rfl
  · exact Or.inl rfl

theorem alike_signal (s : NiSystem υ ρ) (first i : Nat) :
    Alike (s.threads i) (s.signal first i) := by
  rcases signal_cases s first i with same | woken
  · rw [same]
    exact alike_refl _
  · rw [woken]
    exact alike_wakeUp _

theorem signal_same {β : Type} {f : NiThread ρ → β} (same : ∀ t, f t.wakeUp = f t)
    (s : NiSystem υ ρ) (first i : Nat) : f (s.signal first i) = f (s.threads i) := by
  rcases signal_cases s first i with kept | woken
  · rw [kept]
  · rw [woken, same]

/-! ## The numbers of the requests -/

theorem signed_succ (n : Nat) : signed 32 (signed 32 n + 1) = signed 32 (n + 1 : Nat) := by
  rw [signed, signed, signed, Int.bmod_add_bmod]
  rfl

def building : NiHandler → Option Nat
  | .save _ n _ | .identify n _ | .setTime n _ _ | .create n _ => some n
  | _ => none

/-- All requests but the last one are over, and `reqID` is the number of the last one until its
thread counts up. -/
structure Numbered (s : NiSystem υ ρ) : Prop where
  older : ∀ i, i + 1 < s.requests → s.threads i = .done
  newer : ∀ i, s.requests ≤ i → s.threads i = .absent
  built : ∀ n, building s.handler = some n → n + 1 = s.requests ∧ s.threads n = .absent
  current : ∀ n, n + 1 = s.requests → (s.threads n).isCounted = false →
    s.data.reqID = signed 32 n
  upcoming : (∀ n, n + 1 = s.requests → (s.threads n).isCounted = true) →
    s.data.reqID = signed 32 s.requests

theorem Numbered.last (numbered : Numbered s) (busy : s.threads i ≠ .done)
    (present : s.threads i ≠ .absent) : i + 1 = s.requests := by
  have old := mt (numbered.older i) busy
  have new := mt (numbered.newer i) present
  omega

theorem Numbered.congr (numbered : Numbered s) (requests : u.requests = s.requests)
    (id : u.data.reqID = s.data.reqID) (built : ∀ n, building u.handler = some n →
      building s.handler = some n)
    (alike : ∀ i, Alike (s.threads i) (u.threads i)) : Numbered u := by
  constructor
  · intro i old
    rw [requests] at old
    exact (alike i).done (numbered.older i old)
  · intro i new
    rw [requests] at new
    exact (alike i).absent.mp (numbered.newer i new)
  · intro n now
    obtain ⟨last, absent⟩ := numbered.built n (built n now)
    rw [requests]
    exact ⟨last, (alike n).absent.mp absent⟩
  · intro n last counting
    rw [requests] at last
    rw [(alike n).counted] at counting
    rw [id, numbered.current n last counting]
  · intro counted
    rw [id, requests]
    apply numbered.upcoming
    intro n last
    rw [← (alike n).counted]
    rw [requests] at counted
    exact counted n last

theorem numbered_start {resp : ρ} : Numbered (.start resp : NiSystem υ ρ) := by
  constructor
  · intro i old
    cases old
  · intro i _
    rfl
  · rintro n ⟨⟩
  · rintro n ⟨⟩
  · intro _
    exact (signed_of_lt (Int.le_refl 0) (by decide)).symm

theorem Numbered.accept (numbered : Numbered s) (ended : ∀ n < s.requests, s.threads n = .done)
    {p : Option Nat} {timeout : Int} :
    Numbered { s with handler := .save p s.requests timeout, requests := s.requests + 1 } := by
  have absent : s.threads s.requests = .absent := numbered.newer _ (Nat.le_refl _)
  constructor
  · intro i old
    exact ended i (Nat.lt_of_succ_lt_succ old)
  · intro i new
    exact numbered.newer i (Nat.le_of_succ_le new)
  · rintro n ⟨⟩
    exact ⟨rfl, absent⟩
  · intro n last _
    obtain rfl : n = s.requests := Nat.succ.inj last
    apply numbered.upcoming
    intro m last
    rw [ended m (last ▸ Nat.lt_succ_self m)]
    rfl
  · intro counted
    have counted := counted s.requests rfl
    dsimp only at counted
    rw [absent] at counted
    cases counted

theorem Numbered.update (numbered : Numbered s) (last : n + 1 = s.requests) :
    (∀ i, i + 1 < s.requests → Function.update s.threads n t i = .done) ∧
      ∀ i, s.requests ≤ i → Function.update s.threads n t i = .absent := by
  constructor
  · intro i old
    rw [Function.update_of_ne (by omega)]
    exact numbered.older i old
  · intro i new
    rw [Function.update_of_ne (by omega)]
    exact numbered.newer i new

theorem Numbered.create (numbered : Numbered s) {id : Int} (next : s.handler = .create n id) :
    Numbered { s with handler := .notify n id, threads := Function.update s.threads n .start } := by
  obtain ⟨last, absent⟩ := numbered.built n (by rw [next]; rfl)
  constructor
  · exact (numbered.update last).1
  · exact (numbered.update last).2
  · rintro m ⟨⟩
  · intro m last' _
    obtain rfl : m = n := by
      dsimp only at last'
      omega
    apply numbered.current m last
    rw [absent]
    rfl
  · intro counted
    have counted := counted n last
    dsimp only at counted
    rw [Function.update_self] at counted
    cases counted

theorem Numbered.countUp (numbered : Numbered s) {msg : Option (ρ × Nat)}
    (next : s.threads n = .countUp msg) :
    Numbered { s with
      data := { s.data with reqID := signed 32 (s.data.reqID + 1) }
      threads := Function.update s.threads n (.send msg) } := by
  have last : n + 1 = s.requests := by
    apply numbered.last <;> simp [next]
  have id : s.data.reqID = signed 32 n := by
    apply numbered.current n last
    rw [next]
    rfl
  constructor
  · exact (numbered.update last).1
  · exact (numbered.update last).2
  · intro m now
    obtain ⟨last', absent⟩ := numbered.built m now
    obtain rfl : m = n := by omega
    rw [next] at absent
    cases absent
  · intro m last' counting
    obtain rfl : m = n := by
      dsimp only at last'
      omega
    dsimp only at counting
    rw [Function.update_self] at counting
    cases counting
  · intro _
    dsimp only
    rw [id, signed_succ, last]

theorem Numbered.step [DecidableEq υ] (numbered : Numbered s) (orderly : Orderly s e)
    {outs : List (NiOutput ρ)} (move : Move noResp s e u outs) : Numbered u := by
  have same := fun i => alike_refl (s.threads i)
  cases move with
  | stay => exact numbered
  | tick => exact numbered.congr rfl rfl (fun _ => id) same
  | accept idle free => exact numbered.accept (orderly idle free)
  | restart idle => exact numbered.congr rfl rfl nofun same
  | save next => exact numbered.congr rfl rfl (by rw [next]; exact fun _ => id) same
  | identify next => exact numbered.congr rfl rfl (by rw [next]; exact fun _ => id) same
  | setTime next => exact numbered.congr rfl rfl (by rw [next]; exact fun _ => id) same
  | create next => exact numbered.create next
  | createFailed next => exact numbered.congr rfl rfl nofun same
  | notify next => exact numbered.congr rfl rfl nofun same
  | free next => exact numbered.congr rfl rfl nofun same
  | clear next => exact numbered.congr rfl rfl nofun same
  | wake next => exact numbered.congr rfl rfl nofun (alike_signal s _)
  | startTake next recvd =>
      exact numbered.congr rfl rfl (fun _ => id)
        (alike_running next ⟨nofun, ⟨nofun, nofun⟩, rfl⟩)
  | startWait next recvd =>
      exact numbered.congr rfl rfl (fun _ => id)
        (alike_running next ⟨nofun, ⟨nofun, nofun⟩, rfl⟩)
  | wokenTake next recvd =>
      exact numbered.congr rfl rfl (fun _ => id)
        (alike_running next ⟨nofun, ⟨nofun, nofun⟩, rfl⟩)
  | wokenWait next recvd =>
      exact numbered.congr rfl rfl (fun _ => id)
        (alike_running next ⟨nofun, ⟨nofun, nofun⟩, rfl⟩)
  | timedOutTake next =>
      exact numbered.congr rfl rfl (fun _ => id)
        (alike_running next ⟨nofun, ⟨nofun, nofun⟩, rfl⟩)
  | clearTime next =>
      exact numbered.congr rfl rfl (fun _ => id)
        (alike_running next ⟨nofun, ⟨nofun, nofun⟩, rfl⟩)
  | countUp next => exact numbered.countUp next
  | send next =>
      exact numbered.congr rfl rfl (fun _ => id)
        (alike_running next ⟨nofun, ⟨nofun, nofun⟩, rfl⟩)
  | sendNothing next =>
      exact numbered.congr rfl rfl (fun _ => id)
        (alike_running next ⟨nofun, ⟨nofun, nofun⟩, rfl⟩)
  | expire next late =>
      exact numbered.congr rfl rfl (fun _ => id)
        (alike_running next ⟨nofun, ⟨nofun, nofun⟩, rfl⟩)
  | spurious => exact numbered.congr rfl rfl (fun _ => id) (alike_update (alike_wakeUp _))
  | refuse => exact numbered
  | respond => exact numbered.congr rfl rfl (fun _ => id) same
  | answer next => exact numbered.congr rfl rfl (fun _ => id) (alike_signal s _)

/-! ## The record -/

structure Recorded (s : NiSystem υ ρ) : Prop where
  raw : ∀ n, s.data.rawRequest = some n → n + 1 = s.requests ∧ (s.threads n).isOpen = true
  recvd : s.data.respRecvd = true → ∃ n, n + 1 = s.requests ∧ (s.threads n).isOpen = true
  quiet : ∀ i, (s.threads i).isWaiting = true → s.data.respRecvd = false
  saved : ∀ p n timeout, s.handler = .save p n timeout →
    s.data.rawRequest = none ∧ s.data.respRecvd = false ∧ (p = none ∨ p = some n)
  woken : s.handler = .wake → s.data.rawRequest = none

theorem open_update {threads : Nat → NiThread ρ} (same : t.isOpen = (threads n).isOpen) (i : Nat) :
    (Function.update threads n t i).isOpen = (threads i).isOpen := by
  by_cases acting : i = n
  · subst acting
    rw [Function.update_self, same]
  · rw [Function.update_of_ne acting]

theorem open_running (next : s.threads n = t) {t' : NiThread ρ} (same : t'.isOpen = t.isOpen)
    (i : Nat) : (Function.update s.threads n t' i).isOpen = (s.threads i).isOpen := by
  rw [← next] at same
  exact open_update same i

theorem Recorded.congr (recorded : Recorded s) (requests : u.requests = s.requests)
    (raw : u.data.rawRequest = s.data.rawRequest) (recvd : u.data.respRecvd = s.data.respRecvd)
    (opens : ∀ i, (u.threads i).isOpen = (s.threads i).isOpen)
    (waiting : ∀ i, (u.threads i).isWaiting = true →
      (s.threads i).isWaiting = true ∨ s.data.respRecvd = false)
    (saved : ∀ p n timeout, u.handler = .save p n timeout → s.handler = .save p n timeout)
    (woken : u.handler = .wake → s.handler = .wake) : Recorded u := by
  constructor
  · intro n now
    rw [requests, opens]
    rw [raw] at now
    exact recorded.raw n now
  · intro now
    rw [recvd] at now
    obtain ⟨n, last, opened⟩ := recorded.recvd now
    rw [requests]
    refine ⟨n, last, ?_⟩
    rw [opens, opened]
  · intro i now
    rw [recvd]
    rcases waiting i now with before | quiet
    · exact recorded.quiet i before
    · exact quiet
  · intro p n timeout now
    rw [raw, recvd]
    exact recorded.saved p n timeout (saved p n timeout now)
  · intro now
    rw [raw]
    exact recorded.woken (woken now)

theorem recorded_start {resp : ρ} : Recorded (.start resp : NiSystem υ ρ) := by
  constructor
  · rintro n ⟨⟩
  · rintro ⟨⟩
  · intro i waiting
    cases waiting
  · rintro p n timeout ⟨⟩
  · rintro ⟨⟩

theorem Recorded.unanswered (recorded : Recorded s)
    (ended : ∀ n < s.requests, s.threads n = .done) : s.data.respRecvd = false := by
  by_contra recvd
  obtain ⟨n, last, opened⟩ := recorded.recvd (Bool.not_eq_false _ ▸ recvd)
  rw [ended n (last ▸ Nat.lt_succ_self n)] at opened
  cases opened

theorem Recorded.accept (recorded : Recorded s) (free : s.data.rawRequest = none)
    (ended : ∀ n < s.requests, s.threads n = .done) {hasData : Bool} {timeout : Int} :
    Recorded { s with
      handler := .save (if hasData then some s.requests else none) s.requests timeout
      requests := s.requests + 1 } := by
  have unanswered := recorded.unanswered ended
  constructor
  · intro n now
    rw [free] at now
    cases now
  · intro now
    rw [unanswered] at now
    cases now
  · exact recorded.quiet
  · rintro p n timeout ⟨⟩
    refine ⟨free, unanswered, ?_⟩
    cases hasData
    · exact Or.inl rfl
    · exact Or.inr rfl
  · rintro ⟨⟩

theorem Recorded.save (recorded : Recorded s) (numbered : Numbered s) {p : Option Nat}
    {timeout : Int} (next : s.handler = .save p n timeout) :
    Recorded { s with
      data := { s.data with rawRequest := p }
      handler := .identify n timeout } := by
  obtain ⟨last, absent⟩ := numbered.built n (by rw [next]; rfl)
  obtain ⟨-, unanswered, own⟩ := recorded.saved p n timeout next
  constructor
  · rintro m now
    rcases own with rfl | rfl
    · cases now
    · cases now
      dsimp only
      rw [absent]
      exact ⟨last, rfl⟩
  · intro now
    dsimp only at now
    rw [unanswered] at now
    cases now
  · intro i _
    exact unanswered
  · rintro p n timeout ⟨⟩
  · rintro ⟨⟩

theorem Recorded.take (recorded : Recorded s) {data : LocEngNiData ρ} {msg : Option (ρ × Nat)} :
    Recorded { s with
      data := { data with respRecvd := false, rawRequest := none }
      threads := Function.update s.threads n (.clearTime msg) } := by
  constructor
  · rintro m ⟨⟩
  · rintro ⟨⟩
  · intro i _
    rfl
  · intro p m timeout now
    exact ⟨rfl, rfl, (recorded.saved p m timeout now).2.2⟩
  · intro _
    rfl

theorem Numbered.waiting (numbered : Numbered s) (waiting : (s.threads i).isWaiting = true) :
    i + 1 = s.requests := by
  apply numbered.last
  · intro done
    rw [done] at waiting
    cases waiting
  · intro absent
    rw [absent] at waiting
    cases waiting

theorem signal_quiet (numbered : Numbered s) (first i : Nat) :
    (s.signal first i).isWaiting = false := by
  rw [Bool.eq_false_iff]
  intro still
  have waiting : (s.threads i).isWaiting = true := by
    rcases signal_cases s first i with same | woken
    · rwa [same] at still
    · rw [woken] at still
      exact waiting_wakeUp _ still
  have last := numbered.waiting waiting
  cases found : (first :: List.range s.requests).find? fun n => (s.threads n).isWaiting with
  | none =>
      have listed : i ∈ first :: List.range s.requests :=
        List.mem_cons_of_mem first (List.mem_range.mpr (last ▸ Nat.lt_succ_self i))
      exact List.find?_eq_none.mp found i listed waiting
  | some j =>
      have other := List.find?_some found
      have last' := numbered.waiting other
      obtain rfl : j = i := by omega
      rw [NiSystem.signal, if_pos found] at still
      revert still
      cases s.threads j <;> nofun

theorem Recorded.signal (recorded : Recorded s) (numbered : Numbered s)
    (waits : ∃ n, n + 1 = s.requests ∧ (s.threads n).isOpen = true) {resp : ρ}
    {handler : NiHandler} {users : υ → Option (Int × ρ)}
    (saved : ∀ p n timeout, handler ≠ .save p n timeout)
    (woken : handler = .wake → s.handler = .wake) :
    Recorded { s with
      data := { s.data with resp, respRecvd := true }
      handler, users
      threads := s.signal n } := by
  constructor
  · intro m now
    dsimp only
    rw [signal_same isOpen_wakeUp]
    exact recorded.raw m now
  · intro _
    obtain ⟨m, last, opened⟩ := waits
    refine ⟨m, last, ?_⟩
    dsimp only
    rw [signal_same isOpen_wakeUp, opened]
  · intro i waiting
    dsimp only at waiting
    rw [signal_quiet numbered] at waiting
    cases waiting
  · intro p m timeout now
    exact absurd now (saved p m timeout)
  · intro now
    exact recorded.woken (woken now)

theorem Recorded.create (recorded : Recorded s) (numbered : Numbered s) {id : Int}
    (next : s.handler = .create n id) :
    Recorded { s with
      handler := .notify n id
      threads := Function.update s.threads n .start } := by
  obtain ⟨-, absent⟩ := numbered.built n (by rw [next]; rfl)
  refine recorded.congr rfl rfl rfl ?_ ?_ ?_ ?_
  · exact open_running absent rfl
  · exact fun i waiting => Or.inl (update_other rfl waiting)
  · rintro p m timeout ⟨⟩
  · rintro ⟨⟩

theorem Recorded.clear (recorded : Recorded s) :
    Recorded { s with
      data := { s.data with rawRequest := none }
      handler := .wake } := by
  constructor
  · rintro n ⟨⟩
  · exact recorded.recvd
  · exact recorded.quiet
  · rintro p m timeout ⟨⟩
  · intro _
    rfl

theorem Recorded.step [DecidableEq υ] (recorded : Recorded s) (numbered : Numbered s)
    (orderly : Orderly s e) {outs : List (NiOutput ρ)} (move : Move noResp s e u outs) :
    Recorded u := by
  have waits : ∀ i, (s.threads i).isWaiting = true →
      (s.threads i).isWaiting = true ∨ s.data.respRecvd = false := fun _ => Or.inl
  cases move with
  | stay => exact recorded
  | tick => exact recorded.congr rfl rfl rfl (fun _ => rfl) waits (fun _ _ _ => id) id
  | accept idle free => exact recorded.accept free (orderly idle free)
  | restart idle => exact recorded.congr rfl rfl rfl (fun _ => rfl) waits nofun nofun
  | save next => exact recorded.save numbered next
  | identify next => exact recorded.congr rfl rfl rfl (fun _ => rfl) waits nofun nofun
  | setTime next => exact recorded.congr rfl rfl rfl (fun _ => rfl) waits nofun nofun
  | create next => exact recorded.create numbered next
  | createFailed next => exact recorded.congr rfl rfl rfl (fun _ => rfl) waits nofun nofun
  | notify next => exact recorded.congr rfl rfl rfl (fun _ => rfl) waits nofun nofun
  | free next => exact recorded.congr rfl rfl rfl (fun _ => rfl) waits nofun nofun
  | clear next => exact recorded.clear
  | wake next =>
      obtain ⟨n, few, opened⟩ := orderly next
      have old : ¬n + 1 < s.requests := by
        intro old
        rw [numbered.older n old] at opened
        cases opened
      have last : n + 1 = s.requests := by omega
      exact recorded.signal numbered ⟨n, last, opened⟩ nofun nofun
  | startTake next recvd => exact recorded.take
  | startWait next recvd =>
      exact recorded.congr rfl rfl rfl (open_running next rfl) (fun _ _ => Or.inr recvd)
        (fun _ _ _ => id) id
  | wokenTake next recvd => exact recorded.take
  | wokenWait next recvd =>
      exact recorded.congr rfl rfl rfl (open_running next rfl) (fun _ _ => Or.inr recvd)
        (fun _ _ _ => id) id
  | timedOutTake next => exact recorded.take
  | clearTime next =>
      exact recorded.congr rfl rfl rfl (open_running next rfl)
        (fun i waiting => Or.inl (update_other rfl waiting)) (fun _ _ _ => id) id
  | countUp next =>
      exact recorded.congr rfl rfl rfl (open_running next rfl)
        (fun i waiting => Or.inl (update_other rfl waiting)) (fun _ _ _ => id) id
  | send next =>
      exact recorded.congr rfl rfl rfl (open_running next rfl)
        (fun i waiting => Or.inl (update_other rfl waiting)) (fun _ _ _ => id) id
  | sendNothing next =>
      exact recorded.congr rfl rfl rfl (open_running next rfl)
        (fun i waiting => Or.inl (update_other rfl waiting)) (fun _ _ _ => id) id
  | expire next late =>
      exact recorded.congr rfl rfl rfl (open_running next rfl)
        (fun i waiting => Or.inl (update_other rfl waiting)) (fun _ _ _ => id) id
  | spurious =>
      exact recorded.congr rfl rfl rfl (open_running rfl (isOpen_wakeUp _))
        (fun i waiting => Or.inl (update_before (waiting_wakeUp _) waiting)) (fun _ _ _ => id) id
  | refuse => exact recorded
  | respond => exact recorded.congr rfl rfl rfl (fun _ => rfl) waits (fun _ _ _ => id) id
  | answer next =>
      obtain ⟨-, pending⟩ := orderly _ next
      obtain ⟨n, raw⟩ := Option.isSome_iff_exists.mp pending
      refine recorded.signal numbered ⟨n, recorded.raw n raw⟩ ?_ id
      intro p m timeout saving
      rw [(recorded.saved p m timeout saving).1] at pending
      cases pending

end VibeXperia.Proof.Gps
