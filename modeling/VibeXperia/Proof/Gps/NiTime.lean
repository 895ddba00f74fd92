import VibeXperia.Proof.Gps.NiAnswers

namespace VibeXperia.Proof.Gps
open Lib VibeXperia.Gps

variable {υ ρ : Type} {noResp : ρ} {s u : NiSystem υ ρ} {e : NiEvent υ ρ}
variable {outs new : List (NiOutput ρ)} {i n m : Nat} {t : NiThread ρ}

/-! ## The time of a request -/

def timing : NiHandler → Option (Nat × Int)
  | .save _ n timeout | .identify n timeout | .setTime n _ timeout => some (n, timeout)
  | _ => none

def isTimed : NiThread ρ → Bool
  | .absent | .start | .waiting _ | .woken _ | .timedOut | .clearTime _ => true
  | _ => false

def deadline : NiThread ρ → Option Int
  | .waiting expireTime | .woken expireTime => some expireTime
  | _ => none

def listens : NiThread ρ → Bool
  | .absent | .start | .waiting _ | .woken _ => true
  | _ => false

/-- Time is over only when all of it has gone by, from the start of the thread on, without an
answer. -/
def Fair (before : List (NiOutput ρ)) : NiOutput ρ → Prop
  | .timedOut n time =>
      (∀ id answer, .answered (some n) id answer ∉ before) ∧
        ∃ t₀ hasData timeout, .started n t₀ ∈ before ∧ .accepted n hasData timeout ∈ before ∧
          t₀ + 1000000 * respTime timeout ≤ time
  | _ => True

structure Timed (outs : List (NiOutput ρ)) (s : NiSystem υ ρ) : Prop where
  asked : ∀ p, timing s.handler = some p → ∃ hasData, .accepted p.1 hasData p.2 ∈ outs
  timeLeft : ∀ n, n + 1 = s.requests → (∀ timeout, timing s.handler ≠ some (n, timeout)) →
    isTimed (s.threads n) = true → ∃ hasData timeout,
      .accepted n hasData timeout ∈ outs ∧ s.data.respTimeLeft = respTime timeout
  expires : ∀ i x, deadline (s.threads i) = some x → ∃ t₀ hasData timeout,
    .started i t₀ ∈ outs ∧ .accepted i hasData timeout ∈ outs ∧
      x = t₀ + 1000000 * respTime timeout
  heard : ∀ n id answer, .answered (some n) id answer ∈ outs → n + 1 = s.requests →
    listens (s.threads n) = true → s.data.respRecvd = true
  fair : Throughout Fair outs

theorem timed_start {resp : ρ} : Timed [] (.start resp : NiSystem υ ρ) := by
  constructor
  · nofun
  · nofun
  · nofun
  · nofun
  · exact throughout_nil

/-! ## Threads that change one of these -/

theorem isTimed_wakeUp (t : NiThread ρ) : isTimed t.wakeUp = isTimed t := by cases t <;> rfl

theorem listens_wakeUp (t : NiThread ρ) : listens t.wakeUp = listens t := by cases t <;> rfl

theorem deadline_wakeUp (t : NiThread ρ) : deadline t.wakeUp = deadline t := by cases t <;> rfl

theorem last_of_listens (numbered : Numbered s) (few : n < s.requests)
    (busy : s.threads n ≠ .done) : n + 1 = s.requests := by
  have old := mt (numbered.older n) busy
  omega

theorem Numbered.last_quiet (numbered : Numbered s) {f : NiThread ρ → Bool}
    (busy : s.threads m ≠ .done) (present : s.threads m ≠ .absent) (last : n + 1 = s.requests)
    (quiet : f t = false) : ¬ f (Function.update s.threads m t n) = true := by
  have last' := numbered.last busy present
  obtain rfl : n = m := by omega
  rw [Function.update_self, quiet]
  exact Bool.false_ne_true

theorem fair_new (timed : Timed outs s) (numbered : Numbered s) (recorded : Recorded s)
    {x : Int} (next : s.threads n = .waiting x) (late : x ≤ s.now) :
    Fair outs (.timedOut n s.now : NiOutput ρ) := by
  constructor
  · intro id answer answered
    have last : n + 1 = s.requests := by
      apply numbered.last <;> simp [next]
    have recvd := timed.heard n id answer answered last (by rw [next]; rfl)
    rw [recorded.quiet n (by rw [next]; rfl)] at recvd
    cases recvd
  · obtain ⟨t₀, hasData, timeout, started, accepted, rfl⟩ := timed.expires n x (by rw [next]; rfl)
    exact ⟨t₀, hasData, timeout, started, accepted, late⟩

theorem last_of_notified (told : Told noResp outs s) (numbered : Numbered s) {id : Int}
    (notified : .notified n id ∈ outs) (busy : s.threads n ≠ .done) : n + 1 = s.requests :=
  last_of_listens numbered (told.fits _ notified).2.1 busy

theorem unbuilt_of_notified (told : Told noResp outs s) {id : Int}
    (notified : .notified n id ∈ outs) : building s.handler ≠ some n :=
  (told.fits _ notified).2.2

section Step
variable [DecidableEq υ]

theorem asked_step (timed : Timed outs s) (move : Move noResp s e u new) :
    ∀ p, timing u.handler = some p → ∃ hasData, .accepted p.1 hasData p.2 ∈ outs ++ new := by
  intro p now
  have old : timing s.handler = some p →
      ∃ hasData, .accepted p.1 hasData p.2 ∈ outs ++ new := by
    intro before
    obtain ⟨hasData, accepted⟩ := timed.asked p before
    exact ⟨hasData, List.mem_append_left _ accepted⟩
  cases move
  case accept hasData timeout idle free =>
    cases now
    exact ⟨hasData, List.mem_append_right _ (List.mem_singleton_self _)⟩
  case save next => exact old (by rw [next]; exact now)
  case identify next => exact old (by rw [next]; exact now)
  all_goals first | exact old now | cases now

theorem timeLeft_step (timed : Timed outs s) (numbered : Numbered s)
    (move : Move noResp s e u new) : ∀ n, n + 1 = u.requests →
      (∀ timeout, timing u.handler ≠ some (n, timeout)) → isTimed (u.threads n) = true →
        ∃ hasData timeout, .accepted n hasData timeout ∈ outs ++ new ∧
          u.data.respTimeLeft = respTime timeout := by
  intro n last known now
  have old : n + 1 = s.requests → (∀ timeout, timing s.handler ≠ some (n, timeout)) →
      isTimed (s.threads n) = true → ∃ hasData timeout,
        .accepted n hasData timeout ∈ outs ++ new ∧ s.data.respTimeLeft = respTime timeout := by
    intro last known before
    obtain ⟨hasData, timeout, accepted, same⟩ := timed.timeLeft n last known before
    exact ⟨hasData, timeout, List.mem_append_left _ accepted, same⟩
  cases move
  case accept hasData timeout idle free =>
    obtain rfl : n = s.requests := Nat.succ.inj last
    exact absurd rfl (known timeout)
  case save next => exact old last (by rw [next]; exact known) now
  case identify next => exact old last (by rw [next]; exact known) now
  case setTime m id timeout _ _ next =>
    obtain rfl : n = m := by
      have last' := (numbered.built m (by rw [next]; rfl)).1
      dsimp only at last
      omega
    obtain ⟨hasData, accepted⟩ := timed.asked (n, timeout) (by rw [next]; rfl)
    exact ⟨hasData, timeout, List.mem_append_left _ accepted, rfl⟩
  case restart idle => exact old last (by rw [idle]; nofun) now
  case create next =>
    have absent := (numbered.built _ (by rw [next]; rfl)).2
    exact old last (by rw [next]; nofun) (update_before (by rw [absent]; exact id) now)
  case createFailed next => exact old last (by rw [next]; nofun) now
  case notify next => exact old last (by rw [next]; nofun) now
  case free next => exact old last (by rw [next]; nofun) now
  case clear next => exact old last (by rw [next]; nofun) now
  case wake next =>
    rw [signal_same isTimed_wakeUp] at now
    exact old last (by rw [next]; nofun) now
  case answer =>
    rw [signal_same isTimed_wakeUp] at now
    exact old last known now
  case clearTime next =>
    exact absurd now (numbered.last_quiet (by simp [next]) (by simp [next]) last rfl)
  case startTake next recvd =>
    exact old last known (update_before (by rw [next]; exact fun _ => rfl) now)
  case startWait next recvd =>
    exact old last known (update_before (by rw [next]; exact fun _ => rfl) now)
  case wokenTake next recvd =>
    exact old last known (update_before (by rw [next]; exact fun _ => rfl) now)
  case wokenWait next recvd =>
    exact old last known (update_before (by rw [next]; exact fun _ => rfl) now)
  case timedOutTake next =>
    exact old last known (update_before (by rw [next]; exact fun _ => rfl) now)
  case expire next late =>
    exact old last known (update_before (by rw [next]; exact fun _ => rfl) now)
  case spurious => exact old last known (update_before (by rw [isTimed_wakeUp]; exact id) now)
  case countUp next => exact old last known (update_other rfl now)
  case send next => exact old last known (update_other rfl now)
  case sendNothing next => exact old last known (update_other rfl now)
  all_goals exact old last known now

theorem expires_step (timed : Timed outs s) (numbered : Numbered s)
    (move : Move noResp s e u new) : ∀ i x, deadline (u.threads i) = some x →
      ∃ t₀ hasData timeout, .started i t₀ ∈ outs ++ new ∧
        .accepted i hasData timeout ∈ outs ++ new ∧ x = t₀ + 1000000 * respTime timeout := by
  intro i x now
  have old : deadline (s.threads i) = some x → ∃ t₀ hasData timeout,
      .started i t₀ ∈ outs ++ new ∧ .accepted i hasData timeout ∈ outs ++ new ∧
        x = t₀ + 1000000 * respTime timeout := by
    intro before
    obtain ⟨t₀, hasData, timeout, started, accepted, same⟩ := timed.expires i x before
    exact ⟨t₀, hasData, timeout, List.mem_append_left _ started, List.mem_append_left _ accepted,
      same⟩
  cases move
  case startWait n next recvd =>
    rcases update_elim now with ⟨rfl, same⟩ | before
    · cases same
      have last : i + 1 = s.requests := by
        apply numbered.last <;> simp [next]
      have known : ∀ timeout, timing s.handler ≠ some (i, timeout) := by
        intro timeout now
        have built : building s.handler = some i := by
          revert now
          cases s.handler <;> simp +contextual [timing, building]
        have absent := (numbered.built i built).2
        rw [next] at absent
        cases absent
      obtain ⟨hasData, timeout, accepted, time⟩ := timed.timeLeft i last known (by rw [next]; rfl)
      refine ⟨s.now, hasData, timeout, List.mem_append_right _ (List.mem_singleton_self _),
        List.mem_append_left _ accepted, ?_⟩
      rw [time]
    · exact old before
  case wokenWait next recvd =>
    rcases update_elim now with ⟨rfl, same⟩ | before
    · exact old (by rw [next]; exact same)
    · exact old before
  case spurious =>
    rcases update_elim now with ⟨rfl, same⟩ | before
    · rw [deadline_wakeUp] at same
      exact old same
    · exact old before
  case wake =>
    rw [signal_same deadline_wakeUp] at now
    exact old now
  case answer =>
    rw [signal_same deadline_wakeUp] at now
    exact old now
  all_goals first
    | exact old now
    | rcases update_elim now with ⟨rfl, other⟩ | before
      · cases other
      · exact old before

theorem heard_step (timed : Timed outs s) (told : Told noResp outs s) (numbered : Numbered s)
    (move : Move noResp s e u new) : ∀ n id answer, .answered (some n) id answer ∈ outs ++ new →
      n + 1 = u.requests → listens (u.threads n) = true → u.data.respRecvd = true := by
  intro n notifId answer member last now
  rcases List.mem_append.mp member with before | added
  · have old : n + 1 = s.requests → listens (s.threads n) = true → s.data.respRecvd = true :=
      timed.heard n notifId answer before
    cases move
    case accept =>
      have few := (told.fits _ before).2 n rfl
      dsimp only at last
      omega
    case wake => rfl
    case answer => rfl
    case create next =>
      have absent := (numbered.built _ (by rw [next]; rfl)).2
      exact old last (update_before (by rw [absent]; exact id) now)
    case startTake next recvd =>
      exact absurd now (numbered.last_quiet (by simp [next]) (by simp [next]) last rfl)
    case wokenTake next recvd =>
      exact absurd now (numbered.last_quiet (by simp [next]) (by simp [next]) last rfl)
    case timedOutTake next =>
      exact absurd now (numbered.last_quiet (by simp [next]) (by simp [next]) last rfl)
    case startWait next recvd =>
      exact old last (update_before (by rw [next]; exact fun _ => rfl) now)
    case wokenWait next recvd =>
      exact old last (update_before (by rw [next]; exact fun _ => rfl) now)
    case spurious => exact old last (update_before (by rw [listens_wakeUp]; exact id) now)
    all_goals first
      | exact old last now
      | exact old last (update_other rfl now)
  · cases move
    case answer => rfl
    all_goals first
      | cases List.mem_singleton.mp added
      | cases added

theorem fair_step (timed : Timed outs s) (numbered : Numbered s) (recorded : Recorded s)
    (move : Move noResp s e u new) : Throughout Fair (outs ++ new) := by
  have fair := timed.fair
  have same : outs ++ [] = outs := List.append_nil outs
  cases move
  case expire next late => exact fair.snoc (fair_new timed numbered recorded next late)
  all_goals first
    | exact fair.snoc trivial
    | rw [same]
      exact fair

theorem Timed.step (timed : Timed outs s) (told : Told noResp outs s) (numbered : Numbered s)
    (recorded : Recorded s) (move : Move noResp s e u new) : Timed (outs ++ new) u := by
  constructor
  · exact asked_step timed move
  · exact timeLeft_step timed numbered move
  · exact expires_step timed numbered move
  · exact heard_step timed told numbered move
  · exact fair_step timed numbered recorded move

end Step

/-! ## Without restarts -/

structure Present (outs : List (NiOutput ρ)) (s : NiSystem υ ρ) : Prop where
  staying : s.handler ≠ .free ∧ s.handler ≠ .clear ∧ s.handler ≠ .wake
  saving : ∀ p n timeout, s.handler = .save p n timeout →
    ∀ timeout', .accepted n true timeout' ∈ outs → p = some n
  present : ∀ n timeout, .accepted n true timeout ∈ outs → n + 1 = s.requests →
    (∀ p timeout', s.handler ≠ .save p n timeout') → (s.threads n).isOpen = true →
      s.data.rawRequest = some n

theorem present_start {resp : ρ} : Present [] (.start resp : NiSystem υ ρ) := by
  constructor
  · exact ⟨nofun, nofun, nofun⟩
  · nofun
  · nofun

section Present
variable [DecidableEq υ]

theorem staying_step (present : Present outs s) (stays : e ≠ .restart)
    (move : Move noResp s e u new) :
    u.handler ≠ .free ∧ u.handler ≠ .clear ∧ u.handler ≠ .wake := by
  obtain ⟨notFree, notClear, notWake⟩ := present.staying
  cases move
  case restart => exact absurd rfl stays
  case free next => exact absurd next notFree
  case clear next => exact absurd next notClear
  all_goals first
    | exact ⟨notFree, notClear, notWake⟩
    | exact ⟨nofun, nofun, nofun⟩

theorem saving_step (present : Present outs s) (told : Told noResp outs s)
    (move : Move noResp s e u new) : ∀ p n timeout, u.handler = .save p n timeout →
      ∀ timeout', .accepted n true timeout' ∈ outs ++ new → p = some n := by
  intro p n timeout saves timeout' member
  rcases List.mem_append.mp member with before | added
  · cases move
    case accept =>
      cases saves
      exact absurd (told.fits _ before) (Nat.lt_irrefl _)
    all_goals first
      | exact present.saving p n timeout saves timeout' before
      | cases saves
  · cases move
    case accept =>
      cases saves
      cases List.mem_singleton.mp added
      rfl
    all_goals first
      | cases List.mem_singleton.mp added
      | cases added

theorem present_step (present : Present outs s) (told : Told noResp outs s) (numbered : Numbered s)
    (move : Move noResp s e u new) : ∀ n timeout, .accepted n true timeout ∈ outs ++ new →
      n + 1 = u.requests → (∀ p timeout', u.handler ≠ .save p n timeout') →
        (u.threads n).isOpen = true → u.data.rawRequest = some n := by
  intro n timeout member last unsaved opened
  rcases List.mem_append.mp member with before | added
  · have old : n + 1 = s.requests → (∀ p timeout', s.handler ≠ .save p n timeout') →
        (s.threads n).isOpen = true → s.data.rawRequest = some n :=
      present.present n timeout before
    cases move
    case accept =>
      have few : n < s.requests := told.fits _ before
      dsimp only at last
      omega
    case save p m timeout' _ _ next =>
      obtain rfl : n = m := by
        have last' := (numbered.built m (by rw [next]; rfl)).1
        dsimp only at last
        omega
      exact present.saving p n timeout' next timeout before
    case clear next => exact absurd next present.staying.2.1
    case wake next => exact absurd next present.staying.2.2
    case identify next => exact old last (by rw [next]; nofun) opened
    case setTime next => exact old last (by rw [next]; nofun) opened
    case create next =>
      have absent := (numbered.built _ (by rw [next]; rfl)).2
      exact old last (by rw [next]; nofun) (update_before (by rw [absent]; exact id) opened)
    case createFailed next => exact old last (by rw [next]; nofun) opened
    case notify next => exact old last (by rw [next]; nofun) opened
    case free next => exact old last (by rw [next]; nofun) opened
    case restart idle => exact old last (by rw [idle]; nofun) opened
    case startTake next recvd =>
      exact absurd opened (numbered.last_quiet (by simp [next]) (by simp [next]) last rfl)
    case wokenTake next recvd =>
      exact absurd opened (numbered.last_quiet (by simp [next]) (by simp [next]) last rfl)
    case timedOutTake next =>
      exact absurd opened (numbered.last_quiet (by simp [next]) (by simp [next]) last rfl)
    case startWait next recvd =>
      exact old last unsaved (update_before (by rw [next]; exact fun _ => rfl) opened)
    case wokenWait next recvd =>
      exact old last unsaved (update_before (by rw [next]; exact fun _ => rfl) opened)
    case expire next late =>
      exact old last unsaved (update_before (by rw [next]; exact fun _ => rfl) opened)
    case spurious => exact old last unsaved (update_before (by rw [isOpen_wakeUp]; exact id) opened)
    case answer =>
      rw [signal_same isOpen_wakeUp] at opened
      exact old last unsaved opened
    all_goals first
      | exact old last unsaved opened
      | exact old last unsaved (update_other rfl opened)
  · cases move
    case accept =>
      cases List.mem_singleton.mp added
      exact absurd rfl (unsaved _ _)
    all_goals first
      | cases List.mem_singleton.mp added
      | cases added

theorem Present.step (present : Present outs s) (told : Told noResp outs s) (numbered : Numbered s)
    (stays : e ≠ .restart) (move : Move noResp s e u new) : Present (outs ++ new) u := by
  constructor
  · exact staying_step present stays move
  · exact saving_step present told move
  · exact present_step present told numbered move

/-! ## All runs without restarts -/

/-- Once the user was told the id of a request, the id and its time stay, an answer in time is the
one that is sent, and there is no response without an answer before all of the time is over. -/
structure Kept (noResp : ρ) (outs : List (NiOutput ρ)) (s : NiSystem υ ρ) : Prop where
  id : ∀ n id, .notified n id ∈ outs → (s.threads n).isCounted = false → s.data.reqID = id
  timeLeft : ∀ n id, .notified n id ∈ outs → isTimed (s.threads n) = true →
    ∃ hasData timeout, .accepted n hasData timeout ∈ outs ∧ s.data.respTimeLeft = respTime timeout
  /-- So that an answer with its id passes the check. -/
  present : ∀ n id timeout, .notified n id ∈ outs → .accepted n true timeout ∈ outs →
    (s.threads n).isOpen = true → s.data.rawRequest = some n
  /-- Nobody else changes them before the response is sent. -/
  own : ∀ e, Orderly s e → ∀ n id, .notified n id ∈ outs → s.threads n ≠ .done →
    ((niStep noResp s e).1.data.reqID ≠ s.data.reqID ∨
      (niStep noResp s e).1.data.respTimeLeft ≠ s.data.respTimeLeft) → e = .thread n
  settled : ∀ n resp, .sent n resp ∈ outs → Settled noResp outs n resp
  inTime : ∀ before n id answer after, outs = before ++ .answered (some n) id answer :: after →
    (∀ time, .timedOut n time ∉ before) → ∀ resp, .sent n resp ∈ outs →
      ∃ id, .identified n id ∈ outs ∧ .answered (some n) id resp ∈ outs
  fair : Throughout Fair outs

theorem own_step (told : Told noResp outs s) (numbered : Numbered s)
    (move : Move noResp s e u new) {id : Int} (notified : .notified n id ∈ outs)
    (busy : s.threads n ≠ .done) (changed : u.data.reqID ≠ s.data.reqID ∨
      u.data.respTimeLeft ≠ s.data.respTimeLeft) : e = .thread n := by
  have last := last_of_notified told numbered notified busy
  cases move
  case setTime m _ _ _ _ next =>
    have built : building s.handler = some m := by
      rw [next]
      rfl
    obtain rfl : n = m := by
      have last' := (numbered.built m built).1
      omega
    exact absurd built (unbuilt_of_notified told notified)
  case clearTime m _ next =>
    obtain rfl : n = m := by
      have last' : m + 1 = s.requests := by
        apply numbered.last <;> simp [next]
      omega
    rfl
  case countUp m _ next =>
    obtain rfl : n = m := by
      have last' : m + 1 = s.requests := by
        apply numbered.last <;> simp [next]
      omega
    rfl
  all_goals
    rcases changed with changed | changed
    · exact absurd rfl changed
    · exact absurd rfl changed

theorem kept (told : Told noResp outs s) (numbered : Numbered s) (timed : Timed outs s)
    (present : Present outs s) : Kept noResp outs s := by
  constructor
  · intro n id notified counting
    have busy : s.threads n ≠ .done := by
      intro done
      rw [done] at counting
      cases counting
    rw [(told.fits _ notified).1]
    exact numbered.current n (last_of_notified told numbered notified busy) counting
  · intro n id notified now
    have busy : s.threads n ≠ .done := by
      intro done
      rw [done] at now
      cases now
    apply timed.timeLeft n (last_of_notified told numbered notified busy) _ now
    intro timeout asked
    apply unbuilt_of_notified told notified
    revert asked
    cases s.handler <;> simp +contextual [timing, building]
  · intro n id timeout notified accepted opened
    have busy : s.threads n ≠ .done := by
      intro done
      rw [done] at opened
      cases opened
    apply present.present n timeout accepted (last_of_notified told numbered notified busy) _ opened
    intro p timeout' saves
    apply unbuilt_of_notified told notified
    rw [saves]
    rfl
  · intro e _ n id notified busy changed
    exact own_step told numbered (niStep_cases noResp s e) notified busy changed
  · intro n resp sent
    exact told.fits _ sent
  · intro before n id answer after split inTime resp sent
    rcases told.fits _ sent with answered | ⟨-, time, gone⟩
    · exact answered
    · rw [split] at gone
      rcases List.mem_append.mp gone with early | late
      · exact absurd early (inTime time)
      · rcases List.mem_cons.mp late with same | late
        · cases same
        · obtain ⟨first, second, rfl⟩ := List.append_of_mem late
          have fair := timed.fair (before ++ .answered (some n) id answer :: first)
            (.timedOut n time) second (by rw [split, List.append_assoc, List.cons_append])
          exact absurd (by simp) (fair.1 id answer)
  · exact timed.fair

structure Undisturbed (noResp : ρ) (outs : List (NiOutput ρ)) (s : NiSystem υ ρ) : Prop where
  inOrder : InOrder noResp outs s
  timed : Timed outs s
  present : Present outs s

theorem Undisturbed.step (undisturbed : Undisturbed noResp outs s) (orderly : Orderly s e)
    (stays : e ≠ .restart) :
    Undisturbed noResp (outs ++ (niStep noResp s e).2) (niStep noResp s e).1 := by
  obtain ⟨inOrder, timed, present⟩ := undisturbed
  have move := niStep_cases noResp s e
  constructor
  · exact inOrder.step orderly
  · exact timed.step inOrder.told inOrder.numbered inOrder.recorded move
  · exact present.step inOrder.told inOrder.numbered stays move

theorem requests_kept {initial : ρ} {es : List (NiEvent υ ρ)}
    (orderly : ∀ t ∈ trace (niStep noResp) (.start initial) es, Orderly t.before t.event)
    (stays : ∀ e ∈ es, e ≠ .restart) :
    Kept noResp (outputs (niStep noResp) (.start initial) es)
      (final (niStep noResp) (.start initial) es) := by
  have all : Undisturbed noResp (outputs (niStep noResp) (.start initial) es)
      (final (niStep noResp) (.start initial) es) := by
    apply @outputs_invariant _ _ _ _ _ fun s e => Orderly s e ∧ e ≠ .restart
    · intro outs s e undisturbed allowed
      exact undisturbed.step allowed.1 allowed.2
    · exact ⟨⟨numbered_start, recorded_start, told_start⟩, timed_start, present_start⟩
    · intro t member
      exact ⟨orderly t member, stays t.event (event_mem_of_mem member)⟩
  exact kept all.inOrder.told all.inOrder.numbered all.timed all.present

end Present

theorem requests_kept_once :
    Kept 3 (outputs (niStep 3) (.start 0) answeredOnce)
      (final (niStep 3) (.start 0) answeredOnce) :=
  requests_kept (by decide) (by decide)

/-- The second request comes when the thread of the first one has unlocked the record. It gets the id
of the first one and loses its time: the answer of the user is refused, and the time is over at
once. -/
theorem next_request_disturbed :
    ∃ es : List (NiEvent Unit Nat), (∀ e ∈ es, e ≠ .restart) ∧
      outputs (niStep 3) (.start 0) es =
        [.accepted 0 true 0, .identified 0 0, .notified 0 0, .started 0 0, .given 0 1,
          .answered (some 0) 0 1,
          .accepted 1 true 0, .identified 1 0, .notified 1 0, .started 1 0, .given 0 2,
          .timedOut 1 0, .sent 1 3] ∧
      ¬Kept 3 (outputs (niStep 3) (.start 0) es) (final (niStep 3) (.start 0) es) := by
  have run : outputs (niStep 3) (.start 0) (arrival 0 ++ [.respond () 0 1, .answer () 0, .thread 0] ++
      (arrival 1).take 6 ++ [.thread 0, .thread 0, .thread 1, .respond () 0 2, .expire 1] ++
      List.replicate 4 (.thread 1)) =
        [.accepted 0 true 0, .identified 0 0, .notified 0 0, .started 0 0, .given 0 1,
          .answered (some 0) 0 1,
          .accepted 1 true 0, .identified 1 0, .notified 1 0, .started 1 0, .given 0 2,
          .timedOut 1 0, .sent 1 3] := by
    decide
  refine ⟨_, ?_, run, ?_⟩
  · decide
  · rw [run]
    intro kept
    obtain ⟨-, t₀, hasData, timeout, started, accepted, late⟩ :=
      kept.fair [.accepted 0 true 0, .identified 0 0, .notified 0 0, .started 0 0, .given 0 1,
        .answered (some 0) 0 1, .accepted 1 true 0, .identified 1 0, .notified 1 0, .started 1 0,
        .given 0 2] (.timedOut 1 0) [.sent 1 3] rfl
    simp at started accepted
    obtain ⟨-, rfl⟩ := accepted
    revert late
    rw [started]
    decide

end VibeXperia.Proof.Gps
