import VibeXperia.Proof.Gps.Ni

namespace VibeXperia.Proof.Gps
open Lib VibeXperia.Gps

variable {υ ρ : Type} {noResp : ρ} {s u : NiSystem υ ρ} {e : NiEvent υ ρ}
variable {outs new : List (NiOutput ρ)} {i n m : Nat} {resp : ρ}

/-! ## What was put out, and the state -/

def named : NiHandler → Option (Nat × Int)
  | .setTime n id _ | .create n id | .notify n id => some (n, id)
  | _ => none

def unnamed : NiHandler → Option Nat
  | .save _ n _ | .identify n _ => some n
  | _ => none

def message : NiThread ρ → Option (ρ × Nat)
  | .clearTime msg | .countUp msg | .send msg => msg
  | _ => none

/-- The response to a request is an answer that came in while the request was in the record, with
the id of the request, or its time is over. -/
def Settled (noResp : ρ) (outs : List (NiOutput ρ)) (m : Nat) (resp : ρ) : Prop :=
  (∃ id, .identified m id ∈ outs ∧ .answered (some m) id resp ∈ outs) ∨
    resp = noResp ∧ ∃ time, .timedOut m time ∈ outs

def Fits (noResp : ρ) (outs : List (NiOutput ρ)) (s : NiSystem υ ρ) : NiOutput ρ → Prop
  | .accepted m _ _ => m < s.requests
  | .identified m id => id = signed 32 m
  | .notified m id => id = signed 32 m ∧ m < s.requests ∧ building s.handler ≠ some m
  | .answered raw id answer => .given id answer ∈ outs ∧ ∀ m, raw = some m → m < s.requests
  | .sent m resp => Settled noResp outs m resp
  | _ => True

structure Told (noResp : ρ) (outs : List (NiOutput ρ)) (s : NiSystem υ ρ) : Prop where
  fits : ∀ x ∈ outs, Fits noResp outs s x
  identified : ∀ m < s.requests, unnamed s.handler ≠ some m → .identified m (signed 32 m) ∈ outs
  named : ∀ p, named s.handler = some p → p.2 = signed 32 p.1 ∧ p.1 < s.requests
  users : ∀ user p, s.users user = some p → .given p.1 p.2 ∈ outs
  pending : s.data.respRecvd = true → ∀ m, s.data.rawRequest = some m →
    .answered (some m) (signed 32 m) s.data.resp ∈ outs
  holds : ∀ i p, message (s.threads i) = some p → Settled noResp outs p.2 p.1
  expired : ∀ i, s.threads i = .timedOut → ∃ time, .timedOut i time ∈ outs

theorem told_start : Told noResp [] (.start resp : NiSystem υ ρ) := by
  constructor
  · nofun
  · nofun
  · nofun
  · nofun
  · nofun
  · nofun
  · nofun

theorem Settled.mono (settled : Settled noResp outs m resp) :
    Settled noResp (outs ++ new) m resp := by
  rcases settled with ⟨id, identified, answered⟩ | ⟨same, time, gone⟩
  · exact Or.inl ⟨id, List.mem_append_left _ identified, List.mem_append_left _ answered⟩
  · exact Or.inr ⟨same, time, List.mem_append_left _ gone⟩

theorem Fits.mono {x : NiOutput ρ} (fits : Fits noResp outs s x)
    (requests : s.requests ≤ u.requests)
    (built : ∀ m, building u.handler = some m → building s.handler = some m ∨ s.requests ≤ m) :
    Fits noResp (outs ++ new) u x := by
  cases x with
  | accepted m hasData timeout => exact Nat.lt_of_lt_of_le fits requests
  | notified m id =>
      obtain ⟨same, few, built'⟩ := fits
      refine ⟨same, Nat.lt_of_lt_of_le few requests, ?_⟩
      intro now
      rcases built m now with before | fresh
      · exact built' before
      · omega
  | answered raw id answer =>
      refine ⟨List.mem_append_left _ fits.1, ?_⟩
      intro m same
      exact Nat.lt_of_lt_of_le (fits.2 m same) requests
  | sent m resp => exact Settled.mono fits
  | identified m id => exact fits
  | started | timedOut | given => trivial

theorem id_of_open (numbered : Numbered s) (last : n + 1 = s.requests)
    (opened : (s.threads n).isOpen = true) : s.data.reqID = signed 32 n := by
  apply numbered.current n last
  revert opened
  cases s.threads n <;> simp [NiThread.isOpen, NiThread.isCounted]

theorem id_of_building (numbered : Numbered s) (built : building s.handler = some n) :
    s.data.reqID = signed 32 n := by
  obtain ⟨last, absent⟩ := numbered.built n built
  apply id_of_open numbered last
  rw [absent]
  rfl

theorem message_wakeUp (t : NiThread ρ) : message t.wakeUp = message t := by cases t <;> rfl

theorem settled_take (told : Told noResp outs s) (numbered : Numbered s) (recorded : Recorded s)
    (opened : (s.threads n).isOpen = true) (present : s.threads n ≠ .absent) {resp : ρ}
    (answered : ∀ m, s.data.rawRequest = some m → m = n →
      .answered (some n) (signed 32 n) resp ∈ outs ∨
        resp = noResp ∧ ∃ time, .timedOut n time ∈ outs)
    {p : ρ × Nat} (taken : (s.data.rawRequest.map fun request => (resp, request)) = some p) :
    Settled noResp outs p.2 p.1 := by
  rw [Option.map_eq_some_iff] at taken
  obtain ⟨m, raw, rfl⟩ := taken
  have last : n + 1 = s.requests := by
    apply numbered.last _ present
    intro done
    rw [done] at opened
    cases opened
  obtain rfl : m = n := by
    have := (recorded.raw m raw).1
    omega
  rcases answered m raw rfl with answered | gone
  · have named : unnamed s.handler ≠ some m := by
      intro now
      have built : building s.handler = some m := by
        revert now
        cases s.handler <;> simp [unnamed, building]
      exact present (numbered.built m built).2
    exact Or.inl ⟨_, told.identified m (last ▸ Nat.lt_succ_self m) named, answered⟩
  · exact Or.inr gone

theorem timedOut_wakeUp {t : NiThread ρ} (now : t.wakeUp = .timedOut) : t = .timedOut := by
  cases t <;> first | rfl | cases now

theorem timedOut_signal {first : Nat} (now : s.signal first i = .timedOut) :
    s.threads i = .timedOut := by
  rcases signal_cases s first i with same | woken
  · rw [← same, now]
  · rw [woken] at now
    exact timedOut_wakeUp now

theorem Told.holds_update (told : Told noResp outs s) {t : NiThread ρ} {p : ρ × Nat}
    (settled : ∀ p, message t = some p → Settled noResp outs p.2 p.1)
    (now : message (Function.update s.threads n t i) = some p) :
    Settled noResp (outs ++ new) p.2 p.1 := by
  rcases update_elim now with ⟨rfl, own⟩ | before
  · exact (settled p own).mono
  · exact (told.holds i p before).mono

section Step
variable [DecidableEq υ]

theorem requests_le (move : Move noResp s e u new) : s.requests ≤ u.requests := by
  cases move
  case accept => exact Nat.le_succ _
  all_goals exact Nat.le_refl _

theorem built_before (move : Move noResp s e u new) (m : Nat) (now : building u.handler = some m) :
    building s.handler = some m ∨ s.requests ≤ m := by
  cases move
  case accept =>
    cases now
    exact Or.inr (Nat.le_refl _)
  case save next =>
    rw [next]
    exact Or.inl now
  case identify next =>
    rw [next]
    exact Or.inl now
  case setTime next =>
    rw [next]
    exact Or.inl now
  all_goals first | exact Or.inl now | cases now

theorem fits_new (told : Told noResp outs s) (numbered : Numbered s) (recorded : Recorded s)
    (move : Move noResp s e u new) : ∀ x ∈ new, Fits noResp (outs ++ new) u x := by
  intro x member
  cases move
  case accept =>
    obtain rfl := List.mem_singleton.mp member
    exact Nat.lt_succ_self _
  case identify next =>
    obtain rfl := List.mem_singleton.mp member
    exact id_of_building numbered (by rw [next]; rfl)
  case notify next =>
    obtain rfl := List.mem_singleton.mp member
    obtain ⟨same, few⟩ := told.named _ (by rw [next]; rfl)
    exact ⟨same, few, nofun⟩
  case answer next =>
    obtain rfl := List.mem_singleton.mp member
    refine ⟨List.mem_append_left _ (told.users _ _ next), ?_⟩
    intro m raw
    exact (recorded.raw m raw).1 ▸ Nat.lt_succ_self m
  case send n resp m next =>
    obtain rfl := List.mem_singleton.mp member
    exact (told.holds n (resp, m) (by rw [next]; rfl)).mono
  all_goals first
    | obtain rfl := List.mem_singleton.mp member
      trivial
    | cases member

theorem identified_step (told : Told noResp outs s) (numbered : Numbered s)
    (move : Move noResp s e u new) : ∀ m < u.requests, unnamed u.handler ≠ some m →
      .identified m (signed 32 m) ∈ outs ++ new := by
  intro m few now
  cases move
  case accept idle free =>
    have other : m ≠ s.requests := by
      rintro rfl
      exact now rfl
    apply List.mem_append_left
    apply told.identified m
    · dsimp only at few
      omega
    · rw [idle]
      nofun
  case save next => exact List.mem_append_left _ (told.identified m few (by rw [next]; exact now))
  case identify n timeout _ _ next =>
    by_cases same : m = n
    · subst same
      rw [← id_of_building numbered (by rw [next]; rfl)]
      exact List.mem_append_right _ (List.mem_singleton_self _)
    · apply List.mem_append_left
      apply told.identified m few
      rw [next]
      rintro ⟨⟩
      exact same rfl
  case restart idle => exact List.mem_append_left _ (told.identified m few (by rw [idle]; nofun))
  case setTime next => exact List.mem_append_left _ (told.identified m few (by rw [next]; nofun))
  case create next => exact List.mem_append_left _ (told.identified m few (by rw [next]; nofun))
  case createFailed next =>
    exact List.mem_append_left _ (told.identified m few (by rw [next]; nofun))
  case notify next => exact List.mem_append_left _ (told.identified m few (by rw [next]; nofun))
  case free next => exact List.mem_append_left _ (told.identified m few (by rw [next]; nofun))
  case clear next => exact List.mem_append_left _ (told.identified m few (by rw [next]; nofun))
  case wake next => exact List.mem_append_left _ (told.identified m few (by rw [next]; nofun))
  all_goals exact List.mem_append_left _ (told.identified m few now)

theorem named_step (told : Told noResp outs s) (numbered : Numbered s)
    (move : Move noResp s e u new) : ∀ p, named u.handler = some p →
      p.2 = signed 32 p.1 ∧ p.1 < u.requests := by
  intro p now
  cases move
  case identify n timeout _ _ next =>
    cases now
    have built : building s.handler = some n := by
      rw [next]
      rfl
    exact ⟨id_of_building numbered built, (numbered.built n built).1 ▸ Nat.lt_succ_self n⟩
  case setTime next => exact told.named p (by rw [next]; exact now)
  case create next => exact told.named p (by rw [next]; exact now)
  case createFailed next => exact told.named p (by rw [next]; exact now)
  all_goals first | exact told.named p now | cases now

theorem users_step (told : Told noResp outs s) (move : Move noResp s e u new) :
    ∀ user p, u.users user = some p → .given p.1 p.2 ∈ outs ++ new := by
  intro user p now
  cases move
  case respond other notifId userResponse =>
    dsimp only at now
    by_cases same : user = other
    · subst same
      rw [Function.update_self] at now
      cases now
      exact List.mem_append_right _ (List.mem_singleton_self _)
    · rw [Function.update_of_ne same] at now
      exact List.mem_append_left _ (told.users user p now)
  case answer other _ _ _ _ =>
    dsimp only at now
    by_cases same : user = other
    · subst same
      rw [Function.update_self] at now
      cases now
    · rw [Function.update_of_ne same] at now
      exact List.mem_append_left _ (told.users user p now)
  all_goals exact List.mem_append_left _ (told.users user p now)

theorem pending_step (told : Told noResp outs s) (numbered : Numbered s) (recorded : Recorded s)
    (orderly : Orderly s e) (move : Move noResp s e u new) :
    u.data.respRecvd = true → ∀ m, u.data.rawRequest = some m →
      .answered (some m) (signed 32 m) u.data.resp ∈ outs ++ new := by
  intro recvd m raw
  cases move
  case save next =>
    dsimp only at recvd
    rw [(recorded.saved _ _ _ next).2.1] at recvd
    cases recvd
  case wake next =>
    dsimp only at raw
    rw [recorded.woken next] at raw
    cases raw
  case answer next =>
    apply List.mem_append_right
    obtain ⟨last, opened⟩ := recorded.raw m raw
    have id := (orderly _ next).1
    rw [id_of_open numbered last opened] at id
    dsimp only at id raw ⊢
    rw [id, raw]
    exact List.mem_singleton_self _
  all_goals first
    | exact List.mem_append_left _ (told.pending recvd m raw)
    | cases raw

theorem holds_step (told : Told noResp outs s) (numbered : Numbered s) (recorded : Recorded s)
    (move : Move noResp s e u new) : ∀ i p, message (u.threads i) = some p →
      Settled noResp (outs ++ new) p.2 p.1 := by
  intro i p now
  have answered (recvd : s.data.respRecvd = true) {n : Nat} (opened : (s.threads n).isOpen = true)
      (present : s.threads n ≠ .absent) (p : ρ × Nat)
      (taken : (s.data.rawRequest.map fun request => (s.data.resp, request)) = some p) :
      Settled noResp outs p.2 p.1 := by
    apply settled_take told numbered recorded opened present _ taken
    rintro m raw rfl
    exact Or.inl (told.pending recvd m raw)
  cases move
  case startTake n next recvd =>
    apply told.holds_update _ now
    exact answered recvd (by rw [next]; rfl) (by simp [next])
  case wokenTake n _ next recvd =>
    apply told.holds_update _ now
    exact answered recvd (by rw [next]; rfl) (by simp [next])
  case timedOutTake n next =>
    apply told.holds_update _ now
    intro p taken
    apply settled_take told numbered recorded (by rw [next]; rfl) (by simp [next]) _ taken
    rintro m raw rfl
    exact Or.inr ⟨rfl, told.expired m next⟩
  case clearTime next =>
    apply told.holds_update _ now
    intro p same
    exact told.holds _ p (by rw [next]; exact same)
  case countUp next =>
    apply told.holds_update _ now
    intro p same
    exact told.holds _ p (by rw [next]; exact same)
  case spurious =>
    apply told.holds_update _ now
    intro p same
    rw [message_wakeUp] at same
    exact told.holds _ p same
  case wake =>
    rw [signal_same message_wakeUp] at now
    exact (told.holds i p now).mono
  case answer =>
    rw [signal_same message_wakeUp] at now
    exact (told.holds i p now).mono
  all_goals first
    | exact (told.holds i p now).mono
    | exact told.holds_update (fun _ other => by cases other) now

theorem expired_step (told : Told noResp outs s) (move : Move noResp s e u new) :
    ∀ i, u.threads i = .timedOut → ∃ time, .timedOut i time ∈ outs ++ new := by
  intro i now
  have old : s.threads i = .timedOut → ∃ time, .timedOut i time ∈ outs ++ new := by
    intro before
    obtain ⟨time, gone⟩ := told.expired i before
    exact ⟨time, List.mem_append_left _ gone⟩
  cases move
  case expire n expireTime next late =>
    rcases @update_elim _ _ _ _ _ _ id _ now with ⟨rfl, -⟩ | before
    · exact ⟨s.now, List.mem_append_right _ (List.mem_singleton_self _)⟩
    · exact old before
  case spurious =>
    rcases @update_elim _ _ _ _ _ _ id _ now with ⟨rfl, same⟩ | before
    · exact old (timedOut_wakeUp same)
    · exact old before
  case wake => exact old (timedOut_signal now)
  case answer => exact old (timedOut_signal now)
  all_goals first
    | exact old now
    | rcases @update_elim _ _ _ _ _ _ id _ now with ⟨rfl, other⟩ | before
      · cases other
      · exact old before

theorem Told.step (told : Told noResp outs s) (numbered : Numbered s) (recorded : Recorded s)
    (orderly : Orderly s e) (move : Move noResp s e u new) : Told noResp (outs ++ new) u := by
  constructor
  · intro x member
    rcases List.mem_append.mp member with old | now
    · exact (told.fits x old).mono (requests_le move) (built_before move)
    · exact fits_new told numbered recorded move x now
  · exact identified_step told numbered move
  · exact named_step told numbered move
  · exact users_step told move
  · exact pending_step told numbered recorded orderly move
  · exact holds_step told numbered recorded move
  · exact expired_step told move

/-! ## All runs -/

structure InOrder (noResp : ρ) (outs : List (NiOutput ρ)) (s : NiSystem υ ρ) : Prop where
  numbered : Numbered s
  recorded : Recorded s
  told : Told noResp outs s

theorem InOrder.step (inOrder : InOrder noResp outs s) (orderly : Orderly s e) :
    InOrder noResp (outs ++ (niStep noResp s e).2) (niStep noResp s e).1 := by
  obtain ⟨numbered, recorded, told⟩ := inOrder
  have move := niStep_cases noResp s e
  exact ⟨numbered.step orderly move, recorded.step numbered orderly move,
    told.step numbered recorded orderly move⟩

/-- Each response is the one for a request without an answer, or the user gave it with the id of the
request. -/
def Attributed (noResp : ρ) (outs : List (NiOutput ρ)) : Prop :=
  ∀ n resp, .sent n resp ∈ outs →
    resp = noResp ∨ ∃ id, .identified n id ∈ outs ∧ .given id resp ∈ outs

/-- Each request has its own id, up to the width of `reqID`. -/
theorem answers_attributed {initial : ρ} {es : List (NiEvent υ ρ)}
    (orderly : ∀ t ∈ trace (niStep noResp) (.start initial) es, Orderly t.before t.event) :
    Attributed noResp (outputs (niStep noResp) (.start initial) es) ∧
      ∀ (n : Nat) (id : Int), .identified n id ∈ outputs (niStep noResp) (.start initial) es →
        id = signed 32 n := by
  have told : Told noResp (outputs (niStep noResp) (.start initial) es)
      (final (niStep noResp) (.start initial) es) := by
    apply InOrder.told
    apply outputs_invariant _ _ orderly
    · intro outs s e inOrder allowed
      exact inOrder.step allowed
    · exact ⟨numbered_start, recorded_start, told_start⟩
  constructor
  · intro n resp sent
    rcases told.fits _ sent with ⟨id, identified, answered⟩ | ⟨same, -⟩
    · exact Or.inr ⟨id, identified, (told.fits _ answered).1⟩
    · exact Or.inl same
  · intro n id identified
    exact told.fits _ identified

end Step

def arrival (n : Nat) : List (NiEvent Unit Nat) :=
  .request true 0 :: List.replicate 5 (.handler true 0) ++ [.thread n]

def answeredOnce : List (NiEvent Unit Nat) :=
  arrival 0 ++ [.respond () 0 1, .answer () 0] ++ List.replicate 4 (.thread 0) ++ arrival 1

theorem answers_attributed_once :
    Attributed 3 (outputs (niStep 3) (.start 0) answeredOnce) ∧ ∀ (n : Nat) (id : Int),
      .identified n id ∈ outputs (niStep 3) (.start 0) answeredOnce → id = signed 32 n :=
  answers_attributed (by decide)

/-- The user answers the first request, but the answer is recorded only after its time is over, when
the second request is there: it is sent for the second one. -/
theorem answer_sent_for_another :
    ∃ es : List (NiEvent Unit Nat),
      outputs (niStep 3) (.start 0) es =
        [.accepted 0 true 0, .identified 0 0, .notified 0 0, .started 0 0, .given 0 1,
          .timedOut 0 25000000, .sent 0 3,
          .accepted 1 true 0, .identified 1 1, .notified 1 1, .started 1 25000000,
          .answered (some 1) 0 1, .sent 1 1] ∧
      ¬Attributed 3 (outputs (niStep 3) (.start 0) es) := by
  have run : outputs (niStep 3) (.start 0) (arrival 0 ++
      [.respond () 0 1, .tick 25000000, .expire 0] ++ List.replicate 4 (.thread 0) ++ arrival 1 ++
      [.answer () 0] ++ List.replicate 4 (.thread 1)) =
        [.accepted 0 true 0, .identified 0 0, .notified 0 0, .started 0 0, .given 0 1,
          .timedOut 0 25000000, .sent 0 3,
          .accepted 1 true 0, .identified 1 1, .notified 1 1, .started 1 25000000,
          .answered (some 1) 0 1, .sent 1 1] := by
    decide
  refine ⟨_, run, ?_⟩
  rw [run]
  intro attributed
  rcases attributed 1 1 (by decide) with none' | ⟨id, identified, given⟩
  · cases none'
  · simp at identified given
    omega

end VibeXperia.Proof.Gps
