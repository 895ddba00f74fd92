import VibeXperia.Gps.Availability

namespace VibeXperia.Proof.Gps
open Lib VibeXperia.Gps

variable {s : Availability} {e : DataStep} {ts : List DataTransition} {t : DataTransition}

/-! ## What is given once the queue is empty -/

def enableSent : DataMsg → Option (BitVec 32)
  | .enableData enable _ => some enable
  | .init | .up | .other => none

/-- What the modem is given last once the queue is empty. -/
def toBeGiven (ts : List DataTransition) (s : Availability) : Option (BitVec 32) :=
  (lastWrite enableSent s.msgs).or (lastWrite enabled (ts.flatMap Transition.outputs))

inductive Underway (s : Availability) : Prop
  | uncreated (created : s.created = false)
  | initialising (framework : s.framework = .initialising)
  | updating (available : BitVec 32) (apn : CString)
      (framework : s.framework = .updating available (some apn))
  | waiting (msg : DataMsg) (member : msg ∈ s.msgs) (reads : msg = .init ∨ msg = .up)
  | reinit (engine : s.engine = .reinit)
  | sending (engine : s.engine = .sending (agpsCopy s.agpsStatus))

structure DataKept (ts : List DataTransition) (s : Availability) : Prop where
  status : s.agpsStatus = lastReported ts
  updating : ∀ available apn, s.framework = .updating available apn → available = s.agpsStatus
  current : Unposted ts ∨ Outdated ts ∨ Underway s ∨
    ∃ enable, toBeGiven ts s = some enable ∧
      (enable = s.agpsStatus ∨ enable = agpsCopy s.agpsStatus)

theorem lastReported_snoc :
    lastReported (ts ++ [t]) = (reported t).getD (lastReported ts) := by
  rw [lastReported, lastWrite_snoc]
  cases reported t <;> rfl

theorem unposted_snoc (unposted : Unposted ts) (unreported : ¬ Reports t) (unread : ¬ Reads t) :
    Unposted (ts ++ [t]) := by
  obtain ⟨before, u, after, available, rfl, event, created, framework, since⟩ := unposted
  refine ⟨before, u, after ++ [t], available, by simp, event, created, framework, ?_⟩
  rw [List.forall_mem_append, List.forall_mem_singleton]
  exact ⟨since, unreported, unread⟩

theorem outdated_snoc (outdated : Outdated ts) (unreported : ¬ Reports t) (unread : ¬ Reads t) :
    Outdated (ts ++ [t]) := by
  obtain ⟨before, u, after, enable, rfl, event, engine, old, framework, since⟩ := outdated
  refine ⟨before, u, after ++ [t], enable, by simp, event, engine, old, framework, ?_⟩
  rw [List.forall_mem_append, List.forall_mem_singleton]
  exact ⟨since, unreported, unread⟩

theorem toBeGiven_sent {s' : Availability} {sent : List DataMsg}
    (outputs : t.outputs = []) (msgs : s'.msgs = s.msgs ++ sent) :
    toBeGiven (ts ++ [t]) s' = (lastWrite enableSent sent).or (toBeGiven ts s) := by
  rw [toBeGiven, toBeGiven, msgs, lastWrite_append, List.flatMap_append, List.flatMap_singleton,
    outputs, List.append_nil, Option.or_assoc]

theorem toBeGiven_taken {s' : Availability} {msg : DataMsg} (waiting : s.msgs = msg :: s'.msgs)
    (outputs : lastWrite enabled t.outputs = enableSent msg) :
    toBeGiven (ts ++ [t]) s' = toBeGiven ts s := by
  rw [toBeGiven, toBeGiven, waiting, lastWrite_cons, List.flatMap_append, List.flatMap_singleton,
    lastWrite_append, outputs, Option.or_assoc]

theorem Underway.taken {msg : DataMsg} {msgs : List DataMsg} (underway : Underway s)
    (waiting : s.msgs = msg :: msgs) (notInit : msg ≠ .init) (notUp : msg ≠ .up) :
    Underway { s with msgs } := by
  cases underway with
  | uncreated uncreated => exact .uncreated uncreated
  | initialising initialising => exact .initialising initialising
  | updating available apn updating => exact .updating available apn updating
  | waiting msg' member reads =>
      rw [waiting] at member
      rcases List.mem_cons.mp member with rfl | member
      · exact absurd reads (not_or.mpr ⟨notInit, notUp⟩)
      · exact .waiting msg' member reads
  | reinit reinit => exact .reinit reinit
  | sending sending => exact .sending sending

/-! ## Steps -/

/-- What a step does; `nothing` where its thread is elsewhere. -/
inductive Moves (s : Availability) : DataStep → Availability → List DataEffect → Prop
  | nothing (e : DataStep) (unreported : reported ⟨s, e, [], s⟩ = none)
      (unread : ¬ Reads ⟨s, e, [], s⟩) :
      Moves s e s []
  | update (available : BitVec 32) (apn : Option CString) (framework : s.framework = .idle) :
      Moves s (.update available apn)
        { s with agpsStatus := available, framework := .updating available apn } []
  | updateSends (available : BitVec 32) (apn : Option CString)
      (framework : s.framework = .updating available apn) :
      Moves s .updateSends
        { s with
          msgs := s.msgs ++ if s.created then updateSent available apn else []
          framework := .idle } []
  | init (framework : s.framework = .idle) (created : s.created = false) :
      Moves s .init { s with created := true, framework := .initialising } []
  | initSends (framework : s.framework = .initialising) :
      Moves s .initSends { s with msgs := s.msgs ++ [.init], framework := .idle } []
  | engineUp : Moves s .engineUp { s with msgs := s.msgs ++ [.up] } []
  | others : Moves s .others { s with msgs := s.msgs ++ [.other] } []
  | takesReinit (msg : DataMsg) (msgs : List DataMsg) (waiting : s.msgs = msg :: msgs)
      (reads : msg = .init ∨ msg = .up) :
      Moves s .takes { s with msgs, engine := .reinit } []
  | takesEnable (enable : BitVec 32) (apn : Option CString) (msgs : List DataMsg)
      (waiting : s.msgs = .enableData enable apn :: msgs) :
      Moves s .takes { s with msgs } (.enableData enable :: (apn.map .setAPN).toList)
  | takesOther (msgs : List DataMsg) (waiting : s.msgs = .other :: msgs) : Moves s .takes { s with msgs } []
  | reinitReads (engine : s.engine = .reinit) :
      Moves s .reinitReads { s with engine := .sending (agpsCopy s.agpsStatus) } []
  | reinitSends (enable : BitVec 32) (engine : s.engine = .sending enable) :
      Moves s .reinitSends
        { s with msgs := s.msgs ++ [.enableData enable none], engine := .idle } []

theorem step_moves : Moves s e (s.step e).1 (s.step e).2 := by
  cases e with
  | update available apn =>
      rw [Availability.step]
      cases framework : s.framework with
      | idle => exact .update _ _ framework
      | updating | initialising =>
          exact .nothing _ (by simp [reported, framework]) fun reads => nomatch reads.1
  | updateSends =>
      rw [Availability.step]
      cases framework : s.framework with
      | updating => exact .updateSends _ _ framework
      | idle | initialising => exact .nothing _ rfl fun reads => nomatch reads.1
  | init =>
      rw [Availability.step]
      cases framework : s.framework with
      | idle =>
          dsimp only
          split
          · exact .nothing _ rfl fun reads => nomatch reads.1
          · rename_i created
            exact .init framework (Bool.not_eq_true _ ▸ created)
      | updating | initialising => exact .nothing _ rfl fun reads => nomatch reads.1
  | initSends =>
      rw [Availability.step]
      cases framework : s.framework with
      | initialising => exact .initSends framework
      | idle | updating => exact .nothing _ rfl fun reads => nomatch reads.1
  | engineUp =>
      rw [Availability.step]
      split
      · exact .engineUp
      · exact .nothing _ rfl fun reads => nomatch reads.1
  | others =>
      rw [Availability.step]
      split
      · exact .others
      · exact .nothing _ rfl fun reads => nomatch reads.1
  | takes =>
      rw [Availability.step]
      split
      · rename_i waiting
        exact .takesReinit _ _ waiting (.inl rfl)
      · rename_i waiting
        exact .takesReinit _ _ waiting (.inr rfl)
      · rename_i waiting
        exact .takesEnable _ _ _ waiting
      · rename_i waiting
        exact .takesOther _ waiting
      · exact .nothing _ rfl fun reads => nomatch reads.1
  | reinitReads =>
      rw [Availability.step]
      cases engine : s.engine with
      | reinit => exact .reinitReads engine
      | idle | sending =>
          refine .nothing _ rfl fun reads => ?_
          rw [Reads, engine] at reads
          cases reads.2
  | reinitSends =>
      rw [Availability.step]
      cases engine : s.engine with
      | sending => exact .reinitSends _ engine
      | idle | reinit => exact .nothing _ rfl fun reads => nomatch reads.1

/-! ## What is kept -/

theorem DataKept.frame {s' : Availability} (kept : DataKept ts s) (unreported : reported t = none)
    (unread : ¬ Reads t) (status : s'.agpsStatus = s.agpsStatus)
    (framework : ∀ available apn, s'.framework = .updating available apn →
      s.framework = .updating available apn)
    (current : Underway s ∨ (∃ enable, toBeGiven ts s = some enable ∧
        (enable = s.agpsStatus ∨ enable = agpsCopy s.agpsStatus)) →
      Outdated (ts ++ [t]) ∨ Underway s' ∨ ∃ enable, toBeGiven (ts ++ [t]) s' = some enable ∧
        (enable = s.agpsStatus ∨ enable = agpsCopy s.agpsStatus)) :
    DataKept (ts ++ [t]) s' := by
  have quiet : ¬ Reports t := by
    rw [Reports, unreported]
    nofun
  refine ⟨?_, fun available apn updating => ?_, ?_⟩
  · rw [lastReported_snoc, unreported, status]
    exact kept.status
  · rw [status]
    exact kept.updating available apn (framework available apn updating)
  · rw [status]
    rcases kept.current with unposted | outdated | now
    · exact .inl (unposted_snoc unposted quiet unread)
    · exact .inr (.inl (outdated_snoc outdated quiet unread))
    · exact .inr (current now)

/-- If nothing ends what is underway, the messages sent do not set anything. -/
theorem DataKept.sends {s' : Availability} {sent : List DataMsg} (kept : DataKept ts s)
    (unreported : reported t = none) (unread : ¬ Reads t) (outputs : t.outputs = [])
    (status : s'.agpsStatus = s.agpsStatus) (created : s'.created = s.created)
    (framework : s'.framework = s.framework ∨
      s'.framework = .idle ∧ ∃ available, s.framework = .updating available none)
    (engine : s'.engine = s.engine) (msgs : s'.msgs = s.msgs ++ sent)
    (silent : ∀ msg ∈ sent, enableSent msg = none) : DataKept (ts ++ [t]) s' := by
  apply kept.frame unreported unread status
  · intro available apn updating
    rcases framework with same | ⟨idle, -⟩
    · exact same.symm.trans updating
    · cases idle.symm.trans updating
  · rintro (underway | given)
    · refine .inr (.inl ?_)
      cases underway with
      | uncreated uncreated => exact .uncreated (created.trans uncreated)
      | initialising initialising =>
          rcases framework with same | ⟨-, available, updating⟩
          · exact .initialising (same.trans initialising)
          · rw [initialising] at updating
            cases updating
      | updating available apn updating =>
          rcases framework with same | ⟨-, available', updating'⟩
          · exact .updating available apn (same.trans updating)
          · rw [updating] at updating'
            cases updating'
      | waiting msg member reads =>
          exact .waiting msg (by simp [msgs, member]) reads
      | reinit reinit => exact .reinit (engine.trans reinit)
      | sending sending => exact .sending (by rw [engine, sending, status])
    · refine .inr (.inr ?_)
      rw [toBeGiven_sent outputs msgs, lastWrite_eq_none.mpr silent]
      exact given

theorem DataKept.takes {msg : DataMsg} {msgs : List DataMsg} {outs : List DataEffect}
    (kept : DataKept ts s) (waiting : s.msgs = msg :: msgs) (notInit : msg ≠ .init)
    (notUp : msg ≠ .up) (given : lastWrite enabled outs = enableSent msg) :
    DataKept (ts ++ [⟨s, .takes, outs, { s with msgs }⟩]) { s with msgs } := by
  refine kept.frame rfl (fun reads => nomatch reads.1) rfl (fun _ _ same => same) ?_
  rintro (underway | set)
  · exact .inr (.inl (underway.taken waiting notInit notUp))
  · refine .inr (.inr ?_)
    rw [toBeGiven_taken waiting given]
    exact set

theorem DataKept.step {s' : Availability} {outs : List DataEffect} (kept : DataKept ts s)
    (moves : Moves s e s' outs) : DataKept (ts ++ [⟨s, e, outs, s'⟩]) s' := by
  cases moves with
  | nothing e unreported unread =>
      exact kept.sends unreported unread rfl rfl rfl (.inl rfl) rfl (List.append_nil _).symm
        (List.forall_mem_nil _)
  | update available apn framework =>
      have now : reported ⟨s, .update available apn, [], { s with
          agpsStatus := available, framework := .updating available apn }⟩ = some available := by
        simp [reported, framework]
      refine ⟨?_, ?_, ?_⟩
      · rw [lastReported_snoc, now]
        rfl
      · rintro available' apn' ⟨⟩
        rfl
      · rcases Bool.eq_false_or_eq_true s.created with created | created
        · cases apn with
          | none =>
              refine .inl ⟨ts, _, [], available, rfl, rfl, created, framework, ?_⟩
              exact List.forall_mem_nil _
          | some apn => exact .inr (.inr (.inl (.updating available apn rfl)))
        · exact .inr (.inr (.inl (.uncreated created)))
  | updateSends available apn framework =>
      have same := kept.updating available apn framework
      -- before the engine is initialised nothing is sent, and its initialisation will send it
      rcases Bool.eq_false_or_eq_true s.created with created | created
      · rw [if_pos created]
        cases apn with
        | none =>
            exact kept.sends rfl (fun reads => nomatch reads.1) rfl rfl rfl
              (.inr ⟨rfl, available, framework⟩) rfl rfl (List.forall_mem_nil _)
        | some apn =>
            refine kept.frame rfl (fun reads => nomatch reads.1) rfl nofun fun _ => ?_
            refine .inr (.inr ⟨available, ?_, .inl same⟩)
            rw [toBeGiven_sent rfl rfl]
            rfl
      · refine kept.frame rfl (fun reads => nomatch reads.1) rfl nofun fun _ => ?_
        exact .inr (.inl (.uncreated created))
  | init framework created =>
      refine kept.frame rfl (fun reads => nomatch reads.1) rfl nofun fun _ => ?_
      exact .inr (.inl (.initialising rfl))
  | initSends framework =>
      refine kept.frame rfl (fun reads => nomatch reads.1) rfl nofun fun _ => ?_
      exact .inr (.inl (.waiting .init (by simp) (.inl rfl)))
  | engineUp =>
      refine kept.frame rfl (fun reads => nomatch reads.1) rfl (fun _ _ same => same) ?_
      exact fun _ => .inr (.inl (.waiting .up (by simp) (.inr rfl)))
  | others =>
      exact kept.sends rfl (fun reads => nomatch reads.1) rfl rfl rfl (.inl rfl) rfl rfl
        (by simp [enableSent])
  | takesReinit msg msgs waiting reads =>
      refine kept.frame rfl (fun reads => nomatch reads.1) rfl (fun _ _ same => same) ?_
      exact fun _ => .inr (.inl (.reinit rfl))
  | takesEnable enable apn msgs waiting =>
      apply kept.takes waiting (by simp) (by simp)
      cases apn <;> rfl
  | takesOther msgs waiting =>
      exact kept.takes waiting (by simp) (by simp) rfl
  | reinitReads engine =>
      refine ⟨?_, kept.updating, .inr (.inr (.inl (.sending rfl)))⟩
      rw [lastReported_snoc]
      exact kept.status
  | reinitSends enable engine =>
      refine kept.frame rfl (fun reads => nomatch reads.1) rfl (fun _ _ same => same) ?_
      intro _
      -- the status may have changed since it was read, and then its own message is to come
      by_cases fresh : enable = agpsCopy s.agpsStatus
      · refine .inr (.inr ⟨enable, ?_, .inr fresh⟩)
        rw [toBeGiven_sent rfl rfl]
        rfl
      · by_cases updating : ∃ available apn, s.framework = .updating available (some apn)
        · obtain ⟨available, apn, updating⟩ := updating
          exact .inr (.inl (.updating available apn updating))
        · refine .inl ⟨ts, _, [], enable, rfl, rfl, engine, fresh, ?_, List.forall_mem_nil _⟩
          exact fun available apn same => updating ⟨available, apn, same⟩

theorem run_dataKept (steps : List DataStep) :
    DataKept (trace Availability.step .initial steps) (final Availability.step .initial steps) := by
  have initial : DataKept [] .initial := ⟨rfl, nofun, .inr (.inr (.inl (.uncreated rfl)))⟩
  exact @history_invariant Availability DataStep DataEffect Availability.step DataKept
    (fun _ => True) (fun _ _ _ kept _ => kept.step step_moves) .initial steps initial
    fun _ _ => trivial

theorem atRest_settled (rest : AtRest s) : ¬ Underway s := by
  intro underway
  cases underway with
  | uncreated uncreated => exact Bool.false_ne_true (uncreated.symm.trans rest.created)
  | initialising initialising => cases initialising.symm.trans rest.framework
  | updating available apn updating => cases updating.symm.trans rest.framework
  | waiting msg member =>
      rw [rest.msgs] at member
      cases member
  | reinit reinit => cases reinit.symm.trans rest.engine
  | sending sending => cases sending.symm.trans rest.engine

/-- At rest, the modem was given the availability that was reported last, or 0 or 1 for it, unless
that report came without an access point; nothing is said of outdated copies. -/
theorem availability_kept {steps : List DataStep}
    (rest : AtRest (final Availability.step .initial steps))
    (posted : ¬ Unposted (trace Availability.step .initial steps))
    (fresh : ¬ Outdated (trace Availability.step .initial steps)) :
    ∃ enable, lastWrite enabled (outputs Availability.step .initial steps) = some enable ∧
      (enable = lastReported (trace Availability.step .initial steps) ∨
        enable = agpsCopy (lastReported (trace Availability.step .initial steps))) := by
  have kept := run_dataKept steps
  rcases kept.current with unposted | outdated | underway | ⟨enable, given, agrees⟩
  · exact absurd unposted posted
  · exact absurd outdated fresh
  · exact absurd underway (atRest_settled rest)
  · rw [toBeGiven, rest.msgs] at given
    rw [kept.status] at agrees
    exact ⟨enable, given, agrees⟩

def availableAfterInit (apn : Option CString) : List DataStep :=
  [.init, .initSends, .takes, .reinitReads, .reinitSends, .takes, .update 1 apn, .updateSends,
    .takes]

theorem availability_kept_apn :
    ∃ enable, lastWrite enabled (outputs Availability.step .initial
        (availableAfterInit (some ['a']))) = some enable ∧
      (enable = lastReported (trace Availability.step .initial (availableAfterInit (some ['a']))) ∨
        enable = agpsCopy
          (lastReported (trace Availability.step .initial (availableAfterInit (some ['a']))))) := by
  apply availability_kept
  · exact ⟨by decide, by decide, by decide, by decide⟩
  · rintro ⟨before, t, after, available, split, event, -⟩
    have member : t.event ∈ availableAfterInit (some ['a']) := by
      apply event_mem_of_mem
      rw [split]
      simp
    rw [event] at member
    simp [availableAfterInit] at member
  · rintro ⟨before, t, after, enable, split, event, engine, old, -⟩
    have sent : ∀ t ∈ trace Availability.step .initial (availableAfterInit (some ['a'])),
        t.event = .reinitSends → t.before.engine = .sending (agpsCopy t.before.agpsStatus) := by
      decide
    have now := sent t (by rw [split]; simp) event
    rw [engine] at now
    exact old (EngineAt.sending.inj now)

/-- Without an access point the modem is not told. -/
theorem unavailable_without_apn :
    AtRest (final Availability.step .initial (availableAfterInit none)) ∧
      lastWrite enabled (outputs Availability.step .initial (availableAfterInit none)) = some 0 ∧
      lastReported (trace Availability.step .initial (availableAfterInit none)) = 1 :=
  ⟨⟨by decide, by decide, by decide, by decide⟩, by decide, by decide⟩

end VibeXperia.Proof.Gps
