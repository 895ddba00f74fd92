import VibeXperia.Agps.Identity
import VibeXperia.Proof.Agps.Sharing

namespace VibeXperia.Proof.Agps
open VibeXperia.Agps VibeXperia.Lib

/-! ## `strncmp` on addresses -/

section Addresses
variable {a b : List UInt8} {x y : UInt8}

theorem differBeforeNul_cons : differBeforeNul (x :: a) (y :: b) ↔
    x ≠ y ∨ x ≠ 0 ∧ differBeforeNul a b := by
  constructor
  · rintro ⟨i, differ, before⟩
    cases i with
    | zero => exact .inl (by simpa using differ)
    | succ i =>
        refine .inr ⟨by simpa using before 0 (Nat.succ_pos i), i, by simpa using differ, ?_⟩
        intro j small
        simpa using before (j + 1) (Nat.succ_lt_succ small)
  · rintro (differ | ⟨nonzero, i, differ, before⟩)
    · exact ⟨0, by simpa using differ, by simp⟩
    · refine ⟨i + 1, by simpa using differ, fun j small => ?_⟩
      cases j with
      | zero => simpa using nonzero
      | succ j => simpa using before j (Nat.lt_of_succ_lt_succ small)

theorem takeWhile_ne_iff (same : a.length = b.length) :
    a.takeWhile (· ≠ 0) ≠ b.takeWhile (· ≠ 0) ↔ differBeforeNul a b := by
  induction a generalizing b with
  | nil =>
      obtain rfl : b = [] := List.eq_nil_of_length_eq_zero same.symm
      simp [differBeforeNul]
  | cons x a ih =>
      cases b with
      | nil => cases same
      | cons y b =>
          rw [differBeforeNul_cons, ← ih (by simpa using same)]
          by_cases differ : x = y
          · subst differ
            by_cases zero : x = 0 <;> simp [zero]
          · by_cases zero : x = 0
            · have other : y ≠ 0 := fun h => differ (zero.trans h.symm)
              simp [zero, other, Ne.symm other]
            · by_cases last : y = 0 <;> simp [zero, last, differ]

theorem strncmpEqual_iff (first : a.length = 16) (second : b.length = 16) :
    strncmpEqual a b 16 = true ↔ ¬ differBeforeNul a b := by
  rw [← takeWhile_ne_iff (first.trans second.symm), not_ne_iff, strncmpEqual, beq_iff_eq,
    List.take_of_length_le (Nat.le_of_eq first), List.take_of_length_le (Nat.le_of_eq second)]

theorem not_differBeforeNul_self : ¬ differBeforeNul a a := by
  rintro ⟨i, differ, -⟩
  exact differ rfl

end Addresses

/-! ## Clients -/

section Same
variable {c d e : Subscriber}

theorem sameClient_self (client : c.isAgpsClient) : SameClient c c := by
  cases c with
  | bit => exact ⟨rfl, fun _ => rfl⟩
  | atl => exact rfl
  | _ => exact client

theorem sameClient_symm (same : SameClient c d) : SameClient d c := by
  cases c <;> cases d <;> try exact same
  · exact ⟨same.1.symm, fun none => (same.2 (same.1.trans none)).symm⟩
  · exact Eq.symm same

theorem sameClient_trans (first : SameClient c d) (second : SameClient d e) : SameClient c e := by
  cases c <;> cases d <;> try exact first.elim
  · cases e <;> try exact second
    exact ⟨first.1.trans second.1,
      fun none => (first.2 none).trans (second.2 (first.1.symm.trans none))⟩
  · cases e <;> try exact second
    exact Eq.trans first second

theorem immediate_of_client (client : c.isAgpsClient) : Immediate c := by
  cases c with
  | bit => exact .inr rfl
  | atl => exact .inl rfl
  | _ => exact client.elim

theorem equals_of_distinguished (first : c.isAgpsClient) (second : d.isAgpsClient)
    (told : Distinguished c d) : c.equals d = true ↔ SameClient c d := by
  cases c with
  | bit ID mIPv6Addr =>
      cases d with
      | bit ID' mIPv6Addr' =>
          simp only [Subscriber.equals, Subscriber.ID, Subscriber.mIPv6Addr, SameClient,
            Bool.and_eq_true, Bool.or_eq_true, beq_iff_eq, bne_iff_ne, strncmpEqual_iff first second]
          refine and_congr_right fun same => ?_
          subst same
          constructor
          · rintro (other | equal) none
            · exact absurd none.symm other
            · by_contra differ
              exact equal (told none none differ)
          · intro equal
            by_cases none : ID = INADDR_NONE
            · exact .inr (equal none ▸ not_differBeforeNul_self)
            · exact .inl (Ne.symm none)
      | atl ID' mode =>
          have other : ¬ ID = ID' := told
          simp [Subscriber.equals, Subscriber.ID, SameClient, other]
      | _ => exact second.elim
  | atl ID mode =>
      cases d with
      | bit ID' mIPv6Addr' =>
          have other : ¬ ID = ID' := told
          simp [Subscriber.equals, Subscriber.ID, SameClient, other]
      | atl ID' mode' => simp [Subscriber.equals, Subscriber.ID, SameClient]
      | _ => exact second.elim
  | _ => exact first.elim

theorem confused_of_not_distinguished (first : c.isAgpsClient) (second : d.isAgpsClient)
    (confused : ¬ Distinguished c d) :
    ¬ SameClient c d ∧ (c.equals d = true ∨ d.equals c = true) := by
  cases c with
  | bit ID mIPv6Addr =>
      cases d with
      | bit ID' mIPv6Addr' =>
          simp only [Distinguished, not_forall] at confused
          obtain ⟨rfl, rfl, differ, unseen⟩ := confused
          refine ⟨fun same => differ (same.2 rfl), .inl ?_⟩
          simpa [Subscriber.equals, Subscriber.ID, Subscriber.mIPv6Addr] using
            (strncmpEqual_iff first second).mpr unseen
      | atl ID' mode =>
          have same : ID = ID' := not_not.mp confused
          exact ⟨id, .inr (by simp [Subscriber.equals, Subscriber.ID, same])⟩
      | _ => exact second.elim
  | atl ID mode =>
      cases d with
      | bit ID' mIPv6Addr' =>
          have same : ID = ID' := not_not.mp confused
          exact ⟨id, .inl (by simp [Subscriber.equals, Subscriber.ID, same])⟩
      | atl => exact absurd trivial confused
      | _ => exact second.elim
  | _ => exact first.elim

end Same

/-! ## Runs -/

structure IdentityInv (clients : Set AgpsClient) (m : AgpsStateMachine) : Prop where
  machine : ClientMachine m
  known : ∀ s ∈ m.mSubscribers, ∃ c ∈ clients, c.val = s
  separate : m.mSubscribers.Pairwise fun s s' => ¬ SameClient s s'

section Runs
variable {clients : Set AgpsClient} {t : AgpsTransition}

theorem fromClients_of_known {msg : AgpsMsg} (client : ∀ r ∈ msg.client, ∃ c ∈ clients, c.val = r) :
    FromClients msg := by
  intro r asks
  obtain ⟨c, -, rfl⟩ := client r asks
  exact immediate_of_client c.property

theorem equals_known (told : ∀ c ∈ clients, ∀ d ∈ clients, Distinguished c.val d.val)
    {s r : Subscriber} (first : ∃ c ∈ clients, c.val = s) (second : ∃ c ∈ clients, c.val = r) :
    s.equals r = true ↔ SameClient s r := by
  obtain ⟨c, inside, rfl⟩ := first
  obtain ⟨d, member, rfl⟩ := second
  exact equals_of_distinguished c.property d.property (told c inside d member)

theorem enlist_separate (told : ∀ c ∈ clients, ∀ d ∈ clients, Distinguished c.val d.val)
    {s : Subscriber} {list : List Subscriber} (mine : ∃ c ∈ clients, c.val = s)
    (known : ∀ e ∈ list, ∃ c ∈ clients, c.val = e) (clone : s.clone = s)
    (separate : list.Pairwise fun s s' => ¬ SameClient s s') :
    (enlist s list).Pairwise (fun s s' => ¬ SameClient s s') ∧
      ∃ e ∈ enlist s list, SameClient e s := by
  unfold enlist
  split_ifs with present
  · obtain ⟨e, member, matched⟩ := List.any_eq_true.mp present
    exact ⟨separate, e, member, (equals_known told (known e member) mine).mp matched⟩
  · rw [clone]
    obtain ⟨c, inside, rfl⟩ := id mine
    refine ⟨List.pairwise_cons.mpr ⟨fun e member same => present ?_, separate⟩, c.val, by simp,
      sameClient_self c.property⟩
    have equal := (equals_known told (known e member) mine).mpr (sameClient_symm same)
    exact List.any_eq_true.mpr ⟨e, member, equal⟩

theorem identity_step (told : ∀ c ∈ clients, ∀ d ∈ clients, Distinguished c.val d.val)
    (h : IdentityInv clients t.before) (client : ∀ r ∈ t.event.client, ∃ c ∈ clients, c.val = r)
    (step : ClientStep t.before t.event t.after t.outputs) :
    IdentityInv clients t.after ∧ Identified t := by
  have fromClients := fromClients_of_known client
  have machine := machine_step h.machine fromClients step
  have known := clients_step fromClients h.known client step
  have addressed : ∀ r ∈ t.event.client, ∀ s ∈ t.before.mSubscribers,
      s.equals r = true ↔ SameClient s r :=
    fun r asks s member => equals_known told (h.known s member) (client r asks)
  have removed {s c : Subscriber} (asks : t.event = .unsubscribe s)
      (member : c ∈ t.before.mSubscribers) (same : c.equals s = true) :
      (t.before.mSubscribers.filter fun e => !e.equals c) =
        t.before.mSubscribers.filter fun e => ¬ SameClient e s := by
    have mine := (addressed s (by simp [asks, AgpsMsg.client]) c member).mp same
    apply List.filter_congr
    intro e inside
    have equal := equals_known told (h.known e inside) (h.known c member)
    have both : SameClient e c ↔ SameClient e s :=
      ⟨fun first => sameClient_trans first mine,
        fun first => sameClient_trans first (sameClient_symm mine)⟩
    rw [Bool.eq_iff_iff]
    simpa using not_congr (equal.trans both)
  obtain ⟨m, event, outputs, after⟩ := t
  dsimp only at *
  have result (separate : after.mSubscribers.Pairwise fun s s' => ¬ SameClient s s')
      (entered : ∀ r, event = .subscribe r → ∃ s ∈ after.mSubscribers, SameClient s r)
      (left : ∀ r, event = .unsubscribe r →
        after.mSubscribers = m.mSubscribers.filter fun s => ¬ SameClient s r) :
      IdentityInv clients after ∧ Identified ⟨m, event, outputs, after⟩ :=
    ⟨⟨machine, known, separate⟩, addressed, separate, entered, left⟩
  cases step with
  | ask s idle =>
      obtain ⟨c, -, rfl⟩ := client s rfl
      apply result (by simp) _ (by simp)
      rintro r ⟨⟩
      exact ⟨c.val, by simp, sameClient_self c.property⟩
  | join s | share s =>
      obtain ⟨separate, entered⟩ := enlist_separate told (client s rfl) h.known
        (fromClients s rfl).clone h.separate
      apply result separate _ (by simp)
      rintro r ⟨⟩
      exact entered
  | stranger s unknown =>
      apply result h.separate (by simp)
      rintro r ⟨⟩
      symm
      apply List.filter_eq_self.mpr
      intro e member
      have other := addressed s rfl e member
      rw [unknown e member] at other
      simpa using other
  | leave s c member same others =>
      apply result (h.separate.sublist List.filter_sublist) (by simp)
      rintro r ⟨⟩
      exact removed rfl member same
  | quit s c member same last =>
      apply result (by simp) (by simp)
      rintro r ⟨⟩
      exact last.symm.trans (removed rfl member same)
  | lose | refuse => exact result (by simp) (by simp) (by simp)
  | grant | late | nothingLost | nothingRefused => exact result h.separate (by simp) (by simp)

theorem confused_run {c d : AgpsClient} (mType : Int) (other : ¬ SameClient c.val d.val)
    (addressed : c.val.equals d.val = true) :
    ¬ ∀ t ∈ trace AgpsStateMachine.proc (.new mType false) [.subscribe c.val, .subscribe d.val],
      Identified t := by
  intro all
  have fresh := new_machine mType
  have first := proc_subscribe fresh (immediate_of_client c.property)
  have second := (all (react AgpsStateMachine.proc
    (final AgpsStateMachine.proc (.new mType false) [.subscribe c.val]) (.subscribe d.val))
    (by simp)).addressed d.val rfl c.val
  apply other
  apply (second _).mp addressed
  show c.val ∈ ((AgpsStateMachine.new mType false).proc (.subscribe c.val)).1.mSubscribers
  rw [first]
  simp [AgpsStateMachine.new]

end Runs

/-- The clients of a machine of ATL and BIT clients are told apart, in every run of their requests
and of the framework's reports, exactly when each two of them are distinguished. -/
theorem identified_iff_distinguished (clients : Set AgpsClient) (mType : Int) :
    (∀ es, FromSet clients es →
      ∀ t ∈ trace AgpsStateMachine.proc (.new mType false) es, Identified t) ↔
      ∀ c ∈ clients, ∀ d ∈ clients, Distinguished c.val d.val := by
  constructor
  · intro all c inside d member
    by_contra confused
    obtain ⟨other, addressed⟩ := confused_of_not_distinguished c.property d.property confused
    have fromSet {c d : AgpsClient} (inside : c ∈ clients) (member : d ∈ clients) :
        FromSet clients [.subscribe c.val, .subscribe d.val] := by
      rintro e asks r same
      simp only [List.mem_cons, List.not_mem_nil, or_false] at asks
      rcases asks with rfl | rfl
      · exact ⟨c, inside, Option.some.inj same⟩
      · exact ⟨d, member, Option.some.inj same⟩
    rcases addressed with addressed | addressed
    · exact confused_run mType other addressed (all _ (fromSet inside member))
    · exact confused_run mType (fun same => other (sameClient_symm same)) addressed
        (all _ (fromSet member inside))
  · intro told es fromSet t member
    have allowed : ∀ t ∈ trace AgpsStateMachine.proc (.new mType false) es,
        ∀ r ∈ t.event.client, ∃ c ∈ clients, c.val = r :=
      fun t member => fromSet t.event (event_mem_of_mem member)
    have step (m : AgpsStateMachine) (e : AgpsMsg) (h : IdentityInv clients m)
        (client : ∀ r ∈ e.client, ∃ c ∈ clients, c.val = r) :
        IdentityInv clients (m.proc e).1 ∧ Identified (react AgpsStateMachine.proc m e) :=
      @identity_step clients (react AgpsStateMachine.proc m e) told h client
        (proc_step h.machine (fromClients_of_known client))
    have start : IdentityInv clients (.new mType false) :=
      ⟨new_machine mType, by simp [AgpsStateMachine.new], by simp [AgpsStateMachine.new]⟩
    obtain ⟨-, inside⟩ := invariant_of_allowed (fun m e h client => (step m e h client).1) start
      allowed
    rw [eq_react_of_mem member]
    exact (step _ _ (inside t member).1 (allowed t member)).2

def linkLocal (host : UInt8) : AgpsClient :=
  ⟨.bit INADDR_NONE (0xfe :: 0x80 :: List.replicate 13 0 ++ [host]), by
    simp [Subscriber.isAgpsClient]⟩

theorem link_local_confused :
    ¬ ∀ t ∈ trace AgpsStateMachine.proc (.new AGPS_TYPE_WWAN_ANY false)
        [.subscribe (linkLocal 1).val, .subscribe (linkLocal 2).val], Identified t :=
  confused_run AGPS_TYPE_WWAN_ANY (by decide) (by decide)

end VibeXperia.Proof.Agps
