import Mathlib.Data.List.Induction
import Mathlib.Data.List.Perm.Subperm
import VibeXperia.Sensord.Clients

namespace VibeXperia.Proof.Sensord
open Lib VibeXperia.Sensord

/-! ## The lists -/

section UtilMisc
variable {α : Type} [DecidableEq α] {next : α → Option α} {head cur : Option α} {l l₁ l₂ : List α}
variable {nod : α} {fuel : Nat}

theorem listFindNode_chain (chain : Chain next head l) (enough : l.length < fuel) :
    listFindNode next nod fuel head = some (if nod ∈ l then some nod else none) := by
  induction chain generalizing fuel with
  | nil =>
      cases fuel with
      | zero => cases enough
      | succ fuel => rfl
  | @cons a l rest ih =>
      cases fuel with
      | zero => cases enough
      | succ fuel =>
          rw [listFindNode]
          by_cases same : a = nod
          · rw [if_pos same, same, if_pos List.mem_cons_self]
          · rw [if_neg same, ih (Nat.lt_of_succ_lt_succ enough)]
            simp [Ne.symm same]

def Deleted (next : α → Option α) (l : List α) (nod : α)
    (result : Option (Option α × (α → Option α))) : Prop :=
  ∃ head' next', result = some (head', next') ∧ Chain next' head' (l.erase nod) ∧
    ∀ a ∉ l, next' a = next a

theorem listDelLoop_found {prev : Option α} (whole : Chain next head (l₁ ++ nod :: l₂))
    (before : prev = l₁.getLast?) :
    Deleted next (l₁ ++ nod :: l₂) nod
      (listDelLoop next head nod (fuel + 1) (some nod) prev) := by
  have distinct := whole.nodup
  rw [listDelLoop, if_pos rfl]
  cases l₁ using List.reverseRecOn with
  | nil =>
      obtain rfl : prev = none := before
      rw [List.nil_append, chain_cons] at whole
      refine ⟨next nod, next, ?_, ?_, fun _ _ => rfl⟩
      · simp [whole.1]
      · simpa using whole.2
  | append_singleton l₁ p =>
      obtain rfl : prev = some p := by simpa using before
      have other : head ≠ some nod := by
        rw [whole.head_eq]
        rintro first
        have := List.disjoint_of_nodup_append distinct (List.mem_of_mem_head? (by simpa using first))
        simp at this
      have absent : nod ∉ l₁ ++ [p] := fun inside =>
        List.disjoint_of_nodup_append distinct inside List.mem_cons_self
      refine ⟨head, Function.update next p (next nod), ?_, ?_, ?_⟩
      · simp [other.symm]
      · rw [List.erase_append_right _ absent, List.erase_cons_head, List.append_assoc]
        rw [List.append_assoc] at whole
        exact whole.unlink
      · intro a outside
        apply Function.update_of_ne
        rintro rfl
        simp at outside

theorem listDelLoop_chain {prev : Option α} (whole : Chain next head (l₁ ++ l₂))
    (rest : Chain next cur l₂) (before : prev = l₁.getLast?) (passed : nod ∉ l₁)
    (enough : l₂.length < fuel) :
    Deleted next (l₁ ++ l₂) nod (listDelLoop next head nod fuel cur prev) := by
  induction l₂ generalizing l₁ cur prev fuel with
  | nil =>
      cases fuel with
      | zero => cases enough
      | succ fuel =>
          rw [chain_nil] at rest
          rw [rest]
          refine ⟨head, next, rfl, ?_, fun _ _ => rfl⟩
          rwa [List.append_nil, List.erase_of_not_mem passed, ← List.append_nil l₁]
  | cons a l₂ ih =>
      cases fuel with
      | zero => cases enough
      | succ fuel =>
          rw [chain_cons] at rest
          obtain ⟨rfl, rest⟩ := rest
          by_cases same : a = nod
          · subst same
            exact listDelLoop_found whole before
          · rw [listDelLoop, if_neg same]
            have later := @ih (next a) (l₁ ++ [a]) fuel (some a) (by simpa using whole) rest
              (by simp) (by simp [passed, Ne.symm same]) (Nat.lt_of_succ_lt_succ enough)
            simpa using later

theorem listDelNode_chain (chain : Chain next head l) (enough : l.length < fuel) :
    Deleted next l nod (listDelNode fuel next head nod) :=
  @listDelLoop_chain _ _ next head head [] l nod fuel none chain chain rfl List.not_mem_nil enough

end UtilMisc

variable {α π δ : Type} [DecidableEq π] {table : ChannelTable α π δ} {fuel : Nat}
variable {s : Clients α π} {p : π} {ch : α} {state : ChannelState}

/-! ## Commands -/

theorem length_le_registered {l : List α} (distinct : l.Nodup)
    (served : ∀ ch ∈ l, table.sp ch = some p) : l.length ≤ table.registered p := by
  rw [ChannelTable.registered, List.countP_eq_length_filter]
  apply List.Subperm.length_le
  apply List.subperm_of_subset distinct
  intro ch member
  rw [List.mem_filter]
  exact ⟨table.listed ch p (served ch member), by simp [served ch member]⟩

def ListedAt (table : ChannelTable α π δ) (s : Clients α π) (p : π) (l : List α) : Prop :=
  Chain s.next (s.clients p) l ∧ ∀ ch, ch ∈ l ↔ table.sp ch = some p ∧ s.state ch ≠ .sleep

theorem ListedAt.length {l : List α} (here : ListedAt table s p l) :
    l.length ≤ table.registered p :=
  length_le_registered here.1.nodup fun ch member => ((here.2 ch).mp member).1

theorem ListedAt.walk {l : List α} (here : ListedAt table s p l)
    (enough : table.gListCh.length < fuel) : l.length < fuel :=
  Nat.lt_of_le_of_lt (Nat.le_trans here.length List.countP_le_length) enough

theorem listed_iff : ChannelTable.Listed table s ↔ ∀ p, ∃ l, ListedAt table s p l := by
  apply forall_congr'
  intro p
  apply exists_congr
  intro l
  constructor
  · rintro ⟨chain, -, same⟩
    exact ⟨chain, same⟩
  · rintro ⟨chain, same⟩
    exact ⟨chain, chain.nodup, same⟩

theorem initial_listed : ChannelTable.Listed table ChannelTable.initial := by
  rw [listed_iff]
  intro p
  refine ⟨[], .nil, fun ch => ?_⟩
  simp [ChannelTable.initial]

variable [DecidableEq α]

theorem spEnableCh_wakes (enough : table.gListCh.length < fuel) (listed : ChannelTable.Listed table s)
    (served : table.sp ch = some p) (asleep : s.state ch = .sleep) :
    ∃ s', ChannelTable.spEnableCh fuel p ch true s = some s' ∧ s'.state = s.state ∧
      s'.prevState = s.prevState ∧ ∀ q l, ListedAt table s q l →
        Chain s'.next (s'.clients q) (if q = p then ch :: l else l) := by
  rw [listed_iff] at listed
  obtain ⟨l, here⟩ := listed p
  have absent (q : π) (l : List α) (there : ListedAt table s q l) : ch ∉ l := by
    intro member
    exact ((there.2 ch).mp member).2 asleep
  have found : listFindNode s.next ch fuel (s.clients p) = some none := by
    rw [listFindNode_chain here.1 (here.walk enough), if_neg (absent p l here)]
  refine ⟨⟨listAddHead s.next (s.clients p) ch, Function.update s.clients p (some ch), s.state,
    s.prevState⟩, ?_, rfl, rfl, fun q l there => ?_⟩
  · simp [ChannelTable.spEnableCh, found]
  · by_cases same : q = p
    · subst same
      rw [if_pos rfl]
      dsimp only
      rw [Function.update_self]
      exact there.1.push (absent q l there)
    · rw [if_neg same]
      dsimp only
      rw [Function.update_of_ne same]
      exact there.1.update (absent q l there) _

theorem spEnableCh_sleeps (enough : table.gListCh.length < fuel) (listed : ChannelTable.Listed table s)
    (served : table.sp ch = some p) :
    ∃ s', ChannelTable.spEnableCh fuel p ch false s = some s' ∧ s'.state = s.state ∧
      s'.prevState = s.prevState ∧ ∀ q l, ListedAt table s q l →
        Chain s'.next (s'.clients q) (if q = p then l.erase ch else l) := by
  rw [listed_iff] at listed
  obtain ⟨l, here⟩ := listed p
  obtain ⟨head', next', deleted, chain, frame⟩ := @listDelNode_chain _ _ s.next (s.clients p) l ch
    fuel here.1 (here.walk enough)
  refine ⟨⟨next', Function.update s.clients p head', s.state, s.prevState⟩, ?_, rfl, rfl,
    fun q l' there => ?_⟩
  · simp [ChannelTable.spEnableCh, deleted]
  · by_cases same : q = p
    · subst same
      rw [if_pos rfl, there.1.unique here.1]
      dsimp only
      rw [Function.update_self]
      exact chain
    · rw [if_neg same]
      dsimp only
      rw [Function.update_of_ne same]
      apply there.1.congr
      intro a member
      apply frame
      intro inside
      have both := ((there.2 a).mp member).1.symm.trans ((here.2 a).mp inside).1
      exact same (Option.some.inj both)

theorem spEnableCh_links (enough : table.gListCh.length < fuel)
    (listed : ChannelTable.Listed table s) (served : table.sp ch = some p)
    (switched : ¬ (s.state ch = .sleep ↔ state = .sleep)) :
    ∃ s', ChannelTable.spEnableCh fuel p ch (state ≠ .sleep) s = some s' ∧ s'.state = s.state ∧
      s'.prevState = s.prevState ∧ ∀ q l, ListedAt table s q l → Chain s'.next (s'.clients q)
        (if q = p then if state = .sleep then l.erase ch else ch :: l else l) := by
  by_cases off : state = .sleep
  · simpa [off] using spEnableCh_sleeps enough listed served
  · have asleep : s.state ch = .sleep := by
      by_contra awake
      exact switched ⟨fun asleep => absurd asleep awake, fun asleep => absurd asleep off⟩
    simpa [off] using spEnableCh_wakes enough listed served asleep

def stored (s : Clients α π) (ch : α) (state : ChannelState) : Clients α π :=
  { s with
    prevState := Function.update s.prevState ch (s.state ch)
    state := Function.update s.state ch state }

theorem clients_channelSetState_eq (served : table.sp ch = some p) :
    table.channelSetState fuel s ch state =
      if s.state ch = .sleep ↔ state = .sleep then some (stored s ch state)
      else (ChannelTable.spEnableCh fuel p ch (state ≠ .sleep) s).bind fun s =>
        some (stored s ch state) := by
  rw [ChannelTable.channelSetState, served]
  cases state <;> cases before : s.state ch <;> simp [before, stored]

theorem channelSetState_listed (enough : table.gListCh.length < fuel)
    (listed : ChannelTable.Listed table s) (ch : α) (state : ChannelState) :
    ∃ s', table.channelSetState fuel s ch state = some s' ∧ ChannelTable.Listed table s' := by
  cases served : table.sp ch with
  | none =>
      refine ⟨s, ?_, listed⟩
      rw [ChannelTable.channelSetState, served]
  | some p =>
      rw [clients_channelSetState_eq served]
      by_cases same : s.state ch = .sleep ↔ state = .sleep
      · rw [if_pos same]
        refine ⟨_, rfl, ?_⟩
        rw [listed_iff] at listed ⊢
        intro q
        obtain ⟨l, chain, members⟩ := listed q
        refine ⟨l, chain, fun other => ?_⟩
        rw [members]
        by_cases changed : other = ch
        · simp [stored, changed, same]
        · simp [stored, changed]
      · rw [if_neg same]
        obtain ⟨s', switched, state', -, chains⟩ := spEnableCh_links enough listed served same
        refine ⟨stored s' ch state, by rw [switched]; rfl, ?_⟩
        rw [listed_iff] at listed ⊢
        intro q
        obtain ⟨l, here⟩ := listed q
        refine ⟨_, chains q l here, fun other => ?_⟩
        have members := here.2 other
        have distinct := here.1.nodup
        by_cases changed : other = ch
        · subst changed
          by_cases atHome : q = p
          · by_cases off : state = .sleep
            · simp [stored, atHome, off, distinct.mem_erase_iff]
            · simp [stored, atHome, off, served]
          · have elsewhere : ¬ table.sp other = some q := fun served' =>
              atHome (Option.some.inj (served'.symm.trans served))
            simp [stored, atHome, members, elsewhere]
        · have kept : other ∈ (if q = p then if state = .sleep then l.erase ch else ch :: l else l) ↔
              other ∈ l := by
            split_ifs
            · exact List.mem_erase_of_ne changed
            · simp [changed]
            · rfl
          rw [kept, members]
          simp [stored, changed, state']

theorem channelSetStates_listed (enough : table.gListCh.length < fuel)
    (listed : ChannelTable.Listed table s) (changes : List (α × ChannelState)) :
    ∃ s', table.channelSetStates fuel changes s = some s' ∧ ChannelTable.Listed table s' := by
  induction changes generalizing s with
  | nil => exact ⟨s, rfl, listed⟩
  | cons change changes ih =>
      obtain ⟨s', changed, listed'⟩ := channelSetState_listed enough listed change.1 change.2
      obtain ⟨s'', rest, listed''⟩ := ih listed'
      refine ⟨s'', ?_, listed''⟩
      rw [ChannelTable.channelSetStates, List.foldlM_cons, changed]
      exact rest

/-! ## One pass of `re_proc` -/

section ReProc
variable {pass : Pass α δ} {r : Reporting α δ} {seen : List α}

def label (event : Exchange δ) : Int × Nat := (event.sensor, event.type)

/-- What the entries hold when the clients `seen` are behind. -/
structure Progress (table : ChannelTable α π δ) (seen : List α) (r : Reporting α δ) : Prop where
  reported : ∃ reported : List α, reported.Sublist seen ∧ r.n = reported.length ∧
    (List.range r.n).map (fun i => label (r.data i)) =
      reported.map fun ch => (table.handle ch, table.type ch)
  inside : ∀ i ∈ r.given, i < seen.length

theorem reportCh_progress (before : Progress table seen r) (ch : α) :
    Progress table (seen ++ [ch]) (table.reportCh pass s r ch) := by
  obtain ⟨⟨reported, chosen, count, labels⟩, inside⟩ := before
  have few : r.n ≤ seen.length := count ▸ chosen.length_le
  rw [ChannelTable.reportCh]
  split_ifs
  · have atMost := table.getData_le ch (pass.answer ch)
    have given : ∀ i ∈ r.given ++ [r.n], i < (seen ++ [ch]).length := by
      intro i member
      rw [List.length_append, List.length_singleton]
      rcases List.mem_append.mp member with old | new
      · have := inside i old
        omega
      · have := List.mem_singleton.mp new
        omega
    refine ⟨?_, given⟩
    rcases Nat.le_one_iff_eq_zero_or_eq_one.mp (Int.toNat_le.mpr atMost) with none' | one
    · refine ⟨reported, chosen.trans (List.sublist_append_left seen [ch]), ?_, ?_⟩
      · simpa [none'] using count
      · simpa [none', ChannelTable.stamp, show ∀ i, ¬ (r.n ≤ i ∧ i < r.n) by omega] using labels
    · refine ⟨reported ++ [ch], chosen.append (List.Sublist.refl [ch]), ?_, ?_⟩
      · simp [one, count]
      · simp only [one, List.range_succ, List.map_append, ← labels]
        congr 1
        · apply List.map_congr_left
          intro i member
          have old : i < r.n := List.mem_range.mp member
          have other : i ≠ r.n := by omega
          have outside : ¬ (r.n ≤ i ∧ i < r.n + 1) := by omega
          rw [ChannelTable.stamp, if_neg outside, if_pos Nat.one_pos, Function.update_of_ne other]
        · simp [label, ChannelTable.stamp]
  · refine ⟨⟨reported, chosen.trans (List.sublist_append_left seen [ch]), count, labels⟩, ?_⟩
    intro i member
    have := inside i member
    simp
    omega

theorem reportChs_progress (before : Progress table seen r) (l : List α) :
    Progress table (seen ++ l) (l.foldl (table.reportCh pass s) r) := by
  induction l generalizing seen r with
  | nil => simpa using before
  | cons ch l ih =>
      rw [List.append_cons]
      exact ih (reportCh_progress before ch)

theorem reportLoop_chain {cur : Option α} {l : List α} (chain : Chain s.next cur l)
    (enough : l.length < fuel) :
    table.reportLoop pass s fuel cur r = some (l.foldl (table.reportCh pass s) r) := by
  induction chain generalizing fuel r with
  | nil =>
      cases fuel with
      | zero => cases enough
      | succ fuel => rfl
  | cons rest ih =>
      cases fuel with
      | zero => cases enough
      | succ fuel =>
          rw [ChannelTable.reportLoop, List.foldl_cons]
          exact ih (Nat.lt_of_succ_lt_succ enough)

theorem reProc_reported (enough : table.gListCh.length < fuel)
    (listed : ChannelTable.Listed table s) (pass : Pass α δ) (p : π) :
    ∃ events given, table.reProc fuel pass s p = some (events, given) ∧
      ChannelTable.Reported table s p events given := by
  rw [listed_iff] at listed
  obtain ⟨l, here⟩ := listed p
  have walk := @reportLoop_chain _ _ _ _ table fuel s _ pass ⟨0, pass.buf, pass.tsLastEv, []⟩ _ l
    here.1 (here.walk enough)
  have start : Progress table [] (⟨0, pass.buf, pass.tsLastEv, []⟩ : Reporting α δ) :=
    ⟨⟨[], List.Sublist.refl [], rfl, rfl⟩, by simp⟩
  have done := @reportChs_progress _ _ _ _ table s _ pass _ [] start l
  obtain ⟨⟨reported, chosen, count, labels⟩, inside⟩ := done
  rw [List.nil_append] at chosen inside
  refine ⟨_, _, by rw [ChannelTable.reProc, walk]; rfl, fun counted => ⟨?_, ?_⟩, reported, ?_⟩
  · rw [List.length_map, List.length_range, count, ChannelTable.clientNum, Nat.mod_eq_of_lt counted]
    exact Nat.le_trans chosen.length_le here.length
  · intro i member
    rw [ChannelTable.clientNum, Nat.mod_eq_of_lt counted]
    exact Nat.lt_of_lt_of_le (inside i member) here.length
  · refine ⟨chosen.nodup here.1.nodup, ?_, ?_⟩
    · intro ch member
      exact (here.2 ch).mp (chosen.subset member)
    · rw [List.map_map, ← labels]
      rfl

end ReProc

end VibeXperia.Proof.Sensord
