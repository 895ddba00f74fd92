import VibeXperia.Proof.Shims.SortedVector

namespace VibeXperia.Proof.Shims
open VibeXperia.Lib VibeXperia.Shims

/-! ## Merging -/

section Merging
variable {M ι α κ : Type} [Fintype ι] [DecidableEq ι] [LinearOrder κ] {b : SharedBuffers M α}
  {t : Traits α} {look : M → Addr → Option (Block α)} {key : α → κ}
  {doCompare : Option α → Option α → Int} {w w' : Vectors M ι} {i j : ι} {m' : M}
  {v' : VectorImpl} {xs ys : List α} {result : Int}

theorem mergeItems_spec (documented : b.Documented t.mItemSize look) (positive : 0 < t.mItemSize)
    (compares : Compares key doCompare) (other : j ≠ i)
    (left n : Nat) (m : M) (v : VectorImpl) (xs : List α)
    (owned : Owned t look (w.set i m v)) (ys : List α)
    (source : listOf (look m) (w.vector j) = ys.map some) (rest : n + left = ys.length)
    (lists : Lists key (look m) v xs) (small : 2 * (xs.length + left) ≤ sizeMax)
    (call : SortedVectorImpl.mergeItems b t doCompare (w.vector j) left n m v =
      some (result, m', v')) :
    Owned t look (w.set i m' v') ∧ (∀ k, k ≠ i → Untouched (look m) (look m') (w.vector k)) ∧
      ∃ xs', Lists key (look m') v' xs' ∧
        (result = noMemory ∧ StuckMerge key
            (SortedVectorImpl.MergeShort b t doCompare m v (w.vector j) n) (ys.drop n) xs xs' ∨
          result = noError ∧ lookup key xs' = Merged key (ys.drop n) xs) := by
  induction left generalizing n m v xs with
  | zero =>
      cases call
      have none : ys.drop n = [] := List.drop_of_length_le (by omega)
      rw [none]
      exact ⟨owned, fun k apart => set_other w _ _ apart ▸ owned.untouched k, xs, lists,
        .inr ⟨rfl, merged_nil.symm⟩⟩
  | succ left ih =>
      have inside : n < ys.length := by omega
      have mine := owned.held i
      have theirs := owned.held j
      rw [set_self, set_mem] at mine
      rw [set_other w m v other, set_mem] at theirs
      have read : (w.vector j).arrayImpl b m n = some ys[n] := by
        have same : (listOf (look m) (w.vector j))[n]? = (ys.map some)[n]? := by rw [source]
        have count := congrArg List.length source
        rw [length_listOf, List.length_map] at count
        rw [getElem?_listOf, if_pos (by omega), List.getElem?_map, List.getElem?_eq_getElem inside,
          Option.map_some] at same
        rw [arrayImpl_eq documented theirs]
        exact Option.some.inj same
      rw [SortedVectorImpl.mergeItems, read] at call
      cases done : SortedVectorImpl.add b t doCompare m v (some ys[n]) with
      | none =>
          simp only [done] at call
          cases call
      | some result' =>
      obtain ⟨err, m₁, v₁⟩ := result'
      simp only [done] at call
      have count := lists.count
      obtain ⟨moved, xs₁, lists₁, length, spec⟩ :=
        add_spec documented positive mine (by omega) compares lists done
      have moved : Moved t.mItemSize (look (w.set i m v).mem) (look m₁)
          ((w.set i m v).vector i) v₁ := by
        rw [set_self, set_mem]
        exact moved
      obtain ⟨owned₁, others⟩ := owned.moved moved
      have again : (w.set i m v).set i m₁ v₁ = w.set i m₁ v₁ := by
        rw [Vectors.set, Vectors.set, Vectors.set, Function.update_idem]
      rw [again] at owned₁
      have others (k) (apart : k ≠ i) : Untouched (look m) (look m₁) (w.vector k) :=
        set_other w m v apart ▸ others k apart
      rcases spec with ⟨rfl, rfl, short⟩ | ⟨positive', -, added⟩
      · rw [if_pos (by decide)] at call
        cases call
        rw [← count] at short
        exact ⟨owned₁, others, _, lists₁, .inl ⟨rfl, 0, by rw [List.length_drop]; omega,
          ⟨m, v, rfl, short⟩, merged_nil.symm⟩⟩
      · rw [if_neg (by omega)] at call
        have there : listOf (look m₁) (w.vector j) = ys.map some := by
          rw [(others j other).listOf theirs, source]
        obtain ⟨owned', others', xs', lists', spec⟩ :=
          ih (n + 1) m₁ v₁ xs₁ owned₁ there (by omega) lists₁ (by omega) call
        refine ⟨owned', fun k apart => (others k apart).trans (others' k apart), xs', lists', ?_⟩
        rw [List.drop_eq_getElem_cons inside]
        rcases spec with ⟨rfl, c, before, ⟨m₂, v₂, prefix₂, short⟩, merged⟩ | ⟨rfl, merged⟩
        · refine .inl ⟨rfl, c + 1, Nat.succ_lt_succ before, ⟨m₂, v₂, ?_, short⟩, ?_⟩
          · rw [SortedVectorImpl.mergeItems, read]
            simp only [done]
            rw [if_neg (by omega), prefix₂]
          · rw [merged, merged_cons added, List.take_succ_cons]
        · exact .inr ⟨rfl, by rw [merged, merged_cons added]⟩

omit [Fintype ι] in
theorem set_same (w : Vectors M ι) (i : ι) : w.set i w.mem (w.vector i) = w := by
  rw [Vectors.set, Function.update_eq_self]

theorem merge_spec (documented : b.Documented t.mItemSize look) (positive : 0 < t.mItemSize)
    (compares : Compares key doCompare) (owned : Owned t look w) (other : j ≠ i)
    (lists : Lists key (look w.mem) (w.vector i) xs)
    (source : listOf (look w.mem) (w.vector j) = ys.map some)
    (small : 2 * (xs.length + ys.length) ≤ sizeMax)
    (call : SortedVectorImpl.merge b t doCompare w.mem (w.vector i) (w.vector j) =
      some (result, m', v')) :
    Owned t look (w.set i m' v') ∧
      (∀ k, k ≠ i → Untouched (look w.mem) (look m') (w.vector k)) ∧
      ∃ xs', Lists key (look m') v' xs' ∧
        (result = noMemory ∧ StuckMerge key (SortedVectorImpl.MergeShort b t doCompare w.mem
            (w.vector i) (w.vector j) 0) ys xs xs' ∨
          0 ≤ result ∧ lookup key xs' = Merged key ys xs) := by
  have count := congrArg List.length source
  rw [length_listOf, List.length_map] at count
  rw [SortedVectorImpl.merge] at call
  split_ifs at call with any
  · obtain ⟨owned', others, xs', lists', spec⟩ := mergeItems_spec documented positive compares other
      _ 0 w.mem (w.vector i) xs (by rwa [set_same]) ys source (by omega) lists (by omega) call
    refine ⟨owned', others, xs', lists', spec.imp id ?_⟩
    rintro ⟨rfl, merged⟩
    exact ⟨le_rfl, merged⟩
  · obtain rfl : ys = [] := List.length_eq_zero_iff.mp (by omega)
    cases call
    rw [set_same]
    exact ⟨owned, fun k _ => owned.untouched k, xs, lists, .inr ⟨le_rfl, rfl⟩⟩

omit [DecidableEq ι] in
/-- A sorted vector is put in front of the other or behind it where their ends allow it, also where
they are equal, and else merged item by item. -/
theorem mergeSorted_cases (documented : b.Documented t.mItemSize look) (positive : 0 < t.mItemSize)
    (compares : Compares key doCompare) (owned : Owned t look w)
    (lists : Lists key (look w.mem) (w.vector i) xs)
    (theirs : Lists key (look w.mem) (w.vector j) ys)
    (any : ys ≠ []) (some : xs ≠ [])
    (call : SortedVectorImpl.mergeSorted b t doCompare w.mem (w.vector i) (w.vector j) =
      .some (result, m', v')) :
    key (ys.getLast any) ≤ key (xs.head some) ∧
        (w.vector i).insertVectorAt b t w.mem (w.vector j) 0 = .some (result, m', v') ∨
      key (xs.head some) < key (ys.getLast any) ∧ key (xs.getLast some) ≤ key (ys.head any) ∧
        (w.vector i).insertVectorAt b t w.mem (w.vector j) (w.vector i).mCount =
          .some (result, m', v') ∨
      key (xs.head some) < key (ys.getLast any) ∧ key (ys.head any) < key (xs.getLast some) ∧
        SortedVectorImpl.merge b t doCompare w.mem (w.vector i) (w.vector j) =
          .some (result, m', v') := by
  have count := theirs.count
  have length := List.length_pos_iff.mpr any
  rw [SortedVectorImpl.mergeSorted, if_pos (by omega),
    theirs.last documented positive (owned.held j) any, lists.first documented (owned.held i) some,
    theirs.first documented (owned.held j) any,
    lists.last documented positive (owned.held i) some] at call
  have least := greater_iff compares (ys.getLast any) (xs.head some)
  have greatest := (compares (ys.head any) (xs.getLast some)).1
  by_cases front : doCompare (.some (ys.getLast any)) (.some (xs.head some)) ≤ 0
  · rw [if_pos front] at call
    exact .inl ⟨not_lt.mp fun less => by have := least.mpr less; omega, call⟩
  have less := least.mp (by omega)
  rw [if_neg front] at call
  by_cases behind : doCompare (.some (ys.head any)) (.some (xs.getLast some)) ≥ 0
  · rw [if_pos behind] at call
    exact .inr (.inl ⟨less, not_lt.mp fun less => by have := greatest.mpr less; omega, call⟩)
  · rw [if_neg behind] at call
    exact .inr (.inr ⟨less, greatest.mp (by omega), call⟩)

omit [LinearOrder κ] in
theorem endsApart_iff (some : xs ≠ []) (any : ys ≠ []) : EndsApart key xs ys ↔
    key (xs.getLast some) ≠ key (ys.head any) ∧ key (xs.head some) ≠ key (ys.getLast any) := by
  simp [EndsApart, List.getLast?_eq_some_getLast some, List.getLast?_eq_some_getLast any,
    List.head?_eq_some_head some, List.head?_eq_some_head any]

/-- The result has no key twice exactly when the ends differ. -/
theorem mergeSorted_spec (documented : b.Documented t.mItemSize look) (positive : 0 < t.mItemSize)
    (compares : Compares key doCompare) (owned : Owned t look w) (other : j ≠ i)
    (lists : Lists key (look w.mem) (w.vector i) xs)
    (theirs : Lists key (look w.mem) (w.vector j) ys)
    (small : 2 * (xs.length + ys.length) ≤ sizeMax) (some : ys ≠ [] → xs ≠ [])
    (call : SortedVectorImpl.mergeSorted b t doCompare w.mem (w.vector i) (w.vector j) =
      .some (result, m', v')) :
    Owned t look (w.set i m' v') ∧
      (∀ k, k ≠ i → Untouched (look w.mem) (look m') (w.vector k)) ∧
      ∃ zs, listOf (look m') v' = zs.map .some ∧
        (result = noMemory ∧ Keyed key zs ∧
            (zs = xs ∧ b.Short w.mem (w.vector i).mStorage (t.grown (xs.length + ys.length)) ∨
              StuckMerge key (SortedVectorImpl.MergeShort b t doCompare w.mem (w.vector i)
                (w.vector j) 0) ys xs zs) ∨
          0 ≤ result ∧ (Keyed key zs ↔ EndsApart key xs ys) ∧
            (Keyed key zs → lookup key zs = Merged key ys xs)) := by
  have count := lists.count
  have count' := theirs.count
  by_cases any : ys = []
  · subst any
    rw [SortedVectorImpl.mergeSorted, if_neg (by simpa using count')] at call
    cases call
    rw [set_same]
    refine ⟨owned, fun k _ => owned.untouched k, xs, lists.items, .inr ⟨le_rfl, ?_, fun _ => rfl⟩⟩
    exact iff_of_true lists.keyed (by simp [EndsApart])
  rw [merged_keyed theirs.keyed, endsApart_iff (some any) any]
  -- the vector is inserted as a whole
  have whole (index : Nat) (inside : index ≤ xs.length)
      (call : (w.vector i).insertVectorAt b t w.mem (w.vector j) index = .some (result, m', v'))
      (spec : (Keyed key (xs.take index ++ ys ++ xs.drop index) ↔
          key (xs.getLast (some any)) ≠ key (ys.head any) ∧
            key (xs.head (some any)) ≠ key (ys.getLast any)) ∧
        (Keyed key (xs.take index ++ ys ++ xs.drop index) →
          lookup key (xs.take index ++ ys ++ xs.drop index) =
            fun k => (lookup key ys k).or (lookup key xs k))) :
      Owned t look (w.set i m' v') ∧
        (∀ k, k ≠ i → Untouched (look w.mem) (look m') (w.vector k)) ∧
        ∃ zs, listOf (look m') v' = zs.map .some ∧
          (result = noMemory ∧ Keyed key zs ∧
              (zs = xs ∧ b.Short w.mem (w.vector i).mStorage (t.grown (xs.length + ys.length)) ∨
                StuckMerge key (SortedVectorImpl.MergeShort b t doCompare w.mem (w.vector i)
                  (w.vector j) 0) ys xs zs) ∨
            0 ≤ result ∧ (Keyed key zs ↔ key (xs.getLast (some any)) ≠ key (ys.head any) ∧
                key (xs.head (some any)) ≠ key (ys.getLast any)) ∧
              (Keyed key zs → lookup key zs = fun k => (lookup key ys k).or (lookup key xs k))) := by
    obtain ⟨moved, inserted⟩ := owned.insertVectorAt documented positive (by omega) other call
    obtain ⟨owned', others⟩ := owned.moved moved
    rw [Inserted, length_listOf, if_neg (by omega), theirs.items, lists.items] at inserted
    rcases inserted with ⟨rfl, items⟩ | ⟨rfl, items, why⟩
    · exact ⟨owned', others, xs.take index ++ ys ++ xs.drop index, by simp [items],
        .inr ⟨by omega, spec⟩⟩
    · have short := why.resolve_right (by simpa using any)
      rw [List.length_map, count] at short
      exact ⟨owned', others, xs, items, .inl ⟨rfl, lists.keyed, .inl ⟨rfl, short⟩⟩⟩
  rcases mergeSorted_cases documented positive compares owned lists theirs any (some any) call with
    ⟨low, call⟩ | ⟨less, high, call⟩ | ⟨less, more, call⟩
  · apply whole 0 (Nat.zero_le _) call
    simp only [List.take_zero, List.nil_append, List.drop_zero]
    refine ⟨?_, fun _ => lookup_append ys xs⟩
    rw [keyed_append_iff theirs.keyed lists.keyed any (some any)]
    constructor
    · intro less
      have first := theirs.keyed.head_le any (List.getLast_mem any)
      have last := lists.keyed.head_le (some any) (List.getLast_mem (some any))
      exact ⟨((first.trans_lt less).trans_le last).ne', less.ne'⟩
    · exact fun apart => lt_of_le_of_ne low apart.2.symm
  · rw [count] at call
    apply whole xs.length le_rfl call
    rw [List.take_length, List.drop_length, List.append_nil]
    refine ⟨?_, fun keyed => keyed.lookup_append⟩
    rw [keyed_append_iff lists.keyed theirs.keyed (some any) any]
    exact ⟨fun less' => ⟨less'.ne, less.ne⟩, fun apart => lt_of_le_of_ne high apart.1⟩
  · obtain ⟨owned', others, zs, lists', spec⟩ :=
      merge_spec documented positive compares owned other lists theirs.items small call
    refine ⟨owned', others, zs, lists'.items, ?_⟩
    rw [merged_keyed theirs.keyed] at spec
    rcases spec with ⟨rfl, stuck⟩ | ⟨done, merged⟩
    · exact .inl ⟨rfl, lists'.keyed, .inr stuck⟩
    · exact .inr ⟨done, iff_of_true lists'.keyed ⟨more.ne', less.ne⟩, fun _ => merged⟩

structure AllSorted (key : α → κ) (b : SharedBuffers M α) (t : Traits α)
    (look : M → Addr → Option (Block α)) (w : Vectors M ι) : Prop where
  owned : Owned t look w
  lists : ∀ i, Lists key (look w.mem) (w.vector i) (w.items b i)

omit [DecidableEq ι] in
theorem AllSorted.contents (documented : b.Documented t.mItemSize look)
    (sorted : AllSorted key b t look w) :
    w.contents b = fun i => (w.items b i).map some := by
  funext i
  rw [contents_eq documented sorted.owned]
  exact (sorted.lists i).items

omit [Fintype ι] [DecidableEq ι] [LinearOrder κ] in
theorem items_of_contents (contents : w.contents b i = xs.map some) : w.items b i = xs := by
  rw [Vectors.items, contents, List.reduceOption, List.filterMap_map]
  exact List.filterMap_some

theorem AllSorted.set (documented : b.Documented t.mItemSize look)
    (sorted : AllSorted key b t look w) (owned : Owned t look w') (keyed : Keyed key xs)
    (contents : w'.contents b = Function.update (w.contents b) i (xs.map some)) :
    AllSorted key b t look w' ∧ w'.items b = Function.update (w.items b) i xs := by
  have lists : w'.contents b = fun k => (Function.update (w.items b) i xs k).map some := by
    funext k
    rw [contents, sorted.contents documented]
    exact (Function.apply_update (fun _ => List.map some) (w.items b) i xs k).symm
  have items : w'.items b = Function.update (w.items b) i xs :=
    funext fun k => items_of_contents (congrFun lists k)
  refine ⟨⟨owned, fun k => ⟨?_, ?_⟩⟩, items⟩
  · rw [← contents_eq documented owned, lists, items]
  · rw [items]
    by_cases here : k = i
    · subst here
      rw [Function.update_self]
      exact keyed
    · rw [Function.update_of_ne here]
      exact (sorted.lists k).keyed

omit [Fintype ι] [DecidableEq ι] in
theorem acts_keyed {items : ι → List α} {op : VectorOp ι α} {l' : List (Option α)}
    {short : Nat → Prop}
    (keyed : ∀ i, Keyed key (items i)) (proper : (SortedOp.base op).Proper key w items i)
    (acts : op.Acts t short (fun i => (items i).map some) ((items i).map some) result l') :
    ∃ xs, l' = xs.map some ∧ Keyed key xs := by
  have removed {index count : Nat} (removed : Removed t short index count ((items i).map some) l') :
      ∃ xs, l' = xs.map some ∧ Keyed key xs := by
    rcases removed with rfl | ⟨rfl, -⟩
    · have fewer := (List.drop_sublist count ((items i).drop index)).append_left
        ((items i).take index)
      rw [List.drop_drop, List.take_append_drop] at fewer
      exact ⟨_, by simp, List.Pairwise.sublist fewer (keyed i)⟩
    · exact ⟨items i, rfl, keyed i⟩
  cases op with
  | copy rhs => exact ⟨items rhs, acts.2, keyed rhs⟩
  | assign rhs => exact ⟨items rhs, acts.2, keyed rhs⟩
  | finishVector => exact ⟨[], acts.2, .nil⟩
  | setCapacity newCapacity => exact ⟨items i, acts.1, keyed i⟩
  | removeItemsAt index count =>
      simp only [VectorOp.Acts] at acts
      split_ifs at acts
      · exact ⟨items i, acts.2, keyed i⟩
      · exact removed acts.2
  | clear => exact removed acts.2
  | _ => exact proper.elim

theorem sortedStep_spec (documented : b.Documented t.mItemSize look) (positive : 0 < t.mItemSize)
    (fits : kMinVectorCapacity * t.mItemSize ≤ sizeMax) (compares : Compares key doCompare)
    (sorted : AllSorted key b t look w) {c : SortedCall ι α}
    (step : SortedStep key b t doCompare w c w') :
    AllSorted key b t look w' ∧ ∃ xs', w'.items b = Function.update (w.items b) c.i xs' ∧
      c.op.Acts key t (b.Short w.mem (w.vector c.i).mStorage)
        (fun j => SortedVectorImpl.MergeShort b t doCompare w.mem (w.vector c.i) (w.vector j) 0)
        (w.items b) (w.items b c.i) c.result xs' := by
  obtain ⟨small, proper, called⟩ := step
  obtain ⟨i, op, result⟩ := c
  have owned := sorted.owned
  have lists := sorted.lists i
  have count (j) : (w.vector j).mCount = (w.items b j).length := (sorted.lists j).count
  -- the calls that sort
  have single {m' : M} {v' : VectorImpl} {acts : List α → Prop}
      (spec : Owned t look (w.set i m' v') ∧
        (∀ k, k ≠ i → Untouched (look w.mem) (look m') (w.vector k)) ∧
        ∃ xs', Lists key (look m') v' xs' ∧ acts xs') :
      AllSorted key b t look (w.set i m' v') ∧ ∃ xs', (w.set i m' v').items b =
        Function.update (w.items b) i xs' ∧ acts xs' := by
    obtain ⟨owned', others, xs', lists', done⟩ := spec
    have contents := contents_set documented owned owned' others
    rw [lists'.items] at contents
    obtain ⟨sorted', items⟩ := sorted.set documented owned' lists'.keyed contents
    exact ⟨sorted', xs', items, done⟩
  dsimp only at proper called ⊢
  cases op with
  | base op =>
      have permitted : op.Proper w i := by
        cases op <;> first | exact proper | trivial
      obtain ⟨owned', l', contents, acts⟩ := vectorStep_spec documented positive fits owned
        (c := ⟨i, op, result⟩) ⟨small, permitted, called⟩
      rw [sorted.contents documented] at acts
      obtain ⟨xs', rfl, keyed⟩ := acts_keyed (fun i => (sorted.lists i).keyed) proper acts
      obtain ⟨sorted', items⟩ := sorted.set documented owned' keyed contents
      exact ⟨sorted', xs', items, acts⟩
  | add item =>
      obtain ⟨⟨result', m', v'⟩, done, same⟩ := Option.map_eq_some_iff.mp called
      cases same
      obtain ⟨moved, xs', lists', -, spec⟩ :=
        add_spec documented positive (owned.held i) (small i) compares lists done
      obtain ⟨owned', others⟩ := owned.moved moved
      exact single ⟨owned', others, xs', lists', spec⟩
  | merge vector =>
      obtain ⟨⟨result', m', v'⟩, done, same⟩ := Option.map_eq_some_iff.mp called
      cases same
      exact single (merge_spec documented positive compares owned proper.1 lists
        (sorted.lists vector).items proper.2 done)
  | mergeSorted vector =>
      obtain ⟨⟨result', m', v'⟩, done, same⟩ := Option.map_eq_some_iff.mp called
      cases same
      obtain ⟨other, room, some, apart⟩ := proper
      obtain ⟨owned', others, zs, items, spec⟩ := mergeSorted_spec documented positive compares
        owned other lists (sorted.lists vector) room some done
      apply single
      rcases spec with ⟨rfl, keyed, stuck⟩ | ⟨done, keyed, merged⟩
      · exact ⟨owned', others, zs, ⟨items, keyed⟩, .inl ⟨rfl, stuck⟩⟩
      · have keyed := keyed.mpr apart
        exact ⟨owned', others, zs, ⟨items, keyed⟩, .inr ⟨done, merged keyed⟩⟩
  | remove item =>
      obtain ⟨⟨result', m', v'⟩, done, same⟩ := Option.map_eq_some_iff.mp called
      cases same
      obtain ⟨moved, xs', lists', spec⟩ :=
        remove_spec documented positive fits (owned.held i) (small i) compares lists done
      obtain ⟨owned', others⟩ := owned.moved moved
      exact single ⟨owned', others, xs', lists', spec⟩

theorem AllSorted.run (documented : b.Documented t.mItemSize look) (positive : 0 < t.mItemSize)
    (fits : kMinVectorCapacity * t.mItemSize ≤ sizeMax) (compares : Compares key doCompare)
    {start : Vectors M ι} {cs : List (SortedCall ι α)} (fresh : ∀ a, look start.mem a = none)
    (empty : ∀ i, start.vector i = .empty)
    (run : Run (SortedStep key b t doCompare) start cs w) : AllSorted key b t look w := by
  induction run with
  | refl =>
      have owned := Owned.start (t := t) fresh empty
      have none (i) : start.contents b i = [].map some := by
        rw [contents_eq documented owned, empty i]
        rfl
      refine ⟨owned, fun i => ?_⟩
      rw [items_of_contents (none i)]
      exact ⟨by rw [← contents_eq documented owned, none], .nil⟩
  | tail _ last ih => exact (sortedStep_spec documented positive fits compares ih last).1

/-! ### What holds of all runs -/

/-- Sorted vectors stay sorted, without two items of one key, and are the maps that their calls
describe. -/
theorem sorted_vectors_are_maps (documented : b.Documented t.mItemSize look)
    (positive : 0 < t.mItemSize) (fits : kMinVectorCapacity * t.mItemSize ≤ sizeMax)
    (compares : Compares key doCompare) {start : Vectors M ι} {cs : List (SortedCall ι α)}
    (fresh : ∀ a, look start.mem a = none) (empty : ∀ i, start.vector i = .empty)
    (run : Run (SortedStep key b t doCompare) start cs w) :
    (∀ i, w.contents b i = (w.items b i).map some ∧ Keyed key (w.items b i)) ∧
      ∀ c w', SortedStep key b t doCompare w c w' →
        ∃ xs', w'.items b = Function.update (w.items b) c.i xs' ∧
          c.op.Acts key t (b.Short w.mem (w.vector c.i).mStorage)
            (fun j => SortedVectorImpl.MergeShort b t doCompare w.mem (w.vector c.i) (w.vector j) 0)
            (w.items b) (w.items b c.i) c.result xs' := by
  have sorted := AllSorted.run documented positive fits compares fresh empty run
  constructor
  · intro i
    exact ⟨congrFun (sorted.contents documented) i, (sorted.lists i).keyed⟩
  · intro c w' step
    exact (sortedStep_spec documented positive fits compares sorted step).2

/-- An item is found exactly where one of its key is, and belongs behind the items of less keys. -/
theorem sorted_vectors_find (documented : b.Documented t.mItemSize look)
    (positive : 0 < t.mItemSize) (fits : kMinVectorCapacity * t.mItemSize ≤ sizeMax)
    (compares : Compares key doCompare) {start : Vectors M ι} {cs : List (SortedCall ι α)}
    (fresh : ∀ a, look start.mem a = none) (empty : ∀ i, start.vector i = .empty)
    (run : Run (SortedStep key b t doCompare) start cs w)
    (small : 2 * (w.vector i).mCount ≤ sizeMax) (item : α) :
    (∀ n : Nat, SortedVectorImpl.indexOf b doCompare w.mem (w.vector i) (some item) = n ↔
        ((w.items b i)[n]?).map key = some (key item)) ∧
      (SortedVectorImpl.indexOf b doCompare w.mem (w.vector i) (some item) = nameNotFound ↔
        lookup key (w.items b i) (key item) = none) ∧
      SortedVectorImpl.orderOf b doCompare w.mem (w.vector i) (some item) =
        (w.items b i).countP fun x => decide (key x < key item) := by
  have sorted := AllSorted.run documented positive fits compares fresh empty run
  have lists := sorted.lists i
  have found := indexOrderOf_spec documented (sorted.owned.held i) small compares lists item
  have keyed := lists.keyed
  rw [SortedVectorImpl.indexOf, SortedVectorImpl.orderOf]
  generalize SortedVectorImpl.indexOrderOf b doCompare w.mem (w.vector i) (some item) = place
    at found
  generalize w.items b i = xs at *
  have stands {n : Nat} (here : (xs[n]?).map key = some (key item)) :
      ∃ x, xs[n]? = some x ∧ key x = key item := Option.map_eq_some_iff.mp here
  cases found with
  | here lower y upper split same =>
      subst split
      obtain ⟨below, above⟩ := keyed.sides
      rw [same] at below above
      refine ⟨fun n => ⟨fun place => ?_, fun here => ?_⟩, iff_of_false ?_ ?_, ?_⟩
      · obtain rfl : lower.length = n := Int.ofNat.inj place
        simp [same]
      · obtain ⟨x, here, equal⟩ := stands here
        rcases Nat.lt_trichotomy n lower.length with less | rfl | greater
        · rw [List.getElem?_append_left less] at here
          exact absurd equal (below x (List.mem_of_getElem? here)).ne
        · rfl
        · obtain ⟨k, rfl⟩ := Nat.exists_eq_add_of_lt greater
          rw [List.getElem?_append_right (by omega)] at here
          have place : lower.length + k + 1 - lower.length = k + 1 := by omega
          rw [place, List.getElem?_cons_succ] at here
          exact absurd equal (above x (List.mem_of_getElem? here)).ne'
      · dsimp only [nameNotFound]
        omega
      · rw [lookup_eq_none]
        exact fun none => none y (by simp) same
      · rw [countP_below below]
        · rfl
        · intro z member
          rcases List.mem_cons.mp member with rfl | member
          · exact same.ge
          · exact (above z member).le
  | missing lower upper split below above =>
      subst split
      have apart : ∀ x ∈ lower ++ upper, key x ≠ key item := by
        intro x member
        rcases List.mem_append.mp member with member | member
        · exact (below x member).ne
        · exact (above x member).ne'
      refine ⟨fun n => iff_of_false ?_ fun here => ?_, iff_of_true rfl ?_, ?_⟩
      · dsimp only [nameNotFound]
        omega
      · obtain ⟨x, here, equal⟩ := stands here
        exact apart x (List.mem_of_getElem? here) equal
      · exact lookup_eq_none.mpr apart
      · rw [countP_below below fun y member => (above y member).le]
        rfl

/-- A sorted vector merged into another leaves no key twice exactly where their ends differ. -/
theorem merge_sorted_exact (documented : b.Documented t.mItemSize look)
    (positive : 0 < t.mItemSize) (fits : kMinVectorCapacity * t.mItemSize ≤ sizeMax)
    (compares : Compares key doCompare) {start : Vectors M ι} {cs : List (SortedCall ι α)}
    (fresh : ∀ a, look start.mem a = none) (empty : ∀ i, start.vector i = .empty)
    (run : Run (SortedStep key b t doCompare) start cs w) (other : j ≠ i)
    (small : 2 * ((w.items b i).length + (w.items b j).length) ≤ sizeMax)
    (some : w.items b i ≠ []) (merged : 0 ≤ result)
    (call : w.sortedCall b t doCompare i (.mergeSorted j) = .some (result, w')) :
    Keyed key (w'.items b i) ↔ EndsApart key (w.items b i) (w.items b j) := by
  have sorted := AllSorted.run documented positive fits compares fresh empty run
  obtain ⟨⟨result', m', v'⟩, done, same⟩ := Option.map_eq_some_iff.mp call
  cases same
  obtain ⟨owned, others, zs, items, spec⟩ := mergeSorted_spec documented positive compares
    sorted.owned other (sorted.lists i) (sorted.lists j) small (fun _ => some) done
  have result : (w.set i m' v').items b i = zs := by
    apply items_of_contents
    rw [contents_eq documented owned, set_self, set_mem, items]
  rw [result]
  rcases spec with ⟨rfl, -⟩ | ⟨-, keyed, -⟩
  · cases merged
  · exact keyed

end Merging

/-! Two sorted vectors of `int` -/

def compareInts : Option Nat → Option Nat → Int
  | some x, some y => x - y
  | _, _ => 0

theorem compareInts_spec : Compares id compareInts := by
  intro x y
  rw [compareInts, id, id]
  omega

def sortedCalled (w : IntVectors) (i : Bool) (op : SortedOp Bool Nat) : IntVectors :=
  ((w.sortedCall (Arena.buffers 4) intTraits compareInts i op).map Prod.snd).getD w

theorem sortedCalled_step {w : IntVectors} {c : SortedCall Bool Nat}
    (small : ∀ i, 2 * (w.vector i).mCount ≤ sizeMax)
    (proper : c.op.Proper id w (w.items (Arena.buffers 4)) c.i)
    (returns : (w.sortedCall (Arena.buffers 4) intTraits compareInts c.i c.op).map Prod.fst =
      some c.result) :
    SortedStep id (Arena.buffers 4) intTraits compareInts w c (sortedCalled w c.i c.op) := by
  refine ⟨small, proper, ?_⟩
  obtain ⟨⟨result, w'⟩, done, rfl⟩ := Option.map_eq_some_iff.mp returns
  rw [sortedCalled, done]
  rfl

def several : IntVectors :=
  sortedCalled (sortedCalled (sortedCalled (sortedCalled (sortedCalled noVectors true (.add 9))
    true (.add 3)) true (.add 5)) false (.add 7)) false (.add 5)

theorem several_items : several.items (Arena.buffers 4) true = [3, 5, 9] ∧
    several.items (Arena.buffers 4) false = [5, 7] := by decide +kernel

theorem several_run : Run (SortedStep id (Arena.buffers 4) intTraits compareInts) noVectors
    [⟨true, .add 9, 0⟩, ⟨true, .add 3, 0⟩, ⟨true, .add 5, 1⟩, ⟨false, .add 7, 0⟩,
      ⟨false, .add 5, 0⟩] several := by
  have step {w : IntVectors} {i : Bool} {item : Nat} {result : Int}
      (small : ∀ i, 2 * (w.vector i).mCount ≤ sizeMax)
      (returns : (w.sortedCall (Arena.buffers 4) intTraits compareInts i (.add item)).map Prod.fst =
        some result) :
      SortedStep id (Arena.buffers 4) intTraits compareInts w ⟨i, .add item, result⟩
        (sortedCalled w i (.add item)) :=
    sortedCalled_step small trivial returns
  refine Run.tail (Run.tail (Run.tail (Run.tail (Run.single (step ?_ ?_)) (step ?_ ?_))
    (step ?_ ?_)) (step ?_ ?_)) (step ?_ ?_) <;> decide +kernel

theorem several_apart : EndsApart id (several.items (Arena.buffers 4) true)
    (several.items (Arena.buffers 4) false) := by
  rw [several_items.1, several_items.2]
  simp [EndsApart]

/-- The second vector is merged into the first. -/
theorem sorted_vectors_are_maps_merged : ∃ xs',
    (sortedCalled several true (.mergeSorted false)).items (Arena.buffers 4) =
      Function.update (several.items (Arena.buffers 4)) true xs' ∧
    lookup id xs' = Merged id [5, 7] [3, 5, 9] := by
  have step : SortedStep id (Arena.buffers 4) intTraits compareInts several
      ⟨true, .mergeSorted false, 0⟩ _ :=
    sortedCalled_step (by decide +kernel) ⟨by decide, by decide +kernel,
      fun _ => by rw [several_items.1]; simp, several_apart⟩ (by decide +kernel)
  obtain ⟨xs', changed, ⟨none, -⟩ | ⟨-, merged⟩⟩ := (sorted_vectors_are_maps (Arena.documented 4)
    (by decide) (by decide) compareInts_spec (fun a => ite_self _) (fun _ => rfl) several_run).2 _ _
    step
  · cases none
  · rw [several_items.1, several_items.2] at merged
    exact ⟨xs', changed, merged⟩

/-- Where 5 is in a vector with three items, and where 6 belongs. -/
theorem sorted_vectors_find_five :
    SortedVectorImpl.indexOf (Arena.buffers 4) compareInts several.mem (several.vector true)
      (some 5) = 1 ∧
    SortedVectorImpl.indexOf (Arena.buffers 4) compareInts several.mem (several.vector true)
      (some 6) = nameNotFound ∧
    SortedVectorImpl.orderOf (Arena.buffers 4) compareInts several.mem (several.vector true)
      (some 6) = 2 := by
  have find := sorted_vectors_find (Arena.documented 4) (by decide) (by decide) compareInts_spec
    (fun a => ite_self _) (fun _ => rfl) several_run (i := true) (by decide +kernel)
  rw [several_items.1] at find
  exact ⟨((find 5).1 1).mpr rfl, (find 6).2.1.mpr rfl, (find 6).2.2⟩

/-- The two vectors have no end in common. -/
theorem merge_sorted_exact_apart :
    Keyed id ((sortedCalled several true (.mergeSorted false)).items (Arena.buffers 4) true) := by
  have returns : (several.sortedCall (Arena.buffers 4) intTraits compareInts true
      (.mergeSorted false)).map Prod.fst = some 0 := by decide +kernel
  have called : several.sortedCall (Arena.buffers 4) intTraits compareInts true
      (.mergeSorted false) = some (0, sortedCalled several true (.mergeSorted false)) := by
    obtain ⟨⟨result, w'⟩, done, rfl⟩ := Option.map_eq_some_iff.mp returns
    rw [sortedCalled, done]
    rfl
  exact (merge_sorted_exact (Arena.documented 4) (by decide) (by decide) compareInts_spec
    (fun a => ite_self _) (fun _ => rfl) several_run (by decide) (by decide +kernel)
    (by decide +kernel) (by decide) called).mpr several_apart

end VibeXperia.Proof.Shims
