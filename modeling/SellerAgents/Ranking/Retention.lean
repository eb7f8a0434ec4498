import Mathlib.Data.List.Perm.Subperm
import Mathlib.Data.List.Sort

namespace Ranking

variable {α κ : Type}

/-- The last `n` items. -/
def takeLast (n : Nat) (items : List α) : List α := items.drop (items.length - n)

theorem takeLast_eq_self {n : Nat} {items : List α} (h : items.length ≤ n) :
    takeLast n items = items := by
  rw [takeLast, Nat.sub_eq_zero_of_le h, List.drop_zero]

theorem takeLast_sublist (n : Nat) (items : List α) : (takeLast n items).Sublist items :=
  List.drop_sublist _ _

theorem length_takeLast_le (n : Nat) (items : List α) : (takeLast n items).length ≤ n := by
  rw [takeLast, List.length_drop]
  omega

theorem map_takeLast {β : Type} (f : α → β) (n : Nat) (items : List α) :
    (takeLast n items).map f = takeLast n (items.map f) := by
  rw [takeLast, takeLast, List.map_drop, List.length_map]

/-- What is cut from a sorted list is below what stays, and the cut list is full. -/
theorem takeLast_cut {le : α → α → Prop} {n : Nat} {items : List α} (hsorted : items.Pairwise le)
    {item : α} (hmem : item ∈ items) (hcut : item ∉ takeLast n items) :
    (takeLast n items).length = n ∧ ∀ other ∈ takeLast n items, le item other := by
  have hsplit := List.take_append_drop (items.length - n) items
  have hbefore : item ∈ items.take (items.length - n) := by
    rw [← hsplit, List.mem_append] at hmem
    exact hmem.resolve_right hcut
  constructor
  · have hpos : 0 < (items.take (items.length - n)).length := List.length_pos_of_mem hbefore
    rw [List.length_take] at hpos
    rw [takeLast, List.length_drop]
    omega
  · rw [← hsplit] at hsorted
    exact fun other hother => (List.pairwise_append.mp hsorted).2.2 item hbefore other hother

theorem length_filter_key_le_one [DecidableEq κ] {key : α → κ} {items : List α}
    (hdistinct : (items.map key).Nodup) (k : κ) : (items.filter (key · = k)).length ≤ 1 := by
  have hnodup : ((items.filter (key · = k)).map key).Nodup :=
    (List.filter_sublist.map key).nodup hdistinct
  have hconst : (items.filter (key · = k)).map key =
      List.replicate (items.filter (key · = k)).length k := by
    rw [List.eq_replicate_iff, List.length_map]
    refine ⟨rfl, fun x hx => ?_⟩
    obtain ⟨item, hitem, rfl⟩ := List.mem_map.mp hx
    simpa using (List.mem_filter.mp hitem).2
  rw [hconst] at hnodup
  exact List.nodup_replicate.mp hnodup

variable (le : α → α → Prop) [DecidableRel le] (key : α → κ) [DecidableEq κ] (n : Nat)

/-- The item replaces the one of its key, and of the items in order the last `n` stay. -/
def keepGreatest (kept : List α) (item : α) : List α :=
  takeLast n ((kept.filter (key · ≠ key item) ++ [item]).insertionSort le)

/-- `kept` is the greatest item of each key among `items`, cut to the `n` greatest. -/
structure Retention (items kept : List α) : Prop where
  sorted : kept.Pairwise le
  distinct : (kept.map key).Nodup
  length_le : kept.length ≤ n
  mem : ∀ item ∈ kept, item ∈ items
  greatest : ∀ item ∈ kept, ∀ other ∈ items, key other = key item → le other item
  covered : ∀ other ∈ items, (∃ item ∈ kept, key item = key other) ∨
    (kept.length = n ∧ ∀ item ∈ kept, le other item)

/-- The arriving item is not below the kept item of its key. -/
def OnTime (kept : List α) (item : α) : Prop := ∀ old ∈ kept, key old = key item → le old item

/-- Every item arrives on time. -/
def InOrder : List α → List α → Prop
  | _, [] => True
  | kept, item :: rest => OnTime le key kept item ∧ InOrder (keepGreatest le key n kept item) rest

variable {le key n} {items kept : List α} {item : α}

/-! The list before the cut. -/

theorem mem_candidates {other : α} :
    other ∈ (kept.filter (key · ≠ key item) ++ [item]).insertionSort le ↔
      (other ∈ kept ∧ key other ≠ key item) ∨ other = item := by
  simp [List.mem_insertionSort, List.mem_filter]

theorem mem_keepGreatest {other : α} (h : other ∈ keepGreatest le key n kept item) :
    (other ∈ kept ∧ key other ≠ key item) ∨ other = item :=
  mem_candidates.mp ((takeLast_sublist _ _).mem h)

theorem distinct_candidates (hdistinct : (kept.map key).Nodup) :
    (((kept.filter (key · ≠ key item) ++ [item]).insertionSort le).map key).Nodup := by
  have hperm := (List.perm_insertionSort le (kept.filter (key · ≠ key item) ++ [item])).map key
  rw [hperm.nodup_iff, List.map_append, List.map_singleton, List.nodup_append]
  refine ⟨(List.filter_sublist.map key).nodup hdistinct, List.nodup_singleton _, ?_⟩
  intro k hk k' hk' heq
  obtain ⟨other, hother, rfl⟩ := List.mem_map.mp hk
  rw [List.mem_singleton] at hk'
  have hne := (List.mem_filter.mp hother).2
  simp only [ne_eq, decide_eq_true_eq] at hne
  exact hne (heq.trans hk')

/-- With an item of the same key kept, nothing is cut. -/
theorem keepGreatest_eq_of_old {old : α} (hlength : kept.length ≤ n) (hold : old ∈ kept)
    (hkey : key old = key item) :
    keepGreatest le key n kept item =
      (kept.filter (key · ≠ key item) ++ [item]).insertionSort le := by
  apply takeLast_eq_self
  have hlt : (kept.filter (key · ≠ key item)).length < kept.length :=
    List.length_filter_lt_length_iff_exists.mpr ⟨old, hold, by simp [hkey]⟩
  rw [List.length_insertionSort, List.length_append, List.length_singleton]
  omega

theorem mem_keepGreatest_self {old : α} (hlength : kept.length ≤ n) (hold : old ∈ kept)
    (hkey : key old = key item) : item ∈ keepGreatest le key n kept item := by
  rw [keepGreatest_eq_of_old hlength hold hkey]
  exact mem_candidates.mpr (.inr rfl)

theorem length_keepGreatest_le : (keepGreatest le key n kept item).length ≤ n :=
  length_takeLast_le _ _

/-- A full list stays full. -/
theorem length_keepGreatest (hdistinct : (kept.map key).Nodup) (hlength : kept.length = n) :
    (keepGreatest le key n kept item).length = n := by
  have hone := length_filter_key_le_one hdistinct (key item)
  have hsplit := List.length_eq_length_filter_add (l := kept) fun x => decide (key x = key item)
  have hneg : (kept.filter fun x => !decide (key x = key item)) =
      kept.filter (key · ≠ key item) := by
    apply List.filter_congr
    simp
  rw [hneg] at hsplit
  rw [keepGreatest, takeLast, List.length_drop, List.length_insertionSort, List.length_append,
    List.length_singleton]
  omega

variable [Std.Total le] [IsTrans α le]

omit [DecidableRel le] [IsTrans α le] in
theorem le_self (item : α) : le item item := (Std.Total.total item item).elim id id

theorem sorted_candidates :
    ((kept.filter (key · ≠ key item) ++ [item]).insertionSort le).Pairwise le :=
  List.pairwise_insertionSort le _

/-- What is below a full list is below an item that enters it on time. -/
theorem below_entering {other : α} (hdistinct : (kept.map key).Nodup) (hlength : kept.length = n)
    (hbelow : ∀ old ∈ kept, le other old) (honTime : OnTime le key kept item)
    (hmem : item ∈ keepGreatest le key n kept item) : le other item := by
  by_cases hold : ∃ old ∈ kept, key old = key item
  · obtain ⟨old, hold, hkey⟩ := hold
    exact trans_of le (hbelow old hold) (honTime old hold hkey)
  · -- no item of this key was kept, so the least of the others made room
    have hfilter : kept.filter (key · ≠ key item) = kept := by
      rw [List.filter_eq_self]
      intro old hmem'
      simpa using fun hkey => hold ⟨old, hmem', hkey⟩
    obtain ⟨least, hleast, hcut⟩ : ∃ least ∈ (kept.filter (key · ≠ key item) ++ [item]).insertionSort le,
        least ∉ keepGreatest le key n kept item := by
      by_contra hall
      push Not at hall
      have hnodup : (((kept.filter (key · ≠ key item) ++ [item]).insertionSort le).map key).Nodup :=
        distinct_candidates hdistinct
      have hsub : (kept.filter (key · ≠ key item) ++ [item]).insertionSort le ⊆
          keepGreatest le key n kept item := hall
      have hle := (List.subperm_of_subset (List.Nodup.of_map key hnodup) hsub).length_le
      rw [length_keepGreatest hdistinct hlength, List.length_insertionSort, hfilter,
        List.length_append, List.length_singleton] at hle
      omega
    have hbefore := (takeLast_cut sorted_candidates hleast hcut).2 item hmem
    rcases mem_candidates.mp hleast with ⟨hkept, -⟩ | rfl
    · exact trans_of le (hbelow least hkept) hbefore
    · exact absurd hmem hcut

/-- An item on time keeps the retention. -/
theorem Retention.step (h : Retention le key n items kept) (honTime : OnTime le key kept item) :
    Retention le key n (items ++ [item]) (keepGreatest le key n kept item) where
  sorted := sorted_candidates.sublist (takeLast_sublist _ _)
  distinct := ((takeLast_sublist _ _).map key).nodup (distinct_candidates h.distinct)
  length_le := length_keepGreatest_le
  mem other hother := by
    rw [List.mem_append, List.mem_singleton]
    exact (mem_keepGreatest hother).imp (fun hkept => h.mem other hkept.1) id
  greatest := by
    intro best hbest other hother hkey
    rw [List.mem_append, List.mem_singleton] at hother
    rcases mem_keepGreatest hbest with ⟨hkept, hne⟩ | rfl
    · rcases hother with hother | rfl
      · exact h.greatest best hkept other hother hkey
      · exact absurd hkey.symm hne
    · rcases hother with hother | rfl
      · rcases h.covered other hother with ⟨old, hold, hsame⟩ | ⟨hlength, hbelow⟩
        · exact trans_of le (h.greatest old hold other hother hsame.symm)
            (honTime old hold (hsame.trans hkey))
        · exact below_entering h.distinct hlength hbelow honTime hbest
      · exact le_self other
  covered := by
    intro other hother
    rw [List.mem_append, List.mem_singleton] at hother
    by_cases hitem : key other = key item ∧ item ∈ keepGreatest le key n kept item
    · exact .inl ⟨item, hitem.2, hitem.1.symm⟩
    rcases hother with hother | rfl
    · rcases h.covered other hother with ⟨old, hold, hsame⟩ | ⟨hlength, hbelow⟩
      · have hne : key old ≠ key item := fun hkey =>
          hitem ⟨hsame.symm.trans hkey, mem_keepGreatest_self h.length_le hold hkey⟩
        by_cases hstays : old ∈ keepGreatest le key n kept item
        · exact .inl ⟨old, hstays, hsame⟩
        · obtain ⟨hfull, hbelow⟩ := takeLast_cut sorted_candidates
            (mem_candidates.mpr (.inl ⟨hold, hne⟩)) hstays
          exact .inr ⟨hfull, fun best hbest =>
            trans_of le (h.greatest old hold other hother hsame.symm) (hbelow best hbest)⟩
      · refine .inr ⟨length_keepGreatest h.distinct hlength, fun best hbest => ?_⟩
        rcases mem_keepGreatest hbest with ⟨hkept, -⟩ | rfl
        · exact hbelow best hkept
        · exact below_entering h.distinct hlength hbelow honTime hbest
    · have hcut : other ∉ keepGreatest le key n kept other := fun hmem => hitem ⟨rfl, hmem⟩
      exact .inr (takeLast_cut sorted_candidates (mem_candidates.mpr (.inr rfl)) hcut)

omit [Std.Total le] [IsTrans α le] in
/-- An item below the kept one of its key breaks the retention. -/
theorem Retention.onTime (h : Retention le key n items kept)
    (hstep : Retention le key n (items ++ [item]) (keepGreatest le key n kept item)) :
    OnTime le key kept item := fun old hold hkey =>
  hstep.greatest item (mem_keepGreatest_self h.length_le hold hkey) old
    (List.mem_append_left _ (h.mem old hold)) hkey

/-- The kept list is a retention after every arrival exactly if every arrival is on time. -/
theorem retention_prefixes_iff (h : Retention le key n items kept) (arrivals : List α) :
    (∀ done, done <+: arrivals →
        Retention le key n (items ++ done) (done.foldl (keepGreatest le key n) kept)) ↔
      InOrder le key n kept arrivals := by
  induction arrivals generalizing items kept with
  | nil => simpa [InOrder] using h
  | cons item rest ih =>
    constructor
    · intro hall
      have hstep : Retention le key n (items ++ [item]) (keepGreatest le key n kept item) :=
        hall [item] (List.prefix_append [item] rest)
      refine ⟨h.onTime hstep, (ih hstep).mp fun done hdone => ?_⟩
      simpa using hall (item :: done) (List.cons_prefix_cons.mpr ⟨rfl, hdone⟩)
    · rintro ⟨honTime, hrest⟩ done hdone
      cases done with
      | nil => simpa using h
      | cons first done =>
        obtain ⟨rfl, hprefix⟩ := List.cons_prefix_cons.mp hdone
        simpa using (ih (h.step honTime)).mpr hrest done hprefix

omit [DecidableRel le] [DecidableEq κ] [Std.Total le] [IsTrans α le] in
/-- A map that keeps the keys and the order of the items keeps the retention. -/
theorem Retention.map {β : Type} {le' : β → β → Prop} {key' : β → κ} (f : α → β)
    (h : Retention le key n items kept) (hkey : ∀ item, key' (f item) = key item)
    (hle : ∀ a ∈ items, ∀ b ∈ items, le a b → le' (f a) (f b)) :
    Retention le' key' n (items.map f) (kept.map f) where
  sorted := List.pairwise_map.mpr (h.sorted.imp_of_mem fun ha hb =>
    hle _ (h.mem _ ha) _ (h.mem _ hb))
  distinct := by
    have hcomp : (kept.map f).map key' = kept.map key := by
      rw [List.map_map]
      exact List.map_congr_left fun item _ => hkey item
    rw [hcomp]
    exact h.distinct
  length_le := by
    rw [List.length_map]
    exact h.length_le
  mem := by
    simp only [List.mem_map]
    rintro _ ⟨item, hitem, rfl⟩
    exact ⟨item, h.mem item hitem, rfl⟩
  greatest := by
    simp only [List.mem_map]
    rintro _ ⟨item, hitem, rfl⟩ _ ⟨other, hother, rfl⟩ hsame
    rw [hkey, hkey] at hsame
    exact hle other hother item (h.mem item hitem) (h.greatest item hitem other hother hsame)
  covered := by
    simp only [List.mem_map]
    rintro _ ⟨other, hother, rfl⟩
    rcases h.covered other hother with ⟨item, hitem, hsame⟩ | ⟨hlength, hbelow⟩
    · exact .inl ⟨f item, ⟨item, hitem, rfl⟩, by rw [hkey, hkey, hsame]⟩
    · refine .inr ⟨by rw [List.length_map, hlength], ?_⟩
      rintro _ ⟨item, hitem, rfl⟩
      exact hle other hother item (h.mem item hitem) (hbelow item hitem)

omit [DecidableRel le] [DecidableEq κ] [Std.Total le] [IsTrans α le] in
/-- Where the order is strict on the items, there is only one retention of them. -/
theorem Retention.unique {items' kept' : List α} (h : Retention le key n items kept)
    (h' : Retention le key n items' kept') (hsame : ∀ item, item ∈ items ↔ item ∈ items')
    (hstrict : ∀ a ∈ items, ∀ b ∈ items, le a b → le b a → a = b) : kept = kept' := by
  have hsubset : ∀ {xs ys ks ls : List α}, Retention le key n xs ks → Retention le key n ys ls →
      (∀ item, item ∈ xs ↔ item ∈ ys) → (∀ a ∈ xs, ∀ b ∈ xs, le a b → le b a → a = b) →
      ks ⊆ ls := by
    intro xs ys ks ls hk hl hiff hanti item hitem
    have hin := hk.mem item hitem
    rcases hl.covered item ((hiff item).mp hin) with ⟨other, hother, hkey⟩ | ⟨hfull, hbelow⟩
    · have hin' := (hiff other).mpr (hl.mem other hother)
      have heq := hanti item hin other hin'
        (hl.greatest other hother item ((hiff item).mp hin) hkey.symm)
        (hk.greatest item hitem other hin' hkey)
      exact heq ▸ hother
    · -- the `n` items of the other list are above this one, so they are kept here too
      by_contra hnot
      have hsub : ls ⊆ ks := by
        intro other hother
        have hin' := (hiff other).mpr (hl.mem other hother)
        rcases hk.covered other hin' with ⟨best, hbest, hkey⟩ | ⟨-, hbelow'⟩
        · have hbestIn := hk.mem best hbest
          have heq := hanti other hin' best hbestIn (hk.greatest best hbest other hin' hkey.symm)
            (hl.greatest other hother best ((hiff best).mp hbestIn) hkey)
          exact heq ▸ hbest
        · have heq := hanti item hin other hin' (hbelow other hother) (hbelow' item hitem)
          exact absurd (heq ▸ hother) hnot
      have hnodup : (item :: ls).Nodup :=
        List.nodup_cons.mpr ⟨hnot, List.Nodup.of_map key hl.distinct⟩
      have hcons : item :: ls ⊆ ks := List.cons_subset.mpr ⟨hitem, hsub⟩
      have hle := (List.subperm_of_subset hnodup hcons).length_le
      have hbound := hk.length_le
      rw [List.length_cons, hfull] at hle
      omega
  have hperm : kept.Perm kept' := by
    rw [List.perm_ext_iff_of_nodup (List.Nodup.of_map key h.distinct)
      (List.Nodup.of_map key h'.distinct)]
    intro item
    refine ⟨fun hitem => hsubset h h' hsame hstrict hitem, fun hitem =>
      hsubset h' h (fun item => (hsame item).symm) (fun a ha b hb => ?_) hitem⟩
    exact hstrict a ((hsame a).mpr ha) b ((hsame b).mpr hb)
  refine hperm.eq_of_pairwise (fun a b ha hb hab hba => ?_) h.sorted h'.sorted
  exact hstrict a (h.mem a ha) b ((hsame b).mpr (h'.mem b hb)) hab hba

end Ranking
