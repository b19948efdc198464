import Stencil.Filter.Builtin
import Stencil.Proofs.ComparisonSort
import Stencil.Proofs.Laundering
import Stencil.Proofs.LooseEquality

/-! The filters `sort`, `min` and `max` agree: they accept the same lists, and what they choose is
what a stable sort puts first, or finds first among what it puts last. -/
namespace Stencil.Filter

open Value (Uniform Sortable StablySorted rank)

variable {items acc sorted : List Value} {v w : Value}

/-! ### Sorting -/

/-- What comes first in a descending list. -/
abbrev Descends : Value → Value → Prop := Order.Preimage rank (· ≥ ·)

lemma insertSorted_eq (h : Uniform (v :: acc)) :
    insertSorted v acc = .ok (acc.orderedInsert Descends v) := by
  induction acc with
  | nil => rfl
  | cons w acc ih =>
    have hcompare := h.order_eq (v := v) (w := w) (by simp) (by simp)
    have hrest := ih (h.mono (by simp))
    by_cases hge : Descends v w
    · rw [insertSorted, hcompare, List.orderedInsert_cons_of_le _ _ hge]
      split
      · rename_i hfault
        cases hfault
      · rename_i hlt
        exact absurd (compare_lt_iff_lt.mp (Except.ok.inj hlt)) (not_lt.mpr hge)
      · rfl
    · rw [insertSorted, hcompare, compare_lt_iff_lt.mpr (not_le.mp hge), hrest,
        List.orderedInsert_of_not_le _ _ hge]
      rfl

/-- Inserting one item after the other. -/
lemma foldlM_insertSorted (h : Uniform (acc ++ items)) :
    items.foldlM (fun sorted v => insertSorted v sorted) acc =
      .ok (items.foldl (fun sorted v => sorted.orderedInsert Descends v) acc) := by
  induction items generalizing acc with
  | nil => rfl
  | cons v rest ih =>
    have hinsert : Uniform (v :: acc) := h.mono (by simp)
    have hrest : Uniform (acc.orderedInsert Descends v ++ rest) :=
      h.mono fun w hw => by simpa [or_assoc, or_left_comm] using hw
    rw [List.foldlM_cons, insertSorted_eq hinsert, List.foldl_cons]
    exact ih hrest

/-- The items of a rank are inserted before those that are in the list already, which is in
descending order: read from its end, it has them in their order. -/
lemma insertionSort_eq (h : Uniform items) : insertionSort items = .ok (sortedBy rank items) := by
  have hascending : (items.reverse.insertionSort Descends).reverse.Pairwise (rank · ≤ rank ·) :=
    List.pairwise_reverse.mpr (List.pairwise_insertionSort Descends items.reverse)
  have hperm : (items.reverse.insertionSort Descends).reverse.Perm items :=
    (List.reverse_perm _).trans ((List.perm_insertionSort _ _).trans (List.reverse_perm _))
  have hstable : ∀ k, (items.filter (rank · = k)).Sublist
      (items.reverse.insertionSort Descends).reverse := by
    intro k
    rw [← List.reverse_sublist, List.reverse_reverse]
    refine List.sublist_insertionSort ?_ (List.reverse_sublist.mpr List.filter_sublist)
    exact List.pairwise_reverse.mpr ((pairwise_filter k).imp fun h => h.le)
  rw [insertionSort, foldlM_insertSorted (by simpa using h), ← List.foldr_reverse]
  exact congrArg Except.ok
    (eq_sortedBy hascending fun k => filter_eq_of_sublist hperm (hstable k))

lemma inOrder_eq (h : Uniform items) (hv : v ∈ items) (hw : w ∈ items) :
    inOrder v w = decide (v.rank ≤ w.rank) := by
  rw [inOrder, h.order_eq hw hv]
  split
  · rename_i hlt
    exact (decide_eq_false (compare_lt_iff_lt.mp (Except.ok.inj hlt)).not_ge).symm
  · rename_i hnot
    refine (decide_eq_true (le_of_not_gt fun hlt => hnot ?_)).symm
    rw [compare_lt_iff_lt.mpr hlt]

lemma sortItems_eq (h : Sortable items) : sortItems items = .ok (sortedBy rank items) := by
  rcases h.single_or_uniform with ⟨v, rfl⟩ | huniform
  · rw [sortedBy, List.mergeSort_singleton]
    rfl
  · unfold sortItems
    split
    · exact insertionSort_eq huniform
    · have hmap := List.map_mergeSort (f := id) (l := items)
        (s := fun v w => decide (v.rank ≤ w.rank)) fun v hv w hw => inOrder_eq huniform hv hw
      rw [List.map_id, List.map_id] at hmap
      exact congrArg Except.ok hmap

/-! ### Lists that cannot be sorted -/

lemma perm_insertSorted (h : insertSorted v acc = .ok sorted) : sorted.Perm (v :: acc) := by
  induction acc generalizing sorted with
  | nil =>
    cases h
    exact List.Perm.refl _
  | cons w rest ih =>
    rw [insertSorted] at h
    split at h
    · cases h
    · obtain ⟨s, hs, rfl⟩ := Except.exists_of_map h
      exact ((ih hs).cons w).trans (List.Perm.swap v w rest)
    · cases h
      exact List.Perm.refl _

/-- Wherever an item is put into a list, it is compared with the first item. -/
lemma sortable_of_insertSorted (hfloat : ∀ u ∈ v :: acc, u.kind ≠ .float) (hacc : Sortable acc)
    (h : insertSorted v acc = .ok sorted) : Sortable (v :: acc) := by
  cases acc with
  | nil => exact .inl le_rfl
  | cons w acc =>
    cases ho : v.order w with
    | error e =>
      rw [insertSorted, ho] at h
      cases h
    | ok o => exact .inr (hacc.uniform_of_order (hfloat v (by simp)) (hfloat w (by simp)) ho)

lemma sortable_of_foldlM (hfloat : ∀ u ∈ acc ++ items, u.kind ≠ .float) (hacc : Sortable acc)
    (h : items.foldlM (fun sorted v => insertSorted v sorted) acc = .ok sorted) :
    Sortable (acc ++ items) := by
  induction items generalizing acc with
  | nil => rwa [List.append_nil]
  | cons v rest ih =>
    rw [List.foldlM_cons] at h
    obtain ⟨more, hmore, h⟩ := Except.exists_of_bind h
    have hperm := perm_insertSorted hmore
    have hall : (acc ++ v :: rest).Perm (more ++ rest) :=
      List.perm_middle.trans (hperm.symm.append_right rest)
    have hsub : v :: acc ⊆ acc ++ v :: rest := by simp
    have hinsert := sortable_of_insertSorted (fun u hu => hfloat u (hsub hu)) hacc hmore
    exact (ih (fun u hu => hfloat u (hall.mem_iff.mpr hu)) (hinsert.perm hperm) h).perm hall

lemma sortable_of_comparable (hfloat : ∀ u ∈ items, u.kind ≠ .float)
    (h : comparable items = true) : Sortable items := by
  fun_induction comparable items with
  | case1 => exact .inl (Nat.zero_le 1)
  | case2 => exact .inl le_rfl
  | case3 v w rest ih =>
    obtain ⟨hok, hrest⟩ := Bool.and_eq_true_iff.mp h
    cases ho : v.order w with
    | error e =>
      rw [ho] at hok
      cases hok
    | ok o =>
      have hsortable := ih (fun u hu => hfloat u (List.mem_cons_of_mem v hu)) hrest
      exact .inr (hsortable.uniform_of_order (hfloat v (by simp)) (hfloat w (by simp)) ho)

lemma sortable_of_sortItems (hfloat : ∀ u ∈ items, u.kind ≠ .float)
    (h : sortItems items = .ok sorted) : Sortable items := by
  unfold sortItems at h
  split at h
  · obtain ⟨s, hs, -⟩ := Except.exists_of_map h
    have hnil : Sortable [] := .inl (Nat.zero_le 1)
    exact sortable_of_foldlM hfloat hnil hs
  · rename_i hshort
    rw [Bool.or_eq_true, not_or, Bool.not_eq_true', Bool.not_eq_false] at hshort
    exact sortable_of_comparable hfloat hshort.2

lemma sortItems_eq_ok_iff (hfloat : ∀ u ∈ items, u.kind ≠ .float) :
    sortItems items = .ok sorted ↔ Sortable items ∧ sorted = sortedBy rank items := by
  constructor
  · intro h
    have hsortable := sortable_of_sortItems hfloat h
    rw [sortItems_eq hsortable] at h
    cases h
    exact ⟨hsortable, rfl⟩
  · rintro ⟨hsortable, rfl⟩
    exact sortItems_eq hsortable

/-! ### The least and the greatest item -/

variable {wanted : Ordering} {best m : Value}

/-- The first of the items that no other one beats; `wanted` is how a better one compares. -/
def FirstBest (wanted : Ordering) (items : List Value) (m : Value) : Prop :=
  ∃ before after, items = before ++ m :: after ∧
    (∀ v ∈ before, m.order v = .ok wanted) ∧ ∀ v ∈ after, v.order m ≠ .ok wanted

namespace FirstBest

lemma mem (h : FirstBest wanted items m) : m ∈ items := by
  obtain ⟨before, after, rfl, -⟩ := h
  simp

lemma single : FirstBest wanted [v] v := ⟨[], [], rfl, by simp, by simp⟩

/-- The first item gives way to a better one. -/
lemma cons (h : FirstBest wanted items m) (hv : m.order v = .ok wanted) :
    FirstBest wanted (v :: items) m := by
  obtain ⟨before, after, rfl, hbefore, hafter⟩ := h
  exact ⟨v :: before, after, rfl, List.forall_mem_cons.mpr ⟨hv, hbefore⟩, hafter⟩

variable (hw : wanted ≠ .eq)
include hw

/-- An item that is no better than the first one is passed over. -/
lemma skip (hu : Uniform (best :: v :: items)) (h : FirstBest wanted (best :: items) m)
    (hv : v.order best ≠ .ok wanted) : FirstBest wanted (best :: v :: items) m := by
  have hm : m ∈ best :: v :: items := by
    rcases List.mem_cons.mp h.mem with rfl | hm
    · simp
    · simp [hm]
  obtain ⟨before, after, hitems, hbefore, hafter⟩ := h
  cases before with
  | nil =>
    obtain ⟨rfl, rfl⟩ := List.cons.inj hitems
    exact ⟨[], v :: items, rfl, hbefore, List.forall_mem_cons.mpr ⟨hv, hafter⟩⟩
  | cons b before =>
    obtain ⟨rfl, rfl⟩ := List.cons.inj hitems
    obtain ⟨hbest, hbefore⟩ := List.forall_mem_cons.mp hbefore
    refine ⟨best :: v :: before, after, rfl, ?_, hafter⟩
    refine List.forall_mem_cons.mpr ⟨hbest, List.forall_mem_cons.mpr ⟨?_, hbefore⟩⟩
    rw [hu.order_eq hm (by simp), Except.ok.injEq] at hbest ⊢
    rw [hu.order_eq (by simp) (by simp), ne_eq, Except.ok.injEq] at hv
    exact (compare_split hw hbest v.rank).resolve_right hv

lemma not_beaten (hu : Uniform items) (h : FirstBest wanted items m) (hv : v ∈ items) :
    compare v.rank m.rank ≠ wanted := by
  have hm := h.mem
  obtain ⟨before, after, rfl, hbefore, hafter⟩ := h
  rcases List.mem_append.mp hv with hbefore' | hafter'
  · have hbeaten := hbefore v hbefore'
    rw [hu.order_eq hm hv, Except.ok.injEq] at hbeaten
    exact compare_asymm hw hbeaten
  · rcases List.mem_cons.mp hafter' with rfl | hafter'
    · rw [compare_eq_iff_eq.mpr rfl]
      exact hw.symm
    · have hkept := hafter v hafter'
      rwa [hu.order_eq hv hm, ne_eq, Except.ok.injEq] at hkept

end FirstBest

lemma extremeFrom_cons {o : Ordering} (h : v.order best = .ok o) :
    extremeFrom wanted best (v :: items) =
      extremeFrom wanted (if o = wanted then v else best) items := by
  rw [extremeFrom, h]

/-- What one round keeps: the best of the items so far stays best with the next one. -/
lemma exists_extremeFrom (hw : wanted ≠ .eq) (h : Uniform (best :: items)) :
    ∃ m, extremeFrom wanted best items = .ok m ∧ FirstBest wanted (best :: items) m := by
  induction items generalizing best with
  | nil => exact ⟨best, rfl, .single⟩
  | cons v rest ih =>
    have hcompare := h.order_eq (v := v) (w := best) (by simp) (by simp)
    by_cases hbetter : compare v.rank best.rank = wanted
    · have hrest : Uniform (v :: rest) := h.mono (by simp)
      obtain ⟨m, hm, hfirst⟩ := ih hrest
      refine ⟨m, ?_, hfirst.cons ?_⟩
      · rwa [extremeFrom_cons hcompare, if_pos hbetter]
      · rw [h.order_eq (by simp [hfirst.mem]) (by simp), Except.ok.injEq]
        exact (compare_split hw hbetter m.rank).resolve_left
          (hfirst.not_beaten hw hrest List.mem_cons_self)
    · have hrest : Uniform (best :: rest) := h.mono (by simp)
      obtain ⟨m, hm, hfirst⟩ := ih hrest
      refine ⟨m, ?_, hfirst.skip hw h ?_⟩
      · rwa [extremeFrom_cons hcompare, if_neg hbetter]
      · rwa [hcompare, ne_eq, Except.ok.injEq]

lemma sortable_of_extremeFrom (hfloat : ∀ u ∈ best :: items, u.kind ≠ .float)
    (h : extremeFrom wanted best items = .ok m) : Sortable (best :: items) := by
  induction items generalizing best with
  | nil => exact .inl le_rfl
  | cons v rest ih =>
    obtain ⟨hbest, hmore⟩ := List.forall_mem_cons.mp hfloat
    obtain ⟨hv, hrest⟩ := List.forall_mem_cons.mp hmore
    cases ho : v.order best with
    | error e =>
      rw [extremeFrom, ho] at h
      cases h
    | ok o =>
      rw [extremeFrom_cons ho] at h
      split at h
      · obtain ⟨hordered, hkind⟩ := Value.isOrdered_of_order hv hbest ho
        have hordered' : best.IsOrdered := by rwa [Value.IsOrdered, ← hkind]
        exact .inr ((ih hmore h).uniform_cons hordered' hkind.symm)
      · have hsortable := ih (List.forall_mem_cons.mpr ⟨hbest, hrest⟩) h
        have huniform := hsortable.uniform_of_order hv hbest ho
        exact .inr (huniform.mono (List.Perm.swap v best rest).subset)

/-- Of its rank, the first of the least items is the first one. -/
lemma FirstBest.head?_filter (hu : Uniform items) (h : FirstBest .lt items m) :
    (items.filter (rank · = m.rank)).head? = some m := by
  have hm := h.mem
  obtain ⟨before, after, hitems, hbefore, -⟩ := h
  have hnone : before.filter (rank · = m.rank) = [] := by
    refine List.filter_eq_nil_iff.mpr fun v hv heq => ?_
    have hless := hbefore v hv
    rw [hu.order_eq hm (by simp [hitems, hv]), Except.ok.injEq, compare_lt_iff_lt] at hless
    exact hless.ne' (of_decide_eq_true heq)
  rw [hitems, List.filter_append, hnone, List.nil_append, List.filter_cons_of_pos (by simp)]
  rfl

/-- A stable sort puts the first of the least items first. -/
lemma FirstBest.head?_sortedBy (hu : Uniform items) (h : FirstBest .lt items m) :
    (sortedBy rank items).head? = some m := by
  have hmem : ∀ {v}, v ∈ sortedBy rank items ↔ v ∈ items := perm_sortedBy.mem_iff
  have hfirst := h.head?_filter hu
  have hpairwise := pairwise_sortedBy rank items
  rw [← filter_sortedBy] at hfirst
  cases hs : sortedBy rank items with
  | nil => rw [hs] at hfirst; cases hfirst
  | cons a rest =>
    rw [hs] at hmem hfirst hpairwise
    have hle : a.rank ≤ m.rank := by
      rcases List.mem_cons.mp (hmem.mpr h.mem) with rfl | hm
      · exact le_rfl
      · exact (List.pairwise_cons.mp hpairwise).1 m hm
    have hge : m.rank ≤ a.rank := by
      have hbeaten := h.not_beaten (by decide) hu (hmem.mp List.mem_cons_self)
      rwa [ne_eq, compare_lt_iff_lt, not_lt] at hbeaten
    rwa [List.filter_cons_of_pos (by simpa using le_antisymm hle hge)] at hfirst

/-- The last item of a stable sort is one of the greatest. -/
lemma FirstBest.rank_eq_of_getLast? (hu : Uniform items) (h : FirstBest .gt items m)
    (hlast : (sortedBy rank items).getLast? = some v) : m.rank = v.rank := by
  have hmem : ∀ {v}, v ∈ sortedBy rank items ↔ v ∈ items := perm_sortedBy.mem_iff
  have hpairwise := pairwise_sortedBy rank items
  obtain ⟨before, hsorted⟩ := List.getLast?_eq_some_iff.mp hlast
  rw [hsorted] at hmem hpairwise
  apply le_antisymm
  · rcases List.mem_append.mp (hmem.mpr h.mem) with hm | hm
    · exact (List.pairwise_append.mp hpairwise).2.2 m hm v List.mem_cons_self
    · rw [List.mem_singleton.mp hm]
  · have hbeaten := h.not_beaten (by decide) hu (hmem.mp (by simp : v ∈ before ++ [v]))
    rwa [ne_eq, compare_gt_iff_gt, not_lt] at hbeaten

/-! ### The filters -/

lemma run_sort : Registry.builtin.run? "sort" (.list items) [] =
    some ((sortItems items).map .list) := rfl

lemma run_sort_descending : Registry.builtin.run? "sort" (.list items) [.bool true] =
    some ((sortItems items).map fun sorted => .list sorted.reverse) := rfl

lemma run_min : Registry.builtin.run? "min" (.list items) [] =
    some (extreme .lt (.list items)) := rfl

lemma run_max : Registry.builtin.run? "max" (.list items) [] =
    some (extreme .gt (.list items)) := rfl

/-- The least and the greatest item are found in the lists that can be sorted. -/
lemma exists_extreme (h : Sortable items) (hne : items ≠ []) (hw : wanted ≠ .eq) :
    ∃ m, extreme wanted (.list items) = .ok m ∧ FirstBest wanted items m := by
  cases items with
  | nil => exact absurd rfl hne
  | cons v rest =>
    rcases h.single_or_uniform with ⟨u, hsingle⟩ | huniform
    · obtain ⟨rfl, rfl⟩ := List.cons.inj hsingle
      exact ⟨v, rfl, .single⟩
    · exact exists_extremeFrom hw huniform

lemma extreme_succeeds_iff (hfloat : ∀ v ∈ items, v.kind ≠ .float) (hw : wanted ≠ .eq) :
    (∃ m, extreme wanted (.list items) = .ok m) ↔ Sortable items := by
  constructor
  · rintro ⟨m, hm⟩
    cases items with
    | nil => exact .inl (Nat.zero_le 1)
    | cons v rest => exact sortable_of_extremeFrom hfloat hm
  · intro h
    cases items with
    | nil => exact ⟨_, rfl⟩
    | cons v rest =>
      obtain ⟨m, hm, -⟩ := exists_extreme h (List.cons_ne_nil v rest) hw
      exact ⟨m, hm⟩

lemma sort_succeeds_iff (hfloat : ∀ v ∈ items, v.kind ≠ .float) :
    (∃ w, (sortItems items).map Value.list = .ok w) ↔ Sortable items := by
  constructor
  · rintro ⟨w, hw⟩
    obtain ⟨sorted, hsorted, -⟩ := Except.exists_of_map hw
    exact sortable_of_sortItems hfloat hsorted
  · intro h
    exact ⟨.list (sortedBy rank items), by rw [sortItems_eq h]; rfl⟩

lemma exists_getLast? (hne : items ≠ []) : ∃ v, (sortedBy rank items).getLast? = some v := by
  rw [← Option.isSome_iff_exists, List.getLast?_isSome]
  exact fun hnil => hne (hnil ▸ perm_sortedBy.symm).eq_nil

lemma head?_eq_of_firstBest (h : Sortable items) (hm : FirstBest .lt items m) :
    (sortedBy rank items).head? = some m := by
  rcases h.single_or_uniform with ⟨v, rfl⟩ | huniform
  · rw [List.mem_singleton.mp hm.mem, sortedBy, List.mergeSort_singleton]
    rfl
  · exact hm.head?_sortedBy huniform

/-- The greatest item and the last one are alike, unless there is one item that is not like
itself. -/
lemma looseEq_of_firstBest (h : Sortable items) (hm : FirstBest .gt items m)
    (hlast : (sortedBy rank items).getLast? = some v)
    (hself : 2 ≤ items.length ∨ ∀ w ∈ items, w.Everywhere Value.NotNaN) :
    m.looseEq v = true := by
  have hv : v ∈ items := perm_sortedBy.mem_iff.mp (List.mem_of_getLast? hlast)
  rcases h.single_or_uniform with ⟨w, rfl⟩ | huniform
  · rw [List.mem_singleton.mp hm.mem, List.mem_singleton.mp hv]
    rcases hself with hlong | hself
    · simp at hlong
    · exact Value.looseEq_self w (hself w List.mem_cons_self)
  · exact (huniform.looseEq_iff hm.mem hv).mpr (hm.rank_eq_of_getLast? huniform hlast)

/-- Of lists without floats, `sort`, `min` and `max` accept those that have at most one item, only
integers or only strings. The result of `sort` is the one stable ascending order of the items, for a
true argument it is reversed, and to sort again changes nothing. Its first item is the choice of
`min`; the choice of `max` is the first of the greatest items, loosely equal to the last item of the
result, except that a single item with a float in it that is no number does not equal itself. Of no
items, both choose nothing. Any stable sort that only compares, and counts what cannot be compared
as equal, gives the same result and finds a fault in the same lists. -/
theorem sort_min_max_agree (items : List Value) (hfloat : ∀ v ∈ items, v.kind ≠ .float) :
    ((∃ w, Registry.builtin.run? "sort" (.list items) [] = some (.ok w)) ↔ Sortable items) ∧
    ((∃ w, Registry.builtin.run? "min" (.list items) [] = some (.ok w)) ↔ Sortable items) ∧
    ((∃ w, Registry.builtin.run? "max" (.list items) [] = some (.ok w)) ↔ Sortable items) ∧
    (Sortable items → ∃ sorted : List Value,
      (∀ other, StablySorted items other ↔ other = sorted) ∧
      Registry.builtin.run? "sort" (.list items) [] = some (.ok (.list sorted)) ∧
      Registry.builtin.run? "sort" (.list items) [.bool true] =
        some (.ok (.list sorted.reverse)) ∧
      Registry.builtin.run? "sort" (.list sorted) [] = some (.ok (.list sorted)) ∧
      (items ≠ [] → ∃ least greatest last,
        Registry.builtin.run? "min" (.list items) [] = some (.ok least) ∧
        sorted.head? = some least ∧
        Registry.builtin.run? "max" (.list items) [] = some (.ok greatest) ∧
        FirstBest .gt items greatest ∧
        sorted.getLast? = some last ∧
        (items.length = 1 → greatest = last) ∧
        ((2 ≤ items.length ∨ ∀ v ∈ items, v.Everywhere Value.NotNaN) →
          greatest.looseEq last = true))) ∧
    Registry.builtin.run? "min" (.list []) [] = some (.ok .undefined) ∧
    Registry.builtin.run? "max" (.list []) [] = some (.ok .undefined) ∧
    ∀ s : ComparisonSort items.length, s.Stable → ∀ sorted, s.sort items = .ok sorted ↔
      Registry.builtin.run? "sort" (.list items) [] = some (.ok (.list sorted)) := by
  simp only [run_sort, run_sort_descending, run_min, run_max, Option.some.injEq]
  refine ⟨sort_succeeds_iff hfloat, extreme_succeeds_iff hfloat (by decide),
    extreme_succeeds_iff hfloat (by decide), fun h => ?_, rfl, rfl, fun s hs sorted => ?_⟩
  · refine ⟨sortedBy rank items, fun _ => h.stablySorted_iff, ?_, ?_, ?_, fun hne => ?_⟩
    · rw [sortItems_eq h]
      rfl
    · rw [sortItems_eq h]
      rfl
    · rw [sortItems_eq (h.perm perm_sortedBy), sortedBy_sortedBy]
      rfl
    · obtain ⟨least, hmin, hleast⟩ := exists_extreme h hne (show Ordering.lt ≠ .eq by decide)
      obtain ⟨greatest, hmax, hgreatest⟩ := exists_extreme h hne (show Ordering.gt ≠ .eq by decide)
      obtain ⟨last, hlast⟩ := exists_getLast? hne
      have hmem : last ∈ items := perm_sortedBy.mem_iff.mp (List.mem_of_getLast? hlast)
      refine ⟨least, greatest, last, hmin, head?_eq_of_firstBest h hleast, hmax, hgreatest, hlast,
        fun hsingle => ?_, looseEq_of_firstBest h hgreatest hlast⟩
      obtain ⟨v, rfl⟩ := List.length_eq_one_iff.mp hsingle
      exact (List.mem_singleton.mp hgreatest.mem).trans (List.mem_singleton.mp hmem).symm
  · rw [hs.sort_eq_ok_iff hfloat, ← sortItems_eq_ok_iff hfloat]
    cases sortItems items with
    | error e => simp [Except.map]
    | ok s => simp [Except.map]

/-- A single item that is not equal to itself: it is the greatest one and the last one. -/
theorem max_unlike_last : ¬ ∀ (items sorted : List Value) (last greatest : Value),
    (∀ v ∈ items, v.kind ≠ .float) →
    Registry.builtin.run? "sort" (.list items) [] = some (.ok (.list sorted)) →
    sorted.getLast? = some last →
    Registry.builtin.run? "max" (.list items) [] = some (.ok greatest) →
    greatest.looseEq last = true := by
  intro h
  have hself := h [.list [.float (0 / 0)]] _ _ _ (by simp [Value.kind]) rfl rfl rfl
  exact absurd hself (by decide)

/-- Equal strings stay in their order, safe or not. -/
theorem sort_min_max_agree_strings :
    (∀ v ∈ [Value.str "b", .safe "a", .safe "b", .str "a"], v.kind ≠ .float) ∧
    (∀ other, StablySorted [.str "b", .safe "a", .safe "b", .str "a"] other ↔
      other = [.safe "a", .str "a", .str "b", .safe "b"]) ∧
    ∃ s : ComparisonSort 4, s.Stable ∧
      s.sort [.str "b", .safe "a", .safe "b", .str "a"] =
        .ok [.safe "a", .str "a", .str "b", .safe "b"] := by
  have hfloat : ∀ v ∈ [Value.str "b", .safe "a", .safe "b", .str "a"], v.kind ≠ .float := by
    simp [Value.kind]
  obtain ⟨-, -, -, h, -, -, hany⟩ := sort_min_max_agree _ hfloat
  obtain ⟨sorted, hstable, hsort, -⟩ := h (.inr (.inr (by simp [Value.kind])))
  obtain ⟨s, hs⟩ := ComparisonSort.exists_stable 4
  have heq : sorted = [.safe "a", .str "a", .str "b", .safe "b"] := by
    rw [show Registry.builtin.run? "sort" (.list [.str "b", .safe "a", .safe "b", .str "a"]) [] =
      some (.ok (.list [.safe "a", .str "a", .str "b", .safe "b"])) from rfl] at hsort
    simpa using hsort.symm
  rw [heq] at hstable hsort
  exact ⟨hfloat, hstable, s, hs, (hany s hs _).mpr hsort⟩

end Stencil.Filter
