import Mathlib.Data.List.Sort
import Mathlib.Data.Prod.Lex
import Mathlib.Data.String.Basic
import Stencil.Value.Compare

/-! What it means to sort values: integers by size or strings by their text, and equal ones in the
order in which they are given. There is one way to do so. -/
namespace Stencil

section Keys

variable {α β κ : Type} [LinearOrder κ] {key : α → κ} {s t : List α}

lemma mem_of_filter_eq (h : ∀ k, s.filter (key · = k) = t.filter (key · = k)) {a : α}
    (ha : a ∈ s) : a ∈ t := by
  have hmem : a ∈ t.filter (key · = key a) := by
    rw [← h]
    exact List.mem_filter.mpr ⟨ha, decide_eq_true rfl⟩
  exact List.mem_of_mem_filter hmem

/-- Ascending lists are equal if the items of each key stand in them in the same order. -/
lemma eq_of_filter_eq (hs : s.Pairwise (key · ≤ key ·)) (ht : t.Pairwise (key · ≤ key ·))
    (h : ∀ k, s.filter (key · = k) = t.filter (key · = k)) : s = t := by
  induction s generalizing t with
  | nil =>
    refine (List.eq_nil_iff_forall_not_mem.mpr fun a ha => ?_).symm
    exact List.not_mem_nil (mem_of_filter_eq (fun k => (h k).symm) ha)
  | cons a s ih =>
    cases t with
    | nil => exact absurd (mem_of_filter_eq h List.mem_cons_self) List.not_mem_nil
    | cons b t =>
      obtain ⟨ha, hs'⟩ := List.pairwise_cons.mp hs
      obtain ⟨hb, ht'⟩ := List.pairwise_cons.mp ht
      -- Each head is among the items of the other list, so that neither key is the greater one.
      have hkey : key a = key b := by
        apply le_antisymm
        · rcases List.mem_cons.mp (mem_of_filter_eq (fun k => (h k).symm) List.mem_cons_self) with
            rfl | hmem
          · exact le_rfl
          · exact ha b hmem
        · rcases List.mem_cons.mp (mem_of_filter_eq h List.mem_cons_self) with rfl | hmem
          · exact le_rfl
          · exact hb a hmem
      have hhead := h (key b)
      rw [List.filter_cons_of_pos (by simpa using hkey), List.filter_cons_of_pos (by simp),
        List.cons.injEq] at hhead
      obtain ⟨rfl, htail⟩ := hhead
      have hrest : ∀ k, s.filter (key · = k) = t.filter (key · = k) := by
        intro k
        by_cases hk : key a = k
        · rwa [← hk]
        · have hk' := h k
          rwa [List.filter_cons_of_neg (by simpa using hk),
            List.filter_cons_of_neg (by simpa using hk)] at hk'
      rw [ih hs' ht' hrest]

/-- A list that keeps the order among the items of a kind has the same items of that kind. -/
lemma filter_eq_of_sublist {p : α → Bool} (hperm : s.Perm t) (h : (t.filter p).Sublist s) :
    s.filter p = t.filter p := by
  have hsub : (t.filter p).Sublist (s.filter p) := by
    simpa only [List.filter_filter, Bool.and_self] using h.filter p
  exact (hsub.eq_of_length (hperm.filter p).length_eq.symm).symm

/-- The items by their keys, and those of one key in the order in which they are given. -/
def sortedBy (key : α → κ) (items : List α) : List α :=
  items.mergeSort fun a b => decide (key a ≤ key b)

variable {items : List α}

lemma perm_sortedBy : (sortedBy key items).Perm items := List.mergeSort_perm items _

lemma le_key_trans (a b c : α) (hab : decide (key a ≤ key b) = true)
    (hbc : decide (key b ≤ key c) = true) : decide (key a ≤ key c) = true :=
  decide_eq_true ((of_decide_eq_true hab).trans (of_decide_eq_true hbc))

lemma le_key_total (a b : α) : (decide (key a ≤ key b) || decide (key b ≤ key a)) = true := by
  simpa using le_total (key a) (key b)

lemma pairwise_sortedBy (key : α → κ) (items : List α) :
    (sortedBy key items).Pairwise (key · ≤ key ·) :=
  (List.pairwise_mergeSort le_key_trans le_key_total items).imp of_decide_eq_true

lemma pairwise_filter (k : κ) : (items.filter (key · = k)).Pairwise (key · = key ·) := by
  refine List.pairwise_of_forall_mem_list fun a ha b hb => ?_
  have hk := of_decide_eq_true (List.mem_filter.mp ha).2
  have hk' := of_decide_eq_true (List.mem_filter.mp hb).2
  exact hk.trans hk'.symm

lemma filter_sortedBy (k : κ) :
    (sortedBy key items).filter (key · = k) = items.filter (key · = k) := by
  have hascending : (items.filter (key · = k)).Pairwise fun a b => decide (key a ≤ key b) :=
    (pairwise_filter k).imp fun h => decide_eq_true h.le
  exact filter_eq_of_sublist perm_sortedBy
    (List.sublist_mergeSort le_key_trans le_key_total hascending List.filter_sublist)

lemma eq_sortedBy (hs : s.Pairwise (key · ≤ key ·))
    (h : ∀ k, s.filter (key · = k) = items.filter (key · = k)) : s = sortedBy key items :=
  eq_of_filter_eq hs (pairwise_sortedBy _ _) fun k => (h k).trans (filter_sortedBy k).symm

/-- What is sorted stays as it is. -/
lemma sortedBy_sortedBy : sortedBy key (sortedBy key items) = sortedBy key items :=
  (eq_sortedBy (pairwise_sortedBy _ _) fun _ => rfl).symm

lemma map_sortedBy (f : β → α) (s : List β) :
    (sortedBy (fun b => key (f b)) s).map f = sortedBy key (s.map f) :=
  List.map_mergeSort fun _ _ _ _ => rfl

/-- Pairs with one first part are ordered by the second one. -/
lemma compare_toLex_right {a : α} [LinearOrder α] (x y : κ) :
    compare (toLex (a, x)) (toLex (a, y)) = compare x y := by
  have hmono : StrictMono fun x : κ => toLex (a, x) := by
    intro x y h
    exact Prod.Lex.toLex_lt_toLex.mpr (.inr ⟨rfl, h⟩)
  have h := hmono.cmp_map_eq x y
  rwa [cmp_eq_compare, cmp_eq_compare] at h

/-- What lies beyond a key lies beyond any third one, or the third one lies beyond that key. -/
lemma compare_split {wanted : Ordering} (hw : wanted ≠ .eq) {a b : κ} (h : compare a b = wanted)
    (c : κ) : compare a c = wanted ∨ compare c b = wanted := by
  cases wanted with
  | eq => exact absurd rfl hw
  | lt =>
    have hlt := compare_lt_iff_lt.mp h
    exact (hlt.lt_or_gt c).symm.imp compare_lt_iff_lt.mpr compare_lt_iff_lt.mpr
  | gt =>
    have hgt := compare_gt_iff_gt.mp h
    exact (hgt.lt_or_gt c).imp compare_gt_iff_gt.mpr compare_gt_iff_gt.mpr

lemma compare_asymm {wanted : Ordering} (hw : wanted ≠ .eq) {a b : κ} (h : compare a b = wanted) :
    compare b a ≠ wanted := by
  rw [Std.OrientedOrd.eq_swap, h]
  cases wanted with
  | eq => exact absurd rfl hw
  | lt => simp
  | gt => simp

end Keys

namespace Value

/-- Integers and strings are ordered among themselves. -/
def IsOrdered (v : Value) : Prop := v.kind = .integer ∨ v.kind = .string

/-- What ordered values of one kind are ordered by. -/
def rank : Value → ℤ ×ₗ String
  | .int i => toLex (i.toInt, "")
  | .str s | .safe s => toLex (0, s)
  | _ => toLex (0, "")

variable {v w : Value}

lemma exists_int (h : v.kind = .integer) : ∃ i, v = .int i := by
  cases v <;> cases h
  exact ⟨_, rfl⟩

lemma exists_text (h : v.kind = .string) : ∃ s, v = .str s ∨ v = .safe s := by
  cases v <;> cases h
  · exact ⟨_, .inl rfl⟩
  · exact ⟨_, .inr rfl⟩

lemma compare_toLex_int (m n : ℤ) : compare (toLex (m, "")) (toLex (n, "")) = compare m n := by
  have hmono : StrictMono fun m : ℤ => toLex (m, "") := by
    intro m n h
    exact Prod.Lex.toLex_lt_toLex.mpr (.inl h)
  have h := hmono.cmp_map_eq m n
  rwa [cmp_eq_compare, cmp_eq_compare] at h

/-- Values of one ordered kind are ordered by their ranks. -/
lemma order_eq (hv : v.IsOrdered) (h : v.kind = w.kind) :
    v.order w = .ok (compare v.rank w.rank) := by
  rcases hv with hv | hv
  · obtain ⟨m, rfl⟩ := exists_int hv
    obtain ⟨n, rfl⟩ := exists_int (h.symm.trans hv)
    exact congrArg Except.ok (compare_toLex_int _ _).symm
  · obtain ⟨s, rfl | rfl⟩ := exists_text hv
    all_goals
      obtain ⟨t, rfl | rfl⟩ := exists_text (h.symm.trans hv)
      all_goals exact congrArg Except.ok (compare_toLex_right s t).symm

/-- They are loosely equal where their ranks are equal. -/
lemma looseEq_iff (hv : v.IsOrdered) (h : v.kind = w.kind) :
    v.looseEq w = true ↔ v.rank = w.rank := by
  rcases hv with hv | hv
  · obtain ⟨m, rfl⟩ := exists_int hv
    obtain ⟨n, rfl⟩ := exists_int (h.symm.trans hv)
    simp [looseEq, rank, Int64.toInt_inj]
  · obtain ⟨s, rfl | rfl⟩ := exists_text hv
    all_goals
      obtain ⟨t, rfl | rfl⟩ := exists_text (h.symm.trans hv)
      all_goals simp [looseEq, rank]

lemma kind_of_float? {x : Float} (h : v.float? = some x) (hv : v.kind ≠ .float) :
    v.kind = .integer := by
  cases v with
  | int i => rfl
  | float y => exact absurd rfl hv
  | _ => cases h

lemma kind_of_text? {s : String} (h : v.text? = some s) : v.kind = .string := by
  cases v with
  | str t => rfl
  | safe t => rfl
  | _ => cases h

/-- Of values other than floats, only those of one ordered kind can be ordered. -/
lemma isOrdered_of_order (hv : v.kind ≠ .float) (hw : w.kind ≠ .float) {o : Ordering}
    (h : v.order w = .ok o) : v.IsOrdered ∧ v.kind = w.kind := by
  unfold order at h
  split at h
  · exact ⟨.inl rfl, rfl⟩
  · split at h
    · rename_i hx hy
      have hkind := kind_of_float? hx hv
      exact ⟨.inl hkind, hkind.trans (kind_of_float? hy hw).symm⟩
    · rename_i hs ht _
      have hkind := kind_of_text? hs
      exact ⟨.inr hkind, hkind.trans (kind_of_text? ht).symm⟩
    · cases h

/-- All items are integers, or all are strings. -/
def Uniform (items : List Value) : Prop :=
  (∀ v ∈ items, v.kind = .integer) ∨ ∀ v ∈ items, v.kind = .string

/-- A list that can be sorted: also a single item of any kind can. -/
def Sortable (items : List Value) : Prop := items.length ≤ 1 ∨ Uniform items

/-- The items in ascending order, and loosely equal ones in the order in which they are given. -/
structure StablySorted (items sorted : List Value) : Prop where
  perm : sorted.Perm items
  ascending : sorted.Pairwise fun v w => ∃ o, v.order w = .ok o ∧ o ≠ .gt
  stable : ∀ v ∈ items, sorted.filter (v.looseEq ·) = items.filter (v.looseEq ·)

variable {items sorted : List Value}

lemma Uniform.mono (h : Uniform items) {more : List Value} (hmore : more ⊆ items) : Uniform more :=
  h.imp (fun h v hv => h v (hmore hv)) fun h v hv => h v (hmore hv)

lemma Sortable.single_or_uniform (h : Sortable items) : (∃ v, items = [v]) ∨ Uniform items := by
  rcases h with hshort | huniform
  · match items, hshort with
    | [], _ => exact .inr (.inl fun _ hv => absurd hv List.not_mem_nil)
    | [v], _ => exact .inl ⟨v, rfl⟩
  · exact .inr huniform

lemma uniform_cons_iff : Uniform (v :: items) ↔ v.IsOrdered ∧ ∀ w ∈ items, w.kind = v.kind := by
  simp only [Uniform, IsOrdered, List.forall_mem_cons]
  constructor
  · rintro (⟨hv, hitems⟩ | ⟨hv, hitems⟩)
    · exact ⟨.inl hv, fun w hw => (hitems w hw).trans hv.symm⟩
    · exact ⟨.inr hv, fun w hw => (hitems w hw).trans hv.symm⟩
  · rintro ⟨hv | hv, hitems⟩
    · exact .inl ⟨hv, fun w hw => (hitems w hw).trans hv⟩
    · exact .inr ⟨hv, fun w hw => (hitems w hw).trans hv⟩

/-- An ordered value of the kind of the first item fits the list. -/
lemma Sortable.uniform_cons (h : Sortable (w :: items)) (hv : v.IsOrdered)
    (hkind : v.kind = w.kind) : Uniform (v :: w :: items) := by
  rw [uniform_cons_iff, List.forall_mem_cons]
  refine ⟨hv, hkind.symm, ?_⟩
  rcases h with hshort | huniform
  · cases items with
    | nil => simp
    | cons u items => simp at hshort
  · exact fun u hu => ((uniform_cons_iff.mp huniform).2 u hu).trans hkind.symm

/-- Wherever a value is compared with the first item, it fits the list or there is a fault. -/
lemma Sortable.uniform_of_order (h : Sortable (w :: items)) (hv : v.kind ≠ .float)
    (hw : w.kind ≠ .float) {o : Ordering} (ho : v.order w = .ok o) :
    Uniform (v :: w :: items) := by
  obtain ⟨hordered, hkind⟩ := isOrdered_of_order hv hw ho
  exact h.uniform_cons hordered hkind

lemma Sortable.perm (h : Sortable items) (hperm : sorted.Perm items) : Sortable sorted := by
  rcases h with hshort | huniform
  · exact .inl (hperm.length_eq.trans_le hshort)
  · exact .inr (huniform.mono hperm.subset)

namespace Uniform

lemma isOrdered (h : Uniform items) (hv : v ∈ items) : v.IsOrdered :=
  h.imp (fun h => h v hv) fun h => h v hv

lemma kind_eq (h : Uniform items) (hv : v ∈ items) (hw : w ∈ items) : v.kind = w.kind := by
  rcases h with h | h
  · exact (h v hv).trans (h w hw).symm
  · exact (h v hv).trans (h w hw).symm

lemma order_eq (h : Uniform items) (hv : v ∈ items) (hw : w ∈ items) :
    v.order w = .ok (compare v.rank w.rank) :=
  Value.order_eq (h.isOrdered hv) (h.kind_eq hv hw)

lemma looseEq_iff (h : Uniform items) (hv : v ∈ items) (hw : w ∈ items) :
    v.looseEq w = true ↔ v.rank = w.rank :=
  Value.looseEq_iff (h.isOrdered hv) (h.kind_eq hv hw)

lemma order_ne_gt_iff (h : Uniform items) (hv : v ∈ items) (hw : w ∈ items) :
    (∃ o, v.order w = .ok o ∧ o ≠ .gt) ↔ v.rank ≤ w.rank := by
  simp [h.order_eq hv hw, compare_le_iff_le]

lemma filter_looseEq (h : Uniform items) (hv : v ∈ items) (hsorted : sorted ⊆ items) :
    sorted.filter (v.looseEq ·) = sorted.filter (rank · = v.rank) := by
  refine List.filter_congr fun w hw => ?_
  rw [Bool.eq_iff_iff, h.looseEq_iff hv (hsorted hw), decide_eq_true_eq]
  exact eq_comm

/-- A sorted list is in the order of the ranks, which settles it. -/
lemma eq_sortedBy (h : Uniform items) (hsorted : StablySorted items sorted) :
    sorted = sortedBy rank items := by
  have hmem : ∀ {v}, v ∈ sorted ↔ v ∈ items := hsorted.perm.mem_iff
  refine Stencil.eq_sortedBy ?_ fun k => ?_
  · refine hsorted.ascending.imp_of_mem fun hv hw hle => ?_
    exact (h.order_ne_gt_iff (hmem.mp hv) (hmem.mp hw)).mp hle
  · by_cases hk : ∃ v ∈ items, v.rank = k
    · obtain ⟨v, hv, rfl⟩ := hk
      rw [← h.filter_looseEq hv hsorted.perm.subset, ← h.filter_looseEq hv (List.Subset.refl _)]
      exact hsorted.stable v hv
    · push Not at hk
      rw [List.filter_eq_nil_iff.mpr (by simpa [hmem] using hk),
        List.filter_eq_nil_iff.mpr (by simpa using hk)]

lemma stablySorted (h : Uniform items) : StablySorted items (sortedBy rank items) where
  perm := perm_sortedBy
  ascending := by
    refine (pairwise_sortedBy _ _).imp_of_mem fun hv hw hle => ?_
    exact (h.order_ne_gt_iff (perm_sortedBy.mem_iff.mp hv) (perm_sortedBy.mem_iff.mp hw)).mpr hle
  stable := by
    intro v hv
    rw [h.filter_looseEq hv perm_sortedBy.subset, h.filter_looseEq hv (List.Subset.refl _)]
    exact filter_sortedBy _

end Uniform

/-- A list that can be sorted can be sorted in one way. -/
lemma Sortable.stablySorted_iff (h : Sortable items) :
    StablySorted items sorted ↔ sorted = sortedBy rank items := by
  rcases h.single_or_uniform with ⟨v, rfl⟩ | huniform
  · rw [sortedBy, List.mergeSort_singleton]
    constructor
    · exact fun hsorted => List.perm_singleton.mp hsorted.perm
    · rintro rfl
      exact ⟨List.Perm.refl _, List.pairwise_singleton _ _, fun _ _ => rfl⟩
  · exact ⟨huniform.eq_sortedBy, fun hsorted => hsorted ▸ huniform.stablySorted⟩

end Value

end Stencil
