import Mathlib.Data.Fintype.Prod
import Stencil.Proofs.StableSort

/-! Sorts that only compare. Such a sort learns nothing of its items but what comparisons answer;
where two items cannot be compared, it is told that they are equal, and the first fault is kept.
Whatever it asks, and in whichever order: if there are items that cannot be compared, it asks for
two such items, since otherwise it could not know which of two groups comes first. -/
namespace Stencil

/-- What a sort does that only compares: it asks how the items at two places compare and goes on
from the answer, until it gives the places in their new order. -/
inductive ComparisonSort (n : ℕ) where
  | done (places : List (Fin n))
  | ask (i j : Fin n) (distinct : i ≠ j) (next : Ordering → ComparisonSort n)

namespace ComparisonSort

variable {n : ℕ} {κ : Type} [LinearOrder κ]

/-- The places in their new order, where each comparison has an answer. -/
def places (compared : Fin n → Fin n → Ordering) : ComparisonSort n → List (Fin n)
  | done places => places
  | ask i j _ next => (next (compared i j)).places compared

/-- Items are sorted by their keys, whatever these are, and equal ones stay in their order. -/
def Stable (s : ComparisonSort n) : Prop :=
  ∀ {κ : Type} [LinearOrder κ] (key : Fin n → κ),
    s.places (fun i j => compare (key i) (key j)) = sortedBy key (List.finRange n)

/-- The places in their new order and the first fault, where comparisons may fail. -/
def noting (order : Fin n → Fin n → Except Fault Ordering) (fault : Option Fault) :
    ComparisonSort n → List (Fin n) × Option Fault
  | done places => (places, fault)
  | ask i j _ next =>
    match order i j with
    | .ok o => (next o).noting order fault
    | .error e => (next .eq).noting order (fault.or (some e))

/-- The items in their new order, if all comparisons have an answer. -/
def sort (items : List Value) (s : ComparisonSort items.length) : Except Fault (List Value) :=
  match s.noting (fun i j => (items.get i).order (items.get j)) none with
  | (places, none) => .ok (places.map items.get)
  | (_, some e) => .error e

variable {s : ComparisonSort n} {order : Fin n → Fin n → Except Fault Ordering}

/-- A fault is kept. -/
lemma noting_fault (e : Fault) : (s.noting order (some e)).2 = some e := by
  induction s with
  | done places => rfl
  | ask i j distinct next ih =>
    rw [noting]
    split
    · exact ih _
    · exact ih _

lemma noting_of_ok {key : Fin n → κ}
    (h : ∀ i j, i ≠ j → order i j = .ok (compare (key i) (key j))) :
    s.noting order none = (s.places fun i j => compare (key i) (key j), none) := by
  induction s with
  | done places => rfl
  | ask i j distinct next ih =>
    rw [noting, h i j distinct, places]
    exact ih _

/-- Without a fault, the answers are those that keys give which agree with all the answers that
there are. -/
lemma noting_of_agree {key : Fin n → κ}
    (h : ∀ i j o, i ≠ j → order i j = .ok o → o = compare (key i) (key j))
    (hfault : (s.noting order none).2 = none) :
    (s.noting order none).1 = s.places fun i j => compare (key i) (key j) := by
  induction s with
  | done places => rfl
  | ask i j distinct next ih =>
    rw [noting] at hfault ⊢
    split at hfault
    · rename_i o ho
      rw [places, ← h i j o distinct ho]
      exact ih _ hfault
    · rw [Option.none_or, noting_fault] at hfault
      cases hfault

/-- If items of different groups cannot be compared and no fault comes up, there is one group. -/
lemma Stable.group_eq (hs : s.Stable) {group : Fin n → ℕ} {key : Fin n → κ}
    (h : ∀ i j o, i ≠ j → order i j = .ok o →
      group i = group j ∧ o = compare (key i) (key j))
    (hfault : (s.noting order none).2 = none) (i j : Fin n) : group i = group j := by
  -- The groups may be put in ascending or in descending order: the sort cannot tell.
  have hagree {γ : Type} [LinearOrder γ] (f : ℕ → γ) :
      (s.noting order none).1 =
        sortedBy (fun i => toLex (f (group i), key i)) (List.finRange n) := by
    rw [← hs]
    refine noting_of_agree (fun i j o hij ho => ?_) hfault
    obtain ⟨hgroup, rfl⟩ := h i j o hij ho
    rw [hgroup]
    exact (compare_toLex_right _ _).symm
  have hup : (s.noting order none).1.Pairwise (group · ≤ group ·) := by
    rw [hagree fun g => g]
    refine List.Pairwise.imp (fun {i j} hij => ?_) (pairwise_sortedBy _ _)
    exact Prod.Lex.monotone_fst _ _ hij
  have hdown : (s.noting order none).1.Pairwise (group · ≥ group ·) := by
    rw [hagree OrderDual.toDual]
    refine List.Pairwise.imp (fun {i j} hij => ?_) (pairwise_sortedBy _ _)
    exact Prod.Lex.monotone_fst _ _ hij
  have hmem : ∀ i, i ∈ (s.noting order none).1 := by
    intro i
    rw [hagree fun g => g]
    exact perm_sortedBy.mem_iff.mpr (List.mem_finRange i)
  have hle : ∀ i j, group i ≤ group j := fun i j =>
    List.Pairwise.forall_of_forall_of_flip (R := (group · ≤ group ·)) (fun _ _ => le_rfl) hup hdown
      (hmem i) (hmem j)
  exact le_antisymm (hle i j) (hle j i)

section Asking

/-- Two different places. -/
abbrev Pair (n : ℕ) := {p : Fin n × Fin n // p.1 ≠ p.2}

/-- Asks for all the pairs and sorts by the answers and by what is known of the others. -/
def asking (known : Pair n → Ordering) : List (Pair n) → ComparisonSort n
  | [] =>
    done ((List.finRange n).mergeSort fun i j =>
      if h : i ≠ j then known ⟨(i, j), h⟩ != .gt else true)
  | p :: pairs =>
    ask p.1.1 p.1.2 p.2 fun o => asking (fun q => if q = p then o else known q) pairs

variable {compared : Fin n → Fin n → Ordering}

lemma places_asking {known : Pair n → Ordering} {pairs : List (Pair n)}
    (h : ∀ p, p ∉ pairs → known p = compared p.1.1 p.1.2) :
    (asking known pairs).places compared =
      (List.finRange n).mergeSort fun i j => if i ≠ j then compared i j != .gt else true := by
  induction pairs generalizing known with
  | nil => simp [asking, places, h]
  | cons p pairs ih =>
    rw [asking, places]
    refine ih fun q hq => ?_
    split
    · rename_i hqp
      rw [hqp]
    · rename_i hqp
      exact h q (by simp [hqp, hq])

/-- There are stable sorts of any number of items. -/
lemma exists_stable (n : ℕ) : ∃ s : ComparisonSort n, s.Stable := by
  refine ⟨asking (fun _ => .eq) (Finset.univ : Finset (Pair n)).toList, fun key => ?_⟩
  rw [places_asking fun p hp => absurd (Finset.mem_toList.mpr (Finset.mem_univ p)) hp, sortedBy]
  congr 1
  funext i j
  rw [Bool.eq_iff_iff]
  split
  · simp [compare_le_iff_le]
  · rename_i hsame
    simp [not_not.mp hsame]

end Asking

section Values

variable {items : List Value} {s : ComparisonSort items.length} {i j : Fin items.length}

/-- The items that can be compared with each other are in one group. -/
def group (items : List Value) (i : Fin items.length) : ℕ :=
  match (items.get i).kind with
  | .integer => 0
  | .string => 1
  | _ => i + 2

lemma group_cases (items : List Value) (i : Fin items.length) :
    (items.get i).kind = .integer ∧ group items i = 0 ∨
      (items.get i).kind = .string ∧ group items i = 1 ∨ group items i = i + 2 := by
  unfold group
  split
  · rename_i h
    exact .inl ⟨h, rfl⟩
  · rename_i h
    exact .inr (.inl ⟨h, rfl⟩)
  · exact .inr (.inr rfl)

lemma kind_of_group_zero (h : group items i = 0) : (items.get i).kind = .integer := by
  rcases group_cases items i with ⟨hkind, -⟩ | ⟨-, hone⟩ | hother
  · exact hkind
  · omega
  · omega

lemma kind_of_group_one (h : group items i = 1) : (items.get i).kind = .string := by
  rcases group_cases items i with ⟨-, hzero⟩ | ⟨hkind, -⟩ | hother
  · omega
  · exact hkind
  · omega

lemma group_eq_of_order (hfloat : ∀ v ∈ items, v.kind ≠ .float) {o : Ordering}
    (h : (items.get i).order (items.get j) = .ok o) :
    group items i = group items j ∧ o = compare (items.get i).rank (items.get j).rank := by
  obtain ⟨hordered, hkind⟩ :=
    Value.isOrdered_of_order (hfloat _ (List.get_mem _ _)) (hfloat _ (List.get_mem _ _)) h
  rw [Value.order_eq hordered hkind] at h
  cases h
  refine ⟨?_, rfl⟩
  unfold group
  rcases hordered with hi | hi
  · rw [← hkind, hi]
  · rw [← hkind, hi]

/-- A list with one group can be sorted. -/
lemma sortable_of_group_eq (h : ∀ i j, group items i = group items j) : Value.Sortable items := by
  rw [Value.Sortable, or_iff_not_imp_left]
  intro hlong
  have hzero : group items ⟨0, by omega⟩ = 0 ∨ group items ⟨0, by omega⟩ = 1 := by
    have hgroup := h ⟨0, by omega⟩ ⟨1, by omega⟩
    have hfirst := group_cases items ⟨0, by omega⟩
    have hsecond := group_cases items ⟨1, by omega⟩
    simp only at hfirst hsecond
    omega
  rcases hzero with hzero | hzero
  · refine .inl fun v hv => ?_
    obtain ⟨i, rfl⟩ := List.mem_iff_get.mp hv
    exact kind_of_group_zero ((h i _).trans hzero)
  · refine .inr fun v hv => ?_
    obtain ⟨i, rfl⟩ := List.mem_iff_get.mp hv
    exact kind_of_group_one ((h i _).trans hzero)

lemma order_get (h : Value.Sortable items) (hij : i ≠ j) :
    (items.get i).order (items.get j) =
      .ok (compare (items.get i).rank (items.get j).rank) := by
  rcases h with hshort | huniform
  · omega
  · exact huniform.order_eq (List.get_mem _ _) (List.get_mem _ _)

lemma Stable.sort_of_sortable (hs : s.Stable) (h : Value.Sortable items) :
    s.sort items = .ok (sortedBy Value.rank items) := by
  have hnoting : s.noting (fun i j => (items.get i).order (items.get j)) none =
      (s.places fun i j => compare (items.get i).rank (items.get j).rank, none) :=
    noting_of_ok fun i j hij => order_get h hij
  rw [sort, hnoting, hs]
  simp only
  rw [map_sortedBy, List.map_get_finRange]

lemma Stable.sortable_of_sort (hs : s.Stable) (hfloat : ∀ v ∈ items, v.kind ≠ .float)
    {sorted : List Value} (h : s.sort items = .ok sorted) : Value.Sortable items := by
  unfold sort at h
  split at h
  · rename_i places hnoting
    refine sortable_of_group_eq (hs.group_eq (fun i j o _ ho => group_eq_of_order hfloat ho) ?_)
    rw [hnoting]
  · cases h

/-- Any stable sort sorts the lists that can be sorted, and finds out about all others. -/
lemma Stable.sort_eq_ok_iff (hs : s.Stable) (hfloat : ∀ v ∈ items, v.kind ≠ .float)
    {sorted : List Value} :
    s.sort items = .ok sorted ↔ Value.Sortable items ∧ sorted = sortedBy Value.rank items := by
  constructor
  · intro h
    have hsortable := hs.sortable_of_sort hfloat h
    rw [hs.sort_of_sortable hsortable] at h
    cases h
    exact ⟨hsortable, rfl⟩
  · rintro ⟨hsortable, rfl⟩
    exact hs.sort_of_sortable hsortable

end Values

end ComparisonSort

end Stencil
