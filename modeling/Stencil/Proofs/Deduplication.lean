import Stencil.Filter.Builtin
import Stencil.Proofs.EmbeddedJson

/-! Among values without floats, loose equality says that two values read the same once null stands
for nothing and plain text for safe text. So it is an equivalence that no text of a value can tell
apart, and the filter `unique` keeps the first member of each class. -/
namespace Stencil

namespace Value

mutual

/-- Values without floats are loosely equal if they are the same plain value. -/
lemma looseEq_iff_plain : ∀ v w : Value, v.Everywhere NotFloat → w.Everywhere NotFloat →
    (v.looseEq w = true ↔ v.plain = w.plain)
  | .float _, _, hv, _ => absurd rfl hv
  | .list items, w, hv, hw => by
    cases w with
    | list others =>
      rw [looseEq, plain, plain, list.injEq]
      exact looseEqAll_iff_plain items others hv.2 hw.2
    | _ => simp [looseEq, plain]
  | .map entries, w, hv, hw => by
    cases w with
    | map others =>
      rw [looseEq, plain, plain, map.injEq]
      exact looseEqEntries_iff_plain entries others hv.2 hw.2
    | _ => simp [looseEq, plain]
  | .int _, w, _, hw => by
    cases w with
    | float x => exact absurd rfl hw
    | _ => simp [looseEq, plain]
  | .undefined, w, _, _ | .null, w, _, _ | .bool _, w, _, _ | .str _, w, _, _
  | .safe _, w, _, _ => by
    cases w <;> simp [looseEq, plain]

lemma looseEqAll_iff_plain : ∀ vs ws : List Value, EverywhereAll NotFloat vs →
    EverywhereAll NotFloat ws → (looseEqAll vs ws = true ↔ plainAll vs = plainAll ws)
  | [], [], _, _ => by simp [looseEqAll]
  | [], _ :: _, _, _ | _ :: _, [], _, _ => by simp [looseEqAll, plainAll]
  | v :: vs, w :: ws, hv, hw => by
    rw [looseEqAll, plainAll, plainAll, Bool.and_eq_true, List.cons.injEq,
      looseEq_iff_plain v w hv.1 hw.1, looseEqAll_iff_plain vs ws hv.2 hw.2]

lemma looseEqEntries_iff_plain : ∀ vs ws : List (String × Value), EverywhereEntries NotFloat vs →
    EverywhereEntries NotFloat ws →
      (looseEqEntries vs ws = true ↔ plainEntries vs = plainEntries ws)
  | [], [], _, _ => by simp [looseEqEntries]
  | [], _ :: _, _, _ | _ :: _, [], _, _ => by simp [looseEqEntries, plainEntries]
  | (k, v) :: vs, (l, w) :: ws, hv, hw => by
    rw [looseEqEntries, plainEntries, plainEntries, Bool.and_eq_true, Bool.and_eq_true, beq_iff_eq,
      List.cons.injEq, Prod.mk.injEq, looseEq_iff_plain v w hv.1 hw.1,
      looseEqEntries_iff_plain vs ws hv.2 hw.2]

end

mutual

/-- The plain value has the same JSON document. -/
lemma toJson_plain : ∀ v : Value, v.plain.toJson = v.toJson
  | .undefined | .null | .bool _ | .int _ | .float _ | .str _ | .safe _ => rfl
  | .list items => by rw [plain, toJson, toJson, toJsonAll_plain items]
  | .map entries => by rw [plain, toJson, toJson, toJsonEntries_plain entries]

lemma toJsonAll_plain : ∀ items : List Value, toJsonAll (plainAll items) = toJsonAll items
  | [] => rfl
  | v :: more => by rw [plainAll, toJsonAll, toJsonAll, toJson_plain v, toJsonAll_plain more]

lemma toJsonEntries_plain : ∀ entries : List (String × Value),
    toJsonEntries (plainEntries entries) = toJsonEntries entries
  | [] => rfl
  | (_, v) :: more => by
    rw [plainEntries, toJsonEntries, toJsonEntries, toJson_plain v, toJsonEntries_plain more]

end

lemma display_plain (v : Value) : v.plain.display = v.display := by
  cases v with
  | list items => exact congrArg Json.compact (toJson_plain (.list items))
  | map entries => exact congrArg Json.compact (toJson_plain (.map entries))
  | _ => rfl

lemma isTruthy_plain (v : Value) : v.plain.isTruthy = v.isTruthy := by
  cases v with
  | list items => cases items <;> rfl
  | map entries => cases entries <;> rfl
  | _ => rfl

section Classes

variable {u v w : Value} (hu : u.Everywhere NotFloat) (hv : v.Everywhere NotFloat)
  (hw : w.Everywhere NotFloat)

include hv

lemma looseEq_refl : v.looseEq v = true := (looseEq_iff_plain v v hv hv).mpr rfl

include hw

lemma looseEq_symm (h : v.looseEq w = true) : w.looseEq v = true :=
  (looseEq_iff_plain w v hw hv).mpr ((looseEq_iff_plain v w hv hw).mp h).symm

include hu

lemma looseEq_trans (huv : u.looseEq v = true) (hvw : v.looseEq w = true) :
    u.looseEq w = true := by
  rw [looseEq_iff_plain _ _ hu hv] at huv
  rw [looseEq_iff_plain _ _ hv hw] at hvw
  exact (looseEq_iff_plain _ _ hu hw).mpr (huv.trans hvw)

end Classes

/-- No condition and no text tells loosely equal values apart. -/
lemma same_of_looseEq {v w : Value} (hv : v.Everywhere NotFloat) (hw : w.Everywhere NotFloat)
    (h : v.looseEq w = true) :
    v.isTruthy = w.isTruthy ∧ v.display = w.display ∧ v.toJson = w.toJson := by
  have hplain := (looseEq_iff_plain v w hv hw).mp h
  rw [← isTruthy_plain v, ← display_plain v, ← toJson_plain v, hplain]
  exact ⟨isTruthy_plain w, display_plain w, toJson_plain w⟩

end Value

namespace Filter

open Value (NotFloat)

/-- The items that no item before them equals, in their order. -/
def firstMembers (items : List Value) : List Value :=
  (items.zipIdx.filter fun p => !(items.take p.2).any (·.looseEq p.1)).map Prod.fst

variable {seen before items : List Value} {v : Value}

lemma distinctFrom_of_seen (h : seen.any (·.looseEq v) = true) (rest : List Value) :
    distinctFrom seen (v :: rest) = distinctFrom seen rest := by
  rw [distinctFrom, if_pos h]

lemma distinctFrom_of_fresh (h : seen.any (·.looseEq v) = false) (rest : List Value) :
    distinctFrom seen (v :: rest) = v :: distinctFrom (v :: seen) rest := by
  rw [distinctFrom, if_neg (Bool.eq_false_iff.mp h)]

/-- The items that have been taken stand for all items so far: what equals one of these equals one
of those. -/
lemma distinctFrom_eq (hitems : ∀ v ∈ before ++ items, v.Everywhere NotFloat)
    (hseen : ∀ v : Value, v.Everywhere NotFloat →
      seen.any (·.looseEq v) = before.any (·.looseEq v)) :
    distinctFrom seen items =
      ((items.zipIdx before.length).filter fun p =>
        !((before ++ items).take p.2).any (·.looseEq p.1)).map Prod.fst := by
  induction items generalizing seen before with
  | nil => rfl
  | cons v rest ih =>
    have hv : v.Everywhere NotFloat := hitems v (by simp)
    have hmore : before ++ v :: rest = before ++ [v] ++ rest := by simp
    have htake : (before ++ v :: rest).take before.length = before := by simp
    have hrest : ∀ w ∈ before ++ [v] ++ rest, w.Everywhere NotFloat := by rwa [← hmore]
    have hlength : before.length + 1 = (before ++ [v]).length := by simp
    rw [List.zipIdx_cons, List.filter_cons]
    simp only [htake, ← hseen v hv]
    cases hany : seen.any (·.looseEq v) with
    | true =>
      rw [distinctFrom_of_seen hany, if_neg (by simp), hlength, hmore]
      refine ih hrest fun w hw => ?_
      rw [List.any_append, ← hseen w hw, List.any_cons, List.any_nil, Bool.or_false]
      cases hvw : v.looseEq w with
      | false => rw [Bool.or_false]
      | true =>
        obtain ⟨u, hu, huv⟩ := List.any_eq_true.mp ((hseen v hv).symm.trans hany)
        have hfloat : u.Everywhere NotFloat := hitems u (by simp [hu])
        have huw : before.any (·.looseEq w) = true :=
          List.any_eq_true.mpr ⟨u, hu, Value.looseEq_trans hfloat hv hw huv hvw⟩
        rw [hseen w hw, huw, Bool.or_true]
    | false =>
      rw [distinctFrom_of_fresh hany, if_pos (by rfl), List.map_cons, hlength, hmore]
      refine congrArg (v :: ·) (ih hrest fun w hw => ?_)
      rw [List.any_append, ← hseen w hw, List.any_cons, List.any_cons, List.any_nil, Bool.or_false,
        Bool.or_comm]

lemma distinctFrom_nil_eq (h : ∀ v ∈ items, v.Everywhere NotFloat) :
    distinctFrom [] items = firstMembers items := by
  have hitems : ∀ v ∈ [] ++ items, v.Everywhere NotFloat := h
  exact distinctFrom_eq hitems fun _ _ => rfl

lemma firstMembers_sublist (items : List Value) : (firstMembers items).Sublist items := by
  have h : (items.zipIdx.filter fun p => !(items.take p.2).any (·.looseEq p.1)).Sublist
      items.zipIdx := List.filter_sublist
  have hmap := h.map Prod.fst
  rwa [List.zipIdx_map_fst] at hmap

/-- What is kept equals nothing that was seen and nothing that is kept before it. -/
lemma pairwise_distinctFrom (seen items : List Value) :
    (∀ w ∈ distinctFrom seen items, seen.any (·.looseEq w) = false) ∧
      (distinctFrom seen items).Pairwise fun v w => v.looseEq w = false := by
  induction items generalizing seen with
  | nil => exact ⟨List.forall_mem_nil _, .nil⟩
  | cons v rest ih =>
    cases hany : seen.any (·.looseEq v) with
    | true =>
      rw [distinctFrom_of_seen hany]
      exact ih seen
    | false =>
      obtain ⟨hfresh, hpairwise⟩ := ih (v :: seen)
      simp only [List.any_cons, Bool.or_eq_false_iff] at hfresh
      rw [distinctFrom_of_fresh hany]
      exact ⟨List.forall_mem_cons.mpr ⟨hany, fun w hw => (hfresh w hw).2⟩,
        .cons (fun w hw => (hfresh w hw).1) hpairwise⟩

/-- Each item equals one that is kept or was seen. -/
lemma any_distinctFrom (h : ∀ v ∈ items, v.Everywhere NotFloat) (seen : List Value) :
    ∀ v ∈ items, (distinctFrom seen items ++ seen).any (·.looseEq v) = true := by
  induction items generalizing seen with
  | nil => exact List.forall_mem_nil _
  | cons v rest ih =>
    obtain ⟨hv, hrest⟩ := List.forall_mem_cons.mp h
    cases hany : seen.any (·.looseEq v) with
    | true =>
      rw [distinctFrom_of_seen hany]
      refine List.forall_mem_cons.mpr ⟨?_, ih hrest seen⟩
      rw [List.any_append, hany, Bool.or_true]
    | false =>
      rw [distinctFrom_of_fresh hany]
      refine List.forall_mem_cons.mpr ⟨?_, fun w hw => ?_⟩
      · simp [Value.looseEq_refl hv]
      · have hmore := ih hrest (v :: seen) w hw
        simpa [or_comm, or_left_comm, or_assoc] using hmore

/-- Of distinct items all are kept. -/
lemma distinctFrom_of_pairwise (hseen : ∀ w ∈ items, seen.any (·.looseEq w) = false)
    (h : items.Pairwise fun v w => v.looseEq w = false) : distinctFrom seen items = items := by
  induction items generalizing seen with
  | nil => rfl
  | cons v rest ih =>
    obtain ⟨hv, hrest⟩ := List.forall_mem_cons.mp hseen
    obtain ⟨hfresh, hpairwise⟩ := List.pairwise_cons.mp h
    rw [distinctFrom_of_fresh hv]
    refine congrArg (v :: ·) (ih (fun w hw => ?_) hpairwise)
    rw [List.any_cons, hfresh w hw, hrest w hw, Bool.or_false]

lemma run_unique (items : List Value) : Registry.builtin.run? "unique" (.list items) [] =
    some (.ok (.list (distinctFrom [] items))) := rfl

/-- Loose equality of values without floats is an equivalence: it holds of values that are the same
with null for nothing and plain text for safe text, at any depth, and such values are alike as
conditions, as text and as JSON. The filter `unique` keeps the first member of each class, in the
order of the list: what it keeps are different values, each item of the list is in what it keeps,
and all of that is kept the second time. -/
theorem looseEq_classes :
    (Equivalence fun v w : { v : Value // v.Everywhere NotFloat } => v.1.looseEq w.1 = true) ∧
    (∀ v w : Value, v.Everywhere NotFloat → w.Everywhere NotFloat →
      (v.looseEq w = true ↔ v.plain = w.plain) ∧
      (v.looseEq w = true →
        v.isTruthy = w.isTruthy ∧ v.display = w.display ∧ v.toJson = w.toJson)) ∧
    ∀ items : List Value, (∀ v ∈ items, v.Everywhere NotFloat) → ∃ kept : List Value,
      Registry.builtin.run? "unique" (.list items) [] = some (.ok (.list kept)) ∧
      kept = firstMembers items ∧
      kept.Sublist items ∧
      kept.Pairwise (fun v w => v.looseEq w = false) ∧
      (∀ v ∈ items, (Value.list kept).contains v = .ok true) ∧
      Registry.builtin.run? "unique" (.list kept) [] = some (.ok (.list kept)) := by
  refine ⟨⟨fun v => ?_, fun {v w} => ?_, fun {u v w} => ?_⟩, fun v w hv hw => ⟨?_, ?_⟩,
    fun items hitems => ⟨distinctFrom [] items, run_unique items, ?_⟩⟩
  · exact Value.looseEq_refl v.2
  · exact Value.looseEq_symm v.2 w.2
  · exact Value.looseEq_trans u.2 v.2 w.2
  · exact Value.looseEq_iff_plain v w hv hw
  · exact Value.same_of_looseEq hv hw
  have hfirst := distinctFrom_nil_eq hitems
  obtain ⟨hfresh, hpairwise⟩ := pairwise_distinctFrom [] items
  refine ⟨hfirst, ?_, hpairwise, fun v hv => ?_, ?_⟩
  · rw [hfirst]
    exact firstMembers_sublist items
  · have hany := any_distinctFrom hitems [] v hv
    rw [List.append_nil] at hany
    exact congrArg Except.ok hany
  · rw [run_unique, distinctFrom_of_pairwise hfresh hpairwise]

/-- Nothing in place of null and safe text in place of plain text, inside a list: two members of
one class. -/
theorem looseEq_classes_nested : ∃ kept : List Value,
    Registry.builtin.run? "unique"
      (.list [.list [.undefined, .safe "a"], .int 1, .list [.null, .str "a"]]) [] =
      some (.ok (.list kept)) ∧
    kept = [.list [.undefined, .safe "a"], .int 1] ∧
    (Value.list kept).contains (.list [.null, .str "a"]) = .ok true ∧
    (Value.list [.undefined, .safe "a"]).looseEq (.list [.null, .str "a"]) = true ∧
    (Value.list [.undefined, .safe "a"]).display = (Value.list [.null, .str "a"]).display := by
  have hitems : ∀ v ∈ [Value.list [.undefined, .safe "a"], .int 1, .list [.null, .str "a"]],
      v.Everywhere NotFloat := by
    simp [Value.Everywhere, Value.EverywhereAll, NotFloat, Value.kind]
  obtain ⟨-, hsame, hunique⟩ := looseEq_classes
  obtain ⟨kept, hrun, hkept, -, -, hcontains, -⟩ := hunique _ hitems
  obtain ⟨hplain, halike⟩ := hsame (.list [.undefined, .safe "a"]) (.list [.null, .str "a"])
    (hitems _ (by simp)) (hitems _ (by simp))
  have hequal := hplain.mpr rfl
  exact ⟨kept, hrun, hkept, hcontains _ (by simp), hequal, (halike hequal).2.1⟩

end Filter

end Stencil
