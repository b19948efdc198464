import Stencil.Proofs.Hereditary

/-! The safe texts in a value. Operations on values hand them on, or put them together. -/
namespace Stencil

namespace Value

mutual

/-- The safe texts in a value, at any depth. -/
def safeTexts : Value → List String
  | .safe s => [s]
  | .list items => safeTextsAll items
  | .map entries => safeTextsEntries entries
  | _ => []

def safeTextsAll : List Value → List String
  | [] => []
  | v :: more => safeTexts v ++ safeTextsAll more

def safeTextsEntries : List (String × Value) → List String
  | [] => []
  | (_, v) :: more => safeTexts v ++ safeTextsEntries more

end

/-- Every safe text in the value satisfies `T`. -/
def Clean (T : String → Prop) (v : Value) : Prop := ∀ s ∈ v.safeTexts, T s

variable {T : String → Prop}

instance [DecidablePred T] (v : Value) : Decidable (v.Clean T) :=
  List.decidableBAll T v.safeTexts

lemma clean_of_safeTexts_nil {v : Value} (h : v.safeTexts = []) : v.Clean T := by
  intro s hs
  rw [h] at hs
  cases hs

@[simp] lemma clean_undefined : Clean T .undefined := clean_of_safeTexts_nil rfl
@[simp] lemma clean_null : Clean T .null := clean_of_safeTexts_nil rfl
@[simp] lemma clean_bool (b : Bool) : Clean T (.bool b) := clean_of_safeTexts_nil rfl
@[simp] lemma clean_int (i : Int64) : Clean T (.int i) := clean_of_safeTexts_nil rfl
@[simp] lemma clean_float (x : Float) : Clean T (.float x) := clean_of_safeTexts_nil rfl
@[simp] lemma clean_str (s : String) : Clean T (.str s) := clean_of_safeTexts_nil rfl
@[simp] lemma clean_ofNat (n : Nat) : Clean T (.ofNat n) := clean_of_safeTexts_nil rfl

@[simp] lemma clean_safe {s : String} : Clean T (.safe s) ↔ T s := by simp [Clean, safeTexts]

@[simp] lemma clean_list {items : List Value} :
    Clean T (.list items) ↔ ∀ v ∈ items, Clean T v := by
  change (∀ s ∈ safeTextsAll items, T s) ↔ _
  induction items with
  | nil => simp [safeTextsAll]
  | cons v more ih => simp [safeTextsAll, or_imp, forall_and, ih, Clean]

@[simp] lemma clean_map {entries : List (String × Value)} :
    Clean T (.map entries) ↔ ∀ e ∈ entries, Clean T e.2 := by
  change (∀ s ∈ safeTextsEntries entries, T s) ↔ _
  induction entries with
  | nil => simp [safeTextsEntries]
  | cons e more ih => simp [safeTextsEntries, or_imp, forall_and, ih, Clean]

lemma clean_of_forall (h : ∀ s, T s) (v : Value) : v.Clean T := fun s _ => h s

lemma hereditary_clean : Hereditary (Clean T) where
  undefined := clean_undefined
  null := clean_null
  bool := clean_bool
  int := clean_int
  float := clean_float
  str := clean_str
  list := clean_list
  empty := clean_map.mpr (List.forall_mem_nil _)
  entries := clean_map.mp
  insert h hv := by
    rw [clean_map] at h ⊢
    exact Dict.forall_mem_insert hv h

end Value

/-- Operators put safe texts together or hand them on. -/
lemma BinaryOp.clean_apply {T : String → Prop} (happ : ∀ {s t}, T s → T t → T (s ++ t))
    {op : BinaryOp} {a b v : Value} (ha : a.Clean T) (hb : b.Clean T)
    (h : op.apply a b = .ok v) : v.Clean T := by
  have hconcat : ∀ {s t}, Value.Clean T (.safe s) → Value.Clean T (.safe t) →
      Value.Clean T (.safe (s ++ t)) := by
    intro s t hs ht
    rw [Value.clean_safe] at hs ht ⊢
    exact happ hs ht
  exact Value.hereditary_clean.binary hconcat ha hb h

end Stencil
