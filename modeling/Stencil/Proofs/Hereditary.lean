import Stencil.Filter.Builtin
import Stencil.Proofs.Dict
import Stencil.Proofs.Except
import Stencil.Render.Expr

/-! Properties that values hand on to what is made of them. Operators, functions and filters take
values apart and put them together, or make numbers and plain text, so that such a property, once it
holds of their arguments, holds of their results. Only where safe text is made does it depend on the
text. -/
namespace Stencil

namespace Value

/-- The property holds of all values that are plain, of a list exactly if it holds of its items, and
it stays with a map whose entries are looked up or stored. -/
structure Hereditary (P : Value → Prop) : Prop where
  undefined : P .undefined
  null : P .null
  bool (b : Bool) : P (.bool b)
  int (i : Int64) : P (.int i)
  float (x : Float) : P (.float x)
  str (s : String) : P (.str s)
  list {items : List Value} : P (.list items) ↔ ∀ v ∈ items, P v
  empty : P (.map [])
  entries {d : Dict Value} : P (.map d) → ∀ e ∈ d, P e.2
  insert {d : Dict Value} {key : String} {v : Value} :
    P (.map d) → P v → P (.map (Dict.insert key v d))

/-! ### What arithmetic makes -/

section Numbers

variable {a b v : Value}

lemma isNumber_exactOr (n : Int) (x : Float) : (exactOr n x).isNumber = true := by
  unfold exactOr
  cases Decimal.toInt64? n <;> rfl

lemma isNumber_sub (h : a.sub b = .ok v) : v.isNumber = true := by
  unfold sub at h
  split at h
  · cases h
    exact isNumber_exactOr _ _
  · obtain ⟨p, -, h⟩ := Except.exists_of_bind h
    cases h
    rfl

lemma isNumber_mul (h : a.mul b = .ok v) : v.isNumber = true := by
  unfold mul at h
  split at h
  · cases h
    exact isNumber_exactOr _ _
  · obtain ⟨p, -, h⟩ := Except.exists_of_bind h
    cases h
    rfl

/-- Dividing two floats gives a float or fails. -/
lemma isNumber_of_floats {verb : String} {fault : Fault} (f : Float → Float → Float)
    (h : (do
      let (x, y) ← floats verb a b
      if y == 0.0 then throw fault
      return Value.float (f x y)) = .ok v) : v.isNumber = true := by
  obtain ⟨p, -, h⟩ := Except.exists_of_bind h
  simp only at h
  split at h
  · cases h
  · cases h
    rfl

lemma isNumber_floorDiv (h : a.floorDiv b = .ok v) : v.isNumber = true := by
  unfold floorDiv at h
  split at h
  · split at h
    · cases h
    · split at h
      · cases h
        rfl
      · exact isNumber_of_floats (fun x y => (x / y).floor) h
  · exact isNumber_of_floats (fun x y => (x / y).floor) h

lemma isNumber_rem (h : a.rem b = .ok v) : v.isNumber = true := by
  unfold rem at h
  split at h
  · split at h
    · cases h
    · split at h
      · cases h
        rfl
      · exact isNumber_of_floats (fun x y => x - y * (x / y).floor) h
  · exact isNumber_of_floats (fun x y => x - y * (x / y).floor) h

lemma isNumber_neg (h : a.neg = .ok v) : v.isNumber = true := by
  unfold neg at h
  split at h
  · cases h
    exact isNumber_exactOr _ _
  · cases h
    rfl
  · cases h

end Numbers

end Value

namespace Filter

variable {v w : Value} {args : List Value}

lemma isNumber_abs (h : abs v = .ok w) : w.isNumber = true := by
  unfold abs at h
  split at h
  · cases h
    exact Value.isNumber_exactOr _ _
  · cases h
    rfl
  · cases h

lemma isNumber_round (h : round v args = .ok w) : w.isNumber = true := by
  unfold round at h
  split at h
  · cases h
  · simp only at h
    split at h
    · cases h
      rfl
    · cases h
      rfl
    · cases h
      rfl
    · cases h

lemma isNumber_length (h : length v = .ok w) : w.isNumber = true := by
  cases v <;> cases h <;> rfl

lemma argument?_getD {P : Value → Prop} {i : Nat} {default : Value} (hargs : ∀ a ∈ args, P a)
    (hd : P default) : P ((argument? args i).getD default) := by
  cases h : argument? args i with
  | none => exact hd
  | some a => exact hargs a (List.mem_of_getElem? (Option.filter_eq_some_iff.mp h).1)

/-! ### Where sorting and choosing take their items from -/

lemma insertSorted_subset {items sorted : List Value} (h : insertSorted v items = .ok sorted) :
    sorted ⊆ v :: items := by
  induction items generalizing sorted with
  | nil =>
    cases h
    exact List.Subset.refl _
  | cons w rest ih =>
    rw [insertSorted] at h
    split at h
    · cases h
    · obtain ⟨s, hs, rfl⟩ := Except.exists_of_map h
      intro u hu
      rcases List.mem_cons.mp hu with rfl | hu
      · simp
      · rcases List.mem_cons.mp (ih hs hu) with rfl | hu
        · simp
        · simp [hu]
    · cases h
      exact List.Subset.refl _

/-- Sorting keeps to the given items. -/
lemma sortItems_subset {items sorted : List Value} (h : sortItems items = .ok sorted) :
    sorted ⊆ items := by
  unfold sortItems at h
  split at h
  · obtain ⟨s, hs, rfl⟩ := Except.exists_of_map h
    have hsub : s ⊆ items := by
      refine Except.invariant_of_foldlM (P := (· ⊆ items)) ?_ (List.nil_subset _) hs
      intro v hv c d hc hd
      exact List.Subset.trans (insertSorted_subset hd) (List.cons_subset.mpr ⟨hv, hc⟩)
    exact fun v hv => hsub (List.mem_reverse.mp hv)
  · cases h
    exact (List.mergeSort_perm items inOrder).subset

lemma extremeFrom_mem {wanted : Ordering} {best : Value} {items : List Value}
    (h : extremeFrom wanted best items = .ok w) : w ∈ best :: items := by
  induction items generalizing best with
  | nil =>
    cases h
    exact List.mem_cons_self
  | cons v rest ih =>
    rw [extremeFrom] at h
    split at h
    · cases h
    · have hw := ih h
      split at hw
      · exact List.mem_cons_of_mem _ hw
      · rcases List.mem_cons.mp hw with rfl | hw
        · exact List.mem_cons_self
        · simp [hw]

lemma distinctFrom_subset (seen items : List Value) : distinctFrom seen items ⊆ items := by
  induction items generalizing seen with
  | nil => exact List.Subset.refl _
  | cons v rest ih =>
    rw [distinctFrom]
    split
    · exact List.subset_cons_of_subset _ (ih _)
    · exact List.cons_subset_cons _ (ih _)

end Filter

namespace Value.Hereditary

variable {P : Value → Prop} (hP : Hereditary P) {a b v w : Value} {args us : List Value}
include hP

lemma of_isNumber (h : v.isNumber = true) : P v := by
  cases v with
  | int i => exact hP.int i
  | float x => exact hP.float x
  | _ => cases h

lemma of_get? {d : Dict Value} {key : String} (h : P (.map d)) (hv : Dict.get? d key = some v) :
    P v :=
  hP.entries h _ (Dict.mem_of_get? hv)

lemma getD_get? {d : Dict Value} (key : String) (h : P (.map d)) :
    P ((Dict.get? d key).getD .undefined) := by
  cases hv : Dict.get? d key with
  | none => exact hP.undefined
  | some v => exact hP.of_get? h hv

lemma strs (names : List String) : P (.list (names.map .str)) := by
  refine hP.list.mpr fun v hv => ?_
  obtain ⟨s, -, rfl⟩ := List.mem_map.mp hv
  exact hP.str s

lemma chars (s : String) : P (.list (ofChars s)) := by
  refine hP.list.mpr fun v hv => ?_
  obtain ⟨c, -, rfl⟩ := List.mem_map.mp hv
  exact hP.str _

lemma pair {key : String} (h : P v) : P (.pair (key, v)) :=
  hP.list.mpr (List.forall_mem_cons.mpr ⟨hP.str key, List.forall_mem_singleton.mpr h⟩)

lemma entryPairs {d : Dict Value} (h : P (.map d)) : P (.list (d.map .pair)) := by
  refine hP.list.mpr fun v hv => ?_
  obtain ⟨e, he, rfl⟩ := List.mem_map.mp hv
  exact hP.pair (hP.entries h e he)

lemma literal (l : Literal) : P l.toValue := by
  cases l with
  | null => exact hP.null
  | bool b => exact hP.bool b
  | int i => exact hP.int i
  | float x => exact hP.float x
  | str s => exact hP.str s

/-! ### Operators -/

/-- An entry, an item or a character: the last is plain text. -/
lemma item {key : Value} (h : P v) : P (v.item key) := by
  unfold Value.item
  split
  · exact hP.getD_get? _ h
  · exact hP.getD_get? _ h
  · exact hP.getD_get? _ h
  · rename_i items i
    cases hw : (position? items.length i.toInt).bind (items[·]?) with
    | none => exact hP.undefined
    | some w =>
      obtain ⟨k, -, hk⟩ := Option.bind_eq_some_iff.mp hw
      exact hP.list.mp h w (List.mem_of_getElem? hk)
  · split
    · exact hP.str _
    · exact hP.undefined
  · split
    · exact hP.str _
    · exact hP.undefined
  · exact hP.undefined

/-- Adding gives numbers and plain text, or a list with the items of two lists. -/
lemma add (ha : P a) (hb : P b) (h : a.add b = .ok v) : P v := by
  unfold Value.add at h
  split at h
  · cases h
    exact hP.of_isNumber (isNumber_exactOr _ _)
  · cases h
    refine hP.list.mpr fun v hv => ?_
    exact (List.mem_append.mp hv).elim (hP.list.mp ha v) (hP.list.mp hb v)
  · split at h
    · cases h
      exact hP.float _
    · split at h
      · cases h
        exact hP.str _
      · cases h

/-- Joined text is safe only if both parts are. -/
lemma concat (happ : ∀ {s t}, P (.safe s) → P (.safe t) → P (.safe (s ++ t))) (ha : P a)
    (hb : P b) : P (a.concat b) := by
  unfold Value.concat
  split
  · rename_i h
    obtain ⟨h₁, h₂⟩ := Bool.and_eq_true_iff.mp h
    cases a <;> simp only [isSafe, Bool.false_eq_true] at h₁
    cases b <;> simp only [isSafe, Bool.false_eq_true] at h₂
    exact happ ha hb
  · exact hP.str _

lemma of_map_bool {α : Type} {r : Except Fault α} {f : α → Bool}
    (h : (r.map fun a => Value.bool (f a)) = .ok v) : P v := by
  obtain ⟨a, -, rfl⟩ := Except.exists_of_map h
  exact hP.bool _

/-- Operators put parts together or hand them on. -/
lemma binary (happ : ∀ {s t}, P (.safe s) → P (.safe t) → P (.safe (s ++ t))) {op : BinaryOp}
    (ha : P a) (hb : P b) (h : op.apply a b = .ok v) : P v := by
  cases op with
  | add => exact hP.add ha hb h
  | sub => exact hP.of_isNumber (isNumber_sub h)
  | mul => exact hP.of_isNumber (isNumber_mul h)
  | div => exact hP.of_isNumber (isNumber_of_floats (· / ·) h)
  | floorDiv => exact hP.of_isNumber (isNumber_floorDiv h)
  | rem => exact hP.of_isNumber (isNumber_rem h)
  | concat =>
    cases h
    exact hP.concat happ ha hb
  | equal | notEqual =>
    cases h
    exact hP.bool _
  | less | greater | lessEqual | greaterEqual | isIn | notIn => exact hP.of_map_bool h
  | and | or =>
    cases h
    split
    · assumption
    · assumption

/-! ### Functions and loops -/

open Render (range rangeItems indexed loopState loopItems bindItem)

lemma range (h : range args = .ok v) : P v := by
  have hitems : ∀ start stop step : Int, rangeItems start stop step = .ok v → P v := by
    intro start stop step h
    unfold rangeItems at h
    split at h
    · cases h
    · simp only at h
      split at h
      · cases h
      · cases h
        refine hP.list.mpr fun v hv => ?_
        obtain ⟨k, -, rfl⟩ := List.mem_map.mp hv
        exact hP.int _
  obtain ⟨bounds, -, h⟩ := Except.exists_of_bind h
  split at h
  · exact hitems _ _ _ h
  · exact hitems _ _ _ h
  · exact hitems _ _ _ h
  · cases h

lemma indexed (i : Nat) (h : ∀ v ∈ us, P v) : ∀ v ∈ indexed i us, P v := by
  induction us generalizing i with
  | nil => exact List.forall_mem_nil _
  | cons w more ih =>
    obtain ⟨hw, hmore⟩ := List.forall_mem_cons.mp h
    refine List.forall_mem_cons.mpr ⟨hP.list.mpr ?_, ih (i + 1) hmore⟩
    exact List.forall_mem_cons.mpr ⟨hP.int _, List.forall_mem_singleton.mpr hw⟩

lemma pairs (hargs : ∀ a ∈ args, P a) (h : Render.pairs args = .ok v) : P v := by
  unfold Render.pairs at h
  split at h
  · cases h
    exact hP.entryPairs (hargs _ List.mem_cons_self)
  · cases h
    exact hP.list.mpr (hP.indexed 0 (hP.list.mp (hargs _ List.mem_cons_self)))
  · cases h
    exact hP.list.mpr (List.forall_mem_nil _)
  · cases h
    exact hP.list.mpr (List.forall_mem_nil _)
  · cases h
  · cases h

lemma loopState (i length : Nat) : P (loopState i length) := by
  -- The entries are numbers and truth values, stored one after the other.
  simp only [Render.loopState, Dict.ofList, List.foldl]
  repeat' refine hP.insert ?_ (by first | exact hP.int _ | exact hP.bool _)
  exact hP.empty

lemma loopItems {binding : Binding} (hv : P v) (h : loopItems binding v = .ok us) :
    ∀ w ∈ us, P w := by
  rw [← hP.list]
  unfold Render.loopItems at h
  split at h
  · cases h
    exact hv
  · cases h
    exact hP.strs _
  · cases h
    exact hP.entryPairs hv
  · cases h
    exact hP.chars _
  · cases h
    exact hP.chars _
  · cases h
    exact hP.list.mpr (List.forall_mem_nil _)
  · cases h
    exact hP.list.mpr (List.forall_mem_nil _)
  · cases h

lemma bindItem {binding : Binding} {vars : List (String × Value)} (hv : P v)
    (h : bindItem binding v = .ok vars) : ∀ e ∈ vars, P e.2 := by
  unfold Render.bindItem at h
  split at h
  · cases h
    exact List.forall_mem_singleton.mpr hv
  · cases h
    rw [hP.list] at hv
    simpa using hv
  · cases h
  · cases h

/-! ### Filters -/

lemma mapText {f : List Char → List Char}
    (hf : ∀ {s}, P (.safe s) → P (.safe (String.ofList (f s.toList)))) (hv : P v) :
    P (Filter.mapText f v) := by
  cases v with
  | safe s => exact hf hv
  | _ => exact hP.str _

lemma string (hv : P v) : P (Filter.string v) := by
  cases v with
  | safe s => exact hv
  | _ => exact hP.str _

lemma fallback (hv : P v) (hargs : ∀ a ∈ args, P a) : P (Filter.fallback v args) := by
  unfold Filter.fallback
  simp only
  split
  · cases h : args[0]? with
    | none => exact hP.str _
    | some a => exact hargs a (List.mem_of_getElem? h)
  · exact hv

lemma of_subset {others : List Value} (h : P (.list us)) (hsub : others ⊆ us) :
    P (.list others) :=
  hP.list.mpr fun u hu => hP.list.mp h u (hsub hu)

lemma sort (hv : P v) (h : Filter.sort v args = .ok w) : P w := by
  have hsorted : ∀ (items : List Value) (descending : Bool), P (.list items) →
      ((Filter.sortItems items).map fun s => Value.list (if descending then s.reverse else s)) =
        .ok w → P w := by
    intro items descending hitems h
    obtain ⟨s, hs, rfl⟩ := Except.exists_of_map h
    refine hP.of_subset hitems (List.Subset.trans (fun u hu => ?_) (Filter.sortItems_subset hs))
    split at hu
    · exact List.mem_reverse.mp hu
    · exact hu
  unfold Filter.sort at h
  split at h
  · exact hsorted _ _ hv h
  · exact hsorted _ _ (hP.strs _) h
  · cases h

lemma extreme {wanted : Ordering} (hv : P v) (h : Filter.extreme wanted v = .ok w) : P w := by
  unfold Filter.extreme at h
  split at h
  · cases h
    exact hP.undefined
  · exact hP.list.mp hv w (Filter.extremeFrom_mem h)
  · cases h

lemma unique (hv : P v) (h : Filter.unique v = .ok w) : P w := by
  unfold Filter.unique at h
  split at h
  · cases h
    exact hP.of_subset hv (Filter.distinctFrom_subset _ _)
  · cases h

/-- Characters of safe text are plain, so that only reversing keeps the mark. -/
lemma reverse (hrev : ∀ {s}, P (.safe s) → P (.safe (String.ofList s.toList.reverse))) (hv : P v)
    (h : Filter.reverse v = .ok w) : P w := by
  unfold Filter.reverse at h
  split at h
  · cases h
    exact hP.of_subset hv fun u hu => List.mem_reverse.mp hu
  · cases h
    exact hP.str _
  · cases h
    exact hrev hv
  · cases h

lemma getD_of_mem {found : Option Value} (h : P (.list us)) (hfound : ∀ w ∈ found, w ∈ us) :
    P (found.getD .undefined) := by
  cases found with
  | none => exact hP.undefined
  | some w => exact hP.list.mp h w (hfound w rfl)

lemma getD_ofChar (c : Option Char) : P ((c.map ofChar).getD .undefined) := by
  cases c with
  | none => exact hP.undefined
  | some c => exact hP.str _

lemma first (hv : P v) (h : Filter.first v = .ok w) : P w := by
  unfold Filter.first at h
  split at h
  · cases h
    exact hP.getD_of_mem hv fun _ => List.mem_of_head?
  · cases h
    exact hP.getD_ofChar _
  · cases h
    exact hP.getD_ofChar _
  · cases h

lemma last (hv : P v) (h : Filter.last v = .ok w) : P w := by
  unfold Filter.last at h
  split at h
  · cases h
    exact hP.getD_of_mem hv fun _ => List.mem_of_getLast?
  · cases h
    exact hP.getD_ofChar _
  · cases h
    exact hP.getD_ofChar _
  · cases h

lemma toList (hv : P v) (h : Filter.toList v = .ok w) : P w := by
  unfold Filter.toList at h
  split at h
  · cases h
    exact hv
  · cases h
    exact hP.strs _
  · cases h
    exact hP.chars _
  · cases h
    exact hP.chars _
  · cases h
    exact hP.list.mpr (List.forall_mem_nil _)
  · cases h

lemma storePair {d d' : Dict Value} (hv : P v) (hd : P (.map d))
    (h : Filter.storePair d v = .ok d') : P (.map d') := by
  unfold Filter.storePair at h
  split at h
  · cases h
    exact hP.insert hd (hP.list.mp hv _ (by simp))
  · cases h

lemma toMap (hv : P v) (h : Filter.toMap v = .ok w) : P w := by
  unfold Filter.toMap at h
  split at h
  · cases h
    exact hv
  · cases h
    exact hP.empty
  · obtain ⟨d, hd, rfl⟩ := Except.exists_of_map h
    refine Except.invariant_of_foldlM (P := fun d => P (.map d)) ?_ hP.empty hd
    exact fun u hu c d hc hd => hP.storePair (hP.list.mp hv u hu) hc hd
  · cases h

lemma items (hv : P v) (h : Filter.items v = .ok w) : P w := by
  unfold Filter.items at h
  split at h
  · cases h
    exact hP.entryPairs hv
  · cases h
    exact hP.list.mpr (List.forall_mem_nil _)
  · cases h

lemma toInteger (hargs : ∀ a ∈ args, P a) : P (Filter.toInteger v args) := by
  have hd := Filter.argument?_getD (i := 0) hargs (hP.int 0)
  unfold Filter.toInteger
  split
  · exact hP.int _
  · split
    · exact hP.int _
    · exact hd
  · exact hP.int _
  · split
    · exact hP.int _
    · exact hd
  · split
    · exact hP.int _
    · exact hd
  · exact hd

lemma toFloat (hargs : ∀ a ∈ args, P a) : P (Filter.toFloat v args) := by
  have hd := Filter.argument?_getD (i := 0) hargs (hP.float 0.0)
  unfold Filter.toFloat
  split
  · exact hP.float _
  · exact hP.float _
  · exact hP.float _
  · split
    · exact hP.float _
    · exact hd
  · split
    · exact hP.float _
    · exact hd
  · exact hd

lemma sum (hargs : ∀ a ∈ args, P a) (h : Filter.sum v args = .ok w) : P w := by
  unfold Filter.sum at h
  split at h
  -- Only numbers are added, so whatever else the sum is comes from the first argument.
  · refine Except.invariant_of_foldlM (P := P) ?_ (Filter.argument?_getD hargs (hP.int 0)) h
    intro item _ total next htotal hnext
    split at hnext
    · rename_i hnumber
      exact hP.add htotal (hP.of_isNumber hnumber) hnext
    · cases hnext
  · cases h

end Value.Hereditary

end Stencil
