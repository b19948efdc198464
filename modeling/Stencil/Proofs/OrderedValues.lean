import Stencil.Proofs.EmbeddedJson
import Stencil.Proofs.Hereditary

/-! Maps are dictionaries: the keys of each map, at any depth of a value, ascend. Whatever
operators, functions and built-in filters make of such values is such a value. -/
namespace Stencil

namespace Dict

variable {α : Type}

/-- Storing keeps the keys ascending. -/
lemma ascending_insert {d : Dict α} (h : Ascending d) (key : String) (value : α) :
    Ascending (insert key value d) := by
  induction d with
  | nil => exact List.pairwise_singleton _ _
  | cons p rest ih =>
    obtain ⟨k, v⟩ := p
    obtain ⟨hk, hrest⟩ := List.pairwise_cons.mp h
    rw [insert]
    split
    · rename_i hlt
      refine List.pairwise_cons.mpr ⟨fun l hl => ?_, h⟩
      rcases List.mem_cons.mp hl with rfl | hl
      · exact hlt
      · exact String.lt_trans hlt (hk l hl)
    · split
      · rename_i heq
        rw [heq]
        exact List.pairwise_cons.mpr ⟨hk, hrest⟩
      · rename_i hle hne
        have hlt : k < key := Std.lt_of_le_of_ne (String.not_lt.mp hle) (Ne.symm hne)
        refine List.pairwise_cons.mpr ⟨fun l hl => ?_, ih hrest⟩
        obtain ⟨q, hq, rfl⟩ := List.mem_map.mp hl
        rcases mem_insert hq with rfl | hq
        · exact hlt
        · exact hk _ (List.mem_map_of_mem hq)

end Dict

namespace Value

/-- The keys of all maps in the value ascend. -/
abbrev Ordered (v : Value) : Prop := v.Everywhere KeysAscend

@[simp] lemma ordered_undefined : Ordered .undefined := trivial
@[simp] lemma ordered_null : Ordered .null := trivial
@[simp] lemma ordered_int (i : Int64) : Ordered (.int i) := trivial
@[simp] lemma ordered_safe (s : String) : Ordered (.safe s) := trivial

@[simp] lemma ordered_list {items : List Value} :
    Ordered (.list items) ↔ ∀ v ∈ items, v.Ordered := by
  have hall : EverywhereAll KeysAscend items ↔ ∀ v ∈ items, v.Ordered := by
    induction items with
    | nil => simp [EverywhereAll]
    | cons v more ih => rw [EverywhereAll, ih, List.forall_mem_cons]
  rw [Ordered, Everywhere, hall]
  exact and_iff_right trivial

@[simp] lemma ordered_map {entries : List (String × Value)} :
    Ordered (.map entries) ↔ Dict.Ascending entries ∧ ∀ e ∈ entries, e.2.Ordered := by
  have hall : EverywhereEntries KeysAscend entries ↔ ∀ e ∈ entries, e.2.Ordered := by
    induction entries with
    | nil => simp [EverywhereEntries]
    | cons e more ih =>
      obtain ⟨k, v⟩ := e
      rw [EverywhereEntries, ih, List.forall_mem_cons]
  rw [Ordered, Everywhere, hall, KeysAscend]

lemma hereditary_ordered : Hereditary Ordered where
  undefined := trivial
  null := trivial
  bool _ := trivial
  int _ := trivial
  float _ := trivial
  str _ := trivial
  list := ordered_list
  empty := by simp
  entries h := (ordered_map.mp h).2
  insert h hv := by
    rw [ordered_map] at h ⊢
    exact ⟨Dict.ascending_insert h.1 _ _, Dict.forall_mem_insert hv h.2⟩

end Value

/-! ### Filters -/

namespace Filter

open Value (hereditary_ordered)

/-- What the filter makes of values whose maps are dictionaries is such a value. -/
def KeepsOrder (run : Value → List Value → Except Fault Value) : Prop :=
  ∀ v args w, v.Ordered → (∀ a ∈ args, a.Ordered) → run v args = .ok w → w.Ordered

variable {v w : Value} {args : List Value}

lemma ordered_mapText (f : List Char → List Char) (v : Value) : (mapText f v).Ordered := by
  cases v <;> trivial

lemma ordered_escape (v : Value) : (escape v).Ordered := by
  cases v <;> trivial

lemma ordered_join (h : join v args = .ok w) : w.Ordered := by
  unfold join at h
  split at h
  · cases h
    split <;> trivial
  · cases h
    trivial
  · cases h
    trivial
  · cases h

lemma ordered_replace (h : replace v args = .ok w) : w.Ordered := by
  unfold replace at h
  split at h
  · cases h
    split
    · exact ordered_mapText _ v
    · exact ordered_mapText _ v
  · cases h

lemma ordered_indent (h : indent v args = .ok w) : w.Ordered := by
  obtain ⟨pad, -, h⟩ := Except.exists_of_bind h
  cases h
  exact ordered_mapText _ v

lemma keepsOrder_plain {f : Value → Value} (hf : ∀ v : Value, (f v).Ordered) :
    KeepsOrder (plain f) := by
  rintro v args _ - - ⟨⟩
  exact hf v

lemma keepsOrder_unary {f : Value → Except Fault Value}
    (hf : ∀ {v w : Value}, v.Ordered → f v = .ok w → w.Ordered) : KeepsOrder fun v _ => f v :=
  fun _ _ _ hv _ h => hf hv h

lemma keepsOrder_builtin : ∀ p ∈ Filter.builtin, KeepsOrder p.2 := by
  simp only [Filter.builtin, List.forall_mem_cons, List.not_mem_nil, false_imp_iff, implies_true,
    and_true]
  refine ⟨?upper, ?lower, ?capitalize, ?title, ?trim, ?length, ?count, ?join, ?sort, ?reverse,
    ?first, ?last, ?sum, ?safe, ?escape, ?e, ?abs, ?round, ?int, ?float, ?list, ?dict, ?string,
    ?replace, ?truncate, ?indent, ?wordcount, ?unique, ?min, ?max, ?items, ?tojson⟩
  case upper | lower | capitalize | title | trim => exact keepsOrder_plain (ordered_mapText _)
  case length | count =>
    exact keepsOrder_unary fun _ h => hereditary_ordered.of_isNumber (isNumber_length h)
  case join => exact fun _ _ _ _ _ => ordered_join
  case sort => exact fun _ _ _ hv _ => hereditary_ordered.sort hv
  case reverse => exact keepsOrder_unary (hereditary_ordered.reverse fun _ => trivial)
  case first => exact keepsOrder_unary hereditary_ordered.first
  case last => exact keepsOrder_unary hereditary_ordered.last
  case sum => exact fun _ _ _ _ hargs => hereditary_ordered.sum hargs
  case safe => exact keepsOrder_plain fun _ => Value.ordered_safe _
  case escape | e => exact keepsOrder_plain ordered_escape
  case abs => exact keepsOrder_unary fun _ h => hereditary_ordered.of_isNumber (isNumber_abs h)
  case round => exact fun _ _ _ _ _ h => hereditary_ordered.of_isNumber (isNumber_round h)
  case int =>
    rintro v args _ - hargs ⟨⟩
    exact hereditary_ordered.toInteger hargs
  case float =>
    rintro v args _ - hargs ⟨⟩
    exact hereditary_ordered.toFloat hargs
  case list => exact keepsOrder_unary hereditary_ordered.toList
  case dict => exact keepsOrder_unary hereditary_ordered.toMap
  case string =>
    rintro v args _ hv - ⟨⟩
    exact hereditary_ordered.string hv
  case replace => exact fun _ _ _ _ _ => ordered_replace
  case truncate =>
    rintro v args _ - - ⟨⟩
    exact ordered_mapText _ v
  case indent => exact fun _ _ _ _ _ => ordered_indent
  case wordcount => exact keepsOrder_plain fun _ => Value.ordered_int _
  case unique => exact keepsOrder_unary hereditary_ordered.unique
  case min | max => exact keepsOrder_unary hereditary_ordered.extreme
  case items => exact keepsOrder_unary hereditary_ordered.items
  case tojson =>
    rintro v args _ - - ⟨⟩
    exact Value.ordered_safe _

lemma keepsOrder_fallback : KeepsOrder fun v args => .ok (fallback v args) := by
  rintro v args _ hv hargs ⟨⟩
  exact hereditary_ordered.fallback hv hargs

lemma keepsOrder_rescuing : ∀ p ∈ Filter.rescuing, KeepsOrder p.2 := by
  simp only [Filter.rescuing, List.forall_mem_cons, List.not_mem_nil, false_imp_iff, implies_true,
    and_true]
  exact ⟨keepsOrder_fallback, keepsOrder_fallback⟩

end Filter

/-- All filters of the registry keep maps dictionaries. -/
def Registry.KeepsOrder (r : Registry) : Prop :=
  ∀ name f, r.filter? name = some f → Filter.KeepsOrder f.run

lemma Registry.keepsOrder_builtin : Registry.builtin.KeepsOrder := by
  intro name f h
  rcases List.mem_append.mp (Dict.mem_ofList (Dict.mem_of_get? h)) with hmem | hmem
  · obtain ⟨p, hp, he⟩ := List.mem_map.mp hmem
    cases he
    exact Filter.keepsOrder_builtin p hp
  · obtain ⟨p, hp, he⟩ := List.mem_map.mp hmem
    cases he
    exact Filter.keepsOrder_rescuing p hp

/-- Passing undefined values through changes nothing. -/
lemma Filter.KeepsOrder.apply {f : Filter} (h : Filter.KeepsOrder f.run) :
    Filter.KeepsOrder f.apply := by
  intro v args w hv hargs hw
  unfold Filter.apply at hw
  split at hw
  · cases hw
    trivial
  · exact h v args w hv hargs hw

end Stencil
