import Stencil.Proofs.AngleFree
import Stencil.Proofs.SafeText

/-! Which built-in filters bring angles into safe text. -/
namespace Stencil

/-- No safe text in the value, at any depth, holds an angle. -/
abbrev Value.Harmless (v : Value) : Prop := v.Clean fun s => AngleFree s.toList

namespace Filter

open Value (hereditary_clean clean_list clean_safe clean_str)

lemma angleFree_of_isSafe {v : Value} (hv : v.Harmless) (h : v.isSafe = true) :
    AngleFree v.display.toList := by
  cases v <;> simp_all [Value.isSafe, Value.display]

lemma harmless_mapText {f : List Char → List Char} (hf : ∀ {t}, AngleFree t → AngleFree (f t))
    {v : Value} (hv : v.Harmless) : (mapText f v).Harmless := by
  refine hereditary_clean.mapText (fun hs => ?_) hv
  rw [clean_safe] at hs ⊢
  rw [String.toList_ofList]
  exact hf hs

lemma harmless_reverse {v w : Value} (hv : v.Harmless) (h : reverse v = .ok w) : w.Harmless := by
  refine hereditary_clean.reverse (fun hs => ?_) hv h
  rw [clean_safe] at hs ⊢
  rw [String.toList_ofList]
  exact hs.mono fun c hc => List.mem_reverse.mp hc

lemma harmless_escape {v : Value} (hv : v.Harmless) : (escape v).Harmless := by
  unfold escape
  split
  · exact hv
  · exact clean_safe.mpr (angleFree_escapeHtml _)

lemma harmless_toJsonText (v : Value) (args : List Value) : (toJsonText v args).Harmless := by
  simp only [toJsonText, clean_safe, String.toList_ofList]
  exact angleFree_embed _

/-! ### Filters that put an argument into the text -/

/-- What joining puts between items that are all safe. -/
def joinSplice (v : Value) (args : List Value) : List Char :=
  match v with
  | .list items =>
    if items.all Value.isSafe && 2 ≤ items.length then
      (((argument? args 0).map Value.display).getD "").toList
    else []
  | _ => []

/-- What replacing puts into safe text. -/
def replaceSplice (v : Value) (args : List Value) : List Char :=
  match v, argument? args 0, argument? args 1 with
  | .safe s, some old, some new =>
    let limit := ((argument? args 2).bind Value.int?).map fun n => n.toInt.toNat
    if limit != some 0 && Text.occursIn old.display.toList s.toList then new.display.toList else []
  | _, _, _ => []

/-- What shortening puts at the end of safe text. -/
def truncateSplice (v : Value) (args : List Value) : List Char :=
  match v with
  | .safe s =>
    if sizeArgument args 0 255 + sizeArgument args 3 5 < s.toList.length then
      (((argument? args 2).map Value.display).getD "...").toList
    else []
  | _ => []

/-- What indenting puts before the lines of safe text. -/
def indentSplice (v : Value) (args : List Value) : List Char :=
  match v, padding args with
  | .safe s, .ok pad =>
    if padsLine (((argument? args 1).map Value.isTruthy).getD false) s.toList then pad else []
  | _, _ => []

/-- The part of an argument that the named filter puts into a result that it marks as safe. -/
def spliced (name : String) (v : Value) (args : List Value) : List Char :=
  match name with
  | "join" => joinSplice v args
  | "replace" => replaceSplice v args
  | "truncate" => truncateSplice v args
  | "indent" => indentSplice v args
  | _ => []

lemma angleFree_ite_nil {p : Prop} [Decidable p] {t : List Char} :
    AngleFree (if p then t else []) ↔ (p → AngleFree t) := by
  split <;> simp_all

lemma harmless_join_iff {v w : Value} {args : List Value} (hv : v.Harmless)
    (h : join v args = .ok w) : w.Harmless ↔ AngleFree (joinSplice v args) := by
  unfold join at h
  split at h
  · rename_i items
    cases h
    simp only [joinSplice, angleFree_ite_nil, Bool.and_eq_true, decide_eq_true_eq, and_imp]
    by_cases hs : items.all Value.isSafe = true
    · have htexts : ∀ s ∈ items.map Value.display, AngleFree s.toList := by
        intro s hm
        obtain ⟨u, hu, rfl⟩ := List.mem_map.mp hm
        exact angleFree_of_isSafe (clean_list.mp hv u hu) (List.all_eq_true.mp hs u hu)
      have hi := @angleFree_intercalate_iff (((argument? args 0).map Value.display).getD "") _
        htexts
      rw [List.length_map] at hi
      cases items with
      | nil => simp
      | cons u more =>
        rw [if_pos ⟨rfl, hs⟩]
        exact (clean_safe.trans hi).trans ⟨fun ha _ => ha, fun ha => ha hs⟩
    · rw [if_neg fun hc => hs hc.2]
      exact ⟨fun _ hs' => absurd hs' hs, fun _ => clean_str _⟩
  · cases h
    exact ⟨fun _ => angleFree_nil, fun _ => clean_str _⟩
  · cases h
    exact ⟨fun _ => angleFree_nil, fun _ => clean_str _⟩
  · cases h

lemma harmless_replace_iff {v w : Value} {args : List Value} (hv : v.Harmless)
    (h : replace v args = .ok w) : w.Harmless ↔ AngleFree (replaceSplice v args) := by
  unfold replace at h
  split at h
  · rename_i old new hold hnew
    cases h
    cases v with
    | safe s =>
      have hs := clean_safe.mp hv
      simp only [replaceSplice, hold, hnew, angleFree_ite_nil, Bool.and_eq_true, bne_iff_ne, ne_eq,
        and_imp]
      cases (argument? args 2).bind Value.int? with
      | none =>
        simp [mapText, Text.replaceAll, Text.angleFree_replaceFirst_iff hs]
      | some n =>
        simp [mapText, Text.angleFree_replaceFirst_iff hs]
    | _ =>
      simp only [replaceSplice, angleFree_nil, iff_true]
      split
      · exact clean_str _
      · exact clean_str _
  · cases h

lemma harmless_truncate_iff {v : Value} {args : List Value} (hv : v.Harmless) :
    (truncate v args).Harmless ↔ AngleFree (truncateSplice v args) := by
  cases v with
  | safe s =>
    have hs := clean_safe.mp hv
    simp [truncate, truncateSplice, mapText, angleFree_truncated_iff hs, angleFree_ite_nil]
  | _ => simp [truncate, truncateSplice, mapText]

lemma harmless_indent_iff {v w : Value} {args : List Value} (hv : v.Harmless)
    (h : indent v args = .ok w) : w.Harmless ↔ AngleFree (indentSplice v args) := by
  obtain ⟨pad, hpad, h⟩ := Except.exists_of_bind h
  cases h
  cases v with
  | safe s =>
    have hs := clean_safe.mp hv
    simp [indentSplice, hpad, mapText, angleFree_indented_iff hs, angleFree_ite_nil]
  | _ => simp [indentSplice, mapText]

/-! ### All built-in filters -/

@[simp] lemma spliced_undefined (name : String) (args : List Value) :
    spliced name .undefined args = [] := by
  unfold spliced
  split <;> rfl

/-- The filters that can bring an angle into safe text. -/
def launderers : List String := ["safe", "join", "replace", "truncate", "indent"]

/-- What the results of a filter are like for harmless input: `spliced` is the only way for an
angle to get into safe text. -/
def SplicesOnly (name : String) (run : Value → List Value → Except Fault Value) : Prop :=
  ∀ v args w, v.Harmless → (∀ a ∈ args, a.Harmless) → run v args = .ok w →
    (w.Harmless ↔ AngleFree (spliced name v args))

lemma spliced_of_not_mem {name : String} (hname : name ∉ launderers) (v : Value)
    (args : List Value) : spliced name v args = [] := by
  unfold spliced
  split
  · exact absurd (by decide) hname
  · exact absurd (by decide) hname
  · exact absurd (by decide) hname
  · exact absurd (by decide) hname
  · rfl

lemma splicesOnly_of_harmless {name : String} {run : Value → List Value → Except Fault Value}
    (hname : name ∉ launderers)
    (h : ∀ v args w, v.Harmless → (∀ a ∈ args, a.Harmless) → run v args = .ok w → w.Harmless) :
    SplicesOnly name run := by
  intro v args w hv hargs hw
  rw [spliced_of_not_mem hname]
  exact iff_of_true (h v args w hv hargs hw) angleFree_nil

lemma splicesOnly_plain {name : String} {f : Value → Value} (hname : name ∉ launderers)
    (hf : ∀ v : Value, v.Harmless → (f v).Harmless) : SplicesOnly name (plain f) := by
  refine splicesOnly_of_harmless hname fun v args w hv _ h => ?_
  cases h
  exact hf v hv

lemma splicesOnly_unary {name : String} {f : Value → Except Fault Value}
    (hname : name ∉ launderers)
    (hf : ∀ {v w : Value}, v.Harmless → f v = .ok w → w.Harmless) :
    SplicesOnly name fun v _ => f v :=
  splicesOnly_of_harmless hname fun _ _ _ hv _ h => hf hv h

lemma splicesOnly_total {name : String} {f : Value → List Value → Value}
    (hname : name ∉ launderers)
    (hf : ∀ {v : Value} {args : List Value}, v.Harmless → (∀ a ∈ args, a.Harmless) →
      (f v args).Harmless) :
    SplicesOnly name fun v args => .ok (f v args) := by
  refine splicesOnly_of_harmless hname fun v args w hv hargs h => ?_
  cases h
  exact hf hv hargs

lemma splicesOnly_builtin : ∀ p ∈ Filter.builtin, p.1 ≠ "safe" → SplicesOnly p.1 p.2 := by
  simp only [Filter.builtin, List.forall_mem_cons, List.not_mem_nil, false_imp_iff, implies_true,
    and_true]
  refine ⟨?upper, ?lower, ?capitalize, ?title, ?trim, ?length, ?count, ?join, ?sort, ?reverse,
    ?first, ?last, ?sum, ?safe, ?escape, ?e, ?abs, ?round, ?int, ?float, ?list, ?dict, ?string,
    ?replace, ?truncate, ?indent, ?wordcount, ?unique, ?min, ?max, ?items, ?tojson⟩ <;> intro hname
  case upper => exact splicesOnly_plain (by decide) fun _ => harmless_mapText Text.angleFree_upper
  case lower => exact splicesOnly_plain (by decide) fun _ => harmless_mapText Text.angleFree_lower
  case capitalize =>
    exact splicesOnly_plain (by decide) fun _ => harmless_mapText Text.angleFree_capitalize
  case title =>
    exact splicesOnly_plain (by decide) fun _ => harmless_mapText (Text.angleFree_titleFrom true)
  case trim => exact splicesOnly_plain (by decide) fun _ => harmless_mapText Text.angleFree_trim
  case length =>
    exact splicesOnly_unary (by decide) fun _ h => hereditary_clean.of_isNumber (isNumber_length h)
  case count =>
    exact splicesOnly_unary (by decide) fun _ h => hereditary_clean.of_isNumber (isNumber_length h)
  case join => exact fun v args w hv _ h => harmless_join_iff hv h
  case sort => exact splicesOnly_of_harmless (by decide) fun _ _ _ hv _ => hereditary_clean.sort hv
  case reverse => exact splicesOnly_unary (by decide) harmless_reverse
  case first => exact splicesOnly_unary (by decide) hereditary_clean.first
  case last => exact splicesOnly_unary (by decide) hereditary_clean.last
  case sum =>
    exact splicesOnly_of_harmless (by decide) fun _ _ _ _ hargs => hereditary_clean.sum hargs
  case safe => exact absurd rfl hname
  case escape => exact splicesOnly_plain (by decide) fun _ => harmless_escape
  case e => exact splicesOnly_plain (by decide) fun _ => harmless_escape
  case abs =>
    exact splicesOnly_unary (by decide) fun _ h => hereditary_clean.of_isNumber (isNumber_abs h)
  case round =>
    exact splicesOnly_of_harmless (by decide) fun _ _ _ _ _ h =>
      hereditary_clean.of_isNumber (isNumber_round h)
  case int => exact splicesOnly_total (by decide) fun _ => hereditary_clean.toInteger
  case float => exact splicesOnly_total (by decide) fun _ => hereditary_clean.toFloat
  case list => exact splicesOnly_unary (by decide) hereditary_clean.toList
  case dict => exact splicesOnly_unary (by decide) hereditary_clean.toMap
  case string => exact splicesOnly_plain (by decide) fun _ => hereditary_clean.string
  case replace => exact fun v args w hv _ h => harmless_replace_iff hv h
  case truncate =>
    rintro v args w hv - ⟨⟩
    exact harmless_truncate_iff hv
  case indent => exact fun v args w hv _ h => harmless_indent_iff hv h
  case wordcount => exact splicesOnly_plain (by decide) fun _ _ => Value.clean_ofNat _
  case unique => exact splicesOnly_unary (by decide) hereditary_clean.unique
  case min => exact splicesOnly_unary (by decide) hereditary_clean.extreme
  case max => exact splicesOnly_unary (by decide) hereditary_clean.extreme
  case items => exact splicesOnly_unary (by decide) hereditary_clean.items
  case tojson => exact splicesOnly_total (by decide) fun _ _ => harmless_toJsonText _ _

lemma splicesOnly_rescuing : ∀ p ∈ Filter.rescuing, SplicesOnly p.1 p.2 := by
  simp only [Filter.rescuing, List.forall_mem_cons, List.not_mem_nil, false_imp_iff, implies_true,
    and_true]
  exact ⟨splicesOnly_total (by decide) hereditary_clean.fallback,
    splicesOnly_total (by decide) hereditary_clean.fallback⟩

lemma splicesOnly_of_filter? {name : String} {f : Filter}
    (h : Registry.builtin.filter? name = some f) (hname : name ≠ "safe") :
    SplicesOnly name f.run := by
  have hmem := Dict.mem_ofList (Dict.mem_of_get? h)
  rcases List.mem_append.mp hmem with hmem | hmem
  · obtain ⟨p, hp, he⟩ := List.mem_map.mp hmem
    cases he
    exact splicesOnly_builtin p hp hname
  · obtain ⟨p, hp, he⟩ := List.mem_map.mp hmem
    cases he
    exact splicesOnly_rescuing p hp

/-- Passing undefined values through changes nothing. -/
lemma splicesOnly_apply {name : String} {f : Filter}
    (h : Registry.builtin.filter? name = some f) (hname : name ≠ "safe") :
    SplicesOnly name f.apply := by
  intro v args w hv hargs hw
  unfold Filter.apply at hw
  split at hw
  · rename_i hu
    cases hw
    cases v <;> simp [Value.isUndefined] at hu
    simp
  · exact splicesOnly_of_filter? h hname v args w hv hargs hw

lemma harmless_apply {name : String} {f : Filter} {v w : Value} {args : List Value}
    (hf : Registry.builtin.filter? name = some f) (hname : name ∉ launderers) (hv : v.Harmless)
    (hargs : ∀ a ∈ args, a.Harmless) (h : f.apply v args = .ok w) : w.Harmless := by
  have hsafe : name ≠ "safe" := by
    rintro rfl
    exact hname (by decide)
  refine (splicesOnly_apply hf hsafe v args w hv hargs h).mpr ?_
  rw [spliced_of_not_mem hname]
  exact angleFree_nil

/-- Built-in filters apart from `safe` bring no angle into safe text, except for those that join,
replace, shorten and indent, and these exactly if what they put between, in place of or around
the parts of safe text has one. -/
theorem harmless_apply_iff_angleFree_spliced {name : String} {f : Filter} {v w : Value}
    {args : List Value} (hf : Registry.builtin.filter? name = some f) (hname : name ≠ "safe")
    (hv : v.Harmless) (hargs : ∀ a ∈ args, a.Harmless) (h : f.apply v args = .ok w) :
    w.Harmless ↔ AngleFree (spliced name v args) :=
  splicesOnly_apply hf hname v args w hv hargs h

/-- A separator in a list of safe texts: nothing escapes it, and the result is safe. -/
theorem join_launders_separator :
    Registry.builtin.filter? "join" = some ⟨join, false⟩ ∧
      (Value.list [.safe "a", .safe "b"]).Harmless ∧
      (Filter.mk join false).apply (.list [.safe "a", .safe "b"]) [.str "<br>"] =
        .ok (.safe "a<br>b") ∧
      ¬(Value.safe "a<br>b").Harmless := by
  have hf : Registry.builtin.filter? "join" = some ⟨join, false⟩ := rfl
  have hv : (Value.list [.safe "a", .safe "b"]).Harmless := by decide
  have h : (Filter.mk join false).apply (.list [.safe "a", .safe "b"]) [.str "<br>"] =
      .ok (.safe "a<br>b") := rfl
  refine ⟨hf, hv, h, fun hw => ?_⟩
  have hs := (harmless_apply_iff_angleFree_spliced hf (by decide) hv (by simp) h).mp hw
  exact absurd hs (by decide)

end Filter
end Stencil
