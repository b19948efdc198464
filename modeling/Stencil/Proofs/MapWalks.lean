import Stencil.Proofs.Entities
import Stencil.Proofs.OrderedValues
import Stencil.Proofs.Sequences
import Stencil.Proofs.UpheldMoments

/-! All ways to walk a map agree. A loop over the variable of a map goes through the same pairs, or
the same keys, as a loop over what functions, methods and filters make of it, in the order of the
keys; of nothing all of them make an empty loop. The pairs lose nothing of the map. -/
namespace Stencil

namespace Value

/-- The entries of a map; nothing has none. -/
inductive Entries : Value → Dict Value → Prop where
  | map (entries : Dict Value) : Entries (.map entries) entries
  | null : Entries .null []
  | undefined : Entries .undefined []

variable {v : Value} {entries : Dict Value}

lemma Entries.ascending (h : v.Entries entries) (hv : v.Ordered) : Dict.Ascending entries := by
  cases h with
  | map => exact (ordered_map.mp hv).1
  | null | undefined => exact Dict.ascending_nil

end Value

namespace Filter

/-- Pairs in the order of their keys are stored one behind the other. -/
lemma foldlM_storePair {done more : Dict Value} (h : Dict.Ascending (done ++ more)) :
    (more.map Value.pair).foldlM storePair done = .ok (done ++ more) := by
  induction more generalizing done with
  | nil => rw [List.append_nil]; rfl
  | cons e more ih =>
    obtain ⟨k, v⟩ := e
    -- The text of a key is the key, and it belongs behind all those that are stored.
    have hstore : storePair done (Value.pair (k, v)) = .ok (done ++ [(k, v)]) :=
      congrArg Except.ok (Value.insert_of_ascending h v)
    rw [List.append_cons done (k, v) more] at h ⊢
    rw [List.map_cons, List.foldlM_cons, hstore]
    exact ih h

lemma run_dict_pairs {entries : Dict Value} (h : Dict.Ascending entries) (args : List Value) :
    Registry.builtin.run? "dict" (.list (entries.map Value.pair)) args =
      some (.ok (.map entries)) := by
  have hempty : Dict.Ascending ([] ++ entries) := h
  have hstored : (entries.map Value.pair).foldlM storePair [] = .ok entries :=
    foldlM_storePair hempty
  change some (((entries.map Value.pair).foldlM storePair []).map Value.map) = _
  rw [hstored]
  rfl

end Filter

namespace Render

open Value (ordered_map)

variable {env : Env} {calls : Calls} {t : Template} {pos : Position} {s : State} {σ : Session}
  {x : String} {v : Value} {entries : Dict Value} {binding : Binding} {items : List Value}

/-! ### Maps stay dictionaries -/

/-- The maps that the caller of the engine supplies are dictionaries, and filters keep them so. -/
structure Env.Ordered (env : Env) : Prop where
  root : (Value.map env.root).Ordered
  filters : env.engine.registry.KeepsOrder

/-- The maps in all values are dictionaries; loop controls may stand anywhere. -/
def Env.Ordered.regime (h : env.Ordered) : Regime env where
  value := Value.Ordered
  looped := False
  hereditary := Value.hereditary_ordered
  safe := Value.ordered_safe
  root := h.root
  filter hf hv hargs hw := (h.filters _ _ hf).apply _ _ _ hv hargs hw
  offers _ _ _ _ _ _ _ := False.elim

/-- Whatever code a run has come to, the maps in its variables are dictionaries. -/
theorem Reached.ordered {m : Moment} (henv : env.Ordered) (h : Reached env m) :
    henv.regime.Keeps m := by
  obtain ⟨n, t, σ, hwithin⟩ := h
  have hfits : ∀ t, henv.regime.Fits t := fun _ => False.elim
  exact (Regime.keeps_initial (hfits t) (fun _ _ => hfits _) n).within hwithin

/-! ### Loops over the same items -/

/-- The expression leaves the state as it is and gives a value with these items. -/
def Spreads (env : Env) (calls : Calls) (t : Template) (pos : Position) (e : Expr) (s : State)
    (σ : Session) (binding : Binding) (items : List Value) : Prop :=
  ∃ w, Yields (eval env calls t pos e) s σ w s σ ∧ loopItems binding w = .ok items

/-- Expressions with the same items make the same loop. -/
lemma Spreads.run_eq {e e' : Expr} (h : Spreads env calls t pos e s σ binding items)
    (h' : Spreads env calls t pos e' s σ binding items) (body otherwise : List Instr) :
    ((exec env calls t (.forEach binding e body otherwise pos)).run s).run σ =
      ((exec env calls t (.forEach binding e' body otherwise pos)).run s).run σ := by
  obtain ⟨w, heval, hitems⟩ := h
  obtain ⟨w', heval', hitems'⟩ := h'
  rw [run_forEach heval hitems, run_forEach heval' hitems']

lemma yields_var (hv : lookupFrom s.scopes env.root x s.here = v) :
    Yields (eval env calls t pos (.var x)) s σ v s σ := by
  rw [eval, ← hv]
  rfl

lemma loopItems_pair (h : v.Entries entries) (first second : String) :
    loopItems (.pair first second) v = .ok (entries.map Value.pair) := by
  cases h <;> rfl

lemma loopItems_single (h : v.Entries entries) (name : String) :
    loopItems (.single name) v = .ok ((Dict.keys entries).map .str) := by
  cases h <;> rfl

/-- A variable that is no alias is what it is to its methods. -/
lemma yields_method (hv : lookupFrom s.scopes env.root x s.here = v)
    (halias : Dict.get? s.imports x = none) {method : String} {w : Value}
    (hview : mapView v method pos = pure w) :
    Yields (eval env calls t pos (.callMember (.var x) method [])) s σ w s σ := by
  have hlookup : Yields (lookup env.root x) s σ v s σ := by
    rw [← hv]
    rfl
  have hnamed : Yields (aliased env (.var x)) s σ none s σ := by
    unfold aliased
    rw [Yields, run_bind_ok _ hlookup]
    split
    · rw [run_bind_get, halias]
      rfl
    · rfl
  rw [Yields, eval, run_bind_ok _ hnamed, callMember, run_bind_ok _ (yields_var hv)]
  change ((mapView v method pos).run s).run σ = _
  rw [hview]
  rfl

lemma yields_pairs (hv : lookupFrom s.scopes env.root x s.here = v)
    (hfree : Dict.get? t.macros "pairs" = none) {w : Value} (hpairs : pairs [v] = .ok w) :
    Yields (eval env calls t pos (.call "pairs" [.var x])) s σ w s σ := by
  have hargs : Yields (evalAll env calls t pos [.var x]) s σ [v] s σ := by
    rw [evalAll, Yields, run_bind_ok _ (yields_var hv), evalAll]
    rfl
  rw [Yields, eval, run_bind_ok _ hargs, callName, hfree]
  change ((typed pos (pairs [v])).run s).run σ = _
  rw [hpairs]
  rfl

/-- The expressions whose values are the pairs of a map. -/
def pairWalks (x : String) : List Expr :=
  [.var x, .call "pairs" [.var x], .callMember (.var x) "items" [], .filter (.var x) "items" []]

/-- The expressions whose values are the keys of a map. -/
def keyWalks (x : String) : List Expr :=
  [.var x, .callMember (.var x) "keys" [], .filter (.var x) "list" []]

lemma spreads_pairWalks (hx : lookupFrom s.scopes env.root x s.here = v) (hv : v.Entries entries)
    (hfree : Dict.get? t.macros "pairs" = none) (halias : Dict.get? s.imports x = none)
    (hitems : env.engine.registry.filter? "items" = Registry.builtin.filter? "items")
    (first second : String) : ∀ e ∈ pairWalks x,
      Spreads env calls t pos e s σ (.pair first second) (entries.map Value.pair) := by
  have hfilter : env.engine.registry.filter? "items" =
      some ⟨fun v _ => Filter.items v, false⟩ := hitems
  simp only [pairWalks, List.forall_mem_cons, List.not_mem_nil, false_imp_iff, implies_true,
    and_true]
  refine ⟨⟨v, yields_var hx, loopItems_pair hv first second⟩, ?_, ?_, ?_⟩
  · refine ⟨.list (entries.map Value.pair), yields_pairs hx hfree ?_, rfl⟩
    cases hv <;> rfl
  · refine ⟨.list (entries.map Value.pair), yields_method hx halias ?_, rfl⟩
    cases hv <;> rfl
  · cases hv with
    | map entries => exact ⟨_, yields_filter (yields_var hx) hfilter rfl, rfl⟩
    | null | undefined => exact ⟨_, yields_filter (yields_var hx) hfilter rfl, rfl⟩

lemma spreads_keyWalks (hx : lookupFrom s.scopes env.root x s.here = v) (hv : v.Entries entries)
    (halias : Dict.get? s.imports x = none)
    (hlist : env.engine.registry.filter? "list" = Registry.builtin.filter? "list")
    (name : String) : ∀ e ∈ keyWalks x,
      Spreads env calls t pos e s σ (.single name) ((Dict.keys entries).map .str) := by
  have hfilter : env.engine.registry.filter? "list" =
      some ⟨fun v _ => Filter.toList v, false⟩ := hlist
  simp only [keyWalks, List.forall_mem_cons, List.not_mem_nil, false_imp_iff, implies_true,
    and_true]
  refine ⟨⟨v, yields_var hx, loopItems_single hv name⟩, ?_, ?_⟩
  · refine ⟨.list ((Dict.keys entries).map .str), yields_method hx halias ?_, rfl⟩
    cases hv <;> rfl
  · cases hv with
    | map entries => exact ⟨_, yields_filter (yields_var hx) hfilter rfl, rfl⟩
    | null | undefined => exact ⟨_, yields_filter (yields_var hx) hfilter rfl, rfl⟩

/-- All ways to walk a map agree, if the engine has the built-in filters `items` and `list`, and its
other filters and the variables of its caller know no maps but dictionaries. Let a run have come to
any code of a template without a macro `pairs`, and let a variable that is no alias hold a map or
nothing there. The keys of the map ascend. A loop with two names over the variable, over its
`pairs`, over its `items()` and through the filter `items` is the same run, with the same output or
error and the same state behind it. So is a loop with one name over the variable, over its `keys()`
and through the filter `list`, which plays a round for each key in turn, or else its else part. And
whatever the dictionary, the filter `dict` makes it again of its pairs, however these have been got.
-/
theorem map_ways_agree {env : Env} (henv : env.Ordered)
    (hitems : env.engine.registry.filter? "items" = Registry.builtin.filter? "items")
    (hlist : env.engine.registry.filter? "list" = Registry.builtin.filter? "list")
    {m : Moment} (hm : Reached env m) (hfree : Dict.get? m.template.macros "pairs" = none)
    {x : String} (halias : Dict.get? m.state.imports x = none) {v : Value} {entries : Dict Value}
    (hx : lookupFrom m.state.scopes env.root x m.state.here = v) (hv : v.Entries entries) :
    Dict.Ascending entries ∧
    (∀ (calls : Calls) (body otherwise : List Instr) (pos : Position) (σ : Session),
      let run (binding : Binding) (e : Expr) :=
        ((exec env calls m.template (.forEach binding e body otherwise pos)).run m.state).run σ
      (∀ first second, ∀ e ∈ pairWalks x,
        run (.pair first second) e = run (.pair first second) (.var x)) ∧
      ∀ name, (∀ e ∈ keyWalks x, run (.single name) e = run (.single name) (.var x)) ∧
        run (.single name) (.var x) =
          ((if entries.isEmpty then execAll env calls m.template "" otherwise
            else do
              let output ← playAll (fun item k => inScopeOf (roundVars name item k entries.length)
                (execAll env calls m.template "" body)) ((Dict.keys entries).map .str).zipIdx
              return (.normal, output)).run m.state).run σ) ∧
    ∀ (d : Dict Value), Dict.Ascending d → ∀ (args : List Value) (pos : Position),
      let list := Value.list (d.map Value.pair)
      pairs [.map d] = .ok list ∧ mapView (.map d) "items" pos = pure list ∧
        Registry.builtin.run? "items" (.map d) args = some (.ok list) ∧
        Registry.builtin.run? "dict" list args = some (.ok (.map d)) := by
  have hordered : v.Ordered := by
    rw [← hx]
    exact (hm.ordered henv).holds.lookupFrom x _
  refine ⟨hv.ascending hordered, fun calls body otherwise pos σ => ⟨?_, fun name => ⟨?_, ?_⟩⟩, ?_⟩
  · intro first second e he
    have hwalks : ∀ e ∈ pairWalks x, Spreads env calls m.template pos e m.state σ
        (.pair first second) (entries.map Value.pair) :=
      spreads_pairWalks hx hv hfree halias hitems first second
    exact (hwalks e he).run_eq (hwalks _ List.mem_cons_self) body otherwise
  · intro e he
    have hwalks : ∀ e ∈ keyWalks x, Spreads env calls m.template pos e m.state σ
        (.single name) ((Dict.keys entries).map .str) :=
      spreads_keyWalks hx hv halias hlist name
    exact (hwalks e he).run_eq (hwalks _ List.mem_cons_self) body otherwise
  · refine (run_forEach_single (yields_var hx) (loopItems_single hv name)).trans ?_
    simp only [Dict.keys, List.length_map, List.isEmpty_map]
  · exact fun d hd args pos => ⟨rfl, rfl, rfl, Filter.run_dict_pairs hd args⟩

theorem map_ways_agree_sizes :
    let sizes : Dict Value := [("large", .int 3), ("small", .null)]
    let env : Env := ⟨Engine.default, [("sizes", .map sizes)]⟩
    let m : Moment := ⟨1, report, .template, State.initial env report, {}⟩
    let run (e : Expr) := ((exec env (callsAt env 1) report
      (.forEach (.pair "k" "v") e [.print (.var "v") .start] [] .start)).run m.state).run {}
    env.Ordered ∧ Reached env m ∧ Dict.get? report.macros "pairs" = none ∧
      Dict.get? m.state.imports "sizes" = none ∧
      lookupFrom m.state.scopes env.root "sizes" m.state.here = .map sizes ∧
      Dict.Ascending sizes ∧
      run (.callMember (.var "sizes") "items" []) = run (.var "sizes") ∧
      Registry.builtin.run? "dict" (.list (sizes.map Value.pair)) [] = some (.ok (.map sizes)) := by
  intro sizes env m run
  have hascending : Dict.Ascending sizes := by
    unfold Dict.Ascending
    decide
  have hsizes : (Value.map sizes).Ordered := ordered_map.mpr ⟨hascending, by simp [sizes]⟩
  have hroot : (Value.map env.root).Ordered :=
    ordered_map.mpr ⟨List.pairwise_singleton _ _, List.forall_mem_singleton.mpr hsizes⟩
  have henv : env.Ordered := ⟨hroot, Registry.keepsOrder_builtin⟩
  have hm : Reached env m := ⟨1, report, {}, .refl⟩
  have hx : lookupFrom m.state.scopes env.root "sizes" m.state.here = .map sizes := by
    change lookupFrom _ _ _ .root = _
    rw [lookupFrom]
    rfl
  obtain ⟨-, hwalks, hdict⟩ := map_ways_agree henv rfl rfl hm rfl rfl hx (.map sizes)
  obtain ⟨hpairs, -⟩ := hwalks (callsAt env 1) [.print (.var "v") .start] [] .start {}
  exact ⟨henv, hm, rfl, rfl, hx, hascending, hpairs "k" "v" _ (by simp [pairWalks]),
    (hdict sizes hascending [] .start).2.2.2⟩

end Render

end Stencil
