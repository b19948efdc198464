import Stencil.Proofs.IntegerArithmetic
import Stencil.Proofs.LoopAppend

/-! All ways to the items of a list or text agree: indices from either end, the filters that turn
it round, take its first or last item, spread or measure it, and the rounds of a loop. -/
namespace Stencil

namespace Value

/-- The items of a list, or the characters of a text, each as a text of its own. -/
inductive Elements : Value → List Value → Prop where
  | list (items : List Value) : Elements (.list items) items
  | str (s : String) : Elements (.str s) (ofChars s)
  | safe (s : String) : Elements (.safe s) (ofChars s)

/-- The element at an index, which counts from the end if it is negative. -/
def elementAt (xs : List Value) (i : ℤ) : Value :=
  ((position? xs.length i).bind (xs[·]?)).getD .undefined

section ElementAt

variable {xs : List Value} {i : ℤ} {k : ℕ}

lemma elementAt_of_nonneg (h : 0 ≤ i) : elementAt xs i = xs[i.toNat]?.getD .undefined := by
  rw [elementAt, position?, if_pos h]
  rfl

lemma elementAt_of_neg (hlow : -(xs.length : ℤ) ≤ i) (hneg : i < 0) :
    elementAt xs i = xs[(xs.length + i).toNat]?.getD .undefined := by
  rw [elementAt, position?, if_neg (by omega), if_pos (by omega)]
  rfl

lemma elementAt_of_out (h : (xs.length : ℤ) ≤ i ∨ i < -(xs.length : ℤ)) :
    elementAt xs i = .undefined := by
  rcases h with hhigh | hlow
  · rw [elementAt_of_nonneg (by omega), List.getElem?_eq_none (by omega)]
    rfl
  · rw [elementAt, position?, if_neg (by omega), if_neg (by omega)]
    rfl

/-- An element is found from either end. -/
lemma elementAt_eq_getElem (hk : k < xs.length) (h : i = k ∨ i = (k : ℤ) - xs.length) :
    elementAt xs i = xs[k] := by
  have hplace : elementAt xs i = xs[k]?.getD .undefined := by
    rcases h with rfl | rfl
    · rw [elementAt_of_nonneg (by omega), Int.toNat_natCast]
    · rw [elementAt_of_neg (by omega) (by omega)]
      congr 2
      omega
  rw [hplace, List.getElem?_eq_getElem hk]
  rfl

/-- From the one end it is as far as from the other one in the list turned round. -/
lemma elementAt_reverse (xs : List Value) (i : ℤ) :
    elementAt xs.reverse i = elementAt xs (-1 - i) := by
  by_cases hout : (xs.length : ℤ) ≤ i ∨ i < -(xs.length : ℤ)
  · rw [elementAt_of_out (by rwa [List.length_reverse]), elementAt_of_out (by omega)]
  -- Any other index is a place counted from one end, and the same place of the other list counts
  -- from the other end.
  · by_cases hneg : i < 0
    · obtain ⟨k, rfl⟩ : ∃ k : ℕ, i = -1 - k := ⟨(-1 - i).toNat, by omega⟩
      have hk : k < xs.length := by omega
      have hr : xs.length - 1 - k < xs.reverse.length := by rw [List.length_reverse]; omega
      rw [elementAt_eq_getElem hr (.inr (by rw [List.length_reverse]; omega)),
        elementAt_eq_getElem hk (.inl (by omega)), List.getElem_reverse]
      congr 1
      omega
    · obtain ⟨k, rfl⟩ : ∃ k : ℕ, i = k := ⟨i.toNat, by omega⟩
      have hk : k < xs.reverse.length := by rw [List.length_reverse]; omega
      have hr : xs.length - 1 - k < xs.length := by omega
      rw [elementAt_eq_getElem hk (.inl rfl), elementAt_eq_getElem hr (.inr (by omega)),
        List.getElem_reverse]

lemma head?_eq_elementAt (xs : List Value) : xs.head?.getD .undefined = elementAt xs 0 := by
  rw [elementAt_of_nonneg le_rfl, List.head?_eq_getElem?]
  rfl

lemma getLast?_eq_elementAt (xs : List Value) :
    xs.getLast?.getD .undefined = elementAt xs (-1) := by
  rw [← List.head?_reverse, head?_eq_elementAt, elementAt_reverse]
  rfl

end ElementAt

namespace Elements

variable {v : Value} {xs : List Value}

lemma item_eq (h : v.Elements xs) (i : Int64) : v.item (.int i) = elementAt xs i.toInt := by
  cases h with
  | list => rfl
  | str s | safe s =>
    rw [elementAt, item, ofChars, List.length_map, String.length_toList]
    cases position? s.length i.toInt with
    | none => rfl
    | some k =>
      simp only [Option.bind_some, List.getElem?_map]
      cases s.toList[k]? <;> rfl

lemma run_reverse (h : v.Elements xs) (args : List Value) :
    ∃ r, Registry.builtin.run? "reverse" v args = some (.ok r) ∧ r.Elements xs.reverse := by
  have hchars (s : String) : (ofChars s).reverse = ofChars (String.ofList s.toList.reverse) := by
    rw [ofChars, ofChars, String.toList_ofList, List.map_reverse]
  cases h with
  | list items => exact ⟨_, rfl, .list _⟩
  | str s =>
    rw [hchars]
    exact ⟨_, rfl, .str _⟩
  | safe s =>
    rw [hchars]
    exact ⟨_, rfl, .safe _⟩

lemma run_first (h : v.Elements xs) (args : List Value) :
    Registry.builtin.run? "first" v args = some (.ok (xs.head?.getD .undefined)) := by
  cases h with
  | list => rfl
  | str s | safe s =>
    rw [ofChars, List.head?_map]
    rfl

lemma run_last (h : v.Elements xs) (args : List Value) :
    Registry.builtin.run? "last" v args = some (.ok (xs.getLast?.getD .undefined)) := by
  cases h with
  | list => rfl
  | str s | safe s =>
    rw [ofChars, List.getLast?_map]
    rfl

lemma run_list (h : v.Elements xs) (args : List Value) :
    Registry.builtin.run? "list" v args = some (.ok (.list xs)) := by
  cases h <;> rfl

lemma run_length (h : v.Elements xs) (args : List Value) :
    Registry.builtin.run? "length" v args = some (.ok (.ofNat xs.length)) := by
  cases h with
  | list => rfl
  | str s | safe s =>
    rw [ofChars, List.length_map, String.length_toList]
    rfl

lemma loopItems_eq (h : v.Elements xs) (binding : Binding) :
    Render.loopItems binding v = .ok xs := by
  cases h <;> rfl

end Elements

/-- The index that counts as far from the other end is never out of range. -/
lemma sub_mirror (i : Int64) :
    ∃ j : Int64, Value.sub (.int (-1)) (.int i) = .ok (.int j) ∧ j.toInt = -1 - i.toInt := by
  have hi := IsWord.iff_bounds.mp (.of_toInt i)
  have hword : IsWord ((-1 : Int64).toInt - i.toInt) := by
    rw [show (-1 : Int64).toInt = -1 from rfl, IsWord.iff_bounds]
    omega
  refine ⟨Int64.ofInt ((-1 : Int64).toInt - i.toInt), ?_, hword.toInt_ofInt⟩
  rw [Value.sub, exactOr, Decimal.toInt64_of_isWord hword]

/-- A count that 64 bits can hold is an index. -/
lemma Elements.item_ofNat {v : Value} {xs : List Value} (h : v.Elements xs) {k : ℕ}
    (hk : k < xs.length) (hword : k ≤ 9223372036854775807) : v.item (.ofNat k) = xs[k] := by
  have hk' : IsWord (k : ℤ) := IsWord.iff_bounds.mpr (by omega)
  rw [ofNat, if_pos hword, h.item_eq]
  exact elementAt_eq_getElem hk (.inl hk'.toInt_ofInt)

end Value

namespace Render

/-- The state inside a new scope that holds variables. -/
def State.inside (s : State) (vars : Dict Value) : State :=
  { s with scopes := s.scopes.push ⟨vars, s.here⟩, current := some s.scopes.size }

/-- Runs code in a new scope that holds variables. -/
def inScopeOf {α : Type} (vars : Dict Value) (act : RenderM α) : RenderM α := do
  let outer := (← get).current
  modify (·.inside vars)
  let a ← act
  popScope outer
  return a

/-- The variables of a round: the item under its name, and then the state of the loop. -/
def roundVars (name : String) (item : Value) (k length : ℕ) : Dict Value :=
  Dict.insert "loop" (loopState k length) [(name, item)]

/-- Plays a round for each item with its number, up to one that exits the loop, and joins what they
write. -/
def playAll (round : Value → ℕ → RenderM (Flow × String)) : List (Value × ℕ) → RenderM String
  | [] => return ""
  | (item, k) :: more => do
    let (flow, written) ← round item k
    match flow with
    | .exitLoop _ => return written
    | _ => return written ++ (← playAll round more)

/-- What the code of a round finds under the name of the item and in the state of the loop. -/
structure Tells (s : State) (root : Dict Value) (name : String) (item : Value) (k length : ℕ) :
    Prop where
  item : name ≠ "loop" → lookupFrom s.scopes root name s.here = item
  index0 : (lookupFrom s.scopes root "loop" s.here).item (.str "index0") = .ofNat k
  revindex0 : (lookupFrom s.scopes root "loop" s.here).item (.str "revindex0") =
    .ofNat (length - 1 - k)

section Rounds

variable {s : State} {σ : Session} {vars : Dict Value} {name : String} {v : Value}

lemma lookupFrom_inside (h : Dict.get? vars name = some v) (root : Dict Value) :
    lookupFrom (s.inside vars).scopes root name (s.inside vars).here = v := by
  have hscope : (s.scopes.push ⟨vars, s.here⟩)[s.scopes.size]? = some ⟨vars, s.here⟩ :=
    Array.getElem?_push_size
  change lookupFrom (s.scopes.push ⟨vars, s.here⟩) root name (.scope s.scopes.size) = v
  rw [lookupFrom]
  simp only [hscope, h]

lemma loopState_index0 (k length : ℕ) :
    (loopState k length).item (.str "index0") = .ofNat k := by
  simp [loopState, Value.item, Dict.ofList, Dict.get?_insert]

lemma loopState_revindex0 (k length : ℕ) :
    (loopState k length).item (.str "revindex0") = .ofNat (length - 1 - k) := by
  simp [loopState, Value.item, Dict.ofList, Nat.sub_right_comm]

lemma tells_roundVars (s : State) (root : Dict Value) (name : String) (item : Value)
    (k length : ℕ) : Tells (s.inside (roundVars name item k length)) root name item k length := by
  have hloop : Dict.get? (roundVars name item k length) "loop" = some (loopState k length) :=
    Dict.get?_insert_self _ _ _
  refine ⟨fun hname => lookupFrom_inside ?_ root, ?_, ?_⟩
  · rw [roundVars, Dict.get?_insert, if_neg hname, Dict.get?_cons, if_pos rfl]
  · rw [lookupFrom_inside hloop]
    exact loopState_index0 k length
  · rw [lookupFrom_inside hloop]
    exact loopState_revindex0 k length

lemma run_setLocal_inside (name : String) (v : Value) :
    ((setLocal name v).run (s.inside vars)).run σ =
      (.ok ((), s.inside (Dict.insert name v vars)), σ) := by
  have hscopes : (s.scopes.push ⟨vars, s.here⟩).modify s.scopes.size
      (fun c => { c with vars := Dict.insert name v c.vars }) =
        s.scopes.push ⟨Dict.insert name v vars, s.here⟩ := by
    apply Array.ext_getElem?
    intro i
    rw [Array.getElem?_modify, Array.getElem?_push, Array.getElem?_push]
    by_cases hi : i = s.scopes.size
    · simp [hi]
    · simp [hi, Ne.symm hi]
  change (Except.ok ((), { s.inside vars with
    scopes := (s.scopes.push ⟨vars, s.here⟩).modify s.scopes.size
      (fun c => { c with vars := Dict.insert name v c.vars }) }), σ) = _
  rw [hscopes]
  rfl

variable {env : Env} {calls : Calls} {t : Template} {pos : Position} {body : List Instr}

/-- Code that first fills the scope in which it runs. -/
lemma run_inScope_eq {α : Type} {act code : RenderM α}
    (h : (act.run (s.inside [])).run σ = (code.run (s.inside vars)).run σ) :
    ((inScope s.here act).run s).run σ = ((inScopeOf vars code).run s).run σ := by
  unfold inScopeOf
  rw [run_bind_get, run_bind_modify]
  rcases hrun : (code.run (s.inside vars)).run σ with ⟨e | ⟨a, u⟩, τ⟩
  · rw [run_inScope_error (h.trans hrun), run_bind_error _ hrun]
  · rw [run_inScope_ok (h.trans hrun), run_bind_ok _ hrun]
    rfl

/-- A round of a loop with one name stores the item and the state of the loop in a new scope. -/
lemma playRound_single (item : Value) (k length : ℕ) :
    playRound env calls t (.single name) pos body length k item =
      inScopeOf (roundVars name item k length) (execAll env calls t "" body) := by
  funext s σ
  have hitem : ((setLocals [(name, item)]).run (s.inside [])).run σ =
      (.ok ((), s.inside [(name, item)]), σ) := run_bind_ok _ (run_setLocal_inside name item)
  have hbegin : ((do
      setLocals [(name, item)]
      setLocal "loop" (loopState k length)
      execAll env calls t "" body).run (s.inside [])).run σ =
        ((execAll env calls t "" body).run (s.inside (roundVars name item k length))).run σ :=
    (run_bind_ok _ hitem).trans (run_bind_ok _ (run_setLocal_inside "loop" _))
  exact run_inScope_eq hbegin

lemma loop_eq_playAll (output : String) (k length : ℕ) (items : List Value) :
    loop (.single name) pos (execAll env calls t "" body) length k output items =
      (output ++ ·) <$> playAll (fun item k =>
        inScopeOf (roundVars name item k length) (execAll env calls t "" body))
        (items.zipIdx k) := by
  induction items generalizing k output with
  | nil =>
    rw [loop, List.zipIdx_nil, playAll, map_pure, String.append_empty]
  | cons item more ih =>
    rw [loop_cons, playRound_single, List.zipIdx_cons, playAll, map_bind]
    congr 1
    funext r
    obtain ⟨flow, written⟩ := r
    -- What is written goes behind the output of the rounds before, or before that of the others.
    cases flow with
    | exitLoop => rw [map_pure]
    | normal | nextItem =>
      simp only [ih, map_eq_pure_bind, String.append_assoc, bind_assoc, pure_bind]

/-- Behind the value of its expression a loop does the same for all values with these items. -/
lemma run_forEach {binding : Binding} {iterable : Expr} {otherwise : List Instr} {xs : List Value}
    {u : State} {τ : Session} (heval : Yields (eval env calls t pos iterable) s σ v u τ)
    (hitems : loopItems binding v = .ok xs) :
    ((exec env calls t (.forEach binding iterable body otherwise pos)).run s).run σ =
      ((if xs.isEmpty then execAll env calls t "" otherwise
        else do
          let output ← loop binding pos (execAll env calls t "" body) xs.length 0 "" xs
          return (.normal, output)).run u).run τ := by
  have htyped : Yields (typed pos (loopItems binding v)) u τ xs u τ := by
    rw [hitems]
    rfl
  rw [exec, run_bind_ok _ heval, run_bind_ok _ htyped]

lemma run_forEach_single {iterable : Expr} {otherwise : List Instr} {xs : List Value} {u : State}
    {τ : Session} (heval : Yields (eval env calls t pos iterable) s σ v u τ)
    (hitems : loopItems (.single name) v = .ok xs) :
    ((exec env calls t (.forEach (.single name) iterable body otherwise pos)).run s).run σ =
      ((if xs.isEmpty then execAll env calls t "" otherwise
        else do
          let output ← playAll (fun item k =>
            inScopeOf (roundVars name item k xs.length) (execAll env calls t "" body)) xs.zipIdx
          return (.normal, output)).run u).run τ := by
  rw [run_forEach heval hitems]
  split
  · rfl
  · rw [loop_eq_playAll, bind_map_left]
    simp only [String.empty_append]

end Rounds

/-- All ways to the items of a list or text agree. Whatever the index of 64 bits, it counts from the
start or, if it is negative, from the end, and beyond the ends there is nothing; from the one end it
is as far as from the other one in the sequence turned round. The first and the last item, the list
of all of them and their number are those that the indices give. A loop with one name plays a round
for each item in turn, or its else part if there is none, and the code of each round finds its item
and how many items come before and after it. -/
theorem sequence_ways_agree {v : Value} {xs : List Value} (h : v.Elements xs) (args : List Value) :
    (∀ (i : Int64) (k : ℕ) (hk : k < xs.length), i.toInt = k ∨ i.toInt = (k : ℤ) - xs.length →
      v.item (.int i) = xs[k]) ∧
    (∀ i : Int64, (xs.length : ℤ) ≤ i.toInt ∨ i.toInt < -(xs.length : ℤ) →
      v.item (.int i) = .undefined) ∧
    (∃ r, Registry.builtin.run? "reverse" v args = some (.ok r) ∧ ∀ i : Int64, ∃ j : Int64,
      Value.sub (.int (-1)) (.int i) = .ok (.int j) ∧ j.toInt = -1 - i.toInt ∧
      r.item (.int i) = v.item (.int j)) ∧
    Registry.builtin.run? "first" v args = some (.ok (v.item (.int 0))) ∧
    Registry.builtin.run? "last" v args = some (.ok (v.item (.int (-1)))) ∧
    (∃ l, Registry.builtin.run? "list" v args = some (.ok l) ∧
      ∀ i : Int64, l.item (.int i) = v.item (.int i)) ∧
    Registry.builtin.run? "length" v args = some (.ok (.ofNat xs.length)) ∧
    (∀ (k : ℕ) (hk : k < xs.length), k ≤ 9223372036854775807 → v.item (.ofNat k) = xs[k]) ∧
    ∀ (env : Env) (calls : Calls) (t : Template) (name : String) (iterable : Expr)
      (body otherwise : List Instr) (pos : Position) (s u : State) (σ τ : Session),
      Yields (eval env calls t pos iterable) s σ v u τ →
      ((exec env calls t (.forEach (.single name) iterable body otherwise pos)).run s).run σ =
        ((if xs.isEmpty then execAll env calls t "" otherwise
          else do
            let output ← playAll (fun item k =>
              inScopeOf (roundVars name item k xs.length) (execAll env calls t "" body)) xs.zipIdx
            return (.normal, output)).run u).run τ ∧
      ∀ (w : State) (k : ℕ) (hk : k < xs.length),
        Tells (w.inside (roundVars name xs[k] k xs.length)) env.root name xs[k] k xs.length := by
  refine ⟨fun i k hk hi => ?_, fun i hi => ?_, ?_, ?_, ?_, ?_, h.run_length args,
    fun k hk => h.item_ofNat hk, ?_⟩
  · rw [h.item_eq]
    exact Value.elementAt_eq_getElem hk hi
  · rw [h.item_eq]
    exact Value.elementAt_of_out hi
  · obtain ⟨r, hr, helements⟩ := h.run_reverse args
    refine ⟨r, hr, fun i => ?_⟩
    obtain ⟨j, hsub, hj⟩ := Value.sub_mirror i
    refine ⟨j, hsub, hj, ?_⟩
    rw [helements.item_eq, h.item_eq, hj, Value.elementAt_reverse]
  · rw [h.run_first, h.item_eq, Value.head?_eq_elementAt]
    rfl
  · rw [h.run_last, h.item_eq, Value.getLast?_eq_elementAt]
    rfl
  · refine ⟨_, h.run_list args, fun i => ?_⟩
    rw [(Value.Elements.list xs).item_eq, h.item_eq]
  · intro env calls t name iterable body otherwise pos s u σ τ heval
    refine ⟨run_forEach_single heval (h.loopItems_eq _), fun w k hk => ?_⟩
    exact tells_roundVars w env.root name xs[k] k _

theorem sequence_ways_agree_accented :
    let v := Value.safe "né"
    let env : Env := ⟨{ registry := Registry.builtin }, []⟩
    let e : Expr := .filter (.lit (.str "né")) "safe" []
    let s := State.initial env report
    v.Elements [.str "n", .str "é"] ∧
    v.item (.int 1) = .str "é" ∧ v.item (.int (-2)) = .str "n" ∧ v.item (.int (-3)) = .undefined ∧
    Yields (eval env (callsAt env 1) report .start e) s {} v s {} ∧
    ((exec env (callsAt env 1) report
      (.forEach (.single "c") e [.print (.var "c") .start] [] .start)).run s).run {} =
      ((do
        let output ← playAll (fun item k => inScopeOf (roundVars "c" item k 2)
          (execAll env (callsAt env 1) report "" [.print (.var "c") .start]))
          [(.str "n", 0), (.str "é", 1)]
        return (Flow.normal, output)).run s).run {} := by
  intro v env e s
  have helements : v.Elements [.str "n", .str "é"] := .safe "né"
  have heval : Yields (eval env (callsAt env 1) report .start e) s {} v s {} := rfl
  obtain ⟨hat, hout, -, -, -, -, -, -, hloop⟩ := sequence_ways_agree helements []
  exact ⟨helements, hat 1 1 (by decide) (.inl rfl), hat (-2) 0 (by decide) (.inr rfl),
    hout (-3) (.inr (by decide)), heval, (hloop env _ report "c" _ _ _ .start s s {} {} heval).1⟩

end Render

end Stencil
