import Stencil.Proofs.Compilation
import Stencil.Proofs.Parts

/-! Compilation lets no unknown name through: all filters and tests of a compiled template are
those of the registry, wherever they stand. -/
namespace Stencil

/-- Filters and tests that the registry has. -/
def Registry.Knows (r : Registry) : Part → Prop
  | .filter name => r.hasFilter name = true
  | .test name => r.hasTest name = true
  | .text _ | .autoescape _ => True

variable {r : Registry} {pos : Position}

lemma Registry.knows_addFilter {name : String} {run : Value → List Value → Except Fault Value}
    {x : Part} (h : r.Knows x) : (r.addFilter name run).Knows x := by
  cases x with
  | filter other =>
    simp only [Registry.Knows, Registry.hasFilter, Registry.filter?, Registry.addFilter,
      Dict.get?_insert] at *
    split
    · rfl
    · exact h
  | _ => exact h

lemma Registry.knows_addTest {name : String} {test : Test} {x : Part} (h : r.Knows x) :
    (r.addTest name test).Knows x := by
  cases x with
  | test other =>
    simp only [Registry.Knows, Registry.hasTest, Registry.test?, Registry.addTest,
      Dict.get?_insert] at *
    split
    · rfl
    · exact h
  | _ => exact h

/-! ### Expressions -/

namespace Expr

lemma knows_of_checkFilter {name : String} (h : checkFilter r pos name = .ok ()) :
    r.Knows (.filter name) := by
  unfold checkFilter at h
  split at h
  · assumption
  · cases h

lemma knows_of_checkTest {name : String} (h : checkTest r pos name = .ok ()) :
    r.Knows (.test name) := by
  unfold checkTest at h
  split at h
  · assumption
  · cases h

mutual

theorem knows_of_check (e : Expr) (h : check r pos e = .ok ()) : ∀ x ∈ e.parts, r.Knows x := by
  cases e with
  | lit value | var name => exact List.forall_mem_nil _
  | list items =>
    rw [check] at h
    exact knows_of_checkAll items h
  | dict entries =>
    rw [check] at h
    exact knows_of_checkEntries entries h
  | item base key | binary op base key =>
    rw [check] at h
    obtain ⟨_, hbase, hkey⟩ := Except.exists_of_bind h
    rw [parts, List.forall_mem_append]
    exact ⟨knows_of_check base hbase, knows_of_check key hkey⟩
  | unary op operand =>
    rw [check] at h
    exact knows_of_check operand h
  | filter base name args =>
    rw [check] at h
    obtain ⟨_, hname, h⟩ := Except.exists_of_bind h
    obtain ⟨_, hbase, hargs⟩ := Except.exists_of_bind h
    rw [parts, List.cons_append, List.forall_mem_cons, List.forall_mem_append]
    exact ⟨knows_of_checkFilter hname, knows_of_check base hbase, knows_of_checkAll args hargs⟩
  | test base name args negated =>
    rw [check] at h
    obtain ⟨_, hname, h⟩ := Except.exists_of_bind h
    obtain ⟨_, hbase, hargs⟩ := Except.exists_of_bind h
    rw [parts, List.cons_append, List.forall_mem_cons, List.forall_mem_append]
    exact ⟨knows_of_checkTest hname, knows_of_check base hbase, knows_of_checkAll args hargs⟩
  | call name args =>
    rw [check] at h
    exact knows_of_checkAll args h
  | callMember base member args =>
    rw [check] at h
    obtain ⟨_, hbase, hargs⟩ := Except.exists_of_bind h
    rw [parts, List.forall_mem_append]
    exact ⟨knows_of_check base hbase, knows_of_checkAll args hargs⟩
  | choice value condition otherwise =>
    rw [check] at h
    obtain ⟨_, hvalue, h⟩ := Except.exists_of_bind h
    obtain ⟨_, hcondition, hotherwise⟩ := Except.exists_of_bind h
    rw [parts, List.forall_mem_append, List.forall_mem_append]
    exact ⟨⟨knows_of_check value hvalue, knows_of_check condition hcondition⟩,
      knows_of_checkOption otherwise hotherwise⟩

theorem knows_of_checkAll (items : List Expr) (h : checkAll r pos items = .ok ()) :
    ∀ x ∈ partsAll items, r.Knows x := by
  cases items with
  | nil => exact List.forall_mem_nil _
  | cons e more =>
    rw [checkAll] at h
    obtain ⟨_, he, hmore⟩ := Except.exists_of_bind h
    rw [partsAll, List.forall_mem_append]
    exact ⟨knows_of_check e he, knows_of_checkAll more hmore⟩

theorem knows_of_checkEntries (entries : List (Expr × Expr))
    (h : checkEntries r pos entries = .ok ()) : ∀ x ∈ partsEntries entries, r.Knows x := by
  cases entries with
  | nil => exact List.forall_mem_nil _
  | cons entry more =>
    obtain ⟨key, value⟩ := entry
    rw [checkEntries] at h
    obtain ⟨_, hkey, h⟩ := Except.exists_of_bind h
    obtain ⟨_, hvalue, hmore⟩ := Except.exists_of_bind h
    rw [partsEntries, List.forall_mem_append, List.forall_mem_append]
    exact ⟨⟨knows_of_check key hkey, knows_of_check value hvalue⟩,
      knows_of_checkEntries more hmore⟩

theorem knows_of_checkOption (e : Option Expr) (h : checkOption r pos e = .ok ()) :
    ∀ x ∈ partsOption e, r.Knows x := by
  cases e with
  | none => exact List.forall_mem_nil _
  | some e =>
    rw [checkOption] at h
    exact knows_of_check e h

end

end Expr

lemma Callee.knows_of_check {callee : Callee} (h : callee.check r pos = .ok ()) :
    ∀ x ∈ callee.parts, r.Knows x := by
  cases callee with
  | name name => exact List.forall_mem_nil _
  | member base member => exact Expr.knows_of_check base h

/-! ### Nodes -/

namespace Template

/-- Everything found outside the instructions satisfies `A`. -/
structure Tables.Within (A : Part → Prop) (tb : Tables) : Prop where
  macros : ∀ m ∈ tb.macros, ∀ x ∈ m.2.parts, A x
  blocks : ∀ b ∈ tb.blocks, ∀ x ∈ Instr.partsAll b.2, A x
  parent : ∀ x ∈ Expr.partsOption (tb.parent.map Prod.fst), A x

/-- Joined texts name no filter, so that joining loses and adds no names. -/
lemma knows_prepend {i : Option Instr} {rest : List Instr}
    (hi : ∀ j ∈ i, ∀ x ∈ j.parts, r.Knows x) (hrest : ∀ x ∈ Instr.partsAll rest, r.Knows x) :
    ∀ x ∈ Instr.partsAll (prepend i rest), r.Knows x := by
  unfold prepend
  split
  · exact hrest
  · split
    · exact hrest
    · split
      · rw [Instr.partsAll, List.forall_mem_append] at hrest ⊢
        exact ⟨List.forall_mem_singleton.mpr trivial, hrest.2⟩
      · rw [Instr.partsAll, List.forall_mem_append]
        exact ⟨hi _ rfl, hrest⟩
  · rw [Instr.partsAll, List.forall_mem_append]
    exact ⟨hi _ rfl, hrest⟩

lemma knows_of_checkParams {name : String} {seen : List String} {defaulted : Bool}
    {params : List Param} (h : checkParams r pos name seen defaulted params = .ok ()) :
    ∀ x ∈ params.flatMap Param.parts, r.Knows x := by
  induction params generalizing seen defaulted with
  | nil => exact List.forall_mem_nil _
  | cons p more ih =>
    rw [List.flatMap_cons, List.forall_mem_append]
    unfold checkParams at h
    simp only at h
    split at h
    · cases h
    · unfold Param.parts
      cases hd : p.default with
      | some e =>
        simp only [hd] at h
        obtain ⟨_, he, hmore⟩ := Except.exists_of_bind h
        exact ⟨Expr.knows_of_check e he, ih hmore⟩
      | none =>
        simp only [hd] at h
        split at h
        · cases h
        · exact ⟨List.forall_mem_nil _, ih h⟩

lemma knows_of_checkFilters {filters : List FilterCall} (h : checkFilters r pos filters = .ok ()) :
    ∀ x ∈ filters.flatMap FilterCall.parts, r.Knows x := by
  induction filters with
  | nil => exact List.forall_mem_nil _
  | cons f more ih =>
    obtain ⟨_, hf, hmore⟩ := Except.exists_of_bind h
    obtain ⟨_, hname, hargs⟩ := Except.exists_of_bind hf
    rw [List.flatMap_cons, List.forall_mem_append, FilterCall.parts, List.forall_mem_cons]
    exact ⟨⟨Expr.knows_of_checkFilter hname, Expr.knows_of_checkAll f.args hargs⟩, ih hmore⟩

lemma knows_of_checkBindings {bindings : List (String × Expr)}
    (h : ∀ b ∈ bindings, b.2.check r pos = .ok ()) :
    ∀ x ∈ bindings.flatMap (fun b => b.2.parts), r.Knows x := by
  intro x hx
  obtain ⟨b, hb, hx⟩ := List.mem_flatMap.mp hx
  exact Expr.knows_of_check b.2 (h b hb) x hx

mutual

theorem knows_compileNodes (topLevel : Bool) (nodes : List Node) :
    Keeps (Tables.Within r.Knows) (fun body => ∀ x ∈ Instr.partsAll body, r.Knows x)
      (compileNodes r topLevel nodes) := by
  cases nodes with
  | nil =>
    rw [compileNodes]
    exact .pure (List.forall_mem_nil _)
  | cons node more =>
    rw [compileNodes]
    refine .bind (knows_compileNode topLevel node) fun i hi => ?_
    refine .bind (knows_compileNodes topLevel more) fun rest hrest => ?_
    exact .pure (knows_prepend hi hrest)

theorem knows_compileNode (topLevel : Bool) (node : Node) :
    Keeps (Tables.Within r.Knows) (fun i => ∀ j ∈ i, ∀ x ∈ j.parts, r.Knows x)
      (compileNode r topLevel node) := by
  have hnone : ∀ j ∈ (none : Option Instr), ∀ x ∈ j.parts, r.Knows x := nofun
  have hsome : ∀ {i : Instr}, (∀ x ∈ i.parts, r.Knows x) →
      ∀ j ∈ some i, ∀ x ∈ j.parts, r.Knows x := by
    rintro i hi _ ⟨⟩
    exact hi
  cases node with
  | text content | raw content =>
    rw [compileNode]
    exact .pure (hsome (List.forall_mem_singleton.mpr trivial))
  | comment =>
    rw [compileNode]
    exact .pure hnone
  | print e pos =>
    rw [compileNode]
    exact .check fun _ he => .pure (hsome (Expr.knows_of_check e he))
  | branch condition body more otherwise pos =>
    rw [compileNode]
    refine .check fun _ hcondition => ?_
    refine .bind (knows_compileNodes false body) fun body hbody => ?_
    refine .bind (knows_compileBranches (knows_compileOption otherwise) pos more)
      fun rest hrest => .pure (hsome ?_)
    rw [Instr.parts, List.forall_mem_append, List.forall_mem_append]
    exact ⟨⟨Expr.knows_of_check condition hcondition, hbody⟩, hrest⟩
  | forEach binding iterable body otherwise pos =>
    rw [compileNode]
    refine .check fun _ hiterable => ?_
    refine .bind (knows_compileNodes false body) fun body hbody => ?_
    refine .bind (knows_compileOption otherwise) fun rest hrest => .pure (hsome ?_)
    rw [Instr.parts, List.forall_mem_append, List.forall_mem_append]
    exact ⟨⟨Expr.knows_of_check iterable hiterable, hbody⟩, hrest⟩
  | macroDef name params body pos =>
    rw [compileNode]
    refine .check fun _ hparams => .bind (knows_compileNodes false body) fun body hbody => ?_
    have hparts : ∀ x ∈ MacroDef.parts ⟨name, params, body⟩, r.Knows x :=
      List.forall_mem_append.mpr ⟨knows_of_checkParams hparams, hbody⟩
    refine .bind (keeps_addMacro (fun tb htb => ?_) pos) fun _ _ => .pure hnone
    exact { htb with macros := Dict.forall_mem_insert hparts htb.macros }
  | callBlock callee args body pos =>
    rw [compileNode]
    refine .check fun _ hcallee => .check fun _ hargs => ?_
    refine .bind (knows_compileNodes false body) fun body hbody => .pure (hsome ?_)
    rw [Instr.parts, List.forall_mem_append, List.forall_mem_append]
    exact ⟨⟨Callee.knows_of_check hcallee, Expr.knows_of_checkAll args hargs⟩, hbody⟩
  | assign name value pos =>
    rw [compileNode]
    exact .check fun _ hv => .pure (hsome (Expr.knows_of_check value hv))
  | «scoped» bindings body pos =>
    rw [compileNode]
    refine .bind (keeps_checkBindings bindings pos) fun _ hbindings => ?_
    refine .bind (knows_compileNodes false body) fun body hbody => .pure (hsome ?_)
    rw [Instr.parts, List.forall_mem_append]
    exact ⟨knows_of_checkBindings hbindings, hbody⟩
  | block name body pos =>
    rw [compileNode]
    refine .bind (knows_compileNodes false body) fun body hbody => ?_
    refine .bind (keeps_addBlock (fun tb htb => ?_) pos) fun _ _ => ?_
    · exact { htb with blocks := Dict.forall_mem_insert hbody htb.blocks }
    · exact .pure (hsome (List.forall_mem_nil _))
  | extending path pos =>
    rw [compileNode]
    refine .bind (keeps_setParent (fun tb hpath htb => ?_) topLevel) fun _ _ => .pure hnone
    exact { htb with parent := Expr.knows_of_check path hpath }
  | including path pos | importing path asName pos =>
    rw [compileNode]
    exact .check fun _ hpath => .pure (hsome (Expr.knows_of_check path hpath))
  | autoescape enabled body pos =>
    rw [compileNode]
    refine .bind (knows_compileNodes false body) fun body hbody => .pure (hsome ?_)
    rw [Instr.parts, List.forall_mem_cons]
    exact ⟨trivial, hbody⟩
  | filterBlock filters body pos =>
    rw [compileNode]
    refine .check fun _ hfilters => ?_
    refine .bind (knows_compileNodes false body) fun body hbody => .pure (hsome ?_)
    rw [Instr.parts, List.forall_mem_append]
    exact ⟨knows_of_checkFilters hfilters, hbody⟩
  | exitLoop pos | nextItem pos =>
    rw [compileNode]
    exact .pure (hsome (List.forall_mem_nil _))

theorem knows_compileBranches {otherwise : CompileM (List Instr)}
    (ho : Keeps (Tables.Within r.Knows) (fun body => ∀ x ∈ Instr.partsAll body, r.Knows x)
      otherwise) (pos : Position) (branches : List (Expr × List Node)) :
    Keeps (Tables.Within r.Knows) (fun body => ∀ x ∈ Instr.partsAll body, r.Knows x)
      (compileBranches r pos otherwise branches) := by
  cases branches with
  | nil =>
    rw [compileBranches]
    exact ho
  | cons branch more =>
    obtain ⟨condition, body⟩ := branch
    rw [compileBranches]
    refine .check fun _ hcondition => ?_
    refine .bind (knows_compileNodes false body) fun body hbody => ?_
    refine .bind (knows_compileBranches ho pos more) fun rest hrest => .pure ?_
    rw [Instr.partsAll, Instr.parts, Instr.partsAll, List.append_nil, List.forall_mem_append,
      List.forall_mem_append]
    exact ⟨⟨Expr.knows_of_check condition hcondition, hbody⟩, hrest⟩

theorem knows_compileOption (nodes : Option (List Node)) :
    Keeps (Tables.Within r.Knows) (fun body => ∀ x ∈ Instr.partsAll body, r.Knows x)
      (compileOption r nodes) := by
  cases nodes with
  | none =>
    rw [compileOption]
    exact .pure (List.forall_mem_nil _)
  | some nodes =>
    rw [compileOption]
    exact knows_compileNodes false nodes

end

/-- The registry knows every filter and test of the templates that are compiled with it. -/
theorem within_of_ofSource {choice : Option Dialect} {name : Option String} {source : String}
    {t : Template} (h : ofSource r choice name source = .ok t) : t.Within r.Knows := by
  obtain ⟨nodes, dialect, -, ht⟩ := ofSource_eq_ok.mp h
  obtain ⟨body, tb, hrun, rfl⟩ := ofNodes_eq_ok.mp ht
  have hempty : Tables.Within r.Knows {} :=
    ⟨List.forall_mem_nil _, List.forall_mem_nil _, List.forall_mem_nil _⟩
  obtain ⟨hbody, htb⟩ := knows_compileNodes true nodes hempty hrun
  exact within_iff.mpr ⟨hbody, htb.macros, htb.blocks, htb.parent⟩

end Template
end Stencil
