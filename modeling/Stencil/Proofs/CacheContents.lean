import Mathlib.Data.List.DropRight
import Mathlib.Data.List.Nodup
import Stencil.Proofs.Requests
import Stencil.Proofs.Supply

/-! What the cache of an engine holds: the templates that arrived last, as many as there is room
for, oldest first. A template arrives when its text is loaded and compiled, be it for the host or in
the middle of a render. -/
namespace Stencil

namespace Cache

variable {c : Cache} {capacity n : Nat} {log : List (String × Loaded)} {name : String}

/-- The cache holds the last arrivals, as many as there is room for. -/
structure HoldsLast (capacity : Nat) (log : List (String × Loaded)) (c : Cache) : Prop where
  order : c.order = (log.rtake capacity).map Prod.fst
  entries : c.entries.Perm (log.rtake capacity)
  nodup : c.order.Nodup

lemma shrink_order (c : Cache) (n : Nat) : (c.shrink n).order = c.order.rtake n := rfl

lemma shrink_entries (c : Cache) (n : Nat) :
    (c.shrink n).entries =
      c.entries.filter fun p => p.1 ∉ c.order.take (c.order.length - n) :=
  Dict.foldl_erase _ _

/-- Removing the names of the first arrivals removes these and no others. -/
lemma filter_names {first last : List (String × Loaded)}
    (h : ((first ++ last).map Prod.fst).Nodup) :
    (first ++ last).filter (fun p => p.1 ∉ first.map Prod.fst) = last := by
  rw [List.map_append] at h
  have hfirst : first.filter (fun p => p.1 ∉ first.map Prod.fst) = [] := by
    refine List.filter_eq_nil_iff.mpr fun p hp => ?_
    rw [decide_eq_true_eq, not_not]
    exact List.mem_map_of_mem hp
  have hlast : last.filter (fun p => p.1 ∉ first.map Prod.fst) = last := by
    refine List.filter_eq_self.mpr fun p hp => ?_
    rw [decide_eq_true_eq]
    exact fun hmem => h.disjoint hmem (List.mem_map_of_mem hp)
  rw [List.filter_append, hfirst, hlast, List.nil_append]

/-- The names of the entries are those in the order. -/
lemma HoldsLast.perm_names (h : c.HoldsLast capacity log) : (Dict.keys c.entries).Perm c.order := by
  rw [h.order]
  exact h.entries.map Prod.fst

lemma HoldsLast.get?_eq_none_iff (h : c.HoldsLast capacity log) :
    c.get? name = none ↔ name ∉ c.order := by
  rw [Cache.get?, Dict.get?_eq_none_iff, h.perm_names.mem_iff]

/-- What is found under a name is the last arrival of that name. -/
lemma HoldsLast.lookup_reverse (h : c.HoldsLast capacity log) {l : Loaded}
    (hl : c.get? name = some l) : log.reverse.lookup name = some l := by
  let last := log.rtake capacity
  have hlog : log.reverse = last.reverse ++ (log.take (log.length - capacity)).reverse := by
    rw [← List.reverse_append]
    exact congrArg List.reverse (List.take_append_drop _ log).symm
  have hnodup : (Dict.keys last.reverse).Nodup := by
    rw [Dict.keys, List.map_reverse, List.nodup_reverse, ← h.order]
    exact h.nodup
  have hmem : (name, l) ∈ last.reverse :=
    List.mem_reverse.mpr (h.entries.mem_iff.mp (Dict.mem_of_get? hl))
  have hlast : last.reverse.lookup name = some l := (Dict.get?_eq_some_iff hnodup).mpr hmem
  rw [hlog, List.lookup_append, hlast, Option.some_or]

lemma HoldsLast.length_le (h : c.HoldsLast capacity log) : c.order.length ≤ capacity := by
  rw [h.order, List.length_map, List.rtake, List.length_drop]
  omega

/-- Dropping the oldest leaves the last arrivals. -/
lemma HoldsLast.shrink (h : c.HoldsLast (n + 1) log) : (c.shrink n).HoldsLast n log := by
  have hlast : (log.rtake (n + 1)).rtake n = log.rtake n := by
    simp only [List.rtake_eq_reverse_take_reverse, List.reverse_reverse, List.take_take]
    rw [Nat.min_eq_left (Nat.le_succ n)]
  obtain ⟨horder, hentries, hnodup⟩ := h
  generalize log.rtake (n + 1) = arrivals at horder hentries hlast
  have hlength : c.order.length = arrivals.length := by rw [horder, List.length_map]
  -- What goes stands in front of what stays.
  have harrivals := List.take_append_drop (arrivals.length - n) arrivals
  have hstays : arrivals.drop (arrivals.length - n) = log.rtake n := hlast
  refine ⟨?_, ?_, hnodup.sublist (List.drop_sublist _ _)⟩
  · rw [shrink_order, List.rtake, hlength, horder, ← List.map_drop, hstays]
  · rw [horder, ← harrivals] at hnodup
    rw [shrink_entries, hlength, horder, ← List.map_take, ← hstays]
    conv_rhs => rw [← filter_names hnodup, harrivals]
    exact hentries.filter _

/-- A template that is kept under a new name is the last arrival. -/
lemma HoldsLast.insert (h : c.HoldsLast capacity log) (hnew : name ∉ c.order) (l : Loaded) :
    (c.insert capacity name l).HoldsLast capacity (log ++ [(name, l)]) := by
  unfold Cache.insert
  cases capacity with
  | zero =>
    have hrtake : (log ++ [(name, l)]).rtake 0 = log.rtake 0 := by simp only [List.rtake_zero]
    exact ⟨hrtake ▸ h.order, hrtake ▸ h.entries, h.nodup⟩
  | succ n =>
    have hshrink := h.shrink
    have hnew : name ∉ (c.shrink n).order := fun hmem => hnew (List.mem_of_mem_drop hmem)
    simp only [Nat.add_one_ne_zero, if_false, Nat.add_sub_cancel]
    generalize c.shrink n = c' at hshrink hnew ⊢
    have hkeys : name ∉ Dict.keys c'.entries := mt hshrink.perm_names.mem_iff.mp hnew
    rw [if_neg (mt Dict.mem_keys_iff.mpr hkeys)]
    refine ⟨?_, ?_, ?_⟩
    · rw [List.rtake_concat_succ, List.map_append, ← hshrink.order]
      rfl
    · rw [List.rtake_concat_succ]
      calc List.Perm (Dict.insert name l c'.entries) ((name, l) :: c'.entries) :=
            Dict.perm_insert hkeys l
        List.Perm _ ((name, l) :: log.rtake n) := hshrink.entries.cons _
        List.Perm _ (log.rtake n ++ [(name, l)]) := (List.perm_append_singleton _ _).symm
    · exact hshrink.nodup.append (List.nodup_singleton name) (List.disjoint_singleton.mpr hnew)

end Cache

namespace Engine

variable {e : Engine} {log : List (String × Loaded)} {name : String} {σ τ : Session}

/-- The templates that arrive when the loader is asked for names, of which the first is the load of
number `first`. -/
def arrivals (e : Engine) (first : Nat) (names : List String) : List (String × Loaded) :=
  (names.zipIdx first).filterMap fun p =>
    match e.supply p.1 with
    | .ok t => some (p.1, ⟨p.2, t⟩)
    | .error _ => none

/-- The templates that arrived between two sessions. -/
def arrivedBetween (e : Engine) (σ τ : Session) : List (String × Loaded) :=
  e.arrivals σ.loads.length (τ.loads.reverse.drop σ.loads.length)

lemma arrivals_append (first : Nat) (names more : List String) :
    e.arrivals first (names ++ more) =
      e.arrivals first names ++ e.arrivals (first + names.length) more := by
  rw [arrivals, List.zipIdx_append, List.filterMap_append]
  rfl

lemma arrivals_ok {t : Template} (h : e.supply name = .ok t) (first : Nat) :
    e.arrivals first [name] = [(name, ⟨first, t⟩)] := by
  simp [arrivals, h]

lemma arrivals_error {err : FetchError} (h : e.supply name = .error err) (first : Nat) :
    e.arrivals first [name] = [] := by
  simp [arrivals, h]

lemma arrivedBetween_eq {latest : List String} (h : τ.loads = latest ++ σ.loads) :
    e.arrivedBetween σ τ = e.arrivals σ.loads.length latest.reverse := by
  rw [arrivedBetween, h, List.reverse_append, ← List.length_reverse, List.drop_left,
    List.length_reverse]

lemma arrivedBetween_of_loads_eq (h : τ.loads = σ.loads) : e.arrivedBetween σ τ = [] := by
  have hnone : τ.loads = [] ++ σ.loads := h
  rw [arrivedBetween_eq hnone]
  rfl

/-- One more load. -/
lemma arrivedBetween_ask (h : σ.loads <:+ τ.loads) (name : String) :
    e.arrivedBetween σ (τ.ask name) =
      e.arrivedBetween σ τ ++ e.arrivals τ.loads.length [name] := by
  obtain ⟨latest, hloads⟩ := h
  have hlength : τ.loads.length = σ.loads.length + latest.reverse.length := by
    rw [← hloads, List.length_append, List.length_reverse, Nat.add_comm]
  have hask : (τ.ask name).loads = (name :: latest) ++ σ.loads := congrArg (name :: ·) hloads.symm
  rw [arrivedBetween_eq hask, arrivedBetween_eq hloads.symm, List.reverse_cons, arrivals_append,
    hlength]

end Engine

/-! ### What a session records -/

/-- The log has all that arrived since the cache was emptied: the cache holds the last of it, and
what arrived later has a higher number. -/
structure Session.Records (σ : Session) (capacity : Nat) (log : List (String × Loaded)) : Prop where
  cache : σ.cache.HoldsLast capacity log
  ascending : log.Pairwise fun x y => x.2.edition < y.2.edition
  earlier : ∀ x ∈ log, x.2.edition < σ.loads.length

/-- A template that arrives is the next one in the log. -/
lemma Session.Records.keep {σ : Session} {capacity : Nat} {log : List (String × Loaded)}
    (h : σ.Records capacity log) {name : String} (hmissing : σ.cache.get? name = none)
    (t : Template) :
    ((σ.ask name).keep capacity name ⟨σ.loads.length, t⟩).Records capacity
      (log ++ [(name, ⟨σ.loads.length, t⟩)]) where
  cache := h.cache.insert (h.cache.get?_eq_none_iff.mp hmissing) _
  ascending := by
    rw [List.pairwise_append]
    refine ⟨h.ascending, List.pairwise_singleton _ _, fun x hx y hy => ?_⟩
    rw [List.mem_singleton.mp hy]
    exact h.earlier x hx
  earlier := by
    rw [List.forall_mem_append, List.forall_mem_singleton]
    exact ⟨fun x hx => Nat.lt_succ_of_lt (h.earlier x hx), Nat.lt_succ_self _⟩

/-- An emptied cache records nothing. -/
lemma Session.records_nil (capacity : Nat) (loads : List String) :
    Session.Records ⟨{}, loads⟩ capacity [] where
  cache := by
    refine ⟨?_, ?_, .nil⟩
    · rw [List.rtake_nil]
      rfl
    · rw [List.rtake_nil]
  ascending := .nil
  earlier := List.forall_mem_nil _

namespace Engine

variable {e : Engine} {log : List (String × Loaded)} {name : String} {σ τ : Session}

/-- The engine went from one session to the other: what arrived on the way is behind the log. -/
structure Reaches (e : Engine) (log : List (String × Loaded)) (σ τ : Session) : Prop where
  loads : σ.loads <:+ τ.loads
  records : τ.Records e.config.cacheSize (log ++ e.arrivedBetween σ τ)

lemma reaches_self (h : σ.Records e.config.cacheSize log) : e.Reaches log σ σ where
  loads := List.suffix_refl _
  records := by rwa [arrivedBetween_of_loads_eq rfl, List.append_nil]

/-- One fetch, wherever it happens, goes on with the log. -/
theorem Reaches.fetch (h : e.Reaches log σ τ) (name : String) :
    e.Reaches log σ (e.fetch name τ).2 := by
  have hask : σ.loads <:+ (τ.ask name).loads := h.loads.trans (List.suffix_cons _ _)
  have hgoes := e.fetching name τ
  generalize e.fetch name τ = r at hgoes ⊢
  cases hgoes with
  | kept | noLoader => exact h
  | failed hmissing hloader hsupply =>
    refine ⟨hask, ?_⟩
    rw [arrivedBetween_ask h.loads, arrivals_error hsupply, List.append_nil]
    exact { h.records with earlier := fun x hx => Nat.lt_succ_of_lt (h.records.earlier x hx) }
  | arrived hmissing hloader hsupply =>
    refine ⟨hask, ?_⟩
    have hbetween : ∀ l, e.arrivedBetween σ ((τ.ask name).keep e.config.cacheSize name l) =
        e.arrivedBetween σ (τ.ask name) := fun _ => rfl
    rw [hbetween, arrivedBetween_ask h.loads, arrivals_ok hsupply, ← List.append_assoc]
    exact h.records.keep hmissing _

/-- A render goes on with the log too: it fetches in the middle. -/
lemma alike_reaches (e : Engine) (log : List (String × Loaded)) (σ : Session) :
    Alike (fun τ τ' => τ = τ' ∧ e.Reaches log σ τ) e e where
  registry := rfl
  dialect := rfl
  autoescape := rfl
  maxDepth := rfl
  fetch name := by
    rintro τ _ ⟨rfl, hτ⟩
    have hnext := hτ.fetch name
    generalize e.fetch name τ = r at hnext ⊢
    obtain ⟨err | l, υ⟩ := r
    · exact .error ⟨rfl, hnext⟩
    · exact .ok rfl (fun _ _ => trivial) ⟨rfl, hnext⟩

lemma Reaches.of_agrees {α : Type} {act : StateM Session α}
    (h : Agrees (fun τ τ' => τ = τ' ∧ e.Reaches log σ τ) act act)
    (hσ : σ.Records e.config.cacheSize log) : e.Reaches log σ (act σ).2 :=
  (h ⟨rfl, reaches_self hσ⟩).2.2

end Engine

/-! ### Whole runs -/

/-- What can happen to an engine. -/
inductive Event where
  | request (request : Request)
  /-- The loader has other texts from now on; templates that are kept stay. -/
  | changeTexts (loader : Loader)

/-- Whether the templates that are kept are forgotten. -/
def Event.empties : Event → Bool
  | .request (.setLoader _) | .request .clearCache => true
  | _ => false

namespace Host

/-- The host after an event. -/
def meet (host : Host) : Event → Host
  | .request request => (host.serve request).2
  | .changeTexts loader =>
    { host with engine := { host.engine with loader := host.engine.loader.map fun _ => loader } }

/-- The host after some events, one after the other. -/
def meetAll (host : Host) (events : List Event) : Host := events.foldl meet host

/-- The arrivals since the cache was emptied, oldest first: those of the log and those of an
event. -/
def logAfter (host : Host) (log : List (String × Loaded)) (event : Event) :
    List (String × Loaded) :=
  if event.empties then []
  else log ++ host.engine.arrivedBetween host.session (host.meet event).session

/-- The arrivals since the cache was emptied, after some events. -/
def history (host : Host) (log : List (String × Loaded)) : List Event → List (String × Loaded)
  | [] => log
  | event :: more => (host.meet event).history (host.logAfter log event) more

/-- The log of a host is that of its session. -/
abbrev Records (host : Host) (log : List (String × Loaded)) : Prop :=
  host.session.Records host.engine.config.cacheSize log

variable {host : Host} {log : List (String × Loaded)}

lemma config_serve (request : Request) :
    (host.serve request).2.engine.config = host.engine.config := by
  cases request with
  | addFilter name run | addTest name test | setLoader loader | clearCache => rfl
  | compile choice name source =>
    simp only [serve]
    cases host.engine.compile choice name source with
    | ok t | error err => rfl
  | fetch name =>
    simp only [serve]
    rcases host.engine.fetch name host.session with ⟨err | l, σ⟩
    · rfl
    · rfl
  | render place vars =>
    simp only [serve]
    cases host.templates[place]? with
    | some t | none => rfl
  | renderNamed name vars | renderText source vars => rfl

lemma config_meet (event : Event) : (host.meet event).engine.config = host.engine.config := by
  cases event with
  | request request => exact config_serve request
  | changeTexts loader => rfl

lemma config_meetAll (events : List Event) :
    (host.meetAll events).engine.config = host.engine.config := by
  induction events generalizing host with
  | nil => rfl
  | cons event more ih => exact ih.trans (config_meet event)

/-- A request that does not empty the cache goes on with the log. -/
lemma Records.serve (h : host.Records log) (request : Request)
    (hstays : ¬ (Event.request request).empties) :
    host.engine.Reaches log host.session (host.serve request).2.session := by
  have halike := host.engine.alike_reaches log host.session
  have hself := Engine.reaches_self h
  cases request with
  | addFilter name run | addTest name test => exact hself
  | setLoader loader | clearCache => exact absurd rfl hstays
  | compile choice name source =>
    simp only [Host.serve]
    cases host.engine.compile choice name source with
    | ok t | error err => exact hself
  | fetch name =>
    have hnext := hself.fetch name
    simp only [Host.serve]
    generalize host.engine.fetch name host.session = r at hnext ⊢
    obtain ⟨err | l, σ⟩ := r
    · exact hnext
    · exact hnext
  | render place vars =>
    simp only [Host.serve]
    cases host.templates[place]? with
    | some t => exact Engine.Reaches.of_agrees (halike.render t vars) h
    | none => exact hself
  | renderNamed name vars => exact Engine.Reaches.of_agrees (halike.renderNamed name vars) h
  | renderText source vars => exact Engine.Reaches.of_agrees (halike.renderText source vars) h

/-- One event keeps the log true. -/
theorem Records.meet (h : host.Records log) (event : Event) :
    (host.meet event).Records (host.logAfter log event) := by
  unfold Host.Records logAfter
  rw [config_meet]
  by_cases hempties : event.empties
  · rw [if_pos hempties]
    match event, hempties with
    | .request (.setLoader loader), _ => exact Session.records_nil _ _
    | .request .clearCache, _ => exact Session.records_nil _ _
  · rw [if_neg hempties]
    cases event with
    | request request => exact (h.serve request hempties).records
    | changeTexts loader => exact (Engine.reaches_self h).records

theorem Records.meetAll (h : host.Records log) (events : List Event) :
    (host.meetAll events).Records (host.history log events) := by
  induction events generalizing host log with
  | nil => exact h
  | cons event more ih => exact ih (h.meet event)

end Host

namespace Engine

variable {log : List (String × Loaded)} {capacity : Nat} {σ : Session}

/-- The loader is asked exactly if there is one and nothing is kept under the name. -/
lemma loads_fetch (h : σ.Records capacity log) (e : Engine) (name : String) :
    (e.fetch name σ).2.loads =
      if e.loader.isSome ∧ name ∉ σ.cache.order then name :: σ.loads else σ.loads := by
  have hgoes := e.fetching name σ
  generalize e.fetch name σ = r at hgoes ⊢
  cases hgoes with
  | kept hkept =>
    have hmem : ¬ name ∉ σ.cache.order := by
      rw [← h.cache.get?_eq_none_iff, hkept]
      exact Option.some_ne_none _
    rw [if_neg fun hboth => hmem hboth.2]
  | noLoader hmissing hloader =>
    rw [if_neg (by simp [hloader])]
  | failed hmissing hloader | arrived hmissing hloader =>
    rw [if_pos ⟨hloader, h.cache.get?_eq_none_iff.mp hmissing⟩]
    rfl

/-- What is kept under a name is given back, and it is the last arrival of that name. -/
lemma fetch_of_mem_order (h : σ.Records capacity log) (e : Engine) {name : String}
    (hmem : name ∈ σ.cache.order) :
    ∃ l, log.reverse.lookup name = some l ∧ e.fetch name σ = (.ok l, σ) := by
  have hkept : σ.cache.get? name ≠ none := mt h.cache.get?_eq_none_iff.mp (not_not.mpr hmem)
  obtain ⟨l, hl⟩ := Option.ne_none_iff_exists'.mp hkept
  refine ⟨l, h.cache.lookup_reverse hl, ?_⟩
  simp only [fetch, hl]

/-- A failure leaves the cache as it was. -/
lemma cache_fetch_of_error {e : Engine} {name : String} {err : FetchError}
    (h : (e.fetch name σ).1 = .error err) : (e.fetch name σ).2.cache = σ.cache := by
  have hgoes := e.fetching name σ
  generalize e.fetch name σ = r at hgoes h ⊢
  cases hgoes with
  | kept | noLoader | failed => rfl
  | arrived => cases h

end Engine

namespace Host

/-- What the cache holds when the templates of `log` arrived, and how names are fetched then. -/
structure Caches (host : Host) (log : List (String × Loaded)) : Prop where
  /-- The last arrivals are kept, oldest first. -/
  order : host.session.cache.order =
    (log.rtake host.engine.config.cacheSize).map Prod.fst
  length_le : host.session.cache.order.length ≤ host.engine.config.cacheSize
  nodup : host.session.cache.order.Nodup
  names : (Dict.keys host.session.cache.entries).Perm host.session.cache.order
  /-- No two arrivals are the same load. -/
  editions : log.Pairwise fun x y => x.2.edition < y.2.edition
  /-- The loader is asked if there is one and the name is not kept, and only then. -/
  loads : ∀ name, (host.engine.fetch name host.session).2.loads =
    if host.engine.loader.isSome ∧ name ∉ host.session.cache.order then
      name :: host.session.loads
    else host.session.loads
  /-- A name that is kept gives its last arrival, and nothing changes. -/
  hit : ∀ name ∈ host.session.cache.order, ∃ l, log.reverse.lookup name = some l ∧
    host.engine.fetch name host.session = (.ok l, host.session)
  failure : ∀ name err, (host.engine.fetch name host.session).1 = .error err →
    (host.engine.fetch name host.session).2.cache = host.session.cache

/-- After every run the cache of an engine holds what arrived last since it was emptied. -/
theorem caches_history (e : Engine) (templates : List Template) (events : List Event) :
    let start := Host.mk e {} templates
    let host := start.meetAll events
    host.engine.config = e.config ∧ host.Caches (start.history [] events) := by
  intro start host
  have hrecords : host.Records (start.history [] events) :=
    Records.meetAll (Session.records_nil _ _) events
  exact ⟨config_meetAll events, {
    order := hrecords.cache.order
    length_le := hrecords.cache.length_le
    nodup := hrecords.cache.nodup
    names := hrecords.cache.perm_names
    editions := hrecords.ascending
    loads := fun name => Engine.loads_fetch hrecords _ name
    hit := fun name hname => Engine.fetch_of_mem_order hrecords _ hname
    failure := fun name err => Engine.cache_fetch_of_error }⟩

/-- An engine that keeps two templates, of which one includes two others. -/
def smallCache : Engine where
  config := { cacheSize := 2 }
  registry := Registry.builtin
  loader := some (.ofDict [("a", "A"), ("b", "B"), ("page", "@include \"a\"\n@include \"b\"")])

/-- Both templates are fetched; then a page pushes them out and loads them again. -/
def visits : List Event :=
  [.request (.fetch "a"), .request (.fetch "b"), .request (.fetch "a"), .request (.fetch "x"),
   .request (.renderNamed "page" [])]

theorem caches_history_visits :
    let host := (Host.mk smallCache {} []).meetAll visits
    host.session.loads = ["b", "a", "page", "x", "b", "a"] ∧
      host.session.cache.order = ["a", "b"] ∧
      ∃ l, l.edition = 4 ∧ host.engine.fetch "a" host.session = (.ok l, host.session) := by
  intro host
  obtain ⟨-, hcaches⟩ := caches_history smallCache [] visits
  have horder : host.session.cache.order = ["a", "b"] := by decide +kernel
  obtain ⟨l, hlast, hfetch⟩ := hcaches.hit "a" (by rw [horder]; exact List.mem_cons_self)
  refine ⟨by decide +kernel, horder, l, ?_, hfetch⟩
  have hedition : (((Host.mk smallCache {} []).history [] visits).reverse.lookup "a").map
      Loaded.edition = some 4 := by decide +kernel
  rw [hlast] at hedition
  exact Option.some.inj hedition

end Host
end Stencil
