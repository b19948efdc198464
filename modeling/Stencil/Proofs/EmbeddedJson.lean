import Mathlib.Tactic.Common
import Stencil.Filter.Builtin
import Stencil.Proofs.Dict
import Stencil.Proofs.JsonText
import Stencil.Value.OfJson

/-! JSON text that may stand in HTML: it has no markup in it, it reads as the document that the
plain text reads as, and a value without floats comes back from it. -/
namespace Stencil

namespace Filter

/-- What is written for markup inside HTML is an escape that reads as it. -/
lemma unnoticed_embedChar : Json.Unnoticed embedChar where
  plain := by
    intro c hc
    simp only [Json.isMarkup, Bool.or_eq_false_iff, beq_eq_false_iff_ne] at hc
    obtain ⟨⟨⟨hless, hgreater⟩, hand⟩, hquote⟩ := hc
    unfold embedChar
    split
    · exact absurd rfl hless
    · exact absurd rfl hgreater
    · exact absurd rfl hand
    · exact absurd rfl hquote
    · rfl
  markup := by
    intro c hc done rest
    simp only [Json.isMarkup, Bool.or_eq_true, beq_iff_eq] at hc
    rcases hc with ((rfl | rfl) | rfl) | rfl
    all_goals
      unfold embedChar
      simp [Json.readString, Json.hex4?, Json.hexValue?]

/-- No markup is left. -/
lemma isMarkup_of_mem_embedChar {c d : Char} (h : d ∈ embedChar c) : Json.isMarkup d = false := by
  cases hc : Json.isMarkup c with
  | false =>
    rw [unnoticed_embedChar.plain hc, List.mem_singleton] at h
    rwa [h]
  | true =>
    have hall : (embedChar c).all (fun d => !Json.isMarkup d) = true := by
      simp only [Json.isMarkup, Bool.or_eq_true, beq_iff_eq] at hc
      rcases hc with ((rfl | rfl) | rfl) | rfl <;> rfl
    simpa using List.all_eq_true.mp hall d h

end Filter

namespace Value

mutual

/-- The numbers in the document of a value are numbers. -/
lemma readable_toJson : ∀ v : Value, v.toJson.Readable
  | .undefined => trivial
  | .null => trivial
  | .bool _ => trivial
  | .int i => Json.isNumber_toString i.toInt
  | .float x => by
    rw [toJson]
    split
    · exact Json.isNumber_write x
    · trivial
  | .str _ => trivial
  | .safe _ => trivial
  | .list items => readable_toJsonAll items
  | .map entries => readable_toJsonEntries entries

lemma readable_toJsonAll : ∀ items : List Value, Json.AllReadable (toJsonAll items)
  | [] => trivial
  | v :: more => ⟨readable_toJson v, readable_toJsonAll more⟩

lemma readable_toJsonEntries : ∀ entries : List (String × Value),
    Json.MembersReadable (toJsonEntries entries)
  | [] => trivial
  | (_, v) :: more => ⟨readable_toJson v, readable_toJsonEntries more⟩

end

mutual

/-- A value with null for nothing and plain text for safe text. -/
def plain : Value → Value
  | .undefined => .null
  | .safe s => .str s
  | .list items => .list (plainAll items)
  | .map entries => .map (plainEntries entries)
  | v => v

def plainAll : List Value → List Value
  | [] => []
  | v :: more => plain v :: plainAll more

def plainEntries : List (String × Value) → List (String × Value)
  | [] => []
  | (k, v) :: more => (k, plain v) :: plainEntries more

end

mutual

/-- `P` holds of a value and of all values inside it. -/
def Everywhere (P : Value → Prop) : Value → Prop
  | .list items => P (.list items) ∧ EverywhereAll P items
  | .map entries => P (.map entries) ∧ EverywhereEntries P entries
  | v => P v

def EverywhereAll (P : Value → Prop) : List Value → Prop
  | [] => True
  | v :: more => Everywhere P v ∧ EverywhereAll P more

def EverywhereEntries (P : Value → Prop) : List (String × Value) → Prop
  | [] => True
  | (_, v) :: more => Everywhere P v ∧ EverywhereEntries P more

end

/-- A map is a dictionary: its keys ascend. -/
def KeysAscend : Value → Prop
  | .map entries => Dict.Ascending entries
  | _ => True

/-- A value that is no float itself. -/
def NotFloat (v : Value) : Prop := v.kind ≠ .float

/-- Where the names ascend, a member is stored behind those before it. -/
lemma insert_of_ascending {done more : Dict Value} {k : String} {v : Value}
    (h : Dict.Ascending (done ++ (k, v) :: more)) (w : Value) :
    Dict.insert k w done = done ++ [(k, w)] := by
  induction done with
  | nil => rfl
  | cons p done ih =>
    obtain ⟨name, u⟩ := p
    obtain ⟨hlt, hrest⟩ := List.pairwise_cons.mp h
    have hname : name < k := hlt k (by simp)
    have hne : k ≠ name := by
      rintro rfl
      exact String.lt_irrefl k hname
    rw [Dict.insert, if_neg (String.lt_asymm hname), if_neg hne, ih hrest, List.cons_append]

mutual

/-- A value without floats comes back from its document. -/
lemma ofJson_toJson : ∀ v : Value, v.Everywhere NotFloat → v.Everywhere KeysAscend →
    ofJson v.toJson = v.plain
  | .undefined, _, _ => rfl
  | .null, _, _ => rfl
  | .bool _, _, _ => rfl
  | .int i, _, _ => ofNumber_toString i
  | .float _, hfloat, _ => absurd rfl hfloat
  | .str _, _, _ => rfl
  | .safe _, _, _ => rfl
  | .list items, hfloat, hkeys => by
    rw [toJson, ofJson, plain, ofJsonAll_toJsonAll items hfloat.2 hkeys.2]
  | .map entries, hfloat, hkeys => by
    rw [toJson, ofJson, plain,
      ofJsonMembers_toJsonEntries entries [] hfloat.2 hkeys.2 hkeys.1, List.nil_append]

lemma ofJsonAll_toJsonAll : ∀ items : List Value, EverywhereAll NotFloat items →
    EverywhereAll KeysAscend items → ofJsonAll (toJsonAll items) = plainAll items
  | [], _, _ => rfl
  | v :: more, hfloat, hkeys => by
    rw [toJsonAll, ofJsonAll, plainAll, ofJson_toJson v hfloat.1 hkeys.1,
      ofJsonAll_toJsonAll more hfloat.2 hkeys.2]

lemma ofJsonMembers_toJsonEntries : ∀ (entries : List (String × Value)) (done : Dict Value),
    EverywhereEntries NotFloat entries → EverywhereEntries KeysAscend entries →
    Dict.Ascending (done ++ entries) →
    ofJsonMembers done (toJsonEntries entries) = done ++ plainEntries entries
  | [], done, _, _, _ => (List.append_nil done).symm
  | (k, v) :: more, done, hfloat, hkeys, hdone => by
    have hmore : Dict.Ascending ((done ++ [(k, v.plain)]) ++ more) := by
      simpa [Dict.Ascending, Dict.keys] using hdone
    rw [toJsonEntries, ofJsonMembers, plainEntries, ofJson_toJson v hfloat.1 hkeys.1,
      insert_of_ascending hdone, ofJsonMembers_toJsonEntries more _ hfloat.2 hkeys.2 hmore,
      List.append_assoc, List.singleton_append]

end

end Value

namespace Filter

/-- In both layouts the text for HTML has no markup in it and reads as the document. -/
lemma read_toJsonText (v : Value) (args : List Value) : ∃ text, toJsonText v args = .safe text ∧
    (∀ c ∈ text.toList, Json.isMarkup c = false) ∧ Json.read? text = some v.toJson := by
  have hreadable := Value.readable_toJson v
  have hembedded : ∀ text : String, Json.Spells embedChar text.toList v.toJson.tokens →
      (∀ c ∈ (String.ofList (text.toList.flatMap embedChar)).toList, Json.isMarkup c = false) ∧
        Json.read? (String.ofList (text.toList.flatMap embedChar)) = some v.toJson := by
    intro text htext
    constructor
    · intro c hc
      rw [String.toList_ofList, List.mem_flatMap] at hc
      obtain ⟨d, -, hd⟩ := hc
      exact isMarkup_of_mem_embedChar hd
    · exact Json.read_of_spells htext
  refine ⟨_, rfl, hembedded _ ?_⟩
  split
  · rw [Json.pretty, String.toList_ofList]
    exact Json.spells_pretty unnoticed_embedChar _ 0 hreadable
  · rw [Json.compact, String.toList_ofList]
    exact Json.spells_compact unnoticed_embedChar _ hreadable

/-- JSON text for HTML has no markup in it and reads as the document of the value, which the plain
text of the value reads as too. Where no float stands in the value and its maps are dictionaries,
the document stands for the value itself, with null for nothing and plain text for safe text. -/
theorem tojson_keeps_document (v : Value) (hv : v ≠ .undefined) (args : List Value) :
    ∃ f text, Registry.builtin.filter? "tojson" = some f ∧ f.apply v args = .ok (.safe text) ∧
      (∀ c ∈ text.toList, c ≠ '<' ∧ c ≠ '>' ∧ c ≠ '&' ∧ c ≠ '\'') ∧
      Json.read? text = some v.toJson ∧ Json.read? v.toJson.compact = some v.toJson ∧
      (v.Everywhere Value.NotFloat → v.Everywhere Value.KeysAscend →
        Value.ofJson v.toJson = v.plain) := by
  have hundefined : v.isUndefined = false := by
    cases v <;> first | rfl | exact absurd rfl hv
  obtain ⟨text, hrun, hmarkup, hread⟩ := read_toJsonText v args
  have hplain : Json.read? v.toJson.compact = some v.toJson := by
    have hspells := Json.spells_compact Json.unnoticed_singleton v.toJson
      (Value.readable_toJson v)
    simpa [Json.compact] using Json.read_of_spells hspells
  refine ⟨⟨fun v args => .ok (toJsonText v args), false⟩, text, rfl, ?_, ?_, hread, hplain,
    Value.ofJson_toJson v⟩
  · simp [Filter.apply, hundefined, hrun]
  · intro c hc
    simpa [Json.isMarkup, and_assoc] using hmarkup c hc

/-- A map with markup in a name and in safe text, on many lines: it comes back with its name, and
with null for what is undefined. -/
theorem tojson_keeps_document_nested : ∃ f text j, Registry.builtin.filter? "tojson" = some f ∧
    f.apply (.map [("a<b", .list [.undefined, .safe "x'&", .int (-3)])]) [.bool true] =
      .ok (.safe text) ∧
    Json.read? text = some j ∧
    Value.ofJson j = .map [("a<b", .list [.null, .str "x'&", .int (-3)])] := by
  obtain ⟨f, text, hf, hrun, -, hread, -, hback⟩ := tojson_keeps_document
    (.map [("a<b", .list [.undefined, .safe "x'&", .int (-3)])]) nofun [.bool true]
  have hfloat : (Value.map [("a<b", .list [.undefined, .safe "x'&", .int (-3)])]).Everywhere
      Value.NotFloat := by
    simp [Value.Everywhere, Value.EverywhereEntries, Value.EverywhereAll, Value.NotFloat,
      Value.kind]
  have hkeys : (Value.map [("a<b", .list [.undefined, .safe "x'&", .int (-3)])]).Everywhere
      Value.KeysAscend := by
    simp [Value.Everywhere, Value.EverywhereEntries, Value.EverywhereAll, Value.KeysAscend,
      Dict.Ascending, Dict.keys]
  exact ⟨f, text, _, hf, hrun, hread, (hback hfloat hkeys).trans rfl⟩

end Filter

end Stencil
