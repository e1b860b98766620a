import GrantConfig.Proofs.FieldValues

/-!
# Parameters in one text

Parameters that stand in one text bind as the list of its non-blank pieces between the commas does.
Every piece has to write a parameter; a later one wins over an earlier one of its name, and the first
piece that writes none is quoted as it stands. So a map of parameters can be given in one text, in
any order, wherever no name and no value holds what the text uses as a separator or trims away.
-/

namespace GrantConfig

/-! ## Trimmed texts -/

namespace Text

/-- No white space stands at either end of a text. -/
structure IsTrimmed (s : String) : Prop where
  head : s.toList.head?.any isSpace = false
  last : s.toList.getLast?.any isSpace = false

/-- A text that begins with no white space keeps its start. -/
theorem trimStart_eq_self {cs : List Char} (h : cs.head?.any isSpace = false) :
    trimStart cs = cs := by
  cases cs with
  | nil => rfl
  | cons c rest =>
    rw [List.head?_cons, Option.any_some] at h
    rw [trimStart, if_neg (Bool.eq_false_iff.mp h)]

/-- A text that ends with no white space keeps its end. -/
theorem trimEnd_eq_self {cs : List Char} (h : cs.getLast?.any isSpace = false) :
    trimEnd cs = cs := by
  induction cs with
  | nil => rfl
  | cons c rest ih =>
    cases rest with
    | nil =>
      rw [List.getLast?_singleton, Option.any_some] at h
      simp [trimEnd, h]
    | cons d rest =>
      rw [List.getLast?_cons_cons] at h
      rw [trimEnd, ih h]

/-- A trimmed text is not changed by trimming it. -/
theorem IsTrimmed.trim_eq {s : String} (h : IsTrimmed s) : trim s = s := by
  rw [trim, trimStart_eq_self h.head, trimEnd_eq_self h.last, String.ofList_toList]

/-- A trimmed text is blank only when it is empty. -/
theorem IsTrimmed.isBlank_eq_false {s : String} (h : IsTrimmed s) (hne : s ≠ "") :
    isBlank s = false := by
  rw [← isEmpty_trim, h.trim_eq]
  simpa using hne

end Text

/-! ## Lists of texts -/

/-- The value of a key is that of the last element that is read as an entry with the key. -/
theorem SortedMap.find?_ofList_filterMap {α β : Type} {read : α → Option (String × β)}
    {xs : List α} {key : String} {value : β} :
    (ofList (xs.filterMap read)).find? key = some value ↔
      ∃ before x after, xs = before ++ x :: after ∧ read x = some (key, value) ∧
        ∀ later ∈ after, ∀ other, read later ≠ some (key, other) := by
  rw [find?_ofList_eq_some_iff]
  constructor
  · intro h
    obtain ⟨front, back, hsplit, hback⟩ := h
    obtain ⟨before, behind, rfl, _, hbehind⟩ := List.filterMap_eq_append_iff.mp hsplit
    obtain ⟨between, x, after, rfl, _, hx, hafter⟩ := List.filterMap_eq_cons_iff.mp hbehind
    refine ⟨before ++ between, x, after, (List.append_assoc ..).symm, hx, ?_⟩
    intro later hlater other hread
    refine hback (key, other) ?_ rfl
    rw [← hafter]
    exact List.mem_filterMap.mpr ⟨later, hlater, hread⟩
  · intro h
    obtain ⟨before, x, after, rfl, hx, hafter⟩ := h
    refine ⟨before.filterMap read, after.filterMap read, ?_, ?_⟩
    · rw [List.filterMap_append, List.filterMap_cons_some hx]
    · intro entry hentry hkey
      obtain ⟨later, hlater, hread⟩ := List.mem_filterMap.mp hentry
      subst hkey
      exact hafter later hlater entry.2 hread

namespace Params

/-- The first of some texts that writes no parameter. -/
def firstBad? (texts : List String) : Option String :=
  texts.find? fun text => (pair? text).isNone

/-- A text cannot be read exactly when it writes no parameter. -/
theorem isNone_pair?_iff {text : String} :
    (pair? text).isNone = true ↔ ¬∃ param, Writes text param := by
  simp only [← pair?_eq_some_iff, Option.isNone_iff_eq_none, Option.eq_none_iff_forall_ne_some,
    not_exists, ne_eq]

/-- No text is bad exactly when each of them writes a parameter. -/
theorem firstBad?_eq_none_iff {texts : List String} :
    firstBad? texts = none ↔ ∀ text ∈ texts, ∃ param, Writes text param := by
  simp only [firstBad?, List.find?_eq_none, isNone_pair?_iff, not_not]

/-- The first bad text is the one that writes no parameter behind others that do. -/
theorem firstBad?_eq_some_iff {texts : List String} {bad : String} :
    firstBad? texts = some bad ↔
      ∃ before after, texts = before ++ bad :: after ∧
        (∀ earlier ∈ before, ∃ param, Writes earlier param) ∧ ¬∃ param, Writes bad param := by
  simp only [firstBad?, List.find?_eq_some_iff_append, isNone_pair?_iff, Bool.not_eq_true',
    ← Bool.not_eq_true, not_not]
  constructor
  · intro h
    obtain ⟨hbad, before, after, hsplit, hbefore⟩ := h
    exact ⟨before, after, hsplit, hbefore, hbad⟩
  · intro h
    obtain ⟨before, after, hsplit, hbefore, hbad⟩ := h
    exact ⟨hbad, before, after, hsplit, hbefore⟩

/-- Texts are read one after the other, and the first that writes no parameter stops the reading. -/
theorem mapM_bind_pair (texts : List String) :
    (texts.map Shape.Param.pair).mapM Shape.Param.bind =
      match firstBad? texts with
      | some bad => .error (.pair bad)
      | none => .ok (texts.filterMap pair?) := by
  induction texts with
  | nil => rfl
  | cons text rest ih =>
    rw [List.map_cons, List.mapM_cons, ih, Shape.Param.bind, firstBad?, firstBad?]
    cases hpair : pair? text with
    | none =>
      rw [List.find?_cons_of_pos (by simp [hpair])]
      rfl
    | some param =>
      rw [List.find?_cons_of_neg (by simp [hpair]), List.filterMap_cons_some hpair]
      cases rest.find? fun text => (pair? text).isNone <;> rfl

/-- Written parameters bind exactly when no text is bad. -/
theorem bindParams_pair_eq_ok_iff {texts : List String} {m : SortedMap String} :
    Shape.bindParams (texts.map .pair) = .ok m ↔
      firstBad? texts = none ∧ SortedMap.ofList (texts.filterMap pair?) = m := by
  rw [Shape.bindParams, mapM_bind_pair]
  cases firstBad? texts with
  | none => simp [Except.map]
  | some bad => simp [Except.map]

/-- Otherwise the error quotes the first bad text. -/
theorem bindParams_pair_eq_error_iff {texts : List String} {fault : Shape.Fault} :
    Shape.bindParams (texts.map .pair) = .error fault ↔
      ∃ bad, firstBad? texts = some bad ∧ .pair bad = fault := by
  rw [Shape.bindParams, mapM_bind_pair]
  cases firstBad? texts with
  | none => simp [Except.map]
  | some bad => simp [Except.map]

/-! ## Parameters that one text can hold -/

/-- A parameter that can stand with others in one text: its name is not empty, and neither its name
nor its value holds a separator or has white space at an end. -/
structure Joinable (name value : String) : Prop where
  name_ne : name ≠ ""
  name_trimmed : Text.IsTrimmed name
  name_comma : ',' ∉ name.toList
  name_equals : '=' ∉ name.toList
  value_trimmed : Text.IsTrimmed value
  value_comma : ',' ∉ value.toList

/-- The text that writes a parameter. -/
def written (param : String × String) : String := param.1 ++ "=" ++ param.2

section Joinable

variable {param : String × String} (h : Joinable param.1 param.2)

include h

/-- A parameter that can be joined is written without commas. -/
theorem Joinable.comma_not_mem : ',' ∉ (written param).toList := by
  simp [written, h.name_comma, h.value_comma]

/-- A parameter that can be joined is read back. -/
theorem Joinable.pair?_written : pair? (written param) = some param := by
  have hwrites : Writes (written param) (Text.trim param.1, Text.trim param.2) :=
    .pair _ _ h.name_equals (h.name_trimmed.isBlank_eq_false h.name_ne)
  rw [h.name_trimmed.trim_eq, h.value_trimmed.trim_eq] at hwrites
  exact pair?_eq_some_iff.mpr hwrites

/-- It is not written as white space. -/
theorem Joinable.isBlank_written : Text.isBlank (written param) = false := by
  have hname := h.name_trimmed.isBlank_eq_false h.name_ne
  rw [Text.isBlank] at hname
  rw [Text.isBlank, written, String.toList_append, String.toList_append, List.all_append,
    List.all_append, hname]
  rfl

end Joinable

/-- Parameters that one text can hold are read from it in their order. -/
theorem pieces_join_written {params : List (String × String)}
    (h : ∀ param ∈ params, Joinable param.1 param.2) :
    pieces (",".intercalate (params.map written)) = params.map written := by
  have hplain : ∀ text ∈ params.map written, ',' ∉ text.toList := by
    simp only [List.forall_mem_map]
    exact fun param hparam => (h param hparam).comma_not_mem
  have hjoined := pieces_join hplain
  rw [Text.join] at hjoined
  rw [hjoined, List.filter_eq_self]
  simp only [List.forall_mem_map, Bool.not_eq_true']
  exact fun param hparam => (h param hparam).isBlank_written

/-- Parameters that can be joined are all read back. -/
theorem filterMap_written {params : List (String × String)}
    (h : ∀ param ∈ params, Joinable param.1 param.2) :
    (params.map written).filterMap pair? = params := by
  induction params with
  | nil => rfl
  | cons param rest ih =>
    obtain ⟨hparam, hrest⟩ := List.forall_mem_cons.mp h
    rw [List.map_cons, List.filterMap_cons_some hparam.pair?_written, ih hrest]

/-- Parameters that one text can hold bind to the map that is filled with them. -/
theorem bindParams_written {params : List (String × String)}
    (h : ∀ param ∈ params, Joinable param.1 param.2) :
    Shape.bindParams ((params.map written).map .pair) = .ok (SortedMap.ofList params) := by
  rw [bindParams_pair_eq_ok_iff, firstBad?_eq_none_iff, filterMap_written h]
  refine ⟨?_, rfl⟩
  simp only [List.forall_mem_map]
  exact fun param hparam => ⟨param, pair?_eq_some_iff.mp (h param hparam).pair?_written⟩

end Params

namespace Provider

open Params

/-- What binding parameters from the pieces of one text comes to. -/
structure JoinedBinding (pieces : List String)
    (outcome : Except BindFault (SortedMap String)) : Prop where
  /-- The list of the pieces binds to the same map, or fails with the same fault. -/
  list : Field.extraParams.bindAlone (.array (pieces.map .string)) = outcome
  /-- The text binds when every piece writes a parameter. -/
  accepted : (∃ m, outcome = .ok m) ↔ ∀ piece ∈ pieces, ∃ param, Writes piece param
  /-- The map has the names that the pieces write, each with the value of its last piece. -/
  found : ∀ m, outcome = .ok m → ∀ name value, m.find? name = some value ↔
    ∃ before piece after, pieces = before ++ piece :: after ∧ Writes piece (name, value) ∧
      ∀ later ∈ after, ∀ other, ¬Writes later (name, other)
  /-- A fault quotes the first piece that writes no parameter, blanks included. -/
  failed : ∀ fault, outcome = .error fault ↔
    ∃ before piece after, pieces = before ++ piece :: after ∧
      (∀ earlier ∈ before, ∃ param, Writes earlier param) ∧ (¬∃ param, Writes piece param) ∧
      fault = .shape (.pair piece) ∧ fault.message = "expected name=value, got '" ++ piece ++ "'"

/-- One text is bound by its pieces. -/
theorem bindAlone_string (s : String) :
    Field.extraParams.bindAlone (.string s) =
      (Shape.bindParams ((pieces s).map .pair)).mapError .shape :=
  Field.bindAlone_eq _ _

/-- A list of texts is bound text by text. -/
theorem bindAlone_strings (texts : List String) :
    Field.extraParams.bindAlone (.array (texts.map .string)) =
      (Shape.bindParams (texts.map .pair)).mapError .shape := by
  have hread : (Json.shapeItems (texts.map .string)).mapM Shape.param? =
      some (texts.map .pair) := by
    rw [shapeItems_eq, List.map_map, mapM_eq_some_iff, List.forall₂_map_left_iff,
      List.forall₂_map_right_iff, List.forall₂_same]
    exact fun _ _ => rfl
  rw [Field.bindAlone_eq, Field.bind, Json.shape, Shape.params, hread]
  rfl

/-- Pieces come to what they write one by one. -/
theorem joinedBinding (pieces : List String) :
    JoinedBinding pieces ((Shape.bindParams (pieces.map .pair)).mapError .shape) := by
  refine { list := bindAlone_strings pieces, accepted := ?_, found := ?_, failed := ?_ }
  · simp only [mapError_eq_ok, bindParams_pair_eq_ok_iff, firstBad?_eq_none_iff,
      exists_and_left, exists_eq', and_true]
  · intro m hm name value
    obtain ⟨_, rfl⟩ := bindParams_pair_eq_ok_iff.mp (mapError_eq_ok.mp hm)
    simp only [SortedMap.find?_ofList_filterMap, ← pair?_eq_some_iff, ne_eq]
  · intro fault
    simp only [mapError_eq_error, bindParams_pair_eq_error_iff, firstBad?_eq_some_iff]
    constructor
    · intro h
      obtain ⟨_, ⟨bad, ⟨before, after, hsplit, hbefore, hbad⟩, rfl⟩, rfl⟩ := h
      exact ⟨before, bad, after, hsplit, hbefore, hbad, rfl, rfl⟩
    · intro h
      obtain ⟨before, bad, after, hsplit, hbefore, hbad, rfl, _⟩ := h
      exact ⟨.pair bad, ⟨bad, ⟨before, after, hsplit, hbefore, hbad⟩, rfl⟩, rfl⟩

/-- Parameters in one text bind as the list of its non-blank pieces does, by the grammar of the
pieces. So every map whose names and values can stand in one text is bound from its parameters in any
order. -/
theorem joined_params_follow_grammar :
    (∀ s : String, JoinedBinding
      (((s.toList.splitOn ',').map String.ofList).filter fun piece => !Text.isBlank piece)
      (Field.extraParams.bindAlone (.string s))) ∧
      ∀ m : SortedMap String, (∀ name value, m.find? name = some value → Joinable name value) →
        ∀ params : List (String × String), params.Perm m.entries →
          Field.extraParams.bindAlone (.string (",".intercalate (params.map written))) = .ok m := by
  constructor
  · intro s
    rw [bindAlone_string, ← Text.pieces_eq_splitOn]
    exact joinedBinding (pieces s)
  · intro m hjoinable params hperm
    have hparams : ∀ param ∈ params, Joinable param.1 param.2 := by
      intro param hparam
      exact hjoinable _ _ (SortedMap.find?_eq_some_iff.mpr (hperm.mem_iff.mp hparam))
    rw [bindAlone_string, pieces_join_written hparams, bindParams_written hparams,
      SortedMap.ofList_of_perm hperm]
    rfl

/-- Parameters with an equals sign in a value and with an empty value. -/
def modeAndPrompt : List (String × String) := [("prompt", ""), ("Mode", "a=b")]

/-- The parameters of the example can be joined. -/
theorem joinable_modeAndPrompt {param : String × String} (h : param ∈ modeAndPrompt) :
    Joinable param.1 param.2 := by
  simp only [modeAndPrompt, List.mem_cons, List.not_mem_nil, or_false] at h
  rcases h with rfl | rfl
  all_goals
    exact {
      name_ne := by decide
      name_trimmed := ⟨by decide, by decide⟩
      name_comma := by decide
      name_equals := by decide
      value_trimmed := ⟨by decide, by decide⟩
      value_comma := by decide }

/-- Parameters are read from one text in an order that is not that of their names, the last of two
pieces of a name wins, and a piece without an equals sign is quoted with the blank in front. -/
theorem joined_params_follow_grammar_modes :
    (∀ name value, (SortedMap.ofList modeAndPrompt).find? name = some value →
        Joinable name value) ∧
      modeAndPrompt.Perm (SortedMap.ofList modeAndPrompt).entries ∧
      Field.extraParams.bindAlone (.string "prompt=,Mode=a=b") =
        .ok (SortedMap.ofList modeAndPrompt) ∧
      (∃ m, Field.extraParams.bindAlone (.string "a=1,, a = 2 ") = .ok m ∧
        m.find? "a" = some "2") ∧
      Field.extraParams.bindAlone (.string "a=1, b,=c") = .error (.shape (.pair " b")) := by
  obtain ⟨hpieces, hmap⟩ := joined_params_follow_grammar
  have hentries : (SortedMap.ofList modeAndPrompt).entries = modeAndPrompt.reverse := by
    decide +kernel
  have hperm : modeAndPrompt.Perm (SortedMap.ofList modeAndPrompt).entries := by
    rw [hentries]
    exact (List.reverse_perm _).symm
  have hjoinable : ∀ name value, (SortedMap.ofList modeAndPrompt).find? name = some value →
      Joinable name value := by
    intro name value hvalue
    exact joinable_modeAndPrompt (hperm.mem_iff.mpr (SortedMap.find?_eq_some_iff.mp hvalue))
  have htext : ",".intercalate (modeAndPrompt.map written) = "prompt=,Mode=a=b" := by
    decide +kernel
  refine ⟨hjoinable, hperm, htext ▸ hmap _ hjoinable _ hperm, ?_, ?_⟩
  · have hfirst : Writes "a=1" ("a", "1") := pair?_eq_some_iff.mp (by decide +kernel)
    have hlast : Writes " a = 2 " ("a", "2") := pair?_eq_some_iff.mp (by decide +kernel)
    have hbinding : JoinedBinding ["a=1", " a = 2 "] _ := hpieces "a=1,, a = 2 "
    obtain ⟨m, hm⟩ := hbinding.accepted.mpr
      (List.forall_mem_cons.mpr ⟨⟨_, hfirst⟩, List.forall_mem_singleton.mpr ⟨_, hlast⟩⟩)
    exact ⟨m, hm, (hbinding.found m hm "a" "2").mpr ⟨["a=1"], " a = 2 ", [], rfl, hlast, by simp⟩⟩
  · have hfirst : Writes "a=1" ("a", "1") := pair?_eq_some_iff.mp (by decide +kernel)
    have hbad : ¬∃ param, Writes " b" param := isNone_pair?_iff.mp (by decide +kernel)
    have hbinding : JoinedBinding ["a=1", " b", "=c"] _ := hpieces "a=1, b,=c"
    refine (hbinding.failed _).mpr ⟨["a=1"], " b", ["=c"], rfl, ?_, hbad, rfl, rfl⟩
    intro earlier hearlier
    obtain rfl := List.mem_singleton.mp hearlier
    exact ⟨_, hfirst⟩

end Provider

end GrantConfig
