import GrantConfig.Proofs.Fields
import GrantConfig.Proofs.FormEncoding
import Mathlib.Data.List.Forall2

/-!
# Values that fields take

What a JSON value may be for a field and what it configures, told by the shape of the value alone.
A text is a string or nothing, scopes are a list of strings or one string, and parameters are a list
of entries and of `name=value` texts or one string of such texts with commas between them. A field
binds a value exactly when it is one of these, and then to what it configures.
-/

namespace GrantConfig

/-! ## Lists of outcomes -/

/-- A step for each element of a list succeeds exactly when every single one does. -/
theorem mapM_eq_ok_iff {ε α β : Type} {f : α → Except ε β} {xs : List α} {ys : List β} :
    xs.mapM f = .ok ys ↔ List.Forall₂ (fun x y => f x = .ok y) xs ys := by
  induction xs generalizing ys with
  | nil => simp [pure, Except.pure, eq_comm]
  | cons x xs ih =>
    simp only [List.mapM_cons, List.forall₂_cons_left_iff, bind_eq_ok, pure, Except.pure,
      Except.ok.injEq, ih, exists_and_left, @eq_comm _ ys]

/-- Steps over a list succeed exactly when each of them does. -/
theorem mapM_eq_some_iff {α β : Type} {f : α → Option β} {xs : List α} {ys : List β} :
    xs.mapM f = some ys ↔ List.Forall₂ (fun x y => f x = some y) xs ys := by
  induction xs generalizing ys with
  | nil => simp [eq_comm]
  | cons x xs ih =>
    simp only [List.mapM_cons, List.forall₂_cons_left_iff, bind, Option.bind_eq_some_iff, pure,
      Option.some.injEq, ih, exists_and_left, @eq_comm _ ys]

/-- In lists that go in pairs, every element on the right has one on the left. -/
theorem exists_of_mem_right {α β : Type} {r : α → β → Prop} {xs : List α} {ys : List β}
    (h : List.Forall₂ r xs ys) {y : β} (hy : y ∈ ys) : ∃ x ∈ xs, r x y := by
  induction h with
  | nil => cases hy
  | @cons x z _ _ hxz _ ih =>
    rcases List.mem_cons.mp hy with rfl | hmem
    · exact ⟨x, List.mem_cons_self, hxz⟩
    · obtain ⟨w, hw, hwy⟩ := ih hmem
      exact ⟨w, List.mem_cons_of_mem _ hw, hwy⟩

/-- Two lists go in pairs by way of a third one exactly when their elements do one by one. -/
theorem forall₂_iff_exists {α β γ : Type} {p : α → γ → Prop} {r : α → β → Prop} {q : β → γ → Prop}
    (h : ∀ x z, p x z ↔ ∃ y, r x y ∧ q y z) {xs : List α} {zs : List γ} :
    List.Forall₂ p xs zs ↔ ∃ ys, List.Forall₂ r xs ys ∧ List.Forall₂ q ys zs := by
  constructor
  · intro hpairs
    induction hpairs with
    | nil => exact ⟨[], .nil, .nil⟩
    | cons hfirst _ ih =>
      obtain ⟨y, hr, hq⟩ := (h _ _).mp hfirst
      obtain ⟨ys, hrs, hqs⟩ := ih
      exact ⟨y :: ys, .cons hr hrs, .cons hq hqs⟩
  · intro hgiven
    obtain ⟨ys, hrs, hqs⟩ := hgiven
    induction hrs generalizing zs with
    | nil =>
      cases hqs
      exact .nil
    | cons hr _ ih =>
      cases hqs with
      | cons hq hrest => exact .cons ((h _ _).mpr ⟨_, hr, hq⟩) (ih hrest)

/-! ## Texts that write parameters -/

namespace Text

/-- No separator stands before the first one. -/
theorem not_mem_of_cutFirst {sep : Char} {cs before after : List Char}
    (h : cutFirst sep cs = some (before, after)) : sep ∉ before := by
  induction cs generalizing before with
  | nil => cases h
  | cons c rest ih =>
    rw [cutFirst] at h
    split at h
    · cases h
      exact List.not_mem_nil
    · next hc =>
      obtain ⟨parts, hparts, hcons⟩ := Option.map_eq_some_iff.mp h
      cases hcons
      intro hmem
      rcases List.mem_cons.mp hmem with heq | hmem
      · exact hc heq.symm
      · exact ih hparts hmem

/-- To cut a text at a character is to split it there. -/
theorem pieces_eq_splitOn (sep : Char) (cs : List Char) :
    pieces (· = sep) cs = cs.splitOn sep :=
  pieces_eq_splitOnP _ cs

/-- No piece holds a character at which the text is cut. -/
theorem not_cut_of_mem_pieces {cut : Char → Bool} {cs piece : List Char}
    (h : piece ∈ pieces cut cs) : ∀ c ∈ piece, cut c = false := by
  induction cs generalizing piece with
  | nil => simp_all [pieces]
  | cons c rest ih =>
    rw [pieces] at h
    split at h
    · rcases List.mem_cons.mp h with rfl | hlater
      · exact List.forall_mem_nil _
      · exact ih hlater
    · next hc =>
      obtain ⟨first, more, hpieces⟩ := List.exists_cons_of_ne_nil (pieces_ne_nil cut rest)
      rw [hpieces] at h ih
      rcases List.mem_cons.mp h with rfl | hlater
      · exact List.forall_mem_cons.mpr ⟨Bool.eq_false_iff.mpr hc, ih List.mem_cons_self⟩
      · exact ih (List.mem_cons_of_mem _ hlater)

end Text

namespace Params

/-- A text writes a parameter: a name that is not blank stands before its first equals sign, the
value stands behind, and neither keeps the blanks around it. -/
inductive Writes : String → String × String → Prop
  | pair (name value : String) : '=' ∉ name.toList → Text.isBlank name = false →
      Writes (name ++ "=" ++ value) (Text.trim name, Text.trim value)

/-- The parts of a text that writes a parameter, as the text is read. -/
theorem pair?_eq_of_cutFirst {text : String} {before after : List Char}
    (h : Text.cutFirst '=' text.toList = some (before, after)) :
    pair? text =
      if Text.isBlank (String.ofList before) then none
      else some (Text.trim (String.ofList before), Text.trim (String.ofList after)) := by
  simp only [pair?, h, Option.bind_eq_bind, Option.bind_some, Text.isEmpty_trim]
  cases Text.isBlank (String.ofList before) <;> rfl

/-- A text is read as a parameter exactly when it writes one. -/
theorem pair?_eq_some_iff {text : String} {param : String × String} :
    pair? text = some param ↔ Writes text param := by
  constructor
  · intro h
    cases hcut : Text.cutFirst '=' text.toList with
    | none => simp [pair?, hcut] at h
    | some parts =>
      obtain ⟨before, after⟩ := parts
      rw [pair?_eq_of_cutFirst hcut] at h
      split at h
      · cases h
      · next hblank =>
        cases h
        have htext : text = String.ofList before ++ "=" ++ String.ofList after := by
          rw [← String.toList_inj, Text.eq_of_cutFirst hcut]
          simp
        rw [htext]
        refine .pair _ _ ?_ (Bool.eq_false_iff.mpr hblank)
        rw [String.toList_ofList]
        exact Text.not_mem_of_cutFirst hcut
  · intro h
    obtain ⟨name, value, hplain, hname⟩ := h
    have hcut : Text.cutFirst '=' (name ++ "=" ++ value).toList =
        some (name.toList, value.toList) := by
      simp [Uri.Form.cutFirst_append hplain]
    rw [pair?_eq_of_cutFirst hcut]
    simp only [String.ofList_toList, hname, Bool.false_eq_true, if_false]

/-- The pieces that a text has between its commas are those it is joined from. -/
theorem pieces_join {texts : List String} (h : ∀ text ∈ texts, ',' ∉ text.toList) :
    pieces (Text.join "," texts) = texts.filter fun text => !Text.isBlank text := by
  by_cases hnil : texts = []
  · subst hnil
    decide
  · have hsplit : ([','].intercalate (texts.map String.toList)).splitOn ',' =
        texts.map String.toList := by
      apply List.splitOn_intercalate
      · simpa using h
      · simpa using hnil
    rw [pieces, Text.join, String.toList_intercalate, Text.pieces_eq_splitOn]
    change (List.map _ (([','].intercalate (texts.map String.toList)).splitOn ',')).filter _ = _
    rw [hsplit, List.map_map]
    simp [Function.comp_def]

/-- Every text is joined from texts without a comma. -/
theorem exists_eq_join (text : String) :
    ∃ texts, text = Text.join "," texts ∧ ∀ piece ∈ texts, ',' ∉ piece.toList := by
  refine ⟨(Text.pieces (· = ',') text.toList).map String.ofList, ?_, ?_⟩
  · have hjoined : [','].intercalate (text.toList.splitOn ',') = text.toList :=
      List.intercalate_splitOn ','
    rw [← Text.pieces_eq_splitOn] at hjoined
    rw [← String.toList_inj, Text.join, String.toList_intercalate, List.map_map]
    simpa [Function.comp_def] using hjoined.symm
  · intro piece hpiece hcomma
    obtain ⟨cs, hcs, rfl⟩ := List.mem_map.mp hpiece
    rw [String.toList_ofList] at hcomma
    simpa using Text.not_cut_of_mem_pieces hcs ',' hcomma

end Params

/-! ## What a value configures -/

namespace Provider

/-- The text that a value configures. -/
inductive ConfiguresText : Json → Option String → Prop
  | unset : ConfiguresText .null none
  | text (s : String) : ConfiguresText (.string s) (some s)

/-- The scopes that a value configures. -/
inductive ConfiguresScopes : Json → List String → Prop
  | unset : ConfiguresScopes .null []
  | joined (s : String) : ConfiguresScopes (.string s) (Scopes.split s)
  | list (texts : List String) : ConfiguresScopes (.array (texts.map .string)) texts

/-- The parameter that an item of a list configures. -/
inductive ConfiguresParam : Json → String × String → Prop
  | entry {members : List (String × Json)} {name value : String} :
      List.lookup "name" members = some (.string name) →
      List.lookup "value" members = some (.string value) →
      ConfiguresParam (.members members) (name, value)
  | pair {text : String} {param : String × String} :
      Params.Writes text param → ConfiguresParam (.string text) param

/-- The parameters that a value configures; a later one wins over an earlier one of its name. -/
inductive ConfiguresParams : Json → SortedMap String → Prop
  | unset : ConfiguresParams .null ∅
  | joined {texts : List String} {params : List (String × String)} :
      (∀ text ∈ texts, ',' ∉ text.toList) →
      List.Forall₂ Params.Writes (texts.filter fun text => !Text.isBlank text) params →
      ConfiguresParams (.string (Text.join "," texts)) (SortedMap.ofList params)
  | list {items : List Json} {params : List (String × String)} :
      List.Forall₂ ConfiguresParam items params →
      ConfiguresParams (.array items) (SortedMap.ofList params)

/-- What a value configures a field to. -/
def Field.Configures : (field : Field) → Json → field.Content → Prop
  | .clientId => ConfiguresText
  | .clientSecret => ConfiguresText
  | .redirectUri => ConfiguresText
  | .tokenPath => ConfiguresText
  | .codePath => ConfiguresText
  | .userInfoPath => ConfiguresText
  | .scopes => ConfiguresScopes
  | .extraParams => ConfiguresParams

/-! ## What a field binds -/

/-- A value binds to a text exactly when it configures it. -/
theorem bindText_eq_ok_iff {v : Json} {text : Option String} :
    bindText v = .ok text ↔ ConfiguresText v text := by
  constructor
  · intro h
    cases v with
    | null =>
      cases h
      exact .unset
    | string s =>
      cases h
      exact .text s
    | bool | number | array | members => cases h
  · intro h
    cases h <;> rfl

/-- The items of a list are shaped one by one. -/
theorem shapeItems_eq (items : List Json) : Json.shapeItems items = items.map Json.shape := by
  induction items with
  | nil => rfl
  | cons item rest ih => rw [Json.shapeItems, ih, List.map_cons]

/-- The members of an object are shaped one by one. -/
theorem shapeMembers_eq (members : List (String × Json)) :
    Json.shapeMembers members = members.map fun entry => (entry.1, entry.2.shape) := by
  induction members with
  | nil => rfl
  | cons first rest ih => rw [Json.shapeMembers, ih, List.map_cons]

/-- A text is read of texts only. -/
theorem text?_shape_eq_some_iff {v : Json} {s : String} :
    v.shape.text? = some s ↔ v = .string s := by
  cases v <;> simp [Json.shape, Shape.text?]

/-- A text under a key is read of a member that is a text. -/
theorem lookup_shapeMembers_eq_some_iff {key s : String} {members : List (String × Json)} :
    (List.lookup key (Json.shapeMembers members)).bind Shape.text? = some s ↔
      List.lookup key members = some (.string s) := by
  rw [shapeMembers_eq, lookup_map (fun _ => Json.shape)]
  cases List.lookup key members with
  | none => simp
  | some v =>
    rw [Option.map_some, Option.bind_some, text?_shape_eq_some_iff, Option.some.injEq]

/-- A value binds to scopes exactly when it configures them. -/
theorem scopes_shape_eq_ok_iff {v : Json} {scopes : List String} :
    v.shape.scopes = .ok scopes ↔ ConfiguresScopes v scopes := by
  have hlist {items : List Json} :
      (Json.shapeItems items).mapM Shape.text? = some scopes ↔ items = scopes.map .string := by
    rw [shapeItems_eq, mapM_eq_some_iff, List.forall₂_map_left_iff]
    simp only [text?_shape_eq_some_iff]
    rw [← List.forall₂_map_right_iff, List.forall₂_eq_eq_eq]
  constructor
  · intro h
    cases v with
    | null =>
      cases h
      exact .unset
    | string s =>
      cases h
      exact .joined s
    | array items =>
      rw [Json.shape, Shape.scopes] at h
      split at h
      · next texts htexts =>
        cases h
        rw [hlist.mp htexts]
        exact .list scopes
      · cases h
    | bool | number | members => cases h
  · intro h
    cases h with
    | unset => rfl
    | joined => rfl
    | list =>
      rw [Json.shape, Shape.scopes, hlist.mpr rfl]

/-- A text binds to the parameter that it writes. -/
theorem bind_pair_eq_ok_iff {text : String} {param : String × String} :
    (Shape.Param.pair text).bind = .ok param ↔ Params.Writes text param := by
  rw [Shape.Param.bind, ← Params.pair?_eq_some_iff]
  cases Params.pair? text <;> simp

/-- An item is read and bound to the parameter that it configures. -/
theorem configuresParam_iff (item : Json) (param : String × String) :
    ConfiguresParam item param ↔
      ∃ read, item.shape.param? = some read ∧ read.bind = .ok param := by
  constructor
  · intro h
    cases h with
    | entry hname hvalue =>
      refine ⟨.entry _ _, ?_, rfl⟩
      rw [Json.shape, Shape.param?, lookup_shapeMembers_eq_some_iff.mpr hname,
        lookup_shapeMembers_eq_some_iff.mpr hvalue]
      rfl
    | pair hwrites => exact ⟨.pair _, rfl, bind_pair_eq_ok_iff.mpr hwrites⟩
  · intro h
    obtain ⟨read, hread, hbind⟩ := h
    cases item with
    | string text =>
      cases hread
      exact .pair (bind_pair_eq_ok_iff.mp hbind)
    | members members =>
      simp only [Json.shape, Shape.param?, bind, Option.bind_eq_some_iff, pure,
        Option.some.injEq] at hread
      obtain ⟨name, hname, value, hvalue, rfl⟩ := hread
      cases hbind
      exact .entry (lookup_shapeMembers_eq_some_iff.mp (Option.bind_eq_some_iff.mpr hname))
        (lookup_shapeMembers_eq_some_iff.mp (Option.bind_eq_some_iff.mpr hvalue))
    | null | bool | number | array => cases hread

/-- Parameters bind exactly when each of them does, and the last of each name stays. -/
theorem bindParams_eq_ok_iff {read : List Shape.Param} {params : SortedMap String} :
    Shape.bindParams read = .ok params ↔
      ∃ bound, List.Forall₂ (fun param found => param.bind = .ok found) read bound ∧
        SortedMap.ofList bound = params := by
  rw [Shape.bindParams, map_eq_ok]
  simp only [mapM_eq_ok_iff]

/-- A value binds to parameters exactly when it configures them. -/
theorem params_shape_eq_ok_iff {v : Json} {params : SortedMap String} :
    v.shape.params = .ok params ↔ ConfiguresParams v params := by
  have hlist {items : List Json} {bound : List (String × String)} :
      List.Forall₂ ConfiguresParam items bound ↔
        ∃ read, (Json.shapeItems items).mapM Shape.param? = some read ∧
          List.Forall₂ (fun param found => param.bind = .ok found) read bound := by
    rw [forall₂_iff_exists configuresParam_iff]
    simp only [shapeItems_eq, mapM_eq_some_iff, List.forall₂_map_left_iff]
  have hjoined {texts : List String} {bound : List (String × String)} :
      List.Forall₂ Params.Writes texts bound ↔
        List.Forall₂ (fun param found => param.bind = .ok found)
          (texts.map Shape.Param.pair) bound := by
    simp only [List.forall₂_map_left_iff, bind_pair_eq_ok_iff]
  constructor
  · intro h
    cases v with
    | null =>
      cases h
      exact .unset
    | string text =>
      obtain ⟨texts, rfl, hplain⟩ := Params.exists_eq_join text
      rw [Json.shape, Shape.params, Params.pieces_join hplain, bindParams_eq_ok_iff] at h
      obtain ⟨bound, hbound, rfl⟩ := h
      exact .joined hplain (hjoined.mpr hbound)
    | array items =>
      rw [Json.shape, Shape.params] at h
      split at h
      · next read hread =>
        obtain ⟨bound, hbound, rfl⟩ := bindParams_eq_ok_iff.mp h
        exact .list (hlist.mpr ⟨read, hread, hbound⟩)
      · cases h
    | bool | number | members => cases h
  · intro h
    cases h with
    | unset => rfl
    | joined hplain hwrites =>
      rw [Json.shape, Shape.params, Params.pieces_join hplain, bindParams_eq_ok_iff]
      exact ⟨_, hjoined.mp hwrites, rfl⟩
    | list hitems =>
      obtain ⟨read, hread, hbound⟩ := hlist.mp hitems
      rw [Json.shape, Shape.params, hread]
      exact bindParams_eq_ok_iff.mpr ⟨_, hbound, rfl⟩

/-- A field binds exactly the values that configure it, and to what they configure. -/
theorem Field.bind_eq_ok_iff {field : Field} {v : Json} {c : field.Content} :
    field.bind v = .ok c ↔ field.Configures v c := by
  cases field with
  | scopes => exact mapError_eq_ok.trans scopes_shape_eq_ok_iff
  | extraParams => exact mapError_eq_ok.trans params_shape_eq_ok_iff
  | _ => exact bindText_eq_ok_iff

/-- What a field holds after the object is bound that gives it a value and has no other member. -/
def Field.bindAlone (field : Field) (v : Json) : Except BindFault field.Content :=
  (ofJson (.object [(field.key, v)])).map (·.get field)

/-- A field on its own takes what its value gives, or fails as its value does. -/
theorem Field.bindAlone_eq (field : Field) (v : Json) : field.bindAlone v = field.bind v := by
  change (bindMembers [] {} [(field.key, v)]).map _ = _
  simp only [bindMembers, ofKey?_eq_some_iff.mpr (.inl rfl), List.not_mem_nil, if_false, bindField_eq]
  cases field.bind v with
  | error fault => rfl
  | ok c => exact congrArg _ (get_set_self {} field c)

end Provider

end GrantConfig
