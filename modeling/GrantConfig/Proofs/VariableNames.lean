import GrantConfig.Proofs.Fields
import GrantConfig.Proofs.KeyPaths
import GrantConfig.Proofs.Lowercase

/-!
# Variables that name a field of a provider

A variable of the settings has four parts between pairs of underscores: what begins its name, the
section, the provider and the field. In any letter case, and with underscores or hyphens between
the words of the field, its key path leads to that field in the spelling with hyphens.
-/

namespace GrantConfig

open Layer Unicode

namespace Layer.Environment

/-- Whether a separator follows itself. -/
def hasPair (sep : Char) : List Char → Bool
  | [] => false
  | c :: rest => (c = sep && rest.head? = some sep) || hasPair sep rest

/-- A character that begins no pair of underscores belongs to the first part. -/
theorem parts_cons {c : Char} {rest : List Char} (h : ¬(c = '_' ∧ rest.head? = some '_')) :
    parts (c :: rest) =
      match parts rest with
      | [] => [[c]]
      | part :: more => (c :: part) :: more := by
  rw [parts.eq_def]
  split
  · next heq => cases heq
  · next more heq =>
    cases heq
    exact absurd ⟨rfl, rfl⟩ h
  · next heq =>
    cases heq
    rfl

/-- There is no pair exactly when none begins with the first character nor behind it. -/
theorem hasPair_cons {sep c : Char} {rest : List Char} :
    hasPair sep (c :: rest) = false ↔
      ¬(c = sep ∧ rest.head? = some sep) ∧ hasPair sep rest = false := by
  simp [hasPair]

/-- A name without a pair of underscores is its own single part. -/
theorem parts_eq_singleton {cs : List Char} (h : hasPair '_' cs = false) : parts cs = [cs] := by
  induction cs with
  | nil => rfl
  | cons c rest ih =>
    obtain ⟨hfirst, hrest⟩ := hasPair_cons.mp h
    rw [parts_cons hfirst, ih hrest]

/-- A part without a pair of underscores that does not end in one is cut off at the first pair. -/
theorem parts_append {cs : List Char} (h : hasPair '_' cs = false) (hlast : cs.getLast? ≠ some '_')
    (rest : List Char) : parts (cs ++ '_' :: '_' :: rest) = cs :: parts rest := by
  induction cs with
  | nil => rfl
  | cons c cs ih =>
    obtain ⟨hfirst, hrest⟩ := hasPair_cons.mp h
    have hhead : ¬(c = '_' ∧ (cs ++ '_' :: '_' :: rest).head? = some '_') := by
      cases cs with
      | nil => exact fun hc => hlast (by rw [hc.1]; rfl)
      | cons d cs => exact hfirst
    have hlast' : cs.getLast? ≠ some '_' := by
      cases cs with
      | nil => simp
      | cons d cs => rwa [List.getLast?_cons_cons] at hlast
    rw [List.cons_append, parts_cons hhead, ih hrest hlast']

/-- Two underscores in a row become two hyphens in a row. -/
theorem hasPair_hyphenated {cs : List Char} (h : hasPair '-' (hyphenated cs) = false) :
    hasPair '_' cs = false := by
  induction cs with
  | nil => rfl
  | cons c rest ih =>
    obtain ⟨hfirst, hrest⟩ := hasPair_cons.mp h
    refine hasPair_cons.mpr ⟨?_, ih hrest⟩
    intro hgiven
    obtain ⟨rfl, hhead⟩ := hgiven
    refine hfirst ⟨rfl, ?_⟩
    rw [List.head?_map, hhead]
    rfl

/-- Changing characters other than the underscore leaves the cuts where they are. -/
theorem parts_map {f : Char → Char} (h : ∀ c, f c = '_' ↔ c = '_') (cs : List Char) :
    parts (cs.map f) = (parts cs).map (List.map f) := by
  have hunderscore : f '_' = '_' := (h '_').mpr rfl
  fun_induction parts cs with
  | case1 => rfl
  | case2 rest ih => simp only [List.map_cons, hunderscore, parts, ih, List.map_nil]
  | case3 c rest _ hnil ih => exact absurd hnil (parts_ne_nil rest)
  | case4 c rest hne part more hparts ih =>
    have hhead : ¬(f c = '_' ∧ (rest.map f).head? = some '_') := by
      intro hgiven
      obtain ⟨hc, hrest⟩ := hgiven
      cases rest with
      | nil => cases hrest
      | cons d rest =>
        exact hne rest ((h c).mp hc) (congrArg (· :: rest) ((h d).mp (Option.some.inj hrest)))
    rw [List.map_cons, parts_cons hhead, ih, hparts]
    rfl

/-- No letter is an underscore. -/
theorem toLower_eq_underscore (c : Char) : c.toLower = '_' ↔ c = '_' :=
  toLower_eq_iff (by decide)

/-- Letter case and hyphens do not get in each other's way. -/
theorem map_toLower_hyphenated (cs : List Char) :
    (hyphenated cs).map Char.toLower = hyphenated (cs.map Char.toLower) := by
  rw [hyphenated, hyphenated, List.map_map, List.map_map]
  refine List.map_congr_left fun c _ => ?_
  by_cases hc : c = '_'
  · subst hc
    decide
  · have hlower : c.toLower ≠ '_' := fun h => hc ((toLower_eq_underscore c).mp h)
    simp only [Function.comp_apply, if_neg hc, if_neg hlower]

end Layer.Environment

/-- The characters of names are so in any letter case. -/
theorem Layer.KeyPath.isNameChar_toLower (c : Char) : isNameChar c.toLower = isNameChar c :=
  toLower_congr (by decide) c

namespace Settings

open Environment

/-- Whether a text can be the name of a provider in a variable: some letters, digits, blanks,
underscores and hyphens, no two underscores in a row, and none at the end. -/
def isProviderName (name : String) : Bool :=
  !name.isEmpty && name.toList.all KeyPath.isNameChar && !hasPair '_' name.toList &&
    name.toList.getLast? ≠ some '_'

/-- What stands before the field in a variable of a provider, in lowercase. -/
def variableStart (name : String) : List Char :=
  "oauth".toList ++ '_' :: '_' :: ("providers".toList ++ '_' :: '_' :: (name.toList ++ ['_', '_']))

/-- Whether a variable names a field of a provider, in any letter case and with underscores or
hyphens between the words of the field. -/
def namesField (var name : String) (field : Provider.Field) : Bool :=
  let lower := var.toList.map Char.toLower
  (variableStart name).isPrefixOf lower &&
    hyphenated (lower.drop (variableStart name).length) = field.key.toList

/-- The key path of a field of a provider. -/
def fieldPath (name : String) (field : Provider.Field) : String :=
  String.ofList (KeyPath.dotted "oauth".toList ["providers".toList, name.toList, field.key.toList])

/-- What the test for names of providers finds, in words. -/
theorem isProviderName_iff {name : String} :
    isProviderName name = true ↔
      KeyPath.IsName name.toList ∧ hasPair '_' name.toList = false ∧
        name.toList.getLast? ≠ some '_' := by
  have hempty : name.isEmpty = false ↔ name.toList ≠ [] := by
    rw [← Bool.not_eq_true, String.isEmpty_iff, ne_eq, String.toList_eq_nil_iff]
  simp only [isProviderName, KeyPath.IsName, Bool.and_eq_true, Bool.not_eq_true', List.all_eq_true,
    decide_eq_true_eq, and_assoc, hempty]

/-- What the test for variables of fields finds, in words. -/
theorem namesField_iff {var name : String} {field : Provider.Field} :
    namesField var name field = true ↔
      ∃ word, var.toList.map Char.toLower = variableStart name ++ word ∧
        hyphenated word = field.key.toList := by
  simp only [namesField, Bool.and_eq_true, List.isPrefixOf_iff_prefix, decide_eq_true_eq]
  constructor
  · intro h
    obtain ⟨⟨word, hword⟩, hfield⟩ := h
    rw [← hword, List.drop_left] at hfield
    exact ⟨word, hword.symm, hfield⟩
  · intro h
    obtain ⟨word, hword, hfield⟩ := h
    rw [hword, List.drop_left]
    exact ⟨⟨word, rfl⟩, hfield⟩

/-- No field has two hyphens in a row, so none is written with two underscores in a row. -/
theorem hasPair_of_hyphenated {word : List Char} {field : Provider.Field}
    (h : hyphenated word = field.key.toList) : hasPair '_' word = false := by
  have hkey : hasPair '-' field.key.toList = false := by cases field <;> decide
  rw [← h] at hkey
  exact hasPair_hyphenated hkey

/-- The parts of a variable that names a field. -/
theorem parts_of_namesField {var name : String} {field : Provider.Field}
    (hname : isProviderName name = true) (h : namesField var name field = true) :
    ∃ word, hyphenated word = field.key.toList ∧
      (parts var.toList).map (List.map Char.toLower) =
        ["oauth".toList, "providers".toList, name.toList, word] := by
  obtain ⟨word, hword, hfield⟩ := namesField_iff.mp h
  obtain ⟨_, hpair, hlast⟩ := isProviderName_iff.mp hname
  refine ⟨word, hfield, ?_⟩
  have hassoc : variableStart name ++ word = "oauth".toList ++ '_' :: '_' ::
      ("providers".toList ++ '_' :: '_' :: (name.toList ++ '_' :: '_' :: word)) := by
    simp [variableStart]
  rw [← parts_map toLower_eq_underscore, hword, hassoc, parts_append (by decide) (by decide),
    parts_append (by decide) (by decide), parts_append hpair hlast,
    parts_eq_singleton (hasPair_of_hyphenated hfield)]

/-- The lowercase form of a normalized name of a variable of a field. -/
theorem toLower_normalizeName {var name : String} {field : Provider.Field}
    (hname : isProviderName name = true) (h : namesField var name field = true) :
    (normalizeName var).toList.map Char.toLower = variableStart name ++ field.key.toList := by
  obtain ⟨word, hfield, hparts⟩ := parts_of_namesField hname h
  simp only [List.map_eq_cons_iff, List.map_eq_nil_iff] at hparts
  obtain ⟨a, _, hvar, ha, b, _, rfl, hb, c, _, rfl, hc, d, _, rfl, hd, rfl⟩ := hparts
  have hkey : (hyphenated d).map Char.toLower = field.key.toList := by
    rw [map_toLower_hyphenated, hd, hfield]
  rw [normalizeName, hvar, String.toList_ofList]
  simp [variableStart, List.modify, fieldPart, separator, List.intercalate_cons_cons, ha, hb, hc,
    hkey]

/-- The characters of names are ASCII characters. -/
theorem isNameChar_lt {c : Char} (h : KeyPath.isNameChar c = true) : c.toNat < 0x80 := by
  rw [KeyPath.isNameChar] at h
  delta Char.isAlphanum Char.isAlpha Char.isUpper Char.isLower Char.isDigit at h
  simp only [Bool.or_eq_true, Bool.and_eq_true, decide_eq_true_eq, ge_iff_le,
    UInt32.le_iff_toNat_le] at h
  rcases h with ((((h | h) | h) | rfl) | rfl) | rfl
  · exact Nat.lt_of_le_of_lt h.2 (by decide)
  · exact Nat.lt_of_le_of_lt h.2 (by decide)
  · exact Nat.lt_of_le_of_lt h.2 (by decide)
  all_goals decide

/-- The keys of fields are names. -/
theorem isName_fieldKey (field : Provider.Field) : KeyPath.IsName field.key.toList :=
  KeyPath.isName_iff.mpr ⟨by cases field <;> decide, by cases field <;> decide⟩

/-- The characters of the name of a field of a provider are ASCII. -/
theorem mem_fieldName_lt {name : String} (hname : isProviderName name = true)
    (field : Provider.Field) : ∀ c ∈ variableStart name ++ field.key.toList, c.toNat < 0x80 := by
  have hletters := (KeyPath.isName_iff.mp (isProviderName_iff.mp hname).1).2
  have hfield := (KeyPath.isName_iff.mp (isName_fieldKey field)).2
  have hoauth : "oauth".toList.all KeyPath.isNameChar = true := by decide
  have hproviders : "providers".toList.all KeyPath.isNameChar = true := by decide
  have hunderscore : KeyPath.isNameChar '_' = true := by decide
  have hall : (variableStart name ++ field.key.toList).all KeyPath.isNameChar = true := by
    simp only [variableStart, List.all_append, List.all_cons, List.all_nil, hletters, hfield,
      hoauth, hproviders, hunderscore, Bool.and_true]
  exact fun c hc => isNameChar_lt (List.all_eq_true.mp hall c hc)

/-- The normalized name of a variable of a field, in lowercase. -/
theorem lowercase_normalizeName {var name : String} {field : Provider.Field}
    (hname : isProviderName name = true) (h : namesField var name field = true) :
    lowercase (normalizeName var) = String.ofList (variableStart name ++ field.key.toList) := by
  have hlower := toLower_normalizeName hname h
  rw [lowercase_ascii, hlower]
  intro c hc
  rw [← toNat_toLower_lt]
  refine mem_fieldName_lt hname field c.toLower ?_
  rw [← hlower]
  exact List.mem_map_of_mem hc

/-- The key path of a variable that names a field. -/
theorem keyPath_normalizeName {var name : String} {field : Provider.Field}
    (hname : isProviderName name = true) (h : namesField var name field = true) :
    keyPath (normalizeName var) = fieldPath name field := by
  obtain ⟨_, hpair, hlast⟩ := isProviderName_iff.mp hname
  have hassoc : variableStart name ++ field.key.toList = "oauth".toList ++ '_' :: '_' ::
      ("providers".toList ++ '_' :: '_' :: (name.toList ++ '_' :: '_' :: field.key.toList)) := by
    simp [variableStart]
  have hfield : hasPair '_' field.key.toList = false := by cases field <;> decide
  rw [keyPath, lowercase_normalizeName hname h, String.toList_ofList, hassoc,
    parts_append (by decide) (by decide), parts_append (by decide) (by decide),
    parts_append hpair hlast, parts_eq_singleton hfield, KeyPath.intercalate_eq_dotted, fieldPath]

/-- What begins the variables of the settings, in lowercase. -/
theorem lowercase_start : lowercase (defaultStart ++ separator) = "oauth__" := by decide

/-- A variable of a provider stays one of the settings when its name is normalized. -/
theorem hasStart_normalizeName {var name : String} {field : Provider.Field}
    (hname : isProviderName name = true) (h : namesField var name field = true) :
    hasStart defaultStart (normalizeName var) = true := by
  rw [hasStart, lowercase_start, lowercase_normalizeName hname h, String.toList_ofList,
    List.isPrefixOf_iff_prefix]
  exact ⟨"providers".toList ++ '_' :: '_' :: (name.toList ++ '_' :: '_' :: field.key.toList),
    by simp [variableStart]⟩

/-- A variable that names a field is ASCII, so its lowercase form goes character by character. -/
theorem lowercase_of_namesField {var name : String} {field : Provider.Field}
    (hname : isProviderName name = true) (h : namesField var name field = true) :
    lowercase var = String.ofList (var.toList.map Char.toLower) := by
  obtain ⟨word, hword, hfield⟩ := namesField_iff.mp h
  have hascii := mem_fieldName_lt hname field
  refine lowercase_ascii fun c hc => ?_
  rw [← toNat_toLower_lt]
  have hmem : c.toLower ∈ variableStart name ++ word := by
    rw [← hword]
    exact List.mem_map_of_mem hc
  rcases List.mem_append.mp hmem with hstart | hlast
  · exact hascii _ (List.mem_append_left _ hstart)
  · -- An underscore of the field is ASCII, and any other character stands in the key.
    by_cases hunderscore : c.toLower = '_'
    · rw [hunderscore]
      decide
    · refine hascii _ (List.mem_append_right _ ?_)
      rw [← hfield]
      exact List.mem_map.mpr ⟨_, hlast, if_neg hunderscore⟩

/-- A variable that names a field is one of the settings. -/
theorem hasStart_of_namesField {var name : String} {field : Provider.Field}
    (hname : isProviderName name = true) (h : namesField var name field = true) :
    hasStart defaultStart var = true := by
  obtain ⟨word, hword, _⟩ := namesField_iff.mp h
  rw [hasStart, lowercase_start, lowercase_of_namesField hname h, String.toList_ofList, hword,
    List.isPrefixOf_iff_prefix]
  exact ⟨"providers".toList ++ '_' :: '_' :: (name.toList ++ '_' :: '_' :: word),
    by simp [variableStart]⟩

/-- A provider's name is in lowercase where variables name its fields. -/
theorem lowercase_name {var name : String} {field : Provider.Field}
    (hname : isProviderName name = true) (h : namesField var name field = true) :
    lowercase name = name := by
  obtain ⟨word, hword, _⟩ := namesField_iff.mp h
  refine lowercase_eq_self fun c hc => ⟨isNameChar_lt ((isProviderName_iff.mp hname).1.2 c hc), ?_⟩
  have hmem : c ∈ var.toList.map Char.toLower := by
    rw [hword, variableStart]
    simp [hc]
  obtain ⟨d, _, rfl⟩ := List.mem_map.mp hmem
  exact toLower_toLower d

/-- The path of a field leads through the section and the provider to the field. -/
theorem ofKey_fieldPath {name : String} (hname : isProviderName name = true)
    (field : Provider.Field) :
    KeyPath.ofKey (fieldPath name field) =
      ⟨rootKey, [.field providersKey, .field name, .field field.key]⟩ := by
  have hoauth : KeyPath.IsName "oauth".toList := KeyPath.isName_iff.mpr ⟨by decide, by decide⟩
  have hproviders : KeyPath.IsName "providers".toList :=
    KeyPath.isName_iff.mpr ⟨by decide, by decide⟩
  rw [fieldPath, KeyPath.ofKey_dotted]
  · simp only [List.map_cons, List.map_nil, String.ofList_toList]
    rfl
  · simp only [List.forall_mem_cons]
    exact ⟨hoauth, hproviders, (isProviderName_iff.mp hname).1, isName_fieldKey field,
      List.forall_mem_nil _⟩

/-- Different fields and fields of different providers have different paths. -/
theorem fieldPath_inj {name other : String} {field field' : Provider.Field}
    (hname : isProviderName name = true) (hother : isProviderName other = true)
    (h : fieldPath name field = fieldPath other field') : name = other ∧ field = field' := by
  have hpath := (ofKey_fieldPath hname field).symm.trans
    ((congrArg KeyPath.ofKey h).trans (ofKey_fieldPath hother field'))
  simp only [KeyPath.mk.injEq, List.cons.injEq, Step.field.injEq, true_and, and_true] at hpath
  exact ⟨hpath.1, Provider.Field.key_injective hpath.2⟩

/-! ## Variables in capital letters -/

/-- The variable of a field of a provider, as it is usually written. -/
def variableName (start name : String) (field : Provider.Field) : String :=
  start ++ separator ++ "PROVIDERS" ++ separator ++ name ++ separator ++
    String.ofList (field.snakeKey.toList.map Char.toUpper)

/-- The name of a provider is ASCII. -/
theorem lowercase_providerName {name : String} (h : isProviderName name = true) :
    lowercase name = String.ofList (name.toList.map Char.toLower) :=
  lowercase_ascii fun c hc => isNameChar_lt ((isProviderName_iff.mp h).1.2 c hc)

/-- Pairs of underscores stand in the same places in any letter case. -/
theorem hasPair_map_toLower (cs : List Char) :
    hasPair '_' (cs.map Char.toLower) = hasPair '_' cs := by
  induction cs with
  | nil => rfl
  | cons c rest ih =>
    rw [List.map_cons, hasPair, hasPair, ih, List.head?_map]
    cases rest with
    | nil => simp
    | cons d rest => simp [toLower_eq_underscore]

/-- The lowercase form of a provider's name is one as well. -/
theorem isProviderName_lowercase {name : String} (h : isProviderName name = true) :
    isProviderName (lowercase name) = true := by
  obtain ⟨⟨hne, hchars⟩, hpair, hlast⟩ := isProviderName_iff.mp h
  rw [lowercase_providerName h]
  refine isProviderName_iff.mpr ?_
  rw [String.toList_ofList]
  refine ⟨⟨fun hnil => hne (List.map_eq_nil_iff.mp hnil), fun c hc => ?_⟩, ?_, ?_⟩
  · obtain ⟨d, hd, rfl⟩ := List.mem_map.mp hc
    exact (KeyPath.isNameChar_toLower d).trans (hchars d hd)
  · rw [hasPair_map_toLower]
    exact hpair
  · rw [List.getLast?_map]
    intro hmap
    obtain ⟨c, hc, hlower⟩ := Option.map_eq_some_iff.mp hmap
    rw [(toLower_eq_underscore c).mp hlower] at hc
    exact hlast hc

/-- The variable of a field names that field of the provider in lowercase. -/
theorem namesField_variableName {name : String} (h : isProviderName name = true)
    (field : Provider.Field) :
    namesField (variableName defaultStart name field) (lowercase name) field = true := by
  have hword : hyphenated ((field.snakeKey.toList.map Char.toUpper).map Char.toLower) =
      field.key.toList := by
    cases field <;> decide
  refine namesField_iff.mpr ⟨_, ?_, hword⟩
  rw [lowercase_providerName h]
  simp [variableName, variableStart, defaultStart, separator, String.toList_append]

end Settings

end GrantConfig
