import GrantConfig.Proofs.CustomStart

/-!
# Normalized names of variables

The name of a variable is cut at pairs of underscores, and the part that names a field is written
with hyphens. Cutting the new name gives the same parts but for that one, and lowercase goes part by
part, so the cut of a name and that of its key path agree whatever runs of underscores there are.
What begins the name is left alone, hence the source keeps every normalized variable.
-/

namespace GrantConfig.Layer.Environment

open Unicode Settings

/-! ## Parts that are found again -/

/-- Parts that are found again when they are joined by pairs of underscores: no part holds such a
pair, and only the last one may end in an underscore. -/
def Separable : List (List Char) → Prop
  | [] => False
  | [last] => hasPair '_' last = false
  | part :: next :: more =>
    hasPair '_' part = false ∧ part.getLast? ≠ some '_' ∧ Separable (next :: more)

/-- There are always parts. -/
theorem Separable.ne_nil {ps : List (List Char)} (h : Separable ps) : ps ≠ [] := by
  intro hnil
  rw [hnil] at h
  exact h

/-- The first part begins like the whole. -/
theorem head?_of_parts {cs part : List Char} {more : List (List Char)} (h : parts cs = part :: more)
    (hpart : part ≠ []) : part.head? = cs.head? := by
  obtain ⟨c, rest, rfl⟩ := List.exists_cons_of_ne_nil hpart
  rw [← intercalate_parts cs, h, KeyPath.intercalate_cons_eq]
  rfl

/-- A name falls into parts that are found again. -/
theorem separable_parts (cs : List Char) : Separable (parts cs) := by
  fun_induction parts cs with
  | case1 => rfl
  | case2 rest ih =>
    obtain ⟨part, more, h⟩ := List.exists_cons_of_ne_nil (parts_ne_nil rest)
    rw [h] at ih ⊢
    exact ⟨rfl, by simp, ih⟩
  | case3 c rest _ h => exact absurd h (parts_ne_nil rest)
  | case4 c rest hne part more h ih =>
    have hfirst : ¬(c = '_' ∧ rest.head? = some '_') := by
      intro hgiven
      cases rest with
      | nil => simp at hgiven
      | cons d rest => exact hne rest hgiven.1 (by simpa using hgiven.2)
    have hpair (hpart : hasPair '_' part = false) : hasPair '_' (c :: part) = false := by
      refine hasPair_cons.mpr ⟨fun hgiven => hfirst ⟨hgiven.1, ?_⟩, hpart⟩
      rw [← head?_of_parts h (by intro hnil; simp [hnil] at hgiven)]
      exact hgiven.2
    rw [h] at ih
    cases more with
    | nil => exact hpair ih
    | cons next more =>
      refine ⟨hpair ih.1, ?_, ih.2.2⟩
      cases part with
      | nil =>
        -- what follows is cut at once, so a further underscore would have been cut off before
        have hrest : rest.head? = some '_' := by
          rw [← intercalate_parts rest, h]
          rfl
        simpa using fun hc => hfirst ⟨hc, hrest⟩
      | cons d part => simpa [List.getLast?_cons_cons] using ih.2.1

/-- Parts that are found again are what cutting gives. -/
theorem parts_intercalate {ps : List (List Char)} (h : Separable ps) :
    parts (List.intercalate separator.toList ps) = ps := by
  induction ps with
  | nil => exact absurd rfl h.ne_nil
  | cons part more ih =>
    cases more with
    | nil => simpa using parts_eq_singleton h
    | cons next more =>
      rw [List.intercalate_cons_cons, List.append_assoc]
      change parts (part ++ '_' :: '_' :: List.intercalate separator.toList (next :: more)) = _
      rw [parts_append h.1 h.2.1, ih h.2.2]

/-- Where there is no underscore, there is no pair of them. -/
theorem hasPair_of_not_mem {cs : List Char} (h : '_' ∉ cs) : hasPair '_' cs = false := by
  simpa [hasPair] using hasPair_append h []

/-- No underscore is left. -/
theorem underscore_not_mem_hyphenated (part : List Char) : '_' ∉ hyphenated part := by
  intro hmem
  obtain ⟨c, _, hc⟩ := List.mem_map.mp hmem
  split at hc
  · cases hc
  · contradiction

/-- Hyphens stay hyphens. -/
theorem hyphenated_hyphenated (part : List Char) :
    hyphenated (hyphenated part) = hyphenated part := by
  rw [hyphenated, List.map_congr_left (g := id), List.map_id]
  intro c hc
  have hne : c ≠ '_' := fun h => underscore_not_mem_hyphenated part (h ▸ hc)
  simp [hne]

/-- Hyphens within one part leave the others to be found again. -/
theorem Separable.modify {ps : List (List Char)} (h : Separable ps) (n : Nat) :
    Separable (ps.modify n hyphenated) := by
  have hpair (part : List Char) : hasPair '_' (hyphenated part) = false :=
    hasPair_of_not_mem (underscore_not_mem_hyphenated part)
  have hlast (part : List Char) : (hyphenated part).getLast? ≠ some '_' :=
    fun hlast => underscore_not_mem_hyphenated part (List.mem_of_getLast? hlast)
  induction ps generalizing n with
  | nil => exact absurd rfl h.ne_nil
  | cons part more ih =>
    cases more with
    | nil =>
      cases n with
      | zero => exact hpair part
      | succ n => simpa using h
    | cons next more =>
      cases n with
      | zero => exact ⟨hpair part, hlast part, h.2.2⟩
      | succ n =>
        have hrest := ih h.2.2 n
        cases n with
        | zero => exact ⟨h.1, h.2.1, hrest⟩
        | succ n => exact ⟨h.1, h.2.1, hrest⟩

/-- A normalized name has the parts of the name, with hyphens in the one that names a field. -/
theorem parts_normalizeName (name : String) :
    parts (normalizeName name).toList = (parts name.toList).modify fieldPart hyphenated := by
  rw [normalizeName, String.toList_ofList]
  exact parts_intercalate ((separable_parts name.toList).modify fieldPart)

/-- Names with the same parts are equal. -/
theorem eq_of_parts {name other : String} (h : parts name.toList = parts other.toList) :
    name = other := by
  rw [← String.toList_inj, ← intercalate_parts name.toList, h, intercalate_parts]

/-- A normalized name is not changed by normalizing it. -/
theorem normalizeName_normalizeName (name : String) :
    normalizeName (normalizeName name) = normalizeName name := by
  apply eq_of_parts
  rw [parts_normalizeName, parts_normalizeName, List.modify_modify_eq]
  congr 1
  funext part
  exact hyphenated_hyphenated part

/-! ## Lowercase part by part -/

/-- A part in lowercase. -/
def lowerPart (part : List Char) : List Char := lowercaseAfter [] part

/-- In lowercase, parts can be told apart just as well. -/
theorem Separable.map_lowerPart {ps : List (List Char)} (h : Separable ps) :
    Separable (ps.map lowerPart) := by
  induction ps with
  | nil => exact h
  | cons part more ih =>
    cases more with
    | nil => exact (hasPair_lowercaseAfter [] part).trans h
    | cons next more =>
      exact ⟨(hasPair_lowercaseAfter [] part).trans h.1, getLast?_lowercaseAfter h.2.1, ih h.2.2⟩

/-- Joined parts are in lowercase when each of them is. -/
theorem lowercaseAfter_intercalate (ps : List (List Char)) :
    lowercaseAfter [] (List.intercalate separator.toList ps) =
      List.intercalate separator.toList (ps.map lowerPart) := by
  induction ps with
  | nil => rfl
  | cons part more ih =>
    cases more with
    | nil => simp [lowerPart]
    | cons next more =>
      have hsep (cs : List Char) : separator.toList ++ cs = '_' :: ([] ++ '_' :: cs) := rfl
      rw [List.map_cons] at ih ⊢
      rw [List.map_cons, List.intercalate_cons_cons, List.intercalate_cons_cons, ← ih,
        List.append_assoc, List.append_assoc, hsep, hsep, lowercaseAfter_append_underscore,
        lowercaseAfter_append_underscore]
      rfl

/-- To cut a name in lowercase is to bring its parts to lowercase. -/
theorem parts_lowercase (name : String) :
    parts (lowercase name).toList = (parts name.toList).map lowerPart := by
  have hjoined := lowercaseAfter_intercalate (parts name.toList)
  change lowercaseAfter [] (List.intercalate ['_', '_'] (parts name.toList)) = _ at hjoined
  rw [intercalate_parts] at hjoined
  rw [lowercase, String.toList_ofList, hjoined]
  exact parts_intercalate (separable_parts name.toList).map_lowerPart

/-! ## What begins a name -/

/-- A pair of underscores is found behind anything. -/
theorem hasPair_append_pair (front rest : List Char) :
    hasPair '_' (front ++ '_' :: '_' :: rest) = true := by
  induction front with
  | nil => simp [hasPair]
  | cons c front ih => simp [hasPair, ih]

/-- What begins a name ends where a pair of underscores stands for the first time, or one underscore
later. So it does not depend on what follows. -/
theorem append_pair_prefix_iff {s front rest cs : List Char} (h : hasPair '_' s = false)
    (hrest : rest ≠ []) (hfront : front ++ '_' :: '_' :: rest <+: cs) :
    s ++ ['_', '_'] <+: cs ↔ s ++ ['_', '_'] <+: front ++ '_' :: '_' :: rest := by
  constructor
  · intro hs
    apply List.prefix_of_prefix_length_le hs hfront
    by_contra hlong
    have hpair : front ++ ['_', '_'] <+: s := by
      apply List.prefix_of_prefix_length_le ((List.prefix_append _ rest).trans ?_)
        ((List.prefix_append _ _).trans hs)
      · have hpos := List.length_pos_iff.mpr hrest
        simp at hlong ⊢
        omega
      · simpa using hfront
    obtain ⟨more, hmore⟩ := hpair
    rw [← hmore, List.append_assoc] at h
    simp only [List.cons_append, List.nil_append, hasPair_append_pair] at h
    cases h
  · intro hs
    exact hs.trans hfront

/-- A variable belongs to a source when its name begins with the prefix and a pair of underscores,
all in lowercase. -/
theorem hasStart_iff {start name : String} :
    hasStart start name = true ↔
      (lowercase start).toList ++ ['_', '_'] <+: (lowercase name).toList := by
  have hstart := lowercase_append_pair start ""
  rw [String.append_empty] at hstart
  rw [hasStart, List.isPrefixOf_iff_prefix, separator, hstart]
  rfl

/-- The first three parts of a longer name and the pairs of underscores behind them begin it. -/
theorem first_parts_begin {name : String} {a b c : List Char}
    (hfirst : (parts name.toList).take fieldPart = [a, b, c])
    (hlong : fieldPart < (parts name.toList).length) :
    lowerPart a ++ '_' :: '_' :: (lowerPart b ++ '_' :: '_' :: (lowerPart c ++ ['_', '_'])) <+:
      (lowercase name).toList := by
  have hrest : (parts name.toList).drop fieldPart ≠ [] := by
    simpa [List.drop_eq_nil_iff] using hlong
  obtain ⟨d, more, hdrop⟩ := List.exists_cons_of_ne_nil hrest
  have hparts : parts name.toList = a :: b :: c :: d :: more := by
    rw [← List.take_append_drop fieldPart (parts name.toList), hfirst, hdrop]
    rfl
  refine ⟨List.intercalate separator.toList ((d :: more).map lowerPart), ?_⟩
  rw [← intercalate_parts (lowercase name).toList, parts_lowercase, hparts]
  simp [List.intercalate_cons_cons, separator]

/-- What begins a name only depends on the first three parts. -/
theorem hasStart_congr {start name other : String} (h : hasPair '_' start.toList = false)
    (hlength : (parts name.toList).length = (parts other.toList).length)
    (htake : (parts name.toList).take fieldPart = (parts other.toList).take fieldPart) :
    hasStart start name = hasStart start other := by
  by_cases hlong : fieldPart < (parts name.toList).length
  · have hpair : hasPair '_' (lowercase start).toList = false := by
      rw [lowercase, String.toList_ofList, hasPair_lowercaseAfter]
      exact h
    have hthree : ((parts name.toList).take fieldPart).length = 3 := by
      rw [List.length_take]
      exact Nat.min_eq_left hlong.le
    obtain ⟨a, b, c, habc⟩ := List.length_eq_three.mp hthree
    rw [Bool.eq_iff_iff, hasStart_iff, hasStart_iff,
      append_pair_prefix_iff hpair (by simp) (first_parts_begin habc hlong),
      append_pair_prefix_iff hpair (by simp)
        (first_parts_begin (htake.symm.trans habc) (hlength ▸ hlong))]
  · have hshort := Nat.le_of_not_lt hlong
    rw [List.take_of_length_le hshort, List.take_of_length_le (hlength ▸ hshort)] at htake
    rw [eq_of_parts htake]

/-- A normalized variable belongs to the same sources as the variable. -/
theorem hasStart_normalizeName_eq {start : String} (h : hasPair '_' start.toList = false)
    (name : String) : hasStart start (normalizeName name) = hasStart start name := by
  apply hasStart_congr h
  · rw [parts_normalizeName, List.length_modify]
  · rw [parts_normalizeName, List.take_modify, List.modify_eq_self]
    simp

/-! ## Names that fall together -/

/-- Characters that are the same, or an underscore and a hyphen. -/
def SameButHyphen (c d : Char) : Prop := c = d ∨ c = '_' ∧ d = '-' ∨ c = '-' ∧ d = '_'

/-- Two characters become one exactly when they are the same up to hyphens. -/
theorem hyphen_eq_iff (c d : Char) :
    ((if c = '_' then '-' else c) = if d = '_' then '-' else d) ↔ SameButHyphen c d := by
  rw [SameButHyphen]
  split <;> split <;> grind

/-- So do two parts. -/
theorem hyphenated_eq_iff {part other : List Char} :
    hyphenated part = hyphenated other ↔ List.Forall₂ SameButHyphen part other := by
  induction part generalizing other with
  | nil => cases other <;> simp [hyphenated]
  | cons c part ih =>
    cases other with
    | nil => simp [hyphenated]
    | cons d other =>
      rw [List.forall₂_cons, ← ih, ← hyphen_eq_iff]
      simp [hyphenated]

/-- Two names have the same parts, but underscores in the one that names a field may be hyphens in
the other name. -/
structure AlikeButField (name other : String) : Prop where
  count : (parts name.toList).length = (parts other.toList).length
  elsewhere : ∀ i, i ≠ fieldPart → (parts name.toList)[i]? = (parts other.toList)[i]?
  field : Option.Rel (List.Forall₂ SameButHyphen) (parts name.toList)[fieldPart]?
    (parts other.toList)[fieldPart]?

/-- Names become equal exactly when they are alike up to the part that names a field. -/
theorem normalizeName_eq_iff {name other : String} :
    normalizeName name = normalizeName other ↔ AlikeButField name other := by
  have hparts : normalizeName name = normalizeName other ↔
      (parts name.toList).modify fieldPart hyphenated =
        (parts other.toList).modify fieldPart hyphenated := by
    rw [← parts_normalizeName, ← parts_normalizeName]
    exact ⟨fun h => by rw [h], eq_of_parts⟩
  have hfield (x y : Option (List Char)) :
      x.map hyphenated = y.map hyphenated ↔ Option.Rel (List.Forall₂ SameButHyphen) x y := by
    cases x <;> cases y <;> simp [hyphenated_eq_iff]
  rw [hparts, List.ext_getElem?_iff]
  constructor
  · intro h
    have hlength := congrArg List.length (List.ext_getElem?_iff.mpr h)
    rw [List.length_modify, List.length_modify] at hlength
    refine ⟨hlength, fun i hi => ?_, (hfield _ _).mp ?_⟩
    · simpa [List.getElem?_modify, Ne.symm hi] using h i
    · simpa [List.getElem?_modify] using h fieldPart
  · intro h i
    by_cases hi : fieldPart = i
    · subst hi
      simpa [List.getElem?_modify] using (hfield _ _).mpr h.field
    · simp [hi, h.elsewhere i (Ne.symm hi)]

/-! ## The variables of a source -/

variable {start : String} {vars : SortedMap String}

/-- A variable that is the only one to be brought to a name gives its value. -/
theorem find?_normalize_of_alone {name value : String} (hvalue : vars.find? name = some value)
    (hstart : hasStart start name = true)
    (halone : ∀ other ∈ vars.keys, hasStart start other = true →
      normalizeName other = normalizeName name → other = name) :
    (normalize start vars).find? (normalizeName name) = some value := by
  rw [SortedMap.find?, entries_normalize]
  apply lookup_insertEach_nil_of_mem
  · exact List.mem_map.mpr ⟨(name, value),
      List.mem_filter.mpr ⟨SortedMap.find?_eq_some_iff.mp hvalue, hstart⟩, rfl⟩
  · intro entry hentry hname
    obtain ⟨var, hvar, rfl⟩ := List.mem_map.mp hentry
    obtain ⟨hvar, hkept⟩ := List.mem_filter.mp hvar
    have heq := halone var.1 (List.mem_map_of_mem hvar) hkept hname
    have hfound : vars.find? name = some var.2 := by
      rw [← heq]
      exact SortedMap.find?_eq_some_iff.mpr hvar
    exact Option.some.inj (hfound.symm.trans hvalue)

/-- Every variable of the source is there under its normalized name. -/
theorem mem_keys_normalize {name : String} (hname : name ∈ vars.keys)
    (hstart : hasStart start name = true) : normalizeName name ∈ (normalize start vars).keys := by
  obtain ⟨entry, hentry, rfl⟩ := List.mem_map.mp hname
  rw [SortedMap.keys, entries_normalize]
  exact mem_keys_insertEach_nil (List.mem_map_of_mem (List.mem_filter.mpr ⟨hentry, hstart⟩))

/-- What is normalized are the variables whose names begin with the prefix. -/
theorem exists_of_mem_normalize {entry : String × String}
    (h : entry ∈ (normalize start vars).entries) :
    ∃ name, vars.find? name = some entry.2 ∧ hasStart start name = true ∧
      entry.1 = normalizeName name := by
  rw [entries_normalize] at h
  obtain ⟨var, hvar, rfl⟩ := List.mem_map.mp (mem_of_mem_insertEach_nil h)
  obtain ⟨hmem, hstart⟩ := List.mem_filter.mp hvar
  exact ⟨var.1, SortedMap.find?_eq_some_iff.mpr hmem, hstart, rfl⟩

/-- The source drops no normalized variable. -/
theorem filter_normalize (h : hasPair '_' start.toList = false) (vars : SortedMap String) :
    (normalize start vars).entries.filter (fun entry => hasStart start entry.1) =
      (normalize start vars).entries := by
  rw [List.filter_eq_self]
  intro entry hentry
  obtain ⟨name, _, hstart, hname⟩ := exists_of_mem_normalize hentry
  rw [hname, hasStart_normalizeName_eq h, hstart]

/-- To normalize again changes nothing. -/
theorem normalize_normalize (h : hasPair '_' start.toList = false) (vars : SortedMap String) :
    normalize start (normalize start vars) = normalize start vars := by
  have hmap : (normalize start vars).entries.map (fun entry => (normalizeName entry.1, entry.2)) =
      (normalize start vars).entries := by
    rw [List.map_congr_left (g := id), List.map_id]
    intro entry hentry
    obtain ⟨name, _, _, hname⟩ := exists_of_mem_normalize hentry
    rw [hname, normalizeName_normalizeName, ← hname]
    rfl
  rw [normalize, renamed, filter_normalize h, hmap]
  exact SortedMap.ofList_of_perm (List.Perm.refl _)

/-- The source has an entry for every normalized variable. -/
theorem mem_keys_source (h : hasPair '_' start.toList = false) {name : String}
    (hname : name ∈ (normalize start vars).keys) :
    keyPath name ∈ (source start vars).map Prod.fst := by
  obtain ⟨entry, hentry, rfl⟩ := List.mem_map.mp hname
  rw [source_eq, SortedMap.rekeyed, filter_normalize h]
  exact mem_keys_insertEach_nil (List.mem_map_of_mem hentry)

/-! ## Agreement -/

/-- The lowercase form of a name begins with that of a prefix and a pair of underscores. -/
def BeginsWith (start name : String) : Prop :=
  (lowercase (start ++ "__")).toList <+: (lowercase name).toList

/-- The test for a prefix finds what begins with it. -/
theorem hasStart_iff_beginsWith {start name : String} :
    hasStart start name = true ↔ BeginsWith start name := List.isPrefixOf_iff_prefix

/-- Normalizing the variables and reading them as a source cut and filter names in the same way. -/
structure ReadAsNormalized (start : String) (vars : SortedMap String) : Prop where
  /-- What is kept begins with the prefix, and values are not touched. -/
  kept : ∀ entry ∈ (normalize start vars).entries, ∃ name,
    BeginsWith start name ∧ vars.find? name = some entry.2 ∧ entry.1 = normalizeName name
  complete : ∀ name ∈ vars.keys, BeginsWith start name →
    normalizeName name ∈ (normalize start vars).keys
  /-- The source drops no normalized variable. -/
  passes : ∀ name ∈ (normalize start vars).keys, BeginsWith start name
  read : ∀ name ∈ (normalize start vars).keys, keyPath name ∈ (source start vars).map Prod.fst
  /-- Only the part that names a field changes, from underscores to hyphens. -/
  cut : ∀ name, parts (normalizeName name).toList = (parts name.toList).modify 3 hyphenated
  /-- The cut of a name in lowercase is that of the name. -/
  lower : ∀ name, parts (lowercase name).toList =
    (parts name.toList).map fun part => (lowercase (String.ofList part)).toList
  again : normalize start (normalize start vars) = normalize start vars
  collapse : ∀ name other, normalizeName name = normalizeName other ↔ AlikeButField name other
  /-- A variable gets lost only to one that is alike up to the part that names a field. -/
  alone : ∀ name value, vars.find? name = some value → BeginsWith start name →
    (∀ other ∈ vars.keys, BeginsWith start other → AlikeButField other name → other = name) →
      (normalize start vars).find? (normalizeName name) = some value

/-- For a prefix without a pair of underscores, the variables are normalized to what the source
reads, whatever their names are. -/
theorem source_reads_normalized {start : String} (h : hasPair '_' start.toList = false)
    (vars : SortedMap String) : ReadAsNormalized start vars := by
  constructor
  case kept =>
    intro entry hentry
    obtain ⟨name, hvalue, hstart, hname⟩ := exists_of_mem_normalize hentry
    exact ⟨name, hasStart_iff_beginsWith.mp hstart, hvalue, hname⟩
  case complete =>
    intro name hname hstart
    exact mem_keys_normalize hname (hasStart_iff_beginsWith.mpr hstart)
  case passes =>
    intro name hname
    obtain ⟨entry, hentry, rfl⟩ := List.mem_map.mp hname
    rw [← filter_normalize h] at hentry
    exact hasStart_iff_beginsWith.mp (List.mem_filter.mp hentry).2
  case read => exact fun name => mem_keys_source h
  case cut => exact parts_normalizeName
  case lower =>
    intro name
    rw [parts_lowercase]
    simp [lowercase, lowerPart]
  case again => exact normalize_normalize h vars
  case collapse => exact fun name other => normalizeName_eq_iff
  case alone =>
    intro name value hvalue hstart halone
    apply find?_normalize_of_alone hvalue (hasStart_iff_beginsWith.mpr hstart)
    intro other hother hkept hsame
    exact halone other hother (hasStart_iff_beginsWith.mp hkept) (normalizeName_eq_iff.mp hsame)

/-- Variables with runs of underscores, one of them of another prefix. -/
def runVars : SortedMap String :=
  SortedMap.ofList [("app___A__B___C_D_", "1"), ("APP___A__B__C_D", "2"), ("APP__A__B__C_D", "3")]

/-- Three underscores belong to a prefix that ends in one, or to the part that follows. -/
theorem source_reads_normalized_runs :
    hasPair '_' "APP_".toList = false ∧ ReadAsNormalized "APP_" runVars ∧
      (normalize "APP_" runVars).find? (normalizeName "app___A__B___C_D_") = some "1" ∧
      normalizeName "app___A__B___C_D_" = "app___A__B__-C-D-" := by
  have hpair : hasPair '_' "APP_".toList = false := by decide
  have hreads := source_reads_normalized hpair runVars
  have halone : ∀ other ∈ runVars.keys,
      normalizeName other = normalizeName "app___A__B___C_D_" → other = "app___A__B___C_D_" := by
    decide
  refine ⟨hpair, hreads, ?_, by decide⟩
  apply hreads.alone
  · decide
  · exact hasStart_iff_beginsWith.mp (by decide)
  · intro other hother _ halike
    exact halone other hother ((hreads.collapse _ _).mpr halike)

end GrantConfig.Layer.Environment
