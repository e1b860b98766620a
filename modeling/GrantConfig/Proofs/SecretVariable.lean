import GrantConfig.Proofs.Isolation
import GrantConfig.Proofs.SecretRuns
import GrantConfig.Proofs.Standing

/-!
# A secret in the environment

Two runs that differ in the value of one variable, which gives the secret of a provider, are followed
side by side, in the same order. The merged tables are the same off the way to that secret. So the runs
log the same lines, and fail with the same error or load the same settings but for that secret, which
is the value of the variable.
-/

namespace GrantConfig.Settings

open Layer Provider Environment Unicode

/-- The way to the secret of a provider. -/
def secretWay (name : String) : List String := [rootKey, providersKey, name, secretKey]

/-- The keys on the way are in lowercase. -/
theorem lowercase_of_mem_secretWay {name : String} (hname : lowercase name = name) :
    ∀ key ∈ secretWay name, lowercase key = key := by
  simp only [secretWay, List.forall_mem_cons]
  exact ⟨by decide, by decide, hname, by decide, List.forall_mem_nil _⟩

/-- Sources whose entries are the same, but for two texts under the key of the secret, merged into
two roots. -/
theorem along_mergeSource {x y name key : String} (hname : lowercase name = name)
    (hkey : KeyPath.ofKey key = ⟨rootKey, [providersKey, name, secretKey].map .field⟩)
    {source source' : Entries}
    (hsources : List.Forall₂ (fun entry other => entry.1 = other.1 ∧
      InBothRuns x y key entry.1 entry.2 other.2) source source')
    {root root' : Entries}
    (h : (differing x y).Along (secretWay name) (some (.table root)) (some (.table root'))) :
    (differing x y).Along (secretWay name) (some (.table (mergeSource root source)))
      (some (.table (mergeSource root' source'))) := by
  induction hsources generalizing root root' with
  | nil => exact h
  | @cons entry other rest more hpair _ ih =>
    obtain ⟨k, v⟩ := entry
    obtain ⟨_, w⟩ := other
    obtain ⟨rfl, hvalues⟩ := hpair
    rcases hvalues with hsame | hwritten
    · obtain rfl : v = w := hsame
      exact ih (Frame.Along.assignKey h k v)
    · obtain ⟨hk, hv, hw⟩ := hwritten
      obtain rfl : k = key := hk
      obtain rfl : v = written x := hv
      obtain rfl : w = written y := hw
      have hassign := h.assign_names (leaf_written x) (leaf_written y)
        (.inr ⟨rfl, rfl⟩ : (differing x y).ending _ _) (lowercase_of_mem_secretWay hname)
      refine ih ?_
      rw [table_assignKey (leaf_written x), table_assignKey (leaf_written y), hkey]
      exact hassign

/-- Variables with the variable of a provider's secret. -/
def withSecret (name : String) (vars : SortedMap String) (value : String) : SortedMap String :=
  vars.insert (variableName defaultStart name .clientSecret) value

/-- No key path of another variable of the settings leads to a provider's secret, nor above or below
it, nor puts it a list on the way to it. -/
def SecretAlone (name : String) (vars : SortedMap String) : Prop :=
  ∀ other ∈ kept vars, other.1 ≠ variableName defaultStart name .clientSecret →
    LeavesAlone (secretWay (lowercase name)) (wayOf (keyPath (normalizeName other.1)))

section

variable {name : String} {vars : SortedMap String} (hname : isProviderName name = true)

include hname

/-- The name of a provider in lowercase is in lowercase. -/
theorem lowercase_lowercase_name : lowercase (lowercase name) = lowercase name :=
  Settings.lowercase_name (isProviderName_lowercase hname)
    (namesField_variableName hname .clientSecret)

/-- The variable of the secret has the key path of the secret. -/
theorem keyPath_secret :
    keyPath (normalizeName (variableName defaultStart name .clientSecret)) =
      fieldPath (lowercase name) .clientSecret :=
  keyPath_normalizeName (isProviderName_lowercase hname) (namesField_variableName hname _)

/-- The variable of the secret leads there. -/
theorem wayOf_secret :
    wayOf (fieldPath (lowercase name) .clientSecret) =
      (secretWay (lowercase name)).map .field := by
  have hkey := ofKey_fieldPath (isProviderName_lowercase hname) .clientSecret
  have hlower := lowercase_of_mem_secretWay (lowercase_lowercase_name hname)
  rw [← map_lower_fields hlower, wayOf, hkey]
  rfl

/-- The variable of the secret offers its value there. -/
theorem mem_offered_secret (value : String) :
    (fieldPath (lowercase name) .clientSecret, written value) ∈
      offered defaultStart (withSecret name vars value).entries := by
  have hlower := isProviderName_lowercase hname
  have hnames := namesField_variableName hname .clientSecret
  refine mem_offered.mpr ⟨(variableName defaultStart name .clientSecret, value), ?_,
    hasStart_of_namesField hlower hnames, hasStart_normalizeName hlower hnames, ?_⟩
  · exact SortedMap.find?_eq_some_iff.mp (SortedMap.find?_insert_self _ _ _)
  · rw [keyPath_secret hname]

variable (halone : SecretAlone name vars)

include halone

/-- What a variable offers is the value of the secret in its place, or the same for every value of the
secret, and then it leaves that place alone. -/
theorem offered_cases {x : String} {entry : String × Value}
    (h : entry ∈ offered defaultStart (withSecret name vars x).entries) :
    entry = (fieldPath (lowercase name) .clientSecret, written x) ∨
      entry.1 ≠ fieldPath (lowercase name) .clientSecret ∧
        LeavesAlone (secretWay (lowercase name)) (wayOf entry.1) ∧
        ∀ y, entry ∈ offered defaultStart (withSecret name vars y).entries := by
  obtain ⟨var, hvar, hkept, hstart, rfl⟩ := mem_offered.mp h
  rw [← SortedMap.find?_eq_some_iff, withSecret] at hvar
  by_cases hsecret : var.1 = variableName defaultStart name .clientSecret
  · rw [hsecret, SortedMap.find?_insert_self] at hvar
    left
    rw [hsecret, keyPath_secret hname, Option.some.inj hvar]
  · rw [SortedMap.find?_insert_of_ne _ _ hsecret] at hvar
    have halone' := halone var
      (mem_kept.mpr ⟨SortedMap.find?_eq_some_iff.mp hvar, hkept⟩) hsecret
    refine .inr ⟨fun heq => halone'.above ?_, halone', fun y => ?_⟩
    · have hway : wayOf (keyPath (normalizeName var.1)) = (secretWay (lowercase name)).map .field :=
        (congrArg wayOf heq).trans (wayOf_secret hname)
      exact hway ▸ List.prefix_refl _
    · have hsame : (withSecret name vars y).find? var.1 = some var.2 := by
        rw [withSecret, SortedMap.find?_insert_of_ne _ _ hsecret]
        exact hvar
      exact mem_offered.mpr ⟨var, SortedMap.find?_eq_some_iff.mp hsame, hkept, hstart, rfl⟩

/-- Whatever the variables write in one run, in the other one they write the same but for the
secret. -/
theorem exists_written {x : String} (y : String) {writes : Entries}
    (h : Written defaultStart (withSecret name vars x) writes) :
    ∃ writes', Written defaultStart (withSecret name vars y) writes' ∧
      List.Forall₂ (fun entry other => entry.1 = other.1 ∧
        InBothRuns x y (fieldPath (lowercase name) .clientSecret) entry.1 entry.2 other.2)
        writes writes' := by
  obtain ⟨hdistinct, hgiven, hkeys⟩ := collected_iff.mp (written_iff.mp h)
  let replace (entry : String × Value) : String × Value :=
    if entry.1 = fieldPath (lowercase name) .clientSecret then (entry.1, written y) else entry
  have hkey (entry : String × Value) : (replace entry).1 = entry.1 := by
    simp only [replace]
    split <;> rfl
  refine ⟨writes.map replace, written_iff.mpr (collected_iff.mpr ⟨?_, fun entry hentry => ?_,
    fun entry hentry => ?_⟩), ?_⟩
  · refine List.pairwise_map.mpr (hdistinct.imp fun hne => ?_)
    rw [hkey, hkey]
    exact hne
  · obtain ⟨given, hmem, rfl⟩ := List.mem_map.mp hentry
    simp only [replace]
    rcases offered_cases hname halone (hgiven given hmem) with rfl | hother
    · rw [if_pos rfl]
      exact mem_offered_secret hname y
    · rw [if_neg hother.1]
      exact hother.2.2 y
  · have hsamekeys : (writes.map replace).map Prod.fst = writes.map Prod.fst := by
      rw [List.map_map]
      exact List.map_congr_left fun entry _ => hkey entry
    rw [hsamekeys]
    rcases offered_cases hname halone hentry with rfl | hother
    · exact hkeys (_, written x) (mem_offered_secret hname x)
    · exact hkeys _ (hother.2.2 x)
  · refine List.forall₂_map_right_iff.mpr (List.forall₂_same.mpr fun entry hentry => ?_)
    refine ⟨(hkey entry).symm, ?_⟩
    simp only [replace]
    rcases offered_cases hname halone (hgiven entry hentry) with rfl | hother
    · rw [if_pos rfl]
      exact .inr ⟨rfl, rfl, rfl⟩
    · rw [if_neg hother.1]
      exact .inl rfl

/-- What the variable of the secret writes stands in the merged table, in whatever order all is
written. -/
theorem at?_merged {x : String} {writes : Entries}
    (h : Written defaultStart (withSecret name vars x) writes) (root : Entries) :
    (Value.table (mergeSource root writes)).at? (secretWay (lowercase name)) =
      some (written x) := by
  obtain ⟨hdistinct, hgiven, hkeys⟩ := collected_iff.mp (written_iff.mp h)
  have hmem : (fieldPath (lowercase name) .clientSecret, written x) ∈ writes := by
    obtain ⟨entry, hentry, heq⟩ := List.mem_map.mp (hkeys _ (mem_offered_secret hname x))
    rcases offered_cases hname halone (hgiven entry hentry) with rfl | hother
    · exact hentry
    · exact absurd heq hother.1
  refine at?_mergeSource hmem (wayOf_secret hname) (fun _ => rfl) (fun entry hentry hne => ?_)
    hdistinct root
  rcases offered_cases hname halone (hgiven entry hentry) with rfl | hother
  · exact absurd rfl hne
  · exact hother.2.1

end

/-! ## What the secret is -/

/-- What stands behind the section's keys stands in the section. -/
theorem exists_section_of_at? {root : Entries} {way : List String} {x : Value}
    (h : (Value.table root).at? (rootKey :: providersKey :: way) = some x) :
    ∃ v, section? root = some v ∧ v.at? way = some x := by
  obtain ⟨entries, v, hroot, hv, h⟩ := Value.at?_cons_eq_some h
  obtain ⟨inner, w, rfl, hw, h⟩ := Value.at?_cons_eq_some h
  obtain rfl := Value.table.inj hroot
  refine ⟨w, ?_, h⟩
  rw [section?, hv]
  exact hw

/-- A provider that loads has the text that stands under the key of its secret. -/
theorem clientSecret_of_loadsAs {v : Value} (hv : v.Normal) {value : String}
    (hvalue : v.at? [secretKey] = some (written value)) {p : Provider} (h : LoadsAs v (.ok p)) :
    p.clientSecret = some value := by
  obtain ⟨fields, w, rfl, hw, hwritten⟩ := Value.at?_cons_eq_some hvalue
  obtain rfl := Option.some.inj hwritten
  obtain ⟨folded, hfolded, hok, _⟩ := exists_of_loadsAs_table hv.ascending.distinctKeys h
  have htakes := (hok p).mp rfl .clientSecret
  rw [hfolded.kept _ _ (by decide) hw] at htakes
  exact (Except.ok.inj htakes).symm

/-- In settings that load, the secret is the text that has been written. -/
theorem secret_of_at? {name value : String} {root : Entries} {s : Settings}
    (hnormal : (Value.table root).Normal)
    (h : (Value.table root).at? (secretWay name) = some (written value))
    (hload : SectionLoadsAs (section? root) (.ok s)) :
    ∃ p, s.provider? name = some p ∧ p.clientSecret = some value := by
  obtain ⟨v, hsection, hway⟩ := exists_section_of_at? h
  obtain ⟨entries, w, rfl, hw, hsecret⟩ := Value.at?_cons_eq_some hway
  have hentries : (Value.table entries).Normal := by
    rw [section?_eq] at hsection
    exact (normal_tableUnder hnormal rootKey).lookup hsection
  have hdistinct : DistinctKeys (entriesIn (some (.table entries))) :=
    hentries.ascending.distinctKeys
  rw [hsection] at hload
  obtain ⟨_, p, hp, hs⟩ := exists_of_sectionLoadsAs_ok hdistinct hload
  refine ⟨p name, ?_, clientSecret_of_loadsAs (hentries.lookup hw) hsecret (hp _ (mem_of_lookup hw))⟩
  rw [hs]
  exact congrArg _ hw

/-- The sections of two runs that write the same but for the secret come to the same but for it. -/
theorem exists_sectionLoadsAs_withSecret {name : String} (hname : isProviderName name = true)
    {x y : String} {writes writes' : Entries}
    (hwrites : List.Forall₂ (fun entry other => entry.1 = other.1 ∧
      InBothRuns x y (fieldPath (lowercase name) .clientSecret) entry.1 entry.2 other.2)
      writes writes') (documents : List Entries) {r : Except ConfigError Settings}
    (hr : SectionLoadsAs (section? (mergeSources (documents ++ [writes]))) r) :
    (section? (mergeSources (documents ++ [writes]))).isNone =
        (section? (mergeSources (documents ++ [writes']))).isNone ∧
      ∃ r', SectionLoadsAs (section? (mergeSources (documents ++ [writes']))) r' ∧
        r.map (·.withoutSecretOf (lowercase name)) =
          r'.map (·.withoutSecretOf (lowercase name)) := by
  have hsection : (differing x y).Along [lowercase name, secretKey]
      (section? (mergeSources (documents ++ [writes])))
      (section? (mergeSources (documents ++ [writes']))) := by
    rw [section?_eq, section?_eq, mergeSources, mergeSources, List.foldl_append, List.foldl_append]
    exact (along_mergeSource (lowercase_lowercase_name hname)
      (ofKey_fieldPath (isProviderName_lowercase hname) _) hwrites
      (Frame.along_refl _ _ _)).2.2.2.2
  refine ⟨?_, exists_sectionLoadsAs normal_section? normal_section? hsection hr⟩
  rcases hsection.1 with hsame | htables
  · rw [hsame]
  · obtain ⟨entries, others, hentries, hothers⟩ := htables
    rw [hentries, hothers]
    rfl

/-- For every run with one value of the variable of a provider's secret there is one with another value
that logs the same lines, and that fails with the same error or loads the same settings but for that
secret, which is each run's own value. -/
theorem secret_variable_only_sets_secret (files : Files) (sources : List Source) {name : String}
    {vars : SortedMap String} (hname : isProviderName name = true)
    (halone : SecretAlone name vars) (x y : String) :
    ∀ r, Loads files sources defaultStart (withSecret name vars x) r →
      ∃ r', Loads files sources defaultStart (withSecret name vars y) r' ∧ r.lines = r'.lines ∧
        ((∃ e, r.value = .error e ∧ r'.value = .error e) ∨
          ∃ s t, r.value = .ok s ∧ r'.value = .ok t ∧ SameButSecretOf (lowercase name) s t ∧
            (∃ p, s.provider? (lowercase name) = some p ∧ p.clientSecret = some x) ∧
            ∃ q, t.provider? (lowercase name) = some q ∧ q.clientSecret = some y) := by
  intro r hr
  have hnames : ∀ s t : Settings,
      s.withoutSecretOf (lowercase name) = t.withoutSecretOf (lowercase name) →
        s.names = t.names := by
    intro s t hsame
    rw [← names_withoutSecretOf s (lowercase name), hsame, names_withoutSecretOf]
  have hown {value : String} {visited : List Entries} {writes : Entries} {s : Settings}
      (hwritten : Written defaultStart (withSecret name vars value) writes)
      (hs : SectionLoadsAs (section? (mergeSources (visited ++ [writes]))) (.ok s)) :
      ∃ p, s.provider? (lowercase name) = some p ∧ p.clientSecret = some value := by
    refine secret_of_at? (normal_mergeSources _) ?_ hs
    rw [mergeSources, List.foldl_append]
    exact at?_merged hname halone hwritten _
  cases hr with
  | @unread formats fault order read =>
    exact ⟨_, .unread order read, rfl, .inl ⟨_, rfl, rfl⟩⟩
  | @merged formats documents visited writes loaded order read visits written loads =>
    obtain ⟨writes', hwritten', hpairs⟩ := exists_written hname halone y written
    obtain ⟨hnone, loaded', hloaded', hsame⟩ :=
      exists_sectionLoadsAs_withSecret hname hpairs visited loads
    refine ⟨_, .merged order read visits hwritten' hloaded', ?_, ?_⟩
    · rw [hnone]
      exact lines_told_congr hnames _ _ hsame
    · rw [value_told, value_told]
      rcases map_eq_map_iff.mp hsame with hok | herror
      · obtain ⟨s, t, rfl, rfl, hsettings⟩ := hok
        exact .inr ⟨s, t, rfl, rfl, hsettings, hown written loads, hown hwritten' hloaded'⟩
      · exact .inl herror

/-! ## Instances -/

/-- A text that gives a provider another secret. -/
def oldSecretSource : Source := .text "[oauth.providers.kakao]\nclient_secret = \"old\"\n" .toml

/-- A variable of the settings that gives no field of a provider. -/
def otherVars : SortedMap String := SortedMap.ofList [("OAUTH__X", "1")]

/-- The other variable of the example leaves the secret alone. -/
theorem secretAlone_otherVars : SecretAlone "Kakao" otherVars := by
  intro other hother _
  obtain rfl := List.mem_singleton.mp (mem_kept.mp hother).1
  have hway : wayOf (keyPath (normalizeName "OAUTH__X")) = ["oauth", "x"].map Step.field := by
    decide
  rw [hway]
  exact leavesAlone_of_names (by decide) (by decide)

/-- The secret of the text is replaced by that of each run. -/
theorem secret_variable_only_sets_secret_kakao :
    ∃ r' s t, Loads ∅ [oldSecretSource] defaultStart (withSecret "Kakao" otherVars " ") r' ∧
      (load ∅ [oldSecretSource] defaultStart (withSecret "Kakao" otherVars "a&b")).value = .ok s ∧
      r'.value = .ok t ∧ SameButSecretOf "kakao" s t ∧
      (∃ p, s.provider? "kakao" = some p ∧ p.clientSecret = some "a&b") ∧
      ∃ q, t.provider? "kakao" = some q ∧ q.clientSecret = some " " := by
  have hname : lowercase "Kakao" = "kakao" := by decide
  have hsome : (load ∅ [oldSecretSource] defaultStart
      (withSecret "Kakao" otherVars "a&b")).value.toOption.isSome = true := by
    decide +kernel
  obtain ⟨r', hr', _, hruns⟩ := secret_variable_only_sets_secret ∅ [oldSecretSource]
    (by decide : isProviderName "Kakao" = true) secretAlone_otherVars "a&b" " " _
    (loads_load _ _ _ _)
  rw [hname] at hruns
  rcases hruns with herror | hok
  · obtain ⟨e, he, _⟩ := herror
    rw [he] at hsome
    cases hsome
  · obtain ⟨s, t, hs, ht, hsame⟩ := hok
    exact ⟨r', s, t, hr', hs, ht, hsame⟩

/-- What the variable of a secret writes. -/
def secretWrite (value : String) : String × Value :=
  ("oauth.providers.kakao.client-secret", written value)

/-- What the variables write together with the secret, in ascending order. -/
theorem offered_withSecret (value : String) :
    offered defaultStart (withSecret "KAKAO" listedVars value).entries =
      [itemWrite, secretWrite value, naverWrite] := by
  have hvariable : variableName defaultStart "KAKAO" .clientSecret =
      "OAUTH__PROVIDERS__KAKAO__CLIENT_SECRET" := by
    decide
  have hentries : (listedVars.insert "OAUTH__PROVIDERS__KAKAO__CLIENT_SECRET" value).entries =
      [("OAUTH__PROVIDERS[0]", "1"), ("OAUTH__PROVIDERS__KAKAO__CLIENT_SECRET", value),
        ("OAUTH__PROVIDERS__NAVER__CLIENT_ID", "n")] :=
    rfl
  have hkept : ∀ name ∈ ["OAUTH__PROVIDERS[0]", "OAUTH__PROVIDERS__KAKAO__CLIENT_SECRET",
      "OAUTH__PROVIDERS__NAVER__CLIENT_ID"],
      (hasStart defaultStart name && hasStart defaultStart (normalizeName name)) = true := by
    decide
  have hitem : keyPath (normalizeName "OAUTH__PROVIDERS[0]") = "oauth.providers[0]" := by
    decide
  have hsecret : keyPath (normalizeName "OAUTH__PROVIDERS__KAKAO__CLIENT_SECRET") =
      "oauth.providers.kakao.client-secret" := by
    decide
  have hnaver : keyPath (normalizeName "OAUTH__PROVIDERS__NAVER__CLIENT_ID") =
      "oauth.providers.naver.client-id" := by
    decide
  simp only [List.forall_mem_cons] at hkept
  simp only [withSecret, hvariable, hentries, offered, List.filter_cons, hkept, if_true,
    List.filter_nil, List.map_cons, List.map_nil, hitem, hsecret, hnaver, itemWrite, secretWrite,
    naverWrite]

/-- An item that another variable puts into the section may take the place of the secret, which is then
missing, or keep the section from loading. -/
theorem secret_may_be_lost :
    (∀ other ∈ kept listedVars, other.1 ≠ variableName defaultStart "KAKAO" .clientSecret →
      ¬KeyPath.Overlap (keyPath (normalizeName other.1))
        (keyPath (normalizeName (variableName defaultStart "KAKAO" .clientSecret)))) ∧
      (∃ r s, Loads ∅ [] defaultStart (withSecret "KAKAO" listedVars "a") r ∧ r.value = .ok s ∧
        s.names = ["naver"]) ∧
      ∃ r fault, Loads ∅ [] defaultStart (withSecret "KAKAO" listedVars "b") r ∧
        r.value = .error (.load fault) := by
  have hdistinct (value : String) :
      DistinctKeys (offered defaultStart (withSecret "KAKAO" listedVars value).entries) := by
    rw [offered_withSecret]
    exact List.pairwise_map.mp
      (by decide : [itemWrite.1, "oauth.providers.kakao.client-secret", naverWrite.1].Pairwise (· ≠ ·))
  refine ⟨fun other hother _ => ?_, ?_, ?_⟩
  · rcases List.mem_cons.mp (mem_kept.mp hother).1 with rfl | hnaver
    · decide
    · rw [List.mem_singleton.mp hnaver]
      decide
  · have horder : [secretWrite "a", itemWrite, naverWrite].Perm
        (offered defaultStart (withSecret "KAKAO" listedVars "a").entries) := by
      rw [offered_withSecret]
      exact .swap _ _ _
    have hnames : (ofSection (section? (mergeSources
        [[secretWrite "a", itemWrite, naverWrite]]))).toOption.map Settings.names =
          some ["naver"] := by
      decide +kernel
    exact exists_loads_names (hdistinct "a") horder hnames
  · have horder : [naverWrite, secretWrite "b", itemWrite].Perm
        (offered defaultStart (withSecret "KAKAO" listedVars "b").entries) := by
      rw [offered_withSecret]
      exact List.reverse_perm [itemWrite, secretWrite "b", naverWrite]
    obtain ⟨r, hr, hvalue⟩ := loads_of_writes (hdistinct "b") horder
    have hsection : section? (mergeSources [[naverWrite, secretWrite "b", itemWrite]]) =
        some (.list none [written "1"]) :=
      eq_some_of_isSame (by decide +kernel)
    rw [hsection] at hvalue
    exact ⟨r, _, hr, hvalue⟩

end GrantConfig.Settings
