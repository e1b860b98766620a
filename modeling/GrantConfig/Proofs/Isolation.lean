import GrantConfig.Proofs.Frames
import GrantConfig.Proofs.VisitingOrder

/-!
# Isolation of providers

A source that mentions one provider only, or variables that do, may be added anywhere to what loads in
whatever order its maps are gone through. The other providers stay what they are, and the only thing
that can go wrong is that provider. So a run with the addition is compared with the run without it that
goes through all else in the same order. The merged tables of both are the same off the way to the
provider: what is added only makes tables on that way, and never puts anything but a table there.
-/

namespace GrantConfig.Layer

open Unicode

/-- Whether a value is a table. -/
def Value.isTable : Value → Bool
  | .scalar _ _ => false
  | .list _ _ => false
  | .table _ => true

/-- The test for a table finds tables. -/
theorem Value.eq_table_of_isTable {v : Value} (h : v.isTable = true) :
    ∃ entries, v = .table entries := by
  cases v with
  | scalar | list => cases h
  | table entries => exact ⟨entries, rfl⟩

/-- Trees of which the second one has a table on the way wherever it does not look like the first.
Nothing is said of what stands at its end. -/
def growing : Frame where
  passing v w := w.map Value.isTable = some true ∨ v.map Value.isTable = w.map Value.isTable
  ending _ _ := True
  passing_refl _ := .inr rfl
  passing_tables _ _ := .inl rfl
  passing_getD {v w} h := by
    cases w with
    | none => exact .inl rfl
    | some y =>
      cases v with
      | none =>
        rcases h with htable | hsame
        · exact .inl htable
        · cases hsame
      | some x => exact h
  passing_changeItem {v w} h n change := by
    have hlist (u : Value) : (u.changeItem n change).isTable = false := by cases u <;> rfl
    exact .inr (by rw [Option.map_some, Option.map_some, hlist, hlist])
  ending_refl _ := trivial
  ending_over _ _ := trivial
  ending_assign _ _ _ := trivial

/-- A value with nothing off a way of keys, which has tables on the way. -/
def Confined : List String → Value → Prop
  | [], _ => True
  | key :: keys, v =>
    ∃ entries, v = .table entries ∧ ∀ entry ∈ entries, lowercase entry.1 = key ∧ Confined keys entry.2

/-- A value below a way that begins with keys in lowercase has nothing off these keys. -/
theorem confined_nest {keys : List String} (h : ∀ key ∈ keys, lowercase key = key)
    (names : List String) (v : Value) : Confined keys (nest (keys ++ names) v) := by
  induction keys with
  | nil => trivial
  | cons key keys ih =>
    refine ⟨_, rfl, fun entry hentry => ?_⟩
    obtain rfl := List.mem_singleton.mp hentry
    exact ⟨h key List.mem_cons_self, ih fun other hother => h other (List.mem_cons_of_mem _ hother)⟩

/-- A table that is made where there is nothing. -/
theorem growing_getD {key : String} {keys : List String} {v w : Option Value}
    (h : growing.Along (key :: keys) v w) :
    growing.Along (key :: keys) v (some (w.getD (.table []))) := by
  cases w with
  | none => exact ⟨.inl rfl, h.2⟩
  | some y => exact h

/-- A value that has nothing off the way, laid over the second tree alone. -/
theorem growing_over {keys : List String} {v w : Option Value} (h : growing.Along keys v w)
    {u : Value} (hu : Confined keys u) : growing.Along keys v (some (u.over w)) := by
  induction keys generalizing v w u with
  | nil => trivial
  | cons key keys ih =>
    obtain ⟨entries, rfl, hentries⟩ := hu
    have hmerge : ∀ target : Value, growing.Along (key :: keys) v (some target) →
        growing.Along (key :: keys) v (some (mergeTable target entries)) := by
      clear h
      induction entries with
      | nil =>
        intro target htarget
        rw [mergeTable]
        exact htarget
      | cons first rest ihrest =>
        intro target htarget
        obtain ⟨k, x⟩ := first
        obtain ⟨⟨rfl, hx⟩, hrest⟩ := List.forall_mem_cons.mp hentries
        rw [mergeTable]
        refine ihrest hrest _ ⟨.inl rfl, fun other hother => ?_, ?_⟩
        · rw [htarget.2.1 other hother]
          change _ = List.lookup other (mergeField target.toEntries k x)
          rw [mergeField_eq, lookup_insertEntry_of_ne _ _ hother]
          rfl
        · change growing.Along keys _
            (List.lookup (lowercase k) (mergeField target.toEntries k x))
          rw [mergeField_eq, lookup_insertEntry_self]
          exact ih htarget.2.2 hx
    exact hmerge _ (growing_getD h)

/-- Entries that have nothing off the way, merged into the second root alone. -/
theorem growing_mergeEntries {key : String} {keys : List String} {root other : Entries}
    (h : growing.Along (key :: keys) (some (.table root)) (some (.table other))) {document : Entries}
    (hdocument : Confined (key :: keys) (.table document)) :
    growing.Along (key :: keys) (some (.table root)) (some (.table (mergeEntries other document))) := by
  rw [← mergeTable_table]
  exact growing_over h hdocument

/-- In another order, a value still has nothing off the way. -/
theorem Value.Visited.confined {keys : List String} {v w : Value} (h : v.Visited w)
    (hv : Confined keys v) : Confined keys w := by
  induction keys generalizing v w with
  | nil => trivial
  | cons key keys ih =>
    cases h with
    | same => exact hv
    | @table entries between visited below order =>
      obtain ⟨_, heq, hentries⟩ := hv
      obtain rfl := Value.table.inj heq
      refine ⟨visited, rfl, fun entry hentry => ?_⟩
      obtain ⟨u, hu, hvisited⟩ := below.exists_of_mem entry (order.mem_iff.mpr hentry)
      obtain ⟨hkey, hconfined⟩ := hentries _ hu
      exact ⟨hkey, ih hvisited hconfined⟩

/-- In another order, plain keys stay plain. -/
theorem DocumentVisited.plainKeys {document visited : Entries} (h : DocumentVisited document visited)
    (hplain : PlainKeys document) : PlainKeys visited := by
  intro entry hentry
  obtain ⟨given, hgiven, hvisited⟩ := h.exists_of_mem entry hentry
  rw [← hvisited.key]
  exact hplain given hgiven

/-- In another order, a document still has nothing off the way. -/
theorem DocumentVisited.confined {document visited : Entries} (h : DocumentVisited document visited)
    {key : String} {keys : List String} (hconfined : Confined (key :: keys) (.table document)) :
    Confined (key :: keys) (.table visited) := by
  obtain ⟨_, heq, hentries⟩ := hconfined
  obtain rfl := Value.table.inj heq
  refine ⟨visited, rfl, fun entry hentry => ?_⟩
  obtain ⟨given, hgiven, hvisited⟩ := h.exists_of_mem entry hentry
  obtain ⟨hkey, hbelow⟩ := hentries given hgiven
  exact ⟨hvisited.key ▸ hkey, hvisited.value.confined hbelow⟩

end GrantConfig.Layer

namespace GrantConfig.Settings

open Layer Environment Unicode

/-- The way to a provider. -/
def providerWay (name : String) : List String := [rootKey, providersKey, name]

/-- A key that is a path of names below a provider. -/
def IsBelow (name key : String) : Prop :=
  ∃ names : List String, KeyPath.ofKey key = ⟨rootKey, (providersKey :: name :: names).map .field⟩

/-- Sources and variables with an addition that mentions one provider only: a source somewhere among
the others, or variables of which none has the key path of one that is there. -/
inductive Extends (files : Files) (name : String) :
    List Source → SortedMap String → List Source → SortedMap String → Prop
  | document (front back : List Source) (vars : SortedMap String) {source : Source}
      (read : ∀ formats, formats.Perm Format.all → ∃ document,
        source.readIn files formats = .ok document ∧ PlainKeys document ∧
          Confined (providerWay name) (.table document)) :
      Extends files name (front ++ back) vars (front ++ source :: back) vars
  | environment (sources : List Source) (vars added : SortedMap String)
      (below : ∀ var ∈ kept added, IsBelow name (keyPath (normalizeName var.1)))
      (fresh : ∀ var ∈ kept added, ∀ other ∈ kept vars,
        keyPath (normalizeName var.1) ≠ keyPath (normalizeName other.1)) :
      Extends files name sources vars sources (added.overlay vars)

/-- A key below a provider, assigned in the second root alone. -/
theorem growing_assignKey {name key : String} (hname : lowercase name = name)
    (hkey : IsBelow name key) {root other : Entries}
    (h : growing.Along (providerWay name) (some (.table root)) (some (.table other))) (v : Value) :
    growing.Along (providerWay name) (some (.table root))
      (some (.table (assignKey other key v))) := by
  obtain ⟨names, hpath⟩ := hkey
  rw [assignKey_fields hpath]
  refine growing_mergeEntries h (confined_nest ?_ names v)
  simp only [List.forall_mem_cons]
  exact ⟨by decide, by decide, hname, List.forall_mem_nil _⟩

/-- A source merged into the second root, and without some keys below a provider into the first. -/
theorem growing_mergeSource {name : String} (hname : lowercase name = name) {p : String → Bool}
    {source : Entries} (hsource : ∀ entry ∈ source, p entry.1 = false → IsBelow name entry.1)
    {root other : Entries}
    (h : growing.Along (providerWay name) (some (.table root)) (some (.table other))) :
    growing.Along (providerWay name)
      (some (.table (mergeSource root (source.filter fun entry => p entry.1))))
      (some (.table (mergeSource other source))) := by
  induction source generalizing root other with
  | nil => exact h
  | cons first rest ih =>
    obtain ⟨hfirst, hrest⟩ := List.forall_mem_cons.mp hsource
    cases hp : p first.1 with
    | true =>
      rw [List.filter_cons, if_pos hp]
      exact ih hrest (Frame.Along.assignKey h first.1 first.2)
    | false =>
      rw [List.filter_cons, hp, if_neg Bool.false_ne_true]
      exact ih hrest (growing_assignKey hname (hfirst hp) h first.2)

/-- Without the key paths of further variables, what is written is what may have been written. -/
theorem written_filter {vars added : SortedMap String} {p : String → Bool}
    (hadded : ∀ key, p key = false ↔ ∃ var ∈ kept added, keyPath (normalizeName var.1) = key)
    (hfresh : ∀ var ∈ kept added, ∀ other ∈ kept vars,
      keyPath (normalizeName var.1) ≠ keyPath (normalizeName other.1)) {writes : Entries}
    (h : Written defaultStart (added.overlay vars) writes) :
    Written defaultStart vars (writes.filter fun entry => p entry.1) := by
  obtain ⟨hdistinct, hgiven, hkeys⟩ := collected_iff.mp (written_iff.mp h)
  -- what is there without the addition is the same with it
  have hold {var : String × String} (hstart : hasStart defaultStart var.1 = true)
      (hkey : p (keyPath (normalizeName var.1)) = true) :
      var ∈ (added.overlay vars).entries ↔ var ∈ vars.entries := by
    have hnone : added.find? var.1 = none := by
      refine Option.eq_none_iff_forall_ne_some.mpr fun value hvalue => ?_
      have hmem : (var.1, value) ∈ kept added := mem_kept.mpr ⟨mem_of_lookup hvalue, hstart⟩
      rw [(hadded _).mpr ⟨_, hmem, rfl⟩] at hkey
      cases hkey
    rw [← SortedMap.find?_eq_some_iff, ← SortedMap.find?_eq_some_iff, SortedMap.find?_overlay, hnone,
      Option.none_or]
  refine written_iff.mpr (collected_iff.mpr ⟨hdistinct.filter _, fun entry hentry => ?_,
    fun entry hentry => ?_⟩)
  · obtain ⟨hmem, hkey⟩ := List.mem_filter.mp hentry
    obtain ⟨var, hvar, hkept, hstart, rfl⟩ := mem_offered.mp (hgiven entry hmem)
    exact mem_offered.mpr ⟨var, (hold hkept hkey).mp hvar, hkept, hstart, rfl⟩
  · obtain ⟨var, hvar, hkept, hstart, rfl⟩ := mem_offered.mp hentry
    have hkey : p (keyPath (normalizeName var.1)) = true := by
      cases hp : p (keyPath (normalizeName var.1)) with
      | true => rfl
      | false =>
        obtain ⟨other, hother, heq⟩ := (hadded _).mp hp
        exact absurd heq (hfresh other hother var (mem_kept.mpr ⟨hvar, hkept⟩))
    obtain ⟨written, hmem, heq⟩ := List.mem_map.mp
      (hkeys _ (mem_offered.mpr ⟨var, (hold hkept hkey).mpr hvar, hkept, hstart, rfl⟩))
    refine List.mem_map.mpr ⟨written, List.mem_filter.mpr ⟨hmem, ?_⟩, heq⟩
    rw [heq]
    exact hkey

/-- Further variables below a provider only change the merged table on the way to it, in whatever
order all of them are written. -/
theorem growing_variables {name : String} (hname : lowercase name = name)
    {vars added : SortedMap String}
    (hbelow : ∀ var ∈ kept added, IsBelow name (keyPath (normalizeName var.1)))
    (hfresh : ∀ var ∈ kept added, ∀ other ∈ kept vars,
      keyPath (normalizeName var.1) ≠ keyPath (normalizeName other.1)) {writes : Entries}
    (h : Written defaultStart (added.overlay vars) writes) (root : Entries) :
    ∃ before, Written defaultStart vars before ∧
      growing.Along (providerWay name) (some (.table (mergeSource root before)))
        (some (.table (mergeSource root writes))) := by
  classical
  let p (key : String) : Bool := !decide (∃ var ∈ kept added, keyPath (normalizeName var.1) = key)
  have hadded (key : String) :
      p key = false ↔ ∃ var ∈ kept added, keyPath (normalizeName var.1) = key := by
    rw [Bool.not_eq_false', decide_eq_true_eq]
  refine ⟨_, written_filter hadded hfresh h,
    growing_mergeSource hname (fun entry _ hp => ?_) (growing.along_refl _ _)⟩
  obtain ⟨var, hvar, heq⟩ := (hadded entry.1).mp hp
  rw [← heq]
  exact hbelow var hvar

/-- A further document that mentions one provider only changes the merged table on the way to it. -/
theorem growing_document {name : String} {document : Entries} (hplain : PlainKeys document)
    (hconfined : Confined (providerWay name) (.table document)) (front back : List Entries) :
    growing.Along (providerWay name) (some (.table (mergeSources (front ++ back))))
      (some (.table (mergeSources (front ++ document :: back)))) := by
  have hbefore := growing_mergeEntries
    (growing.along_refl (providerWay name) (some (.table (mergeSources front)))) hconfined
  rw [mergeSources, mergeSources, List.foldl_append, List.foldl_append, List.foldl_cons]
  rw [← mergeSource_plain hplain] at hbefore
  exact hbefore.mergeSources back

/-- Sources can be read together with the one that is added. -/
theorem mapM_read_extended {files : Files} {formats : List Format} {front back : List Source}
    {source : Source} {document : Entries} (hsource : source.readIn files formats = .ok document)
    {documents : List Entries}
    (hread : (front ++ back).mapM (Source.readIn files formats) = .ok documents) :
    ∃ x y, documents = x ++ y ∧
      (front ++ source :: back).mapM (Source.readIn files formats) = .ok (x ++ document :: y) := by
  obtain ⟨x, hfront, y, hback, rfl⟩ := mapM_append_eq_ok.mp hread
  refine ⟨x, y, rfl, mapM_append_eq_ok.mpr ⟨x, hfront, document :: y, ?_, rfl⟩⟩
  rw [List.mapM_cons, hsource, hback]
  rfl

/-- Documents in any order, one of which stands behind others. -/
theorem exists_of_visited_append {front back visited : List Entries} {document : Entries}
    (h : List.Forall₂ DocumentVisited (front ++ document :: back) visited) :
    ∃ x document' y, visited = x ++ document' :: y ∧ DocumentVisited document document' ∧
      List.Forall₂ DocumentVisited (front ++ back) (x ++ y) := by
  induction front generalizing visited with
  | nil =>
    obtain ⟨document', y, hdocument, hback, rfl⟩ := List.forall₂_cons_left_iff.mp h
    exact ⟨[], document', y, rfl, hdocument, hback⟩
  | cons first front ih =>
    obtain ⟨first', rest, hfirst, hrest, rfl⟩ := List.forall₂_cons_left_iff.mp h
    obtain ⟨x, document', y, rfl, hdocument, hothers⟩ := ih hrest
    exact ⟨first' :: x, document', y, rfl, hdocument, .cons hfirst hothers⟩

/-- The tables that a run finds with the addition are those of a run without it, but for what stands
on the way to the provider. -/
theorem Extends.growing {files : Files} {name : String} {sources sources' : List Source}
    {vars vars' : SortedMap String} (hname : lowercase name = name)
    (h : Extends files name sources vars sources' vars') {formats : List Format}
    (order : formats.Perm Format.all) {documents : List Entries}
    (hread : sources.mapM (Source.readIn files formats) = .ok documents) :
    ∃ documents', sources'.mapM (Source.readIn files formats) = .ok documents' ∧
      ∀ visited' writes', List.Forall₂ DocumentVisited documents' visited' →
        Written defaultStart vars' writes' →
        ∃ visited writes, List.Forall₂ DocumentVisited documents visited ∧
          Written defaultStart vars writes ∧
          growing.Along (providerWay name) (some (.table (mergeSources (visited ++ [writes]))))
            (some (.table (mergeSources (visited' ++ [writes'])))) := by
  cases h with
  | @document front back _ source hsource =>
    obtain ⟨document, hdocument, hplain, hconfined⟩ := hsource formats order
    obtain ⟨x, y, rfl, hread'⟩ := mapM_read_extended hdocument hread
    refine ⟨_, hread', fun visited' writes' hvisits hwritten => ?_⟩
    obtain ⟨x', document', y', rfl, hvisit, hothers⟩ := exists_of_visited_append hvisits
    refine ⟨x' ++ y', writes', hothers, hwritten, ?_⟩
    rw [List.append_assoc, List.append_assoc, List.cons_append]
    exact growing_document (hvisit.plainKeys hplain) (hvisit.confined hconfined) x' _
  | environment _ _ added hbelow hfresh =>
    refine ⟨documents, hread, fun visited' writes' hvisits hwritten => ?_⟩
    obtain ⟨before, hbefore, hgrowing⟩ :=
      growing_variables hname hbelow hfresh hwritten (mergeSources visited')
    refine ⟨visited', before, hvisits, hbefore, ?_⟩
    rw [mergeSources, mergeSources, List.foldl_append, List.foldl_append]
    exact hgrowing

/-- The section of the second root is a table if anything when that of the first one is. -/
theorem growing_section {name : String} {root other : Entries}
    (h : growing.Along (providerWay name) (some (.table root)) (some (.table other)))
    (hroot : ∀ v, section? root = some v → ∃ entries, v = .table entries) :
    ∀ v, section? other = some v → ∃ entries, v = .table entries := by
  intro v hv
  have hpassing : growing.passing (section? root) (section? other) := by
    rw [section?_eq, section?_eq]
    exact h.2.2.2.2.1
  rw [hv] at hpassing
  refine Value.eq_table_of_isTable ?_
  rcases hpassing with htable | hsame
  · exact Option.some.inj htable
  · obtain ⟨w, hw, hkind⟩ := Option.map_eq_some_iff.mp hsame
    obtain ⟨entries, rfl⟩ := hroot w hw
    exact hkind.symm

section

variable {name : String} {documents others : List Entries}
  (halong : growing.Along (providerWay name) (some (.table (mergeSources documents)))
    (some (.table (mergeSources others))))

include halong

/-- An addition to one provider leaves what stands under the names of the others. -/
theorem lookup_eq_of_growing {other : String} (hother : other ≠ name) :
    List.lookup other (entriesIn (section? (mergeSources documents))) =
      List.lookup other (entriesIn (section? (mergeSources others))) := by
  rw [entriesIn, entriesIn, section?_toEntries, section?_toEntries]
  exact halong.2.2.2.2.2.1 other hother

variable (hloads : ∀ r, SectionLoadsAs (section? (mergeSources documents)) r → ∃ s, r = .ok s)

include hloads

/-- When the section with the addition loads, the section without it may load to the same providers
but for the one that is added. -/
theorem exists_sectionLoadsAs_of_growing {t : Settings}
    (ht : SectionLoadsAs (section? (mergeSources others)) (.ok t)) :
    ∃ s, SectionLoadsAs (section? (mergeSources documents)) (.ok s) ∧
      ∀ other, other ≠ name → t.provider? other = s.provider? other := by
  obtain ⟨s₀, hs₀⟩ := hloads _ (sectionLoadsAs_ofSection _)
  obtain ⟨_, p₀, hp₀, _⟩ := exists_of_sectionLoadsAs_ok (distinctKeys_section _)
    (hs₀ ▸ sectionLoadsAs_ofSection _)
  obtain ⟨_, q, hq, ht⟩ := exists_of_sectionLoadsAs_ok (distinctKeys_section _) ht
  have hname : ∀ v, List.lookup name (entriesIn (section? (mergeSources documents))) = some v →
      Provider.LoadsAs v (.ok (p₀ name)) :=
    fun v hv => hp₀ _ (mem_of_lookup hv)
  obtain ⟨s, hs, hprovider⟩ := exists_sectionLoadsAs_update (distinctKeys_section _)
    (ofSection_eq_ok.mp hs₀).1 (fun _ hother => (lookup_eq_of_growing halong hother).symm) hq hname
  refine ⟨s, hs, fun other hother => ?_⟩
  rw [ht, hprovider, lookup_eq_of_growing halong hother, Function.update_of_ne hother]

/-- When the section with the addition does not load, the fault is with the provider that is added. -/
theorem exists_fault_of_growing {e : ConfigError}
    (he : SectionLoadsAs (section? (mergeSources others)) (.error e)) :
    ∃ fault, e = .provider name (.load fault) := by
  obtain ⟨s₀, hs₀⟩ := hloads _ (sectionLoadsAs_ofSection _)
  rcases sectionLoadsAs_error_iff.mp he with hnone | hentry
  · obtain ⟨hnone, herror⟩ := hnone
    cases hfound : section? (mergeSources others) with
    | none =>
      rw [hfound] at herror
      cases herror
    | some v =>
      obtain ⟨entries, rfl⟩ := growing_section halong (ofSection_eq_ok.mp hs₀).1 v hfound
      exact absurd hfound (hnone entries)
  · obtain ⟨entry, hmem, fault, hfault, rfl⟩ := hentry
    by_cases hother : entry.1 = name
    · exact ⟨fault, by rw [hother]⟩
    · -- the value of any other provider is the one that loads without the addition
      have hvalue := lookup_eq_of_growing halong hother
      rw [lookup_of_mem (distinctKeys_section _) hmem] at hvalue
      obtain ⟨s, hs⟩ := hloads _ (sectionLoadsAs_error_iff.mpr
        (.inr ⟨_, mem_of_lookup hvalue, fault, hfault, rfl⟩))
      cases hs

end

/-- An addition that mentions one provider only leaves the others what they are, if all that loading
may come to without it are settings. With it, loading may come to settings in which the others are what
they are in settings that may come without it, or to a fault of that provider. -/
theorem load_extended_isolates {files : Files} {name : String} {sources sources' : List Source}
    {vars vars' : SortedMap String} (hname : lowercase name = name)
    (hextends : Extends files name sources vars sources' vars')
    (hloads : ∀ r, Loads files sources defaultStart vars r → ∃ s, r.value = .ok s) :
    ∀ r', Loads files sources' defaultStart vars' r' →
      (∀ t, r'.value = .ok t → ∃ r s, Loads files sources defaultStart vars r ∧ r.value = .ok s ∧
        ∀ other, other ≠ name → t.provider? other = s.provider? other) ∧
      ∀ e, r'.value = .error e → ∃ fault, e = .provider name (.load fault) := by
  intro r' hr'
  cases hr' with
  | @unread formats fault order read =>
    obtain ⟨documents, hread⟩ := exists_read_of_loads hloads order
    obtain ⟨documents', hread', _⟩ := hextends.growing hname order hread
    rw [read] at hread'
    cases hread'
  | @merged formats documents' visited' writes' loaded' order read visits written loads =>
    obtain ⟨documents, hread⟩ := exists_read_of_loads hloads order
    obtain ⟨documents'', hread', hgrowing⟩ := hextends.growing hname order hread
    obtain rfl := Except.ok.inj (read.symm.trans hread')
    obtain ⟨visited, writes, hvisits, hwritten, halong⟩ := hgrowing visited' writes' visits written
    have hrun : ∀ loaded, SectionLoadsAs (section? (mergeSources (visited ++ [writes]))) loaded →
        ∃ s, loaded = .ok s := by
      intro loaded hloaded
      obtain ⟨s, hs⟩ := hloads _ (.merged order hread hvisits hwritten hloaded)
      exact ⟨s, (value_told _ _ _).symm.trans hs⟩
    rw [value_told]
    constructor
    · rintro t rfl
      obtain ⟨s, hs, hothers⟩ := exists_sectionLoadsAs_of_growing halong hrun loads
      exact ⟨_, s, .merged order hread hvisits hwritten hs, value_told _ _ _, hothers⟩
    · rintro e rfl
      exact exists_fault_of_growing halong hrun loads

/-! ## Instances -/

/-- A text with one provider. -/
def googleSource : Source := .text "[oauth.providers.google]\nclient-id = \"g\"\n" .toml

/-- A text with another provider, which does not load. -/
def brokenSource : Source := .text "[oauth.providers.kakao.client-id]\n" .toml

/-- A variable of the other provider. -/
def kakaoVars : SortedMap String :=
  SortedMap.ofList [("OAUTH__PROVIDERS__Kakao__CLIENT_ID", "k")]

/-- What the text gives. -/
def googleFields : Entries := [("client-id", .scalar none (.text "g"))]

/-- The text of the other provider is read as its document. -/
theorem read_googleSource : googleSource.read ∅ = .ok (providerDocument "google" googleFields) :=
  eq_ok_of_areSame (by decide +kernel)

/-- Its section has that provider alone. -/
theorem section?_googleSource :
    (section? (merged [providerDocument "google" googleFields] defaultStart (SortedMap.ofList []))) =
      some (.table [("google", .table googleFields)]) :=
  eq_some_of_isSame (by decide)

/-- Loading the text alone comes to the same settings in any order. -/
theorem loads_googleSource :
    ∃ s, ∀ r, Loads ∅ [googleSource] defaultStart ∅ r → r.value = .ok s := by
  have hunordered : Unordered ∅ [googleSource] [] := by
    refine unordered_of_plain ⟨_, _, rfl⟩ read_googleSource (plainKeys_providerDocument _ _) ?_
      fun entry hentry => ?_
    · refine distinct_providerDocument "google" (by decide) (List.forall_mem_singleton.mpr ?_)
      intro inner h
      cases h
    · rw [section?_googleSource] at hentry
      obtain rfl := List.mem_singleton.mp hentry
      exact clear_of_foldsApart (by decide)
  have hseparate : Separate [] := ⟨List.forall_mem_nil _, List.Pairwise.nil⟩
  have hsome : (load ∅ [googleSource] defaultStart (SortedMap.ofList [])).value.toOption.isSome := by
    rw [load_value_eq (mapM_read_singleton read_googleSource), ofDocuments, section?_googleSource]
    decide
  obtain ⟨s, hs⟩ := Option.isSome_iff_exists.mp hsome
  have hload := eq_ok_of_toOption hs
  refine ⟨s, fun r hr => ?_⟩
  rw [(hunordered.runs_agree hseparate hr (loads_load _ _ _ _)).1 s (.inr hload)]
  exact hload

/-- The text of a provider that does not load is read as its document. -/
theorem read_brokenSource :
    brokenSource.read ∅ = .ok (providerDocument "kakao" [("client-id", .table [])]) :=
  eq_ok_of_areSame (by decide +kernel)

/-- It is an addition in front. -/
theorem extends_brokenSource :
    Extends ∅ "kakao" [googleSource] ∅ [brokenSource, googleSource] ∅ := by
  have hlower : ∀ key ∈ providerWay "kakao", lowercase key = key := by decide
  refine .document [] [googleSource] ∅ fun formats _ => ⟨_, read_brokenSource, ?_, ?_⟩
  · exact plainKeys_providerDocument _ _
  · exact confined_nest hlower [] _

/-- The variables of the provider lead below it. -/
theorem isBelow_kakaoVars : ∀ var ∈ kept kakaoVars, IsBelow "kakao" (keyPath (normalizeName var.1)) := by
  intro var hvar
  obtain rfl := List.mem_singleton.mp (mem_kept.mp hvar).1
  exact ⟨["client-id"], by decide⟩

/-- They are an addition to no variables. -/
theorem extends_kakaoVars :
    Extends ∅ "kakao" [googleSource] ∅ [googleSource] (kakaoVars.overlay ∅) := by
  refine .environment _ _ _ isBelow_kakaoVars fun _ _ other hother => ?_
  cases hother

/-- With a variable of another provider the first one stays, and with a document of the other one that
does not load, loading fails there. -/
theorem load_extended_isolates_kakao :
    ∃ s t, (∀ r, Loads ∅ [googleSource] defaultStart ∅ r → r.value = .ok s) ∧
      (load ∅ [googleSource] defaultStart (kakaoVars.overlay ∅)).value = .ok t ∧
      t.provider? "google" = s.provider? "google" ∧ t.names = ["google", "kakao"] ∧
      ∃ fault, (load ∅ [brokenSource, googleSource] defaultStart ∅).value =
        .error (.provider "kakao" (.load fault)) := by
  have hnames : (load ∅ [googleSource] defaultStart (kakaoVars.overlay ∅)).value.toOption.map
      Settings.names = some ["google", "kakao"] := by
    rw [load_value_eq (mapM_read_singleton read_googleSource)]
    decide +kernel
  have hnone : (load ∅ [brokenSource, googleSource] defaultStart ∅).value.toOption = none := by
    rw [load_value_eq (mapM_read_cons read_brokenSource (mapM_read_singleton read_googleSource))]
    decide +kernel
  obtain ⟨s, hs⟩ := loads_googleSource
  obtain ⟨t, ht, htnames⟩ := Option.map_eq_some_iff.mp hnames
  have hload : ∀ r, Loads ∅ [googleSource] defaultStart ∅ r → ∃ s, r.value = .ok s :=
    fun r hr => ⟨s, hs r hr⟩
  have hload' := eq_ok_of_toOption ht
  obtain ⟨r, s', hr, hs', hkept⟩ := (load_extended_isolates (by decide) extends_kakaoVars hload _
    (loads_load _ _ _ _)).1 t hload'
  obtain rfl := Except.ok.inj ((hs r hr).symm.trans hs')
  have hfails := (load_extended_isolates (by decide) extends_brokenSource hload _
    (loads_load _ _ _ _)).2
  refine ⟨s, t, hs, hload', hkept "google" (by decide), htnames, ?_⟩
  cases hbroken : (load ∅ [brokenSource, googleSource] defaultStart ∅).value with
  | ok u =>
    rw [hbroken] at hnone
    cases hnone
  | error e =>
    obtain ⟨fault, rfl⟩ := hfails e hbroken
    exact ⟨fault, rfl⟩

/-- A variable that puts an item into the section, and one of a provider. -/
def listedVars : SortedMap String :=
  SortedMap.ofList [("OAUTH__PROVIDERS[0]", "1"), ("OAUTH__PROVIDERS__NAVER__CLIENT_ID", "n")]

/-- What the first of them writes. -/
def itemWrite : String × Value := ("oauth.providers[0]", written "1")

/-- What the second one writes. -/
def naverWrite : String × Value := ("oauth.providers.naver.client-id", written "n")

/-- What the variable of another provider writes. -/
def kakaoWrite : String × Value := ("oauth.providers.kakao.client-id", written "k")

/-- What the variables write, in ascending order. -/
theorem offered_listedVars : offered defaultStart listedVars.entries = [itemWrite, naverWrite] :=
  Value.eq_of_areSameEntries (by decide +kernel)

/-- What they write together with that of another provider. -/
theorem offered_extended :
    offered defaultStart (kakaoVars.overlay listedVars).entries =
      [itemWrite, kakaoWrite, naverWrite] :=
  Value.eq_of_areSameEntries (by decide +kernel)

/-- The variable of the other provider is an addition. -/
theorem extends_listedVars :
    Extends ∅ "kakao" [] listedVars [] (kakaoVars.overlay listedVars) := by
  refine .environment _ _ _ isBelow_kakaoVars fun var hvar other hother => ?_
  obtain rfl := List.mem_singleton.mp (mem_kept.mp hvar).1
  rcases List.mem_cons.mp (mem_kept.mp hother).1 with rfl | hnaver
  · decide
  · rw [List.mem_singleton.mp hnaver]
    decide

/-- Variables alone may load to what the section of their writes comes to, in any order. -/
theorem loads_of_writes {vars : SortedMap String} {writes : Entries}
    (hdistinct : DistinctKeys (offered defaultStart vars.entries))
    (hperm : writes.Perm (offered defaultStart vars.entries)) :
    ∃ r, Loads ∅ [] defaultStart vars r ∧
      r.value = ofSection (section? (mergeSources [writes])) :=
  ⟨_, loads_visited rfl .nil (written_of_perm hdistinct hperm) (sectionLoadsAs_ofSection _),
    value_told _ _ _⟩

/-- When the section of their writes loads to some names in one order, so may the variables. -/
theorem exists_loads_names {vars : SortedMap String} {writes : Entries} {names : List String}
    (hdistinct : DistinctKeys (offered defaultStart vars.entries))
    (hperm : writes.Perm (offered defaultStart vars.entries))
    (hnames : (ofSection (section? (mergeSources [writes]))).toOption.map Settings.names =
      some names) :
    ∃ r s, Loads ∅ [] defaultStart vars r ∧ r.value = .ok s ∧ s.names = names := by
  obtain ⟨r, hr, hvalue⟩ := loads_of_writes hdistinct hperm
  obtain ⟨s, hs, hnames⟩ := Option.map_eq_some_iff.mp hnames
  exact ⟨r, s, hr, hvalue.trans (eq_ok_of_toOption hs), hnames⟩

/-- Variables beside a text with two keys that are one are an addition, too. -/
theorem extends_kakaoPair :
    Extends ∅ "kakao" [casesSource] ∅ [casesSource] ((SortedMap.ofList kakaoPair).overlay ∅) := by
  refine .environment _ _ _ (fun var hvar => ?_) fun _ _ other hother => ?_
  · have hkept : kept (SortedMap.ofList kakaoPair) =
        [("OAUTH__PROVIDERS__KAKAO__CLIENT_ID", "k"), ("OAUTH__PROVIDERS__KAKAO__CLIENT_SECRET", "s")] := by
      decide
    rw [hkept] at hvar
    rcases List.mem_cons.mp hvar with rfl | hsecret
    · exact ⟨["client-id"], by decide⟩
    · rw [List.mem_singleton.mp hsecret]
      exact ⟨["client-secret"], by decide⟩
  · cases hother

/-- Without variables, the text with two keys that are one loads. -/
theorem clientId_casesSource :
    ∃ s, (load ∅ [casesSource] defaultStart ∅).value = .ok s ∧
      (s.provider? "naver").bind (·.clientId) = some "a" := by
  have hsection : section? (merged [providerDocument "naver" casesFields] defaultStart ∅) =
      some (.table [("naver", .table (clientFields "a"))]) :=
    eq_some_of_isSame (by decide)
  have hclient : (ofSection (some (.table [("naver", .table (clientFields "a"))]))).toOption.map
      (fun s => (s.provider? "naver").bind (·.clientId)) = some (some "a") := by
    decide
  rw [← hsection] at hclient
  obtain ⟨s, hs, hclient⟩ := Option.map_eq_some_iff.mp hclient
  refine ⟨s, ?_, hclient⟩
  rw [load_value_eq (mapM_read_singleton read_casesSource)]
  exact eq_ok_of_toOption hs

/-- An order may show in the others when something is added. An item that a variable puts there may take
the place of the other providers or make way for them, and of two keys that are one either one may
win. -/
theorem load_extended_may_show_in_others :
    (Extends ∅ "kakao" [] listedVars [] (kakaoVars.overlay listedVars) ∧
      (∃ r s, Loads ∅ [] defaultStart listedVars r ∧ r.value = .ok s ∧ s.names = ["naver"]) ∧
      (∃ r t, Loads ∅ [] defaultStart (kakaoVars.overlay listedVars) r ∧ r.value = .ok t ∧
        t.names = ["kakao"]) ∧
      ∃ r fault, Loads ∅ [] defaultStart (kakaoVars.overlay listedVars) r ∧
        r.value = .error (.load fault)) ∧
    Extends ∅ "kakao" [casesSource] ∅ [casesSource] ((SortedMap.ofList kakaoPair).overlay ∅) ∧
      ∃ r s r' t, Loads ∅ [casesSource] defaultStart ∅ r ∧ r.value = .ok s ∧
        Loads ∅ [casesSource] defaultStart ((SortedMap.ofList kakaoPair).overlay ∅) r' ∧
        r'.value = .ok t ∧ t.provider? "naver" ≠ s.provider? "naver" := by
  have hdistinct : DistinctKeys (offered defaultStart listedVars.entries) := by
    rw [offered_listedVars]
    decide
  have hdistinct' : DistinctKeys (offered defaultStart (kakaoVars.overlay listedVars).entries) := by
    rw [offered_extended]
    decide
  refine ⟨⟨extends_listedVars, ?_, ?_, ?_⟩, extends_kakaoPair, ?_⟩
  · have horder : [itemWrite, naverWrite].Perm (offered defaultStart listedVars.entries) := by
      rw [offered_listedVars]
    have hnames : (ofSection (section? (mergeSources [[itemWrite, naverWrite]]))).toOption.map
        Settings.names = some ["naver"] := by
      decide +kernel
    exact exists_loads_names hdistinct horder hnames
  · have horder : [naverWrite, itemWrite, kakaoWrite].Perm
        (offered defaultStart (kakaoVars.overlay listedVars).entries) := by
      rw [offered_extended]
      exact (List.perm_append_comm :
        ([naverWrite] ++ [itemWrite, kakaoWrite]).Perm ([itemWrite, kakaoWrite] ++ [naverWrite]))
    have hnames : (ofSection (section? (mergeSources
        [[naverWrite, itemWrite, kakaoWrite]]))).toOption.map Settings.names = some ["kakao"] := by
      decide +kernel
    exact exists_loads_names hdistinct' horder hnames
  · have horder : [naverWrite, kakaoWrite, itemWrite].Perm
        (offered defaultStart (kakaoVars.overlay listedVars).entries) := by
      rw [offered_extended]
      exact List.reverse_perm [itemWrite, kakaoWrite, naverWrite]
    obtain ⟨r, hr, hvalue⟩ := loads_of_writes hdistinct' horder
    have hsection : section? (mergeSources [[naverWrite, kakaoWrite, itemWrite]]) =
        some (.list none [written "1"]) :=
      eq_some_of_isSame (by decide +kernel)
    rw [hsection] at hvalue
    exact ⟨r, _, hr, hvalue⟩
  · obtain ⟨s, hs, hclient⟩ := clientId_casesSource
    obtain ⟨r', t, hr', ht, hclient'⟩ := exists_loads_casesSource (.swap _ _ _)
      (rfl : _ = providerDocument "naver" (clientFields "b")) (by decide) (written_source _ _)
    rw [← SortedMap.overlay_empty (SortedMap.ofList kakaoPair)] at hr'
    refine ⟨_, s, r', t, loads_load _ _ _ _, hs, hr', ht, fun heq => ?_⟩
    rw [heq, hclient] at hclient'
    revert hclient'
    decide

end GrantConfig.Settings
