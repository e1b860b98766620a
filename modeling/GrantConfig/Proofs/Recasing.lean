import GrantConfig.Proofs.LetterCase
import GrantConfig.Proofs.Verbatim
import GrantConfig.Proofs.VisitingOrder

/-!
# Letter case that does not matter, and letter case that does

Keys of documents and names of variables may be written in any letter case, and in the part of a
variable that names a field hyphens may stand for underscores: what loading may come to is the same. A
document has its entries in another order then, and that is one of the orders in which it may be gone
through anyway. The texts that load are those that have been given, letter by letter.

All this is about keys as they are read. A format may read a key in another letter case as something
that is no text.
-/

namespace GrantConfig.Layer

open Unicode

/-! ## Keys in another letter case -/

mutual

/-- A value with the ASCII letters of its keys in lowercase, on all levels outside lists. -/
def Value.folded : Value → Value
  | .scalar origin s => .scalar origin s
  | .list origin items => .list origin items
  | .table entries => .table (entriesFolded entries)

/-- Entries with the ASCII letters of their keys in lowercase, and so on below. -/
def entriesFolded : Entries → Entries
  | [] => []
  | (key, v) :: rest => (lowerLetters key, v.folded) :: entriesFolded rest

end

mutual

/-- A value writes the same with its keys in lowercase. -/
theorem writes_folded : ∀ v : Value, v.folded.writes = v.writes
  | .scalar origin s => by rw [Value.folded]
  | .list origin items => by rw [Value.folded]
  | .table entries => by rw [Value.folded, Value.writes, Value.writes, entriesWrites_folded entries]

/-- So do entries. -/
theorem entriesWrites_folded :
    ∀ entries : Entries, entriesWrites (entriesFolded entries) = entriesWrites entries
  | [] => by rw [entriesFolded]
  | (key, v) :: rest => by
    rw [entriesFolded, entriesWrites, entriesWrites, writes_folded v, entriesWrites_folded rest,
      lowercase_lowerLetters]

end

/-- A step leads the same way in any letter case. -/
theorem lower_lowerStep (step : Step) : (KeyPath.lowerStep step).lower = step.lower := by
  cases step with
  | field name => rw [KeyPath.lowerStep, Step.lower, lowercase_lowerLetters, Step.lower]
  | position n => rfl

/-- A key leads the same way in any letter case. -/
theorem wayOf_lowerLetters (key : String) : wayOf (lowerLetters key) = wayOf key := by
  rw [wayOf, wayOf, KeyPath.ofKey_lowerLetters]
  simp only [List.map_cons, List.map_map, Step.lower, lowercase_lowerLetters]
  congr 2
  funext step
  exact lower_lowerStep step

/-- An entry of a document with the letters of its keys in lowercase. What is put into a list keeps
its keys. -/
def entryFolded (entry : String × Value) : String × Value :=
  (lowerLetters entry.1, if endsInList (wayOf entry.1) then entry.2 else entry.2.folded)

/-- A document with the letters of its keys outside lists in lowercase. -/
def documentFolded (document : Entries) : Entries := document.map entryFolded

/-- An entry of a document writes the same with its keys in lowercase. -/
theorem entryWrites_folded (entry : String × Value) :
    entryWrites (entryFolded entry) = entryWrites entry := by
  rw [entryWrites, entryWrites, entryFolded, wayOf_lowerLetters]
  by_cases h : endsInList (wayOf entry.1) = true
  · simp only [if_pos h]
  · simp only [if_neg h, writes_folded]

/-- So does a document. -/
theorem documentWrites_folded (document : Entries) :
    documentWrites (documentFolded document) = documentWrites document := by
  rw [documentWrites, documentFolded, List.flatMap_map]
  simp only [entryWrites_folded, documentWrites]

/-- Documents whose lowercase keys are the same write the same, in the same order. -/
theorem mergeSource_eq_of_folded {document other : Entries}
    (h : documentFolded document = documentFolded other) (root : Entries) :
    mergeSource root document = mergeSource root other := by
  have hwrites : documentWrites document = documentWrites other := by
    rw [← documentWrites_folded document, h, documentWrites_folded]
  have hsame := writeAll_documentWrites root document
  rw [hwrites, writeAll_documentWrites] at hsame
  exact (Value.table.inj (Option.some.inj hsame)).symm

/-! ## Orders of documents that differ in letter case -/

/-- Two lists that a function takes to the same list may be rearranged in the same way. -/
theorem exists_perm_of_map_eq {α β : Type} {f : α → β} {xs ys zs : List α}
    (h : xs.map f = ys.map f) (hperm : ys.Perm zs) : ∃ ws, xs.Perm ws ∧ ws.map f = zs.map f := by
  have hpairs : List.Forall₂ (fun y x => f y = f x) ys xs := by
    rw [← List.forall₂_map_right_iff, ← List.forall₂_map_left_iff, List.forall₂_eq_eq_eq]
    exact h.symm
  obtain ⟨ws, hws, horder⟩ := List.perm_comp_forall₂ hperm.symm hpairs
  rw [← List.forall₂_map_right_iff, ← List.forall₂_map_left_iff, List.forall₂_eq_eq_eq] at hws
  exact ⟨ws, horder.symm, hws.symm⟩

/-- Keys are brought to lowercase entry by entry. -/
theorem entriesFolded_eq_map (entries : Entries) :
    entriesFolded entries = entries.map fun entry => (lowerLetters entry.1, entry.2.folded) := by
  induction entries with
  | nil => rw [entriesFolded, List.map_nil]
  | cons entry rest ih => rw [entriesFolded, ih, List.map_cons]

mutual

/-- What another value has in any order, a value with the same keys in lowercase has in the same
order. -/
theorem Value.Visited.exists_folded : ∀ {v w : Value}, v.Visited w → ∀ {x : Value},
    x.folded = v.folded → ∃ y, x.Visited y ∧ y.folded = w.folded
  | _, _, .same v, x, h => ⟨x, .same x, h⟩
  | _, _, .table below order, x, h => by
    cases x with
    | scalar | list =>
      simp only [Value.folded] at h
      cases h
    | table others =>
      simp only [Value.folded, Value.table.injEq] at h
      obtain ⟨between, hbelow, hbetween⟩ := below.exists_folded h
      rw [entriesFolded_eq_map, entriesFolded_eq_map] at hbetween
      obtain ⟨visited, horder, hvisited⟩ := exists_perm_of_map_eq hbetween order
      refine ⟨.table visited, .table hbelow horder, ?_⟩
      rw [Value.folded, Value.folded, entriesFolded_eq_map, entriesFolded_eq_map, hvisited]

/-- So it is for entries. -/
theorem EntriesVisited.exists_folded : ∀ {entries visited : Entries}, EntriesVisited entries visited →
    ∀ {others : Entries}, entriesFolded others = entriesFolded entries →
      ∃ visited', EntriesVisited others visited' ∧ entriesFolded visited' = entriesFolded visited
  | _, _, .nil, others, h => by
    cases others with
    | nil => exact ⟨[], .nil, rfl⟩
    | cons other more =>
      rw [entriesFolded, entriesFolded] at h
      cases h
  | _, _, .cons key first rest, others, h => by
    cases others with
    | nil =>
      rw [entriesFolded, entriesFolded] at h
      cases h
    | cons other more =>
      obtain ⟨key', v⟩ := other
      simp only [entriesFolded, List.cons.injEq, Prod.mk.injEq] at h
      obtain ⟨⟨hkey, hvalue⟩, hrest⟩ := h
      obtain ⟨w, hfirst, hw⟩ := first.exists_folded hvalue
      obtain ⟨visited, hothers, hvisited⟩ := rest.exists_folded hrest
      refine ⟨(key', w) :: visited, .cons key' hfirst hothers, ?_⟩
      rw [entriesFolded, entriesFolded, hkey, hw, hvisited]

end

/-- An entry of a document that has the same keys in lowercase may be gone through in the same
order. -/
theorem EntryVisited.exists_folded {entry visited other : String × Value}
    (h : EntryVisited entry visited) (hsame : entryFolded other = entryFolded entry) :
    ∃ visited', EntryVisited other visited' ∧ entryFolded visited' = entryFolded visited := by
  obtain ⟨key, v⟩ := entry
  obtain ⟨_, w⟩ := visited
  obtain ⟨key', x⟩ := other
  obtain rfl : key = _ := h.key
  simp only [entryFolded, Prod.mk.injEq] at hsame
  obtain ⟨hkey, hvalue⟩ := hsame
  have hway : wayOf key' = wayOf key := by
    rw [← wayOf_lowerLetters key', hkey, wayOf_lowerLetters]
  rw [hway] at hvalue
  by_cases hlist : endsInList (wayOf key) = true
  · obtain rfl : v = w := h.inList ((endsInList_wayOf key).symm.trans hlist)
    rw [if_pos hlist, if_pos hlist] at hvalue
    rw [hvalue]
    refine ⟨(key', v), .refl _, ?_⟩
    simp only [entryFolded, hkey, hway]
  · rw [if_neg hlist, if_neg hlist] at hvalue
    obtain ⟨y, hy, hsame⟩ := h.value.exists_folded hvalue
    refine ⟨(key', y), ⟨rfl, hy, fun hends => absurd ?_ hlist⟩, ?_⟩
    · rwa [← hway, endsInList_wayOf]
    · simp only [entryFolded, hkey, hway, if_neg hlist, hsame]

/-- A document that has the same keys in lowercase may be gone through in the same order. -/
theorem DocumentVisited.exists_folded {document visited other : Entries}
    (h : DocumentVisited document visited) (hsame : documentFolded other = documentFolded document) :
    ∃ visited', DocumentVisited other visited' ∧ documentFolded visited' = documentFolded visited := by
  obtain ⟨between, hpairs, horder⟩ := h
  have hbetween : ∃ between', List.Forall₂ EntryVisited other between' ∧
      documentFolded between' = documentFolded between := by
    clear horder
    induction hpairs generalizing other with
    | nil =>
      obtain rfl := List.map_eq_nil_iff.mp hsame
      exact ⟨[], .nil, rfl⟩
    | cons hfirst _ ih =>
      obtain ⟨entry, rest, rfl, hentry, hrest⟩ := List.map_eq_cons_iff.mp hsame
      obtain ⟨first, hvisit, hfolded⟩ := hfirst.exists_folded hentry
      obtain ⟨more, hvisits, hmore⟩ := ih hrest
      refine ⟨first :: more, .cons hvisit hvisits, ?_⟩
      rw [documentFolded, documentFolded, List.map_cons, List.map_cons, hfolded]
      exact congrArg _ hmore
  obtain ⟨between', hpairs', hbetween⟩ := hbetween
  obtain ⟨visited', horder', hvisited⟩ := exists_perm_of_map_eq hbetween horder
  exact ⟨visited', ⟨between', hpairs', horder'⟩, hvisited⟩

/-- Documents with the same keys up to letter case: in some order of its entries, the first one has the
keys of the second one in lowercase. -/
def DocumentRecased (document other : Entries) : Prop :=
  ∃ visited, DocumentVisited document visited ∧ documentFolded visited = documentFolded other

/-- Letter case may be changed back. -/
theorem DocumentRecased.symm {document other : Entries} (h : DocumentRecased document other) :
    DocumentRecased other document := by
  obtain ⟨visited, hvisit, hsame⟩ := h
  exact hvisit.symm.exists_folded hsame.symm

/-- In whatever order a document is gone through, in another letter case it may be gone through in an
order in which it is merged alike. -/
theorem DocumentRecased.exists_visited {document other visited : Entries}
    (h : DocumentRecased document other) (hvisit : DocumentVisited document visited) :
    ∃ visited', DocumentVisited other visited' ∧
      ∀ root, mergeSource root visited = mergeSource root visited' := by
  obtain ⟨first, hfirst, hsame⟩ := h
  obtain ⟨visited', hvisit', hvisited⟩ := (hfirst.symm.trans hvisit).exists_folded hsame.symm
  exact ⟨visited', hvisit', mergeSource_eq_of_folded hvisited.symm⟩

end GrantConfig.Layer

namespace GrantConfig.Layer.Environment

open Unicode Settings

/-! ## Names of variables in another spelling -/

/-- Names of variables that differ in the case of ASCII letters, and in hyphens for underscores
within the part that names a field. -/
def Respelled (name other : String) : Prop :=
  ∃ between, SameLetters name between ∧ AlikeButField between other

/-- A variable belongs to a prefix in any spelling. -/
theorem Respelled.hasStart_eq {name other start : String} (h : Respelled name other)
    (hstart : hasPair '_' start.toList = false) : hasStart start name = hasStart start other := by
  obtain ⟨between, hletters, halike⟩ := h
  rw [← hasStart_normalizeName_eq hstart other, ← normalizeName_eq_iff.mpr halike,
    hasStart_normalizeName_eq hstart, ← hasStart_lowerLetters, hletters, hasStart_lowerLetters]

/-- A variable has the same key path in any spelling. -/
theorem Respelled.keyPath_eq {name other : String} (h : Respelled name other) :
    keyPath (normalizeName name) = keyPath (normalizeName other) := by
  obtain ⟨between, hletters, halike⟩ := h
  rw [← normalizeName_eq_iff.mpr halike, ← keyPath_lowerLetters, ← normalizeName_lowerLetters,
    hletters, normalizeName_lowerLetters, keyPath_lowerLetters]

/-- Variables with the same values under names in another spelling. -/
def VariablesRespelled (vars others : SortedMap String) : Prop :=
  ∃ between, List.Forall₂ (fun var other => Respelled var.1 other.1 ∧ var.2 = other.2)
    vars.entries between ∧ between.Perm others.entries

/-- Variables in another spelling offer the same. -/
theorem offered_of_respelled {vars others : List (String × String)}
    (h : List.Forall₂ (fun var other => Respelled var.1 other.1 ∧ var.2 = other.2) vars others) :
    offered defaultStart vars = offered defaultStart others := by
  have hstart : hasPair '_' defaultStart.toList = false := by decide
  have hkept {name other : String} (hname : Respelled name other) :
      (hasStart defaultStart name && hasStart defaultStart (normalizeName name)) =
        (hasStart defaultStart other && hasStart defaultStart (normalizeName other)) := by
    rw [hasStart_normalizeName_eq hstart, hasStart_normalizeName_eq hstart, hname.hasStart_eq hstart]
  induction h with
  | nil => rfl
  | @cons var other rest more hfirst _ ih =>
    obtain ⟨hname, hvalue⟩ := hfirst
    simp only [offered, List.filter_cons, hkept hname] at ih ⊢
    split
    · rw [List.map_cons, List.map_cons, hname.keyPath_eq, hvalue, ih]
    · exact ih

/-- So they may write the same, in the same orders. -/
theorem VariablesRespelled.written_iff {vars others : SortedMap String}
    (h : VariablesRespelled vars others) (writes : Entries) :
    Written defaultStart vars writes ↔ Written defaultStart others writes := by
  obtain ⟨between, hpairs, hperm⟩ := h
  have hoffered : (offered defaultStart vars.entries).Perm (offered defaultStart others.entries) := by
    rw [offered_of_respelled hpairs]
    exact (hperm.filter _).map _
  rw [Environment.written_iff, Environment.written_iff]
  constructor
  · rintro ⟨order, horder, hwrites⟩
    exact ⟨order, horder.trans hoffered, hwrites⟩
  · rintro ⟨order, horder, hwrites⟩
    exact ⟨order, horder.trans hoffered.symm, hwrites⟩

end GrantConfig.Layer.Environment

namespace GrantConfig.Settings

open Layer Environment Unicode

/-! ## Loading -/

/-- What is read twice: the same fault, or documents with the same keys up to letter case. -/
inductive ReadAlike : Except Fault Entries → Except Fault Entries → Prop
  | fault (fault : Fault) : ReadAlike (.error fault) (.error fault)
  | document {document other : Entries} (h : DocumentRecased document other) :
      ReadAlike (.ok document) (.ok other)

/-- What is read alike is so the other way round. -/
theorem ReadAlike.symm {first second : Except Fault Entries} (h : ReadAlike first second) :
    ReadAlike second first := by
  cases h with
  | fault fault => exact .fault fault
  | document h => exact .document h.symm

/-- Sources whose documents have the same keys up to letter case. -/
structure SourceRecased (files files' : Files) (source other : Source) : Prop where
  line : source.line? = other.line?
  read : ∀ formats, formats.Perm Format.all →
    ReadAlike (source.readIn files formats) (other.readIn files' formats)

/-- Sources differ in letter case the other way round as well. -/
theorem SourceRecased.symm {files files' : Files} {source other : Source}
    (h : SourceRecased files files' source other) : SourceRecased files' files other source where
  line := h.line.symm
  read := fun formats order => (h.read formats order).symm

section

variable {files files' : Files} {sources others : List Source}
  (h : List.Forall₂ (SourceRecased files files') sources others)

include h

/-- Such sources are told of in the same lines. -/
theorem filterMap_line?_congr :
    sources.filterMap Source.line? = others.filterMap Source.line? := by
  induction h with
  | nil => rfl
  | cons hfirst _ ih => rw [List.filterMap_cons, List.filterMap_cons, hfirst.line, ih]

/-- Sources are all read, or the first that cannot be read is at the same place. -/
theorem mapM_read_alike {formats : List Format} (order : formats.Perm Format.all) :
    (∃ documents documents', sources.mapM (Source.readIn files formats) = .ok documents ∧
      others.mapM (Source.readIn files' formats) = .ok documents' ∧
        List.Forall₂ DocumentRecased documents documents') ∨
      ∃ fault, sources.mapM (Source.readIn files formats) = .error fault ∧
        others.mapM (Source.readIn files' formats) = .error fault := by
  induction h with
  | nil => exact .inl ⟨[], [], rfl, rfl, .nil⟩
  | @cons source other _ _ hfirst _ ih =>
    have hread := hfirst.read formats order
    rw [List.mapM_cons, List.mapM_cons]
    generalize source.readIn files formats = first at hread
    generalize other.readIn files' formats = first' at hread
    cases hread with
    | fault fault => exact .inr ⟨fault, rfl, rfl⟩
    | @document document document' hdocument =>
      rcases ih with hok | herror
      · obtain ⟨documents, documents', hread, hread', hdocuments⟩ := hok
        rw [hread, hread']
        exact .inl ⟨document :: documents, document' :: documents', rfl, rfl,
          .cons hdocument hdocuments⟩
      · obtain ⟨fault, hread, hread'⟩ := herror
        rw [hread, hread']
        exact .inr ⟨fault, rfl, rfl⟩

end

/-- In whatever order documents are gone through, in another letter case they may be gone through so
that they are merged alike. -/
theorem exists_visited_recased {documents others visited : List Entries}
    (h : List.Forall₂ DocumentRecased documents others)
    (hvisits : List.Forall₂ DocumentVisited documents visited) :
    ∃ visited', List.Forall₂ DocumentVisited others visited' ∧
      ∀ root, visited.foldl mergeSource root = visited'.foldl mergeSource root := by
  induction h generalizing visited with
  | nil =>
    cases hvisits
    exact ⟨[], .nil, fun _ => rfl⟩
  | cons hfirst _ ih =>
    cases hvisits with
    | cons hvisit hmore =>
      obtain ⟨first, hfirst', hsame⟩ := hfirst.exists_visited hvisit
      obtain ⟨rest, hrest, hmerged⟩ := ih hmore
      refine ⟨first :: rest, .cons hfirst' hrest, fun root => ?_⟩
      rw [List.foldl_cons, List.foldl_cons, hsame, hmerged]

/-- A run is a run over the same sources in another letter case as well. -/
theorem Loads.recased {files files' : Files} {sources others : List Source}
    (hsources : List.Forall₂ (SourceRecased files files') sources others)
    {vars vars' : SortedMap String}
    (hvars : ∀ writes, Written defaultStart vars writes → Written defaultStart vars' writes)
    {r : Logged (Except ConfigError Settings)} (h : Loads files sources defaultStart vars r) :
    Loads files' others defaultStart vars' r := by
  have hlines := told_congr (filterMap_line?_congr hsources)
  cases h with
  | @unread formats fault order read =>
    rw [hlines]
    rcases mapM_read_alike hsources order with hok | herror
    · obtain ⟨documents, _, hread, _⟩ := hok
      rw [hread] at read
      cases read
    · obtain ⟨fault', hread, hread'⟩ := herror
      rw [hread] at read
      cases read
      exact .unread order hread'
  | @merged formats documents visited writes r order read visits written loads =>
    rw [hlines]
    rcases mapM_read_alike hsources order with hok | herror
    · obtain ⟨documents', others', hread, hread', hdocuments⟩ := hok
      obtain rfl := Except.ok.inj (hread.symm.trans read)
      obtain ⟨visited', hvisits, hmerged⟩ := exists_visited_recased hdocuments visits
      have hsame : mergeSources (visited ++ [writes]) = mergeSources (visited' ++ [writes]) := by
        rw [mergeSources, mergeSources, List.foldl_append, List.foldl_append, hmerged]
      rw [hsame] at loads ⊢
      exact .merged order hread' hvisits (hvars writes written) loads
    · obtain ⟨fault, hread, _⟩ := herror
      rw [hread] at read
      cases read

/-- Letter case of keys and of variables' names does not matter, nor do hyphens for underscores in the
part of a variable that names a field: loading may come to the same. The texts that load are those that
are given, letter by letter. -/
theorem load_recased {files files' : Files} {sources others : List Source}
    {vars vars' : SortedMap String}
    (hsources : List.Forall₂ (SourceRecased files files') sources others)
    (hvars : VariablesRespelled vars vars') :
    (∀ r, Loads files sources defaultStart vars r ↔ Loads files' others defaultStart vars' r) ∧
      ∀ r s, Loads files sources defaultStart vars r → r.value = .ok s →
        ∀ name p, s.provider? name = some p → ∀ field : Provider.Field,
          field.Keeps (Given files sources vars) (p.get field) := by
  refine ⟨fun r => ⟨fun h => ?_, fun h => ?_⟩, fun r s h hs name p hp field => ?_⟩
  · exact h.recased hsources fun writes => (hvars.written_iff writes).mp
  · exact h.recased (hsources.flip.imp fun _ _ hsource => hsource.symm)
      fun writes => (hvars.written_iff writes).mpr
  · exact keeps_loads h hs hp field

/-! ## Instances -/

/-- A document of one provider. -/
def capitalText : Source :=
  .text ("\x7b\"oauth\":\x7b\"Providers\":\x7b\"Kakao\":\x7b\"client_id\":\"AbC\"," ++
    "\"Scopes\":[\"Profile\"]\x7d\x7d\x7d\x7d") .json

/-- The same with other letter case in all keys. -/
def smallText : Source :=
  .text ("\x7b\"OAuth\":\x7b\"providers\":\x7b\"kakao\":\x7b\"CLIENT_ID\":\"AbC\"," ++
    "\"scopes\":[\"Profile\"]\x7d\x7d\x7d\x7d") .json

/-- A document with a key that is a path to a field of the provider. -/
def capitalPath : Source :=
  .text "\"OAuth.Providers.KAKAO.redirect-uri\" = \"https://Host/Cb\"\n" .toml

/-- The same path in another letter case. -/
def smallPath : Source :=
  .text "\"oauth.providers.Kakao.Redirect-URI\" = \"https://Host/Cb\"\n" .toml

/-- The document of a single provider under keys in any letter case. -/
def spelledDocument (root providers name : String) (fields : Entries) : Entries :=
  [(root, nest [providers, name] (.table fields))]

/-- The fields of the provider in the first document. -/
def capitalFields : Entries :=
  [("Scopes", .list none [.scalar none (.text "Profile")]), ("client_id", .scalar none (.text "AbC"))]

/-- The same in another letter case, which changes their order. -/
def smallFields : Entries :=
  [("CLIENT_ID", .scalar none (.text "AbC")), ("scopes", .list none [.scalar none (.text "Profile")])]

/-- A variable of the provider. -/
def capitalVars : SortedMap String :=
  (∅ : SortedMap String).insert "oauth__Providers__kakao__CLIENT_SECRET" "S"

/-- The same variable in another spelling. -/
def smallVars : SortedMap String :=
  (∅ : SortedMap String).insert "OAUTH__providers__KAKAO__client-secret" "S"

/-- The fields of the example may be gone through the other way round. -/
theorem visited_fields :
    DocumentVisited (spelledDocument "oauth" "Providers" "Kakao" capitalFields)
      (spelledDocument "oauth" "Providers" "Kakao" capitalFields.reverse) := by
  have hfields : (Value.table capitalFields).Visited (.table capitalFields.reverse) :=
    .table (.refl _) (List.reverse_perm _).symm
  have hlist : endsInList (KeyPath.ofKey "oauth").steps ≠ true := by decide
  refine ⟨spelledDocument "oauth" "Providers" "Kakao" capitalFields.reverse,
    .cons ⟨rfl, ?_, fun h => absurd h hlist⟩ .nil, List.Perm.refl _⟩
  exact .table (.cons _ (.table (.cons _ hfields .nil) (List.Perm.refl _)) .nil) (List.Perm.refl _)

/-- The documents of the two texts differ in letter case only. -/
theorem recased_fields : DocumentRecased (spelledDocument "oauth" "Providers" "Kakao" capitalFields)
    (spelledDocument "OAuth" "providers" "kakao" smallFields) := by
  have hletters : lowerLetters "Scopes" = "scopes" ∧ lowerLetters "scopes" = "scopes" ∧
      lowerLetters "CLIENT_ID" = "client_id" ∧ lowerLetters "client_id" = "client_id" := by
    decide
  have hkeys : lowerLetters "oauth" = lowerLetters "OAuth" ∧
      lowerLetters "Providers" = lowerLetters "providers" ∧
        lowerLetters "Kakao" = lowerLetters "kakao" := by
    decide
  have hplain : endsInList (wayOf "oauth") = false ∧ endsInList (wayOf "OAuth") = false := by decide
  refine ⟨_, visited_fields, ?_⟩
  simp only [spelledDocument, documentFolded, entryFolded, nest, hplain, hkeys, hletters, capitalFields,
    smallFields, List.reverse_cons, List.reverse_nil, List.nil_append, List.cons_append, List.map_cons,
    List.map_nil, Bool.false_eq_true, if_false, Value.folded, entriesFolded]

/-- A key that is a path leads the same way in any letter case. -/
theorem recased_path :
    DocumentRecased [("OAuth.Providers.KAKAO.redirect-uri", .scalar none (.text "https://Host/Cb"))]
      [("oauth.providers.Kakao.Redirect-URI", .scalar none (.text "https://Host/Cb"))] := by
  have hkeys : lowerLetters "OAuth.Providers.KAKAO.redirect-uri" =
      lowerLetters "oauth.providers.Kakao.Redirect-URI" := by
    decide
  refine ⟨_, .refl _, ?_⟩
  simp only [documentFolded, entryFolded, hkeys, Value.folded, ite_self, List.map_cons, List.map_nil]

/-- The sources with capital letters are read as their documents. -/
theorem read_capital :
    capitalText.read ∅ = .ok (spelledDocument "oauth" "Providers" "Kakao" capitalFields) ∧
      capitalPath.read ∅ =
        .ok [("OAuth.Providers.KAKAO.redirect-uri", .scalar none (.text "https://Host/Cb"))] :=
  ⟨eq_ok_of_areSame (by decide +kernel), eq_ok_of_areSame (by decide +kernel)⟩

/-- The sources of the example differ in the letter case of their keys only. -/
theorem recased_sources :
    List.Forall₂ (SourceRecased ∅ ∅) [capitalText, capitalPath] [smallText, smallPath] := by
  have hsmall : smallText.read ∅ =
      .ok (spelledDocument "OAuth" "providers" "kakao" smallFields) :=
    eq_ok_of_areSame (by decide +kernel)
  have hpath : smallPath.read ∅ =
      .ok [("oauth.providers.Kakao.Redirect-URI", .scalar none (.text "https://Host/Cb"))] :=
    eq_ok_of_areSame (by decide +kernel)
  refine .cons ⟨rfl, fun formats _ => ?_⟩ (.cons ⟨rfl, fun formats _ => ?_⟩ .nil)
  · have halike : ReadAlike (capitalText.read ∅) (smallText.read ∅) := by
      rw [read_capital.1, hsmall]
      exact .document recased_fields
    exact halike
  · have halike : ReadAlike (capitalPath.read ∅) (smallPath.read ∅) := by
      rw [read_capital.2, hpath]
      exact .document recased_path
    exact halike

/-- The variables of the example differ in spelling only. -/
theorem respelled_vars : VariablesRespelled capitalVars smallVars := by
  have hname : Respelled "oauth__Providers__kakao__CLIENT_SECRET"
      "OAUTH__providers__KAKAO__client-secret" := by
    refine ⟨"OAUTH__providers__KAKAO__client_secret", ?_, normalizeName_eq_iff.mp (by decide)⟩
    rw [SameLetters]
    decide
  exact ⟨smallVars.entries, .cons ⟨hname, rfl⟩ .nil, List.Perm.refl _⟩

/-- What the two spellings load to: the texts as they are given, under the name in lowercase. -/
theorem load_recased_kakao :
    ∃ r s p, Loads ∅ [capitalText, capitalPath] defaultStart capitalVars r ∧
      Loads ∅ [smallText, smallPath] defaultStart smallVars r ∧ r.value = .ok s ∧
      s.provider? "kakao" = some p ∧ p.clientId = some "AbC" ∧ p.clientSecret = some "S" ∧
      p.redirectUri = some "https://Host/Cb" ∧ p.scopes = ["Profile"] ∧
      Given ∅ [capitalText, capitalPath] capitalVars "AbC" := by
  have hloads : (load ∅ [capitalText, capitalPath] defaultStart capitalVars).value.toOption.bind
      (fun s => (s.provider? "kakao").map fun p =>
        (p.clientId, p.clientSecret, p.redirectUri, p.scopes)) =
      some (some "AbC", some "S", some "https://Host/Cb", ["Profile"]) := by
    rw [load_value_eq (mapM_read_cons read_capital.1 (mapM_read_singleton read_capital.2))]
    decide +kernel
  obtain ⟨s, hs, hkakao⟩ := Option.bind_eq_some_iff.mp hloads
  obtain ⟨p, hp, hfields⟩ := Option.map_eq_some_iff.mp hkakao
  simp only [Prod.mk.injEq] at hfields
  obtain ⟨hid, hsecret, huri, hscopes⟩ := hfields
  have hrun := loads_load ∅ [capitalText, capitalPath] defaultStart capitalVars
  have hvalue := eq_ok_of_toOption hs
  obtain ⟨hsame, hkeeps⟩ := load_recased recased_sources respelled_vars
  exact ⟨_, s, p, hrun, (hsame _).mp hrun, hvalue, hp, hid, hsecret, huri, hscopes,
    hkeeps _ s hrun hvalue "kakao" p hp .clientId "AbC" hid⟩

/-- A text whose only key is a word. -/
def wordSource (word : String) : Source := .text (word ++ ": 1\n") .yaml

/-- A text with a key, in some letter case, that is a path into what another key writes. -/
def pathSource (path : String) : Source :=
  .text ("[oauth.providers.kakao]\nclient-id = \"x\"\n[\"" ++ path ++
    "\".kakao]\nclient-id = \"y\"\n") .toml

/-- An entry of providers with a client id. -/
def clientEntry (path value : String) : String × Value :=
  (path, .table [("kakao", .table (clientFields value))])

/-- The document of such a text, with small letters in the path. -/
def smallPathDocument : Entries :=
  [("oauth", .table [clientEntry "providers" "x"]), clientEntry "oauth.providers" "y"]

/-- The document with capital letters in the path, which then comes first. -/
def capitalPathDocument : Entries :=
  [clientEntry "OAUTH.PROVIDERS" "y", ("oauth", .table [clientEntry "providers" "x"])]

/-- The texts with the path in small and in capital letters are read as their documents. -/
theorem read_pathSource :
    (pathSource "oauth.providers").read ∅ = .ok smallPathDocument ∧
      (pathSource "OAUTH.PROVIDERS").read ∅ = .ok capitalPathDocument :=
  ⟨eq_ok_of_areSame (by decide +kernel), eq_ok_of_areSame (by decide +kernel)⟩

/-- No two keys of such an entry collapse. -/
theorem distinct_clientEntry (path value : String) : (clientEntry path value).2.Distinct := by
  refine .table (List.pairwise_singleton _ _) (List.forall_mem_singleton.mpr ?_)
  exact .table (List.pairwise_singleton _ _) (List.forall_mem_singleton.mpr (.scalar _ _))

/-- Nor do they below the root key. -/
theorem distinct_rootEntry :
    (Value.table [clientEntry "providers" "x"]).Distinct :=
  .table (List.pairwise_singleton _ _) (List.forall_mem_singleton.mpr (distinct_clientEntry _ _))

/-- No two keys of the document collapse. -/
theorem distinct_smallPathDocument : (Value.table smallPathDocument).Distinct :=
  .table (by decide) (List.forall_mem_cons.mpr
    ⟨distinct_rootEntry, List.forall_mem_singleton.mpr (distinct_clientEntry _ _)⟩)

/-- Nor do they with capital letters in the path. -/
theorem distinct_capitalPathDocument : (Value.table capitalPathDocument).Distinct :=
  .table (by decide) (List.forall_mem_cons.mpr
    ⟨distinct_clientEntry _ _, List.forall_mem_singleton.mpr distinct_rootEntry⟩)

/-- The two documents differ in letter case only. -/
theorem recased_pathDocument : DocumentRecased smallPathDocument capitalPathDocument := by
  have hkeys : lowerLetters "oauth.providers" = lowerLetters "OAUTH.PROVIDERS" := by decide
  have hplain : endsInList (wayOf "oauth.providers") = false ∧
      endsInList (wayOf "OAUTH.PROVIDERS") = false := by
    decide
  refine ⟨smallPathDocument.reverse, ⟨_, List.forall₂_same.mpr fun entry _ => .refl entry,
    (List.reverse_perm _).symm⟩, ?_⟩
  simp only [smallPathDocument, capitalPathDocument, documentFolded, entryFolded, clientEntry, hkeys,
    hplain, List.reverse_cons, List.reverse_nil, List.nil_append, List.cons_append, List.map_cons,
    List.map_nil]

/-- The word ends the program in small letters. -/
theorem read_wordSource : (wordSource "true").read ∅ = .error .keyKind := by
  have hread : ((wordSource "true").read ∅).map (fun _ => ()) = .error .keyKind := by decide +kernel
  exact map_eq_error.mp hread

/-- In whatever order formats are tried, the word ends the program. -/
theorem mapM_read_wordSource (formats : List Format) :
    [wordSource "true"].mapM (Source.readIn ∅ formats) = .error .keyKind := by
  have hread : Source.readIn ∅ formats (wordSource "true") = .error .keyKind := read_wordSource
  rw [List.mapM_cons, hread]
  rfl

/-- A word that is a text in one letter case may be something else in another one, and as a key it ends
the program then. Where a key is a path into what another one writes, either one may win, and runs over
sources that differ in letter case may load different settings, though no two keys collapse. -/
theorem recased_text_may_load_otherwise :
    (SameLetters "True" "true" ∧
      (∃ r, Runs ∅ [wordSource "True"] defaultStart ⟨∅, []⟩ r ∧ r.value = .returned (.ok {})) ∧
      ∀ r, Runs ∅ [wordSource "true"] defaultStart ⟨∅, []⟩ r → r.value = .aborted) ∧
    (∃ document other, (pathSource "oauth.providers").read ∅ = .ok document ∧
      (pathSource "OAUTH.PROVIDERS").read ∅ = .ok other ∧ DocumentRecased document other ∧
      (Value.table document).Distinct ∧ (Value.table other).Distinct) ∧
    ∃ r r' s s', Loads ∅ [pathSource "oauth.providers"] defaultStart ∅ r ∧
      Loads ∅ [pathSource "OAUTH.PROVIDERS"] defaultStart ∅ r' ∧ r.value = .ok s ∧
      r'.value = .ok s' ∧ s ≠ s' := by
  refine ⟨⟨by rw [SameLetters]; decide, ?_, ?_⟩, ?_, ?_⟩
  · have hvalue : (load ∅ [wordSource "True"] defaultStart ∅).value = .ok {} := by decide +kernel
    refine ⟨_, .loads rfl (loads_load _ _ _ _), ?_⟩
    rw [hvalue]
    rfl
  · rintro r (hgarbled | ⟨_, loads⟩)
    · rfl
    · cases loads with
      | unread order read =>
        obtain rfl := Except.error.inj ((mapM_read_wordSource _).symm.trans read)
        rfl
      | merged order read =>
        rw [mapM_read_wordSource] at read
        cases read
  · exact ⟨_, _, read_pathSource.1, read_pathSource.2, recased_pathDocument,
      distinct_smallPathDocument, distinct_capitalPathDocument⟩
  · have hsmall : (load ∅ [pathSource "oauth.providers"] defaultStart ∅).value.toOption.map
        (fun s => (s.provider? "kakao").bind (·.clientId)) = some (some "y") := by
      rw [load_value_eq (mapM_read_singleton read_pathSource.1)]
      decide +kernel
    have hcapital : (load ∅ [pathSource "OAUTH.PROVIDERS"] defaultStart ∅).value.toOption.map
        (fun s => (s.provider? "kakao").bind (·.clientId)) = some (some "x") := by
      rw [load_value_eq (mapM_read_singleton read_pathSource.2)]
      decide +kernel
    obtain ⟨s, hs, hy⟩ := Option.map_eq_some_iff.mp hsmall
    obtain ⟨s', hs', hx⟩ := Option.map_eq_some_iff.mp hcapital
    refine ⟨_, _, s, s', loads_load _ _ _ _, loads_load _ _ _ _, eq_ok_of_toOption hs,
      eq_ok_of_toOption hs', fun heq => ?_⟩
    rw [heq, hx] at hy
    revert hy
    decide

end GrantConfig.Settings
