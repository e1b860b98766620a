import GrantConfig.Proofs.DocumentWrites
import GrantConfig.Proofs.FieldValues
import GrantConfig.Proofs.LoadOutcome
import GrantConfig.Proofs.Runs

/-!
# Texts letter by letter

Merging moves scalars from documents to their places and makes none but null. So every text of the
loaded settings is one that a document or a variable gives, or a piece of one where it stands in a
list that is written as one text, and none of its letters has changed.
-/

namespace GrantConfig

namespace Text

/-- The first piece of a text begins it. -/
theorem first_piece_begins {cut : Char → Bool} {cs piece : List Char} {more : List (List Char)}
    (h : pieces cut cs = piece :: more) : piece <+: cs := by
  induction cs generalizing piece more with
  | nil =>
    cases h
    exact List.nil_prefix
  | cons c rest ih =>
    rw [pieces] at h
    split at h
    · cases h
      exact List.nil_prefix
    · obtain ⟨first, later, hpieces⟩ := List.exists_cons_of_ne_nil (pieces_ne_nil cut rest)
      rw [hpieces] at h
      cases h
      exact (List.prefix_cons_inj c).mpr (ih hpieces)

/-- The pieces of a text stand in it. -/
theorem infix_of_mem_pieces {cut : Char → Bool} {cs piece : List Char} (h : piece ∈ pieces cut cs) :
    piece <:+: cs := by
  induction cs with
  | nil =>
    cases List.mem_singleton.mp h
    exact List.infix_refl []
  | cons c rest ih =>
    obtain ⟨first, more, hpieces⟩ := List.exists_cons_of_ne_nil (pieces_ne_nil cut (c :: rest))
    rw [hpieces] at h
    rcases List.mem_cons.mp h with rfl | hlater
    · exact (first_piece_begins hpieces).isInfix
    · apply List.infix_cons
      apply ih
      rw [pieces] at hpieces
      split at hpieces
      · cases hpieces
        exact hlater
      · obtain ⟨next, later, hrest⟩ := List.exists_cons_of_ne_nil (pieces_ne_nil cut rest)
        rw [hrest] at hpieces ⊢
        cases hpieces
        exact List.mem_cons_of_mem _ hlater

/-- A text without the blanks at its start ends it. -/
theorem trimStart_ends (cs : List Char) : trimStart cs <:+ cs := by
  induction cs with
  | nil => exact List.suffix_refl []
  | cons c rest ih =>
    rw [trimStart]
    split
    · exact ih.trans (List.suffix_cons c rest)
    · exact List.suffix_refl _

/-- A text without the blanks at its end begins it. -/
theorem trimEnd_begins (cs : List Char) : trimEnd cs <+: cs := by
  induction cs with
  | nil => exact List.prefix_refl []
  | cons c rest ih =>
    rw [trimEnd]
    split
    · split
      · exact List.nil_prefix
      · exact ⟨rest, rfl⟩
    · next h =>
      exact (List.prefix_cons_inj c).mpr ih

/-- What is left of a text without its blanks stands in it. -/
theorem infix_trim (s : String) : (trim s).toList <:+: s.toList := by
  rw [trim, String.toList_ofList]
  exact (trimEnd_begins _).isInfix.trans (trimStart_ends _).isInfix

end Text

namespace Params

/-- The parts of a parameter stand in the text that writes it. -/
theorem Writes.stand {text : String} {param : String × String} (h : Writes text param) :
    param.1.toList <:+: text.toList ∧ param.2.toList <:+: text.toList := by
  obtain ⟨name, value, _, _⟩ := h
  have htext : (name ++ "=" ++ value).toList = name.toList ++ '=' :: value.toList := by simp
  rw [htext]
  constructor
  · exact (Text.infix_trim name).trans (List.prefix_append _ _).isInfix
  · exact (Text.infix_trim value).trans
      ((List.suffix_cons '=' _).trans (List.suffix_append name.toList _)).isInfix

end Params

namespace Layer

variable {given : String → Prop}

/-! ## What values give -/

/-- A text that a value gives: that of a scalar in it, in its lists and in its tables. -/
inductive Value.Gives (t : String) : Value → Prop
  | scalar {origin : Option Origin} {s : Scalar} (h : s.text? = some t) : Gives t (.scalar origin s)
  | item {origin : Option Origin} {items : List Value} {item : Value} (hmem : item ∈ items)
      (h : Gives t item) : Gives t (.list origin items)
  | entry {entries : Entries} {entry : String × Value} (hmem : entry ∈ entries)
      (h : Gives t entry.2) : Gives t (.table entries)

/-- All texts that a value gives are among those of a kind. -/
def Value.Only (given : String → Prop) (v : Value) : Prop := ∀ t, v.Gives t → given t

/-- Null gives no text. -/
theorem only_null : Value.null.Only given := by
  intro t h
  cases h with
  | scalar h => cases h

/-- A list gives what its items give. -/
theorem only_list_iff {origin : Option Origin} {items : List Value} :
    (Value.list origin items).Only given ↔ ∀ item ∈ items, item.Only given := by
  constructor
  · exact fun h item hitem t ht => h t (.item hitem ht)
  · intro h t ht
    cases ht with
    | item hmem ht => exact h _ hmem t ht

/-- A table gives what its entries give. -/
theorem only_table_iff {entries : Entries} :
    (Value.table entries).Only given ↔ ∀ entry ∈ entries, entry.2.Only given := by
  constructor
  · exact fun h entry hentry t ht => h t (.entry hentry ht)
  · intro h t ht
    cases ht with
    | entry hmem ht => exact h _ hmem t ht

/-- Null may stand for nothing. -/
theorem only_getD {v : Option Value} (h : ∀ x ∈ v, x.Only given) :
    (v.getD Value.null).Only given := by
  cases v with
  | none => exact only_null
  | some v => exact h v rfl

/-- The entries of a value give what it gives. -/
theorem only_entriesIn {v : Option Value} (h : ∀ x ∈ v, x.Only given) :
    ∀ entry ∈ entriesIn v, entry.2.Only given := by
  cases v with
  | none => exact List.forall_mem_nil _
  | some v =>
    have hv := h v rfl
    cases v with
    | scalar | list => exact List.forall_mem_nil _
    | table entries => exact only_table_iff.mp hv

/-- A change of one item gives only texts of the change and of the items. -/
theorem only_changeAt {n : Int} {change : Value → Value} {items : List Value}
    (hitems : ∀ item ∈ items, item.Only given)
    (hchange : ∀ item : Value, item.Only given → (change item).Only given) :
    ∀ item ∈ changeAt n change items, item.Only given := by
  cases hn : positionIn n items.length with
  | none =>
    rw [changeAt_of_none hn]
    exact hitems
  | some i =>
    have hitem (j : Nat) : ∀ item ∈ items[j]?, item.Only given :=
      fun item hitem => hitems item (List.mem_of_getElem? hitem)
    intro item hmem
    obtain ⟨j, hj⟩ := List.mem_iff_getElem?.mp hmem
    rw [getElem?_changeAt hn] at hj
    split at hj
    · cases hj
      exact hchange _ (only_getD (hitem i))
    · split at hj
      · cases hj
        exact only_getD (hitem j)
      · exact hitem j item hj

/-- So it is for a value that becomes a list. -/
theorem only_changeItem {n : Int} {change : Value → Value} {v : Value} (hv : v.Only given)
    (hchange : ∀ item : Value, item.Only given → (change item).Only given) :
    (v.changeItem n change).Only given := by
  cases v with
  | list origin items =>
    exact only_list_iff.mpr (only_changeAt (only_list_iff.mp hv) hchange)
  | scalar | table => exact only_list_iff.mpr (only_changeAt (List.forall_mem_nil _) hchange)

/-- A change at the end of a way gives only texts of the change and texts that were there. -/
theorem only_changeBehind {change : Option Value → Value}
    (hchange : ∀ v : Option Value, (∀ x ∈ v, x.Only given) → (change v).Only given)
    {way : List Step} {v : Option Value} (hv : ∀ x ∈ v, x.Only given) :
    (changeBehind change way v).Only given := by
  induction way generalizing v with
  | nil => exact hchange v hv
  | cons step way ih =>
    cases step with
    | field name =>
      have hentries := only_entriesIn hv
      refine only_table_iff.mpr fun entry hentry => ?_
      rcases mem_insertEntry hentry with rfl | hmem
      · exact ih fun x hx => hentries _ (mem_of_lookup hx)
      · exact hentries entry hmem
    | position n =>
      refine only_changeItem (only_getD hv) fun item hitem => ih fun x hx => ?_
      cases hx
      exact hitem

/-! ## What documents give -/

/-- Writes give no texts but those of their values. -/
theorem only_writeAll {writes : List Write} (hwrites : ∀ w ∈ writes, ∀ x ∈ w.value, x.Only given)
    {v : Option Value} (hv : ∀ x ∈ v, x.Only given) : ∀ x ∈ writeAll writes v, x.Only given := by
  induction writes generalizing v with
  | nil => exact hv
  | cons w rest ih =>
    obtain ⟨hfirst, hrest⟩ := List.forall_mem_cons.mp hwrites
    refine ih hrest fun x hx => ?_
    cases hx
    refine only_changeBehind (fun v hv => ?_) hv
    cases hvalue : w.value with
    | some x =>
      rw [Write.put, hvalue]
      exact hfirst x hvalue
    | none =>
      rw [Write.put, hvalue]
      cases v with
      | some x => exact hv x rfl
      | none => exact only_table_iff.mpr (List.forall_mem_nil _)

mutual

/-- The values that a value writes stand in it. -/
theorem only_writes : ∀ v : Value, v.Only given → ∀ w ∈ v.writes, ∀ x ∈ w.value, x.Only given
  | .scalar origin s, h => by
    intro w hw x hx
    rw [Value.writes, List.mem_singleton] at hw
    subst hw
    cases hx
    exact h
  | .list origin items, h => by
    intro w hw x hx
    rw [Value.writes, List.mem_singleton] at hw
    subst hw
    cases hx
    exact h
  | .table entries, h => by
    intro w hw x hx
    rw [Value.writes] at hw
    rcases List.mem_cons.mp hw with rfl | hmem
    · cases hx
    · exact only_entriesWrites entries (only_table_iff.mp h) w hmem x hx

/-- The values that entries write stand in them. -/
theorem only_entriesWrites : ∀ entries : Entries, (∀ entry ∈ entries, entry.2.Only given) →
    ∀ w ∈ entriesWrites entries, ∀ x ∈ w.value, x.Only given
  | [], _ => by
    intro w hw
    cases hw
  | (key, v) :: rest, h => by
    obtain ⟨hfirst, hrest⟩ := List.forall_mem_cons.mp h
    intro w hw x hx
    rw [entriesWrites] at hw
    rcases List.mem_append.mp hw with hmem | hmem
    · obtain ⟨u, hu, rfl⟩ := List.mem_map.mp hmem
      exact only_writes v hfirst u hu x hx
    · exact only_entriesWrites rest hrest w hmem x hx

end

/-- So it is for a document. -/
theorem only_documentWrites {document : Entries} (h : ∀ entry ∈ document, entry.2.Only given) :
    ∀ w ∈ documentWrites document, ∀ x ∈ w.value, x.Only given := by
  intro w hw x hx
  obtain ⟨entry, hentry, hw⟩ := List.mem_flatMap.mp hw
  rw [entryWrites] at hw
  split at hw
  · cases List.mem_singleton.mp hw
    cases hx
    exact h entry hentry
  · obtain ⟨u, hu, rfl⟩ := List.mem_map.mp hw
    exact only_writes entry.2 (h entry hentry) u hu x hx

/-- Merging documents gives no texts but theirs. -/
theorem only_mergeSources {documents : List Entries}
    (h : ∀ document ∈ documents, ∀ entry ∈ document, entry.2.Only given) :
    (Value.table (mergeSources documents)).Only given := by
  refine List.foldlRecOn documents mergeSource (motive := fun root => (Value.table root).Only given)
    (only_table_iff.mpr (List.forall_mem_nil _)) ?_
  intro root hroot document hdocument
  have hmerged := writeAll_documentWrites root document
  refine only_writeAll (only_documentWrites (h document hdocument)) ?_ _ hmerged
  intro x hx
  cases hx
  exact hroot

/-- In another order, a value gives the same texts. -/
theorem Value.Visited.gives {v w : Value} (h : v.Visited w) {t : String} (ht : w.Gives t) :
    v.Gives t := by
  induction ht generalizing v with
  | scalar ht =>
    cases h with
    | same => exact .scalar ht
  | item hmem ht =>
    cases h with
    | same => exact .item hmem ht
  | entry hmem ht ih =>
    cases h with
    | same => exact .entry hmem ht
    | table below order =>
      obtain ⟨u, hu, hvisited⟩ := below.exists_of_mem _ (order.mem_iff.mpr hmem)
      exact .entry hu (ih hvisited)

/-- So does a document. -/
theorem DocumentVisited.only {document visited : Entries} (h : DocumentVisited document visited)
    (hdocument : ∀ entry ∈ document, entry.2.Only given) : ∀ entry ∈ visited, entry.2.Only given := by
  intro entry hentry t ht
  obtain ⟨source, hsource, hvisited⟩ := h.exists_of_mem entry hentry
  exact hdocument source hsource t (hvisited.value.gives ht)

/-- What stands behind a way gives no more than the whole. -/
theorem only_of_at? {way : List String} {v x : Value} (h : v.Only given) (hx : v.at? way = some x) :
    x.Only given := by
  induction way generalizing v with
  | nil =>
    cases hx
    exact h
  | cons key way ih =>
    obtain ⟨entries, y, rfl, hy, hyx⟩ := Value.at?_cons_eq_some hx
    exact ih (only_table_iff.mp h _ (mem_of_lookup hy)) hyx

/-! ## What lists are read as -/

/-- Items are shaped one by one. -/
theorem shapeItems_eq_map (items : List Value) :
    Value.shapeItems items = items.map Value.shape := by
  induction items with
  | nil => rfl
  | cons item rest ih => rw [Value.shapeItems, ih, List.map_cons]

/-- Entries are shaped one by one. -/
theorem shapeEntries_eq_map (entries : Entries) :
    Value.shapeEntries entries = entries.map fun entry => (entry.1, entry.2.shape) := by
  induction entries with
  | nil => rfl
  | cons first rest ih => rw [Value.shapeEntries, ih, List.map_cons]

/-- A text that is read of a value is one that it gives. -/
theorem gives_of_shape {v : Value} {t : String} (h : v.shape.text? = some t) : v.Gives t := by
  cases v with
  | scalar origin s =>
    cases s with
    | text s =>
      cases h
      exact .scalar rfl
    | null | boolean | integer | float => cases h
  | list | table => cases h

/-- A text that is read under a key is one that the table gives. -/
theorem gives_of_lookup {entries : Entries} {key t : String}
    (h : (List.lookup key (Value.shapeEntries entries)).bind Shape.text? = some t) :
    (Value.table entries).Gives t := by
  rw [shapeEntries_eq_map, lookup_map (fun _ => Value.shape)] at h
  obtain ⟨shape, hshape, ht⟩ := Option.bind_eq_some_iff.mp h
  obtain ⟨v, hv, rfl⟩ := Option.map_eq_some_iff.mp hshape
  exact .entry (mem_of_lookup hv) (gives_of_shape ht)

/-- The texts of a parameter that an item is read as are texts that the item gives. -/
theorem gives_of_param? {item : Value} {param : Shape.Param} (h : item.shape.param? = some param) :
    (∀ written, param = .pair written → item.Gives written) ∧
      ∀ name value, param = .entry name value → item.Gives name ∧ item.Gives value := by
  cases item with
  | scalar origin s =>
    cases s with
    | text t =>
      cases h
      constructor
      · intro written hwritten
        cases hwritten
        exact .scalar rfl
      · intro name value hnamed
        cases hnamed
    | null | boolean | integer | float => cases h
  | table entries =>
    simp only [Value.shape, Shape.param?, bind, pure, Option.bind_eq_some_iff,
      Option.some.injEq] at h
    obtain ⟨name, hname, value, hvalue, rfl⟩ := h
    constructor
    · intro written hwritten
      cases hwritten
    · intro name value hnamed
      cases hnamed
      exact ⟨gives_of_lookup (Option.bind_eq_some_iff.mpr hname),
        gives_of_lookup (Option.bind_eq_some_iff.mpr hvalue)⟩
  | list => cases h

end Layer

open Layer Provider

variable {given : String → Prop}

/-- A piece of a text of a kind, letter by letter. -/
def Quoted (given : String → Prop) (piece : String) : Prop :=
  ∃ t, given t ∧ piece.toList <:+: t.toList

/-- A field of one text holds a given one, if any. -/
def KeepsText (given : String → Prop) (text : Option String) : Prop := ∀ t, text = some t → given t

/-- All scopes are pieces of given texts. -/
def KeepsScopes (given : String → Prop) (scopes : List String) : Prop :=
  ∀ scope ∈ scopes, Quoted given scope

/-- The names and the values of all parameters are pieces of given texts. -/
def KeepsParams (given : String → Prop) (params : SortedMap String) : Prop :=
  ∀ entry ∈ params.entries, Quoted given entry.1 ∧ Quoted given entry.2

/-- A whole text is a piece of it. -/
theorem quoted_of_given {t : String} (h : given t) : Quoted given t := ⟨t, h, List.infix_refl _⟩

/-- A piece of a piece is a piece. -/
theorem Quoted.trans {t piece : String} (h : Quoted given t) (hpiece : piece.toList <:+: t.toList) :
    Quoted given piece := by
  obtain ⟨whole, hwhole, ht⟩ := h
  exact ⟨whole, hwhole, hpiece.trans ht⟩

/-- The scopes of a value are texts that it gives, or pieces of one. -/
theorem keepsScopes_of_shape {v : Value} (h : v.Only given) {scopes : List String}
    (hscopes : v.shape.scopes = .ok scopes) : KeepsScopes given scopes := by
  intro scope hscope
  cases v with
  | scalar origin s =>
    cases s with
    | null =>
      cases hscopes
      cases hscope
    | text s =>
      cases hscopes
      obtain ⟨piece, hpiece, rfl⟩ := List.mem_map.mp hscope
      refine (quoted_of_given (h s (.scalar rfl))).trans ?_
      rw [String.toList_ofList]
      exact Text.infix_of_mem_pieces (List.mem_filter.mp hpiece).1
    | boolean | integer | float => cases hscopes
  | list origin items =>
    rw [Value.shape, Shape.scopes] at hscopes
    split at hscopes
    · next texts htexts =>
      cases hscopes
      rw [shapeItems_eq_map, mapM_eq_some_iff, List.forall₂_map_left_iff] at htexts
      obtain ⟨item, hitem, htext⟩ := exists_of_mem_right htexts hscope
      exact quoted_of_given (h scope (.item hitem (gives_of_shape htext)))
    · cases hscopes
  | table => cases hscopes

/-- A parameter is made of pieces of the text that writes it, or of its name and value as given. -/
theorem quoted_bind {param : Shape.Param} {found : String × String} (h : param.bind = .ok found)
    (hpair : ∀ written, param = .pair written → Quoted given written)
    (hentry : ∀ name value, param = .entry name value → Quoted given name ∧ Quoted given value) :
    Quoted given found.1 ∧ Quoted given found.2 := by
  cases param with
  | entry name value =>
    cases h
    exact hentry name value rfl
  | pair written =>
    obtain ⟨hname, hvalue⟩ := (bind_pair_eq_ok_iff.mp h).stand
    exact ⟨(hpair written rfl).trans hname, (hpair written rfl).trans hvalue⟩

/-- Every parameter that is bound is bound from one that is read. -/
theorem exists_of_mem_bindParams {read : List Shape.Param} {params : SortedMap String}
    (h : Shape.bindParams read = .ok params) {entry : String × String}
    (hentry : entry ∈ params.entries) : ∃ param ∈ read, param.bind = .ok entry := by
  obtain ⟨bound, hbound, rfl⟩ := bindParams_eq_ok_iff.mp h
  rw [SortedMap.entries_ofList] at hentry
  exact exists_of_mem_right hbound (mem_of_mem_insertEach_nil hentry)

/-- The names and the values of the parameters of a value are texts that it gives, or pieces of
them. -/
theorem keepsParams_of_shape {v : Value} (h : v.Only given) {params : SortedMap String}
    (hparams : v.shape.params = .ok params) : KeepsParams given params := by
  intro entry hentry
  cases v with
  | scalar origin s =>
    cases s with
    | null =>
      cases hparams
      cases hentry
    | text s =>
      obtain ⟨param, hparam, hbind⟩ := exists_of_mem_bindParams hparams hentry
      obtain ⟨piece, hpiece, rfl⟩ := List.mem_map.mp hparam
      apply quoted_bind hbind
      · intro written hwritten
        cases hwritten
        obtain ⟨cs, hcs, rfl⟩ := List.mem_map.mp (List.mem_filter.mp hpiece).1
        refine (quoted_of_given (h s (.scalar rfl))).trans ?_
        rw [String.toList_ofList]
        exact Text.infix_of_mem_pieces hcs
      · intro name value hparam
        cases hparam
    | boolean | integer | float => cases hparams
  | list origin items =>
    rw [Value.shape, Shape.params] at hparams
    split at hparams
    · next read hread =>
      obtain ⟨param, hparam, hbind⟩ := exists_of_mem_bindParams hparams hentry
      rw [shapeItems_eq_map, mapM_eq_some_iff, List.forall₂_map_left_iff] at hread
      obtain ⟨item, hitem, hitemParam⟩ := exists_of_mem_right hread hparam
      have hgiven (t : String) (ht : item.Gives t) : Quoted given t :=
        quoted_of_given (h t (.item hitem ht))
      obtain ⟨hpair, hnamed⟩ := gives_of_param? hitemParam
      apply quoted_bind hbind
      · exact fun written hwritten => hgiven written (hpair written hwritten)
      · intro name value hentry
        obtain ⟨hname, hvalue⟩ := hnamed name value hentry
        exact ⟨hgiven name hname, hgiven value hvalue⟩
    · cases hparams
  | table => cases hparams

/-- What a field holds is made of given texts. -/
def Provider.Field.Keeps (given : String → Prop) : (field : Field) → field.Content → Prop
  | .clientId => KeepsText given
  | .clientSecret => KeepsText given
  | .redirectUri => KeepsText given
  | .tokenPath => KeepsText given
  | .codePath => KeepsText given
  | .userInfoPath => KeepsText given
  | .scopes => KeepsScopes given
  | .extraParams => KeepsParams given

/-- A text that loads is one that its value gives. -/
theorem given_of_loadText {key t : String} {v : Value} (h : v.Only given)
    (hload : loadText key v = .ok (some t)) : given t := by
  cases v with
  | scalar origin s =>
    rw [loadText] at hload
    exact h t (.scalar (Except.ok.inj hload))
  | list | table => cases hload

/-- A field keeps the texts of the value that it is loaded from. -/
theorem Provider.Field.keeps_load {field : Field} {v : Value} (h : v.Only given) {c : field.Content}
    (hload : field.load v = .ok c) : field.Keeps given c := by
  cases field with
  | scopes => exact keepsScopes_of_shape h (mapError_eq_ok.mp hload)
  | extraParams => exact keepsParams_of_shape h (mapError_eq_ok.mp hload)
  | clientId | clientSecret | redirectUri | tokenPath | codePath | userInfoPath =>
    intro t ht
    subst ht
    exact given_of_loadText h hload

/-- A field of an empty provider holds nothing. -/
theorem Provider.Field.keeps_default (field : Field) :
    field.Keeps given (({} : Provider).get field) := by
  cases field with
  | scopes | extraParams => exact List.forall_mem_nil _
  | clientId | clientSecret | redirectUri | tokenPath | codePath | userInfoPath =>
    intro t ht
    cases ht

/-- A provider keeps the texts of the value that it is loaded from, in whatever order. -/
theorem Provider.LoadsAs.keeps {v : Value} (hnormal : v.Normal) (hv : v.Only given) {p : Provider}
    (h : LoadsAs v (.ok p)) (field : Field) : field.Keeps given (p.get field) := by
  by_cases htable : ∃ fields, v = .table fields
  · obtain ⟨fields, rfl⟩ := htable
    obtain ⟨folded, hfolded, hok, _⟩ := exists_of_loadsAs_table hnormal.ascending.distinctKeys h
    have htakes := (hok p).mp rfl field
    cases hvalue : List.lookup field.key folded with
    | none =>
      rw [hvalue, Field.Takes] at htakes
      rw [htakes]
      exact field.keeps_default
    | some x =>
      rw [hvalue] at htakes
      obtain ⟨key, hmem⟩ := hfolded.exists_given hvalue
      exact Field.keeps_load (only_table_iff.mp hv _ hmem) htakes
  · generalize hr : (.ok p : Except Fault Provider) = r at h
    cases h with
    | table => exact absurd ⟨_, rfl⟩ htable
    | other hother =>
      cases v with
      | scalar | list => cases hr
      | table fields => exact absurd rfl (hother fields)

namespace Settings

open Environment

/-- A text that sources or variables give. -/
inductive Given (files : Files) (sources : List Source) (vars : SortedMap String) (t : String) : Prop
  | source {source : Source} {formats : List Format} {document : Entries} (hsource : source ∈ sources)
      (order : formats.Perm Format.all) (hread : source.readIn files formats = .ok document)
      (h : (Value.table document).Gives t)
  | variable {name : String} (h : vars.find? name = some t)

/-- What is merged in a run gives only texts of the sources and of the variables. -/
theorem only_merged {files : Files} {sources : List Source} {start : String} {vars : SortedMap String}
    {formats : List Format} (order : formats.Perm Format.all) {documents visited : List Entries}
    (hread : sources.mapM (Source.readIn files formats) = .ok documents)
    (hvisits : List.Forall₂ DocumentVisited documents visited) {writes : Entries}
    (hwritten : Written start vars writes) :
    (Value.table (mergeSources (visited ++ [writes]))).Only (Given files sources vars) := by
  apply only_mergeSources
  intro document hdocument
  rcases List.mem_append.mp hdocument with hvisited | hwrites
  · obtain ⟨given, hgiven, hvisit⟩ := exists_of_mem_right hvisits hvisited
    obtain ⟨source, hsource, hdocument⟩ := exists_of_mem_right (mapM_eq_ok_iff.mp hread) hgiven
    exact hvisit.only fun entry hentry t ht => .source hsource order hdocument (.entry hentry ht)
  · obtain rfl := List.mem_singleton.mp hwrites
    intro entry hentry t ht
    obtain ⟨_, hoffered, _⟩ := collected_iff.mp (written_iff.mp hwritten)
    obtain ⟨var, hvar, _, _, rfl⟩ := mem_offered.mp (hoffered entry hentry)
    cases ht with
    | scalar ht =>
      cases ht
      exact .variable (SortedMap.find?_eq_some_iff.mpr hvar)

/-- In every run, each text of the settings that are loaded is one that the sources or the variables
give, or a piece of one. -/
theorem keeps_loads {files : Files} {sources : List Source} {start : String} {vars : SortedMap String}
    {r : Logged (Except ConfigError Settings)} (h : Loads files sources start vars r) {s : Settings}
    (hs : r.value = .ok s) {name : String} {p : Provider} (hp : s.provider? name = some p)
    (field : Provider.Field) : field.Keeps (Given files sources vars) (p.get field) := by
  cases h with
  | unread => cases hs
  | merged order read visits written loads =>
    rw [value_told] at hs
    subst hs
    obtain ⟨_, q, hq, hprovider⟩ := exists_of_sectionLoadsAs_ok (distinctKeys_section _) loads
    rw [hprovider, Option.map_eq_some_iff] at hp
    obtain ⟨v, hv, rfl⟩ := hp
    have hentry := mem_of_lookup hv
    have hnormal : v.Normal := by
      rw [entriesIn, section?_toEntries] at hv
      exact (normal_providersOf (normal_mergeSources _)).lookup hv
    refine (hq _ hentry).keeps hnormal ?_ field
    refine only_entriesIn (fun x hx => ?_) _ hentry
    rw [section?_eq_at?] at hx
    exact only_of_at? (only_merged order read visits written) hx

end Settings

end GrantConfig
