import GrantConfig.Proofs.Frames
import GrantConfig.Proofs.Runs
import GrantConfig.Proofs.Secrecy
import GrantConfig.Proofs.Writes

/-!
# Two values of a secret

Two trees that are the same, but for two texts where the secret of a provider stands, load alike: for
whatever may come out of the one, the same but for that secret may come out of the other, or the same
error. This holds for the fields of the provider, in any order of its spellings and of the fields, and
then for the section.
-/

namespace GrantConfig

open Layer

namespace Layer

open Unicode Settings

/-- Trees that are the same, or whose tables are, but for two texts at the end of the way. -/
def differing (x y : String) : Frame where
  passing v w := v = w ∨ ∃ entries others, v = some (.table entries) ∧ w = some (.table others)
  ending v w := v = w ∨ v = some (written x) ∧ w = some (written y)
  passing_refl _ := .inl rfl
  passing_tables entries others := .inr ⟨entries, others, rfl, rfl⟩
  passing_getD {v w} h := by
    rcases h with rfl | htables
    · exact .inl rfl
    · obtain ⟨entries, others, rfl, rfl⟩ := htables
      exact .inr ⟨entries, others, rfl, rfl⟩
  passing_changeItem {v w} h n change := by
    rcases h with rfl | htables
    · exact .inl rfl
    · obtain ⟨entries, others, rfl, rfl⟩ := htables
      exact .inl rfl
  ending_refl _ := .inl rfl
  ending_over {v w} h u := by
    rcases h with rfl | hwritten
    · exact .inl rfl
    · obtain ⟨rfl, rfl⟩ := hwritten
      cases u with
      | scalar | list => exact .inl rfl
      | table incoming =>
        rw [Value.over, Value.over, Option.getD_some, Option.getD_some]
        cases incoming with
        | nil =>
          rw [mergeTable, mergeTable]
          exact .inr ⟨rfl, rfl⟩
        | cons first rest =>
          rw [mergeTable, mergeTable]
          exact .inl rfl
  ending_assign {v w} h u steps := by
    rcases h with rfl | hwritten
    · exact .inl rfl
    · obtain ⟨rfl, rfl⟩ := hwritten
      left
      cases steps with
      | nil => rw [assign, assign]
      | cons step steps => exact congrArg some (assign_scalar u step steps _ _ _ _)

/-- Values of a key in two runs: the same, or two texts where the key is the place of the secret. -/
def InBothRuns (x y place key : String) (v w : Value) : Prop :=
  v = w ∨ key = place ∧ v = written x ∧ w = written y

/-- What is the same in both runs is alike, wherever it stands. -/
theorem InBothRuns.rel_refl (x y place key : String) (v : Option Value) :
    Option.Rel (InBothRuns x y place key) v v := by
  cases v with
  | none => exact .none
  | some v => exact .some (.inl rfl)

/-- Values in relation, put behind the way on both sides. -/
theorem Frame.Along.assign_names {frame : Frame} {u u' : Value} (hu : u.Leaf) (hu' : u'.Leaf)
    (hends : frame.ending (some u) (some u')) {names : List String}
    (hnames : ∀ name ∈ names, lowercase name = name) {v w : Option Value}
    (h : frame.Along names v w) :
    frame.Along names (some (Layer.assign u (names.map .field) (v.getD Value.null)))
      (some (Layer.assign u' (names.map .field) (w.getD Value.null))) := by
  induction names generalizing v w with
  | nil =>
    rw [List.map_nil, Layer.assign, Layer.assign]
    exact hends
  | cons name names ih =>
    obtain ⟨hname, hrest⟩ := List.forall_mem_cons.mp hnames
    rw [List.map_cons, assign_field hu, assign_field hu', hname, toEntries_getD, toEntries_getD]
    exact h.insertEntry name (fun hne => absurd rfl hne) fun _ => ih hrest h.2.2

end Layer

namespace Provider

/-- The key of the secret. -/
abbrev secretKey : String := Field.clientSecret.key

/-- Providers that differ in their secrets at most do so after the same content is set. -/
theorem SameButSecret.set {p q : Provider} (h : SameButSecret p q) (field : Field)
    (c : field.Content) : SameButSecret (p.set field c) (q.set field c) := by
  rw [h.eq_update]
  cases field <;> rfl

/-- Two runs of loading fields that differ in texts of the secret at most. -/
theorem map_loadFields_congr {x y : String} {entries others : Entries}
    (h : List.Forall₂ (fun entry other => entry.1 = other.1 ∧
      InBothRuns x y secretKey entry.1 entry.2 other.2) entries others)
    {p q : Provider} (hsame : SameButSecret p q) :
    (loadFields p entries).map withoutSecret = (loadFields q others).map withoutSecret := by
  induction h generalizing p q with
  | nil => exact congrArg Except.ok hsame
  | @cons entry other rest more hpair _ ih =>
    obtain ⟨key, v⟩ := entry
    obtain ⟨_, w⟩ := other
    obtain ⟨rfl, hvalues⟩ := hpair
    rw [loadFields, loadFields]
    rcases hvalues with hvalue | hsecret
    · obtain rfl : v = w := hvalue
      cases Field.ofKey? key with
      | none => exact ih hsame
      | some field =>
        simp only [loadField_eq]
        cases field.load v with
        | error e => rfl
        | ok c => exact ih (hsame.set field c)
    · obtain ⟨hkey, hv, hw⟩ := hsecret
      obtain rfl : key = secretKey := hkey
      obtain rfl : v = Settings.written x := hv
      obtain rfl : w = Settings.written y := hw
      have hfield : Field.ofKey? secretKey = some .clientSecret := by decide
      rw [hfield]
      exact ih hsame

/-- Entries of the same keys with values of two runs. -/
abbrev PairedRuns (x y : String) : Entries → Entries → Prop :=
  List.Forall₂ fun entry other => entry.1 = other.1 ∧ InBothRuns x y secretKey entry.1 entry.2 other.2

/-- Values of two runs under the same keys are found under the same keys. -/
theorem PairedRuns.isSome_lookup {x y : String} {entries others : Entries}
    (h : PairedRuns x y entries others) (key : String) :
    (List.lookup key entries).isSome = (List.lookup key others).isSome := by
  induction h with
  | nil => rfl
  | @cons entry other rest more hpair _ ih =>
    obtain ⟨k, v⟩ := entry
    obtain ⟨_, w⟩ := other
    obtain ⟨rfl, _⟩ := hpair
    rw [lookup_cons_eq_ite, lookup_cons_eq_ite]
    split
    · rfl
    · exact ih

/-- Values that are alike may be put into both tables. -/
theorem PairedRuns.insertEntry {x y : String} {entries others : Entries}
    (h : PairedRuns x y entries others) {key : String} {v w : Value}
    (hvalues : InBothRuns x y secretKey key v w) :
    PairedRuns x y (insertEntry key v entries) (GrantConfig.insertEntry key w others) := by
  induction h with
  | nil => exact .cons ⟨rfl, hvalues⟩ .nil
  | @cons entry other rest more hpair hrest ih =>
    obtain ⟨k, u⟩ := entry
    obtain ⟨_, u'⟩ := other
    obtain ⟨rfl, hpair⟩ := hpair
    rw [GrantConfig.insertEntry, GrantConfig.insertEntry]
    split
    · exact .cons ⟨rfl, hvalues⟩ (.cons ⟨rfl, hpair⟩ hrest)
    · split
      · exact .cons ⟨rfl, hvalues⟩ hrest
      · exact .cons ⟨rfl, hpair⟩ ih

/-- Folding the spellings of fields does not touch the secret. -/
theorem PairedRuns.kebabFields {x y : String} {entries others : Entries}
    (h : PairedRuns x y entries others) :
    PairedRuns x y (kebabFields entries) (GrantConfig.kebabFields others) := by
  have hfilter (p : String → Bool) : PairedRuns x y (entries.filter fun entry => p entry.1)
      (others.filter fun entry => p entry.1) := by
    refine List.rel_filter (fun entry other hpair => ?_) h
    simp only [hpair.1]
  have hfold : ∀ {snake snake' : Entries}, PairedRuns x y snake snake' →
      (∀ entry ∈ snake, isSnakeKey entry.1 = true) → ∀ {acc acc' : Entries},
      PairedRuns x y acc acc' →
      PairedRuns x y
        (snake.foldl (fun acc entry => if (List.lookup (kebabKey entry.1) acc).isSome then acc
          else GrantConfig.insertEntry (kebabKey entry.1) entry.2 acc) acc)
        (snake'.foldl (fun acc entry => if (List.lookup (kebabKey entry.1) acc).isSome then acc
          else GrantConfig.insertEntry (kebabKey entry.1) entry.2 acc) acc') := by
    intro snake snake' hsnake
    induction hsnake with
    | nil => exact fun _ _ _ hacc => hacc
    | @cons entry other rest more hpair _ ih =>
      intro hkeys acc acc' hacc
      obtain ⟨key, v⟩ := entry
      obtain ⟨_, w⟩ := other
      obtain ⟨rfl, hvalues⟩ := hpair
      obtain ⟨hkey, hrest⟩ := List.forall_mem_cons.mp hkeys
      -- a key with underscores is not that of the secret
      have hsame : v = w := by
        rcases hvalues with hsame | hsecret
        · exact hsame
        · have hkebab : isSnakeKey secretKey = false := by decide
          rw [hsecret.1, hkebab] at hkey
          cases hkey
      subst hsame
      refine ih hrest ?_
      simp only [hacc.isSome_lookup]
      split
      · exact hacc
      · exact hacc.insertEntry (.inl rfl)
  exact hfold (hfilter isSnakeKey) (fun entry hentry => (List.mem_filter.mp hentry).2)
    (hfilter fun key => !isSnakeKey key)

/-- For whatever a provider may load as in one run, there is what it may load as in the other one: the
same but for its secret, or the same fault. -/
theorem exists_loadsAs {x y : String} {v w : Value} (hv : v.Normal) (hw : w.Normal)
    (h : (differing x y).Along [secretKey] (some v) (some w)) {r : Except Fault Provider}
    (hr : LoadsAs v r) : ∃ r', LoadsAs w r' ∧ r.map withoutSecret = r'.map withoutSecret := by
  obtain ⟨hpassing, hothers, hsecret⟩ := h
  rcases hpassing with hsame | htables
  · obtain rfl := Option.some.inj hsame
    exact ⟨r, hr, rfl⟩
  obtain ⟨entries, others, hentries, hothers'⟩ := htables
  obtain rfl := Option.some.inj hentries
  obtain rfl := Option.some.inj hothers'
  have hpairs : PairedRuns x y entries others := by
    refine hv.ascending.forall₂ hw.ascending fun key => ?_
    by_cases hkey : key = secretKey
    · subst hkey
      change (differing x y).ending (List.lookup secretKey entries) (List.lookup secretKey others)
        at hsecret
      rcases hsecret with hsame | hwritten
      · rw [hsame]
        exact InBothRuns.rel_refl _ _ _ _ _
      · rw [hwritten.1, hwritten.2]
        exact .some (.inr ⟨rfl, rfl, rfl⟩)
    · have hvalue : List.lookup key entries = List.lookup key others := hothers key hkey
      rw [hvalue]
      exact InBothRuns.rel_refl _ _ _ _ _
  generalize hentries : Value.table entries = v at hr
  cases hr with
  | other hother => exact absurd hentries.symm (hother entries)
  | @table _ visited fields spellings order =>
    obtain rfl := Value.table.inj hentries
    -- the other run takes the same order twice
    obtain ⟨visited', hvisited, spellings'⟩ := List.perm_comp_forall₂ spellings hpairs
    obtain ⟨fields', hfields, order'⟩ :=
      List.perm_comp_forall₂ order (PairedRuns.kebabFields hvisited)
    exact ⟨_, .table spellings' order', map_loadFields_congr hfields rfl⟩

/-- A provider, without its secret if its name is the given one. -/
def withoutSecretUnder (name key : String) (p : Provider) : Provider :=
  if key = name then p.withoutSecret else p

end Provider

namespace Settings

open Provider Environment Unicode

/-- Settings without the secret of a provider. -/
def withoutSecretOf (s : Settings) (name : String) : Settings :=
  ⟨s.providers.mapEntries (withoutSecretUnder name)⟩

/-- Two settings that differ in the secret of one provider at most. -/
def SameButSecretOf (name : String) (s t : Settings) : Prop :=
  s.withoutSecretOf name = t.withoutSecretOf name

/-- Two settings with the same providers, but for one that is the same without its secret, differ in
that secret at most. -/
theorem sameButSecretOf_of_providers {name : String} {s t : Settings}
    (hothers : ∀ other, other ≠ name → s.provider? other = t.provider? other)
    (hself : (s.provider? name).map withoutSecret = (t.provider? name).map withoutSecret) :
    SameButSecretOf name s t := by
  refine congrArg Settings.mk (SortedMap.ext_find? fun other => ?_)
  rw [SortedMap.find?_mapEntries, SortedMap.find?_mapEntries]
  by_cases hother : other = name
  · subst hother
    have herase : withoutSecretUnder other other = withoutSecret := by
      funext p
      exact if_pos rfl
    rw [herase]
    exact hself
  · exact congrArg _ (hothers other hother)

section

variable {x y name : String} {entries others : Entries} (hentries : (Value.table entries).Normal)
  (hentries' : (Value.table others).Normal)
  (hothers : ∀ other, other ≠ name → List.lookup other entries = List.lookup other others)
  (hself : (differing x y).Along [secretKey] (List.lookup name entries) (List.lookup name others))

include hself

/-- A provider that is missing in one run is missing in the other. -/
theorem lookup_eq_none_of_along (hnone : List.lookup name entries = none) :
    List.lookup name others = none := by
  rw [hnone] at hself
  rcases hself.1 with hsame | htables
  · exact hsame.symm
  · obtain ⟨_, _, hsome, _⟩ := htables
    cases hsome

include hentries hentries'

/-- What stands under the provider's name loads alike in both runs. -/
theorem exists_loadsAs_under {v : Value} (hv : List.lookup name entries = some v)
    {loaded : Except Fault Provider} (hloaded : LoadsAs v loaded) :
    ∃ w loaded', List.lookup name others = some w ∧ LoadsAs w loaded' ∧
      loaded.map withoutSecret = loaded'.map withoutSecret := by
  rw [hv] at hself
  cases hw : List.lookup name others with
  | none =>
    rw [hw] at hself
    rcases hself.1 with hsame | htables
    · cases hsame
    · obtain ⟨_, _, _, hnone⟩ := htables
      cases hnone
  | some w =>
    rw [hw] at hself
    obtain ⟨loaded', hloaded', hsame⟩ :=
      exists_loadsAs (hentries.lookup hv) (hentries'.lookup hw) hself hloaded
    exact ⟨w, loaded', rfl, hloaded', hsame⟩

/-- A provider that loads under the name in one run may load in the other one, but for its secret. -/
theorem exists_ok_under {p : Provider}
    (hp : ∀ v, List.lookup name entries = some v → LoadsAs v (.ok p)) :
    ∃ q, (∀ w, List.lookup name others = some w → LoadsAs w (.ok q)) ∧
      p.withoutSecret = q.withoutSecret := by
  cases hv : List.lookup name entries with
  | none =>
    refine ⟨p, fun w hw => ?_, rfl⟩
    rw [lookup_eq_none_of_along hself hv] at hw
    cases hw
  | some v =>
    obtain ⟨w, loaded', hw, hloaded', hsame⟩ :=
      exists_loadsAs_under hentries hentries' hself hv (hp v hv)
    obtain ⟨q, rfl, hq⟩ := map_eq_ok.mp hsame.symm
    refine ⟨q, fun w' hw' => ?_, hq.symm⟩
    obtain rfl := Option.some.inj (hw.symm.trans hw')
    exact hloaded'

include hothers

/-- If the section of one run may load, that of the other one may load to the same but for the
secret. -/
theorem exists_sectionLoadsAs_of_ok {s : Settings}
    (h : SectionLoadsAs (some (.table entries)) (.ok s)) :
    ∃ t, SectionLoadsAs (some (.table others)) (.ok t) ∧ SameButSecretOf name s t := by
  have hdistinct : DistinctKeys (entriesIn (some (.table entries))) :=
    hentries.ascending.distinctKeys
  have hdistinct' : DistinctKeys (entriesIn (some (.table others))) :=
    hentries'.ascending.distinctKeys
  obtain ⟨_, p, hp, hs⟩ := exists_of_sectionLoadsAs_ok hdistinct h
  have hunder : ∀ v, List.lookup name entries = some v → LoadsAs v (.ok (p name)) :=
    fun v hv => hp _ (mem_of_lookup hv)
  obtain ⟨q, hq, hsame⟩ := exists_ok_under hentries hentries' hself hunder
  obtain ⟨t, ht, hprovider⟩ := exists_sectionLoadsAs_update hdistinct'
    (fun v hv => ⟨others, (Option.some.inj hv).symm⟩) hothers hp hq
  have hs : ∀ other, s.provider? other = (List.lookup other entries).map fun _ => p other := hs
  have hprovider : ∀ other, t.provider? other =
      (List.lookup other others).map fun _ => Function.update p name q other := hprovider
  refine ⟨t, ht, sameButSecretOf_of_providers (fun other hother => ?_) ?_⟩
  · rw [hs, hprovider, hothers other hother, Function.update_of_ne hother]
  · rw [hs, hprovider, Function.update_self]
    cases hv : List.lookup name entries with
    | none =>
      rw [lookup_eq_none_of_along hself hv]
      rfl
    | some v =>
      obtain ⟨w, _, hw, _⟩ := exists_loadsAs_under hentries hentries' hself hv (hunder v hv)
      rw [hw]
      exact congrArg some hsame

/-- If the section of one run may fail, that of the other one may fail with the same error. -/
theorem sectionLoadsAs_of_error {e : ConfigError}
    (h : SectionLoadsAs (some (.table entries)) (.error e)) :
    SectionLoadsAs (some (.table others)) (.error e) := by
  refine sectionLoadsAs_error_iff.mpr (.inr ?_)
  rcases sectionLoadsAs_error_iff.mp h with hother | hentry
  · exact absurd rfl (hother.1 entries)
  obtain ⟨entry, hmem, fault, hfault, rfl⟩ := hentry
  have hvalue : List.lookup entry.1 entries = some entry.2 :=
    lookup_of_mem hentries.ascending.distinctKeys hmem
  by_cases hname : entry.1 = name
  · obtain ⟨w, loaded', hw, hloaded', hsame⟩ :=
      exists_loadsAs_under hentries hentries' hself (hname ▸ hvalue) hfault
    cases loaded' with
    | ok q => cases hsame
    | error fault' =>
      cases hsame
      exact ⟨(name, w), mem_of_lookup hw, fault, hloaded', by rw [hname]⟩
  · rw [hothers _ hname] at hvalue
    exact ⟨entry, mem_of_lookup hvalue, fault, hfault, rfl⟩

end

/-- For whatever a section may come to in one run, there is what it may come to in the other one: the
same settings but for the secret, or the same error. -/
theorem exists_sectionLoadsAs {x y name : String} {found found' : Option Value}
    (hfound : ∀ v, found = some v → v.Normal) (hfound' : ∀ v, found' = some v → v.Normal)
    (h : (differing x y).Along [name, secretKey] found found') {r : Except ConfigError Settings}
    (hr : SectionLoadsAs found r) :
    ∃ r', SectionLoadsAs found' r' ∧
      r.map (·.withoutSecretOf name) = r'.map (·.withoutSecretOf name) := by
  obtain ⟨hpassing, hothers, hself⟩ := h
  rcases hpassing with rfl | htables
  · exact ⟨r, hr, rfl⟩
  obtain ⟨entries, others, rfl, rfl⟩ := htables
  cases r with
  | ok s =>
    obtain ⟨t, ht, hsame⟩ :=
      exists_sectionLoadsAs_of_ok (hfound _ rfl) (hfound' _ rfl) hothers hself hr
    exact ⟨.ok t, ht, congrArg Except.ok hsame⟩
  | error e =>
    exact ⟨.error e, sectionLoadsAs_of_error (hfound _ rfl) (hfound' _ rfl) hothers hself hr, rfl⟩

/-- Without a secret, settings have the same names. -/
theorem names_withoutSecretOf (s : Settings) (name : String) :
    (s.withoutSecretOf name).names = s.names := SortedMap.keys_mapEntries _ _

end Settings

end GrantConfig
