import GrantConfig.Proofs.Runs
import GrantConfig.Proofs.Sources

/-!
# Loading from one file and the environment

Without further instructions, settings are loaded from the file that a variable names, or from the
default file if it is there, and from the variables of the settings. No other file and no other text
among the variables matters, whether loading succeeds or fails, and a file that is named takes the place
of the default one even when it cannot be read. The variable that names a file sets nothing by itself.
A variable that is no text ends the process, whatever its name is.
-/

namespace GrantConfig

open Layer Unicode

namespace Layer.Files

/-- The path with each of some extensions put behind it, and the formats they stand for. -/
def extended (files : Files) (path : String) (extensions : List (String × Format)) :
    List (String × Format) :=
  extensions.filterMap fun extension =>
    (files.withExtension? path extension.1).map (·, extension.2)

/-- The paths at which the file of a path is sought when formats are tried in some order. -/
def candidates (files : Files) (formats : List Format) (path : String) : List String :=
  path :: (files.extended path (Format.tried formats)).map Prod.fst

/-- A file with an extension is sought at one place after the other. -/
theorem findExtended?_eq (files : Files) (path : String) (extensions : List (String × Format)) :
    findExtended? files path extensions =
      (files.extended path extensions).findSome? fun place =>
        (files.file? place.1).map (Found.mk place.1 place.2) := by
  induction extensions with
  | nil => rfl
  | cons first rest ih =>
    obtain ⟨extension, format⟩ := first
    rw [findExtended?, ih]
    simp only [extended, List.filterMap_cons]
    cases files.withExtension? path extension with
    | none => rfl
    | some place =>
      simp only [Option.bind_some, Option.map_some, List.findSome?_cons]
      cases files.file? place with
      | none => rfl
      | some bytes => rfl

/-- What is found for a path is what stands at its candidates. -/
theorem loadIn_congr {files files' : Files} (hdirectory : files.directory = files'.directory)
    (hreaders : files.readers = files'.readers) {formats : List Format} {path : String}
    (h : ∀ candidate ∈ files.candidates formats path, files.file? candidate = files'.file? candidate) :
    files.loadIn formats path = files'.loadIn formats path := by
  rw [candidates, List.forall_mem_cons, List.forall_mem_map] at h
  have hplaces : files.extended path (Format.tried formats) =
      files'.extended path (Format.tried formats) := by
    simp only [extended, withExtension?, rooted, hdirectory]
  have hextended : findExtended? files path (Format.tried formats) =
      findExtended? files' path (Format.tried formats) := by
    rw [findExtended?_eq, findExtended?_eq, ← hplaces, ← List.head?_filterMap, ← List.head?_filterMap]
    congr 1
    apply List.filterMap_congr
    intro place hplace
    rw [h.2 place hplace]
  have hfind : files.find formats path = files'.find formats path := by
    rw [find, find, h.1, hextended]
    simp only [whole, hdirectory]
  simp only [loadIn, hfind, shown, rooted, hdirectory, hreaders]

/-- A file that is there under its own name is read alike in whatever order formats are tried. -/
theorem loadIn_eq_of_isSome {files : Files} {path : String} (h : (files.file? path).isSome = true)
    (formats others : List Format) : files.loadIn formats path = files.loadIn others path := by
  obtain ⟨bytes?, hfile⟩ := Option.isSome_iff_exists.mp h
  rw [loadIn, loadIn, find, find, hfile]

/-- A path without a file at any of its candidates is not found. -/
theorem loadIn_of_absent {files : Files} {formats : List Format} {path : String}
    (h : ∀ candidate ∈ files.candidates formats path, files.file? candidate = none) :
    files.loadIn formats path = .error (.fileNotFound path) := by
  rw [candidates, List.forall_mem_cons, List.forall_mem_map] at h
  have hextended : findExtended? files path (Format.tried formats) = none := by
    rw [findExtended?_eq, List.findSome?_eq_none_iff]
    intro place hplace
    rw [h.2 place hplace, Option.map_none]
  rw [loadIn, find, h.1, hextended]
  rfl

end Layer.Files

namespace Settings

open Environment

/-- The variables of the settings, by their names in lowercase. -/
def IsSetting (name : String) : Prop := "oauth__".toList <+: (lowercase name).toList

/-- The variables of the settings are those that have the default prefix. -/
theorem hasStart_iff_isSetting {name : String} :
    hasStart defaultStart name = true ↔ IsSetting name := by
  rw [hasStart, lowercase_start, List.isPrefixOf_iff_prefix, IsSetting]

/-- The variable that names a file is none of the settings. -/
theorem not_isSetting_fileVariable : ¬IsSetting fileVariable := by
  rw [← hasStart_iff_isSetting]
  decide

/-- Variables of the settings that are the same may write the same. -/
theorem written_congr {vars vars' : SortedMap String}
    (h : ∀ name, IsSetting name → vars'.find? name = vars.find? name) (writes : Entries) :
    Written defaultStart vars' writes ↔ Written defaultStart vars writes := by
  have hoffered (entry : String × Value) : entry ∈ offered defaultStart vars'.entries ↔
      entry ∈ offered defaultStart vars.entries := by
    rw [mem_offered, mem_offered]
    refine exists_congr fun var => and_congr_left fun hvar => ?_
    rw [← SortedMap.find?_eq_some_iff, ← SortedMap.find?_eq_some_iff,
      h var.1 (hasStart_iff_isSetting.mp hvar.1)]
  rw [Environment.written_iff, Environment.written_iff, collected_iff, collected_iff]
  simp only [hoffered]

/-- A run depends on what is read from the sources and on what the variables write. -/
theorem Loads.frame {files files' : Files} {sources : List Source} {vars vars' : SortedMap String}
    (hread : ∀ formats, formats.Perm Format.all → ∀ source ∈ sources,
      source.readIn files formats = source.readIn files' formats)
    (hvars : ∀ name, IsSetting name → vars'.find? name = vars.find? name)
    {r : Logged (Except ConfigError Settings)} (h : Loads files sources defaultStart vars r) :
    Loads files' sources defaultStart vars' r := by
  cases h with
  | unread order read =>
    rw [mapM_congr (hread _ order)] at read
    exact .unread order read
  | merged order read visits written loads =>
    rw [mapM_congr (hread _ order)] at read
    exact .merged order read visits ((written_congr hvars _).mpr written) loads

/-- So do the endings of a process, and on whether all of its variables are texts. -/
theorem Runs.frame {files files' : Files} {sources : List Source} {vars vars' : ProcessVars}
    (hread : ∀ formats, formats.Perm Format.all → ∀ source ∈ sources,
      source.readIn files formats = source.readIn files' formats)
    (hvars : ∀ name, IsSetting name → vars'.texts.find? name = vars.texts.find? name)
    (hgarbled : vars'.garbled = [] ↔ vars.garbled = []) {r : Logged Ending}
    (h : Runs files sources defaultStart vars r) : Runs files' sources defaultStart vars' r := by
  cases h with
  | garbled h => exact .garbled fun heq => h (hgarbled.mp heq)
  | loads h loads => exact .loads (hgarbled.mpr h) (loads.frame hread hvars)

/-- Where a variable is no text, no run returns. -/
theorem Runs.value_of_garbled {files : Files} {sources : List Source} {start : String}
    {vars : ProcessVars} (hgarbled : vars.garbled ≠ []) {r : Logged Ending}
    (h : Runs files sources start vars r) : r.value = .aborted := by
  cases h with
  | garbled => rfl
  | loads htexts => exact absurd htexts hgarbled

/-! ## Without further instructions -/

/-- A file that is named is chosen. -/
theorem chosenFile?_of_some {files : Files} {vars : SortedMap String} {path : String}
    (h : vars.find? fileVariable = some path) : chosenFile? files vars = some path := by
  rw [chosenFile?, h]

/-- When none is named, the default file is chosen if there is anything of its name. -/
theorem chosenFile?_of_none {files : Files} {vars : SortedMap String}
    (h : vars.find? fileVariable = none) :
    chosenFile? files vars =
      if (files.place? defaultFile).isSome then some defaultFile else none := by
  rw [chosenFile?, h]

/-- The file that is chosen depends on one variable and on what is there when it is not set. -/
theorem chosenFile?_congr {files files' : Files} {vars vars' : SortedMap String}
    (hvar : vars'.find? fileVariable = vars.find? fileVariable)
    (hplace : vars.find? fileVariable = none →
      (files'.place? defaultFile).isSome = (files.place? defaultFile).isSome) :
    chosenFile? files' vars' = chosenFile? files vars := by
  cases h : vars.find? fileVariable with
  | none => rw [chosenFile?_of_none h, chosenFile?_of_none (hvar.trans h), hplace h]
  | some path => rw [chosenFile?_of_some h, chosenFile?_of_some (hvar.trans h)]

/-- A run without further instructions is a run over the file that is chosen. -/
theorem runsDefault_iff {files : Files} {vars : ProcessVars} {file : Option String}
    (h : chosenFile? files vars.texts = file) {r : Logged Ending} :
    RunsDefault files vars r ↔ ∃ lines, r.lines = chosenLine file :: lines ∧
      Runs files (file.toList.map Source.file) defaultStart vars ⟨r.value, lines⟩ := by
  rw [RunsDefault, h]

/-- Loading in ascending order is one of the runs. -/
theorem runsDefault_loadDefault (files : Files) {vars : ProcessVars} (htexts : vars.garbled = []) :
    RunsDefault files vars
      ⟨.ofResult (loadDefault files vars.texts).value, (loadDefault files vars.texts).lines⟩ :=
  ⟨_, rfl, .loads htexts (loads_load _ _ _ _)⟩

/-- The ending of a run that reads nothing from its only file is the fault of some way to read it. -/
theorem exists_of_runs_unread {files : Files} {path : String} {vars : ProcessVars} {r : Logged Ending}
    (htexts : vars.garbled = []) (h : Runs files [.file path] defaultStart vars r)
    (hnone : ∀ formats document, formats.Perm Format.all → files.loadIn formats path ≠ .ok document) :
    ∃ formats fault, formats.Perm Format.all ∧ files.loadIn formats path = .error fault ∧
      r.value = .ofResult (.error (.load fault)) := by
  have hsingle (formats : List Format) : [Source.file path].mapM (Source.readIn files formats) =
      (files.loadIn formats path).map fun document => [document] := by
    rw [List.mapM_cons, Source.readIn]
    cases files.loadIn formats path <;> rfl
  cases h with
  | garbled hgarbled => exact absurd htexts hgarbled
  | loads _ loads =>
    cases loads with
    | @unread formats fault order read =>
      rw [hsingle] at read
      cases hload : files.loadIn formats path with
      | ok document => exact absurd hload (hnone formats document order)
      | error fault' =>
        rw [hload] at read
        cases read
        exact ⟨formats, fault, order, hload, rfl⟩
    | @merged formats _ _ _ _ order read =>
      rw [hsingle] at read
      cases hload : files.loadIn formats path with
      | ok document => exact absurd hload (hnone formats document order)
      | error fault =>
        rw [hload] at read
        cases read

/-- What loading without further instructions does with files and with the variables of a process. -/
structure LoadsOneFile (files : Files) (vars : ProcessVars) : Prop where
  /-- Of what it may come to, one thing is what it comes to in ascending order. -/
  ascending : vars.garbled = [] → RunsDefault files vars
    ⟨.ofResult (loadDefault files vars.texts).value, (loadDefault files vars.texts).lines⟩
  /-- A file that a variable names is the only source besides the environment. -/
  named : ∀ path, vars.texts.find? fileVariable = some path → ∀ r, RunsDefault files vars r ↔
    ∃ lines, r.lines = fileLine path :: lines ∧
      Runs files [.file path] defaultStart vars ⟨r.value, lines⟩
  /-- There is nothing to fall back to when nothing can be read for its name: then loading fails, unless
  the process ends where a key is of no kind that is known. -/
  unreadable : ∀ path, vars.texts.find? fileVariable = some path → vars.garbled = [] →
    (∀ formats document, formats.Perm Format.all → files.loadIn formats path ≠ .ok document) →
      ∀ r, RunsDefault files vars r → ∃ formats fault, formats.Perm Format.all ∧
        files.loadIn formats path = .error fault ∧
          r.value = if fault.ends then .aborted else .returned (.error (.load fault))
  /-- Nothing can be read when there is no file at any place where it is sought. -/
  absent : ∀ path, vars.texts.find? fileVariable = some path → vars.garbled = [] →
    (∀ formats, formats.Perm Format.all → ∀ candidate ∈ files.candidates formats path,
      files.file? candidate = none) →
        ∀ r, RunsDefault files vars r → r.value = .returned (.error (.load (.fileNotFound path)))
  /-- When no variable names a file, the default one is the only source if there is one. -/
  default : vars.texts.find? fileVariable = none → (files.place? defaultFile).isSome = true →
    ∀ r, RunsDefault files vars r ↔ ∃ lines, r.lines = fileLine defaultFile :: lines ∧
      Runs files [.file defaultFile] defaultStart vars ⟨r.value, lines⟩
  /-- Otherwise the environment is the only source. -/
  alone : vars.texts.find? fileVariable = none → (files.place? defaultFile).isSome = false →
    ∀ r, RunsDefault files vars r ↔ ∃ lines, r.lines = noFileLine :: lines ∧
      Runs files [] defaultStart vars ⟨r.value, lines⟩
  /-- Nothing else matters: neither other files nor the texts of variables that are none of the
  settings. -/
  frame : ∀ files' vars', vars'.texts.find? fileVariable = vars.texts.find? fileVariable →
    (∀ name, IsSetting name → vars'.texts.find? name = vars.texts.find? name) →
      (vars'.garbled = [] ↔ vars.garbled = []) →
        (vars.texts.find? fileVariable = none →
          (files'.place? defaultFile).isSome = (files.place? defaultFile).isSome) →
          (∀ path, chosenFile? files vars.texts = some path → ∀ formats, formats.Perm Format.all →
            files'.loadIn formats path = files.loadIn formats path) →
            ∀ r, RunsDefault files' vars' r ↔ RunsDefault files vars r
  /-- What is read for a path depends on what stands at the places where its file is sought. -/
  places : ∀ files' : Files, files'.directory = files.directory → files'.readers = files.readers →
    ∀ formats path, (∀ candidate ∈ files.candidates formats path,
      files'.file? candidate = files.file? candidate) →
        files'.loadIn formats path = files.loadIn formats path
  /-- The variable that names a file gives the settings nothing. -/
  silent : ∀ sources vars',
    (∀ name, name ≠ fileVariable → vars'.find? name = vars.texts.find? name) →
      ∀ r, Loads files sources defaultStart vars' r ↔ Loads files sources defaultStart vars.texts r
  /-- A variable that is no text ends the process. -/
  garbled : vars.garbled ≠ [] → ∀ r, RunsDefault files vars r → r.value = .aborted

/-- Without further instructions, settings are loaded from one file at most and from the variables
of the settings, and from nothing else. -/
theorem loadDefault_reads_one_file (files : Files) (vars : ProcessVars) :
    LoadsOneFile files vars where
  ascending := runsDefault_loadDefault files
  named path h r := runsDefault_iff (chosenFile?_of_some h)
  unreadable path h htexts hnone r hr := by
    obtain ⟨lines, _, hruns⟩ := (runsDefault_iff (chosenFile?_of_some h)).mp hr
    have hunread := exists_of_runs_unread htexts hruns hnone
    exact hunread
  absent path h htexts habsent r hr := by
    obtain ⟨lines, _, hruns⟩ := (runsDefault_iff (chosenFile?_of_some h)).mp hr
    have hmissing (formats : List Format) (order : formats.Perm Format.all) :
        files.loadIn formats path = .error (.fileNotFound path) :=
      Files.loadIn_of_absent (habsent formats order)
    obtain ⟨formats, fault, order, hfault, hvalue⟩ := exists_of_runs_unread htexts hruns
      fun formats document order hload => by
        rw [hmissing formats order] at hload
        cases hload
    rw [hmissing formats order] at hfault
    cases hfault
    exact hvalue
  default h hplace r := by
    have hchosen : chosenFile? files vars.texts = some defaultFile := by
      rw [chosenFile?_of_none h, if_pos hplace]
    exact runsDefault_iff hchosen
  alone h hplace r := by
    have hchosen : chosenFile? files vars.texts = none := by
      rw [chosenFile?_of_none h, hplace]
      rfl
    exact runsDefault_iff hchosen
  frame files' vars' hvar hvars hgarbled hplace hload r := by
    rw [RunsDefault, RunsDefault, chosenFile?_congr hvar hplace]
    have hread : ∀ formats, formats.Perm Format.all →
        ∀ source ∈ (chosenFile? files vars.texts).toList.map Source.file,
          source.readIn files' formats = source.readIn files formats := by
      intro formats order source hsource
      obtain ⟨path, hpath, rfl⟩ := List.mem_map.mp hsource
      exact hload path (Option.mem_toList.mp hpath) formats order
    refine exists_congr fun lines => and_congr_right fun _ => ⟨fun h => ?_, fun h => ?_⟩
    · exact h.frame hread (fun name hname => (hvars name hname).symm) hgarbled.symm
    · exact h.frame (fun formats order source hsource => (hread formats order source hsource).symm)
        hvars hgarbled
  places files' hdirectory hreaders formats path h := by
    have hplaces : ∀ candidate ∈ files.candidates formats path,
        files.file? candidate = files'.file? candidate :=
      fun candidate hcandidate => (h candidate hcandidate).symm
    exact (Files.loadIn_congr hdirectory.symm hreaders.symm hplaces).symm
  silent sources vars' hvars r := by
    have hsettings (name : String) (hname : IsSetting name) :
        vars'.find? name = vars.texts.find? name := by
      refine hvars name fun heq => ?_
      subst heq
      exact not_isSetting_fileVariable hname
    constructor
    · exact fun h => h.frame (fun _ _ _ _ => rfl) fun name hname => (hsettings name hname).symm
    · exact fun h => h.frame (fun _ _ _ _ => rfl) hsettings
  garbled hgarbled r hr := by
    obtain ⟨lines, _, hruns⟩ := hr
    have hvalue := hruns.value_of_garbled hgarbled
    exact hvalue

/-- A variable that is none of the settings and no text. -/
def garbledVars : ProcessVars where
  texts := ∅
  garbled := [("LANG".toUTF8.toList, [0xff])]

/-- A file in which a key is a boolean value. -/
def booleanTree : Tree := SortedMap.ofList [("oauth.yaml", "true: 1\n".toUTF8.toList)]

/-- A variable that names it. -/
def booleanVars : ProcessVars where
  texts := SortedMap.ofList [(fileVariable, "oauth.yaml")]

/-- The file ends the program in whatever order formats are tried. -/
theorem loadIn_booleanTree (formats : List Format) :
    booleanTree.files.loadIn formats "oauth.yaml" = .error .keyKind := by
  have hread : (booleanTree.files.loadIn Format.all "oauth.yaml").map (fun _ => ()) =
      .error .keyKind := by
    decide +kernel
  rw [Files.loadIn_eq_of_isSome (by decide +kernel) formats Format.all]
  exact map_eq_error.mp hread

/-- A variable that is none of the settings and no text ends the process, and so does a file that is
named and in which a key is of no kind that is known. -/
theorem runsDefault_may_abort :
    (¬IsSetting "LANG" ∧ (∃ r, RunsDefault ∅ ⟨∅, []⟩ r ∧ r.value = .returned (.ok {})) ∧
      ∀ r, RunsDefault ∅ garbledVars r → r.value = .aborted) ∧
    (∀ formats document, booleanTree.files.loadIn formats "oauth.yaml" ≠ .ok document) ∧
      ∀ r, RunsDefault booleanTree booleanVars r → r.value = .aborted := by
  have hnone (formats : List Format) (document : Entries) :
      booleanTree.files.loadIn formats "oauth.yaml" ≠ .ok document := by
    rw [loadIn_booleanTree]
    exact fun h => by cases h
  refine ⟨⟨?_, ?_, fun r hr => ?_⟩, hnone, fun r hr => ?_⟩
  · rw [← hasStart_iff_isSetting]
    decide
  · have hvalue : (loadDefault ∅ ∅).value = .ok {} := by decide +kernel
    refine ⟨_, runsDefault_loadDefault ∅ rfl, ?_⟩
    rw [hvalue]
    rfl
  · obtain ⟨lines, _, hruns⟩ := hr
    exact hruns.value_of_garbled (by decide)
  · have hnamed : booleanVars.texts.find? fileVariable = some "oauth.yaml" := by decide
    obtain ⟨lines, _, hruns⟩ := (runsDefault_iff (chosenFile?_of_some hnamed)).mp hr
    obtain ⟨formats, fault, _, hfault, hvalue⟩ :=
      exists_of_runs_unread rfl hruns fun formats document _ => hnone formats document
    rw [loadIn_booleanTree] at hfault
    cases hfault
    exact hvalue

end Settings

end GrantConfig
