import GrantConfig.Layer.Visits
import GrantConfig.Settings.Loader

/-!
# What loading may come to

The order in which maps are gone through shows in what loading comes to where keys collapse, where the
path of one key leads into what another one writes, where two spellings with underscores are one with
hyphens, and where there is more than one fault. So loading is a relation: a run takes the formats of
files in some order, every table and the variables in some order, and in the end the providers and the
fields of each of them. `Settings.load` is the run in which everything stands in ascending order.
-/

namespace GrantConfig

open Layer

namespace Provider

/-- What a value of the providers' section may load as: the spellings of its entries are folded in any
order, and the fields are then loaded in any order. -/
inductive LoadsAs : Value → Except Fault Provider → Prop
  | table {entries visited fields : Entries} (spellings : visited.Perm entries)
      (order : fields.Perm (kebabFields visited)) : LoadsAs (.table entries) (loadFields {} fields)
  | other {v : Value} (h : ∀ entries, v ≠ .table entries) : LoadsAs v (ofValue v)

end Provider

namespace Settings

/-- What providers may load to, one after the other, up to the first that does not load. -/
inductive FillsAs : SortedMap Provider → Entries → Except ConfigError (SortedMap Provider) → Prop
  | nil (known : SortedMap Provider) : FillsAs known [] (.ok known)
  | cons {known : SortedMap Provider} {name : String} {v : Value} {p : Provider} {rest : Entries}
      {r : Except ConfigError (SortedMap Provider)} (first : Provider.LoadsAs v (.ok p))
      (more : FillsAs (known.insert name p) rest r) : FillsAs known ((name, v) :: rest) r
  | fault (known : SortedMap Provider) (name : String) {v : Value} {fault : Fault} (rest : Entries)
      (first : Provider.LoadsAs v (.error fault)) :
      FillsAs known ((name, v) :: rest) (.error (.provider name (.load fault)))

/-- What the providers' section may load to, when its providers come in any order. -/
inductive SectionLoadsAs : Option Value → Except ConfigError Settings → Prop
  | table {entries visited : Entries} {r : Except ConfigError (SortedMap Provider)}
      (order : visited.Perm entries) (fills : FillsAs ∅ visited r) :
      SectionLoadsAs (some (.table entries)) (r.map Settings.mk)
  | other {found : Option Value} (h : ∀ entries, found ≠ some (.table entries)) :
      SectionLoadsAs found (ofSection found)

/-- What loading from sources and from the environment may come to, with its lines. -/
inductive Loads (files : Files) (sources : List Source) (start : String) (vars : SortedMap String) :
    Logged (Except ConfigError Settings) → Prop
  /-- A source cannot be read. -/
  | unread {formats : List Format} {fault : Fault} (order : formats.Perm Format.all)
      (read : sources.mapM (Source.readIn files formats) = .error fault) :
      Loads files sources start vars (told sources false (.error (.load fault)))
  /-- The documents and what the variables write are merged, and the section is loaded. -/
  | merged {formats : List Format} {documents visited : List Entries} {writes : Entries}
      {r : Except ConfigError Settings} (order : formats.Perm Format.all)
      (read : sources.mapM (Source.readIn files formats) = .ok documents)
      (visits : List.Forall₂ DocumentVisited documents visited)
      (written : Environment.Written start vars writes)
      (loads : SectionLoadsAs (section? (mergeSources (visited ++ [writes]))) r) :
      Loads files sources start vars
        (told sources (section? (mergeSources (visited ++ [writes]))).isNone r)

/-- How loading from sources and from the variables of the process may end, with its lines. The
variables are listed before anything is read, and that ends a process that has others than texts. -/
inductive Runs (files : Files) (sources : List Source) (start : String) (vars : ProcessVars) :
    Logged Ending → Prop
  | garbled (h : vars.garbled ≠ []) :
      Runs files sources start vars ⟨.aborted, sources.filterMap Source.line?⟩
  | loads {r : Logged (Except ConfigError Settings)} (h : vars.garbled = [])
      (loads : Loads files sources start vars.texts r) :
      Runs files sources start vars ⟨.ofResult r.value, r.lines⟩

/-- How loading from one file at most and from the variables of the process may end, with its lines. A
variable that is no text names no file. -/
def RunsDefault (files : Files) (vars : ProcessVars) (r : Logged Ending) : Prop :=
  ∃ lines, r.lines = chosenLine (chosenFile? files vars.texts) :: lines ∧
    Runs files ((chosenFile? files vars.texts).toList.map Source.file) defaultStart vars
      ⟨r.value, lines⟩

end Settings

end GrantConfig
