import GrantConfig.Layer.Environment
import GrantConfig.Layer.Files
import GrantConfig.Layer.Merge
import GrantConfig.Settings.Basic

/-!
# Loading settings

Settings are loaded from documents and from the environment, which is laid over all documents.
The providers stand in one section of the merged table. Their fields may be spelled with hyphens
or with underscores, and hyphens win.

Entries are gone through in ascending order of their keys, which stands for an order that is not
specified. It decides which of two spellings is taken where neither has hyphens throughout, and which
fault is named where there are several. What may come of any other order is the subject of
`Settings.Loads`.
-/

namespace GrantConfig

open Layer

/-- The spelling of a field key with hyphens. -/
def kebabKey (key : String) : String :=
  String.ofList (key.toList.map fun c => if c = '_' then '-' else c)

/-- Whether a key is spelled with underscores. -/
def isSnakeKey (key : String) : Bool := key.toList.contains '_'

/-- Entries with keys spelled with hyphens. A key that has no underscores wins over one that has, and
of several with underscores the first one wins. -/
def kebabFields (entries : Entries) : Entries :=
  (entries.filter fun entry => isSnakeKey entry.1).foldl
    (fun acc entry =>
      if (List.lookup (kebabKey entry.1) acc).isSome then acc
      else insertEntry (kebabKey entry.1) entry.2 acc)
    (entries.filter fun entry => !isSnakeKey entry.1)

namespace Provider

/-- The text that a value configures under a key. Any scalar but null is written out. -/
def loadText (key : String) : Value → Except Fault (Option String)
  | .scalar _ s => .ok s.text?
  | .list origin _ => .error (.mismatch "sequence" .text (some key) origin)
  | .table _ => .error (.mismatch "map" .text (some key) none)

/-- A provider with one more field loaded from a value. -/
def loadField (p : Provider) (v : Value) : Field → Except Fault Provider
  | .clientId => return { p with clientId := ← loadText Field.clientId.key v }
  | .clientSecret => return { p with clientSecret := ← loadText Field.clientSecret.key v }
  | .redirectUri => return { p with redirectUri := ← loadText Field.redirectUri.key v }
  | .tokenPath => return { p with tokenPath := ← loadText Field.tokenPath.key v }
  | .codePath => return { p with codePath := ← loadText Field.codePath.key v }
  | .userInfoPath => return { p with userInfoPath := ← loadText Field.userInfoPath.key v }
  | .scopes => return { p with scopes := ← v.shape.scopes.mapError .shape }
  | .extraParams => return { p with extraParams := ← v.shape.params.mapError .shape }

/-- Load the fields of entries in order; keys that name no field are skipped. The first fault is the
one that is found. -/
def loadFields (p : Provider) : Entries → Except Fault Provider
  | [] => .ok p
  | (key, v) :: rest =>
    match Field.ofKey? key with
    | none => loadFields p rest
    | some field => do loadFields (← p.loadField v field) rest

/-- The provider that a value of the providers' section configures. -/
def ofValue : Value → Except Fault Provider
  | .table entries => loadFields {} (kebabFields entries)
  | .list origin items => .error (.mismatch (Value.list origin items).description .map none origin)
  | .scalar origin s => .error (.mismatch s.description .map none origin)

end Provider

namespace Settings

/-- The root key of the settings. -/
def rootKey : String := "oauth"

/-- The key of the providers. -/
def providersKey : String := "providers"

/-- The path of the providers' section. -/
def sectionKey : String := rootKey ++ "." ++ providersKey

/-- What begins the names of variables unless something else is asked for. -/
def defaultStart : String := "OAUTH"

/-- The variable that names the file to load. -/
def fileVariable : String := "OAUTH_CONFIG_FILE"

/-- The file to load when no variable names one. -/
def defaultFile : String := "config.toml"

/-- The merged table of documents in their order and of the environment. -/
def merged (documents : List Entries) (start : String) (vars : SortedMap String) : Entries :=
  mergeSources (documents ++ [Environment.source start vars])

/-- The providers' section of the merged table. -/
def section? (root : Entries) : Option Value :=
  match List.lookup rootKey root with
  | some (.table entries) => List.lookup providersKey entries
  | _ => none

/-- Load providers in order, each under its name, up to the first that does not load. -/
def loadEntries (known : SortedMap Provider) : Entries → Except ConfigError (SortedMap Provider)
  | [] => .ok known
  | (name, v) :: rest =>
    match Provider.ofValue v with
    | .ok p => loadEntries (known.insert name p) rest
    | .error fault => .error (.provider name (.load fault))

/-- The settings of the providers' section. -/
def ofSection : Option Value → Except ConfigError Settings
  | none => .ok {}
  | some (.table entries) => (loadEntries ∅ entries).map Settings.mk
  | some (.list origin items) =>
    .error (.load (.mismatch (Value.list origin items).description .map (some sectionKey) origin))
  | some (.scalar origin s) =>
    .error (.load (.mismatch s.description .map (some sectionKey) origin))

/-- The settings of documents in their order and of the environment. -/
def ofDocuments (documents : List Entries) (start : String) (vars : SortedMap String) :
    Except ConfigError Settings :=
  ofSection (section? (merged documents start vars))

/-- A source of settings besides the environment. -/
inductive Source where
  | file (path : String)
  | text (content : String) (format : Format)
deriving DecidableEq, Repr

/-- The document of a source. The formats of a file without a known extension are tried in some
order. -/
def Source.readIn (files : Files) (formats : List Format) : Source → Except Fault Entries
  | .file path => files.loadIn formats path
  | .text content format => parseDocument files.readers format none content

/-- The document of a source, with the formats in the order in which they are listed. -/
def Source.read (files : Files) : Source → Except Fault Entries := Source.readIn files Format.all

/-- The line that tells of a source, if it is a file. -/
def Source.line? : Source → Option LogLine
  | .file path => some ⟨.debug, "Adding OAuth configuration file " ++ path⟩
  | .text _ _ => none

/-- The line that tells that there is no section of providers. -/
def noSectionLine : LogLine := ⟨.debug, "No '" ++ sectionKey ++ "' section configured"⟩

/-- The line that tells which providers have been loaded. -/
def loadedLine (s : Settings) : LogLine :=
  ⟨.info, "Loaded OAuth configuration for providers: " ++ Text.Quoted.quoteList s.names⟩

/-- What loading comes to, with its lines: those of the sources, one for a missing section and one for
what has been loaded. -/
def told (sources : List Source) (missing : Bool) (r : Except ConfigError Settings) :
    Logged (Except ConfigError Settings) :=
  let lines := sources.filterMap Source.line? ++ (if missing then [noSectionLine] else [])
  match r with
  | .error e => ⟨.error e, lines⟩
  | .ok s => ⟨.ok s, lines ++ [loadedLine s]⟩

/-- Load settings from sources and from the environment, with the lines that tell of it. An error that
is a fault which ends the program is not returned; see `Ending`. -/
def load (files : Files) (sources : List Source) (start : String) (vars : SortedMap String) :
    Logged (Except ConfigError Settings) :=
  match sources.mapM (Source.read files) with
  | .error fault => told sources false (.error (.load fault))
  | .ok documents =>
    let found := section? (merged documents start vars)
    told sources found.isNone (ofSection found)

/-- How loading ends: it returns, or it ends the program. -/
inductive Ending where
  | returned (r : Except ConfigError Settings)
  | aborted

/-- The ending that a result stands for. -/
def Ending.ofResult : Except ConfigError Settings → Ending
  | .ok s => .returned (.ok s)
  | .error (.load fault) => if fault.ends then .aborted else .returned (.error (.load fault))
  | .error e => .returned (.error e)

/-- The line that tells from which file settings are loaded. -/
def fileLine (path : String) : LogLine := ⟨.info, "Loading OAuth configuration from " ++ path⟩

/-- The line that tells that settings come from the environment alone. -/
def noFileLine : LogLine :=
  ⟨.debug, "No config file found at " ++ defaultFile ++ ", using environment only"⟩

/-- The file to load for an environment: the one that a variable names, or else the default one if
there is anything of its name. -/
def chosenFile? (files : Files) (vars : SortedMap String) : Option String :=
  match vars.find? fileVariable with
  | some path => some path
  | none => if (files.place? defaultFile).isSome then some defaultFile else none

/-- The line that tells of the file that is chosen. -/
def chosenLine (file : Option String) : LogLine := file.elim noFileLine fileLine

/-- Load settings from one file at most and from an environment of texts. A process may have other
variables too; see `ProcessVars`. -/
def loadDefault (files : Files) (vars : SortedMap String) : Logged (Except ConfigError Settings) :=
  let file := chosenFile? files vars
  let loaded := load files (file.toList.map Source.file) defaultStart vars
  ⟨loaded.value, chosenLine file :: loaded.lines⟩

/-- The variables of a process: those whose names and values are texts, and the others as bytes. A
process that has others is ended where its variables are listed. -/
structure ProcessVars where
  texts : SortedMap String
  garbled : List (List UInt8 × List UInt8) := []

end Settings

end GrantConfig
