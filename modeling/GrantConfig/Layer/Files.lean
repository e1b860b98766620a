import GrantConfig.Layer.Document
import GrantConfig.Text.Utf8

/-!
# Files as sources

How a path finds a file: as it is, or else with a known extension put behind it. The format follows
from the extension, in its exact letter case. Of the files themselves nothing is supposed but that a
path leads to a file, to something else or nowhere. A tree of files is one case of it.
-/

namespace GrantConfig.Layer

/-- What a path leads to: a file, with its bytes if they can be read, or anything else. -/
inductive Place where
  | file (bytes? : Option (List UInt8))
  | directory
deriving DecidableEq

/-- What loading finds outside. -/
structure Files where
  /-- The names on the way from the root to the directory where the configuration is loaded. There
  are none when that directory is all there is; its paths are then shown as they are written. -/
  directory : List String
  /-- What a path leads to, from that directory or, with a slash in front, from the root. -/
  place? : String → Option Place
  /-- The readers of the formats that are not read here. -/
  readers : Readers

namespace Files

/-- The parts of a path between slashes. -/
def components (path : String) : List String :=
  (Text.pieces (· = '/') path.toList).map String.ofList

/-- The parts of a path that say something: no empty ones and no single points. -/
def significant (path : String) : List String :=
  (components path).filter fun part => part ≠ "" ∧ part ≠ "."

/-- A path without empty parts and single points. -/
def shortPath (path : String) : String := "/".intercalate (significant path)

/-- Whether a path begins at the root. -/
def isRooted (path : String) : Bool := path.toList.head? = some '/'

/-- The parts of a path from the root on. -/
def rooted (files : Files) (path : String) : List String :=
  if isRooted path then significant path else files.directory ++ significant path

/-- The way from one directory to what another way from the root leads to. -/
def wayFrom : List String → List String → List String
  | [], way => way
  | base, [] => base.map fun _ => ".."
  | part :: base, next :: way =>
    if part = next then wayFrom base way else (part :: base).map (fun _ => "..") ++ next :: way

/-- A path as the origin of what is read there: from the directory on. -/
def shown (files : Files) (path : String) : String :=
  "/".intercalate (wayFrom files.directory (files.rooted path))

/-- A path with the directory in front, unless it begins at the root. -/
def whole (files : Files) (path : String) : String :=
  if isRooted path || files.directory.isEmpty then path
  else String.join (files.directory.map ("/" ++ ·)) ++ "/" ++ path

/-- The file that a path leads to: its bytes if they can be read. -/
def file? (files : Files) (path : String) : Option (Option (List UInt8)) :=
  match files.place? path with
  | some (.file bytes?) => some bytes?
  | _ => none

/-- The extension of the last part of a path; a point at its start is part of the name. -/
def extension? (path : String) : Option String := do
  let name ← (significant path).getLast?
  guard (name ≠ "..")
  let cs := name.toList
  let extension := (cs.reverse.takeWhile (· ≠ '.')).reverse
  guard (extension.length + 1 < cs.length)
  return String.ofList extension

/-- A path with an extension put behind its last part that says something. Where there is none, that
is the name of the directory. There is no extension behind the root or a parent. -/
def withExtension? (files : Files) (path extension : String) : Option String := do
  let name ← (files.rooted path).getLast?
  guard (name ≠ "..")
  let kept := (components path).reverse.dropWhile fun part => part = "" || part = "."
  let stem :=
    if kept.isEmpty then String.join (files.directory.map ("/" ++ ·))
    else "/".intercalate kept.reverse
  return stem ++ "." ++ extension

/-- A file that a path finds. -/
structure Found where
  path : String
  format : Format
  bytes? : Option (List UInt8)

/-- Find a file with one of some extensions behind a path. -/
def findExtended? (files : Files) (path : String) : List (String × Format) → Option Found
  | [] => none
  | (extension, format) :: rest =>
    match (files.withExtension? path extension).bind fun path => (files.file? path).map (path, ·) with
    | some (path, bytes?) => some ⟨path, format, bytes?⟩
    | none => findExtended? files path rest

/-- Find the file of a path, where formats are tried in some order. -/
def find (files : Files) (formats : List Format) (path : String) : Except Fault Found :=
  match files.file? path with
  | some bytes? =>
    match (extension? path).bind Format.ofExtension? with
    | some format => .ok ⟨path, format, bytes?⟩
    | none => .error (.unknownFormat (files.whole path))
  | none =>
    match findExtended? files path (Format.tried formats) with
    | some found => .ok found
    | none => .error (.fileNotFound path)

/-- The entries of the file of a path, where formats are tried in some order. -/
def loadIn (files : Files) (formats : List Format) (path : String) : Except Fault Entries := do
  let found ← files.find formats path
  match found.bytes?.bind Text.Utf8.decode? with
  | none => throw .notText
  | some cs =>
    parseDocument files.readers found.format (some (files.shown found.path)) (String.ofList cs)

end Files

/-! ## Trees of files -/

/-- Files by their paths from a directory, all of which can be read, with nothing outside of it. -/
abbrev Tree := SortedMap (List UInt8)

namespace Tree

/-- What stands at the end of a way from the top of the tree. -/
def placeAt? (tree : Tree) (way : List String) : Option Place :=
  match tree.find? ("/".intercalate way) with
  | some bytes => some (.file (some bytes))
  | none =>
    let inside := String.toList (String.join (way.map (· ++ "/")))
    if way.isEmpty || tree.keys.any fun key => inside.isPrefixOf key.toList then some .directory
    else none

/-- Follow the parts of a path from a directory; `way` leads to it, its last part first. Every
place on the way must be a directory, and there is no way out of the tree. -/
def walk? (tree : Tree) (way : List String) : List String → Option Place
  | [] => placeAt? tree way.reverse
  | part :: rest =>
    if placeAt? tree way.reverse ≠ some .directory then none
    else if part = "" ∨ part = "." then walk? tree way rest
    else if part = ".." then if way.isEmpty then none else walk? tree way.tail rest
    else walk? tree (part :: way) rest

/-- What a path leads to within the tree. -/
def place? (tree : Tree) (path : String) : Option Place :=
  if Files.isRooted path then none else walk? tree [] (Files.components path)

/-- The tree as all that loading finds outside. -/
def files (tree : Tree) : Files := ⟨[], place? tree, Readers.refusing⟩

end Tree

instance : Coe Tree Files := ⟨Tree.files⟩

instance : EmptyCollection Files := ⟨Tree.files ∅⟩

end GrantConfig.Layer
