import GrantConfig.Expected
import GrantConfig.Layer.Value

/-!
# Faults of loading

Why the sources of a configuration cannot be read, merged or bound, and how each fault is worded.
-/

namespace GrantConfig.Layer

/-- Why a configuration cannot be loaded. -/
inductive Fault where
  /-- A value is of the wrong kind; `found` are the words for it. -/
  | mismatch (found : String) (expected : Expected) (key : Option String) (origin : Option Origin)
  /-- A value is no list of scopes or of parameters. -/
  | shape (fault : Shape.Fault)
  /-- There is no file of a name, with any known extension. -/
  | fileNotFound (path : String)
  /-- The extension of a file is not known. -/
  | unknownFormat (path : String)
  /-- The bytes of a file are no text, or they cannot be read, which is worded no other way here. -/
  | notText
  /-- A text does not follow its format. -/
  | malformed
  /-- The root of a document is no table; `found` are the words for it. -/
  | rootMismatch (found : String) (file : Option String)
  /-- A text holds several documents. -/
  | severalDocuments (count : Nat) (file : Option String)
  /-- A key is neither a text nor an integer. This is no error that loading returns: the program ends
  there. -/
  | keyKind
deriving DecidableEq, Repr

/-- Whether a fault ends the program, so that nothing is returned. -/
def Fault.ends : Fault → Bool
  | .keyKind => true
  | _ => false

/-- Words that follow for what is known. -/
def suffixed (lead : String) (text : Option String) : String := text.elim "" (lead ++ ·)

/-- The wording of a fault. -/
def Fault.message : Fault → String
  | .mismatch found expected key origin =>
    expected.mismatch found ++ suffixed " for key " (key.map Text.Quoted.backquote) ++
      suffixed " in " (origin.map Origin.words)
  | .shape fault => fault.message
  | .fileNotFound path => "configuration file \"" ++ path ++ "\" not found"
  | .unknownFormat path =>
    "configuration file \"" ++ path ++ "\" is not of a registered file format"
  | .notText => "stream did not contain valid UTF-8"
  | .malformed => "malformed document"
  | .rootMismatch found file =>
    Expected.map.mismatch found ++ suffixed " in " file ++ suffixed " in " file
  | .severalDocuments count file =>
    "Got " ++ toString count ++ " YAML documents, expected 1" ++ suffixed " in " file
  | .keyKind => "mapping key is neither a text nor an integer"

end GrantConfig.Layer
