import GrantConfig.Yaml.Tag

/-!
# YAML tokens

The marks and texts that a document is made of. Indentation decides where block collections begin
and end, and these places are tokens too.
-/

namespace GrantConfig.Yaml

/-- A token. The end of the list is the end of the text. -/
inductive Token where
  | version
  | handle (handle meaning : String)
  | documentStart
  | documentEnd
  | blockSequenceStart
  | blockMappingStart
  | blockEnd
  | flowSequenceStart
  | flowSequenceEnd
  | flowMappingStart
  | flowMappingEnd
  | blockEntry
  | flowEntry
  | key
  | value
  | reference (name : String)
  | anchor (name : String)
  | tag (t : Tag)
  | scalar (plain : Bool) (text : String)
deriving DecidableEq, Repr

end GrantConfig.Yaml
