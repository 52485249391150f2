import CustomCommands.Yaml.Tag

/-!
# YAML tokens

The marks of the notation in the order of the text. Where lines and columns
give the structure, tokens stand for it: a block's start and end have tokens of
their own, and a key has one before it even where nothing is written there.
-/

namespace CustomCommands.Yaml

inductive Token where
  | directive (d : Directive)
  | documentStart
  | documentEnd
  | blockSequence
  | blockMapping
  | blockEnd
  | flowSequence
  | flowSequenceEnd
  | flowMapping
  | flowMappingEnd
  | blockEntry
  | flowEntry
  | key
  | value
  | reference (name : String)
  | anchor (name : String)
  | tag (t : Tag)
  | scalar (text : String) (plain : Bool)
  deriving DecidableEq, Repr

end CustomCommands.Yaml
