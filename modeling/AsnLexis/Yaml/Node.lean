import AsnLexis.Yaml.Datum

/-! Nodes of a YAML document. -/

namespace AsnLexis.Yaml

/-- A node with the line it starts on, from 1. A reference holds the number of the anchored node. -/
inductive Node where
  | scalar (line : Nat) (tag : Tag) (text : Bytes)
  | sequence (line : Nat) (tag : Tag) (items : List Node)
  | mapping (line : Nat) (tag : Tag) (entries : List (Node × Node))
  | reference (line : Nat) (name : Bytes) (target : Nat)

namespace Node

def line : Node → Nat
  | scalar line _ _ => line
  | sequence line _ _ => line
  | mapping line _ _ => line
  | reference line _ _ => line

def tag : Node → Tag
  | scalar _ tag _ => tag
  | sequence _ tag _ => tag
  | mapping _ tag _ => tag
  | reference _ _ _ => []

def text : Node → Bytes
  | scalar _ _ text => text
  | sequence _ _ _ => []
  | mapping _ _ _ => []
  | reference _ name _ => name

def isLike : Node → Node → Bool
  | scalar _ _ _, scalar _ _ _ => true
  | sequence _ _ _, sequence _ _ _ => true
  | mapping _ _ _, mapping _ _ _ => true
  | reference _ _ _, reference _ _ _ => true
  | _, _ => false

/-- A place where a node could stand and none does. -/
def nothing (mark : Mark) : Node := scalar (mark.line + 1) .null []

def ofScalar (line : Nat) (plain : Bool) (text : Bytes) : Node :=
  if !plain then scalar line .str text
  else if text == utf8 "<<" then scalar line .merge text
  else scalar line (Datum.ofPlain true text).tag text

/-- A plain double less-than sign, under which other mappings are taken over. -/
def isMerge : Node → Bool
  | scalar _ tag text => text == utf8 "<<" && tag == .merge
  | _ => false

end Node

structure Document where
  root : Node
  anchored : List (Nat × Node)

def Document.resolve (d : Document) : Node → Node
  | .reference line name target => (d.anchored.lookup target).getD (.reference line name target)
  | node => node

end AsnLexis.Yaml
