import GrantConfig.Decimal.Reading

/-!
# YAML nodes

A document as a tree. A plain scalar without a tag is null, a boolean, an integer, a real number
or a text by the way it is written; the few core tags ask for one of these, and what does not fit
its tag is `bad`. Keys of mappings are nodes of any kind.
-/

namespace GrantConfig.Yaml

/-- A node. A real number keeps its text. -/
inductive Node where
  | null
  | boolean (b : Bool)
  | integer (n : Int)
  | real (text : String)
  | text (s : String)
  | sequence (items : List Node)
  | mapping (pairs : List (Node × Node))
  | bad

namespace Node

mutual

/-- Whether two nodes are the same, the order of mappings included. -/
def same : Node → Node → Bool
  | null, null => true
  | boolean b, boolean c => b == c
  | integer m, integer n => m == n
  | real s, real t => s == t
  | text s, text t => s == t
  | sequence xs, sequence ys => sameItems xs ys
  | mapping xs, mapping ys => samePairs xs ys
  | bad, bad => true
  | _, _ => false

/-- Whether two lists of nodes are the same. -/
def sameItems : List Node → List Node → Bool
  | [], [] => true
  | x :: xs, y :: ys => same x y && sameItems xs ys
  | _, _ => false

/-- Whether two lists of pairs are the same. -/
def samePairs : List (Node × Node) → List (Node × Node) → Bool
  | [], [] => true
  | (a, x) :: xs, (b, y) :: ys => same a b && same x y && samePairs xs ys
  | _, _ => false

end

/-- Whether a node is bad. -/
def isBad : Node → Bool
  | bad => true
  | _ => false

/-- The double that a real number writes. -/
def realValue? (s : String) : Option Float :=
  if [".inf", ".Inf", ".INF", "+.inf", "+.Inf", "+.INF"].contains s then some Decimal.infinity
  else if ["-.inf", "-.Inf", "-.INF"].contains s then some (-Decimal.infinity)
  else if [".nan", ".NaN", ".NAN"].contains s then some Decimal.notANumber
  else Decimal.float? s.toList

/-- The integer that a plain scalar writes: decimal, or in base sixteen or eight behind a mark. -/
def integer? (s : String) : Option Int :=
  let marked :=
    match s.toList with
    | '0' :: 'x' :: cs => Decimal.int64? 16 cs
    | '0' :: 'o' :: cs => Decimal.int64? 8 cs
    | '+' :: cs => Decimal.int64? 10 cs
    | _ => none
  marked <|> Decimal.int64? 10 s.toList

/-- The node of a plain scalar without a tag. -/
def ofPlain (s : String) : Node :=
  if s = "" ∨ s = "~" ∨ s = "null" then null
  else if s = "true" then boolean true
  else if s = "false" then boolean false
  else
    match integer? s with
    | some n => integer n
    | none => if (realValue? s).isSome then real s else text s

/-- The node of a plain scalar with a core tag. -/
def ofCoreTag (suffix s : String) : Node :=
  if suffix = "bool" then
    if s = "true" then boolean true else if s = "false" then boolean false else bad
  else if suffix = "int" then
    match Decimal.int64? 10 s.toList with
    | some n => integer n
    | none => bad
  else if suffix = "float" then if (realValue? s).isSome then real s else bad
  else if suffix = "null" then if s = "~" ∨ s = "null" then null else bad
  else text s

/-- Put the nodes of a mapping together, key by key. A bad key gives its place to the next node,
and a key must not come twice. `known` are the pairs so far, the last one first. -/
def pairUp (known : List (Node × Node)) : (key? : Option Node) → List Node →
    Option (List (Node × Node))
  | _, [] => some known.reverse
  | none, node :: rest => pairUp known (if node.isBad then none else some node) rest
  | some key, node :: rest =>
    if known.any fun pair => same pair.1 key then none
    else pairUp ((key, node) :: known) none rest

end Node

end GrantConfig.Yaml
