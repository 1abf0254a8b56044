import RouteDoc.Yaml.Node

/-!
The value of a YAML text: its root node with the aliases followed. Each alias followed counts, and a
text may follow a hundred for each of its events; what an alias stands for beyond that, or deeper than
any value is read, cannot be read.
-/

namespace RouteDoc.Yaml

/-- A value. Collections say whether they have a tag of their own. -/
inductive Value where
  | scalar (value : Scalar)
  | list (tagged : Bool) (items : List Value)
  | mapping (tagged : Bool) (entries : List (Value × Value))
  | unreadable
  deriving Repr, Inhabited

mutual

/-- The number of events that a node is made of. -/
def Node.events : Node → Nat
  | .scalar _ => 1
  | .reference _ => 1
  | .sequence _ items => 2 + itemEvents items
  | .mapping _ entries => 2 + entryEvents entries

def itemEvents : List Node → Nat
  | [] => 0
  | item :: items => item.events + itemEvents items

def entryEvents : List (Node × Node) → Nat
  | [] => 0
  | (key, value) :: entries => key.events + value.events + entryEvents entries

end

/-- Whether a tag is one of the text's own kinds. -/
def isOwnTag (tag? : Option String) : Bool :=
  tag?.any fun tag => tag.toList.head? = some '!'

/-- The node with a number: of several, the one that starts last. -/
def anchoredNode? (anchored : List Anchored) (number : Nat) : Option Node :=
  ((anchored.filter fun a => a.number = number).foldl (fun best a =>
    match best with
    | none => some a
    | some b => if b.start < a.start then some a else some b) (none : Option Anchored)).map (·.node)

/-- The value of a node through at most `n` levels of collections and aliases; the state is the
number of aliases that may still be followed. -/
def expand (anchored : List Anchored) : Nat → Node → StateM Nat Value
  | 0, _ => return .unreadable
  | n + 1, node =>
    match node with
    | .scalar value => return .scalar value
    | .sequence tag? items => return .list (isOwnTag tag?) (← items.mapM (expand anchored n))
    | .mapping tag? entries => do
      let entries ← entries.mapM fun (key, value) => do
        let key ← expand anchored n key
        let value ← expand anchored n value
        return (key, value)
      return .mapping (isOwnTag tag?) entries
    | .reference number => do
      match ← get, anchoredNode? anchored number with
      | left + 1, some node =>
        set left
        expand anchored n node
      | _, _ => return .unreadable

def read? (text : String) : Option Value := do
  let (root, anchored) ← compose? text.toList
  return ((expand anchored 300 root).run (root.events * 100)).1

end RouteDoc.Yaml
