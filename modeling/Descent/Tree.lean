import Descent.Match

namespace Descent

-- Matches folded into plain data. A leaf becomes its text, a label a key, a sequence the list of
-- what its items become; next to a labeled item the unlabeled ones are dropped and the labels are
-- collected under their keys.
inductive Tree where
  | text (t : Text)
  | list (items : List Tree)
  | dict (entries : List (String × Tree))
deriving Repr, Inhabited

namespace Tree

def isVoid : Tree → Bool
  | .list [] => true
  | .dict [] => true
  | _ => false

def entries? : Tree → Option (List (String × Tree))
  | .dict entries => some entries
  | _ => none

-- Files a value under its key, behind the values already there; a new key comes last.
def file (key : String) (value : Tree) : List (String × List Tree) → List (String × List Tree)
  | [] => [(key, [value])]
  | (k, values) :: rest =>
      if k = key then (k, values ++ [value]) :: rest else (k, values) :: file key value rest

-- A key that came once keeps its value, a repeated one gets the list of its values.
def settle : List Tree → Tree
  | [value] => value
  | values => .list values

def merge (dicts : List (List (String × Tree))) : List (String × Tree) :=
  let filed := dicts.flatten.foldl (fun acc e => file e.1 e.2 acc) []
  filed.map fun (key, values) => (key, settle values)

-- What a sequence becomes, given what its items became.
def gather (items : List Tree) : Option Tree :=
  let kept := items.filter (!·.isVoid)
  if kept.isEmpty then none
  else
    let dicts := kept.filterMap entries?
    if dicts.isEmpty then some (.list kept) else some (.dict (merge dicts))

def underLabel (name : String) (built : Option Tree) : Option Tree :=
  match built with
  | some t => if t.isVoid then none else some (.dict [(name, t)])
  | none => none

mutual

-- Fails with the first foreign node, items being visited in order before any is dropped.
def ofMatch : Match → Except Plain (Option Tree)
  | .empty => .ok none
  | .leaf t => .ok (some (.text t))
  | .labeled name v => do
      let built ← ofMatch v
      return underLabel name built
  | .seq items => do
      let built ← ofItems items
      return gather built
  | .foreign v => .error v

def ofItems : List Match → Except Plain (List Tree)
  | [] => .ok []
  | m :: rest => do
      let built ← ofMatch m
      let others ← ofItems rest
      return built.toList ++ others

end

mutual

def render : Tree → String
  | .text t => Text.quoted t
  | .list items => "[" ++ ", ".intercalate (renderItems items) ++ "]"
  | .dict entries => "\x7b" ++ ", ".intercalate (renderEntries entries) ++ "\x7d"

def renderItems : List Tree → List String
  | [] => []
  | t :: rest => t.render :: renderItems rest

def renderEntries : List (String × Tree) → List String
  | [] => []
  | (key, t) :: rest => (Text.quoted key.toList ++ ": " ++ t.render) :: renderEntries rest

end

-- No tree at all is written as the empty value.
def renderOption : Option Tree → String
  | some t => t.render
  | none => "None"

end Tree

end Descent
