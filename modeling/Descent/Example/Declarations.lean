import Descent.Grammar.Store
import Descent.Runner

namespace Descent.Example.Declarations

open Descent.Parser

def typeNames : List Text :=
  ["integer", "real", "double precision", "logical", "complex", "character"].map String.toList

def simpleAttributes : List Text :=
  ["parameter", "allocatable", "save", "target", "pointer"].map String.toList

def typeSpec : Parser :=
  label "Type" (oneOf typeNames)

-- A kind in parentheses, perhaps behind a keyword.
def selector : Parser :=
  parens (sequence
    [maybe (sequence [lexeme word, symbol ['=']] .all), label "Kind" (lexeme word)] .all)

def dimension : Parser :=
  sequence
    [symbol "dimension".toList, parens (label "Shape" (sepBy comma (lexeme natural)))] .all

def attributeSpec : Parser :=
  choice [dimension, label "Attr" (oneOf simpleAttributes)]

def declaration : Parser :=
  sequence
    [typeSpec, maybe (lexeme selector), many (sequence [comma, attributeSpec] .all),
     symbol [':', ':'], sepBy comma (label "Var" (lexeme word))] .all

-- A list of declaration statements of Fortran.
def grammar : Parser :=
  sequence [whiteSpace, many (label "Decl" declaration)] .all

-- In a record everything that may be repeated is a list.
structure Record where
  type : Tree
  kind : Option Tree
  shape : List Tree
  attributes : List Tree
  names : List Tree
deriving Repr

-- What a tree of another grammar may lack.
inductive NormalizeError where
  | notADeclaration
  | withoutType
deriving Repr, DecidableEq

def valueAt? (key : String) (entries : List (String × Tree)) : Option Tree :=
  (entries.find? (·.1 == key)).map (·.2)

-- A value that came once stands for the list of it alone.
def asList : Option Tree → List Tree
  | none => []
  | some (.list items) => items
  | some t => [t]

def Record.ofTree : Tree → Except NormalizeError Record
  | .dict entries => match valueAt? "Type" entries with
    | some type => .ok
        { type
          kind := valueAt? "Kind" entries
          shape := asList (valueAt? "Shape" entries)
          attributes := asList (valueAt? "Attr" entries)
          names := asList (valueAt? "Var" entries) }
    | none => .error .withoutType
  | _ => .error .notADeclaration

def normalize : Option Tree → Except NormalizeError (List Record)
  | some (.dict entries) => (asList (valueAt? "Decl" entries)).mapM Record.ofTree
  | _ => .ok []

def env [CharNames] : Env := Store.empty.env false

def parse [CharNames] (source : Text) : Report (Option Tree) :=
  Runner.standard.parse env nestingLimit grammar source

def renderList (items : List Tree) : String :=
  (Tree.list items).render

def Record.render (r : Record) : String :=
  "\x7b'type': " ++ r.type.render ++ ", 'kind': " ++ Tree.renderOption r.kind ++
    ", 'shape': " ++ renderList r.shape ++ ", 'attributes': " ++ renderList r.attributes ++
    ", 'names': " ++ renderList r.names ++ "\x7d"

end Descent.Example.Declarations
