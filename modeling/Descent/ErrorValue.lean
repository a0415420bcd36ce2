import Descent.Runner

namespace Descent

inductive ErrorKind where
  | general
  | grammar
  | rejected
  | incomplete
  | recursion
deriving Repr, DecidableEq

-- An error as callers see it; for a source that was given up also where.
structure ErrorValue where
  kind : ErrorKind
  message : String
  diagnostic : Option Diagnostic
  -- The source, and what remained of it.
  place : Option (Text × Text)
deriving Repr

namespace ErrorValue

-- An error of a kind, about a text or about a diagnostic.
def ofMessage (kind : ErrorKind) (message : String) : ErrorValue :=
  ⟨kind, message, none, none⟩

def ofDiagnostic (kind : ErrorKind) (d : Diagnostic) : ErrorValue :=
  ⟨kind, d.message, some d, none⟩

def placed (e : ErrorValue) (source remaining : Text) : ErrorValue :=
  { e with place := some (source, remaining) }

-- The failures that come with a diagnostic. The others are errors of what the library is handed.
def ofFailure? (f : Failure) : Option ErrorValue :=
  f.diagnostic?.map fun d => match f with
    | .rejected s => (ofDiagnostic .rejected d).placed s.source s.remaining
    | .incomplete s => (ofDiagnostic .incomplete d).placed s.source s.remaining
    | .recursion => ofDiagnostic .recursion d
    | _ => ofDiagnostic .grammar d

end ErrorValue

end Descent
