import ContentSync.ImportInfo
import ContentSync.Error

/-!
# Progress reports

A synchronization pass reports its progress path by path: a one-letter action for every path
it handled (`A` added, `U` updated, `R` replaced, `D` deleted, `E` exported) and the error
text for every path where it failed, both in the order they happened.

Main definitions: `Progress`, `Progress.message`, `Progress.error`, `Progress.importInfo`.
-/

namespace ContentSync

/-- The messages and errors a pass reported, in order. -/
structure Progress where
  messages : List (String × String)
  errors : List (String × String)
deriving DecidableEq, Repr, Inhabited

namespace Progress

/-- The report of a pass that has not reported anything. -/
def empty : Progress := { messages := [], errors := [] }

/-- Reports an action on a path. -/
def message (p : Progress) (action path : String) : Progress :=
  { p with messages := p.messages ++ [(action, path)] }

/-- Reports a failure at a path. -/
def error (p : Progress) (path : String) (e : Error) : Progress :=
  { p with errors := p.errors ++ [(path, e.message)] }

/-- Reports every entry of an import result, in path order. -/
def importInfo (p : Progress) (info : ImportInfo) : Progress :=
  info.entries.foldl (fun acc (path, m) => acc.message m.action path) p

end Progress

end ContentSync
