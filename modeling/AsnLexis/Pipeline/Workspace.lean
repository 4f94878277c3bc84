import AsnLexis.Files
import AsnLexis.Pipeline.Connection

/-! A workspace: a store and the files that belong to it. -/

namespace AsnLexis

/-- A store, the files, and the directory that holds the copies of the source units. -/
structure Workspace where
  link : Connection := {}
  files : Files := {}
  directory : Bytes

namespace Workspace

def placeOf (w : Workspace) (path : Bytes) : Bytes := Path.join [w.directory, path]

def onStore {α : Type} (w : Workspace) (step : Connection → α × Connection) : α × Workspace :=
  let (a, link) := step w.link
  (a, { w with link })

end Workspace

end AsnLexis
