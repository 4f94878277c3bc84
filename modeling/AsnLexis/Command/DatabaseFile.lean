import AsnLexis.Command.Report
import AsnLexis.Pipeline.Connection

/-! Commands on database files. -/

namespace AsnLexis.Command

def initDatabase (disk : Disk) (path : Bytes) : Report × Disk :=
  match disk.createDatabase path with
  | (.error e, disk) => (.failed e, disk)
  | (.ok (), disk) => (.said (path ++ utf8 ": created"), disk)

def compactDatabase (disk : Disk) (path : Bytes) : Report × Disk :=
  match disk.compactDatabase path with
  | (.error e, disk) => (.failed e, disk)
  | (.ok (), disk) => (.when (disk.contains path) { notices := [.compacted path] }, disk)

def rowLine (cells : List Bytes) : Bytes := Layout.line (Layout.join (utf8 "\t") cells)

/-- Runs a statement on the store in a database file. Without a path the store is a fresh one in
memory. -/
def queryDatabase (disk : Disk) (path statement : Bytes) : Report × Disk :=
  match disk.openStore path false with
  | (.error e, disk) => (.failed e, disk)
  | (.ok database, disk) =>
    let (result, link) := (Connection.ofStore database.store).query statement
    let disk := disk.keep database.place? link.store
    match result with
    | .error e => (.failed e, disk)
    | .ok shown => (.printed (rowLine shown.columns ++ shown.rows.flatMap rowLine), disk)

end AsnLexis.Command
