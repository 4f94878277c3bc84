import AsnLexis.Digest
import AsnLexis.Pipeline.Workspace

/-! Taking source files in. Each content is stored once: a copy of it in the data directory, a
source unit with its digest, and a job to scan it. -/

namespace AsnLexis

structure Upload where
  name : Bytes
  content : Bytes
  deriving DecidableEq, Repr

/-- What became of a file that was taken in. A duplicate has the unit of the same content that was
there before, and no job. -/
structure Ingested where
  unit : RowId
  work : RowId
  digest : Bytes
  duplicate : Bool
  deriving DecidableEq, Repr

def scanStage : Bytes := utf8 "scan"

namespace Upload

/-- The name of the copy: the beginning of the digest and the extension of the file. -/
def storedName (digest name : Bytes) : Bytes :=
  let extension := Path.extension name
  digest.take 16 ++ (if extension.isEmpty then utf8 ".asn" else extension)

def storedPath (batch : RowId) (digest name : Bytes) : Bytes :=
  Path.join [utf8 "batches", Numeral.signed batch, storedName digest name]

end Upload

namespace Workspace

def databaseError (operation : String) (e : Error) : Error := .database (utf8 operation) e

def keepCopy (w : Workspace) (path content : Bytes) : Except Error Unit × Workspace :=
  let place := w.placeOf path
  let directory := Path.directory place
  match w.files.makeDirectory directory with
  | (.error e, files) => (.error (.file (utf8 "mkdir") directory e), { w with files })
  | (.ok (), files) =>
    match files.write place content with
    | .error e => (.error (.file (utf8 "write") place e), { w with files })
    | .ok files => (.ok (), { w with files })

def enlist (w : Workspace) (u : Store.NewUnit) (now : Instant) :
    Except Error (RowId × RowId) × Workspace :=
  match w.onStore (·.insertUnit u) with
  | (.error e, w) => (.error (databaseError "insert source_unit" e), w)
  | (.ok unit, w) =>
    match w.onStore (·.insertWork ⟨unit, scanStage, utf8 Status.queued.name, 0, now⟩) with
    | (.error e, w) => (.error (databaseError "insert work" e), w)
    | (.ok work, w) => (.ok (unit, work), w)

def ingestFile (w : Workspace) (now : Instant) (batch : RowId) (upload : Upload) :
    Except Error Ingested × Workspace :=
  let digest := Digest.hex upload.content
  match w.link.unitByDigest? digest with
  | .error e => (.error (databaseError "check duplicate" e), w)
  | .ok (some unit) => (.ok ⟨unit.id, 0, digest, true⟩, w)
  | .ok none =>
    let path := Upload.storedPath batch digest upload.name
    match w.keepCopy path upload.content with
    | (.error e, w) => (.error e, w)
    | (.ok (), w) =>
      match w.enlist ⟨some batch, Path.base upload.name, digest, upload.content.length, path, now⟩
          now with
      | (.error e, w) => (.error e, w)
      | (.ok (unit, work), w) => (.ok ⟨unit, work, digest, false⟩, w)

structure BatchOutcome where
  batch : RowId
  results : List Ingested
  failure : Option Error

def ingestAll (w : Workspace) (now : Instant) (batch : RowId) :
    List Upload → (List Ingested × Option Error) × Workspace
  | [] => (([], none), w)
  | upload :: rest =>
    match w.ingestFile now batch upload with
    | (.error e, w) => (([], some e), w)
    | (.ok result, w) =>
      let ((results, failure), w) := w.ingestAll now batch rest
      ((result :: results, failure), w)

def ingestBatch (w : Workspace) (now : Instant) (label createdBy : Bytes) (uploads : List Upload) :
    BatchOutcome × Workspace :=
  match w.onStore (·.insertBatch label createdBy now) with
  | (.error e, w) => (⟨0, [], some (databaseError "insert batch" e)⟩, w)
  | (.ok batch, w) =>
    let ((results, failure), w) := w.ingestAll now batch uploads
    (⟨batch, results, failure⟩, w)

def readAll (w : Workspace) : List Bytes → Except Error (List Upload)
  | [] => .ok []
  | path :: rest =>
    match w.files.read path with
    | .error e => .error (.file (utf8 "read") path e)
    | .ok content => (w.readAll rest).map (⟨path, content⟩ :: ·)

/-- Takes the files with these paths in as a new batch; there is none if a file cannot be read. -/
def ingestPaths (w : Workspace) (now : Instant) (label createdBy : Bytes) (paths : List Bytes) :
    BatchOutcome × Workspace :=
  match w.readAll paths with
  | .error e => (⟨0, [], some e⟩, w)
  | .ok uploads => w.ingestBatch now label createdBy uploads

end Workspace

def labelOr (fresh label : Bytes) : Bytes := if label.isEmpty then fresh else label

end AsnLexis
