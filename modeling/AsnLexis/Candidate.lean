import AsnLexis.Error
import AsnLexis.Identifier

/-! Candidates: runs of scalars, each with an offset of the caller's counting, that may or may not
be identifiers. -/

namespace AsnLexis

abbrev Candidate := List (Char × Int)

namespace Candidate

def ofPieces (offset : Nat) : List Piece → Candidate
  | [] => []
  | piece :: rest => (piece.shown, (offset : Int)) :: ofPieces (offset + piece.width) rest

def ofText (text : Bytes) : Candidate := ofPieces 0 (Utf8.pieces text)

def text (candidate : Candidate) : Bytes := Utf8.encode (candidate.map Prod.fst)

end Candidate

def Profile.classify (p : Profile) (candidate : Candidate) : Except IdentifierError Identifier :=
  match p.check (candidate.map Prod.fst) with
  | .ok id => .ok id
  | .error (i, flaw) =>
    .error ⟨(candidate[i]?.map Prod.snd).getD 0, candidate.text, flaw.message⟩

end AsnLexis
