import AsnLexis.Pipeline.Job
import AsnLexis.Proofs.Literals
import AsnLexis.Proofs.Store
import Mathlib

/-! Scans in the store. A scan is stored under a new id with its diagnostics and literals, all of
them are read back in order, and those of other scans stay as they are. A job of the scan stage does
just that with the tokenized copy of its unit. -/

namespace AsnLexis

namespace Store

/-- Keys and references as the tables of a store demand them. -/
structure Keyed (s : Store) : Prop where
  works : s.works.Numbered Work.id
  scans : s.scans.Numbered Scan.id
  diagnostics : ∀ d ∈ s.diagnostics.rows, ∃ scan ∈ s.scans.rows, scan.id = d.scan
  literals : ∀ l ∈ s.literals.rows, ∃ scan ∈ s.scans.rows, scan.id = l.scan

structure NewScan.Ordered (n : NewScan) : Prop where
  diagnostics : (n.diagnostics.map NewDiagnostic.seq).Pairwise (· < ·)
  literals : (n.literals.map NewLiteral.handle).Pairwise (· < ·)

def withScan (s : Store) (n : NewScan) : Store :=
  { s with
    scans := s.scans.push (scanRow n)
    diagnostics := s.diagnostics.pushAll (n.diagnostics.map (diagnosticRow s.scans.next))
    literals := s.literals.pushAll (n.literals.map (literalRow s.scans.next)) }

/-- Scans, diagnostics and literals are kept; new ones come behind them. -/
structure Kept (s after : Store) : Prop where
  scans : s.scans.rows <+: after.scans.rows
  diagnostics : s.diagnostics.rows <+: after.diagnostics.rows
  literals : s.literals.rows <+: after.literals.rows

theorem Kept.refl (s : Store) : s.Kept s :=
  ⟨List.prefix_refl _, List.prefix_refl _, List.prefix_refl _⟩

theorem Kept.trans {s middle after : Store} (first : s.Kept middle) (second : middle.Kept after) :
    s.Kept after :=
  ⟨first.scans.trans second.scans, first.diagnostics.trans second.diagnostics,
    first.literals.trans second.literals⟩

theorem kept_withScan (s : Store) (n : NewScan) : s.Kept (s.withScan n) where
  scans := List.prefix_append _ _
  diagnostics := by
    rw [withScan, Table.rows_pushAll]
    exact List.prefix_append _ _
  literals := by
    rw [withScan, Table.rows_pushAll]
    exact List.prefix_append _ _

namespace Keyed

variable {s : Store}

theorem scan_lt_next (keyed : s.Keyed) {scan : Scan} (member : scan ∈ s.scans.rows) :
    scan.id < s.scans.next :=
  Int.lt_add_one_of_le (keyed.scans.bounded scan member)

theorem diagnostic_old (keyed : s.Keyed) {d : ScanDiagnostic} (member : d ∈ s.diagnostics.rows) :
    d.scan ≠ s.scans.next := by
  obtain ⟨scan, inside, same⟩ := keyed.diagnostics d member
  rw [← same]
  exact ne_of_lt (keyed.scan_lt_next inside)

theorem literal_old (keyed : s.Keyed) {l : ScanLiteral} (member : l ∈ s.literals.rows) :
    l.scan ≠ s.scans.next := by
  obtain ⟨scan, inside, same⟩ := keyed.literals l member
  rw [← same]
  exact ne_of_lt (keyed.scan_lt_next inside)

variable {n : NewScan}

theorem foldlM_insertDiagnostic (keyed : s.Keyed) (ordered : n.Ordered) :
    n.diagnostics.foldlM (insertDiagnostic · s.scans.next) s.diagnostics
      = .ok (s.withScan n).diagnostics := by
  apply Table.foldlM_insert fun r d => r.scan = s.scans.next ∧ r.seq = d.seq
  · intro t d free
    rw [insertDiagnostic, if_neg]
    simpa using free
  · refine (List.pairwise_map.1 ordered.diagnostics).imp ?_
    rintro a b less id ⟨_, same⟩
    exact ne_of_lt less same
  · rintro r member d _ ⟨own, _⟩
    exact keyed.diagnostic_old member own

theorem foldlM_insertLiteral (keyed : s.Keyed) (ordered : n.Ordered) :
    n.literals.foldlM (insertLiteral · s.scans.next) s.literals
      = .ok (s.withScan n).literals := by
  apply Table.foldlM_insert fun r l => r.scan = s.scans.next ∧ r.handle = l.handle
  · intro t l free
    rw [insertLiteral, if_neg]
    simpa using free
  · refine (List.pairwise_map.1 ordered.literals).imp ?_
    rintro a b less id ⟨_, same⟩
    exact ne_of_lt less same
  · rintro r member l _ ⟨own, _⟩
    exact keyed.literal_old member own

theorem insertScan_eq (keyed : s.Keyed) (ordered : n.Ordered) (unit : (s.unit? n.unit).isSome) :
    s.insertScan n = .ok (s.scans.next, s.withScan n) := by
  have present : ¬ (s.unit? n.unit).isNone := by
    rw [Option.isNone_iff_eq_none]
    exact Option.isSome_iff_ne_none.1 unit
  rw [insertScan, if_neg present]
  simp only [keyed.foldlM_insertDiagnostic ordered, keyed.foldlM_insertLiteral ordered]
  rfl

theorem withScan (keyed : s.Keyed) (n : NewScan) : (s.withScan n).Keyed where
  works := keyed.works
  scans := keyed.scans.push rfl
  diagnostics d member := by
    rw [Store.withScan, Table.rows_pushAll] at member
    rcases List.mem_append.1 member with before | added
    · obtain ⟨scan, inside, same⟩ := keyed.diagnostics d before
      exact ⟨scan, List.mem_append_left _ inside, same⟩
    · obtain ⟨_, _, _, rfl⟩ := Table.mem_rowsFrom added
      exact ⟨_, List.mem_append_right _ (List.mem_singleton_self _), rfl⟩
  literals l member := by
    rw [Store.withScan, Table.rows_pushAll] at member
    rcases List.mem_append.1 member with before | added
    · obtain ⟨scan, inside, same⟩ := keyed.literals l before
      exact ⟨scan, List.mem_append_left _ inside, same⟩
    · obtain ⟨_, _, _, rfl⟩ := Table.mem_rowsFrom added
      exact ⟨_, List.mem_append_right _ (List.mem_singleton_self _), rfl⟩

theorem diagnosticsOf_self (keyed : s.Keyed) (ordered : n.Ordered) :
    (s.withScan n).diagnosticsOf s.scans.next
      = Table.rowsFrom s.diagnostics.next (n.diagnostics.map (diagnosticRow s.scans.next)) := by
  have rows : (s.withScan n).diagnostics.rows.filter (·.scan == s.scans.next)
      = Table.rowsFrom s.diagnostics.next (n.diagnostics.map (diagnosticRow s.scans.next)) :=
    Table.filter_pushAll_self (diagnosticRow s.scans.next) ScanDiagnostic.scan (fun _ _ => rfl)
      (fun _ member => keyed.diagnostic_old member) n.diagnostics
  have seqs : (Table.rowsFrom s.diagnostics.next
      (n.diagnostics.map (diagnosticRow s.scans.next))).map ScanDiagnostic.seq
        = n.diagnostics.map NewDiagnostic.seq := Table.map_rowsFrom (fun _ _ => by rfl) _ _
  have rising := ordered.diagnostics
  rw [← seqs, List.pairwise_map] at rising
  rw [diagnosticsOf, rows]
  apply List.mergeSort_of_pairwise
  exact rising.imp fun less => by simpa using le_of_lt less

theorem literalsOf_self (keyed : s.Keyed) (ordered : n.Ordered) :
    (s.withScan n).literalsOf s.scans.next
      = Table.rowsFrom s.literals.next (n.literals.map (literalRow s.scans.next)) := by
  have rows : (s.withScan n).literals.rows.filter (·.scan == s.scans.next)
      = Table.rowsFrom s.literals.next (n.literals.map (literalRow s.scans.next)) :=
    Table.filter_pushAll_self (literalRow s.scans.next) ScanLiteral.scan (fun _ _ => rfl)
      (fun _ member => keyed.literal_old member) n.literals
  have handles : (Table.rowsFrom s.literals.next
      (n.literals.map (literalRow s.scans.next))).map ScanLiteral.handle
        = n.literals.map NewLiteral.handle := Table.map_rowsFrom (fun _ _ => by rfl) _ _
  have rising := ordered.literals
  rw [← handles, List.pairwise_map] at rising
  rw [literalsOf, rows]
  apply List.mergeSort_of_pairwise
  exact rising.imp fun less => by simpa using le_of_lt less

end Keyed

theorem diagnosticsOf_withScan (s : Store) (n : NewScan) {scan : RowId}
    (other : scan ≠ s.scans.next) : (s.withScan n).diagnosticsOf scan = s.diagnosticsOf scan := by
  have rows : (s.withScan n).diagnostics.rows.filter (·.scan == scan)
      = s.diagnostics.rows.filter (·.scan == scan) :=
    Table.filter_pushAll_other (diagnosticRow s.scans.next) ScanDiagnostic.scan (fun _ _ => rfl) other
      n.diagnostics
  rw [diagnosticsOf, rows]
  rfl

theorem literalsOf_withScan (s : Store) (n : NewScan) {scan : RowId}
    (other : scan ≠ s.scans.next) : (s.withScan n).literalsOf scan = s.literalsOf scan := by
  have rows : (s.withScan n).literals.rows.filter (·.scan == scan)
      = s.literals.rows.filter (·.scan == scan) :=
    Table.filter_pushAll_other (literalRow s.scans.next) ScanLiteral.scan (fun _ _ => rfl) other
      n.literals
  rw [literalsOf, rows]
  rfl

end Store

namespace Tokenized

def newScan (r : Tokenized) (unit : RowId) (now : Instant) : Store.NewScan where
  unit := unit
  bom := (r.source.map Source.bom).getD false
  tokens := r.tokens.length
  diagnosticCount := r.diagnostics.length
  literalCount := r.literals.size
  fatalCode := (r.fatal.map fun e => utf8 e.code.name).getD []
  fatalMessage := (r.fatal.map Error.message).getD []
  startedAt := now
  finishedAt := now
  diagnostics := numbered 1 r.diagnostics
  literals := (literalsOf r.tokens).map Token.literalRow

theorem numbered_eq (seq : Nat) (ds : List Diagnostic) :
    numbered seq ds = (ds.zipIdx seq).map fun (d, k) =>
      ⟨k, d.code, d.severity.lowerName, d.message, d.fatal, d.span⟩ := by
  induction ds generalizing seq with
  | nil => rfl
  | cons d ds ih => rw [numbered, ih, List.zipIdx_cons, List.map_cons]

theorem map_seq_numbered (seq : Nat) (ds : List Diagnostic) :
    (numbered seq ds).map Store.NewDiagnostic.seq = (List.range' seq ds.length).map (↑·) := by
  rw [numbered_eq, ← List.zipIdx_map_snd seq ds, List.map_map, List.map_map]
  rfl

end Tokenized

theorem tokenize_malformed (name : Bytes) (settings : Settings) {input : Bytes}
    {e : Utf8.Malformed} (malformed : Source.read input = .error e) :
    tokenize name settings input = .malformed name settings e := by
  rw [tokenize, malformed]

theorem handles_tokenize (name : Bytes) (settings : Settings) (input : Bytes) :
    (literalsOf (tokenize name settings input).tokens).map Token.handle
      = List.range' 1 (tokenize name settings input).literals.size := by
  cases decoded : Source.read input with
  | ok source => exact (registered_tokenize name settings decoded).handles
  | error e =>
    rw [tokenize_malformed name settings decoded]
    rfl

theorem record_tokenize (name : Bytes) (settings : Settings) (input : Bytes) (unit : RowId)
    (now : Instant) :
    (tokenize name settings input).record unit now
      = .ok ((tokenize name settings input).newScan unit now) := by
  cases decoded : Source.read input with
  | ok source =>
      rw [Tokenized.record, (registered_tokenize name settings decoded).unused.resolveAll]
      rfl
  | error e =>
      rw [tokenize_malformed name settings decoded]
      rfl

theorem ordered_newScan (name : Bytes) (settings : Settings) (input : Bytes) (unit : RowId)
    (now : Instant) : ((tokenize name settings input).newScan unit now).Ordered where
  diagnostics := by
    rw [Tokenized.newScan, Tokenized.map_seq_numbered, List.pairwise_map]
    exact (List.pairwise_lt_range' ..).imp fun less => Int.ofNat_lt.2 less
  literals := by
    have handles : ((literalsOf (tokenize name settings input).tokens).map Token.literalRow).map
        Store.NewLiteral.handle =
          (List.range' 1 (tokenize name settings input).literals.size).map (↑·) := by
      rw [← handles_tokenize, List.map_map, List.map_map]
      rfl
    rw [Tokenized.newScan, handles, List.pairwise_map]
    exact (List.pairwise_lt_range' ..).imp fun less => Int.ofNat_lt.2 less

/-- A scan as it is stored, the ids of its rows aside. -/
structure ScanContent where
  scan : Scan
  diagnostics : List ScanDiagnostic
  literals : List ScanLiteral
  deriving DecidableEq

def ScanContent.untimed (c : ScanContent) : ScanContent :=
  { c with scan := { c.scan with startedAt := [], finishedAt := [] } }

def Scan.bare (scan : Scan) : Scan := { scan with id := 0 }

def ScanDiagnostic.bare (d : ScanDiagnostic) : ScanDiagnostic := { d with id := 0, scan := 0 }

def ScanLiteral.bare (l : ScanLiteral) : ScanLiteral := { l with id := 0, scan := 0 }

namespace Store

def contentOf (s : Store) (scan : Scan) : ScanContent :=
  ⟨scan.bare, (s.diagnosticsOf scan.id).map ScanDiagnostic.bare,
    (s.literalsOf scan.id).map ScanLiteral.bare⟩

def contents (s : Store) : List ScanContent := s.scans.rows.map s.contentOf

def NewScan.content (n : NewScan) : ScanContent :=
  ⟨scanRow n 0, n.diagnostics.map (diagnosticRow 0 · 0), n.literals.map (literalRow 0 · 0)⟩

theorem Keyed.contents_withScan {s : Store} (keyed : s.Keyed) {n : NewScan} (ordered : n.Ordered) :
    (s.withScan n).contents = s.contents ++ [n.content] := by
  have added : (s.withScan n).contentOf (scanRow n s.scans.next) = n.content := by
    rw [contentOf, NewScan.content]
    congr 1
    · exact (congrArg _ (keyed.diagnosticsOf_self ordered)).trans
        (Table.map_rowsFrom (fun _ _ => by rfl) _ _)
    · exact (congrArg _ (keyed.literalsOf_self ordered)).trans
        (Table.map_rowsFrom (fun _ _ => by rfl) _ _)
  have before : ∀ scan ∈ s.scans.rows, (s.withScan n).contentOf scan = s.contentOf scan := by
    intro scan member
    have other := ne_of_lt (keyed.scan_lt_next member)
    rw [contentOf, diagnosticsOf_withScan s n other, literalsOf_withScan s n other, contentOf]
  have rows : (s.withScan n).scans.rows = s.scans.rows ++ [scanRow n s.scans.next] := rfl
  rw [contents, rows, List.map_append, List.map_singleton, added, List.map_congr_left before,
    contents]

end Store

end AsnLexis
