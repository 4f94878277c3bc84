import AsnLexis.Proofs.Ingest
import AsnLexis.Proofs.Path
import Mathlib

/-! Copies of files, wherever files are kept. What is written is read back, and it stays when
directories are made and other files are written. -/

namespace AsnLexis

namespace MemoryFiles

variable {m : MemoryFiles} {path other content : Bytes}

theorem read_eq_ok_iff :
    m.read path = .ok content ↔ ∃ node, m.node? path = some node ∧ node.content = content := by
  rw [read]
  cases m.node? path with
  | none => simp
  | some node => simp

theorem read_put_other (held : m.read path = .ok content) (apart : key path ≠ key other)
    (node : MemoryNode) : (m.put other node).read path = .ok content := by
  rw [read_eq_ok_iff] at held ⊢
  rwa [node?_put_other m apart]

theorem read_create_other (held : m.read path = .ok content) (apart : key path ≠ key other)
    (node : MemoryNode) : (m.create other node).read path = .ok content := by
  obtain ⟨before, found, same⟩ := read_eq_ok_iff.1 (read_put_other held apart node)
  obtain ⟨after, there, still⟩ := content_enter found other (above other)
  exact read_eq_ok_iff.2 ⟨after, there, still.trans same⟩

theorem read_write_other (held : m.read path = .ok content) (apart : key path ≠ key other)
    (new : Bytes) : (m.write other new).read path = .ok content := by
  rw [write]
  split
  next => exact read_put_other held apart _
  next => exact read_create_other held apart _

theorem read_makeDirectory (held : m.read path = .ok content) (directory : Bytes) :
    (m.makeDirectory directory).read path = .ok content := by
  rw [makeDirectory]
  split_ifs with there
  · exact held
  · refine read_create_other held ?_ _
    intro same
    obtain ⟨node, found, -⟩ := read_eq_ok_iff.1 held
    rw [node?, same] at found
    rw [contains, node?, found] at there
    exact there rfl

theorem contains_of_read (held : m.read path = .ok content) : m.contains path = true := by
  obtain ⟨node, found, -⟩ := read_eq_ok_iff.1 held
  rw [contains, found]
  rfl

theorem key_ne {name another : Bytes} (first : Path.Ends path name)
    (ordinary : Path.Ordinary name) (second : Path.Ends other another)
    (ordinary' : Path.Ordinary another) (apart : name ≠ another) :
    key path ≠ key other := by
  have plain {path name : Bytes} (ends : Path.Ends path name) (ordinary : Path.Ordinary name) :
      Path.Ends (key path) name := by
    have cleaned := ends.clean ordinary
    have notHere : Path.clean path ≠ Path.here := fun same =>
      ordinary.notHere ((same ▸ cleaned).unique (Path.ends_self (by decide)))
    have notAbove : Path.clean path ≠ Path.above := fun same =>
      ordinary.notAbove ((same ▸ cleaned).unique (Path.ends_self (by decide)))
    simpa [key, notHere, notAbove] using cleaned
  intro same
  exact apart ((plain first ordinary).unique (same ▸ plain second ordinary'))

end MemoryFiles

namespace Disk

variable {d : Disk} {place path : Bytes} {item : Item}

theorem item?_put_other {other : Bytes} (apart : place ≠ other) (item : Item) :
    (d.put other item).item? place = d.item? place := by
  have miss : (place == other) = false := by simpa using apart
  simp only [item?, put, List.lookup, miss, lookup_filter_ne apart]

theorem item?_put_self (free : d.item? place ≠ some .directory) (item : Item) :
    (d.put place item).item? place = some item := by
  have below : ¬ (Path.names place).all (· == Path.above) := by
    intro up
    rw [item?, if_pos up] at free
    exact free rfl
  rw [item?, if_neg below]
  simp [put]

theorem item?_put_directory : (d.put place .directory).item? place = some .directory := by
  rw [item?]
  split_ifs
  · rfl
  · simp [put]

theorem follow_put {names : List Bytes} {start last : Bytes} (followed : d.follow start names = .ok last)
    (harmless : item = .directory ∨ d.item? place ≠ some .directory) :
    (d.put place item).follow start names = .ok last := by
  induction names generalizing start with
  | nil => exact followed
  | cons name names ih =>
      rw [follow] at followed ⊢
      cases there : d.item? start with
      | none =>
          rw [there] at followed
          cases followed
      | some found =>
          cases found with
          | file content =>
              rw [there] at followed
              cases followed
          | database store =>
              rw [there] at followed
              cases followed
          | directory =>
              have still : (d.put place item).item? start = some .directory := by
                -- The step goes through `start`, which is a directory still.
                by_cases own : start = place
                · rcases harmless with rfl | free
                  · rw [own]
                    exact item?_put_directory
                  · exact absurd (own ▸ there) free
                · rw [item?_put_other own, there]
              rw [there] at followed
              rw [still]
              simp only at followed ⊢
              split_ifs at followed ⊢
              exact ih followed

theorem locate_put {last : Bytes} (located : d.locate path = .ok last)
    (harmless : item = .directory ∨ d.item? place ≠ some .directory) :
    (d.put place item).locate path = .ok last := by
  rw [locate] at located ⊢
  split_ifs at located ⊢
  exact follow_put located harmless

theorem follow_names {names : List Bytes} {start last : Bytes}
    (followed : d.follow start names = .ok last) (cleaned : Path.clean start = start)
    (whole : ∀ name ∈ names, Path.solidus ∉ name) :
    Path.clean last = last ∧ Path.isAbsolute last = Path.isAbsolute start ∧
      Path.names last
        = (names.foldl (Path.step (Path.isAbsolute start)) (Path.names start).reverse).reverse := by
  induction names generalizing start with
  | nil =>
      cases followed
      simp [cleaned]
  | cons name names ih =>
      obtain ⟨absolute, stepped⟩ := Path.enter_eq cleaned (whole name List.mem_cons_self)
      have later : d.follow (Path.enter start name) names = .ok last := by
        rw [follow] at followed
        split at followed
        next => cases followed
        next =>
          split_ifs at followed
          exact followed
        next => cases followed
      obtain ⟨clean, same, list⟩ := ih later (Path.clean_clean _)
        fun other member => whole other (List.mem_cons_of_mem name member)
      refine ⟨clean, same.trans absolute, ?_⟩
      rw [list, absolute, stepped, List.reverse_reverse, List.foldl_cons]

theorem clean_of_locate {last : Bytes} (located : d.locate path = .ok last) :
    last = Path.clean path := by
  have start : Path.clean (Path.start path) = Path.start path ∧
      Path.isAbsolute (Path.start path) = Path.isAbsolute path ∧
        Path.names (Path.start path) = [] := by
    rw [Path.start]
    cases Path.isAbsolute path <;> decide
  obtain ⟨cleaned, absolute, none⟩ := start
  have followed : d.follow (Path.start path) (Layout.split Path.solidus path) = .ok last := by
    rw [locate] at located
    split_ifs at located
    exact located
  obtain ⟨clean, same, list⟩ :=
    follow_names followed cleaned fun name member => Layout.not_mem_of_split member
  rw [absolute, none] at list
  rw [← clean, Path.clean_eq_form, same, absolute, list]
  rfl

theorem look_eq_ok_iff :
    d.look path = .ok item ↔ ∃ last, d.locate path = .ok last ∧ d.item? last = some item := by
  rw [look]
  cases d.locate path with
  | error fault => simp
  | ok last =>
      simp only [Except.ok.injEq, exists_eq_left']
      cases d.item? last <;> simp

/-- A file is found where it was, when something was put where neither it nor a directory was. -/
theorem look_put_other (held : d.look path = .ok item) (apart : place ≠ Path.clean path)
    {new : Item} (harmless : new = .directory ∨ d.item? place ≠ some .directory) :
    (d.put place new).look path = .ok item := by
  obtain ⟨last, located, found⟩ := look_eq_ok_iff.1 held
  refine look_eq_ok_iff.2 ⟨last, locate_put located harmless, ?_⟩
  rw [item?_put_other, found]
  rw [clean_of_locate located]
  exact apart.symm

theorem write_eq_ok {content : Bytes} {after : Disk} (written : d.write path content = .ok after) :
    ∃ last, d.locate path = .ok last ∧ d.item? last ≠ some .directory ∧
      after = d.put last (.file content) := by
  rw [write] at written
  cases located : d.locate path with
  | error fault =>
      rw [located] at written
      cases written
  | ok last =>
      rw [located] at written
      simp only at written
      split_ifs at written with free
      cases written
      exact ⟨last, rfl, free, rfl⟩

theorem look_write {content : Bytes} {after : Disk} (written : d.write path content = .ok after) :
    after.look path = .ok (.file content) := by
  obtain ⟨last, located, free, rfl⟩ := write_eq_ok written
  exact look_eq_ok_iff.2 ⟨last, locate_put located (.inr free), item?_put_self free _⟩

theorem look_write_other {other content : Bytes} {after : Disk}
    (written : d.write other content = .ok after) (held : d.look path = .ok item)
    (apart : Path.clean other ≠ Path.clean path) : after.look path = .ok item := by
  obtain ⟨last, located, free, rfl⟩ := write_eq_ok written
  exact look_put_other held (clean_of_locate located ▸ apart) (.inr free)

theorem look_makeDirectories {paths : List Bytes} (held : d.look path = .ok item)
    (cleaned : Path.clean path = path) (clean : ∀ p ∈ paths, Path.clean p = p) :
    (d.makeDirectories paths).2.look path = .ok item := by
  induction paths generalizing d with
  | nil => exact held
  | cons p rest ih =>
      have later := fun d' held' => ih (d := d') held' fun q member =>
        clean q (List.mem_cons_of_mem p member)
      rw [makeDirectories]
      split
      next => exact later d held
      next => exact held
      next missing =>
        refine later _ (look_put_other held ?_ (.inl rfl))
        -- A path under which something is found is not missing.
        rw [clean p List.mem_cons_self, cleaned]
        rintro rfl
        rw [held] at missing
        cases missing
      next => exact held

end Disk

theorem Overlay.write_eq_ok {layer after : MemoryFiles} {below : Disk} {path content : Bytes}
    (written : Overlay.write layer below path content = .ok after) :
    after = layer.write path content := by
  rw [write] at written
  split at written
  next => cases written
  next =>
    cases copy : below.read path with
    | error e =>
        rw [copy] at written
        cases written
    | ok old =>
        rw [copy] at written
        exact (Except.ok.inj written).symm
  next =>
    simp only at written
    split at written
    next => exact (Except.ok.inj written).symm
    next => exact (Except.ok.inj written).symm
    next => cases written

namespace Files

variable {fs after : Files} {path other content new : Bytes}

/-- A file holds a content. In a layer over a disk it is the layer that holds it. -/
def Holds (fs : Files) (path content : Bytes) : Prop :=
  match fs.medium with
  | .memory files => files.read path = .ok content
  | .disk disk => disk.look path = .ok (.file content)
  | .overlay layer _ => layer.read path = .ok content

theorem read_of_holds (holds : fs.Holds path content) : fs.read path = .ok content := by
  rcases fs with ⟨medium, readOnly⟩
  cases medium with
  | memory files => exact holds
  | disk disk =>
      change disk.look path = .ok (.file content) at holds
      simp only [read, Disk.read, holds]
  | overlay layer below =>
      have there := MemoryFiles.contains_of_read (m := layer) holds
      simp only [read, Overlay.read, Overlay.isBelow, if_pos there]
      exact holds

theorem write_eq_ok (written : fs.write path content = .ok after) :
    (∃ files, fs.medium = .memory files ∧ after.medium = .memory (files.write path content)) ∨
    (∃ disk disk', fs.medium = .disk disk ∧ after.medium = .disk disk' ∧
      disk.write path content = .ok disk') ∨
    ∃ layer below, fs.medium = .overlay layer below ∧
      after.medium = .overlay (layer.write path content) below := by
  rcases fs with ⟨medium, readOnly⟩
  rw [write] at written
  split_ifs at written
  cases medium with
  | memory files =>
      cases written
      exact .inl ⟨files, rfl, rfl⟩
  | disk disk =>
      simp only at written
      cases made : disk.write path content with
      | error e =>
          rw [made] at written
          cases written
      | ok disk' =>
          rw [made] at written
          cases written
          exact .inr (.inl ⟨disk, disk', rfl, rfl, made⟩)
  | overlay layer below =>
      simp only at written
      cases made : Overlay.write layer below path content with
      | error e =>
          rw [made] at written
          cases written
      | ok layer' =>
          rw [made] at written
          cases written
          exact .inr (.inr ⟨layer, below, rfl, by rw [Overlay.write_eq_ok made]⟩)

theorem holds_write (written : fs.write path content = .ok after) : after.Holds path content := by
  rcases write_eq_ok written with ⟨files, _, now⟩ | ⟨disk, disk', _, now, made⟩ | ⟨layer, _, _, now⟩
  · rw [Holds, now]
    exact MemoryFiles.read_write files path content
  · rw [Holds, now]
    exact Disk.look_write made
  · rw [Holds, now]
    exact MemoryFiles.read_write layer path content

theorem Holds.write (holds : fs.Holds path content) (written : fs.write other new = .ok after)
    {name another : Bytes} (first : Path.Ends path name) (ordinary : Path.Ordinary name)
    (second : Path.Ends other another) (ordinary' : Path.Ordinary another) (apart : name ≠ another) :
    after.Holds path content := by
  -- In memory paths are compared by their keys, on disk by the places that they lead to.
  have keys := MemoryFiles.key_ne first ordinary second ordinary' apart
  have places : Path.clean other ≠ Path.clean path := fun same =>
    apart ((first.clean ordinary).unique (same ▸ second.clean ordinary'))
  rcases write_eq_ok written with ⟨files, was, now⟩ | ⟨disk, disk', was, now, made⟩ |
    ⟨layer, below, was, now⟩
  · rw [Holds, was] at holds
    rw [Holds, now]
    exact MemoryFiles.read_write_other holds keys new
  · rw [Holds, was] at holds
    rw [Holds, now]
    exact Disk.look_write_other made holds places
  · rw [Holds, was] at holds
    rw [Holds, now]
    exact MemoryFiles.read_write_other holds keys new

theorem Holds.makeDirectory (holds : fs.Holds path content) (cleaned : Path.clean path = path)
    (directory : Bytes) : (fs.makeDirectory directory).2.Holds path content := by
  rcases fs with ⟨medium, readOnly⟩
  rw [Files.makeDirectory]
  split_ifs
  · exact holds
  · cases medium with
    | memory files => exact MemoryFiles.read_makeDirectory (m := files) holds directory
    | disk disk =>
        exact Disk.look_makeDirectories (d := disk) holds cleaned
          fun p member => Path.clean_of_mem_ancestors member
    | overlay layer below =>
        change (Overlay.makeDirectory layer below directory).read path = .ok content
        rw [Overlay.makeDirectory]
        split_ifs
        · exact holds
        · exact MemoryFiles.read_makeDirectory (m := layer) holds directory

end Files

namespace Workspace

variable {w kept : Workspace} {path content : Bytes}

theorem keepCopy_eq_ok (copied : w.keepCopy path content = (.ok (), kept)) :
    ∃ files, (w.files.makeDirectory (Path.directory (w.placeOf path))).2.write (w.placeOf path) content
        = .ok files ∧ kept = { w with files } := by
  rw [keepCopy] at copied
  generalize w.files.makeDirectory (Path.directory (w.placeOf path)) = made at copied ⊢
  rcases made with ⟨outcome, middle⟩
  cases outcome with
  | error e => cases copied
  | ok =>
      simp only at copied
      cases written : middle.write (w.placeOf path) content with
      | error e =>
          rw [written] at copied
          cases copied
      | ok files =>
          rw [written] at copied
          cases copied
          exact ⟨files, rfl, rfl⟩

theorem holds_keepCopy (copied : w.keepCopy path content = (.ok (), kept)) :
    kept.files.Holds (kept.placeOf path) content := by
  obtain ⟨files, written, rfl⟩ := keepCopy_eq_ok copied
  exact Files.holds_write written

theorem holds_keepCopy_other (copied : w.keepCopy path content = (.ok (), kept)) {other old : Bytes}
    (holds : w.files.Holds (w.placeOf other) old)
    (cleaned : Path.clean (w.placeOf other) = w.placeOf other) {name another : Bytes}
    (first : Path.Ends (w.placeOf other) name) (ordinary : Path.Ordinary name)
    (second : Path.Ends (w.placeOf path) another) (ordinary' : Path.Ordinary another)
    (apart : name ≠ another) : kept.files.Holds (kept.placeOf other) old := by
  obtain ⟨files, written, rfl⟩ := keepCopy_eq_ok copied
  exact (holds.makeDirectory cleaned _).write written first ordinary second ordinary' apart

end Workspace

namespace Numeral

theorem length_hex {width n : Nat} (filled : 0 < width) (fits : n < 16 ^ width) :
    (hex width n).length = width := by
  have digits : (Nat.toDigits 16 n).length ≤ width :=
    (Nat.length_toDigits_le_iff (by decide) filled).2 fits
  simp only [hex, ofDigits, List.length_append, List.length_replicate, List.length_map]
  omega

theorem exists_digit {n : Nat} {c : Char} (member : c ∈ Nat.toDigits 16 n) :
    ∃ d < 16, c = Nat.digitChar d := by
  induction n using Nat.strongRecOn with
  | ind n ih =>
      rw [Nat.toDigits_eq_if (by decide)] at member
      split_ifs at member with single
      · exact ⟨n, single, List.mem_singleton.1 member⟩
      · rcases List.mem_append.1 member with before | last
        · exact ih (n / 16) (by omega) before
        · exact ⟨n % 16, Nat.mod_lt n (by decide), List.mem_singleton.1 last⟩

theorem solidus_not_mem_hex (width n : Nat) : Path.solidus ∉ hex width n := by
  have table : ∀ d < 16, UInt8.ofNat (Nat.digitChar d).toNat ≠ Path.solidus := by decide
  intro member
  rcases List.mem_append.1 member with zero | digit
  · cases List.eq_of_mem_replicate zero
  · obtain ⟨c, inside, same⟩ := List.mem_map.1 digit
    obtain ⟨d, small, rfl⟩ := exists_digit inside
    exact table d small same

end Numeral

namespace Digest

theorem length_compress (h : List UInt64) (block : Bytes) (count : Nat) (last : Bool) :
    (compress h block count last).length = h.length := by
  simp [compress]

theorem length_absorb (h : List UInt64) (count : Nat) (text : Bytes) :
    (absorb h count text).length = h.length := by
  fun_induction absorb h count text with
  | case1 => exact length_compress ..
  | case2 _ _ _ _ ih => rw [ih, length_compress]

theorem length_sum (text : Bytes) : (sum text).length = 32 := by
  have words : (absorb start 0 text).length = 8 := (length_absorb ..).trans rfl
  have bytes : ((absorb start 0 text).flatMap wordBytes).length = 64 := by
    rw [List.length_flatMap, List.map_congr_left (g := fun _ => 8) fun w _ => by simp [wordBytes],
      List.map_const', words]
    rfl
  rw [sum, List.length_take, bytes]
  rfl

theorem length_hex (text : Bytes) : (hex text).length = 64 := by
  rw [hex, List.length_flatMap, List.map_congr_left (g := fun _ => 2) fun b _ =>
    Numeral.length_hex (by decide) b.toNat_lt, List.map_const', length_sum]
  rfl

theorem solidus_not_mem_hex (text : Bytes) : Path.solidus ∉ hex text := by
  intro member
  obtain ⟨b, -, digit⟩ := List.mem_flatMap.1 member
  exact Numeral.solidus_not_mem_hex 2 b.toNat digit

end Digest

namespace Upload

theorem solidus_not_mem_extension (name : Bytes) : Path.solidus ∉ Path.extension name := by
  rw [Path.extension]
  intro member
  split_ifs at member
  · rcases List.mem_cons.1 member with point | inside
    · cases point
    · have last := (List.takeWhile_sublist _).subset (List.mem_reverse.1 inside)
      rw [Path.afterLast, List.reverse_reverse] at last
      simpa using List.mem_takeWhile_imp last
  · cases member

theorem ordinary_storedName (content name : Bytes) :
    Path.Ordinary (storedName (Digest.hex content) name) := by
  have long : 16 ≤ (storedName (Digest.hex content) name).length := by
    simp [storedName, Digest.length_hex]
  constructor
  · rintro none
    simp [none] at long
  · intro same
    simp [same, Path.here] at long
  · intro same
    simp [same, Path.above] at long
  · intro member
    rcases List.mem_append.1 member with digit | other
    · exact Digest.solidus_not_mem_hex content (List.mem_of_mem_take digit)
    · split_ifs at other
      · revert other
        decide
      · exact solidus_not_mem_extension name other

theorem take_of_storedName_eq {first second name other : Bytes}
    (same : storedName (Digest.hex first) name = storedName (Digest.hex second) other) :
    (Digest.hex first).take 16 = (Digest.hex second).take 16 := by
  refine (List.append_inj same ?_).1
  simp [Digest.length_hex]

end Upload

theorem Workspace.placeOf_storedPath (w : Workspace) (batch : RowId) (content name : Bytes) :
    let place := w.placeOf (Upload.storedPath batch (Digest.hex content) name)
    Path.clean place = place ∧ Path.Ends place (Upload.storedName (Digest.hex content) name) := by
  have ordinary := Upload.ordinary_storedName content name
  have path : Path.Ends (Upload.storedPath batch (Digest.hex content) name)
      (Upload.storedName (Digest.hex content) name) :=
    (Path.ends_self ordinary.whole).join ordinary [utf8 "batches", Numeral.signed batch]
  exact ⟨Path.clean_join (path.ne_nil ordinary) [w.directory], path.join ordinary [w.directory]⟩

end AsnLexis
