import AsnLexis.Text.Layout

/-! File paths: names set apart by solidi. -/

namespace AsnLexis.Path

def solidus : UInt8 := 0x2F

def point : UInt8 := 0x2E

def here : Bytes := [point]

def above : Bytes := [point, point]

def root : Bytes := [solidus]

def isAbsolute (path : Bytes) : Bool := path.head? == some solidus

/-- Takes one name of a path onto the names before it, the last of them first. A step up cancels
the name before it; above the root there is nothing to step to. -/
def step (absolute : Bool) (names : List Bytes) (name : Bytes) : List Bytes :=
  if name.isEmpty || name == here then names
  else if name == above then
    match names with
    | [] => if absolute then [] else [above]
    | last :: rest => if last == above then above :: last :: rest else rest
  else name :: names

/-- The names that are left of a path once empty ones, `.` and `..` are worked off. -/
def names (path : Bytes) : List Bytes :=
  ((Layout.split solidus path).foldl (step (isAbsolute path)) []).reverse

def clean (path : Bytes) : Bytes :=
  let body := Layout.join root (names path)
  if isAbsolute path then solidus :: body
  else if body.isEmpty then here else body

def start (path : Bytes) : Bytes := if isAbsolute path then root else here

def enter (place name : Bytes) : Bytes := clean (place ++ solidus :: name)

def join (parts : List Bytes) : Bytes :=
  match parts.filter (!·.isEmpty) with
  | [] => []
  | parts => clean (Layout.join root parts)

def trimRight (path : Bytes) : Bytes := (path.reverse.dropWhile (· == solidus)).reverse

def afterLast (path : Bytes) : Bytes := (path.reverse.takeWhile (· != solidus)).reverse

def base (path : Bytes) : Bytes :=
  if path.isEmpty then here
  else
    let name := afterLast (trimRight path)
    if name.isEmpty then root else name

/-- The end of the last name from its last point on; nothing if it has none. -/
def extension (path : Bytes) : Bytes :=
  let name := afterLast path
  if name.contains point then
    point :: (name.reverse.takeWhile (· != point)).reverse
  else []

def directory (path : Bytes) : Bytes := clean (path.take (path.length - (afterLast path).length))

def ancestors (path : Bytes) : List Bytes :=
  let parts := names path
  (List.range (parts.length + 1)).map fun n =>
    let body := Layout.join root (parts.take n)
    if isAbsolute path then solidus :: body else if body.isEmpty then here else body

end AsnLexis.Path
