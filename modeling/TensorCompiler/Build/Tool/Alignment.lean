import TensorCompiler.Text.Basic

/-!
# Alignments

Which lines of two files are changed on a short way from one to the other. Lines that the other file
has nowhere are changed; the rest is halved again and again at a point where a way from the front
meets one from the back. Last, runs of changed lines are moved as far back as they go in the files,
or to where the other file is changed too.
-/

namespace TensorCompiler.Tool.Alignment

/-- A part of two files: from a line of each up to another. -/
structure Window where
  left : Int
  right : Int
  top : Int
  bottom : Int

/-- The numbers from one up to another, which is left out. -/
def span (start stop : Int) : List Int :=
  (List.range (stop - start).toNat).map fun (n : Nat) => start + (n : Int)

/-- How far lines are the same from two places on. -/
def slideDown (same : Int → Int → Bool) (w : Window) : Nat → Int → Int → Int
  | 0, x, _ => x
  | fuel + 1, x, y =>
    if x < w.right && y < w.bottom && same x y then slideDown same w fuel (x + 1) (y + 1) else x

/-- How far lines are the same before two places. -/
def slideUp (same : Int → Int → Bool) (w : Window) : Nat → Int → Int → Int
  | 0, x, _ => x
  | fuel + 1, x, y =>
    if w.left < x && w.top < y && same (x - 1) (y - 1) then slideUp same w fuel (x - 1) (y - 1)
    else x

namespace Window

/-- How many lines there are in both files. -/
def size (w : Window) : Nat := (w.right - w.left).toNat + (w.bottom - w.top).toNat

/-- A window without the lines that are the same at its start and at its end. -/
def trim (same : Int → Int → Bool) (w : Window) : Window :=
  let x := slideDown same w w.size w.left w.top
  let w := { w with left := x, top := w.top + (x - w.left) }
  let x := slideUp same w w.size w.right w.bottom
  { w with right := x, bottom := w.bottom - (w.right - x) }

end Window

/-! ## Points in the middle -/

/-- How far ways have come on some diagonals, which stand for the lines that are dropped less those
that are added. -/
structure Front where
  /-- The diagonals that are reached. -/
  least : Int
  greatest : Int
  /-- The least diagonal that may be asked for, and the places on it and those behind it. -/
  origin : Int
  places : Array Int

namespace Front

/-- The place on a diagonal. -/
def get (f : Front) (d : Int) : Int := f.places.getD (d - f.origin).toNat 0

/-- Sets the place on a diagonal. -/
def set (f : Front) (d x : Int) : Front :=
  { f with places := f.places.setIfInBounds (d - f.origin).toNat x }

/-- A front that has reached one place. -/
def start (w : Window) (d x : Int) : Front :=
  let origin := w.left - w.bottom - 1
  let count := (w.right - w.top - origin + 2).toNat
  set ⟨d, d, origin, Array.replicate count 0⟩ d x

/-- Widens a front by a diagonal on both sides as far as there are some. `bound` stands for a place
that is not reached. -/
def widen (w : Window) (bound : Int) (f : Front) : Front :=
  let f := if f.least > w.left - w.bottom then
      { f with least := f.least - 1 }.set (f.least - 2) bound
    else { f with least := f.least + 1 }
  if f.greatest < w.right - w.top then
    { f with greatest := f.greatest + 1 }.set (f.greatest + 2) bound
  else { f with greatest := f.greatest - 1 }

/-- The diagonals of a step, the greatest first. -/
def diagonals (f : Front) : List Int :=
  (List.range ((f.greatest - f.least) / 2 + 1).toNat).map fun (n : Nat) =>
    f.greatest - 2 * (n : Int)

/-- Whether a diagonal is reached. -/
def reaches (f : Front) (d : Int) : Bool := f.least ≤ d && d ≤ f.greatest

end Front

/-- Goes on with the ways from the front. They end where one meets a way from the back. -/
def stepDown (same : Int → Int → Bool) (w : Window) (odd : Bool) (back : Front) :
    Front → List Int → Front × Option (Int × Int)
  | front, [] => (front, none)
  | front, d :: ds =>
    let low := front.get (d - 1)
    let high := front.get (d + 1)
    let x := if low < high then high else low + 1
    let x := slideDown same w w.size x (x - d)
    let front := front.set d x
    if odd && back.reaches d && back.get d ≤ x then (front, some (x, x - d))
    else stepDown same w odd back front ds

/-- Goes on with the ways from the back. They end where one meets a way from the front. -/
def stepUp (same : Int → Int → Bool) (w : Window) (odd : Bool) (front : Front) :
    Front → List Int → Front × Option (Int × Int)
  | back, [] => (back, none)
  | back, d :: ds =>
    let low := back.get (d - 1)
    let high := back.get (d + 1)
    let x := if low < high then low else high - 1
    let x := slideUp same w w.size x (x - d)
    let back := back.set d x
    if !odd && front.reaches d && x ≤ front.get d then (back, some (x, x - d))
    else stepUp same w odd front back ds

/-- A point on a shortest way through a window, found from both ends. -/
def middle (same : Int → Int → Bool) (w : Window) (odd : Bool) :
    Nat → Front → Front → Option (Int × Int)
  | 0, _, _ => none
  | fuel + 1, front, back =>
    let front := front.widen w (-1)
    match stepDown same w odd back front front.diagonals with
    | (_, some found) => some found
    | (front, none) =>
      let back := back.widen w (w.right + w.bottom + 1)
      match stepUp same w odd front back back.diagonals with
      | (_, some found) => some found
      | (back, none) => middle same w odd fuel front back

/-- The lines of both files that are changed in a window. -/
def changed (same : Int → Int → Bool) : Nat → Window → List Int × List Int
  | 0, _ => ([], [])
  | fuel + 1, w =>
    let w := w.trim same
    if w.left == w.right || w.top == w.bottom then (span w.left w.right, span w.top w.bottom)
    else
      let first := w.left - w.top
      let last := w.right - w.bottom
      let odd := (first - last) % 2 != 0
      match middle same w odd (w.size + 1) (.start w first w.left) (.start w last w.right) with
      | none => (span w.left w.right, span w.top w.bottom)
      | some (x, y) =>
        let (a, b) := changed same fuel { w with right := x, bottom := y }
        let (c, d) := changed same fuel { w with left := x, top := y }
        (a ++ c, b ++ d)

/-! ## Runs of changed lines -/

/-- Whether a line is marked. -/
def isOn (marks : Array Bool) (i : Int) : Bool := i ≥ 0 && marks.getD i.toNat false

/-- Marks a line, or takes its mark away. -/
def mark (marks : Array Bool) (i : Int) (on : Bool) : Array Bool :=
  if i < 0 then marks else marks.setIfInBounds i.toNat on

/-- The first place from one on that is not marked. -/
def nextOff (marks : Array Bool) : Nat → Int → Int
  | 0, i => i
  | fuel + 1, i => if isOn marks i then nextOff marks fuel (i + 1) else i

/-- The last place up to one that is not marked. -/
def lastOff (marks : Array Bool) : Nat → Int → Int
  | 0, i => i
  | fuel + 1, i => if isOn marks i then lastOff marks fuel (i - 1) else i

/-- A run of changed lines of one file. -/
structure Run where
  marks : Array Bool
  start : Int
  /-- The line behind the run. -/
  stop : Int
  /-- The place in the other file. -/
  place : Int
  /-- Where the run ended when the other file was changed at its place, or the end of the file. -/
  matched : Int

namespace Run

/-- Moves a run up as long as the line before it is the same as its last one. Runs that it meets are
joined to it. -/
def up (lines : Array String) (others : Array Bool) : Nat → Run → Run
  | 0, r => r
  | fuel + 1, r =>
    if r.start > 0 &&
        lines.getD (r.start - 1).toNat "" == lines.getD (r.stop - 1).toNat "" then
      let marks := mark (mark r.marks (r.start - 1) true) (r.stop - 1) false
      let start := lastOff marks marks.size (r.start - 2) + 1
      up lines others fuel ⟨marks, start, r.stop - 1,
        lastOff others others.size (r.place - 1), r.matched⟩
    else r

/-- Moves a run down as long as the line behind it is the same as its first one. Runs that it meets
are joined to it. -/
def down (lines : Array String) (others : Array Bool) : Nat → Run → Run
  | 0, r => r
  | fuel + 1, r =>
    if r.stop < lines.size &&
        lines.getD r.start.toNat "" == lines.getD r.stop.toNat "" then
      let marks := mark (mark r.marks r.start false) r.stop true
      let stop := nextOff marks marks.size (r.stop + 1)
      let place := nextOff others others.size (r.place + 1)
      down lines others fuel
        ⟨marks, r.start + 1, stop, place, if place > r.place + 1 then stop else r.matched⟩
    else r

/-- Moves a run up and down until it does not grow any more. -/
def settle (lines : Array String) (others : Array Bool) : Nat → Run → Run
  | 0, r => r
  | fuel + 1, r =>
    let length := r.stop - r.start
    let r := r.up lines others lines.size
    let r := { r with matched := if isOn others (r.place - 1) then r.stop else lines.size }
    let r := r.down lines others lines.size
    if r.stop - r.start == length then r else settle lines others fuel r

/-- Moves a run back to where the other file is changed too. -/
def restore (others : Array Bool) : Nat → Run → Run
  | 0, r => r
  | fuel + 1, r =>
    if r.matched < r.stop then
      restore others fuel
        ⟨mark (mark r.marks (r.start - 1) true) (r.stop - 1) false, r.start - 1, r.stop - 1,
          lastOff others others.size (r.place - 1), r.matched⟩
    else r

end Run

/-- Moves the runs of changed lines of a file, from a line on. -/
def settleAll (lines : Array String) (others : Array Bool) :
    Nat → Array Bool → Int → Int → Array Bool
  | 0, marks, _, _ => marks
  | fuel + 1, marks, i, place =>
    if i ≥ lines.size then marks
    else if !isOn marks i then
      settleAll lines others fuel marks (i + 1) (nextOff others others.size place + 1)
    else
      let stop := nextOff marks marks.size i
      let start : Run := ⟨marks, i, stop, nextOff others others.size place, lines.size⟩
      let r := (start.settle lines others (lines.size + 1)).restore others lines.size
      settleAll lines others fuel r.marks r.stop r.place

/-! ## Files -/

/-- How many lines two lists start with in common. -/
def commonLength : List String → List String → Nat
  | a :: as, b :: bs => if a == b then commonLength as bs + 1 else 0
  | _, _ => 0

/-- Marks for lines by their numbers. -/
def marked (count : Nat) (found : List Int) : Array Bool :=
  found.foldl (fun marks i => mark marks i true) (Array.replicate count false)

/-- The changed lines of two lists of lines. -/
def changes (as bs : List String) : Array Bool × Array Bool :=
  let lone (lines others : List String) : List (String × Nat) × List Int :=
    let numbered := lines.zipIdx
    (numbered.filter fun (line, _) => others.contains line,
      (numbered.filter fun (line, _) => !others.contains line).map fun (_, i) => (i : Int))
  let (keptA, loneA) := lone as bs
  let (keptB, loneB) := lone bs as
  let textA := (keptA.map Prod.fst).toArray
  let textB := (keptB.map Prod.fst).toArray
  let same (x y : Int) : Bool :=
    match textA[x.toNat]?, textB[y.toNat]? with
    | some a, some b => a == b
    | _, _ => false
  let w : Window := ⟨0, keptA.length, 0, keptB.length⟩
  let (a, b) := changed same (w.size + 1) w
  let place (kept : List (String × Nat)) (found : List Int) : List Int :=
    let numbers := (kept.map Prod.snd).toArray
    found.map fun i => (numbers.getD i.toNat 0 : Int)
  let marksA := marked as.length (loneA ++ place keptA a)
  let marksB := marked bs.length (loneB ++ place keptB b)
  let marksA := settleAll as.toArray marksB (2 * as.length + 1) marksA 0 0
  let marksB := settleAll bs.toArray marksA (2 * bs.length + 1) marksB 0 0
  (marksA, marksB)

/-- The changed lines of two files. What both start or end with is left alone, but for some lines.
The keys stand for the lines when they are compared. -/
def ofFiles (spare : Nat) (as bs keysA keysB : List String) : List Bool × List Bool :=
  let first := commonLength as bs - spare
  let last := min (commonLength as.reverse bs.reverse)
    (min (as.length - first) (bs.length - first)) - spare
  let body (keys : List String) : List String :=
    (keys.drop first).take (keys.length - first - last)
  let (a, b) := changes (body keysA) (body keysB)
  let whole (marks : Array Bool) : List Bool :=
    List.replicate first false ++ marks.toList ++ List.replicate last false
  (whole a, whole b)

end TensorCompiler.Tool.Alignment
