import TensorCompiler.Build.Tool.Basic

/-!
# Dates

Moments as seconds of universal time, their parts in the calendar, the texts that name them, and the
formats in which they are printed.
-/

namespace TensorCompiler.Tool

namespace Calendar

/-! ## Days -/

/-- The number of a day of the calendar, where the first day of 1970 has the number zero. Months are
counted from March on, so that a leap day ends a year. -/
def dayNumber (year : Int) (month day : Nat) : Int :=
  let y := if month ≤ 2 then year - 1 else year
  let era := y.fdiv 400
  let yearOfEra := y - era * 400
  let shifted := (month + 9) % 12
  let dayOfYear := (153 * shifted + 2) / 5 + day - 1
  let dayOfEra := yearOfEra * 365 + yearOfEra.fdiv 4 - yearOfEra.fdiv 100 + dayOfYear
  era * 146097 + dayOfEra - 719468

/-- The year, the month and the day of the month with a number. -/
def dateOf (number : Int) : Int × Nat × Nat :=
  let z := number + 719468
  let era := z.fdiv 146097
  let dayOfEra := (z - era * 146097).toNat
  let yearOfEra := (dayOfEra - dayOfEra / 1460 + dayOfEra / 36524 - dayOfEra / 146096) / 365
  let dayOfYear := dayOfEra - (365 * yearOfEra + yearOfEra / 4 - yearOfEra / 100)
  let shifted := (5 * dayOfYear + 2) / 153
  let day := dayOfYear - (153 * shifted + 2) / 5 + 1
  let month := if shifted < 10 then shifted + 3 else shifted - 9
  (yearOfEra + era * 400 + (if month ≤ 2 then 1 else 0), month, day)

/-- The names of the days of the week. -/
def dayNames : List String :=
  ["Sunday", "Monday", "Tuesday", "Wednesday", "Thursday", "Friday", "Saturday"]

/-- The names of the months. -/
def monthNames : List String :=
  ["January", "February", "March", "April", "May", "June", "July", "August", "September",
    "October", "November", "December"]

/-- A moment: seconds of universal time since the start of 1970, and nanoseconds. -/
structure Moment where
  seconds : Int
  nanoseconds : Nat
deriving DecidableEq, Repr

namespace Moment

/-- The number of the day. -/
def number (m : Moment) : Int := m.seconds.fdiv 86400

/-- The seconds since the start of the day. -/
def ofDay (m : Moment) : Nat := (m.seconds - m.number * 86400).toNat

/-- The year. -/
def year (m : Moment) : Int := (dateOf m.number).1

/-- The month, from one on. -/
def month (m : Moment) : Nat := (dateOf m.number).2.1

/-- The day of the month. -/
def day (m : Moment) : Nat := (dateOf m.number).2.2

/-- The hour. -/
def hour (m : Moment) : Nat := m.ofDay / 3600

/-- The minute. -/
def minute (m : Moment) : Nat := m.ofDay / 60 % 60

/-- The second. -/
def second (m : Moment) : Nat := m.ofDay % 60

/-- The day of the week, from Sunday on. -/
def weekday (m : Moment) : Nat := ((m.number + 4).emod 7).toNat

/-- The day of the year, from zero on. -/
def dayOfYear (m : Moment) : Nat := (m.number - dayNumber m.year 1 1).toNat

/-- The number of the week, where weeks start on a day of the week. -/
def week (m : Moment) (start : Nat) : Nat :=
  (m.dayOfYear + 7 - (m.weekday + 7 - start) % 7) / 7

/-- The year and the week that belong to the Thursday of the week. -/
def thursdayWeek (m : Moment) : Int × Nat :=
  let back := (m.weekday + 6) % 7
  let thursday := m.number - back + 3
  let (year, _, _) := dateOf thursday
  (year, (thursday - dayNumber year 1 1).toNat / 7 + 1)

/-- The moment at the start of a day. -/
def ofDate (year : Int) (month day : Nat) : Moment := ⟨dayNumber year month day * 86400, 0⟩

/-- A moment so many months later, on the same day of the month as far as that can be. -/
def addMonths (m : Moment) (n : Int) : Moment :=
  let total := m.year * 12 + ((m.month : Int) - 1) + n
  let start := dayNumber (total.fdiv 12) ((total.emod 12).toNat + 1) 1
  ⟨(start + m.day - 1) * 86400 + m.ofDay, m.nanoseconds⟩

end Moment

/-! ## Formats -/

/-- What a letter of a format stands for: a text, or a number of a width that is filled up. -/
inductive Shown where
  | text (t : String)
  | number (n : Int) (width : Nat) (filler : Char)

/-- What a letter of a format stands for by itself. -/
def plainShown? (m : Moment) (c : Char) : Option Shown :=
  let two (n : Nat) : Option Shown := some (.number n 2 '0')
  let blank (n : Nat) : Option Shown := some (.number n 2 ' ')
  let hour12 := if m.hour % 12 == 0 then 12 else m.hour % 12
  let name (names : List String) (i : Nat) : String := names.getD i ""
  match c with
  | 'a' => some (.text ((name dayNames m.weekday).take 3).toString)
  | 'A' => some (.text (name dayNames m.weekday))
  | 'b' | 'h' => some (.text ((name monthNames (m.month - 1)).take 3).toString)
  | 'B' => some (.text (name monthNames (m.month - 1)))
  | 'C' => some (.number (m.year.fdiv 100) 2 '0')
  | 'd' => two m.day
  | 'e' => blank m.day
  | 'g' => some (.number (m.thursdayWeek.1.emod 100) 2 '0')
  | 'G' => some (.number m.thursdayWeek.1 4 '0')
  | 'H' => two m.hour
  | 'I' => two hour12
  | 'j' => some (.number (m.dayOfYear + 1) 3 '0')
  | 'k' => blank m.hour
  | 'l' => blank hour12
  | 'm' => two m.month
  | 'M' => two m.minute
  | 'n' => some (.text "\n")
  | 'N' => some (.number m.nanoseconds 9 '0')
  | 'p' => some (.text (if m.hour < 12 then "AM" else "PM"))
  | 'P' => some (.text (if m.hour < 12 then "am" else "pm"))
  | 'q' => some (.number ((m.month - 1) / 3 + 1 : Nat) 1 '0')
  | 's' => some (.number m.seconds 1 '0')
  | 'S' => two m.second
  | 't' => some (.text "\t")
  | 'u' => some (.number (if m.weekday == 0 then 7 else m.weekday : Nat) 1 '0')
  | 'U' => two (m.week 0)
  | 'V' => two m.thursdayWeek.2
  | 'w' => some (.number m.weekday 1 '0')
  | 'W' => two (m.week 1)
  | 'y' => some (.number (m.year.emod 100) 2 '0')
  | 'Y' => some (.number m.year 4 '0')
  | 'z' => some (.text "+0000")
  | 'Z' => some (.text "UTC")
  | '%' => some (.text "%")
  | _ => none

/-- The format that a letter is short for. -/
def longForm? : Char → Option String
  | 'c' => some "%a %b %e %H:%M:%S %Y"
  | 'D' | 'x' => some "%m/%d/%y"
  | 'F' => some "%Y-%m-%d"
  | 'r' => some "%I:%M:%S %p"
  | 'R' => some "%H:%M"
  | 'T' | 'X' => some "%H:%M:%S"
  | _ => none

/-- What flags and a width make of something that is shown. -/
def Shown.fill (flags : List Char) (width : Option Nat) : Shown → String
  | .text t =>
    let t := if flags.contains '^' then t.toUpper
      else if flags.contains '#' then (if t.any Char.isLower then t.toUpper else t.toLower) else t
    let zeros := flags.contains '0'
    match width with
    | some w => if flags.contains '-' then t
        else String.ofList (List.replicate (w - t.length) (if zeros then '0' else ' ')) ++ t
    | none => t
  | .number n own filler =>
    let digits := Text.ofNat n.natAbs
    let sign := if n < 0 then "-" else ""
    if flags.contains '-' then sign ++ digits
    else
      let filler := if flags.contains '_' then ' ' else if flags.contains '0' then '0' else filler
      let missing := (width.getD own) - digits.length - sign.length
      let fill := String.ofList (List.replicate missing filler)
      if filler == '0' then sign ++ fill ++ digits else fill ++ sign ++ digits

/-- A moment in a format. -/
def format (m : Moment) : Nat → List Char → String
  | 0, _ => ""
  | _, [] => ""
  | fuel + 1, '%' :: cs =>
    let flags := cs.takeWhile fun c => "-_0^#+".toList.contains c
    let rest := cs.drop flags.length
    let digits := rest.takeWhile Char.isDigit
    let width := Text.readNat? digits
    let rest := rest.drop digits.length
    let colons := rest.takeWhile (· == ':')
    match rest.drop colons.length with
    | [] => String.ofList ('%' :: cs)
    | c :: behind =>
      let shown : Option String :=
        if !colons.isEmpty then
          if c == 'z' then some (if colons.length == 1 then "+00:00" else "+00:00:00") else none
        else match longForm? c with
          | some long => some ((Shown.text (format m fuel long.toList)).fill flags width)
          | none => (plainShown? m c).map fun s => s.fill flags width
      match shown with
      | some t => t ++ format m fuel behind
      | none =>
        String.ofList ('%' :: (cs.take (cs.length - behind.length))) ++ format m fuel behind
  | fuel + 1, c :: cs => String.singleton c ++ format m fuel cs

/-- A moment in a format. -/
def Moment.text (m : Moment) (f : String) : String := format m (20 * f.length + 20) f.toList

/-! ## Texts that name moments -/

/-- What is known of a moment while a text is read. -/
structure Naming where
  base : Moment
  date : Option (Int × Nat × Nat)
  time : Option (Nat × Nat)
  /-- The seconds by which the clock of the text is ahead of universal time. -/
  offset : Int
  months : Int
  seconds : Int
  /-- A number and its sign that waits for its unit. -/
  count : Option Int

/-- The month that a word names. -/
def month? (w : String) : Option Nat :=
  if w.length < 3 then none
  else (monthNames.findIdx? fun n => n.toLower.startsWith w).map (· + 1)

/-- The unit that a word names: in months or in seconds. -/
def unit? (w : String) : Option (Int × Int) :=
  match if w.endsWith "s" && w.length > 3 then (w.dropEnd 1).toString else w with
  | "year" => some (12, 0)
  | "month" => some (1, 0)
  | "fortnight" => some (0, 1209600)
  | "week" => some (0, 604800)
  | "day" => some (0, 86400)
  | "hour" => some (0, 3600)
  | "minute" | "min" => some (0, 60)
  | "second" | "sec" => some (0, 1)
  | _ => none

/-- The time of day that a text names: seconds and nanoseconds. -/
def time? (t : String) : Option (Nat × Nat) :=
  let (body, part) := match Text.split '.' t with
    | [a, b] => (a, b.toList)
    | _ => (t, [])
  let nanoseconds := (Text.readNat? ((part ++ List.replicate 9 '0').take 9)).getD 0
  match (Text.split ':' body).map fun x => Text.readNat? x.toList with
  | [some h, some m] => if h < 24 && m < 60 then some (h * 3600 + m * 60, nanoseconds) else none
  | [some h, some m, some s] =>
    if h < 24 && m < 60 && s < 61 then some (h * 3600 + m * 60 + s, nanoseconds) else none
  | _ => none

/-- Whether there is a day. -/
def isDay (year : Int) (month day : Nat) : Bool :=
  1 ≤ month && month ≤ 12 && 1 ≤ day && dateOf (dayNumber year month day) == (year, month, day)

/-- The day that a text of digits and signs names. -/
def date? (t : String) : Option (Int × Nat × Nat) :=
  let numbers (sign : Char) := (Text.split sign t).map fun x => Text.readNat? x.toList
  let found : Option (Int × Nat × Nat) := match numbers '-', numbers '/', t.length with
    | [some y, some m, some d], _, _ => some (y, m, d)
    | _, [some m, some d, some y], _ => some (y, m, d)
    | [some n], _, 8 => some ((n / 10000 : Nat), n / 100 % 100, n % 100)
    | _, _, _ => none
  found.filter fun (y, m, d) => isDay y m d

/-- The offset of a clock that a text names. -/
def offset? (t : String) : Option Int :=
  let read (sign : Int) (cs : List Char) : Option Int :=
    match (Text.splitChars ':' cs).map Text.readNat? with
    | [some h, some m] => some (sign * (h * 3600 + m * 60 : Nat))
    | [some n] => if cs.length == 4 then some (sign * (n / 100 * 3600 + n % 100 * 60 : Nat))
        else some (sign * (n * 3600 : Nat))
    | _ => none
  match t.toList with
  | '+' :: cs => read 1 cs
  | '-' :: cs => read (-1) cs
  | _ => if ["z", "utc", "gmt"].contains t then some 0 else none

namespace Naming

/-- Goes on by a number of units. -/
def add (n : Naming) (unit : Int × Int) (times : Int) : Naming :=
  { n with
    months := n.months + unit.1 * times
    seconds := n.seconds + unit.2 * times
    count := none }

/-- Takes one word. -/
def word? (n : Naming) (w : String) (rest : List String) : Option (Naming × List String) :=
  let isNext := rest.head?.bind unit?
  match w, isNext with
  | "now", _ | "today", _ => some (n, rest)
  | "tomorrow", _ => some (n.add (0, 86400) 1, rest)
  | "yesterday", _ => some (n.add (0, 86400) (-1), rest)
  | "midnight", _ => some ({ n with time := some (0, 0) }, rest)
  | "noon", _ => some ({ n with time := some (43200, 0) }, rest)
  | "next", some unit => some (n.add unit 1, rest.tail)
  | "last", some unit => some (n.add unit (-1), rest.tail)
  | "ago", _ => some ({ n with months := -n.months, seconds := -n.seconds }, rest)
  | w, _ =>
    match unit? w, time? w, date? w, offset? w, month? w with
    | some unit, _, _, _, _ => some (n.add unit (n.count.getD 1), rest)
    | _, some t, _, _, _ => if n.time.isSome then none else some ({ n with time := some t }, rest)
    | _, _, some d, _, _ => if n.date.isSome then none else some ({ n with date := some d }, rest)
    | _, _, _, some o, _ =>
      if n.time.isSome && isNext.isNone then some ({ n with offset := o }, rest)
      else if isNext.isSome then
        let digits := if w.startsWith "+" || w.startsWith "-" then w.toList.tail else w.toList
        (Text.readNat? digits).map fun k =>
          ({ n with count := some (if w.startsWith "-" then -(k : Int) else k) }, rest)
      else none
    | _, _, _, _, some month =>
      let year := (rest.find? fun t => t.length == 4).bind fun t => Text.readNat? t.toList
      let day := match n.count with
        | some d => some d.toNat
        | none => rest.head?.bind fun t =>
          Text.readNat? (t.toList.filter (· != ','))
      let used := (if n.count.isSome then 0 else 1) + (if year.isSome then 1 else 0)
      match day with
      | some d =>
        let y : Int := (year.map fun y => (y : Int)).getD n.base.year
        if isDay y month d then
          some ({ n with date := some (y, month, d), count := none }, rest.drop used)
        else none
      | none => none
    | _, _, _, _, none =>
      if dayNames.any fun d => w.length ≥ 3 && d.toLower.startsWith w then some (n, rest)
      else
        let (sign, digits) := match w.toList with
          | '+' :: ds => ((1 : Int), ds)
          | '-' :: ds => (-1, ds)
          | ds => (1, ds)
        match Text.readNat? digits with
        | some k =>
          if n.count.isNone then some ({ n with count := some (sign * k) }, rest) else none
        | none => none

/-- Takes words to the last. -/
def words? : Nat → Naming → List String → Option Naming
  | 0, n, _ => some n
  | _, n, [] => if n.count.isSome then none else some n
  | fuel + 1, n, w :: rest =>
    match n.word? w rest with
    | some (n, rest) => words? fuel n rest
    | none => none

/-- The moment that is named. -/
def moment (n : Naming) : Moment :=
  let start : Moment := match n.date, n.time with
    | some (y, m, d), _ => .ofDate y m d
    | none, some _ => ⟨n.base.number * 86400, 0⟩
    | none, none => n.base
  let (s, nanoseconds) := n.time.getD (0, start.nanoseconds)
  let m : Moment := ⟨start.seconds + s - n.offset, nanoseconds⟩
  let m := if n.months == 0 then m else m.addMonths n.months
  { m with seconds := m.seconds + n.seconds }

end Naming

/-- Parts a text into words: signs stand with the numbers behind them, and the letter between a day
and a time is a blank. -/
def nameWords (text : String) : List String :=
  let lower := text.toLower
  let spaced := lower.toList.zipIdx.flatMap fun (c, i) =>
    let before := lower.toList.getD (i - 1) ' '
    let behind := lower.toList.getD (i + 1) ' '
    if i > 0 && c == 't' && before.isDigit && behind.isDigit then [' ']
    else if c == 'z' && before.isDigit then [' ', 'z']
    else if c == '+' && before.isDigit then [' ', '+']
    else if c == '-' && before.isDigit && lower.toList.any (· == ':') &&
        (lower.toList.take i).any (· == ':') then [' ', '-']
    else [c]
  let found := (Text.split ' ' (String.ofList spaced)).filter (!·.isEmpty)
  (found.foldl (fun (done : List String) w =>
    match done.getLast? with
    | some last => if last == "-" || last == "+" then done.dropLast ++ [last ++ w] else done ++ [w]
    | none => [w]) [])

/-- The moment that a text names, at some moment. -/
def read? (now : Moment) (text : String) : Option Moment :=
  match text.toList with
  | '@' :: cs =>
    let (negative, cs) := match cs with
      | '-' :: cs => (true, cs)
      | cs => (false, cs)
    match Text.splitChars '.' cs with
    | [whole] => (Text.readNat? whole).map fun n => ⟨if negative then -(n : Int) else n, 0⟩
    | [whole, part] => (Text.readNat? whole).map fun n =>
        ⟨n, (Text.readNat? ((part ++ List.replicate 9 '0').take 9)).getD 0⟩
    | _ => none
  | _ =>
    let words := nameWords text
    (Naming.words? (words.length + 1) ⟨now, none, none, 0, 0, 0, none⟩ words).map Naming.moment

/-- The moment at which everything starts. -/
def beginning : Moment := ⟨1767225600, 0⟩

/-- The moment so many nanoseconds after the start of everything. -/
def Moment.after (n : Int) : Moment :=
  ⟨beginning.seconds + n.fdiv 1000000000, (n.emod 1000000000).toNat⟩

/-- The nanoseconds from the start of everything to a moment. -/
def Moment.sinceStart (m : Moment) : Int :=
  (m.seconds - beginning.seconds) * 1000000000 + m.nanoseconds

/-- The moment of the last change of a place. -/
def changedAt (d : Disk) (p : Place) : Moment := .after (d.factsOf p).changed

end Calendar

open Calendar in
/-- Prints a moment, the present one unless another is named. -/
def date : Tool := fun name args =>
  let args := args.flatMap fun a =>
    match a with
    | "-I" | "--iso-8601" => ["-I", "date"]
    | "-Iseconds" => ["-I", "seconds"]
    | a => [a]
  withOptions ⟨"uR", "dfrIs", [("utc", 'u'), ("universal", 'u'), ("date", 'd'), ("reference", 'r'),
    ("rfc-email", 'R'), ("iso-8601", 'I'), ("set", 's')]⟩ 1 (fun name g => do
  let iso : String := match (g.value? 'I').getD "" with
    | "hours" => "%Y-%m-%dT%H%:z"
    | "minutes" => "%Y-%m-%dT%H:%M%:z"
    | "seconds" => "%Y-%m-%dT%H:%M:%S%:z"
    | "ns" => "%Y-%m-%dT%H:%M:%S,%N%:z"
    | _ => "%Y-%m-%d"
  let form : Except String String := match g.operands with
    | [] => .ok (if g.has 'I' then iso else if g.has 'R' then "%a, %d %b %Y %H:%M:%S %z"
        else "%a %b %e %H:%M:%S %Z %Y")
    | a :: rest =>
      match a.toList, rest with
      | _, b :: _ => .error ("extra operand " ++ quote b ++ "\n" ++ hint name)
      | '+' :: cs, [] => .ok (String.ofList cs)
      | _, [] => .error ("invalid date " ++ quote a)
  let t ← get
  let now := Moment.after t.disk.now
  let moment : Except String Moment := match g.value? 'd', g.value? 'r' with
    | some text, _ =>
      (read? now text).elim (.error (name ++ ": invalid date " ++ quote text)) .ok
    | none, some path =>
      match t.disk.find t.here path with
      | .error fault => .error (about name path fault)
      | .ok p => .ok (changedAt t.disk p)
    | none, none => .ok now
  match form, moment with
  | .error e, _ => fail 1 (name ++ ": " ++ e)
  | _, .error e => fail 1 e
  | .ok form, .ok m =>
    say (m.text form ++ "\n")
    return 0) name args

end TensorCompiler.Tool
