import Templating.Value
import Templating.Yaml.Fault
import Templating.Yaml.Place

/-!
Dates and points in time: the days of the Gregorian calendar, carried back to the year one, how
scalars spell them, and how messages and keys show them.
-/

namespace Templating.Yaml

structure Date where
  year : Nat
  month : Nat
  day : Nat
deriving DecidableEq, Repr

namespace Date

def greatestYear : Nat := 9999

def isLeap (year : Nat) : Bool :=
  year % 4 == 0 && (year % 100 != 0 || year % 400 == 0)

def monthLength (year month : Nat) : Nat :=
  if month = 2 then if isLeap year then 29 else 28
  else if [4, 6, 9, 11].contains month then 30
  else 31

def isValid (date : Date) : Bool :=
  1 ≤ date.year && date.year ≤ greatestYear && 1 ≤ date.month && date.month ≤ 12 &&
    1 ≤ date.day && date.day ≤ monthLength date.year date.month

/-- The number of the day; the first day of the year one has number one. -/
def number (date : Date) : Nat :=
  let past := date.year - 1
  365 * past + past / 4 - past / 100 + past / 400 +
    (List.range (date.month - 1)).foldl
      (fun days month => days + monthLength date.year (month + 1)) 0 +
    date.day

/-- The next day, up to the last one of the greatest year. -/
def next? (date : Date) : Option Date :=
  if date.day < monthLength date.year date.month then some { date with day := date.day + 1 }
  else if date.month < 12 then some { date with month := date.month + 1, day := 1 }
  else if date.year < greatestYear then some ⟨date.year + 1, 1, 1⟩
  else none

end Date

/-- A time of day in seconds and millionths. -/
structure TimeOfDay where
  seconds : Nat
  millionths : Nat
deriving DecidableEq, Repr

def secondsPerDay : Nat := 86400

/-- An offset from universal time as it is written, in minutes. -/
structure Zone where
  name : String
  west : Bool := false
  minutes : Nat := 0
deriving DecidableEq, Repr

/-- A time of day as it is written, with the digits of its fraction. -/
structure WrittenTime where
  hour : Nat
  minute : Nat
  second : Nat
  fraction : List Char
  zone : Option Zone
deriving DecidableEq, Repr

structure WrittenTimestamp where
  date : Date
  time : Option WrittenTime
deriving DecidableEq, Repr

/-- A point in time, or only a day. -/
inductive Timestamp where
  | day (date : Date)
  | moment (date : Date) (time : TimeOfDay) (zone : Option Zone)
deriving DecidableEq, Repr

namespace Timestamp

/-! Spellings -/

def numberOf (digits : List Char) : Nat :=
  digits.foldl (fun value c => 10 * value + hexValue c) 0

/-- A number of at least so many digits, and not more than so many. -/
def number? (least most : Nat) (text : List Char) : Option (Nat × List Char) :=
  let digits := (text.take most).takeWhile Char.isDigit
  if digits.length < least then none else some (numberOf digits, text.drop digits.length)

def after? (c : Char) : List Char → Option (List Char)
  | [] => none
  | d :: rest => if c = d then some rest else none

def date? (text : List Char) : Option (Date × List Char) := do
  let (year, rest) ← number? 4 4 text
  let (month, rest) ← number? 1 2 (← after? '-' rest)
  let (dayOfMonth, rest) ← number? 1 2 (← after? '-' rest)
  return (⟨year, month, dayOfMonth⟩, rest)

/-- The hour of an offset has one or two digits, its minute, if it has one, two. -/
def offset? (text : List Char) : Option Zone :=
  let name := String.ofList text
  match text with
  | ['Z'] => some { name := name }
  | sign :: rest => do
    if sign ≠ '+' && sign ≠ '-' then none
    let (hours, rest) ← number? 1 2 rest
    let (minutes, rest) ←
      if rest.isEmpty then some (0, rest) else number? 2 2 (← after? ':' rest)
    if rest.isEmpty then some ⟨name, sign == '-', 60 * hours + minutes⟩ else none
  | [] => none

/-- The rest of a text is no zone, or blanks and a zone. -/
def zone? (text : List Char) : Option (Option Zone) :=
  if text.isEmpty then some none
  else (offset? (text.dropWhile isSpaceOrTab)).map some

def time? (text : List Char) : Option WrittenTime := do
  let (hour, rest) ← number? 1 2 text
  let (minute, rest) ← number? 2 2 (← after? ':' rest)
  let (second, rest) ← number? 2 2 (← after? ':' rest)
  let (fraction, rest) := match rest with
    | '.' :: rest => (rest.takeWhile Char.isDigit, rest.dropWhile Char.isDigit)
    | rest => ([], rest)
  return ⟨hour, minute, second, fraction, ← zone? rest⟩

/-- A time stands behind a letter or behind blanks. -/
def written? (text : List Char) : Option WrittenTimestamp := do
  let (date, rest) ← date? text
  match rest with
  | [] => return ⟨date, none⟩
  | c :: more =>
    if c == 'T' || c == 't' then return ⟨date, some (← time? more)⟩
    else if isSpaceOrTab c then return ⟨date, some (← time? (more.dropWhile isSpaceOrTab))⟩
    else none

/-- Whether a scalar without a tag is one; a day alone then has all its digits. -/
def isSpelled (text : List Char) : Bool :=
  (written? text).any fun found => found.time.isSome || text.length == 10

/-! Values -/

def fractionDigits : Nat := 6

/-- The fraction in millionths, rounded by the next digit alone; it may make up a second. -/
def millionths (fraction : List Char) : Nat :=
  let kept := fraction.take fractionDigits
  let value := numberOf kept * Binary64.tenTo (fractionDigits - kept.length : Nat)
  let roundsUp := (fraction.drop fractionDigits).head?.any fun c => decide (4 < hexValue c)
  if roundsUp then value + 1 else value

def minutesPerDay : Nat := 1440

def ofWritten (written : WrittenTimestamp) : Except Fault Timestamp :=
  match written.time with
  | none => if written.date.isValid then .ok (.day written.date) else .error .noSuchValue
  | some time =>
    let zoned := time.zone.all fun zone => zone.minutes < minutesPerDay
    if !zoned || !written.date.isValid || 24 ≤ time.hour || 60 ≤ time.minute || 60 ≤ time.second
    then .error .noSuchValue
    else
      let seconds := 3600 * time.hour + 60 * time.minute + time.second
      let millionths := millionths time.fraction
      if millionths < 1000000 then
        .ok (.moment written.date ⟨seconds, millionths⟩ time.zone)
      else if seconds + 1 < secondsPerDay then
        .ok (.moment written.date ⟨seconds + 1, 0⟩ time.zone)
      else match written.date.next? with
        | none => .error .outOfRange
        | some date => .ok (.moment date ⟨0, 0⟩ time.zone)

def ofText (text : List Char) : Except Fault Timestamp :=
  match written? text with
  | none => .error .malformed
  | some written => ofWritten written

/-! Texts -/

def padded (width value : Nat) : String :=
  let digits := Nat.toDigits 10 value
  String.ofList (List.replicate (width - digits.length) '0' ++ digits)

def dateText (date : Date) : String :=
  padded 4 date.year ++ "-" ++ padded 2 date.month ++ "-" ++ padded 2 date.day

def offsetText (zone : Zone) : String :=
  (if zone.west && zone.minutes != 0 then "-" else "+") ++ padded 2 (zone.minutes / 60) ++ ":" ++
    padded 2 (zone.minutes % 60)

def timeText (time : TimeOfDay) : String :=
  padded 2 (time.seconds / 3600) ++ ":" ++ padded 2 (time.seconds / 60 % 60) ++ ":" ++
    padded 2 (time.seconds % 60) ++
    (if time.millionths = 0 then "" else "." ++ padded 6 time.millionths)

/-- The text of a key. -/
def text : Timestamp → String
  | day date => dateText date
  | moment date time zone =>
    dateText date ++ " " ++ timeText time ++ (zone.map offsetText).getD ""

def quotedCall (name : String) (arguments : List String) : String :=
  name ++ "(" ++ ", ".intercalate arguments ++ ")"

/-- West of the zero meridian an offset is a day back and the rest of a day on. -/
def quotedOffset (zone : Zone) : String :=
  let seconds := 60 * zone.minutes
  quotedCall "datetime.timedelta"
    (if seconds = 0 then ["0"]
    else if zone.west then ["days=-1", "seconds=" ++ toString (secondsPerDay - seconds)]
    else ["seconds=" ++ toString seconds])

def quotedZone (zone : Zone) : String :=
  quotedCall "datetime.timezone" [quotedOffset zone, "'" ++ zone.name ++ "'"]

/-- As messages quote it: seconds and millionths are left out when they and all after them are
zero. -/
def quoted : Timestamp → String
  | day date =>
    quotedCall "datetime.date" ([date.year, date.month, date.day].map toString)
  | moment date time zone =>
    let fine :=
      if time.millionths ≠ 0 then [time.seconds % 60, time.millionths]
      else if time.seconds % 60 ≠ 0 then [time.seconds % 60]
      else []
    let numbers :=
      [date.year, date.month, date.day, time.seconds / 3600, time.seconds / 60 % 60] ++ fine
    quotedCall "datetime.datetime"
      (numbers.map toString ++ (zone.map fun zone => "tzinfo=" ++ quotedZone zone).toList)

/-- The millionths since two days before the first one, in universal time if there is a zone. -/
def instant (date : Date) (time : TimeOfDay) (zone : Option Zone) : Nat :=
  let seconds := secondsPerDay * (date.number + 1) + time.seconds
  let shifted := match zone with
    | none => seconds
    | some zone => if zone.west then seconds + 60 * zone.minutes else seconds - 60 * zone.minutes
  1000000 * shifted + time.millionths

end Timestamp

end Templating.Yaml
