import RelationAtlas.Text.Basic

/-!
# Moments

A moment is a number of seconds, and of millionths of a second, since the beginning of the year 1970
in universal time.  Its date is found by taking whole years and then whole months away from the
number of its day (`Date.ofDay`).

A moment is written by a pattern.  A pattern with a percent sign is made of directives, which are a
percent sign and a letter; every other pattern is made of tokens, which are runs of one letter.  A
token in square brackets stands for its letters, and so does everything that is no directive or no
token.
-/

namespace RelationAtlas

/-- A moment: the seconds since the beginning of 1970, and the millionths of a second after that. -/
structure Moment where
  seconds : Nat
  micros : Nat
  deriving DecidableEq, Repr

/-- A day in the calendar.  Months and days are counted from one, and so is the day of the year; the
days of the week are counted from zero for Mondays. -/
structure Date where
  year : Nat
  month : Nat
  day : Nat
  yearDay : Nat
  weekday : Nat
  deriving DecidableEq, Repr

/-! ## The calendar -/

namespace Date

/-- Has the year a leap day? -/
def isLeap (year : Nat) : Bool := year % 4 = 0 && (year % 100 ≠ 0 || year % 400 = 0)

/-- The lengths of the months of a year. -/
def monthLengths (year : Nat) : List Nat :=
  [31, if isLeap year then 29 else 28, 31, 30, 31, 30, 31, 31, 30, 31, 30, 31]

/-- The length of a year. -/
def yearLength (year : Nat) : Nat := (monthLengths year).foldl (· + ·) 0

/-- The year that a number of days leads to from the beginning of a year, and the days that are left.
The first argument bounds the number of years. -/
def takeYears : Nat → Nat → Nat → Nat × Nat
  | 0, year, days => (year, days)
  | n + 1, year, days =>
    if days < yearLength year then (year, days)
    else takeYears n (year + 1) (days - yearLength year)

/-- The month that a number of days leads to, when the months from the given one on have the given
lengths, and the days that are left. -/
def takeMonths : Nat → List Nat → Nat → Nat × Nat
  | month, [], days => (month, days)
  | month, length :: lengths, days =>
    if days < length then (month, days) else takeMonths (month + 1) lengths (days - length)

/-- The date of a day that is counted from the beginning of 1970. -/
def ofDay (n : Nat) : Date :=
  let (year, left) := takeYears n 1970 n
  let (month, day) := takeMonths 1 (monthLengths year) left
  ⟨year, month, day + 1, left + 1, (n + 3) % 7⟩

/-- The names of the months. -/
def monthNames : List Text :=
  ["January", "February", "March", "April", "May", "June", "July", "August", "September",
   "October", "November", "December"].map String.toList

/-- The names of the days of the week. -/
def weekdayNames : List Text :=
  ["Monday", "Tuesday", "Wednesday", "Thursday", "Friday", "Saturday", "Sunday"].map String.toList

/-- The name of the month. -/
def monthName (d : Date) : Text := (monthNames[d.month - 1]?).getD []

/-- The name of the day of the week. -/
def weekdayName (d : Date) : Text := (weekdayNames[d.weekday]?).getD []

end Date

namespace Moment

/-- The date of the moment. -/
def date (m : Moment) : Date := .ofDay (m.seconds / 86400)

/-- The hour of the day. -/
def hour (m : Moment) : Nat := m.seconds / 3600 % 24

/-- The hour on a clock face. -/
def clockHour (m : Moment) : Nat := (m.hour + 11) % 12 + 1

/-- The minute of the hour. -/
def minute (m : Moment) : Nat := m.seconds / 60 % 60

/-- The second of the minute. -/
def second (m : Moment) : Nat := m.seconds % 60

/-- The half of the day. -/
def halfDay (m : Moment) : Text := if m.hour < 12 then "AM".toList else "PM".toList

/-- A number with zeros in front of it, up to a width. -/
def padded (width n : Nat) : Text :=
  List.replicate (width - (Text.ofNat n).length) '0' ++ Text.ofNat n

/-! ## Tokens -/

/-- The tokens, a longer one before a shorter one of the same letter, and how they are written. -/
def tokens : List (Text × (Moment → Text)) :=
  [("HH", fun m => padded 2 m.hour), ("H", fun m => Text.ofNat m.hour),
   ("hh", fun m => padded 2 m.clockHour), ("h", fun m => Text.ofNat m.clockHour),
   ("mm", fun m => padded 2 m.minute), ("m", fun m => Text.ofNat m.minute),
   ("ss", fun m => padded 2 m.second), ("s", fun m => Text.ofNat m.second),
   ("SSSSSS", fun m => padded 6 m.micros), ("SSSSS", fun m => padded 5 (m.micros / 10)),
   ("SSSS", fun m => padded 4 (m.micros / 100)), ("SSS", fun m => padded 3 (m.micros / 1000)),
   ("SS", fun m => padded 2 (m.micros / 10000)), ("S", fun m => padded 1 (m.micros / 100000)),
   ("YYYY", fun m => padded 4 m.date.year), ("YY", fun m => padded 2 (m.date.year % 100)),
   ("MMMM", fun m => m.date.monthName), ("MMM", fun m => m.date.monthName.take 3),
   ("MM", fun m => padded 2 m.date.month), ("M", fun m => Text.ofNat m.date.month),
   ("DDDD", fun m => padded 3 m.date.yearDay), ("DDD", fun m => Text.ofNat m.date.yearDay),
   ("DD", fun m => padded 2 m.date.day), ("D", fun m => Text.ofNat m.date.day),
   ("ZZ", fun _ => "+0000".toList), ("Z", fun _ => "+00:00".toList), ("zz", fun _ => "UTC".toList),
   ("A", halfDay), ("X", fun m => Text.ofNat m.seconds),
   ("x", fun m => Text.ofNat (m.seconds * 1000000 + m.micros)),
   ("E", fun m => Text.ofNat (m.date.weekday + 1)),
   ("Q", fun m => Text.ofNat ((m.date.month - 1) / 3 + 1)),
   ("dddd", fun m => m.date.weekdayName), ("ddd", fun m => m.date.weekdayName.take 3),
   ("d", fun m => Text.ofNat m.date.weekday)].map fun (name, write) => (name.toList, write)

/-- The mark at the end of a pattern that asks for universal time. -/
def universalMark : Text := "!UTC".toList

/-- May the text stand in square brackets? -/
def isBracketed (t : Text) : Bool :=
  t = [] || t = universalMark || tokens.any fun (name, _) => name = t

/-- Reads a token. -/
def token? (m : Moment) (t : Text) : Option (Text × Text) :=
  tokens.findSome? fun (name, write) => (Text.after? name t).map fun rest => (write m, rest)

/-- Reads square brackets and what they hold. -/
def bracketed? : Text → Option (Text × Text)
  | '[' :: t =>
    match t.takeWhile (· ≠ ']'), t.dropWhile (· ≠ ']') with
    | body, ']' :: rest => if isBracketed body then some (body, rest) else none
    | _, _ => none
  | _ => none

/-- The moment by a pattern of tokens; the first argument bounds the length of the pattern. -/
def tokenText (m : Moment) : Nat → Text → Text
  | 0, _ => []
  | _ + 1, [] => []
  | n + 1, c :: cs =>
    match m.token? (c :: cs) <|> bracketed? (c :: cs) with
    | some (written, rest) => written ++ m.tokenText n rest
    | none => c :: m.tokenText n cs

/-! ## Directives -/

/-- What the letter of a directive asks for. -/
def directive? (m : Moment) : Char → Option Text
  | 'Y' => some (Text.ofNat m.date.year)
  | 'y' => some (padded 2 (m.date.year % 100))
  | 'm' => some (padded 2 m.date.month)
  | 'd' => some (padded 2 m.date.day)
  | 'j' => some (padded 3 m.date.yearDay)
  | 'H' => some (padded 2 m.hour)
  | 'I' => some (padded 2 m.clockHour)
  | 'M' => some (padded 2 m.minute)
  | 'S' => some (padded 2 m.second)
  | 'f' => some (padded 6 m.micros)
  | 's' => some (Text.ofNat m.seconds)
  | 'p' => some m.halfDay
  | 'a' => some (m.date.weekdayName.take 3)
  | 'A' => some m.date.weekdayName
  | 'b' => some (m.date.monthName.take 3)
  | 'B' => some m.date.monthName
  | 'u' => some (Text.ofNat (m.date.weekday + 1))
  | 'w' => some (Text.ofNat ((m.date.weekday + 1) % 7))
  | 'z' => some "+0000".toList
  | 'Z' => some "UTC".toList
  | 'n' => some ['\n']
  | 't' => some ['\t']
  | '%' => some ['%']
  | _ => none

/-- The moment by a pattern of directives. -/
def directiveText (m : Moment) : Text → Text
  | '%' :: c :: cs => (m.directive? c).getD ['%', c] ++ m.directiveText cs
  | c :: cs => c :: m.directiveText cs
  | [] => []

/-! ## Patterns -/

/-- The pattern of a moment in a file name, if no other is given. -/
def fileNamePattern : Text := "%Y-%m-%d_%H-%M-%S_%f".toList

/-- The pattern of a moment, if nothing but universal time is asked for. -/
def universalPattern : Text := "%Y-%m-%dT%H:%M:%S.%f%z".toList

/-- The pattern without the mark for universal time, which all moments are written in. -/
def dropUniversalMark (pattern : Text) : Text :=
  if Text.endsWith pattern universalMark then
    pattern.take (pattern.length - universalMark.length)
  else pattern

/-- Does the pattern ask for parts of a second that are smaller than a millionth? -/
def hasTinyParts : Text → Bool
  | [] => false
  | c :: cs => (List.replicate 7 'S').isPrefixOf (c :: cs) || hasTinyParts cs

/-- The moment by a pattern, unless the pattern asks for too small parts of a second. -/
def write? (m : Moment) (pattern : Text) : Option Text :=
  let pattern := dropUniversalMark pattern
  let pattern := if pattern = [] then universalPattern else pattern
  if pattern.contains '%' then some (m.directiveText pattern)
  else if hasTinyParts pattern then none
  else some (m.tokenText pattern.length pattern)

end Moment

end RelationAtlas
