import Remedy.Calendar.Basic

namespace Remedy.Calendar

/-- A span of time; months and years are kept apart, since their lengths differ. -/
structure Span where
  years : Int := 0
  months : Int := 0
  days : Int := 0
  nanoseconds : Int := 0

def Span.add (s : Span) (name : String) (n : Int) : Option Span :=
  let seconds (k : Int) : Option Span :=
    some { s with nanoseconds := s.nanoseconds + n * k * second }
  let singular := if name.endsWith "s" then String.ofList name.toList.dropLast else name
  match singular with
  | "year" => some { s with years := s.years + n }
  | "month" => some { s with months := s.months + n }
  | "fortnight" => some { s with days := s.days + 14 * n }
  | "week" => some { s with days := s.days + 7 * n }
  | "day" => some { s with days := s.days + n }
  | "hour" => seconds 3600
  | "minute" | "min" => seconds 60
  | "second" | "sec" => seconds 1
  | _ => none

def Span.negate (s : Span) : Span :=
  { years := -s.years, months := -s.months, days := -s.days, nanoseconds := -s.nanoseconds }

/-- What has been read of a text so far. -/
structure Draft where
  absolute : Option Int := none
  date : Option (Int × Nat × Nat) := none
  hasYear : Bool := false
  time : Option (Nat × Nat × Nat × Nat) := none
  zone : Option Int := none
  weekday : Option (Nat × Int) := none
  span : Span := {}
  hasSpan : Bool := false

def isBlank (c : Char) : Bool := c == ' ' || ('\t' ≤ c && c ≤ '\r')

def numberOf (digits : List Char) : Nat := digits.foldl (fun n c => 10 * n + (c.toNat - 48)) 0

def monthOf? (word : String) : Option Nat :=
  let found := months.findIdx? fun m => m.toLower == word || (short m).toLower == word
  match found with
  | some n => some (n + 1)
  | none => if word == "sept" then some 9 else none

def weekdayOf? (word : String) : Option Nat :=
  match weekdays.findIdx? fun d => d.toLower == word || (short d).toLower == word with
  | some n => some n
  | none =>
    match word with
    | "tues" => some 2
    | "wednes" => some 3
    | "thur" | "thurs" => some 4
    | _ => none

def skipBlanks (cs : List Char) : List Char := cs.dropWhile isBlank

def skipComma (cs : List Char) : List Char :=
  match skipBlanks cs with
  | ',' :: rest => rest
  | _ => cs

def zones : List (String × Int) := [
  ("utc", 0), ("gmt", 0), ("ut", 0), ("wet", 0), ("west", 60), ("bst", 60), ("art", -180),
  ("brt", -180), ("brst", -120), ("nst", -210), ("ndt", -150), ("ast", -240), ("adt", -180),
  ("clt", -240), ("clst", -180), ("est", -300), ("edt", -240), ("cst", -360), ("cdt", -300),
  ("mst", -420), ("mdt", -360), ("pst", -480), ("pdt", -420), ("akst", -540), ("akdt", -480),
  ("hst", -600), ("hast", -600), ("hadt", -540), ("sst", -720), ("wat", 60), ("cet", 60),
  ("cest", 120), ("met", 60), ("mez", 60), ("mest", 120), ("mesz", 120), ("eet", 120),
  ("eest", 180), ("cat", 120), ("sast", 120), ("eat", 180), ("msk", 180), ("msd", 240),
  ("ist", 330), ("sgt", 480), ("kst", 540), ("jst", 540), ("gst", 600), ("nzst", 720),
  ("nzdt", 780)]

def letterZone? (c : Char) : Option Int :=
  let n : Int := c.toNat
  if c == 'z' then some 0
  else if 'a' ≤ c && c ≤ 'i' then some (60 * (n - 96))
  else if 'k' ≤ c && c ≤ 'm' then some (60 * (n - 97))
  else if 'n' ≤ c && c ≤ 'y' && c ≠ 't' then some (-60 * (n - 109))
  else none

def zone? (word : String) : Option Int :=
  match word.toList with
  | [c] => letterZone? c
  | _ => zones.lookup word

def ordinal? (word : String) : Option Int :=
  match word with
  | "last" => some (-1)
  | "this" => some 0
  | "next" | "first" => some 1
  | "third" => some 3
  | "fourth" => some 4
  | "fifth" => some 5
  | "sixth" => some 6
  | "seventh" => some 7
  | "eighth" => some 8
  | "ninth" => some 9
  | "tenth" => some 10
  | "eleventh" => some 11
  | "twelfth" => some 12
  | _ => none

def word (cs : List Char) : String × List Char :=
  let letters := cs.takeWhile Char.isAlpha
  (String.ofList (letters.map Char.toLower), cs.drop letters.length)

def isDate (year : Int) (month day : Nat) : Bool :=
  1 ≤ month && month ≤ 12 && 1 ≤ day && day ≤ daysIn year month

def fraction (cs : List Char) : Nat × List Char :=
  match cs with
  | c :: rest =>
    let digits := rest.takeWhile Char.isDigit
    if (c == '.' || c == ',') && !digits.isEmpty then
      (numberOf ((digits ++ List.replicate 9 '0').take 9), rest.drop digits.length)
    else (0, cs)
  | [] => (0, [])

def half? (cs : List Char) : Option (Nat × List Char) :=
  match word (skipBlanks cs) with
  | ("am", rest) => some (0, rest)
  | ("pm", rest) => some (12, rest)
  | _ => none

def offset? (sign : Int) (cs : List Char) : Option (Int × List Char) :=
  let digits := cs.takeWhile Char.isDigit
  let rest := cs.drop digits.length
  match rest with
  | ':' :: behind =>
    let minutes := behind.takeWhile Char.isDigit
    if digits.length ≤ 2 && minutes.length = 2 then
      some (sign * (numberOf digits * 3600 + numberOf minutes * 60 : Nat),
        behind.drop minutes.length)
    else none
  | _ =>
    if digits.isEmpty then none
    else if digits.length ≤ 2 then some (sign * (numberOf digits * 3600 : Nat), rest)
    else
      let n := numberOf digits
      some (sign * (n / 100 * 3600 + n % 100 * 60 : Nat), rest)

def setTime (d : Draft) (hour minute second nanosecond : Nat) (cs : List Char) :
    Option (Draft × List Char) := do
  guard d.time.isNone
  let (hour, cs) ← match half? cs with
    | some (plus, cs) => do
      guard (1 ≤ hour ∧ hour ≤ 12)
      some (hour % 12 + plus, cs)
    | none => some (hour, cs)
  guard (hour < 24 ∧ minute < 60 ∧ second ≤ 60)
  let d := { d with time := some (hour, minute, second, nanosecond) }
  let signed : Option (Int × List Char) := match skipBlanks cs with
    | '+' :: rest => offset? 1 rest
    | '-' :: rest => offset? (-1) rest
    | _ => none
  match signed with
  | some (z, rest) =>
    -- a sign may also begin a span
    let (unit, _) := word (skipBlanks rest)
    if (({} : Span).add unit 1).isSome then some (d, cs)
    else some ({ d with zone := some z }, rest)
  | none => some (d, cs)

def setDate (d : Draft) (year : Int) (month day : Nat) (hasYear : Bool) : Option Draft := do
  guard d.date.isNone
  guard (isDate year month day)
  some { d with date := some (year, month, day), hasYear }

def fullYear (digits : List Char) : Int :=
  let n := numberOf digits
  if digits.length ≤ 2 then if n < 69 then 2000 + n else 1900 + n else n

def numeric (thisYear : Int) (d : Draft) (digits rest : List Char) : Option (Draft × List Char) := do
  let n := numberOf digits
  match rest with
  | ':' :: behind =>
    let minutes := behind.takeWhile Char.isDigit
    guard (digits.length ≤ 2 ∧ !minutes.isEmpty ∧ minutes.length ≤ 2)
    let rest := behind.drop minutes.length
    match rest with
    | ':' :: behind =>
      let seconds := behind.takeWhile Char.isDigit
      guard (!seconds.isEmpty ∧ seconds.length ≤ 2)
      let (nanoseconds, rest) := fraction (behind.drop seconds.length)
      setTime d n (numberOf minutes) (numberOf seconds) nanoseconds rest
    | rest => setTime d n (numberOf minutes) 0 0 rest
  | '-' :: c :: behind =>
    if c.isDigit then
      let month := (c :: behind).takeWhile Char.isDigit
      match (c :: behind).drop month.length with
      | '-' :: behind =>
        let day := behind.takeWhile Char.isDigit
        guard (!day.isEmpty)
        let d ← setDate d (fullYear digits) (numberOf month) (numberOf day) true
        let rest := behind.drop day.length
        match rest with
        | t :: c :: more =>
          if (t == 'T' || t == 't') && c.isDigit then some (d, c :: more) else some (d, rest)
        | rest => some (d, rest)
      | _ => none
    else
      let (w, behind) := word (c :: behind)
      let month ← monthOf? w
      match behind with
      | '-' :: behind =>
        let year := behind.takeWhile Char.isDigit
        guard (!year.isEmpty)
        let d ← setDate d (fullYear year) month n true
        some (d, behind.drop year.length)
      | behind =>
        let d ← setDate d thisYear month n false
        some (d, behind)
  | '/' :: behind =>
    let second := behind.takeWhile Char.isDigit
    guard (!second.isEmpty)
    match behind.drop second.length with
    | '/' :: behind =>
      let third := behind.takeWhile Char.isDigit
      guard (!third.isEmpty)
      let d ← if digits.length ≥ 4 then
          setDate d n (numberOf second) (numberOf third) true
        else setDate d (fullYear third) n (numberOf second) true
      some (d, behind.drop third.length)
    | behind =>
      let d ← setDate d thisYear n (numberOf second) false
      some (d, behind)
  | rest =>
    let (w, behind) := word (skipBlanks rest)
    if w == "am" || w == "pm" then setTime d n 0 0 0 rest
    else
      match d.span.add w n, monthOf? w with
      | some span, _ => some ({ d with span, hasSpan := true }, behind)
      | none, some month =>
        let tail := skipBlanks (skipComma behind)
        let year := tail.takeWhile Char.isDigit
        let after := tail.drop year.length
        if year.length = 4 && after.head? != some ':' then
          let d ← setDate d (numberOf year) month n true
          some (d, after)
        else
          let d ← setDate d thisYear month n false
          some (d, behind)
      | none, none =>
        if let some day := weekdayOf? w then
          some ({ d with weekday := some (day, n) }, skipComma behind)
        else if d.date.isSome && !d.hasYear && !d.hasSpan && (d.time.isSome || digits.length > 2) then
          let date := d.date.map fun (_, m, day) => ((n : Int), m, day)
          some ({ d with date, hasYear := true }, rest)
        else if digits.length > 4 then
          let d ← setDate d (n / 10000 : Nat) (n / 100 % 100) (n % 100) true
          match rest with
          | t :: c :: more =>
            if (t == 'T' || t == 't') && c.isDigit then some (d, c :: more) else some (d, rest)
          | rest => some (d, rest)
        else if digits.length ≤ 2 then setTime d n 0 0 0 rest
        else setTime d (n / 100) (n % 100) 0 0 rest

def named (thisYear : Int) (d : Draft) (w : String) (rest : List Char) :
    Option (Draft × List Char) := do
  let days (n : Int) : Option (Draft × List Char) :=
    some ({ d with span := { d.span with days := d.span.days + n }, hasSpan := true }, rest)
  let counted (n : Int) : Option (Draft × List Char) :=
    let (unit, rest) := word (skipBlanks rest)
    match d.span.add unit n, weekdayOf? unit with
    | some span, _ => some ({ d with span, hasSpan := true }, rest)
    | none, some day => some ({ d with weekday := some (day, n) }, skipComma rest)
    | none, none => none
  let zone : Option (Draft × List Char) := do
    guard d.zone.isNone
    let minutes ← zone? w
    let (more, rest) := match rest with
      | '+' :: behind => (offset? 1 behind).getD (0, rest)
      | '-' :: behind => (offset? (-1) behind).getD (0, rest)
      | _ => (0, rest)
    match word (skipBlanks rest) with
    | ("dst", rest) => some ({ d with zone := some (60 * minutes + 3600 + more) }, rest)
    | _ => some ({ d with zone := some (60 * minutes + more) }, rest)
  match w with
  | "now" | "today" => days 0
  | "yesterday" => days (-1)
  | "tomorrow" => days 1
  | "ago" => some ({ d with span := d.span.negate }, rest)
  | w =>
    match ordinal? w with
    | some n => counted n
    | none =>
    match monthOf? w, weekdayOf? w, d.span.add w 1 with
    | some month, _, _ =>
      let rest := skipBlanks rest
      let day := rest.takeWhile Char.isDigit
      guard (!day.isEmpty ∧ day.length ≤ 2)
      let after := rest.drop day.length
      let behind := skipBlanks (skipComma after)
      let year := behind.takeWhile Char.isDigit
      let beyond := behind.drop year.length
      if year.length = 4 && beyond.head? != some ':' then
        let d ← setDate d (numberOf year) month (numberOf day) true
        some (d, beyond)
      else
        let d ← setDate d thisYear month (numberOf day) false
        some (d, after)
    | none, some day, _ => some ({ d with weekday := some (day, 0) }, skipComma rest)
    | none, none, some span => some ({ d with span, hasSpan := true }, rest)
    | none, none, none => zone

def items (thisYear : Int) : Nat → Draft → List Char → Option Draft
  | 0, _, _ => none
  | fuel + 1, d, cs =>
    match skipBlanks cs with
    | [] => some d
    | c :: rest =>
      if c.isDigit then
        let digits := (c :: rest).takeWhile Char.isDigit
        match numeric thisYear d digits ((c :: rest).drop digits.length) with
        | some (d, rest) => items thisYear fuel d rest
        | none => none
      else if c == '+' || c == '-' then
        let rest := skipBlanks rest
        let digits := rest.takeWhile Char.isDigit
        let (unit, after) := word (skipBlanks (rest.drop digits.length))
        let n : Int := numberOf digits
        match d.span.add unit (if c == '-' then -n else n) with
        | some span =>
          if digits.isEmpty then none
          else items thisYear fuel { d with span, hasSpan := true } after
        | none => none
      else if c == '(' then
        items thisYear fuel d ((rest.dropWhile (· ≠ ')')).drop 1)
      else if c.isAlpha then
        let (w, rest) := word (c :: rest)
        match named thisYear d w rest with
        | some (d, rest) => items thisYear fuel d rest
        | none => none
      else none

def Draft.settle (d : Draft) (now : Int) : Int :=
  match d.absolute with
  | some n => n
  | none =>
    let m := Moment.ofNanoseconds now
    let hasDay := d.date.isSome || d.weekday.isSome
    let (hour, minute, second, nanosecond) := match d.time with
      | some t => t
      | none => if hasDay then (0, 0, 0, 0) else (m.hour, m.minute, m.second, m.nanosecond)
    let (year, month, day) := d.date.getD (m.year, m.month, m.day)
    -- months beyond the year carry over, days beyond the month do so through the day number
    let monthIndex := year * 12 + (month - 1 : Nat) + d.span.years * 12 + d.span.months
    let first := dayNumber (monthIndex.fdiv 12) ((monthIndex % 12).toNat + 1) 1
    let days := first + (day - 1 : Nat)
    let days := match d.weekday with
      | some (w, weeks) =>
        let current := (days + 4) % 7
        let ahead := ((w : Int) - current + 7) % 7
        let weeks := if weeks > 0 ∧ ahead ≠ 0 then weeks - 1 else weeks
        days + ahead + 7 * weeks
      | none => days
    let seconds := (days + d.span.days) * 86400 + (hour * 3600 + minute * 60 + second : Nat) -
      d.zone.getD 0
    seconds * Calendar.second + nanosecond + d.span.nanoseconds

/-- The moment that a text means, seen from now, in nanoseconds of the epoch. -/
def read? (text : String) (now : Int) : Option Int :=
  let cs := skipBlanks text.toList
  match cs with
  | '@' :: rest =>
    let (sign, rest) := match rest with
      | '-' :: rest => ((-1 : Int), rest)
      | rest => (1, rest)
    let digits := rest.takeWhile Char.isDigit
    let (nanoseconds, rest) := fraction (rest.drop digits.length)
    if digits.isEmpty || !(skipBlanks rest).isEmpty then none
    else some (sign * (numberOf digits * second + nanoseconds))
  | [] =>
    let m := Moment.ofNanoseconds now
    some (dayNumber m.year m.month m.day * 86400 * second)
  | cs => (items (Moment.ofNanoseconds now).year (cs.length + 1) {} cs).map (·.settle now)

/-- The moment of a stamp of digits: an optional year, month, day, hour, minute and, behind a point,
the second. -/
def readStamp? (text : String) (now : Int) : Option Int := do
  let cs := text.toList
  let digits := cs.takeWhile Char.isDigit
  let seconds ← match cs.drop digits.length with
    | [] => some 0
    | '.' :: rest => do
      guard (rest.length = 2 ∧ rest.all Char.isDigit)
      some (numberOf rest)
    | _ => none
  let thisYear := (Moment.ofNanoseconds now).year
  let (year, digits) ← match digits.length with
    | 8 => some (thisYear, digits)
    | 10 => some (fullYear (digits.take 2), digits.drop 2)
    | 12 => some ((numberOf (digits.take 4) : Int), digits.drop 4)
    | _ => none
  let two (i : Nat) : Nat := numberOf ((digits.drop i).take 2)
  guard (isDate year (two 0) (two 2) ∧ two 4 < 24 ∧ two 6 < 60 ∧ seconds ≤ 60)
  let m : Moment := ⟨year, two 0, two 2, two 4, two 6, seconds, 0⟩
  some m.nanoseconds

end Remedy.Calendar
