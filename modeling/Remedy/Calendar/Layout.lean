import Remedy.Calendar.Basic

namespace Remedy.Calendar

def filled (fill : Option Char) (width : Nat) (n : Int) : String :=
  let digits := toString n.natAbs
  let sign := if n < 0 then "-" else ""
  match fill with
  | none => sign ++ digits
  | some c => sign ++ "".pushn c (width - digits.length - sign.length) ++ digits

/-- An offset of zero from the universal time with so many colons. -/
def offsetText : Nat → String
  | 0 => "+0000"
  | 1 => "+00:00"
  | 2 => "+00:00:00"
  | _ => "+00"

structure Manner where
  fill : Option (Option Char) := none
  isUpper : Bool := false
  isSwapped : Bool := false
  width : Option Nat := none

def Manner.number (n : Manner) (fill : Char) (width : Nat) (value : Int) : String :=
  filled (n.fill.getD (some fill)) (n.width.getD width) value

def upperCase (s : String) : String := String.ofList (s.toList.map Char.toUpper)

def lowerCase (s : String) : String := String.ofList (s.toList.map Char.toLower)

def Manner.text (n : Manner) (s : String) : String :=
  let s := if n.isUpper then upperCase s else if n.isSwapped then upperCase s else s
  let fill := match n.fill with
    | some (some c) => c
    | _ => ' '
  "".pushn fill (n.width.getD 0 - s.length) ++ s

/-- Replaces directives until the fuel is used up; directives that stand for others are replaced by
those. -/
def layoutWith (m : Moment) : Nat → List Char → List Char → List Char
  | 0, _, done => done
  | _, [], done => done
  | fuel + 1, '%' :: cs, done =>
    let flags := cs.takeWhile "-_0^#".toList.contains
    let n : Manner := flags.foldl (fun n c => match c with
      | '-' => { n with fill := some none }
      | '_' => { n with fill := some (some ' ') }
      | '0' => { n with fill := some (some '0') }
      | '^' => { n with isUpper := true }
      | _ => { n with isSwapped := true }) {}
    let rest := cs.drop flags.length
    let digits := rest.takeWhile Char.isDigit
    let n := if digits.isEmpty then n
      else { n with width := some (digits.foldl (fun k c => 10 * k + (c.toNat - 48)) 0) }
    let rest := rest.drop digits.length
    let colons := (rest.takeWhile (· == ':')).length
    let rest := rest.drop colons
    let rest := if rest.head?.any "EO".toList.contains then rest.drop 1 else rest
    let twelve : Nat := if m.hour % 12 = 0 then 12 else m.hour % 12
    let emit (s : String) (after : List Char) :=
      layoutWith m fuel after (s.toList.reverse ++ done)
    let inner (format : String) (after : List Char) :=
      layoutWith m fuel (format.toList ++ after) done
    match rest with
    | [] => ('%' :: cs).reverse ++ done
    | c :: after =>
      match c with
      | '%' => emit "%" after
      | 'n' => emit "\n" after
      | 't' => emit "\t" after
      | 'Y' => emit (n.number '0' 4 m.year) after
      | 'C' => emit (n.number '0' 2 (m.year / 100)) after
      | 'y' => emit (n.number '0' 2 (m.year % 100)) after
      | 'm' => emit (n.number '0' 2 m.month) after
      | 'd' => emit (n.number '0' 2 m.day) after
      | 'e' => emit (n.number ' ' 2 m.day) after
      | 'H' => emit (n.number '0' 2 m.hour) after
      | 'k' => emit (n.number ' ' 2 m.hour) after
      | 'I' => emit (n.number '0' 2 twelve) after
      | 'l' => emit (n.number ' ' 2 twelve) after
      | 'M' => emit (n.number '0' 2 m.minute) after
      | 'S' => emit (n.number '0' 2 m.second) after
      | 'N' =>
        let digits := filled (some '0') 9 m.nanosecond
        match n.fill, n.width with
        | some none, none =>
          emit (String.ofList ((digits.toList.reverse.dropWhile (· == '0')).reverse)) after
        | _, some w => emit (String.ofList ((digits.toList.take w) ++
            List.replicate (w - 9) '0')) after
        | _, none => emit digits after
      | 's' => emit (n.number '0' 1 m.seconds) after
      | 'j' => emit (n.number '0' 3 (m.dayOfYear + 1)) after
      | 'u' => emit (n.number '0' 1 ((m.weekday + 6) % 7 + 1)) after
      | 'w' => emit (n.number '0' 1 m.weekday) after
      | 'U' => emit (n.number '0' 2 ((m.dayOfYear + 7 - m.weekday) / 7)) after
      | 'W' => emit (n.number '0' 2 ((m.dayOfYear + 7 - (m.weekday + 6) % 7) / 7)) after
      | 'V' => emit (n.number '0' 2 m.week.1) after
      | 'G' => emit (n.number '0' 4 m.week.2) after
      | 'g' => emit (n.number '0' 2 (m.week.2 % 100)) after
      | 'q' => emit (n.number '0' 1 ((m.month + 2) / 3)) after
      | 'a' => emit (n.text (short (weekdays.getD m.weekday ""))) after
      | 'A' => emit (n.text (weekdays.getD m.weekday "")) after
      | 'b' | 'h' => emit (n.text (short (months.getD (m.month - 1) ""))) after
      | 'B' => emit (n.text (months.getD (m.month - 1) "")) after
      | 'p' =>
        let half := if m.hour < 12 then "AM" else "PM"
        emit (if n.isSwapped then lowerCase half else n.text half) after
      | 'P' => emit (if m.hour < 12 then "am" else "pm") after
      | 'Z' => emit (if n.isSwapped then "utc" else n.text "UTC") after
      | 'z' => emit (offsetText colons) after
      | 'c' => inner "%a %b %e %H:%M:%S %Y" after
      | 'D' | 'x' => inner "%m/%d/%y" after
      | 'F' => inner "%Y-%m-%d" after
      | 'r' => inner "%I:%M:%S %p" after
      | 'R' => inner "%H:%M" after
      | 'T' | 'X' => inner "%H:%M:%S" after
      | '+' => inner "%a %b %e %H:%M:%S %Z %Y" after
      | c => emit ("%" ++ String.ofList (cs.take (cs.length - rest.length)) ++
          String.singleton c) after
  | fuel + 1, c :: cs, done => layoutWith m fuel cs (c :: done)

def layout (m : Moment) (format : String) : String :=
  String.ofList (layoutWith m (8 * format.length + 8) format.toList []).reverse

end Remedy.Calendar
