import ClusterLaunch.Moment
import ClusterLaunch.Shell.Figure
import ClusterLaunch.Shell.Fork
import ClusterLaunch.Shell.Utility

/-!
Utilities about time: letting it pass, limiting it, and showing it.
-/

namespace ClusterLaunch.Shell.Utility

open Act

/-- The milliseconds of a length of time in seconds, minutes, hours or days; parts of one count
as a whole one. -/
def millis? (text : List Char) : Option Nat :=
  let unit? (rest : List Char) : Option Nat :=
    match rest with
    | [] | ['s'] => some 1000
    | ['m'] => some 60000
    | ['h'] => some 3600000
    | ['d'] => some 86400000
    | _ => none
  match Figure.decimalAt text with
  | some (d, rest) =>
      if d.negative && d.digits != 0 then none
      else (unit? rest).map fun unit =>
        if d.places < 0 then min (d.digits * unit * Nat.pow 10 (min (-d.places).toNat 20)) ages
        else
          let scale := Nat.pow 10 (min d.places.toNat 400)
          min ((d.digits * unit + scale - 1) / scale) ages
  | none =>
      let lower := String.ofList (text.map Char.toLower)
      let rest? := if lower.startsWith "infinity" then some (text.drop 8)
        else if lower.startsWith "inf" then some (text.drop 3) else none
      (rest?.bind unit?).map fun _ => ages

def sleep : Utility := fun call =>
  withOptions { letters := "" } call fun _ lengths => do
    if lengths.isEmpty then return ← lacking call
    match lengths.filter fun l => (millis? l).isNone with
    | [] =>
        Act.sleep ((lengths.filterMap millis?).foldl (· + ·) 0)
        return 0
    | wrong =>
        wrong.dropLast.forM fun l => warn call (octets "invalid time interval " ++ quoted l)
        misused call (octets "invalid time interval " ++ quoted (wrong.getLast?.getD []))

/-- Ends a process at once, and all that it started. -/
def endAll (first : Nat) (ending : Ending) : Act Unit := do
  let m ← machine
  let started := (List.range (m.lives.size - (first - Machine.firstId))).map (first + ·)
  modifyMachine fun m => started.foldl (fun m id =>
    match m.life? id with
    | some life => if Nat.blt m.clock life.stop then m.endLife id ending else m
    | none => m) m

/-- Runs a program with a limit on its time. Whatever would go on without an end is ended when the
time is over. -/
def timeout : Utility := fun call =>
  withOptions
    { letters := "s:k:v"
      long := [("signal", 's'), ("kill-after", 'k'), ("preserve-status", 'p'), ("foreground", 'f'),
        ("verbose", 'v')]
      mixed := false, status := 125 } call fun given operands => do
    let signal? := match last? given 's' with
      | none => some Signal.terminate
      | some name => Signal.ofText? name
    match operands, signal? with
    | [], _ | [_], _ => useless call 125
    | _, none =>
        misused call (quoted ((last? given 's').getD []) ++ octets ": invalid signal") 125
    | length :: words, some signal =>
        match millis? length with
        | none => misused call (octets "invalid time interval " ++ quoted length) 125
        | some millis =>
            let before ← get
            let m := before.machine
            let own := m.clock + millis
            let deadline := if millis == 0 then m.deadline
              else some (min own (m.deadline.getD own))
            let first := Machine.firstId + m.lives.size
            -- a part of the steps is kept for what comes after a program that has no end
            let kept := m.steps / 2
            modifyMachine fun m => { m with deadline, steps := m.steps - kept }
            let ended : Option (Except Trouble Ending) ← try
                let ending ← call.spawn words
                pure (some ending)
              catch
                | .endless => pure none
                | e => throw e
            modifyMachine fun now => { now with deadline := m.deadline, steps := now.steps + kept }
            match ended with
            | some (.error t) =>
                fail call (octets "failed to run command " ++ quoted (words.headD []) ++
                  octets ": " ++ t.text) (if t.isMissing then 127 else 126)
            | some (.ok (.done status)) => return status
            | some (.ok (.killed signal)) => throw (.killed signal)
            | none =>
                if millis == 0 then throw .endless
                modify fun s =>
                  { s with process := before.process, machine.clock := max s.machine.clock own }
                if (m.deadline.map fun d => decide (d ≤ own)).getD false then throw .endless
                endAll first (.killed signal)
                return if has given 'p' then 128 + signal
                  else if signal == Signal.kill then 137 else 124

/-! Dates. -/

/-- The seconds since the beginning of 1970 at which the clock of the machine starts. -/
def clockStart : Nat := 1704067200

def weekdays : List String :=
  ["Sunday", "Monday", "Tuesday", "Wednesday", "Thursday", "Friday", "Saturday"]

def monthNames : List String :=
  ["January", "February", "March", "April", "May", "June", "July", "August", "September",
   "October", "November", "December"]

/-- What a letter shows of a second since the beginning of 1970 and of a part of it; none for a
letter without a meaning. -/
def datePart? (seconds nanos : Nat) (letter : Char) : Option (List Char) :=
  let day := seconds / 86400 + Moment.daysBefore 1970
  let second := seconds % 86400
  let year := Moment.yearOf day
  let inYear := day - Moment.daysBefore year
  let (month, inMonth) := Moment.monthAndDay 1 (Moment.monthLengths (Moment.isLeap year)) inYear
  let weekday := (seconds / 86400 + 4) % 7
  let hour := second / 3600
  let two (n : Nat) : List Char := Text.padded 10 2 n
  let wide (n : Nat) : List Char := padLeft 2 (numeral n)
  let inHalf := if hour % 12 == 0 then 12 else hour % 12
  let name (names : List String) (i : Nat) : List Char := (names.getD i "").toList
  let time := two hour ++ ':' :: two (second / 60 % 60) ++ ':' :: two (second % 60)
  let days := two month ++ '/' :: two inMonth ++ '/' :: two (year % 100)
  match letter with
  | 'Y' => some (numeral year)
  | 'C' => some (two (year / 100))
  | 'y' => some (two (year % 100))
  | 'm' => some (two month)
  | 'd' => some (two inMonth)
  | 'e' => some (wide inMonth)
  | 'H' => some (two hour)
  | 'k' => some (wide hour)
  | 'I' => some (two inHalf)
  | 'l' => some (wide inHalf)
  | 'M' => some (two (second / 60 % 60))
  | 'S' => some (two (second % 60))
  | 's' => some (numeral seconds)
  | 'N' => some (Text.padded 10 9 nanos)
  | 'j' => some (Text.padded 10 3 (inYear + 1))
  | 'u' => some (numeral (if weekday == 0 then 7 else weekday))
  | 'w' => some (numeral weekday)
  | 'a' => some ((name weekdays weekday).take 3)
  | 'A' => some (name weekdays weekday)
  | 'b' | 'h' => some ((name monthNames (month - 1)).take 3)
  | 'B' => some (name monthNames (month - 1))
  | 'p' => some (octets (if hour < 12 then "AM" else "PM"))
  | 'P' => some (octets (if hour < 12 then "am" else "pm"))
  | 'F' => some (numeral year ++ '-' :: two month ++ '-' :: two inMonth)
  | 'T' => some time
  | 'X' => some time
  | 'R' => some (two hour ++ ':' :: two (second / 60 % 60))
  | 'r' => some (two inHalf ++ ':' :: two (second / 60 % 60) ++ ':' :: two (second % 60) ++
      octets (if hour < 12 then " AM" else " PM"))
  | 'D' | 'x' => some days
  | 'Z' => some (octets "UTC")
  | 'z' => some (octets "+0000")
  | 'c' => some ((name weekdays weekday).take 3 ++ ' ' :: (name monthNames (month - 1)).take 3 ++
      ' ' :: wide inMonth ++ ' ' :: time ++ ' ' :: numeral year)
  | 'n' => some ['\n']
  | 't' => some ['\t']
  | '%' => some ['%']
  | _ => none

/-- A second since the beginning of 1970 as a format shows it. -/
def shownDate (seconds nanos : Nat) : Nat → List Char → List Char
  | 0, text => text
  | _, [] => []
  | fuel + 1, '%' :: rest =>
      let flag := rest.takeWhile fun c => c == '-' || c == '_' || c == ':' || c == '0'
      let after := rest.drop flag.length
      let width := after.takeWhile Text.isDigit
      match after.drop width.length with
      | [] => '%' :: rest
      | letter :: more =>
          match datePart? seconds nanos letter with
          | none => '%' :: letter :: shownDate seconds nanos fuel more
          | some part =>
              let bare := part.dropWhile fun c => c == '0' || c == ' '
              let part :=
                if letter == 'N' && !width.isEmpty then part.take (Text.digitsValue width)
                else if flag == ['-'] then (if bare.isEmpty then ['0'] else bare)
                else if flag == ['_'] then padLeft part.length bare
                else part
              part ++ shownDate seconds nanos fuel more
  | fuel + 1, c :: rest => c :: shownDate seconds nanos fuel rest

/-- The second that a text names: so many since the beginning of 1970, or a date. -/
def secondOf? (text : List Char) : Option Nat :=
  match text with
  | '@' :: digits => Text.readNumeral? 10 (digits.takeWhile (· != '.'))
  | _ =>
      let words := Text.pieces (fun c => c == ' ' || c == 'T') text
      let numbers (separator : Char) (word : List Char) : Option (List Nat) :=
        (Text.pieces (· == separator) word).mapM (Text.readNumeral? 10)
      let dayOf (word : List Char) : Option Nat :=
        match numbers '-' word with
        | some [year, month, day] =>
            let lengths := Moment.monthLengths (Moment.isLeap year)
            let before := (lengths.take (month - 1)).foldl (· + ·) 0
            if 1970 ≤ year && 1 ≤ month && month ≤ 12 && 1 ≤ day && day ≤ 31 then
              some (Moment.daysBefore year - Moment.daysBefore 1970 + before + day - 1)
            else none
        | _ => none
      let timeOf (word : List Char) : Option Nat :=
        match numbers ':' (word.filter (· != 'Z')) with
        | some [hour, minute] => some (hour * 3600 + minute * 60)
        | some [hour, minute, second] => some (hour * 3600 + minute * 60 + second)
        | _ => none
      match words.filter fun w => !w.isEmpty && w != octets "UTC" with
      | [day] => (dayOf day).map (· * 86400)
      | [day, time] =>
          match dayOf day, timeOf time with
          | some d, some t => some (d * 86400 + t)
          | _, _ => none
      | _ => none

def date : Utility := fun call =>
  withOptions
    { letters := "ud:I:Rr:s:"
      long := [("utc", 'u'), ("universal", 'u'), ("date", 'd'), ("iso-8601", 'I'),
        ("reference", 'r'), ("rfc-email", 'R')]
      lenient := ["iso-8601"] } call fun given operands => do
    let now := clockStart * 1000 + (← clock)
    let chosen ← match last? given 'd', last? given 'r' with
      | some text, _ =>
          if text == octets "now" || text.isEmpty then pure (some now)
          else pure ((secondOf? text).map (· * 1000))
      | none, some path =>
          match ← find path with
          | .ok (_, entry) => pure (some (clockStart * 1000 + entry.changed).toNat)
          | .error _ => pure none
      | none, none => pure (some now)
    match chosen, operands with
    | none, _ => fail call (octets "invalid date " ++ quoted ((last? given 'd').getD []))
    | _, _ :: extra :: _ => misused call (octets "extra operand " ++ quoted extra)
    | some millis, _ =>
        match operands.head? with
        | some ('+' :: format) =>
            print (shownDate (millis / 1000) (millis % 1000 * 1000000) (format.length + 1) format ++
              ['\n'])
            return 0
        | some other => fail call (octets "invalid date " ++ quoted other)
        | none =>
            let format := octets (if has given 'I' then "%F"
              else if has given 'R' then "%a, %d %b %Y %T %z" else "%a %b %e %T UTC %Y")
            print (shownDate (millis / 1000) 0 (format.length + 1) format ++ ['\n'])
            return 0

end ClusterLaunch.Shell.Utility
