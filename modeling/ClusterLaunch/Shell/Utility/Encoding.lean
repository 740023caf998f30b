import ClusterLaunch.Shell.Utility.Lines

/-!
Octets in other forms: as digits that show them one by one, in blocks of four letters
for three octets, and copied in blocks.
-/

namespace ClusterLaunch.Shell.Utility

open Act

/-! Letters for groups of six bits. -/

def sixBitLetters : List Char :=
  "ABCDEFGHIJKLMNOPQRSTUVWXYZabcdefghijklmnopqrstuvwxyz0123456789+/".toList

def sixBitLetter (value : Nat) : Char := sixBitLetters.getD value '='

/-- Four letters for each three octets; a part of three is filled up with equal signs. -/
def inLetters : List Char → List Char
  | [] => []
  | [a] =>
      let n := a.toNat
      [sixBitLetter (n / 4), sixBitLetter (n % 4 * 16), '=', '=']
  | [a, b] =>
      let n := a.toNat * 256 + b.toNat
      [sixBitLetter (n / 1024), sixBitLetter (n / 16 % 64), sixBitLetter (n % 16 * 4), '=']
  | a :: b :: c :: rest =>
      let n := a.toNat * 65536 + b.toNat * 256 + c.toNat
      sixBitLetter (n / 262144) :: sixBitLetter (n / 4096 % 64) :: sixBitLetter (n / 64 % 64) ::
        sixBitLetter (n % 64) :: inLetters rest

/-- The octets behind letters, and whether the letters are well formed. -/
def fromLetters : List Char → List Char × Bool
  | [] => ([], true)
  | a :: b :: c :: d :: rest =>
      match sixBitLetters.idxOf? a, sixBitLetters.idxOf? b with
      | some p, some q =>
          let first := Char.ofNat ((p * 4 + q / 16) % 256)
          match sixBitLetters.idxOf? c, sixBitLetters.idxOf? d with
          | some r, some s =>
              let (others, good) := fromLetters rest
              (first :: Char.ofNat ((q % 16 * 16 + r / 4) % 256) ::
                Char.ofNat ((r % 4 * 64 + s) % 256) :: others, good)
          | some r, none =>
              ([first, Char.ofNat ((q % 16 * 16 + r / 4) % 256)], d == '=' && rest.isEmpty)
          | none, _ => ([first], c == '=' && d == '=' && rest.isEmpty)
      | _, _ => ([], false)
  | [a, b, c] =>
      match sixBitLetters.idxOf? a, sixBitLetters.idxOf? b, sixBitLetters.idxOf? c with
      | some p, some q, some r =>
          ([Char.ofNat ((p * 4 + q / 16) % 256), Char.ofNat ((q % 16 * 16 + r / 4) % 256)], false)
      | _, _, _ => ([], false)
  | [a, b] =>
      match sixBitLetters.idxOf? a, sixBitLetters.idxOf? b with
      | some p, some q => ([Char.ofNat ((p * 4 + q / 16) % 256)], false)
      | _, _ => ([], false)
  | [_] => ([], false)

/-! Letters for groups of five bits. -/

def fiveBitLetters : List Char := "ABCDEFGHIJKLMNOPQRSTUVWXYZ234567".toList

/-- Eight letters for each five octets; a part of five is filled up with equal signs. -/
def inFiveBits : Nat → List Char → List Char
  | 0, _ => []
  | _, [] => []
  | fuel + 1, text =>
      let part := text.take 5
      let value := part.foldl (fun n c => n * 256 + c.toNat) 0 * Nat.pow 256 (5 - part.length)
      let letters := (List.range 8).map fun i =>
        fiveBitLetters.getD (value / Nat.pow 32 (7 - i) % 32) '='
      let count := (part.length * 8 + 4) / 5
      letters.take count ++ List.replicate (8 - count) '=' ++ inFiveBits fuel (text.drop 5)

/-- The octets behind letters of five bits, and whether the letters are well formed. -/
def fromFiveBits : Nat → List Char → List Char × Bool
  | 0, _ => ([], true)
  | _, [] => ([], true)
  | fuel + 1, text =>
      let part := text.take 8
      let values := (part.takeWhile (· != '=')).filterMap fun c => fiveBitLetters.idxOf? c
      let pads := part.drop values.length
      let rest := text.drop 8
      let count := values.length * 5 / 8
      let number := values.foldl (fun n v => n * 32 + v) 0 / Nat.pow 2 (values.length * 5 % 8)
      let octets := (List.range count).map fun i =>
        Char.ofNat (number / Nat.pow 256 (count - 1 - i) % 256)
      if part.length != 8 then ([], false)
      else if pads.all (· == '=') && [8, 7, 5, 4, 2].contains values.length &&
          (pads.isEmpty || rest.isEmpty) then
        let (others, good) := fromFiveBits fuel rest
        (octets ++ others, good)
      else (octets, false)

/-- Lines of a width; a width of zero is a single line without an end. -/
def wrapped (width : Nat) : Nat → List Char → List Char
  | 0, text => text
  | _, [] => []
  | fuel + 1, text =>
      if width == 0 then text else text.take width ++ '\n' :: wrapped width fuel (text.drop width)

/-- A way to write octets as letters. -/
structure Letters where
  isLetter : Char → Bool
  write : List Char → List Char
  read : List Char → List Char × Bool

/-- The utility that writes octets as letters, or reads them. -/
def lettered (l : Letters) : Utility := fun call =>
  withOptions
    { letters := "diw:", long := [("decode", 'd'), ("ignore-garbage", 'i'), ("wrap", 'w')] } call
    fun given names => do
      let path := names.headD ['-']
      let wanted := (last? given 'w').getD (octets "76")
      match natural? wanted, names with
      | none, _ => fail call (octets "invalid wrap size: " ++ quoted wanted)
      | _, _ :: extra :: _ => misused call (octets "extra operand " ++ quoted extra)
      | some width, _ =>
          match ← contents path with
          | .error t => blame call path t; return 1
          | .ok text =>
              if has given 'd' then
                let letters := text.filter fun c =>
                  c != '\n' && (!has given 'i' || c == '=' || l.isLetter c)
                let (octets, good) := l.read letters
                print octets
                if good then return 0 else fail call (Shell.octets "invalid input")
              else
                print (wrapped width (text.length * 2 + 1) (l.write text))
                return 0

def base64 : Utility := lettered ⟨sixBitLetters.contains, inLetters, fromLetters⟩

def base32 : Utility := lettered
  { isLetter := fiveBitLetters.contains
    write := fun text => inFiveBits (text.length + 1) text
    read := fun text => fromFiveBits (text.length + 1) text }

/-! Octets shown one by one. -/

/-- How octets are shown: in groups, with so many places each. -/
structure Dump where
  group : Nat
  places : Nat
  shown : Nat → List Char
  /-- Octets that can be printed stand behind each line. -/
  legible : Bool := false

/-- A number of octets, the least one first. -/
def littleEndian (octets : List Char) : Nat :=
  octets.foldr (fun c n => n * 256 + c.toNat) 0

def octetNames : List String :=
  ["nul", "soh", "stx", "etx", "eot", "enq", "ack", "bel", "bs", "ht", "nl", "vt", "ff", "cr", "so",
   "si", "dle", "dc1", "dc2", "dc3", "dc4", "nak", "syn", "etb", "can", "em", "sub", "esc", "fs",
   "gs", "rs", "us", "sp"]

/-- An octet as a letter or behind a backslash. -/
def letterForm (n : Nat) : List Char :=
  match [(0, "\\0"), (7, "\\a"), (8, "\\b"), (9, "\\t"), (10, "\\n"), (11, "\\v"), (12, "\\f"),
    (13, "\\r")].lookup n with
  | some text => octets text
  | none => if 32 ≤ n && n < 127 then [Char.ofNat n] else Text.padded 8 3 n

def dump? (letter : Char) (size : Nat) : Option Dump :=
  let limit := Nat.pow 256 size
  let digits (base : Nat) : Nat := (Text.numeral base (limit - 1)).length
  match letter with
  | 'x' => some ⟨size, digits 16, fun n => Text.padded 16 (digits 16) n, false⟩
  | 'o' => some ⟨size, digits 8, fun n => Text.padded 8 (digits 8) n, false⟩
  | 'u' => some ⟨size, digits 10, numeral, false⟩
  | 'd' => some ⟨size, (Text.numeral 10 (limit / 2)).length + 1, fun n =>
      if limit ≤ 2 * n then '-' :: numeral (limit - n) else numeral n, false⟩
  | 'c' => some ⟨1, 3, letterForm, false⟩
  | 'a' => some ⟨1, 3, fun n =>
      let n := n % 128
      if n == 127 then octets "del"
      else match octetNames[n]? with
        | some name => octets name
        | none => [Char.ofNat n], false⟩
  | _ => none

/-- The form that a text asks for, such as `x1` or `x1z`. -/
def dumpOf? (text : List Char) : Option Dump :=
  match text with
  | letter :: size =>
      let legible := size.getLast? == some 'z'
      let size := if legible then size.dropLast else size
      let count? := match size with
        | [] => some 4
        | ['C'] => some 1
        | ['S'] => some 2
        | ['I'] => some 4
        | ['L'] => some 8
        | _ => (natural? size).filter fun n => [1, 2, 4, 8].contains n
      count?.bind fun n => (dump? letter n).map fun d => { d with legible }
  | [] => none

def Dump.extent (d : Dump) (width : Nat) : Nat := width / d.group * (d.places + 1)

/-- A line of octets in a form, so that a full line of so many octets is as wide as `extent`;
`left` is the number of groups that fit from here on. -/
def dumpLine (d : Dump) (width extent : Nat) : Nat → List Char → List Char
  | 0, _ => []
  | _, [] => []
  | left + 1, octets =>
      let count := max 1 (width / d.group)
      let gap := extent - d.places * count
      let lead := gap * (left + 1) / count - gap * left / count
      List.replicate lead ' ' ++ padLeft d.places (d.shown (littleEndian (octets.take d.group))) ++
        dumpLine d width extent left (octets.drop d.group)

/-- An octet, or a point for one that cannot be printed. -/
def legibly (c : Char) : Char := if 32 ≤ c.toNat && c.toNat < 127 then c else '.'

/-- Lines of octets behind their distances from the start; lines that repeat are left out. -/
def dumpLines (address : Nat → List Char) (forms : List Dump) (all : Bool) (width : Nat) :
    Nat → Nat → Option (List Char) → Bool → List Char → List (List Char)
  | 0, _, _, _, _ => []
  | fuel + 1, offset, before, starred, text =>
      match text with
      | [] => []
      | _ =>
          let line := text.take width
          let rest := text.drop width
          if !all && before == some line && line.length == width then
            (if starred then [] else [['*']]) ++
              dumpLines address forms all width fuel (offset + width) before true rest
          else
            let indent := List.replicate (address offset).length ' '
            let extent := (forms.map (·.extent width)).foldl max 0
            (forms.mapIdx fun i d =>
              let body := dumpLine d width extent (max 1 (width / d.group)) line
              (if i == 0 then address offset else indent) ++
                if d.legible then
                  padRight extent body ++ octets "  >" ++ line.map legibly ++ ['<']
                else body) ++
              dumpLines address forms all width fuel (offset + width) (some line) false rest

def od : Utility := fun call =>
  withOptions
    { letters := "A:t:N:j:w:vcbxdoaisl"
      long := [("address-radix", 'A'), ("format", 't'), ("read-bytes", 'N'), ("skip-bytes", 'j'),
        ("width", 'w'), ("output-duplicates", 'v')]
      lenient := ["width"] } call fun given names => do
    let wrong := given.find? fun (c, value) => c == 't' && (dumpOf? value).isNone
    match wrong, last? given 'A' with
    | some (_, value), _ =>
        return ← fail call (octets "invalid character '" ++ value.take 1 ++
          octets "' in type string " ++ quoted value)
    | none, some radix =>
        if not (["o", "d", "x", "n"].contains (String.ofList radix)) then
          return ← fail call (octets "invalid output address radix '" ++ radix.take 1 ++
            octets "'; it must be one character from [doxn]")
    | none, none => pure ()
    let (text, status) ← allInput call names
    if status != 0 && text.isEmpty then return status
    let skipped := ((last? given 'j').bind multiple?).getD 0
    if text.length < skipped then
      return ← fail call (octets "cannot skip past end of combined input")
    let text := text.drop skipped
    let text := match (last? given 'N').bind multiple? with
      | some n => text.take n
      | none => text
    let forms := given.filterMap fun (letter, value) =>
      match letter with
      | 't' => dumpOf? value
      | 'c' | 'a' => dump? letter 1
      | 'b' => dump? 'o' 1
      | 'x' => dump? 'x' 2
      | 'd' => dump? 'u' 2
      | 'o' => dump? 'o' 2
      | 's' => dump? 'd' 2
      | 'i' => dump? 'd' 4
      | 'l' => dump? 'd' 8
      | _ => none
    let forms := if forms.isEmpty then (dump? 'o' 2).toList else forms
    let width := ((last? given 'w').bind natural?).getD 16
    let address (n : Nat) : List Char :=
      match last? given 'A' with
      | some ['n'] => []
      | some ['d'] => Text.padded 10 7 n
      | some ['x'] => Text.padded 16 6 n
      | _ => Text.padded 8 7 n
    let lines := dumpLines address forms (has given 'v') (max width 1) (text.length + 1) skipped
      none false text
    let last := address (skipped + text.length)
    print (unlines (lines ++ if last.isEmpty then [] else [last]))
    return status

/-! Copying blocks. -/

def dd : Utility := fun call => do
  let setting? (name : String) : Option (List Char) :=
    call.arguments.reverse.findSome? fun a => Text.afterLead? (name ++ "=").toList a
  let known := ["if", "of", "bs", "ibs", "obs", "count", "skip", "seek", "conv", "status", "iflag",
    "oflag", "cbs"]
  match call.arguments.find? fun a => !(known.any fun name => begins a (name ++ "=")) with
  | some wrong => misused call (octets "unrecognized operand " ++ quoted wrong)
  | none =>
      let number (name : String) (usual : Nat) : Nat :=
        ((setting? name).bind fun t =>
          multiple? (t.map fun c => if c == 'c' || c == 'w' then 'b' else c)).getD usual
      let size := number "bs" (number "ibs" 512)
      let count? := (setting? "count").bind multiple?
      let source := (setting? "if").getD (octets "/dev/stdin")
      let skipped := number "skip" 0
      let most := count?.map fun n => (n + skipped) * size
      let copied : Except Trouble (Except Trouble (List Char)) ←
          withInput (if (setting? "if").isNone then ['-'] else source) fun channel =>
        iterate (fun ((parts, left) : List (List Char) × Option Nat) => do
          if left == some 0 then return .inr (.ok parts.reverse.flatten)
          if inputLimit < parts.length * portion then throw .endless
          match ← readSome channel (min portion (left.getD portion)) with
          | .error t => return .inr (.error t)
          | .ok [] => return .inr (.ok parts.reverse.flatten)
          | .ok text => return .inl (text :: parts, left.map (· - text.length)))
          manyTimes ([], most)
      match copied with
      | .error t =>
          fail call (octets "failed to open " ++ quoted source ++ octets ": " ++ t.text)
      | .ok (.error t) =>
          fail call (octets "error reading " ++ quoted source ++ octets ": " ++ t.text)
      | .ok (.ok text) =>
          let text := text.drop (skipped * size)
          let conversions := Text.pieces (· == ',') ((setting? "conv").getD [])
          let text := if conversions.contains (octets "ucase") then text.map Char.toUpper
            else if conversions.contains (octets "lcase") then text.map Char.toLower else text
          let target := setting? "of"
          let written : Except Trouble Unit ← match target with
            | none => write 1 text
            | some path =>
                let keeps := conversions.contains (octets "notrunc") || number "seek" 0 != 0
                match ← openPath path (if keeps then .update else .write) with
                | .error t => pure (.error t)
                | .ok index =>
                    modifyOpened index fun o => { o with offset := number "seek" 0 * size }
                    setChannel fileChannel index
                    let result ← write fileChannel text
                    closeChannel fileChannel
                    pure result
          match written with
          | .error t =>
              let name := target.getD (octets "standard output")
              fail call (octets "failed to open " ++ quoted name ++ octets ": " ++ t.text)
          | .ok () =>
              let whole := text.length / size
              let part := if text.length % size == 0 then 0 else 1
              let records := numeral whole ++ '+' :: numeral part
              let noise := setting? "status"
              if noise != some (octets "none") then
                emit 2 (records ++ octets " records in\n" ++ records ++ octets " records out\n")
                if noise != some (octets "noxfer") then
                  emit 2 (numeral text.length ++ octets " bytes copied, 0.0001 s, 1.0 MB/s\n")
              return 0

end ClusterLaunch.Shell.Utility
