import ClusterLaunch.Shell.Utility

/-!
Digests of texts. A text is filled up to whole blocks, and each block is stirred into
a few words of a fixed width. The constants of the algorithms are fractions of roots
of primes, which are computed here, and of sines, which are listed. Words are natural
numbers below the bound that their width sets.
-/

namespace ClusterLaunch.Shell.Utility

open Act

/-! Words. -/

def bound (width : Nat) : Nat := 1 <<< width

/-- A word whose bits are moved to the right in a circle. -/
def turned (width count word : Nat) : Nat :=
  (word >>> count) ||| ((word <<< (width - count)) % bound width)

def flipped (width word : Nat) : Nat := (bound width - 1) ^^^ word

def chosen (width first a b : Nat) : Nat := (first &&& a) ||| (flipped width first &&& b)

/-- Bits that are set in two words of three at least. -/
def majority (a b c : Nat) : Nat := (a &&& b) ||| (a &&& c) ||| (b &&& c)

/-- The octets of a number, the greatest one first. -/
def bigOctets : Nat → Nat → List Nat
  | 0, _ => []
  | count + 1, n => bigOctets count (n / 256) ++ [n % 256]

/-- The number of some octets, the greatest one first. -/
def bigNumber (octets : List Nat) : Nat := octets.foldl (fun n octet => n * 256 + octet) 0

def parted {α : Type} (size : Nat) : Nat → List α → List (List α)
  | 0, _ => []
  | _, [] => []
  | fuel + 1, list => list.take size :: parted size fuel (list.drop size)

/-- How an algorithm lays out a text: the bits of a word, and whether the least octet of a
word comes first. -/
structure Layout where
  width : Nat
  leastFirst : Bool := false

namespace Layout

def octets (l : Layout) (word : Nat) : List Nat :=
  let all := bigOctets (l.width / 8) word
  if l.leastFirst then all.reverse else all

def word (l : Layout) (octets : List Nat) : Nat :=
  bigNumber (if l.leastFirst then octets.reverse else octets)

/-- The blocks of sixteen words of a text. Behind it come an octet with the first bit set,
zeros, and in two words the number of its bits. -/
def blocks (l : Layout) (text : List Nat) : List (List Nat) :=
  let size := 2 * l.width
  let length := text.length
  let tail := l.width / 4
  let zeros := (2 * size - (length + 1 + tail) % size) % size
  let count := bigOctets tail (8 * length)
  let full := text ++ 0x80 :: List.replicate zeros 0 ++
    (if l.leastFirst then count.reverse else count)
  (parted size (full.length + 1) full).map fun block =>
    (parted (l.width / 8) 17 block).map l.word

def digest (l : Layout) (stir : List Nat → List Nat → List Nat) (start : List Nat)
    (text : List Nat) : List Nat :=
  let added (words block : List Nat) : List Nat :=
    List.zipWith (fun a b => (a + b) % bound l.width) words (stir words block)
  ((l.blocks text).foldl added start).flatMap l.octets

end Layout

/-! The first algorithm: four words. -/

/-- Absolute values of the sines of the numbers from one on, times the bound of a word. -/
def sines : List Nat :=
  [0xd76aa478, 0xe8c7b756, 0x242070db, 0xc1bdceee, 0xf57c0faf, 0x4787c62a, 0xa8304613, 0xfd469501,
   0x698098d8, 0x8b44f7af, 0xffff5bb1, 0x895cd7be, 0x6b901122, 0xfd987193, 0xa679438e, 0x49b40821,
   0xf61e2562, 0xc040b340, 0x265e5a51, 0xe9b6c7aa, 0xd62f105d, 0x02441453, 0xd8a1e681, 0xe7d3fbc8,
   0x21e1cde6, 0xc33707d6, 0xf4d50d87, 0x455a14ed, 0xa9e3e905, 0xfcefa3f8, 0x676f02d9, 0x8d2a4c8a,
   0xfffa3942, 0x8771f681, 0x6d9d6122, 0xfde5380c, 0xa4beea44, 0x4bdecfa9, 0xf6bb4b60, 0xbebfbc70,
   0x289b7ec6, 0xeaa127fa, 0xd4ef3085, 0x04881d05, 0xd9d4d039, 0xe6db99e5, 0x1fa27cf8, 0xc4ac5665,
   0xf4292244, 0x432aff97, 0xab9423a7, 0xfc93a039, 0x655b59c3, 0x8f0ccc92, 0xffeff47d, 0x85845dd1,
   0x6fa87e4f, 0xfe2ce6e0, 0xa3014314, 0x4e0811a1, 0xf7537e82, 0xbd3af235, 0x2ad7d2bb, 0xeb86d391]

/-- By how much the words are turned to the left, four amounts in each quarter. -/
def amounts : List (List Nat) :=
  [[7, 12, 17, 22], [5, 9, 14, 20], [4, 11, 16, 23], [6, 10, 15, 21]]

def startWords : List Nat := [0x67452301, 0xefcdab89, 0x98badcfe, 0x10325476, 0xc3d2e1f0]

def stirFour (words block : List Nat) : List Nat :=
  let block := block.toArray
  (sines.mapIdx fun i sine => (i, sine)).foldl (fun words (i, sine) =>
    match words with
    | [a, b, c, d] =>
        let (mixed, place) :=
          if i < 16 then (chosen 32 b c d, i)
          else if i < 32 then (chosen 32 d b c, 5 * i + 1)
          else if i < 48 then (b ^^^ c ^^^ d, 3 * i + 5)
          else (c ^^^ (b ||| flipped 32 d), 7 * i)
        let sum := (a + mixed + sine + block.getD (place % 16) 0) % bound 32
        let amount := (amounts.getD (i / 16) []).getD (i % 4) 0
        [d, (b + turned 32 (32 - amount) sum) % bound 32, b, c]
    | _ => words) words

def digestFour : List Nat → List Nat :=
  (⟨32, true⟩ : Layout).digest stirFour (startWords.take 4)

/-! The second algorithm: five words. -/

def lengthened (count : Nat) (next : (Nat → Nat) → Nat) (block : List Nat) : List Nat :=
  ((List.range (count - 16)).foldl (fun (words : Array Nat) _ =>
    words.push (next fun back => words.getD (words.size - back) 0)) block.toArray).toList

def stirFive (words block : List Nat) : List Nat :=
  let all := lengthened 80
    (fun back => turned 32 31 (back 3 ^^^ back 8 ^^^ back 14 ^^^ back 16)) block
  (all.mapIdx fun i word => (i, word)).foldl (fun words (i, word) =>
    match words with
    | [a, b, c, d, e] =>
        let mixed :=
          if i < 20 then chosen 32 b c d + 0x5a827999
          else if i < 40 then (b ^^^ c ^^^ d) + 0x6ed9eba1
          else if i < 60 then majority b c d + 0x8f1bbcdc
          else (b ^^^ c ^^^ d) + 0xca62c1d6
        [(turned 32 27 a + mixed + e + word) % bound 32, a, turned 32 2 b, c, d]
    | _ => words) words

def digestFive : List Nat → List Nat :=
  (⟨32, false⟩ : Layout).digest stirFive startWords

/-! The second family: eight words. -/

/-- The greatest number whose power is not above another one, found bit by bit. -/
def root (power n : Nat) : Nat → Nat → Nat
  | 0, found => found
  | bits + 1, found =>
      let next := found + (1 <<< bits)
      root power n bits (if Nat.ble (Nat.pow next power) n then next else found)

/-- The first 64 bits behind the point of a root. -/
def rootFraction (power n : Nat) : Nat := root power (n <<< (64 * power)) 80 0 % bound 64

def primes : List Nat :=
  (List.range 410).filter fun n =>
    2 ≤ n && (List.range n).all fun d => d < 2 || n % d != 0

def cubicFractions : List Nat := primes.map (rootFraction 3)

/-- Fractions of the square roots of the first sixteen primes. -/
def squareFractions : List Nat := (primes.take 16).map (rootFraction 2)

/-- How an algorithm with eight words turns them: for a word on its left, on its right, and in
two places of the block. -/
structure Turns where
  width : Nat
  left : List Nat
  right : List Nat
  far : List Nat
  near : List Nat

namespace Turns

def layout (t : Turns) : Layout := ⟨t.width, false⟩

def thrice (t : Turns) (counts : List Nat) (word : Nat) : Nat :=
  counts.foldl (fun all count => all ^^^ turned t.width count word) 0

def moved (t : Turns) (counts : List Nat) (word : Nat) : Nat :=
  t.thrice (counts.take 2) word ^^^ (word >>> counts.getD 2 0)

def stir (t : Turns) (constants words block : List Nat) : List Nat :=
  let all := lengthened constants.length (fun back =>
    (back 16 + t.moved t.far (back 15) + back 7 + t.moved t.near (back 2)) % bound t.width) block
  (constants.zip all).foldl (fun words (constant, word) =>
    match words with
    | [a, b, c, d, e, f, g, h] =>
        let first := h + t.thrice t.right e + chosen t.width e f g + constant + word
        let second := t.thrice t.left a + majority a b c
        [(first + second) % bound t.width, a, b, c, (d + first) % bound t.width, e, f, g]
    | _ => words) words

end Turns

def shortTurns : Turns := ⟨32, [2, 13, 22], [6, 11, 25], [7, 18, 3], [17, 19, 10]⟩

def longTurns : Turns := ⟨64, [28, 34, 39], [14, 18, 41], [1, 8, 7], [19, 61, 6]⟩

def digestShort (start : List Nat) : List Nat → List Nat :=
  shortTurns.layout.digest (shortTurns.stir ((cubicFractions.take 64).map (· >>> 32))) start

def digestLong (start : List Nat) : List Nat → List Nat :=
  longTurns.layout.digest (longTurns.stir cubicFractions) start

/-! The utilities. -/

/-- An algorithm under the name that is written in front of its digests. -/
structure Algorithm where
  name : String
  size : Nat
  digest : List Nat → List Nat

namespace Algorithm

def md5 : Algorithm := ⟨"MD5", 16, digestFour⟩

def sha1 : Algorithm := ⟨"SHA1", 20, digestFive⟩

def sha224 : Algorithm :=
  ⟨"SHA224", 28, digestShort ((squareFractions.drop 8).map (· % bound 32))⟩

def sha256 : Algorithm :=
  ⟨"SHA256", 32, digestShort ((squareFractions.take 8).map (· >>> 32))⟩

def sha384 : Algorithm := ⟨"SHA384", 48, digestLong (squareFractions.drop 8)⟩

def sha512 : Algorithm := ⟨"SHA512", 64, digestLong (squareFractions.take 8)⟩

def ofText (a : Algorithm) (text : List Char) : List Char :=
  ((a.digest (text.map Char.toNat)).take a.size).flatMap (Text.padded 16 2)

end Algorithm

def onLine (name : List Char) : List Char × Bool :=
  let escaped := name.flatMap fun c =>
    match c with
    | '\\' => ['\\', '\\']
    | '\n' => ['\\', 'n']
    | '\r' => ['\\', 'r']
    | _ => [c]
  (escaped, escaped.length != name.length)

/-- The name behind one that was escaped. -/
def unescapedName : List Char → List Char
  | '\\' :: 'n' :: rest => '\n' :: unescapedName rest
  | '\\' :: 'r' :: rest => '\r' :: unescapedName rest
  | '\\' :: c :: rest => c :: unescapedName rest
  | c :: rest => c :: unescapedName rest
  | [] => []

/-- How digests are listed. -/
structure Listing where
  /-- A star marks files. -/
  starred : Bool := false
  /-- The algorithm is named. -/
  named : Bool := false
  /-- A zero octet ends each line. -/
  zeros : Bool := false

def Listing.line (l : Listing) (a : Algorithm) (digest name : List Char) : List Char :=
  let (shown, escaped) := if l.zeros then (name, false) else onLine name
  let finish := if l.zeros then '\x00' else '\n'
  let mark := if escaped then ['\\'] else []
  if l.named then
    mark ++ octets a.name ++ octets " (" ++ shown ++ octets ") = " ++ digest ++ [finish]
  else mark ++ digest ++ [' ', if l.starred then '*' else ' '] ++ shown ++ [finish]

def listed? (a : Algorithm) (line : List Char) : Option (List Char × List Char) :=
  let (escaped, line) := match line with
    | '\\' :: line => (true, line)
    | _ => (false, line)
  let name (text : List Char) : List Char := if escaped then unescapedName text else text
  let isDigest (text : List Char) : Bool :=
    text.length == 2 * a.size && text.all fun c => (Text.hexValue? c).isSome
  match Text.afterLead? (a.name ++ " (").toList line with
  | some rest =>
      let digest := (rest.reverse.take (2 * a.size)).reverse
      let before := rest.take (rest.length - digest.length)
      if isDigest digest && endsWith before (octets ") = ") then
        some (digest, name (before.take (before.length - 4)))
      else none
  | none =>
      let digest := line.take (2 * a.size)
      match line.drop digest.length with
      | ' ' :: sign :: rest =>
          if isDigest digest && (sign == ' ' || sign == '*') && !rest.isEmpty then
            some (digest, name rest)
          else none
      | _ => none

/-- What was found when digests were compared. -/
structure Findings where
  proper : Nat := 0
  improper : Nat := 0
  unread : Nat := 0
  wrong : Nat := 0

/-- How much is said when digests are compared. -/
structure Loudness where
  /-- What is right goes without saying. -/
  quiet : Bool := false
  /-- Only the status tells. -/
  silent : Bool := false
  /-- Lines that are not well formed are told one by one. -/
  warns : Bool := false
  /-- Such a line makes the comparison fail. -/
  strict : Bool := false

def countWarning (call : Call) (count : Nat) (one several rest : String) : Act Unit := do
  if count != 0 then
    let subject := if count == 1 then one else several
    warn call (octets "WARNING: " ++ numeral count ++ octets (subject ++ rest))

def compareListed (call : Call) (a : Algorithm) (loud : Loudness) (source text : List Char) :
    Act Nat := do
  let found : Findings ← ((linesOf text).mapIdx fun i line => (i, line)).foldlM
    (fun (f : Findings) (i, line) => do
      match listed? a line with
      | none =>
          if line.isEmpty || line.head? == some '#' then return f
          if loud.warns then
            warn call (source ++ octets ": " ++ numeral (i + 1) ++
              octets (": improperly formatted " ++ a.name ++ " checksum line"))
          return { f with improper := f.improper + 1 }
      | some (digest, name) =>
          let tell (word : String) : Act Unit := do
            let (shown, escaped) := onLine name
            print ((if escaped then ['\\'] else []) ++ shown ++ octets word)
          match ← contents name with
          | .error t =>
              blame call name t
              if !loud.silent then tell ": FAILED open or read\n"
              return { f with proper := f.proper + 1, unread := f.unread + 1 }
          | .ok text =>
              let right := a.ofText text == digest.map Char.toLower
              if !right && !loud.silent then tell ": FAILED\n"
              if right && !loud.silent && !loud.quiet then tell ": OK\n"
              return { f with
                proper := f.proper + 1, wrong := if right then f.wrong else f.wrong + 1 })
    {}
  if found.proper == 0 then
    fail call (source ++ octets ": no properly formatted checksum lines found")
  else
    if !loud.silent then
      countWarning call found.improper " line is" " lines are" " improperly formatted"
      countWarning call found.unread " listed file" " listed files" " could not be read"
      countWarning call found.wrong " computed checksum" " computed checksums" " did NOT match"
    return if found.unread + found.wrong != 0 || (loud.strict && found.improper != 0) then 1 else 0

def digests (a : Algorithm) : Utility := fun call =>
  withOptions
    { letters := "bctwz"
      long := [("binary", 'b'), ("check", 'c'), ("text", 't'), ("warn", 'w'), ("zero", 'z'),
        ("quiet", 'Q'), ("tag", 'T'), ("status", 'X'), ("strict", 'Y')] } call
    fun given names => do
      let names := if names.isEmpty then [['-']] else names
      if has given 'c' then
        let loud : Loudness := ⟨has given 'Q', has given 'X', has given 'w', has given 'Y'⟩
        names.foldlM (fun status name => do
          match ← contents name with
          | .error t => blame call name t; return 1
          | .ok text =>
              let source := if name == ['-'] then octets "'standard input'" else named name
              return max status (← compareListed call a loud source text)) 0
      else
        let listing : Listing := ⟨has given 'b', has given 'T', has given 'z'⟩
        eachInput call names fun name text => print (listing.line a (a.ofText text) name)

/-- The remainder of a text by a polynomial, to which the octets of its length belong. -/
def remainder (text : List Char) : Nat :=
  let length := text.length
  let size := (Text.numeral 16 length).length.succ / 2
  let tail := if length == 0 then [] else (bigOctets size length).reverse
  let step (r octet : Nat) : Nat :=
    (List.range 8).foldl (fun r _ =>
      let next := (r <<< 1) % bound 32
      if (r >>> 31) == 1 then next ^^^ 0x04c11db7 else next) (r ^^^ (octet <<< 24))
  flipped 32 ((text.map Char.toNat ++ tail).foldl step 0)

def algorithms : List (String × Algorithm) :=
  [("md5", .md5), ("sha1", .sha1), ("sha224", .sha224), ("sha256", .sha256), ("sha384", .sha384),
   ("sha512", .sha512)]

def cksum : Utility := fun call =>
  withOptions { letters := "a:", long := [("algorithm", 'a')] } call fun given names => do
    let wanted := ((last? given 'a').getD (octets "crc"))
    match algorithms.lookup (String.ofList wanted) with
    | some a =>
        eachInput call names fun name text =>
          print (({ named := true } : Listing).line a (a.ofText text) name)
    | none =>
        if wanted != octets "crc" then
          misused call (octets "invalid argument " ++ quoted wanted ++ octets " for '--algorithm'")
        else
          eachInput call names fun name text =>
            let shown := if names.isEmpty then [] else ' ' :: name
            print (numeral (remainder text) ++ ' ' :: numeral text.length ++ shown ++ ['\n'])

end ClusterLaunch.Shell.Utility
