import ClusterLaunch.Shell.Source

/-!
Words with alternatives in braces, of the wider dialect. A brace stands for each of
the texts between its commas, or for the numbers or letters between two ends; every
choice makes a word of its own. Quoted text is no part of this.
-/

namespace ClusterLaunch.Shell.Brace

/-- A word part by part: octets that are not quoted one by one, all other pieces whole. -/
abbrev Parts := List (Char ⊕ Piece)

def ofWord (w : Word) : Parts :=
  w.flatMap fun
    | .plain text false => text.map .inl
    | piece => [.inr piece]

def toWord : Parts → Word
  | [] => []
  | .inl c :: rest => literal [c] false (toWord rest)
  | .inr piece :: rest => piece :: toWord rest

/-- The alternatives up to the brace that closes them, the parts of the present one before
them, and what follows the brace; `depth` inner braces are open. -/
def alternatives (depth : Nat) (current : Parts) : Parts → Option (List Parts × Parts)
  | [] => none
  | .inl '\x7d' :: rest =>
      match depth with
      | 0 => some ([current.reverse], rest)
      | depth + 1 => alternatives depth (.inl '\x7d' :: current) rest
  | .inl '\x7b' :: rest => alternatives (depth + 1) (.inl '\x7b' :: current) rest
  | .inl ',' :: rest =>
      if depth == 0 then
        (alternatives 0 [] rest).map fun (others, after) => (current.reverse :: others, after)
      else alternatives depth (.inl ',' :: current) rest
  | part :: rest => alternatives depth (part :: current) rest

/-- The numbers from one to another, so far apart. -/
def steps (first last : Int) (step : Nat) : List Int :=
  let step := max step 1
  let count := (last - first).natAbs / step + 1
  (List.range (min count 100000)).map fun i =>
    if first ≤ last then first + (i * step : Nat) else first - (i * step : Nat)

def range? (text : List Char) : Option (List (List Char)) :=
  let parts := (String.ofList text).splitOn ".."
  match parts.map String.toList with
  | first :: last :: more =>
      let step := match more with
        | [] => some 1
        | [n] => (readSigned? n).map Int.natAbs
        | _ => none
      match step, readSigned? first, readSigned? last, first, last with
      | some step, some a, some b, _, _ =>
          let isPadded (t : List Char) : Bool :=
            match t with
            | '0' :: _ :: _ | '-' :: '0' :: _ => true
            | _ => false
          let width := if isPadded first || isPadded last then max first.length last.length else 0
          some ((steps a b step).map fun n =>
            let digits := numeral n.natAbs
            let sign := if n < 0 then ['-'] else []
            sign ++ List.replicate (width - (sign.length + digits.length)) '0' ++ digits)
      | some step, _, _, [a], [b] =>
          if a.isAlpha && b.isAlpha then
            some ((steps (a.toNat : Int) b.toNat step).map fun n => [Char.ofNat n.toNat])
          else none
      | _, _, _, _, _ => none
  | _ => none

def expand : Nat → Parts → List Parts
  | 0, parts => [parts]
  | _, [] => [[]]
  | fuel + 1, .inl '\x7b' :: rest =>
      let otherwise := (expand fuel rest).map (.inl '\x7b' :: ·)
      match alternatives 0 [] rest with
      | none => otherwise
      | some ([only], after) =>
          let text := only.filterMap fun
            | .inl c => some c
            | .inr _ => none
          match if text.length == only.length then range? text else none with
          | some texts =>
              let ends := expand fuel after
              texts.flatMap fun text => ends.map (text.map .inl ++ ·)
          | none => otherwise
      | some (choices, after) =>
          let ends := expand fuel after
          (choices.flatMap (expand fuel)).flatMap fun choice => ends.map (choice ++ ·)
  | fuel + 1, part :: rest => (expand fuel rest).map (part :: ·)

def words (w : Word) : List Word :=
  let parts := ofWord w
  if parts.any fun
      | .inl c => c == '\x7b'
      | .inr _ => false then
    (expand (parts.length * 4 + 4) parts).map toWord
  else [w]

end ClusterLaunch.Shell.Brace
