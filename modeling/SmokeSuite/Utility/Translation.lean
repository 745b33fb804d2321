import SmokeSuite.Utility.Input
import SmokeSuite.Utility.Printing

namespace SmokeSuite.Translation

def classOf? (name : Octets) : Option (Char → Bool) :=
  let isGraphic (c : Char) : Bool := '!' ≤ c && c ≤ '~'
  match String.ofList name with
  | "alnum" => some Char.isAlphanum
  | "alpha" => some Char.isAlpha
  | "blank" => some fun c => c == ' ' || c == '\t'
  | "cntrl" => some fun c => c < ' ' || c == '\x7f'
  | "digit" => some Char.isDigit
  | "graph" => some isGraphic
  | "lower" => some Char.isLower
  | "print" => some fun c => isGraphic c || c == ' '
  | "punct" => some fun c => isGraphic c && !c.isAlphanum
  | "space" => some Integer.isBlank
  | "upper" => some Char.isUpper
  | "xdigit" => some (Integer.isDigitOf 16)
  | _ => none

def everyByte : Octets := (List.range 256).map Char.ofNat

inductive Item where
  | characters (cs : Octets)
  /-- A class, which is one of letters in one case if `isCase` holds. -/
  | named (cs : Octets) (isCase : Bool)
  | repeated (c : Char) (count : Nat)
  deriving Inhabited

def readOne (s : Octets) : Option ((Char × Bool) × Octets) :=
  match s with
  | [] => none
  | ['\\'] => some (('\\', true), [])
  | '\\' :: r =>
    match Printing.byteOf? 8 3 r with
    | some (c, rest) => some ((c, true), rest)
    | none =>
      match r with
      | c :: rest =>
        let c := if c == 'e' then c else (Printing.escapeOf? c).getD c
        some ((c, true), rest)
      | [] => none
  | c :: r => some ((c, false), r)

/-- Reads what stands between brackets with marks: a class, an equivalence, or a repeated character. -/
def readBracket (s : Octets) : Option (Except Octets (Item × Octets)) :=
  let upTo (mark : Char) (r : Octets) : Option (Octets × Octets) :=
    let rec go : Octets → Octets → Option (Octets × Octets)
      | before, a :: b :: rest =>
        if a == mark && b == ']' then some (before.reverse, rest) else go (a :: before) (b :: rest)
      | _, _ => none
    go [] r
  match s with
  | '[' :: ':' :: r =>
    (upTo ':' r).map fun (name, rest) =>
      match classOf? name with
      | some f => .ok (.named (everyByte.filter f) (name == "lower".toList || name == "upper".toList), rest)
      | none => .error ("invalid character class ".toList ++ Quotation.word name)
  | '[' :: '=' :: r =>
    (upTo '=' r).map fun (name, rest) =>
      match name with
      | [c] => .ok (.characters [c], rest)
      | [] => .error "missing equivalence class character '[==]'".toList
      | name => .error (name ++ ": equivalence class operand must be a single character".toList)
  | '[' :: r =>
    match readOne r with
    | some ((c, _), '*' :: rest) =>
      let digits := rest.takeWhile (· != ']')
      if !rest.contains ']' || !digits.all Char.isDigit then none
      else
        let base := if digits.head? == some '0' then 8 else 10
        some (.ok (.repeated c (Octets.digitsValue base digits), rest.drop (digits.length + 1)))
    | _ => none
  | _ => none

def readItems : Nat → Octets → Except Octets (List Item)
  | 0, _ => .ok []
  | fuel + 1, s =>
    match readBracket s with
    | some (.error e) => .error e
    | some (.ok (item, rest)) => do return item :: (← readItems fuel rest)
    | none =>
      match readOne s with
      | none => .ok []
      | some ((a, _), '-' :: rest) =>
        match readOne rest with
        | none => .ok [.characters [a, '-']]
        | some ((b, _), rest) =>
          if b < a then
            .error ("range-endpoints of '".toList ++ shown a ++ '-' :: shown b ++
              "' are in reverse collating sequence order".toList)
          else do
            let range := (List.range (b.toNat + 1 - a.toNat)).map fun i => Char.ofNat (a.toNat + i)
            return .characters range :: (← readItems fuel rest)
      | some ((a, _), rest) => do return .characters [a] :: (← readItems fuel rest)
where
  shown (c : Char) : Octets := if Quotation.isPrintable c then [c] else Quotation.escape c

/-- The characters of parts, of which one that is repeated as often as there is room fills up to a
length. -/
def expand (length : Nat) (items : List Item) : Octets :=
  let sizeOf : Item → Nat
    | .characters cs | .named cs _ => cs.length
    | .repeated _ n => n
  let room := length - (items.map sizeOf).foldl (· + ·) 0
  items.flatMap fun
    | .characters cs | .named cs _ => cs
    | .repeated c n => List.replicate (if n = 0 then room else n) c

structure Change where
  deleted : Char → Bool := fun _ => false
  replaced : Char → Char := id
  squeezed : Char → Bool := fun _ => false

/-- Changes characters as they come; what is known is the last one that was written. -/
def Change.sieve (g : Change) : Sieve (Option Char) where
  start := none
  piece := fun last t =>
    let (out, last) := t.foldl (fun (out, last) c =>
      if g.deleted c then (out, last)
      else
        let d := g.replaced c
        if last == some d && g.squeezed d then (out, last) else (d :: out, some d))
      (([] : Octets), last)
    (out.reverse, last)

def table (f : Char → Char) : Char → Char :=
  let all := (everyByte.map f).toArray
  fun c => (all[c.toNat]?).getD c

def member (cs : Octets) : Char → Bool :=
  let all := (everyByte.map (cs.contains ·)).toArray
  fun c => (all[c.toNat]?).getD false

def tr : Utility := fun c => do
  let o ← c.choices [.flag 'c' "complement", ⟨some 'C', none, .nothing⟩, .flag 'd' "delete",
    .flag 's' "squeeze-repeats", .flag 't' "truncate-set1"] false
  let deletes := o.has "delete"
  let squeezes := o.has "squeeze-repeats"
  let complements := o.has "complement" || o.has "C"
  let needed := if deletes == squeezes then 2 else 1
  let allowed := if deletes && !squeezes then 1 else 2
  let hint (t : Octets) (more : String) : Act Nat := do
    c.tell t
    discard (Act.write 2 (more.toList ++ "\nTry '".toList ++ c.name ++ " --help' for more information.\n".toList))
    return c.failure
  match o.operands with
  | [] => c.missingOperand
  | first :: rest => do
    if rest.length + 1 < needed then
      return ← hint ("missing operand after ".toList ++ Quotation.word first)
        (if squeezes then "Two strings must be given when both deleting and squeezing repeats."
          else "Two strings must be given when translating.")
    match rest.drop (allowed - 1) with
    | w :: more => do
      if more.isEmpty && allowed = 1 then
        return ← hint ("extra operand ".toList ++ Quotation.word w)
          "Only one string may be given when deleting without squeezing repeats."
      else c.extraOperand w
    | [] => do
      let items (s : Octets) : Act (List Item) :=
        match readItems (s.length + 1) s with
        | .ok items => return items
        | .error e => c.giveUp e
      let source ← items first
      let target ← (rest.headD []) |> items
      let isOpen : Item → Bool := fun
        | .repeated .. => true
        | _ => false
      if source.any isOpen then
        c.giveUp "the [c*] repeat construct may not appear in string1".toList
      let set := expand 0 source
      let set := if complements then everyByte.filter fun ch => !set.contains ch else set
      let hasTarget := !rest.isEmpty
      let translates := hasTarget && !deletes
      let goal := expand (if translates then set.length else 0) target
      if translates then
        let named := target.any fun
          | .named _ isCase => !isCase
          | _ => false
        if named then
          c.giveUp ("when translating, the only character classes that may appear in\n".toList ++
            "string2 are 'upper' and 'lower'".toList)
        if complements && source.any (fun
            | .named .. => true
            | _ => false) && goal.eraseDups.length != 1 then
          c.giveUp ("when translating with complemented character classes,\n".toList ++
            "string2 must map all characters in the domain to one".toList)
        if goal.isEmpty && !o.has "truncate-set1" then
          c.giveUp "when not truncating set1, string2 must be non-empty".toList
      let set' := if o.has "truncate-set1" then set.take goal.length else set
      let full := goal ++ List.replicate (set'.length - goal.length) (goal.getLast?.getD '\x00')
      /- Of characters that stand in a set more than once the last place counts. -/
      let pairs := (set'.zip full).reverse
      let g : Change :=
        { deleted := if deletes then member set else fun _ => false
          replaced := if translates then table fun ch => (pairs.lookup ch).getD ch else id
          squeezed := if squeezes then member (if hasTarget then goal else set) else fun _ => false }
      let (s, failure) ← Call.foldPieces 0 Call.pieceSize (fun s t => do
        let (out, s) := g.sieve.piece s t
        c.put out
        return s) Act.manyPieces g.sieve.start
      c.put (g.sieve.last s)
      match failure with
      | some e => c.giveUp ("read error: ".toList ++ e.reason.toList)
      | none => return 0

end SmokeSuite.Translation
