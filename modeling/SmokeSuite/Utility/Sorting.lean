import SmokeSuite.Utility.Input
import SmokeSuite.Text.Integer

namespace SmokeSuite.Sorting

structure Order where
  numeric : Bool := false
  reversed : Bool := false
  folded : Bool := false
  dictionary : Bool := false
  printable : Bool := false
  skipsStart : Bool := false
  skipsEnd : Bool := false
  deriving DecidableEq, Inhabited

/-- A stretch of a line: from a character of a field to the end of a field, or to a character of it. -/
structure Key where
  startField : Nat := 0
  startCharacter : Nat := 0
  endField : Option Nat := none
  endCharacter : Nat := 0
  order : Order := {}
  deriving DecidableEq, Inhabited

def isBlank (c : Char) : Bool := c == ' ' || c == '\t' || c == '\n'

def behindFields (separator : Option Char) (keepsLast : Bool) : Nat → Octets → Octets
  | 0, s => s
  | n + 1, s =>
    match separator with
    | some t =>
      let rest := s.dropWhile (· != t)
      behindFields separator keepsLast n (if n = 0 && keepsLast then rest else rest.drop 1)
    | none => behindFields separator keepsLast n ((s.dropWhile isBlank).dropWhile (!isBlank ·))

def Key.text (k : Key) (separator : Option Char) (line : Octets) : Octets :=
  let start := behindFields separator false k.startField line
  let start := (if k.order.skipsStart then start.dropWhile isBlank else start).drop k.startCharacter
  let rest := match k.endField with
    | none => []
    | some f =>
      if k.endCharacter = 0 then behindFields separator true (f + 1) line
      else
        let e := behindFields separator false f line
        (if k.order.skipsEnd then e.dropWhile isBlank else e).drop k.endCharacter
  start.take (start.length - rest.length)

/-- Digits before and behind a point without the zeros that mean nothing, and the sign. -/
def numeral (s : Octets) : Bool × Octets × Octets :=
  let t := s.dropWhile isBlank
  let (negative, t) := match t with
    | '-' :: r => (true, r)
    | r => (false, r)
  let whole := t.takeWhile Char.isDigit
  let part := match t.drop whole.length with
    | '.' :: r => r.takeWhile Char.isDigit
    | _ => []
  let whole := whole.dropWhile (· == '0')
  let part := (part.reverse.dropWhile (· == '0')).reverse
  (negative && !(whole.isEmpty && part.isEmpty), whole, part)

def compareNumerals (a b : Octets) : Ordering :=
  let (m, x, p) := numeral a
  let (n, y, q) := numeral b
  let sizes := (compare x.length y.length).then ((compare x y).then (compare p q))
  match m, n with
  | false, false => sizes
  | true, true => sizes.swap
  | true, false => .lt
  | false, true => .gt

def Order.image (o : Order) (s : Octets) : Octets :=
  let s := if o.dictionary then s.filter fun c => isBlank c || c.isAlphanum
    else if o.printable then s.filter fun c => ' ' ≤ c && c ≤ '~' else s
  if o.folded then s.map Char.toUpper else s

def Order.compare (o : Order) (a b : Octets) : Ordering :=
  let r := if o.numeric then compareNumerals a b else Ord.compare (o.image a) (o.image b)
  if o.reversed then r.swap else r

/-- How whole lines are compared: by the keys in turn, and at last as they are. -/
structure Plan where
  keys : List Key
  separator : Option Char
  order : Order
  stable : Bool
  deriving Inhabited

def Plan.compareKeys (p : Plan) (a b : Octets) : Ordering :=
  p.keys.foldl (fun r k =>
    r.then (k.order.compare (k.text p.separator a) (k.text p.separator b))) .eq

def Plan.compare (p : Plan) (a b : Octets) : Ordering :=
  let last := if p.stable then Ordering.eq else Ord.compare a b
  (p.compareKeys a b).then (if p.order.reversed then last.swap else last)

def Order.withLetter? (o : Order) (atStart : Bool) (c : Char) : Option Order :=
  match c with
  | 'b' => some (if atStart then { o with skipsStart := true } else { o with skipsEnd := true })
  | 'd' => some { o with dictionary := true }
  | 'f' => some { o with folded := true }
  | 'i' => some { o with printable := true }
  | 'n' | 'g' => some { o with numeric := true }
  | 'r' => some { o with reversed := true }
  | _ => none

def readOrder (atStart : Bool) (o : Order) (s : Octets) : Order × Octets :=
  match s with
  | [] => (o, [])
  | c :: r =>
    match o.withLetter? atStart c with
    | some o => readOrder atStart o r
    | none => (o, s)

def readKey (whole : Octets) : Except Octets Key :=
  let s := whole
  let number (s : Octets) : Nat × Octets :=
    let ds := s.takeWhile Char.isDigit
    (Octets.digitsValue 10 ds, s.drop ds.length)
  let lacks (s : Octets) : Bool := !(s.head?.any Char.isDigit)
  let invalid (t : String) : Except Octets Key :=
    .error (t.toList ++ ": invalid field specification ".toList ++ Quotation.word whole)
  let miscounted (t : String) (s : Octets) : Octets :=
    t.toList ++ ": invalid count at start of ".toList ++ Quotation.word s
  if lacks s then .error (miscounted "invalid number at field start" s)
  else
    let (f, r) := number s
    if f = 0 then invalid "field number is zero"
    else
      let (c, r, isBad) : Nat × Octets × Bool := match r with
        | '.' :: r =>
          if lacks r then (1, r, true)
          else
            let (c, r) := number r
            (c, r, false)
        | r => (1, r, false)
      if isBad then .error (miscounted "invalid number after '.'" r)
      else if c = 0 then invalid "character offset is zero"
      else
        let (o, r) := readOrder true {} r
        let k : Key := { startField := f - 1, startCharacter := c - 1, order := o }
        match r with
        | [] => .ok k
        | ',' :: r =>
          if lacks r then .error (miscounted "invalid number after ','" r)
          else
            let (f, r) := number r
            if f = 0 then invalid "field number is zero"
            else
              let (c, r) : Nat × Octets := match r with
                | '.' :: r => number r
                | r => (0, r)
              let (o, r) := readOrder false o r
              if r.isEmpty then .ok { k with endField := some (f - 1), endCharacter := c, order := o }
              else invalid "stray character in field spec"
        | _ => invalid "stray character in field spec"

def knobs : List Knob :=
  [.flag 'b' "ignore-leading-blanks", .flag 'd' "dictionary-order", .flag 'f' "ignore-case",
    .flag 'i' "ignore-nonprinting", .flag 'n' "numeric-sort", .flag 'g' "general-numeric-sort",
    .flag 'r' "reverse", .flag 'u' "unique", .flag 's' "stable", .flag 'm' "merge",
    .valued 'k' "key", .valued 't' "field-separator", .valued 'o' "output", .flag 'z' "zero-terminated",
    ⟨some 'c', some "check", .nothing⟩, ⟨some 'C', none, .nothing⟩, .valued 'S' "buffer-size",
    .valued 'T' "temporary-directory"]

def orderOf (o : Choices) : Order :=
  { numeric := o.has "numeric-sort" || o.has "general-numeric-sort"
    reversed := o.has "reverse"
    folded := o.has "ignore-case"
    dictionary := o.has "dictionary-order"
    printable := o.has "ignore-nonprinting"
    skipsStart := o.has "ignore-leading-blanks"
    skipsEnd := o.has "ignore-leading-blanks" }

def firsts (p : Plan) : List Octets → List Octets
  | [] => []
  | a :: rest =>
    match firsts p rest with
    | b :: others => if p.compareKeys a b == .eq then a :: others else a :: b :: others
    | [] => [a]

/-- The number of the first line that does not come behind the one before it, and the line. -/
def firstDisorder (p : Plan) (strict : Bool) : Nat → List Octets → Option (Nat × Octets)
  | n, a :: b :: rest =>
    let r := p.compare a b
    if r == .gt || (strict && r == .eq) then some (n + 1, b) else firstDisorder p strict (n + 1) (b :: rest)
  | _, _ => none

/-- Takes lines from several lists one by one, each time the least of those that stand in front. The number
bounds the lines. -/
def merge (p : Plan) : Nat → List (List Octets) → List Octets
  | 0, _ => []
  | fuel + 1, lists =>
    let fronts := lists.zipIdx.filterMap fun (ls, i) => ls.head?.map fun l => (l, i)
    match fronts with
    | [] => []
    | f :: fs =>
      let (l, i) := fs.foldl (fun a b => if p.compare b.1 a.1 == .lt then b else a) f
      l :: merge p fuel (lists.modify i (·.drop 1))

def sort : Utility := fun c => do
  let o ← c.choices knobs true
  let order := orderOf o
  let keys ← (o.found.filter (·.1 == "key")).mapM fun (_, v) =>
    match readKey v with
    | .ok k => return { k with order := if k.order == {} then order else k.order }
    | .error t => c.giveUp t
  let separator ← match o.value? "field-separator" with
    | none => pure none
    | some [] => c.giveUp "empty tab".toList
    | some [t] => pure (some t)
    | some ['\\', '0'] => pure (some '\x00')
    | some v => c.giveUp ("multi-character tab ".toList ++ Quotation.word v)
  let lineEnd := if o.has "zero-terminated" then '\x00' else '\n'
  let p : Plan :=
    { keys := if keys.isEmpty then [{ order }] else keys
      separator, order, stable := o.has "stable" || o.has "unique" }
  let readLines (path : Octets) : Act (List Octets) := do
    let excuses : Call.Excuses :=
      { unopened := fun path e => "cannot read: ".toList ++ Quotation.ifNeeded path ++ ": ".toList ++
          e.reason.toList
        unread := fun path e => "read failed: ".toList ++ Quotation.ifNeeded path ++ ": ".toList ++
          e.reason.toList }
    let (t, isFine) ← c.readInput excuses path
    if !isFine then Act.exit c.failure
    let ls := Text.partsAt lineEnd t
    return if ls.getLast? == some [] then ls.dropLast else ls
  if o.has "check" || o.has "C" then
    match o.operands with
    | _ :: w :: _ => c.refuse ("extra operand ".toList ++ Quotation.word w ++ " not allowed with -c".toList)
    | paths => do
      let path := paths.headD ['-']
      match firstDisorder p (o.has "unique") 1 (← readLines path) with
      | none => return 0
      | some (n, line) => do
        if !o.has "C" then
          c.tell (path ++ ':' :: Octets.ofNat n ++ ": disorder: ".toList ++ line)
        return 1
  else
    let lists ← (Call.inputsOf o.operands).mapM readLines
    let ls := lists.flatten
    let sorted := if o.has "merge" then merge p ls.length lists
      else ls.mergeSort fun a b => p.compare a b != .gt
    let kept := if o.has "unique" then firsts p sorted else sorted
    let out := kept.flatMap (· ++ [lineEnd])
    match o.value? "output" with
    | none => c.put out
    | some path =>
      match ← Act.openFile path (.write false) with
      | .ok channel => discard (Act.write channel out)
      | .error e => c.giveUp ("open failed: ".toList ++ Quotation.ifNeeded path ++ ": ".toList ++
          e.reason.toList)
    return 0

end SmokeSuite.Sorting
