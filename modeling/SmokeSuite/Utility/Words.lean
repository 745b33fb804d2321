import SmokeSuite.Printing.Real
import SmokeSuite.Utility.Choices

namespace SmokeSuite.Words

def status (n : Nat) : Utility := fun _ => return n

/-- The last name in a path, without an ending that is not all of it. -/
def withoutEnding (ending path : Octets) : Octets :=
  let name := Octets.lastName path
  if path.head? != some '/' || name != ['/'] then
    if ending.isSuffixOf name && ending.length < name.length then name.take (name.length - ending.length)
    else name
  else name

def endOf (o : Choices) : Octets := if o.has "zero" then ['\x00'] else ['\n']

def basename : Utility := fun c => do
  let o ← c.choices [.flag 'a' "multiple", .valued 's' "suffix", .flag 'z' "zero"] false
  match o.operands with
  | [] => c.missingOperand
  | path :: rest =>
    if o.has "multiple" || o.has "suffix" then
      c.answer (o.operands.flatMap fun p => withoutEnding ((o.value? "suffix").getD []) p ++ endOf o)
    else match rest with
      | _ :: word :: _ => c.extraOperand word
      | _ => c.answer (withoutEnding (rest.headD []) path ++ endOf o)

def dirname : Utility := fun c => do
  let o ← c.choices [.flag 'z' "zero"] true
  if o.operands.isEmpty then c.missingOperand
  c.answer (o.operands.flatMap fun p => Octets.directoryName p ++ endOf o)

def repeated (c : Call) (t : Octets) : Nat → Act Nat
  | 0 => return 0
  | fuel + 1 => do
    c.putAs "standard output" t
    repeated c t fuel

def bulk : Nat := 8192

def yes : Utility := fun c => do
  let o ← c.choices [] true
  let line := (if o.operands.isEmpty then ['y'] else Octets.joined o.operands) ++ ['\n']
  repeated c (List.replicate (bulk / line.length + 1) line).flatten Act.manyPieces

structure Written where
  value : Option Decimal
  /-- How many digits stand behind the point; nothing if that cannot be told. -/
  precision : Option Nat
  width : Nat

def written? (s : Octets) : Option Written := do
  let t := s.dropWhile Integer.isBlank
  let t := match t with
    | '+' :: r => r
    | r => r
  match Decimal.read? t with
  | some d =>
    let places := if d.exponent < 0 then d.exponent.natAbs else 0
    let hasPower := t.any fun c => c == 'e' || c == 'E'
    let width := if hasPower then
        (Nat.toDigits 10 (d.digits * Nat.pow 10 d.exponent.toNat)).length + (if d.negative then 1 else 0) +
          (if places > 0 then 1 else 0)
      else t.length + (if (t.dropWhile (· == '-')).head? == some '.' then 1 else 0)
    return { value := some d, precision := some places, width }
  | none =>
    match ← Real.read? .extended t with
    | (.finite negative m e, []) =>
      if e < 0 then none
      else return { value := some ⟨negative, m * Nat.pow 2 e.toNat, 0⟩, precision := none, width := t.length }
    | (.infinite _, []) => return { value := none, precision := none, width := t.length }
    | _ => none

def units (places : Nat) (d : Decimal) : Int :=
  let n : Int := d.digits * Int.pow 10 (d.exponent + places).toNat
  if d.negative then -n else n

inductive RowStyle where
  | places (n width : Nat)
  | general
  | directive (before : Octets) (layout : Layout) (letter : Char) (after : Octets)

def RowStyle.text (s : RowStyle) (places : Nat) (n : Int) : Octets :=
  let real : Real := match BinaryFormat.extended.ofDecimal? ⟨n < 0, n.natAbs, -places⟩ with
    | some (m, e) => .finite (n < 0) m e
    | none => .infinite (n < 0)
  match s with
  | .places p width =>
    let ds := Nat.toDigits 10 n.natAbs
    let ds := List.replicate (places + 1 - ds.length) '0' ++ ds
    let body := if p = 0 then ds.take (ds.length - places)
      else ds.take (ds.length - places) ++ '.' :: ds.drop (ds.length - places)
    let sign : Octets := if n < 0 then ['-'] else []
    sign ++ List.replicate (width - sign.length - body.length) '0' ++ body
  | .general => real.text .extended {} 'g'
  | .directive before l letter after => before ++ real.text .extended l letter ++ after

def styleOf (c : Call) (format : Octets) : Act RowStyle := do
  let shown := Quotation.word format
  let rec cut : Nat → Octets → Octets → Option (Octets × Octets)
    | 0, _, _ => none
    | _ + 1, _, [] => none
    | fuel + 1, before, '%' :: '%' :: r => cut fuel ('%' :: before) r
    | _ + 1, before, '%' :: r => some (before.reverse, r)
    | fuel + 1, before, ch :: r => cut fuel (ch :: before) r
  match cut (format.length + 1) [] format with
  | none => c.giveUp ("format ".toList ++ shown ++ " has no % directive".toList)
  | some (before, r) => do
    let flags := r.takeWhile fun ch => "-+#0 '".toList.contains ch
    let r := r.drop flags.length
    let width := r.takeWhile Char.isDigit
    let r := r.drop width.length
    let (precision, r) : Option Octets × Octets := match r with
      | '.' :: r => (some (r.takeWhile Char.isDigit), r.dropWhile Char.isDigit)
      | r => (none, r)
    let r := match r with
      | 'L' :: r => r
      | r => r
    match r with
    | [] => c.giveUp ("format ".toList ++ shown ++ " ends in %".toList)
    | letter :: after => do
      if !("efgaEFGA".toList.contains letter) then
        c.giveUp ("format ".toList ++ shown ++ " has unknown %".toList ++ letter :: " directive".toList)
      match cut (after.length + 1) [] after with
      | some _ => c.giveUp ("format ".toList ++ shown ++ " has too many % directives".toList)
      | none => pure ()
      let layout : Layout :=
        { left := flags.contains '-', zeros := flags.contains '0', plus := flags.contains '+'
          blank := flags.contains ' ', alternate := flags.contains '#'
          width := Octets.digitsValue 10 width, precision := precision.map (Octets.digitsValue 10) }
      return .directive before layout letter after

/-- Writes the numbers of a row, a bulk of them at once. The first number bounds the bulks. -/
def row (c : Call) (text : Int → Octets) (separator : Octets) (step : Int) (last : Option Int) :
    Nat → Bool → Int → Act Unit
  | 0, _, _ => pure ()
  | fuel + 1, isFirst, n => do
    let left : Nat := match last with
      | none => bulk
      | some l => if step = 0 then bulk else (Int.fdiv (l - n) step + 1).toNat
    let count := min left bulk
    let out := (List.range count).flatMap fun (i : Nat) =>
      (if isFirst && i = 0 then [] else separator) ++ text (n + i * step)
    let isOver := left ≤ bulk && last.isSome
    let isEmpty := isFirst && count = 0
    c.put (if isOver && !isEmpty then out ++ ['\n'] else out)
    if !isOver then row c text separator step last fuel false (n + count * step)

/-- Numbers may begin with a hyphen, which makes no option of them. -/
def isNumber (w : Octets) : Bool :=
  match w with
  | '-' :: c :: _ => c.isDigit || c == '.'
  | _ => false

/-- The words with a mark of their own in front of the first that is a number, so that all from there on
are operands. -/
def markNumbers : List Octets → List Octets
  | [] => []
  | w :: ws => if isNumber w then ['-', '-'] :: w :: ws else w :: markNumbers ws

def seq : Utility := fun c => do
  let o ← { c with arguments := markNumbers c.arguments }.choices
    [.flag 'w' "equal-width", .valued 'f' "format", .valued 's' "separator"] false
  match o.operands with
  | [] => c.missingOperand
  | _ :: _ :: _ :: word :: _ => c.extraOperand word
  | words => do
    let numbers ← words.mapM fun w =>
      match written? w with
      | some n => return n
      | none =>
        if (w.map Char.toLower) == "nan".toList then
          c.refuse ("invalid 'not-a-number' argument: ".toList ++ Quotation.word w)
        else c.refuse ("invalid floating point argument: ".toList ++ Quotation.word w)
    let unit : Written := { value := some ⟨false, 1, 0⟩, precision := some 0, width := 1 }
    let (first, step, last) := match numbers with
      | [last] => (unit, unit, last)
      | [first, last] => (first, unit, last)
      | first :: step :: last :: _ => (first, step, last)
      | [] => (unit, unit, unit)
    let valueOf (n : Written) : Decimal := n.value.getD ⟨false, 0, 0⟩
    if (valueOf step).digits = 0 then
      c.refuse ("invalid Zero increment value: ".toList ++ Quotation.word ((words.drop 1).headD []))
    let depth (n : Written) : Nat := (-(valueOf n).exponent).toNat
    let places := max (depth first) (max (depth step) (depth last))
    let shown := match first.precision, step.precision with
      | some a, some b => some (max a b)
      | _, _ => none
    let style : RowStyle ← match o.value? "format" with
      | some f => styleOf c f
      | none =>
        match shown, last.precision, last.value with
        | some p, some q, _ =>
          let point (n : Nat) : Nat := if n > 0 then 1 else 0
          let width (n : Written) (own : Nat) : Nat := n.width + p - own + point p - point own
          pure (.places p (if o.has "equal-width" then
            max (width first (first.precision.getD 0)) (width last q) else 0))
        | some 0, none, none => pure (.places 0 0)
        | _, _, _ => pure .general
    let places := match style, shown with
      | .places _ _, some p => max p places
      | _, _ => places
    let cut (t : Int) : Octets := match style with
      | .places p w => (RowStyle.places p w).text p (Int.tdiv t (Int.pow 10 (places - p)))
      | s => s.text places t
    row c cut ((o.value? "separator").getD ['\n']) (units places (valueOf step))
      (last.value.map (units places)) Act.manyPieces true (units places (valueOf first))
    return 0

end SmokeSuite.Words
