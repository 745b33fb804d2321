import SmokeSuite.Utility.Sorting
import SmokeSuite.Utility.Stream

namespace SmokeSuite.Lines

/-- Counts of a text; the width of its longest line is one of them. -/
structure Counts where
  lines : Nat := 0
  words : Nat := 0
  characters : Nat := 0
  longest : Nat := 0
  deriving DecidableEq, Inhabited

namespace Counts

def add (a b : Counts) : Counts :=
  { lines := a.lines + b.lines
    words := a.words + b.words
    characters := a.characters + b.characters
    longest := max a.longest b.longest }

structure Place where
  counts : Counts := {}
  column : Nat := 0
  inWord : Bool := false
  deriving Inhabited

def Place.step (p : Place) (c : Char) : Place :=
  let n := { p.counts with characters := p.counts.characters + 1 }
  let endWord (n : Counts) : Counts := if p.inWord then { n with words := n.words + 1 } else n
  let endLine (n : Counts) : Counts := { n with longest := max n.longest p.column }
  if c == '\n' then { counts := endWord (endLine { n with lines := n.lines + 1 }) }
  else if c == '\r' || c == '\x0c' then { counts := endWord (endLine n) }
  else if c == '\t' then { counts := endWord n, column := p.column + (8 - p.column % 8) }
  else if c == ' ' then { counts := endWord n, column := p.column + 1 }
  else if c == '\x0b' then { counts := endWord n, column := p.column }
  else if Quotation.isPrintable c then { counts := n, column := p.column + 1, inWord := true }
  else { p with counts := n }

def Place.finish (p : Place) : Counts :=
  { p.counts with
    words := p.counts.words + (if p.inWord then 1 else 0)
    longest := max p.counts.longest p.column }

end Counts

def wanted (o : Choices) (n : Counts) : List Nat :=
  let all := !(["lines", "words", "chars", "bytes", "max-line-length"].any o.has)
  (if all || o.has "lines" then [n.lines] else []) ++ (if all || o.has "words" then [n.words] else []) ++
    (if o.has "chars" then [n.characters] else []) ++
    (if all || o.has "bytes" then [n.characters] else []) ++
    (if o.has "max-line-length" then [n.longest] else [])

/-- The columns of each count: enough for the size of all files, or seven where sizes are not known. -/
def countWidth (paths : List Octets) (isSingle : Bool) : Act Nat := do
  if isSingle && paths.length ≤ 1 then return 1
  let files ← Act.files
  let directory ← Act.directory
  let input ← Act.inspect 0
  let sizes := paths.map fun path =>
    let ofEntry : FileEntry → Option Nat
      | .file content _ => some content.length
      | _ => none
    if path == ['-'] then
      match input with
      | some (.file place) => (files.entry? place).map ofEntry
      | some _ => some none
      | none => none
    else (files.at? directory (Octets.toPath path)).map ofEntry
  let total := (sizes.filterMap (·.bind id)).foldl (· + ·) 0
  let least := if sizes.any (· == some none) then 7 else 1
  return max least (Octets.ofNat total).length

def wc : Utility := fun c => do
  let o ← c.choices [.flag 'l' "lines", .flag 'w' "words", .flag 'm' "chars", .flag 'c' "bytes",
    .flag 'L' "max-line-length", ⟨none, some "total", .something⟩] true
  let paths := Call.inputsOf o.operands
  let total := (o.value? "total").getD "auto".toList
  let width ← if total == "only".toList then pure 1
    else countWidth paths ((wanted o {}).length = 1)
  let line (n : Counts) (title : Octets) : Octets :=
    let texts := (wanted o n).map fun n =>
      let ds := Octets.ofNat n
      List.replicate (width - ds.length) ' ' ++ ds
    Octets.joined (texts ++ if title.isEmpty then [] else [title]) ++ ['\n']
  let shown (path : Octets) : Octets := if path.contains '\n' then Quotation.ifNeeded path else path
  let results ← paths.mapM fun path => do
    match ← Call.openInput path with
    | .error e => do
      c.tellOf path e
      return (none, false)
    | .ok channel => do
      let (p, failure) ← Call.foldPieces channel Call.pieceSize
        (fun (p : Counts.Place) t => return t.foldl Counts.Place.step p) Act.manyPieces {}
      Call.closeInput channel
      match failure with
      | some e => c.tell ((if path == ['-'] then "'standard input'".toList else Quotation.ifNeeded path) ++
          ": ".toList ++ e.reason.toList)
      | none => pure ()
      let n := p.finish
      if total != "only".toList then
        c.put (line n (if o.operands.isEmpty then [] else shown path))
      return (some n, failure.isNone)
  let sum := (results.filterMap (·.1)).foldl Counts.add {}
  if total == "only".toList then c.put (line sum [])
  else if total == "always".toList || (total == "auto".toList && paths.length > 1) then
    c.put (line sum "total".toList)
  let isLost := paths.contains ['-'] && (← Act.inspect 0).isNone
  Stream.endInput c isLost (if results.all (·.2) then 0 else 1)

def tac : Utility := fun c => do
  let o ← c.choices [] true
  let excuses : Call.Excuses :=
    { unopened := fun path e => "failed to open ".toList ++ Quotation.always path ++
        " for reading: ".toList ++ e.reason.toList
      unread := fun path e => Quotation.ifNeeded (Stream.title path) ++ ": read error: ".toList ++ e.reason.toList }
  let paths := Call.inputsOf o.operands
  let isLost := paths.contains ['-'] && (← Act.inspect 0).isNone
  let status ← Call.forEach (fun path => do
    let (t, isFine) ← c.readInput excuses path
    c.put (Octets.lines t).reverse.flatten
    return isFine) paths
  Stream.endInput c isLost status

def rev : Utility := fun c => do
  let o ← c.choices [.flag '0' "zero"] true
  let turned (l : Octets) : Octets :=
    let body := l.takeWhile (· != '\n')
    body.reverse ++ l.drop body.length
  c.pour { Call.Excuses.plain with unopened := fun path e =>
      "cannot open ".toList ++ path ++ ": ".toList ++ e.reason.toList }
    (Sieve.ofLines () (fun _ l => (turned l, ())) fun _ => []) o.operands

structure Numbers where
  every : Bool := false
  never : Bool := false
  width : Nat := 6
  separator : Octets := ['\t']
  step : Int := 1
  style : Octets := "rn".toList

def Numbers.text (g : Numbers) (n : Int) : Octets :=
  let ds := Octets.ofInt n
  if g.style == "ln".toList then ds ++ List.replicate (g.width - ds.length) ' '
  else if g.style == "rz".toList then
    let digits := Octets.ofNat n.natAbs
    let sign : Octets := if n < 0 then ['-'] else []
    sign ++ List.replicate (g.width - sign.length - digits.length) '0' ++ digits
  else List.replicate (g.width - ds.length) ' ' ++ ds

def Numbers.line (g : Numbers) (n : Int) (l : Octets) : Octets × Int :=
  let body := l.takeWhile (· != '\n')
  if !g.never && (g.every || !body.isEmpty) then (g.text n ++ g.separator ++ body ++ ['\n'], n + g.step)
  else (List.replicate (g.width + g.separator.length) ' ' ++ body ++ ['\n'], n)

def nl : Utility := fun c => do
  let o ← c.choices [.valued 'b' "body-numbering", .valued 'w' "number-width",
    .valued 's' "number-separator", .valued 'v' "starting-line-number", .valued 'i' "line-increment",
    .valued 'n' "number-format"] true
  let style := (o.value? "body-numbering").getD ['t']
  if style != ['a'] && style != ['t'] && style != ['n'] then
    c.refuse ("invalid body numbering style: ".toList ++ Quotation.word style)
  let form := (o.value? "number-format").getD "rn".toList
  if !(["ln", "rn", "rz"].contains (String.ofList form)) then
    c.refuse ("invalid line numbering format: ".toList ++ Quotation.word form)
  let number (key text : String) (d : Int) : Act Int :=
    match o.value? key with
    | none => return d
    | some v =>
      match if v.isEmpty then none else Integer.ofText? 10 v with
      | some n => return n
      | none => c.giveUp (text.toList ++ ": ".toList ++ Quotation.word v)
  let width ← number "number-width" "invalid line number field width" 6
  let start ← number "starting-line-number" "invalid starting line number" 1
  let step ← number "line-increment" "invalid line number increment" 1
  let g : Numbers :=
    { every := style == ['a'], never := style == ['n'], width := width.toNat, step, style := form
      separator := (o.value? "number-separator").getD ['\t'] }
  c.pour .plain (Sieve.ofLines start (fun n l => g.line n l) fun _ => []) o.operands

/-- Which lines of a row of equal ones are written. -/
structure Repeats where
  counts : Bool := false
  onlyRepeated : Bool := false
  onlyUnique : Bool := false
  every : Bool := false
  folded : Bool := false
  skipFields : Nat := 0
  skipCharacters : Nat := 0
  width : Option Nat := none

def Repeats.image (g : Repeats) (l : Octets) : Octets :=
  let s := (Sorting.behindFields none false g.skipFields l).drop g.skipCharacters
  let s := match g.width with
    | some n => s.take n
    | none => s
  if g.folded then s.map Char.toUpper else s

def Repeats.rows (g : Repeats) : List Octets → List (List Octets)
  | [] => []
  | l :: ls =>
    match rows g ls with
    | (m :: ms) :: rest =>
      if g.image l == g.image m then (l :: m :: ms) :: rest else [l] :: (m :: ms) :: rest
    | rest => [l] :: rest

def Repeats.text (g : Repeats) (row : List Octets) : Octets :=
  let ending (l : Octets) : Octets := l ++ ['\n']
  if (g.onlyRepeated || g.every) && row.length = 1 || (g.onlyUnique && row.length > 1) then []
  else if g.every then row.flatMap ending
  else
    let ds := Octets.ofNat row.length
    (if g.counts then List.replicate (7 - ds.length) ' ' ++ ds ++ [' '] else []) ++ ending (row.headD [])

def countOf (c : Call) (o : Choices) (key text : String) : Act (Option Nat) :=
  match o.value? key with
  | none => return none
  | some v =>
    match Octets.toNat? v with
    | some n => return some n
    | none => c.giveUp (v ++ ": ".toList ++ text.toList)

def uniq : Utility := fun c => do
  let o ← c.choices [.flag 'c' "count", .flag 'd' "repeated", .flag 'D' "all-repeated",
    .flag 'u' "unique", .flag 'i' "ignore-case", .valued 'f' "skip-fields", .valued 's' "skip-chars",
    .valued 'w' "check-chars", .flag 'z' "zero-terminated"] true
  let g : Repeats :=
    { counts := o.has "count"
      onlyRepeated := o.has "repeated"
      onlyUnique := o.has "unique"
      every := o.has "all-repeated"
      folded := o.has "ignore-case"
      skipFields := (← countOf c o "skip-fields" "invalid number of fields to skip").getD 0
      skipCharacters := (← countOf c o "skip-chars" "invalid number of bytes to skip").getD 0
      width := ← countOf c o "check-chars" "invalid number of bytes to compare" }
  if g.counts && g.every then
    c.refuse "printing all duplicated lines and repeat counts is meaningless".toList
  match o.operands with
  | _ :: _ :: w :: _ => c.extraOperand w
  | ws => do
    let (t, isFine) ← c.readInput .plain (ws.headD ['-'])
    if !isFine then return 1
    let ls := (Octets.lines t).map fun l => if l.getLast? == some '\n' then l.dropLast else l
    let out := (g.rows ls).flatMap g.text
    match ws.drop 1 with
    | [] => c.answer out
    | path :: _ =>
      match ← (if path == ['-'] then pure (.ok 1) else Act.openFile path (.write false)) with
      | .ok channel => do
        discard (Act.write channel out)
        return 0
      | .error e => do
        c.tellOf path e
        return 1

structure Range where
  first : Nat
  last : Option Nat

def Range.holds (r : Range) (n : Nat) : Bool := r.first ≤ n && r.last.all (n ≤ ·)

inductive Measure where
  | bytes
  | fields
  deriving DecidableEq

def ranges (u : Measure) (s : Octets) : Except Octets (List Range) :=
  let zero : String := if u == .fields then "fields are numbered from 1"
    else "byte/character positions are numbered from 1"
  let invalid (t : Octets) : Octets :=
    (if u == .fields then "invalid field value " else "invalid byte or character position ").toList ++
      Quotation.word t
  let number (whole t : Octets) : Except Octets Nat :=
    match Octets.toNat? t with
    | some 0 => .error zero.toList
    | some n => .ok n
    | none => .error (invalid (whole.dropWhile fun c => c.isDigit || c == '-'))
  ((s.splitBy fun a b => !isGap a && !isGap b).filter fun t => !t.all isGap).mapM fun t =>
    let start := t.takeWhile (· != '-')
    match t.drop start.length with
    | [] => do
      let n ← number t start
      return ⟨n, some n⟩
    | _ :: ending => do
      if start.isEmpty && ending.isEmpty then throw "invalid range with no endpoint: -".toList
      let first ← if start.isEmpty then pure 1 else number t start
      let last ← if ending.isEmpty then pure none else some <$> number t ending
      if last.any (· < first) then throw "invalid decreasing range".toList
      return ⟨first, last⟩
where
  isGap (c : Char) : Bool := c == ',' || c == ' ' || c == '\t'

structure Cutting where
  ranges : List Range
  complement : Bool := false
  separator : Octets := []

def Cutting.keeps (g : Cutting) (n : Nat) : Bool := (g.ranges.any (·.holds n)) != g.complement

/-- The bytes that are kept; where a range begins a separator stands, if there is one. -/
def Cutting.bytes (g : Cutting) (l : Octets) : Octets :=
  let rec go : Nat → Bool → Bool → Octets → Octets
    | _, _, _, [] => []
    | n, wasKept, any, c :: cs =>
      if g.keeps n then
        (if !wasKept && any then g.separator else []) ++ c :: go (n + 1) true true cs
      else go (n + 1) false any cs
  go 1 false false l

def Cutting.fields (g : Cutting) (delimiter : Char) (output : Octets) (l : Octets) : Octets :=
  let parts := (Text.partsAt delimiter l).zipIdx 1
  output.intercalate ((parts.filter fun (_, n) => g.keeps n).map (·.1))

def cut : Utility := fun c => do
  let o ← c.choices [.valued 'b' "bytes", .valued 'c' "characters", .valued 'f' "fields",
    .valued 'd' "delimiter", ⟨some 'n', none, .nothing⟩, .flag 's' "only-delimited",
    .flag 'z' "zero-terminated", ⟨none, some "complement", .nothing⟩,
    ⟨none, some "output-delimiter", .something⟩] true
  let lists := o.found.filter fun (k, _) => ["bytes", "characters", "fields"].contains k
  match lists with
  | [] => c.refuse "you must specify a list of bytes, characters, or fields".toList
  | _ :: _ :: _ => c.refuse "only one list may be specified".toList
  | [(kind, list)] => do
    let isFields := kind == "fields"
    match o.value? "delimiter" with
    | some d =>
      if d.length > 1 then c.refuse "the delimiter must be a single character".toList
      if !isFields then
        c.refuse "an input delimiter may be specified only when operating on fields".toList
    | none => pure ()
    if o.has "only-delimited" && !isFields then
      c.refuse ("suppressing non-delimited lines makes sense\n\tonly when operating on fields").toList
    match ranges (if isFields then .fields else .bytes) list with
    | .error t => c.refuse t
    | .ok rs => do
      if rs.isEmpty then c.refuse (if isFields then "fields are numbered from 1".toList
        else "byte/character positions are numbered from 1".toList)
      let delimiter := match o.value? "delimiter" with
        | some d => d.headD '\x00'
        | none => '\t'
      let output := (o.value? "output-delimiter").getD (if isFields then [delimiter] else [])
      let g : Cutting := { ranges := rs, complement := o.has "complement", separator := output }
      let line (l : Octets) : Octets :=
        let body := l.takeWhile (· != '\n')
        if !isFields then g.bytes body ++ ['\n']
        else if !body.contains delimiter then (if o.has "only-delimited" then [] else body ++ ['\n'])
        else g.fields delimiter output body ++ ['\n']
      c.pour .plain (Sieve.ofLines () (fun _ l => (line l, ())) fun _ => []) o.operands

def fold : Utility := fun c => do
  let o ← c.choices ([.flag 'b' "bytes", .flag 's' "spaces", .valued 'w' "width"] ++
    Knob.letters "0123456789") true
  let width ← match o.value? "width" with
    | none => pure 80
    | some v =>
      match Octets.toNat? v with
      | some n =>
        if n = 0 then c.giveUp ("invalid number of columns: ".toList ++ Quotation.word v ++
          ": Numerical result out of range".toList) else pure n
      | none => c.giveUp ("invalid number of columns: ".toList ++ Quotation.word v)
  let rec broken : Nat → Octets → List Octets
    | 0, s => [s]
    | fuel + 1, s =>
      if s.length ≤ width then [s]
      else
        let start := s.take width
        let atSpace := (start.reverse.dropWhile (!Sorting.isBlank ·)).reverse
        let piece := if o.has "spaces" && !atSpace.isEmpty then atSpace else start
        piece :: broken fuel (s.drop piece.length)
  let line (l : Octets) : Octets :=
    let body := l.takeWhile (· != '\n')
    ['\n'].intercalate (broken l.length body) ++ l.drop body.length
  c.pour .plain (Sieve.ofLines () (fun _ l => (line l, ())) fun _ => []) o.operands

def paste : Utility := fun c => do
  let o ← c.choices [.valued 'd' "delimiters", .flag 's' "serial", .flag 'z' "zero-terminated"] true
  let rec marks : Octets → List Octets
    | [] => []
    | ['\\'] => [['\\']]
    | '\\' :: '0' :: r => [] :: marks r
    | '\\' :: 'n' :: r => ['\n'] :: marks r
    | '\\' :: 't' :: r => ['\t'] :: marks r
    | '\\' :: ch :: r => [ch] :: marks r
    | ch :: r => [ch] :: marks r
  let ds := marks ((o.value? "delimiters").getD ['\t'])
  let ds := if ds.isEmpty then [[]] else ds
  let paths := Call.inputsOf o.operands
  let bodies ← paths.mapM fun path => do
    match ← Call.openInput path with
    | .error e => do
      c.tellOf path e
      return none
    | .ok channel => do
      let t ← Act.readAll channel
      Call.closeInput channel
      return some ((Octets.lines t).map fun l => l.takeWhile (· != '\n'))
  if !o.has "serial" && bodies.any Option.isNone then return 1
  /- Columns that read the input share its lines. -/
  let shared := (bodies.zip paths).findSome? fun (b, path) => if path == ['-'] then b else none
  let dashes := paths.count ['-']
  let columns := if o.has "serial" then bodies.filterMap id
    else (bodies.zip paths).zipIdx.filterMap fun ((b, path), i) =>
      if path != ['-'] then b
      else
        let rank := (paths.take i).count ['-']
        some (((shared.getD []).zipIdx.filter fun (_, k) => k % dashes = rank).map (·.1))
  let withMarks (parts : List Octets) : Octets :=
    (parts.zipIdx.flatMap fun (p, i) =>
      (if i = 0 then [] else (ds[(i - 1) % ds.length]?).getD []) ++ p) ++ ['\n']
  let out := if o.has "serial" then columns.flatMap withMarks
    else
      let height := (columns.map List.length).max?.getD 0
      (List.range height).flatMap fun i => withMarks (columns.map fun col => (col[i]?).getD [])
  c.put out
  return if bodies.any Option.isNone then 1 else 0

end SmokeSuite.Lines
