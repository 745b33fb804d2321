import SmokeSuite.Utility.Choices
import SmokeSuite.Utility.Input

namespace SmokeSuite.Entries

def shown (path : Octets) : Octets := Quotation.always path

def complaint (what : String) (path : Octets) (e : SystemError) : Octets :=
  what.toList ++ [' '] ++ shown path ++ ": ".toList ++ e.reason.toList

def surroundings : Act (FileTree × Location) := do return (← Act.files, ← Act.directory)

def follow (path : Octets) : Act (Except SystemError (Location × FileEntry)) := do
  let (files, directory) ← surroundings
  return files.follow directory path.toPath

def placeFor (path : Octets) : Act (Except SystemError Location) := do
  let (files, directory) ← surroundings
  return files.placeFor directory path.toPath

def change (f : FileTree → FileTree) : Act Unit := do Act.setFiles (f (← Act.files))

/-- Does something for each operand; the status tells whether all went well. -/
def forAll (f : Octets → Act Bool) (paths : List Octets) : Act Nat := Call.forEach f paths

def trimSlashes (path : Octets) : Octets :=
  let t := (path.reverse.dropWhile (· == '/')).reverse
  if t.isEmpty then path.take 1 else t

def endsWithSlash (path : Octets) : Bool := path.getLast? == some '/'

def joined (directory name : Octets) : Octets :=
  if endsWithSlash directory then directory ++ name else directory ++ '/' :: name

def isDirectory (path : Octets) : Act Bool := do
  match ← follow path with
  | .ok (_, .directory) => return true
  | _ => return false

def touch : Utility := fun c => do
  let o ← c.choices (Knob.letters "acm" ++ [.flag 'h' "no-dereference", .valued 'd' "date",
    .valued 'r' "reference", .valued 't' "t", ⟨none, some "no-create", .nothing⟩]) true
  if o.operands.isEmpty then c.refuse "missing file operand".toList
  o.operands |> forAll fun path => do
    match ← follow path with
    | .ok _ => return true
    | .error .notFound =>
      if o.has "c" || o.has "no-create" then return true
      else match ← placeFor path with
        | .error e => do
          c.tell (complaint "cannot touch" path e)
          return false
        | .ok l =>
          if endsWithSlash path then
            c.tell (complaint "setting times of" path .notFound)
            return false
          else
            change (·.insert l (.file [] false))
            return true
    | .error e => do
      c.tell (complaint "cannot touch" path e)
      return false

def isMode (mode : Octets) : Bool :=
  let isChange (t : Octets) : Bool :=
    let actions := t.dropWhile ("ugoa".toList.contains ·)
    match actions with
    | sign :: rest => "+-=".toList.contains sign && rest.all ("rwxXstugo+-=".toList.contains ·)
    | [] => false
  if mode.head?.any Char.isDigit then
    mode.all (fun d => '0' ≤ d && d ≤ '7') && Octets.digitsValue 8 mode < 0o10000
  else (Text.partsAt ',' mode).all isChange

def makeAll (c : Call) (told : Octets → Act Unit) : Octets → List Octets → Act Bool
  | _, [] => return true
  | start, name :: names => do
    let path := if start.isEmpty then name else start ++ name
    let next := path ++ ['/']
    if path.isEmpty then makeAll c told next names
    else match ← follow path with
      | .ok (_, .directory) => makeAll c told next names
      | .ok _ => do
        c.tell (complaint "cannot create directory" path
          (if names.isEmpty then .fileExists else .notDirectory))
        return false
      | .error _ =>
        match ← placeFor path with
        | .ok l => do
          change (·.insert l .directory)
          told path
          makeAll c told next names
        | .error e => do
          c.tell (complaint "cannot create directory" path e)
          return false

def mkdir : Utility := fun c => do
  let o ← c.choices [.flag 'p' "parents", .flag 'v' "verbose", .valued 'm' "mode"] true
  if o.operands.isEmpty then c.missingOperand
  match o.value? "mode" with
  | some m => if !isMode m then c.giveUp ("invalid mode ".toList ++ Quotation.word m)
  | none => pure ()
  let told (path : Octets) : Act Unit :=
    if o.has "verbose" then
      c.put (c.name ++ ": created directory ".toList ++ shown path ++ ['\n'])
    else pure ()
  o.operands |> forAll fun path => do
    if o.has "parents" && !path.isEmpty then
      makeAll c told [] (Text.partsAt '/' (trimSlashes path))
    else
      let made : Except SystemError Location ← do
        match ← follow path with
        | .ok _ => pure (.error .fileExists)
        | .error .notFound => placeFor path
        | .error e => pure (.error e)
      match made with
      | .ok l => do
        change (·.insert l .directory)
        told path
        return true
      | .error e => do
        c.tell (complaint "cannot create directory" path e)
        return false

/-- The name of a new file: the letters at the end of a template are replaced by the number of the
process. -/
def fromTemplate (number : Nat) (template : Octets) : Octets :=
  let marks := (template.reverse.takeWhile (· == 'X')).length
  let digits := "abcdefghijklmnopqrstuvwxyz".toList
  let letters := (List.range marks).map fun i => digits[(number / Nat.pow 26 i) % 26]?.getD 'a'
  template.take (template.length - marks) ++ letters

def mktemp : Utility := fun c => do
  let o ← c.choices [.flag 'd' "directory", .flag 'u' "dry-run", .flag 'q' "quiet", .valued 'p' "tmpdir",
    ⟨some 't', none, .nothing⟩, ⟨none, some "suffix", .something⟩] true
  let base := (o.value? "tmpdir").getD ((c.lookup? "TMPDIR").getD "/tmp".toList)
  let template ← match o.operands with
    | [] => pure (joined base "tmp.XXXXXXXXXX".toList)
    | [t] => pure (if o.has "tmpdir" || o.has "t" then joined base t else t)
    | _ => c.refuse "too many templates".toList
  if !("XXX".toList.isSuffixOf template) then
    c.giveUp ("too few X's in template ".toList ++ Quotation.word template)
  let (number, _) ← Act.numbers
  let path := fromTemplate number template ++ (o.value? "suffix").getD []
  let kind := if o.has "directory" then "directory" else "file"
  match ← placeFor path with
  | .error e => c.giveUp (("failed to create " ++ kind ++ " via template ").toList ++
      Quotation.word template ++ ": ".toList ++ e.reason.toList)
  | .ok l => do
    if !o.has "dry-run" then
      change (·.insert l (if o.has "directory" then .directory else .file [] false))
    c.answer (path ++ ['\n'])

/-- Takes directories away, the last name of a path first and then those before it if that is asked
for. The number bounds the names. -/
def removeEmpty (c : Call) (o : Choices) : Nat → Octets → Act Bool
  | 0, _ => return true
  | fuel + 1, path => do
    let (files, directory) ← surroundings
    if o.has "verbose" then
      c.put (c.name ++ ": removing directory, ".toList ++ shown path ++ ['\n'])
    let last := Octets.lastName path
    let removed : Except SystemError Location := match files.follow directory path.toPath with
      | .error e => .error e
      | .ok (l, .directory) =>
        if last == ['.'] then .error .badArgument
        else if last == ['.', '.'] || !(files.names l).isEmpty then .error .notEmpty
        else .ok l
      | .ok _ => .error .notDirectory
    match removed with
    | .ok l => do
      change (·.erase l)
      let above := Octets.directoryName path
      if o.has "parents" && above != ['.'] && above != ['/'] then removeEmpty c o fuel above
      else return true
    | .error e =>
      if e == .notEmpty && o.has "ignore-fail-on-non-empty" then return true
      else
        c.tell (complaint "failed to remove" path e)
        return false

def rmdir : Utility := fun c => do
  let o ← c.choices [.flag 'p' "parents", .flag 'v' "verbose",
    ⟨none, some "ignore-fail-on-non-empty", .nothing⟩] true
  if o.operands.isEmpty then c.missingOperand
  o.operands |> forAll fun path => removeEmpty c o (path.length + 1) path

/-- The paths of all below a directory, each before the one that holds it. The number bounds the depth. -/
def pathsBelow (files : FileTree) : Nat → Location → Octets → List (Octets × Bool)
  | 0, _, _ => []
  | depth + 1, l, path =>
    let names := (files.names l).mergeSort (fun a b => !(b < a))
    names.flatMap (fun n => pathsBelow files depth (l ++ [n]) (joined path (Octets.ofString n))) ++
      [(path, files.entry? l == some .directory)]

def maxDepth : Nat := 4096

def rm : Utility := fun c => do
  let o ← c.choices (Knob.letters "iI" ++ [.flag 'f' "force", .flag 'r' "recursive", .flag 'd' "dir",
    .flag 'v' "verbose", ⟨some 'R', none, .nothing⟩, ⟨none, some "no-preserve-root", .nothing⟩]) true
  let forced := o.has "force"
  if o.operands.isEmpty then
    if forced then return 0 else c.missingOperand
  let deep := o.has "recursive" || o.has "R"
  o.operands |> forAll fun path => do
    let refused (e : SystemError) : Act Bool := do
      c.tell (complaint "cannot remove" path e)
      return false
    let last := Octets.lastName path
    match ← follow path with
    | .error e =>
      if forced && (e == .notFound || e == .notDirectory) then return true else refused e
    | .ok (l, .directory) => do
      let files ← Act.files
      if deep && l.isEmpty then
        c.tell "it is dangerous to operate recursively on '/'".toList
        c.tell "use --no-preserve-root to override this failsafe".toList
        return false
      else if deep && (last == ['.'] || last == ['.', '.']) then
        c.tell ("refusing to remove '.' or '..' directory: skipping ".toList ++ shown path)
        return false
      else if deep || (o.has "dir" && (files.names l).isEmpty) then
        if o.has "verbose" then
          for (p, isDirectory) in pathsBelow files maxDepth l (trimSlashes path) do
            c.put ((if isDirectory then "removed directory " else "removed ").toList ++ shown p ++ ['\n'])
        change (·.erase l)
        return true
      else refused (if o.has "dir" then .notEmpty else .isDirectory)
    | .ok (l, _) => do
      change (·.erase l)
      if o.has "verbose" then c.put ("removed ".toList ++ shown path ++ ['\n'])
      return true

def unlink : Utility := fun c => do
  match (← c.choices [] true).operands with
  | [] => c.missingOperand
  | _ :: w :: _ => c.extraOperand w
  | [path] =>
    match ← follow path with
    | .ok (_, .directory) => c.giveUp (complaint "cannot unlink" path .isDirectory)
    | .error e => c.giveUp (complaint "cannot unlink" path e)
    | .ok (l, _) => do
      change (·.erase l)
      return 0

/-- Sources, and where they go: to a path, or into a directory. -/
structure Journey where
  sources : List Octets
  target : Octets
  isInto : Bool

def journey (c : Call) (o : Choices) : Act Journey := do
  let refused (path : Octets) : Act Journey := do
    match ← follow path with
    | .error e => c.giveUp (complaint "target" path e)
    | .ok _ => c.giveUp (complaint "target" path .notDirectory)
  match o.value? "target-directory", o.operands with
  | _, [] => c.refuse "missing file operand".toList
  | some d, ws => do
    if ← isDirectory d then return { sources := ws, target := d, isInto := true }
    else match ← follow d with
      | .error e => c.giveUp (complaint "target directory" d e)
      | .ok _ => c.giveUp (complaint "target directory" d .notDirectory)
  | none, [w] => c.refuse ("missing destination file operand after ".toList ++ shown w)
  | none, ws => do
    let target := ws.getLast?.getD []
    let sources := ws.dropLast
    if o.has "no-target-directory" then
      match sources with
      | [_] => return { sources, target, isInto := false }
      | _ => c.refuse ("extra operand ".toList ++ shown ((ws.drop 2).headD []))
    else if ← isDirectory target then return { sources, target, isInto := true }
    else match sources with
      | [_] => return { sources, target, isInto := false }
      | _ => refused target

def Journey.goal (j : Journey) (source : Octets) : Octets :=
  if j.isInto then joined j.target (Octets.lastName (trimSlashes source)) else j.target

def journeyKnobs : List Knob :=
  [.flag 'f' "force", .flag 'n' "no-clobber", .flag 'v' "verbose", .flag 'i' "interactive",
    .flag 'T' "no-target-directory", .valued 't' "target-directory", .flag 'u' "update"]

def keepsTargets (o : Choices) : Bool :=
  (o.lastOf ["force", "no-clobber", "interactive"]).any (·.1 == "no-clobber")

def mv : Utility := fun c => do
  let o ← c.choices journeyKnobs true
  let j ← journey c o
  j.sources |> forAll fun source => do
    let goal := j.goal source
    let fail (t : Octets) : Act Bool := do
      c.tell t
      return false
    let moving : Octets := "cannot move ".toList ++ shown source ++ " to ".toList
    match ← follow source with
    | .error e => fail (complaint "cannot stat" source e)
    | .ok (l, e) => do
      let go (place : Location) : Act Bool := do
        change (·.move l place)
        if o.has "verbose" then
          c.put ("renamed ".toList ++ shown source ++ " -> ".toList ++ shown goal ++ ['\n'])
        return true
      let inside (place : Location) : Bool := e == .directory && l.isPrefixOf place
      match ← follow goal with
      | .ok (m, f) => do
        let files ← Act.files
        if inside m then
          fail ("cannot move ".toList ++ shown source ++ " to a subdirectory of itself, ".toList ++ shown goal)
        else if l == m then
          fail (shown source ++ " and ".toList ++ shown goal ++ " are the same file".toList)
        else if keepsTargets o then fail ("not replacing ".toList ++ shown goal)
        else if e == .directory && f != .directory then
          fail ("cannot overwrite non-directory ".toList ++ shown goal ++ " with directory ".toList ++
            shown source)
        else if e != .directory && f == .directory then
          fail ("cannot overwrite directory ".toList ++ shown goal ++ " with non-directory".toList)
        else if f == .directory && !(files.names m).isEmpty then
          fail (moving ++ shown goal ++ ": Directory not empty".toList)
        else go m
      | .error _ =>
        match ← placeFor goal with
        | .error e => fail (moving ++ shown goal ++ ": ".toList ++ e.reason.toList)
        | .ok m =>
          if inside m then
            fail ("cannot move ".toList ++ shown source ++ " to a subdirectory of itself, ".toList ++
              shown goal)
          else if endsWithSlash goal && e != .directory then
            fail (moving ++ shown goal ++ ": Not a directory".toList)
          else go m

/-- Copies one entry, and all below it if it is a directory. The number bounds the depth. -/
def copyEntry (c : Call) (o : Choices) (root : Location) : Nat → Octets → Octets → Act Bool
  | 0, _, _ => return false
  | depth + 1, source, goal => do
    let fail (t : Octets) : Act Bool := do
      c.tell t
      return false
    let deep := ["recursive", "R", "archive"].any o.has
    let told : Act Unit :=
      if o.has "verbose" then c.put (shown source ++ " -> ".toList ++ shown goal ++ ['\n']) else pure ()
    let found ← follow goal
    match ← follow source with
    | .error e => fail (complaint "cannot stat" source e)
    | .ok (l, .directory) => do
      if !deep then fail ("-r not specified; omitting directory ".toList ++ shown source)
      else
        let place : Except SystemError Location ← match found with
          | .ok (m, .directory) => pure (.ok m)
          | .ok _ => pure (.error .fileExists)
          | .error _ => placeFor goal
        match place with
        | .error .fileExists => fail ("cannot overwrite non-directory ".toList ++ shown goal ++
            " with directory ".toList ++ shown source)
        | .error e => fail (complaint "cannot create directory" goal e)
        | .ok m =>
          if root.isPrefixOf m then
            fail ("cannot copy a directory, ".toList ++ shown source ++ ", into itself, ".toList ++ shown goal)
          else do
            match found with
            | .ok _ => pure ()
            | .error _ => do
              change (·.insert m .directory)
              told
            let names := ((← Act.files).names l).mergeSort (fun a b => !(b < a))
            let status ← names.map Octets.ofString |> forAll fun n =>
              copyEntry c o root depth (joined source n) (joined goal n)
            return status = 0
    | .ok (l, e) => do
      let content : List UInt8 × Bool := match e with
        | .file content executable => (content, executable)
        | _ => ([], false)
      match found with
      | .ok (m, .directory) =>
        fail (if m == l then [] else "cannot overwrite directory ".toList ++ shown goal ++
          " with non-directory".toList)
      | .ok (m, f) =>
        if m == l then fail (shown source ++ " and ".toList ++ shown goal ++ " are the same file".toList)
        else if keepsTargets o then return true
        else
          match f with
          | .file _ executable => change (·.insert m (.file content.1 executable))
          | _ => pure ()
          told
          return true
      | .error _ =>
        match ← placeFor goal with
        | .error e => fail (complaint "cannot create regular file" goal e)
        | .ok m =>
          if endsWithSlash goal then fail (complaint "cannot create regular file" goal .notDirectory)
          else
            change (·.insert m (.file content.1 content.2))
            told
            return true

def cp : Utility := fun c => do
  let o ← c.choices (journeyKnobs ++ Knob.letters "bdHlLPRsx" ++ [.flag 'r' "recursive", .flag 'a' "archive",
    ⟨some 'p', none, .nothing⟩, ⟨none, some "preserve", .perhaps⟩]) true
  let j ← journey c o
  if keepsTargets o then
    c.tell ("warning: behavior of -n is non-portable and may change in future; ".toList ++
      "use --update=none instead".toList)
  j.sources |> forAll fun source => do
    let root := match ← follow source with
      | .ok (l, .directory) => l
      | _ => [""]
    copyEntry c o root maxDepth source (j.goal source)

/-- Whether a file can be run after a change of its mode, when it could be before or not. Nobody but the
owner of all files runs programs, for whom it is enough that anyone may run the file. -/
def runs (mode : Octets) (before : Bool) : Bool :=
  let apply (before : Bool) (t : Octets) : Bool :=
    let who := t.takeWhile ("ugoa".toList.contains ·)
    let isAll := who.isEmpty || who.contains 'a' || "ugo".toList.all who.contains
    match t.drop who.length with
    | sign :: rest =>
      let names := rest.contains 'x' || (rest.contains 'X' && before)
      if sign == '+' then before || names
      else if sign == '=' then names || (before && !isAll)
      else before && !(names && isAll)
    | [] => before
  if mode.head?.any Char.isDigit then mode.reverse.take 3 |>.any fun d => d.toNat % 2 = 1
  else (Text.partsAt ',' mode).foldl apply before

def isRefusal (w : Octets) : Bool :=
  match w with
  | '-' :: c :: cs => (c :: cs).all ("rwxXstugo,+-=".toList.contains ·)
  | _ => false

def chmod : Utility := fun c => do
  let refusal := c.arguments.find? isRefusal
  let words := match refusal with
    | some w => c.arguments.erase w
    | none => c.arguments
  let o ← { c with arguments := words }.choices [.flag 'R' "recursive", .flag 'v' "verbose",
    .flag 'c' "changes", .flag 'f' "silent", ⟨none, some "quiet", .nothing⟩] true
  match (match refusal with
    | some w => w :: o.operands
    | none => o.operands) with
  | [] => c.missingOperand
  | [mode] => c.refuse ("missing operand after ".toList ++ Quotation.word mode)
  | mode :: paths => do
    if !isMode mode then c.refuse ("invalid mode: ".toList ++ Quotation.word mode)
    paths |> forAll fun path => do
      match ← follow path with
      | .error e => do
        if !o.has "silent" then c.tell (complaint "cannot access" path e)
        return false
      | .ok (l, _) => do
        change fun t => ⟨t.entries.map fun (m, e) =>
          match e with
          | .file content executable =>
            if m == l || (o.has "recursive" && l.isPrefixOf m) then
              (m, .file content (runs mode executable)) else (m, e)
          | e => (m, e)⟩
        return true

structure Listing where
  /-- Names that begin with a point count too; with the two for the directory and the one above it. -/
  hidden : Bool := false
  dots : Bool := false
  reversed : Bool := false
  deep : Bool := false
  asEntries : Bool := false
  marks : Octets := []
  commas : Bool := false

def Listing.name (g : Listing) (n : Octets) (e : FileEntry) : Octets :=
  let mark : Octets := match e with
    | .directory => if g.marks.isEmpty then [] else ['/']
    | .file _ true => if g.marks.contains '*' then ['*'] else []
    | _ => []
  n ++ mark

def Listing.order {α : Type} (g : Listing) (name : α → Octets) (items : List α) : List α :=
  let sorted := items.mergeSort (fun a b => !(name b < name a))
  if g.reversed then sorted.reverse else sorted

def Listing.text (g : Listing) (names : List Octets) : Octets :=
  if g.commas then (if names.isEmpty then [] else [',', ' '].intercalate names ++ ['\n'])
  else names.flatMap (· ++ ['\n'])

/-- The names in a directory, and those in the directories below it if that is asked for. The number bounds
the depth. -/
def Listing.directory (g : Listing) (files : FileTree) : Nat → Bool → Octets → Location → List Octets
  | 0, _, _, _ => []
  | depth + 1, isTitled, path, l =>
    let names := (files.names l).map Octets.ofString
    let names := if g.hidden then names else names.filter (·.head? != some '.')
    let names := g.order id (if g.dots then ['.'] :: ['.', '.'] :: names else names)
    let entry (n : Octets) : FileEntry :=
      if n == ['.'] || n == ['.', '.'] then .directory else (files.entry? (l ++ [n.toPath])).getD .directory
    let title : Octets := if isTitled then path ++ ":\n".toList else []
    let own := title ++ g.text (names.map fun n => g.name n (entry n))
    let inner := names.filter fun n => g.deep && entry n == .directory && n != ['.'] && n != ['.', '.']
    own :: inner.flatMap fun n => directory g files depth true (joined path n) (l ++ [n.toPath])

def listKnobs : List Knob :=
  [.flag 'a' "all", .flag 'A' "almost-all", .flag 'd' "directory", .flag 'r' "reverse",
    .flag 'R' "recursive", .flag 'F' "classify", ⟨none, some "color", .perhaps⟩] ++
  Knob.letters "1BCHLNUcfgilmnopqstuxkhGQbvXS"

def ls : Utility := fun c => do
  let o ← { c with failure := 2 }.choices listKnobs true
  let all := o.lastOf ["all", "almost-all"]
  let g : Listing :=
    { hidden := all.isSome
      dots := all.any (·.1 == "all")
      reversed := o.has "reverse"
      deep := o.has "recursive" && !o.has "directory"
      asEntries := o.has "directory"
      marks := if o.has "classify" then ['/', '*'] else if o.has "p" then ['/'] else []
      commas := o.has "m" }
  let (files, directory) ← surroundings
  let operands := if o.operands.isEmpty then [['.']] else o.operands
  let found := operands.map fun path => (path, files.follow directory (Octets.toPath path))
  for (path, r) in found do
    match r with
    | .error e => c.tell (complaint "cannot access" path e)
    | .ok _ => pure ()
  let plain := found.filterMap fun (path, r) => match r with
    | .ok (_, e) => if e != .directory || g.asEntries then some (path, e) else none
    | .error _ => none
  let directories := found.filterMap fun (path, r) => match r with
    | .ok (l, .directory) => if g.asEntries then none else some (path, l)
    | _ => none
  let entries := g.text ((g.order (·.1) plain).map fun (path, e) => g.name path e)
  let isTitled := operands.length > 1 || g.deep
  let blocks := (g.order (·.1) directories).flatMap fun (path, l) => g.directory files maxDepth isTitled path l
  let parts := (if plain.isEmpty then [] else [entries]) ++ blocks
  c.put (['\n'].intercalate parts)
  return if found.any (fun (_, r) => match r with
    | .error _ => true
    | .ok _ => false) then 2 else 0

/-- Writes paths without any of the names that stand for other places. -/
def resolved (c : Call) (o : Choices) (needsAll quiet : Bool) : Act Nat :=
  o.operands |> forAll fun path => do
    let (files, directory) ← surroundings
    let found : Except SystemError Location := match files.follow directory path.toPath with
      | .ok (l, _) => .ok l
      | .error .notFound =>
        if needsAll then .error .notFound else files.placeFor directory path.toPath
      | .error e => .error e
    match found with
    | .ok l => do
      c.put (Octets.ofString (FileTree.absolutePath l) ++ ['\n'])
      return true
    | .error e => do
      if !quiet then c.tellOf path e
      return false

def realpath : Utility := fun c => do
  let o ← c.choices [.flag 'e' "canonicalize-existing", .flag 'q' "quiet", .flag 's' "strip",
    .flag 'P' "physical", .flag 'L' "logical"] true
  if o.operands.isEmpty then c.missingOperand
  resolved c o (o.has "canonicalize-existing") (o.has "quiet")

/-- Tells where links lead, of which there are none here, or what paths lead to. -/
def readlink : Utility := fun c => do
  let o ← c.choices [.flag 'f' "canonicalize", .flag 'e' "canonicalize-existing", .flag 'n' "no-newline",
    .flag 'q' "quiet", .flag 's' "silent", .flag 'v' "verbose"] true
  if o.operands.isEmpty then c.missingOperand
  if o.has "canonicalize" || o.has "canonicalize-existing" then
    resolved c o (o.has "canonicalize-existing") (!o.has "verbose")
  else return 1

end SmokeSuite.Entries
