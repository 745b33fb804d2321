import SmokeSuite.Shell.Builtin.Options

namespace SmokeSuite.Shell.Builtin

def allRights : Nat := 511

def maskText (mask : Nat) : Octets :=
  let ds := Nat.toDigits 8 mask
  List.replicate (4 - ds.length) '0' ++ ds

def rightsText (mask : Nat) : Octets :=
  let rights (shift : Nat) : Octets :=
    let left := (allRights - mask) / Nat.pow 2 shift % 8
    (if left / 4 % 2 = 1 then ['r'] else []) ++ (if left / 2 % 2 = 1 then ['w'] else []) ++
      (if left % 2 = 1 then ['x'] else [])
  "u=".toList ++ rights 6 ++ ",g=".toList ++ rights 3 ++ ",o=".toList ++ rights 0

def octalMask (word : Octets) : Run Nat :=
  if word.all fun c => '0' ≤ c && c ≤ '7' then return Octets.digitsValue 8 word % (allRights + 1)
  else Run.fault ("Illegal number: ".toList ++ word)

def whose? (c : Char) : Option Nat :=
  match c with
  | 'u' => some 0o700
  | 'g' => some 0o070
  | 'o' => some 0o007
  | 'a' => some 0o777
  | _ => none

/-- The rights that a letter means, where those of the owner, the group or others may be copied. -/
def right? (rights : Nat) (c : Char) : Option Nat :=
  match c with
  | 'r' => some 0o444
  | 'w' => some 0o222
  | 'x' => some 0o111
  | 'X' => some (if rights &&& 0o111 = 0 then 0 else 0o111)
  | 's' | 't' => some 0
  | 'u' => some (rights / 64 % 8 * 0o111)
  | 'g' => some (rights / 8 % 8 * 0o111)
  | 'o' => some (rights % 8 * 0o111)
  | _ => none

/-- The rights after one clause; there is no answer to a clause that means nothing. The number bounds the
characters. -/
def changed? : Nat → Nat → Nat → Octets → Option Nat
  | 0, _, _, _ => none
  | _ + 1, _, rights, [] => some rights
  | fuel + 1, who, rights, sign :: r =>
    if sign == '+' || sign == '-' || sign == '=' then
      let letters := r.takeWhile fun c => (right? rights c).isSome
      let meant := (letters.map fun c => (right? rights c).getD 0).foldl (· ||| ·) 0 &&& who
      let others := rights &&& (allRights - who)
      let rights := if sign == '+' then rights ||| meant
        else if sign == '-' then rights &&& (allRights - meant) else others ||| meant
      changed? fuel who rights (r.drop letters.length)
    else none

def rightsAfter? (rights : Nat) (word : Octets) : Option Nat :=
  (Text.partsAt ',' word).foldlM (fun rights clause =>
    let letters := clause.takeWhile fun c => (whose? c).isSome
    let who := (letters.map fun c => (whose? c).getD 0).foldl (· ||| ·) 0
    changed? (clause.length + 1) (if letters.isEmpty then allRights else who) rights
      (clause.drop letters.length)) rights

def umask (ws : List Octets) : Run Nat := do
  let (options, words) ← Options.read "S" "" ws
  let mask := (← get).creationMask
  match words with
  | [] => Run.sayLine (if options.isEmpty then maskText mask else rightsText mask)
  | word :: _ =>
    let mask ← if word.head?.any Char.isDigit then octalMask word
      else match rightsAfter? (allRights - mask) word with
        | some rights => pure (allRights - rights)
        | none => Run.fault ("Illegal mode: ".toList ++ word)
    modify fun s => { s with creationMask := mask }
  return 0

/-- What there are limits of: the letter, the name, and the limit if there is one. -/
def limits : List (Char × String × Option Nat) :=
  [('t', "time(seconds)", none), ('f', "file(blocks)", none), ('d', "data(kbytes)", none),
    ('s', "stack(kbytes)", some 8192), ('c', "coredump(blocks)", some 0),
    ('m', "memory(kbytes)", none), ('l', "locked memory(kbytes)", some 8192),
    ('p', "process", none), ('n', "nofiles", some 1048576), ('v', "vmemory(kbytes)", none),
    ('w', "locks", none), ('r', "rtprio", some 0)]

def limitText (limit : Option Nat) : Octets :=
  match limit with
  | some n => Octets.ofNat n
  | none => "unlimited".toList

/-- Shows limits. Setting one changes nothing that a script can see. -/
def ulimit (ws : List Octets) : Run Nat := do
  let (options, words) ← Options.read "HSatfdscmlpnvwr" "" ws
  let letter := ((options.map (·.1)).filter fun c => c != 'H' && c != 'S' && c != 'a').getLast?.getD 'f'
  let isAll := options.any (·.1 == 'a')
  match words with
  | _ :: _ :: _ => Run.faultText "too many arguments"
  | [word] =>
    if isAll then Run.faultText "too many arguments"
    else if word == "unlimited".toList || (Octets.toNat? word).isSome then return 0
    else Run.faultText "bad number"
  | [] => do
    for (c, name, limit) in limits do
      if isAll then
        Run.sayLine (name.toList ++ List.replicate (20 - name.length) ' ' ++ ' ' :: limitText limit)
      else if c == letter then Run.sayLine (limitText limit)
    return 0

def times (_ : List Octets) : Run Nat := do
  let line := "0m0.000000s 0m0.000000s".toList
  Run.sayLine line
  Run.sayLine line
  return 0

end SmokeSuite.Shell.Builtin
