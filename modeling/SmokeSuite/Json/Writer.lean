import SmokeSuite.Json.Basic
import SmokeSuite.Text.Quoted

namespace SmokeSuite.Json

def fourDigits (n : Nat) : List Char :=
  let ds := Text.hexDigits n
  List.replicate (4 - ds.length) '0' ++ ds

def escapedChar (c : Char) : List Char :=
  match c with
  | '"' => ['\\', '"']
  | '\\' => ['\\', '\\']
  | '\n' => ['\\', 'n']
  | '\r' => ['\\', 'r']
  | '\t' => ['\\', 't']
  | '\x08' => ['\\', 'b']
  | '\x0c' => ['\\', 'f']
  | c => if c.toNat < 0x20 then '\\' :: 'u' :: fourDigits c.toNat else [c]

def stringText (s : String) : List Char := '"' :: s.toList.flatMap escapedChar ++ ['"']

mutual

def compact : Json → List Char
  | .null => ['n', 'u', 'l', 'l']
  | .bool true => ['t', 'r', 'u', 'e']
  | .bool false => ['f', 'a', 'l', 's', 'e']
  | .number d => d.positional
  | .string s => stringText s
  | .array [] => ['[', ']']
  | .array (j :: js) => '[' :: compact j ++ compactItems js ++ [']']
  | .object [] => ['\x7b', '\x7d']
  | .object ((k, j) :: ms) =>
    '\x7b' :: stringText k ++ ':' :: compact j ++ compactMembers ms ++ ['\x7d']

def compactItems : List Json → List Char
  | [] => []
  | j :: js => ',' :: compact j ++ compactItems js

def compactMembers : List (String × Json) → List Char
  | [] => []
  | (k, j) :: ms => ',' :: stringText k ++ ':' :: compact j ++ compactMembers ms

end

def newline (depth : Nat) : List Char := '\n' :: List.replicate (2 * depth) ' '

mutual

/-- The long form of a value that stands inside `depth` others. -/
def pretty (depth : Nat) : Json → List Char
  | .null => ['n', 'u', 'l', 'l']
  | .bool true => ['t', 'r', 'u', 'e']
  | .bool false => ['f', 'a', 'l', 's', 'e']
  | .number d => d.positional
  | .string s => stringText s
  | .array [] => ['[', ']']
  | .array (j :: js) =>
    '[' :: newline (depth + 1) ++ pretty (depth + 1) j ++ prettyItems (depth + 1) js ++
      newline depth ++ [']']
  | .object [] => ['\x7b', '\x7d']
  | .object ((k, j) :: ms) =>
    '\x7b' :: newline (depth + 1) ++ stringText k ++ ':' :: ' ' :: pretty (depth + 1) j ++
      prettyMembers (depth + 1) ms ++ newline depth ++ ['\x7d']

def prettyItems (depth : Nat) : List Json → List Char
  | [] => []
  | j :: js => ',' :: newline depth ++ pretty depth j ++ prettyItems depth js

def prettyMembers (depth : Nat) : List (String × Json) → List Char
  | [] => []
  | (k, j) :: ms =>
    ',' :: newline depth ++ stringText k ++ ':' :: ' ' :: pretty depth j ++ prettyMembers depth ms

end

def toPretty (j : Json) : String := String.ofList (pretty 0 j)

def toCompact (j : Json) : String := String.ofList (compact j)

end SmokeSuite.Json
