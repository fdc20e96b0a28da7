/-!
JSON values and their two written forms: on one line, and indented by two spaces. Strings escape the
quote, the backslash and the control characters below the space, and nothing else.
-/

namespace TaintGrep.Report

inductive Json where
  | string (s : String)
  | number (n : Nat)
  | array (elements : List Json)
  | object (fields : List (String × Json))

namespace Json

def hexDigit (n : Nat) : Char :=
  Nat.digitChar n

def escape (c : Char) : List Char :=
  if c = '"' then ['\\', '"']
  else if c = '\\' then ['\\', '\\']
  else if c = '\n' then ['\\', 'n']
  else if c = '\r' then ['\\', 'r']
  else if c = '\t' then ['\\', 't']
  else if c.toNat = 0x08 then ['\\', 'b']
  else if c.toNat = 0x0C then ['\\', 'f']
  else if c.toNat < 0x20 then
    ['\\', 'u', '0', '0', hexDigit (c.toNat / 16), hexDigit (c.toNat % 16)]
  else [c]

def quoted (s : String) : List Char :=
  '"' :: s.toList.flatMap escape ++ ['"']

def digits (n : Nat) : List Char :=
  Nat.toDigits 10 n

mutual

def compact : Json → List Char
  | .string s => quoted s
  | .number n => digits n
  | .array [] => ['[', ']']
  | .array (v :: vs) => '[' :: compact v ++ compactElements vs
  | .object [] => ['{', '}']
  | .object ((k, v) :: fs) => '{' :: quoted k ++ ':' :: compact v ++ compactFields fs

def compactElements : List Json → List Char
  | [] => [']']
  | v :: vs => ',' :: compact v ++ compactElements vs

def compactFields : List (String × Json) → List Char
  | [] => ['}']
  | (k, v) :: fs => ',' :: quoted k ++ ':' :: compact v ++ compactFields fs

end

def newline (depth : Nat) : List Char :=
  '\n' :: List.replicate (2 * depth) ' '

mutual

def pretty (depth : Nat) : Json → List Char
  | .string s => quoted s
  | .number n => digits n
  | .array [] => ['[', ']']
  | .array (v :: vs) =>
    '[' :: newline (depth + 1) ++ pretty (depth + 1) v ++ prettyElements depth vs
  | .object [] => ['{', '}']
  | .object ((k, v) :: fs) =>
    '{' :: newline (depth + 1) ++ quoted k ++ ':' :: ' ' :: pretty (depth + 1) v ++
      prettyFields depth fs

def prettyElements (depth : Nat) : List Json → List Char
  | [] => newline depth ++ [']']
  | v :: vs => ',' :: newline (depth + 1) ++ pretty (depth + 1) v ++ prettyElements depth vs

def prettyFields (depth : Nat) : List (String × Json) → List Char
  | [] => newline depth ++ ['}']
  | (k, v) :: fs =>
    ',' :: newline (depth + 1) ++ quoted k ++ ':' :: ' ' :: pretty (depth + 1) v ++
      prettyFields depth fs

end

end Json

end TaintGrep.Report
