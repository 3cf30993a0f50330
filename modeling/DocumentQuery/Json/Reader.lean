import DocumentQuery.Json.Number
import DocumentQuery.Text.Ranges

/-!
# Reading JSON text

`Json.read?` reads one JSON text. Of two members of an object with one key the later one counts. Containers
nest up to a limit, and an escaped surrogate needs its partner.
-/

namespace DocumentQuery.Json

def isBlank (c : Char) : Bool := c = ' ' || c = '\n' || c = '\t' || c = '\r'

def skipBlanks (text : List Char) : List Char := text.dropWhile isBlank

/-- How deep containers may nest, counting one more than the deepest. -/
def depthLimit : Nat := 128

/-- The value of four hexadecimal digits. -/
def hex4? (digits : List Char) : Option Nat :=
  if digits.all fun c => c.isDigit || ('a' ≤ c && c ≤ 'f') || ('A' ≤ c && c ≤ 'F') then
    some (Text.hexValue digits)
  else none

/-- The character of an escape letter. -/
def escaped? : Char → Option Char
  | '"' => some '"'
  | '\\' => some '\\'
  | '/' => some '/'
  | 'b' => some '\x08'
  | 'f' => some '\x0c'
  | 'n' => some '\n'
  | 'r' => some '\r'
  | 't' => some '\t'
  | _ => none

def isHighSurrogate (n : Nat) : Bool := 0xd800 ≤ n && n < 0xdc00

def isLowSurrogate (n : Nat) : Bool := 0xdc00 ≤ n && n < 0xe000

/-- The rest of a string up to its closing quote; `read` holds its characters so far, last one first. -/
def readString (read : List Char) : List Char → Option (String × List Char)
  | [] => none
  | '"' :: rest => some (String.ofList read.reverse, rest)
  | '\\' :: 'u' :: a :: b :: c :: d :: rest =>
    match hex4? [a, b, c, d] with
    | none => none
    | some n =>
      if isHighSurrogate n then
        match rest with
        | '\\' :: 'u' :: a :: b :: c :: d :: rest =>
          match hex4? [a, b, c, d] with
          | none => none
          | some m =>
            if isLowSurrogate m then
              readString (Char.ofNat (0x10000 + (n - 0xd800) * 0x400 + (m - 0xdc00)) :: read) rest
            else none
        | _ => none
      else if isLowSurrogate n then none
      else readString (Char.ofNat n :: read) rest
  | '\\' :: c :: rest =>
    match escaped? c with
    | some e => readString (e :: read) rest
    | none => none
  | c :: rest => if c.toNat < 0x20 ∨ c = '\\' then none else readString (c :: read) rest

mutual

/-- A value, after blanks. -/
def readValue (fuel depth : Nat) (text : List Char) : Option (Json × List Char) :=
  match fuel with
  | 0 => none
  | fuel + 1 =>
    match skipBlanks text with
    | 'n' :: 'u' :: 'l' :: 'l' :: rest => some (null, rest)
    | 't' :: 'r' :: 'u' :: 'e' :: rest => some (bool true, rest)
    | 'f' :: 'a' :: 'l' :: 's' :: 'e' :: rest => some (bool false, rest)
    | '"' :: rest => (readString [] rest).map fun (s, rest) => (string s, rest)
    | '[' :: rest =>
      if depth ≤ 1 then none
      else
        match skipBlanks rest with
        | ']' :: rest => some (array [], rest)
        | start => (readItems fuel (depth - 1) start).map fun (items, rest) => (array items, rest)
    | '{' :: rest =>
      if depth ≤ 1 then none
      else
        match skipBlanks rest with
        | '}' :: rest => some (object [], rest)
        | start => (readFields fuel (depth - 1) [] start).map fun (fields, rest) => (object fields, rest)
    | start => (JsonNumber.read start).map fun (n, rest) => (number n, rest)

/-- The items of an array and its closing bracket. -/
def readItems (fuel depth : Nat) (text : List Char) : Option (List Json × List Char) :=
  match fuel with
  | 0 => none
  | fuel + 1 =>
    match readValue fuel depth text with
    | none => none
    | some (j, rest) =>
      match skipBlanks rest with
      | ']' :: rest => some ([j], rest)
      | ',' :: rest => (readItems fuel depth rest).map fun (items, rest) => (j :: items, rest)
      | _ => none

/-- The members of an object and its closing brace, added to those already read. -/
def readFields (fuel depth : Nat) (fields : List (String × Json)) (text : List Char) :
    Option (List (String × Json) × List Char) :=
  match fuel with
  | 0 => none
  | fuel + 1 =>
    match skipBlanks text with
    | '"' :: rest =>
      match readString [] rest with
      | none => none
      | some (key, rest) =>
        match skipBlanks rest with
        | ':' :: rest =>
          match readValue fuel depth rest with
          | none => none
          | some (j, rest) =>
            let fields := Keyed.insert key j fields
            match skipBlanks rest with
            | '}' :: rest => some (fields, rest)
            | ',' :: rest => readFields fuel depth fields rest
            | _ => none
        | _ => none
    | _ => none

end

/-- The tree of a JSON text. -/
def read? (text : String) : Option Json :=
  let cs := text.toList
  match readValue (2 * cs.length + 2) depthLimit cs with
  | some (j, rest) => if skipBlanks rest = [] then some j else none
  | none => none

end DocumentQuery.Json
