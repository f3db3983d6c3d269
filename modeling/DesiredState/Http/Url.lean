import DesiredState.Text.Digits
import DesiredState.Yaml.Plain
/-!
Addresses. One of a scheme with hosts is read leniently and written in one way: dot segments are
resolved, backslashes are slashes, and what may not stand in a part of it is percent-encoded.
Requests go to `http` and `https` only.
-/

set_option autoImplicit false
set_option relaxedAutoImplicit false

namespace DesiredState.Http

structure Url where
  scheme : List Char
  user : List Char
  host : List Char
  port : Option Nat
  segments : List (List Char)
  query : Option (List Char)
  fragment : Option (List Char)

namespace Url

def percentOctet (n : UInt8) : List Char :=
  let digit (k : Nat) : Char := ((Nat.toDigits 16 k).head?.getD '0').toUpper
  ['%', digit (n.toNat / 16), digit (n.toNat % 16)]

/-- Percent-encodes the characters that a test refuses, and all outside of ASCII. -/
def encode (refused : Char → Bool) (cs : List Char) : List Char :=
  cs.flatMap fun c =>
    if c.toNat < 0x20 || 0x7E < c.toNat || refused c then
      (String.singleton c).toUTF8.toList.flatMap percentOctet
    else [c]

def inFragment (c : Char) : Bool := [' ', '"', '<', '>', '\x60'].contains c
def inPath (c : Char) : Bool := inFragment c || ['#', '?', '^', '\x7b', '\x7d'].contains c
def inQuery (c : Char) : Bool := [' ', '"', '#', '<', '>', '\x27'].contains c
def inUser (c : Char) : Bool :=
  inPath c || ['/', ':', ';', '=', '@', '[', '\\', ']', '|'].contains c

def isSlash (c : Char) : Bool := c == '/' || c == '\\'

def plainDots : List Char → List Char
  | '%' :: '2' :: c :: cs =>
    if c.toLower == 'e' then '.' :: plainDots cs else '%' :: '2' :: c :: plainDots cs
  | c :: cs => c :: plainDots cs
  | [] => []

/-- The segments of a path without dot segments; `before` holds the segments so far in reverse. -/
def resolve (before : List (List Char)) : List (List Char) → List (List Char)
  | [] => before.reverse
  | s :: ss =>
    let last := ss.isEmpty
    if plainDots s == ['.', '.'] then
      resolve (if last then [] :: before.tail else before.tail) ss
    else if plainDots s == ['.'] then resolve (if last then [] :: before else before) ss
    else resolve (encode inPath s :: before) ss

/-- A part of an address of an internet protocol: decimal, or after a zero octal or hexadecimal. -/
def number? : List Char → Option Nat
  | ['0'] => some 0
  | '0' :: c :: cs =>
    if c.toLower == 'x' then if cs.isEmpty then some 0 else Yaml.Plain.inRadix? 16 cs
    else Yaml.Plain.inRadix? 8 (c :: cs)
  | cs => Text.natural? cs

def endsInNumber (labels : List (List Char)) : Bool :=
  match labels.getLast? with
  | some l => l ≠ [] && (l.all Char.isDigit || (number? l).isSome)
  | none => false

def addressValue? (parts : List Nat) : Option Nat :=
  match parts.reverse with
  | [] => none
  | last :: front =>
    if 3 < front.length ∨ front.any (255 < ·) ∨ 256 ^ (4 - front.length) ≤ last then none
    else some (front.reverse.zipIdx.foldl (fun n (p, i) => n + p * 256 ^ (3 - i)) last)

/-- The host of an address: a name in lower case, an address of four octets, or one in brackets. -/
def hostOf? (cs : List Char) : Option (List Char) :=
  let cs := cs.map Char.toLower
  match cs with
  | [] => none
  | '[' :: r =>
    if r.getLast? == some ']' && 2 < r.length
        && r.dropLast.all (fun c => Yaml.Plain.isHexDigit c || c == ':' || c == '.') then some cs
    else none
  | _ =>
    if cs.any (fun c => c.toNat ≤ 0x20 || 0x7E < c.toNat
        || ['#', '%', '/', ':', '<', '>', '?', '@', '[', '\\', ']', '^', '|'].contains c) then none
    else
      let parts := cs.splitOn '.'
      let labels := if parts.getLast? == some [] then parts.dropLast else parts
      if endsInNumber labels then
        (labels.mapM number?).bind addressValue? |>.map fun n =>
          let octet (k : Nat) := Nat.toDigits 10 (n / 256 ^ k % 256)
          octet 3 ++ '.' :: octet 2 ++ '.' :: octet 1 ++ '.' :: octet 0
      else some cs

def usualPorts : List (String × Nat) :=
  [("http", 80), ("https", 443), ("ws", 80), ("wss", 443), ("ftp", 21)]

def usualPort? (scheme : List Char) : Option Nat := usualPorts.lookup (String.ofList scheme)

def portOf? (scheme cs : List Char) : Option (Option Nat) :=
  if cs.isEmpty then some none
  else (Text.natural? cs).bind fun n =>
    if 65535 < n then none else some (if usualPort? scheme = some n then none else some n)

def splitPort (cs : List Char) : List Char × List Char :=
  let back := cs.reverse
  let port := back.takeWhile (fun c => c ≠ ':' ∧ c ≠ ']')
  match back.dropWhile (fun c => c ≠ ':' ∧ c ≠ ']') with
  | ':' :: host => (host.reverse, port.reverse)
  | _ => (cs, [])

def schemeOf? (cs : List Char) : Option (List Char × List Char) :=
  let scheme := cs.takeWhile fun c => c.isAlphanum || c == '+' || c == '-' || c == '.'
  match cs.drop scheme.length, scheme.head?.any Char.isAlpha with
  | ':' :: r, true => some (scheme.map Char.toLower, r)
  | _, _ => none

def divide (cs : List Char) : List Char × Option (List Char) × Option (List Char) :=
  let front := cs.takeWhile fun c => c ≠ '?' ∧ c ≠ '#'
  let r := cs.drop front.length
  let query := if r.head? = some '?' then some ((r.drop 1).takeWhile (· ≠ '#')) else none
  let rest := r.dropWhile (· ≠ '#')
  (front, query, if rest.isEmpty then none else some (rest.drop 1))

def ofRest? (scheme cs : List Char) : Option Url := do
  let (front, query, fragment) := divide (cs.dropWhile isSlash)
  let authority := front.takeWhile (!isSlash ·)
  let back := authority.reverse
  let user := (back.dropWhile (· ≠ '@')).drop 1 |>.reverse
  let (host, port) := splitPort (back.takeWhile (· ≠ '@')).reverse
  return {
    scheme
    user := encode (fun c => inUser c && c ≠ ':') user
    host := ← hostOf? host
    port := ← portOf? scheme port
    segments := resolve [] ((front.drop (authority.length + 1)).splitOnP isSlash)
    query := query.map (encode inQuery)
    fragment := fragment.map (encode inFragment) }

def tail (query fragment : Option (List Char)) : List Char :=
  query.elim [] ('?' :: ·) ++ fragment.elim [] ('#' :: ·)

def chars (u : Url) : List Char :=
  u.scheme ++ [':', '/', '/'] ++ (if u.user.isEmpty then [] else u.user ++ ['@']) ++ u.host
    ++ (u.port.elim [] fun n => ':' :: Nat.toDigits 10 n) ++ u.segments.flatMap ('/' :: ·)
    ++ tail u.query u.fragment

end Url

inductive Address where
  | hosted (url : Url)
  | foreign (chars : List Char)

namespace Address

/-- An address of another scheme; unless it starts with a slash, all of it is one name. -/
def ofForeign (scheme cs : List Char) : List Char :=
  let (front, query, fragment) := Url.divide cs
  let name := match front with
    | '/' :: '/' :: r =>
      let authority := r.takeWhile (· ≠ '/')
      let path := r.drop authority.length
      '/' :: '/' :: Url.encode (fun _ => false) authority
        ++ if path.isEmpty then [] else
          (Url.resolve [] ((path.drop 1).splitOn '/')).flatMap ('/' :: ·)
    | '/' :: r => (Url.resolve [] (r.splitOn '/')).flatMap ('/' :: ·)
    | r => Url.encode (fun _ => false) r
  scheme ++ ':' :: name
    ++ Url.tail (query.map (Url.encode Url.inQuery)) (fragment.map (Url.encode Url.inFragment))

def parse? (s : String) : Option Address := do
  let cs := s.toList.dropWhile (·.toNat ≤ 0x20)
  let cs := (cs.reverse.dropWhile (·.toNat ≤ 0x20)).reverse
  let (scheme, r) ← Url.schemeOf? (cs.filter fun c => c ≠ '\t' ∧ c ≠ '\n' ∧ c ≠ '\x0d')
  if (Url.usualPort? scheme).isSome then (Url.ofRest? scheme r).map .hosted
  else some (.foreign (ofForeign scheme r))

/-- An address to which a request goes: user and password stand elsewhere in the request. -/
def withoutUser : Address → Address
  | .hosted u => .hosted { u with user := [] }
  | a => a

def text : Address → String
  | .hosted u => String.ofList u.chars
  | .foreign cs => String.ofList cs

def isWeb : Address → Bool
  | .hosted u => u.scheme == ['h', 't', 't', 'p'] || u.scheme == ['h', 't', 't', 'p', 's']
  | .foreign _ => false

end Address

end DesiredState.Http
