import RealtimeChat.Number.Decimal
import RealtimeChat.Url.Domain
import RealtimeChat.Url.Percent
/-!
# Hosts

The host of an address is a domain name, an IPv4 address in any of its notations, or an IPv6
address in brackets.

* `Host` -- the hosts, with `Host.text` and `Host.isLoopback`;
* `Host.parse` -- the host that characters stand for.
-/

namespace RealtimeChat.Url

/-! ## 1. Hosts -/

/-- Why a text is no address. -/
inductive Fault where
  | emptyHost
  | invalidDomainName
  | invalidPort
  | invalidIpv4
  | invalidIpv6
  | invalidDomainCharacter
  | relative
deriving DecidableEq, Repr

/-- The fault in words. -/
def Fault.message : Fault → String
  | .emptyHost => "empty host"
  | .invalidDomainName => "invalid international domain name"
  | .invalidPort => "invalid port number"
  | .invalidIpv4 => "invalid IPv4 address"
  | .invalidIpv6 => "invalid IPv6 address"
  | .invalidDomainCharacter => "invalid domain character"
  | .relative => "relative URL without a base"

/-- The host of an address. -/
inductive Host where
  | domain (name : String)
  | ipv4 (address : Nat)
  /-- The eight pieces of 16 bits. -/
  | ipv6 (pieces : List Nat)
deriving DecidableEq, Repr

namespace Host

/-- Whether the host is the machine itself. -/
def isLoopback : Host → Bool
  | domain name => name = "localhost"
  | ipv4 address => address / Nat.pow 2 24 = 127
  | ipv6 pieces => pieces = [0, 0, 0, 0, 0, 0, 0, 1]

/-! ## 2. Domain names -/

/-- The domain name that bytes stand for, in ASCII. -/
def readName (bytes : List UInt8) : Except Fault (List Char) :=
  match (String.fromUTF8? ⟨bytes.toArray⟩).bind (fun s => Domain.toAscii? s.toList) with
  | some name => .ok name
  | none => .error .invalidDomainName

/-! ## 3. IPv4 -/

/-- A number of an IPv4 address: `none` if it is no number, `some none` if it is too large. -/
def ipv4Number (cs : List Char) : Option (Option Nat) :=
  let read (base : Nat) (ds : List Char) : Option (Option Nat) :=
    if ds.all (fun c => ((Decimal.hexValue? c).getD 16) < base) then
      let n := ds.foldl (fun n c => n * base + (Decimal.hexValue? c).getD 0) 0
      some (if n < Nat.pow 2 32 then some n else none)
    else none
  match cs with
  | [] => none
  | '0' :: 'x' :: ds => read 16 ds
  | '0' :: 'X' :: ds => read 16 ds
  | '0' :: d :: ds => read 8 (d :: ds)
  | ds => read 10 ds

/-- The parts between the dots, without an empty one at the end. -/
def ipv4Parts (cs : List Char) : List (List Char) :=
  let parts := Domain.labels cs
  if 1 < parts.length ∧ parts.getLast? = some [] then parts.dropLast else parts

/-- Whether a domain name has to be read as an IPv4 address. -/
def endsInNumber (cs : List Char) : Bool :=
  match (ipv4Parts cs).getLast? with
  | none => false
  | some last => (!last.isEmpty && last.all Char.isDigit) || (ipv4Number last).isSome

/-- An IPv4 address; its last number fills the places that are left. -/
def parseIpv4 (cs : List Char) : Except Fault Host :=
  let parts := ipv4Parts cs
  match parts.mapM (fun p => (ipv4Number p).bind id) with
  | none => .error .invalidIpv4
  | some numbers =>
    let front := numbers.dropLast
    let last := numbers.getLastD 0
    if 4 < parts.length ∨ Nat.pow 2 (32 - 8 * front.length) ≤ last ∨ front.any (255 < ·) then
      .error .invalidIpv4
    else
      .ok (.ipv4 (front.foldl (256 * · + ·) 0 * Nat.pow 256 (4 - front.length) + last))

/-! ## 4. IPv6 -/

/-- One of the four numbers of an IPv4 address inside an IPv6 one. -/
def isOctet (cs : List Char) : Bool :=
  !cs.isEmpty && cs.length ≤ 3 && cs.all Char.isDigit && (cs.length == 1 || cs.head? ≠ some '0') &&
    Decimal.value cs ≤ 255

/-- The pieces on one side of a double colon, colons between them; an IPv4 address may stand for
the last two. -/
def ipv6Side (mayEndInIpv4 : Bool) (cs : List Char) : Option (List Nat) :=
  if cs.isEmpty then some []
  else
    let parts := cs.splitOn ':'
    let hex (p : List Char) : Option Nat :=
      if 1 ≤ p.length ∧ p.length ≤ 4 then
        p.foldlM (fun n c => (Decimal.hexValue? c).map (n * 16 + ·)) 0
      else none
    match parts.getLast? with
    | none => none
    | some last =>
      if mayEndInIpv4 ∧ last.contains '.' then
        match last.splitOn '.' with
        | [a, b, c, d] =>
          if [a, b, c, d].all isOctet then
            (parts.dropLast.mapM hex).map (· ++
              [Decimal.value a * 256 + Decimal.value b, Decimal.value c * 256 + Decimal.value d])
          else none
        | _ => none
      else parts.mapM hex

/-- The characters in front of the first double colon and those behind it. -/
def splitDoubleColon : List Char → Option (List Char × List Char)
  | ':' :: ':' :: rest => some ([], rest)
  | c :: rest => (splitDoubleColon rest).map (fun (a, b) => (c :: a, b))
  | [] => none

/-- An IPv6 address without its brackets; a double colon stands for as many zeros as are missing. -/
def parseIpv6 (cs : List Char) : Except Fault Host :=
  let pieces? := match splitDoubleColon cs with
    | none => (ipv6Side true cs).bind fun ps => if ps.length = 8 then some ps else none
    | some (front, back) =>
      match ipv6Side false front, ipv6Side true back with
      | some a, some b =>
        if a.length + b.length ≤ 7 then
          some (a ++ List.replicate (8 - a.length - b.length) 0 ++ b)
        else none
      | _, _ => none
  match pieces? with
  | some pieces => .ok (.ipv6 pieces)
  | none => .error .invalidIpv6

/-! ## 5. Reading and writing -/

/-- The host of an address of the web. -/
def parse (cs : List Char) : Except Fault Host :=
  match cs with
  | '[' :: rest =>
    if rest.getLast? = some ']' then parseIpv6 rest.dropLast else .error .invalidIpv6
  | cs =>
    match readName (Percent.decode cs) with
    | .error f => .error f
    | .ok name =>
      if name.isEmpty then .error .emptyHost
      else if endsInNumber name then parseIpv4 name
      else .ok (.domain (String.ofList name))

/-- The host of any other address. -/
def parseOpaque (cs : List Char) : Except Fault Host :=
  match cs with
  | '[' :: rest =>
    if rest.getLast? = some ']' then parseIpv6 rest.dropLast else .error .invalidIpv6
  | cs =>
    if cs.any (fun c => "\x00\t\n\r #/:<>?@[\\]^|".toList.contains c) then
      .error .invalidDomainCharacter
    else .ok (.domain (String.ofList (Percent.encode Percent.controls cs)))

/-- Where the longest run of at least two zeros starts, and how long it is; the first of several. -/
def longestZeros (pieces : List Nat) : Nat × Nat :=
  (List.range pieces.length).foldl (fun best i =>
    let n := ((pieces.drop i).takeWhile (· = 0)).length
    if 2 ≤ n ∧ best.2 < n then (i, n) else best) (0, 0)

/-- Pieces with colons between them. -/
def colonList (pieces : List Nat) : List Char := [':'].intercalate (pieces.map (Nat.toDigits 16 ·))

/-- The written form of a host. -/
def text : Host → List Char
  | domain name => name.toList
  | ipv4 n => ['.'].intercalate
      ([n / 16777216, n / 65536 % 256, n / 256 % 256, n % 256].map Decimal.digits)
  | ipv6 pieces =>
    let (i, n) := longestZeros pieces
    let body := if n = 0 then colonList pieces
      else colonList (pieces.take i) ++ [':', ':'] ++ colonList (pieces.drop (i + n))
    '[' :: body ++ [']']

end Host

end RealtimeChat.Url
