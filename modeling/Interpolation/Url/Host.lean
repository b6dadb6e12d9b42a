import Interpolation.Url.Percent

/-!
# Hosts

The host of an address is a name or a number of the network.

* `Host.read` reads the host of an address with a special scheme, where names are in lower case
  and a name that ends in a number is an IPv4 address;
* `Host.readOpaque` reads the host of any other address;
* `Host.render` writes a host.

Names are ASCII: a name with other characters is refused, and a part of a name that stands for
others (`xn--`) is kept as it is and not read.
-/

namespace Interpolation.Url

/-- Why a text is no address. -/
inductive Fault where
  | emptyHost
  | badName
  | badPort
  | badIpv4
  | badIpv6
  | badHostCharacter
  /-- There is no scheme, and nothing that the address could be relative to. -/
  | relative
  deriving DecidableEq, Repr

/-- The wording of a fault. -/
def Fault.message : Fault → Text
  | .emptyHost => "empty host".toList
  | .badName => "invalid international domain name".toList
  | .badPort => "invalid port number".toList
  | .badIpv4 => "invalid IPv4 address".toList
  | .badIpv6 => "invalid IPv6 address".toList
  | .badHostCharacter => "invalid domain character".toList
  | .relative => "relative URL without a base".toList

/-- Where an address leads. -/
inductive Host where
  | name (t : Text)
  | ipv4 (address : Nat)
  /-- Eight numbers of 16 bits. -/
  | ipv6 (pieces : List Nat)
  deriving DecidableEq, Repr

namespace Host

/-! ## IPv4 -/

/-- The number that a part of an IPv4 address denotes: decimal, octal after `0` or hexadecimal
after `0x`. -/
def ipv4Number? (t : Text) : Option Nat :=
  let value (base : Nat) (digits : Text) : Option Nat :=
    digits.foldlM (fun n c => (hexDigit? c).bind fun d =>
      if d < base then some (base * n + d) else none) 0
  match t with
  | [] => none
  | '0' :: 'x' :: digits | '0' :: 'X' :: digits => value 16 digits
  | '0' :: d :: digits => value 8 (d :: digits)
  | digits => value 10 digits

/-- The parts of a name, without an empty one at the end. -/
def parts (t : Text) : List Text :=
  let ps := Text.splitOn '.' t
  if ps.length > 1 ∧ ps.getLast? = some [] then ps.dropLast else ps

/-- Whether a name has to be an IPv4 address. -/
def endsInNumber (t : Text) : Bool :=
  match (parts t).getLast? with
  | none => false
  | some last => (!last.isEmpty && last.all Char.isDigit) || (ipv4Number? last).isSome

/-- Reads an IPv4 address: up to four numbers, of which the last one fills the bytes left. -/
def readIpv4 (t : Text) : Except Fault Nat :=
  match (parts t).mapM ipv4Number? with
  | none => .error .badIpv4
  | some numbers =>
    match numbers.reverse with
    | [] => .error .badIpv4
    | last :: before =>
      let room := Nat.pow 256 (4 - before.length)
      if before.length > 3 ∨ before.any (· > 255) ∨ last ≥ room then .error .badIpv4
      else .ok (before.reverse.foldl (fun n b => 256 * n + b) 0 * room + last)

/-! ## IPv6 -/

/-- The number of one byte in decimal, without a zero in front. -/
def byteNumber? (t : Text) : Option Nat :=
  if t.length > 1 ∧ t.head? = some '0' then none
  else (Text.toNat? t).filter (· ≤ 255)

/-- The two pieces that an IPv4 address at the end of an IPv6 address makes. -/
def ipv4Pieces? (t : Text) : Option (List Nat) :=
  match (Text.splitOn '.' t).mapM byteNumber? with
  | some [a, b, c, d] => some [256 * a + b, 256 * c + d]
  | _ => none

/-- Reads the pieces of an IPv6 address from the left. `done` are those read so far and `gap` is
the place of the double colon among them, which counts as a piece of its own. The fuel bounds the
number of pieces. -/
def readPieces : Nat → List Nat → Option Nat → Text → Option (List Nat × Option Nat)
  | 0, _, _, _ => none
  | fuel + 1, done, gap, t =>
    match t with
    | [] => some (done, gap)
    | c :: cs =>
      if done.length = 8 then none
      else if c = ':' then
        if gap.isSome then none
        else readPieces fuel (done ++ [0]) (some (done.length + 1)) cs
      else
        let digits := (t.take 4).takeWhile fun c => (hexDigit? c).isSome
        let value := digits.foldl (fun n c => 16 * n + (hexDigit? c).getD 0) 0
        match t.drop digits.length with
        | [] => some (done ++ [value], gap)
        | '.' :: _ =>
          if digits.isEmpty ∨ done.length > 6 then none
          else (ipv4Pieces? t).map fun pieces => (done ++ pieces, gap)
        | [':'] => none
        | ':' :: rest => readPieces fuel (done ++ [value]) gap rest
        | _ => none

/-- Reads an IPv6 address. -/
def readIpv6 (t : Text) : Except Fault (List Nat) :=
  let read := match t with
    | ':' :: ':' :: rest => readPieces (t.length + 1) [0] (some 1) rest
    | ':' :: _ | [_] | [] => none
    | _ => readPieces (t.length + 1) [] none t
  match read with
  | none => .error .badIpv6
  | some (pieces, none) => if pieces.length = 8 then .ok pieces else .error .badIpv6
  | some (pieces, some gap) =>
    .ok (pieces.take gap ++ List.replicate (8 - pieces.length) 0 ++ pieces.drop gap)

/-- Reads a host in brackets. -/
def readBracketed (t : Text) : Except Fault Host :=
  if t.getLast? = some ']' then (readIpv6 (t.drop 1).dropLast).map .ipv6 else .error .badIpv6

/-! ## Names -/

/-- A character that no name holds. -/
def isForbidden (c : Char) : Bool :=
  c.toNat ≤ 32 || c.toNat ≥ 127
    || ['%', '#', '/', ':', '<', '>', '?', '@', '[', '\\', ']', '^', '|'].elem c

/-- Reads the host of an address with a special scheme. -/
def read (t : Text) : Except Fault Host :=
  if t.head? = some '[' then readBracketed t
  else
    let name := ((percentDecode t).map Char.ofNat).map Char.toLower
    if name.any isForbidden then .error .badName
    else if name.isEmpty then .error .emptyHost
    else if endsInNumber name then (readIpv4 name).map .ipv4
    else .ok (.name name)

/-- Reads the host of an address with another scheme. -/
def readOpaque (t : Text) : Except Fault Host :=
  if t.head? = some '[' then readBracketed t
  else if t.any fun c => c.toNat = 0 || ['\t', '\n', '\r', ' ', '#', '/', ':', '<', '>', '?', '@',
      '[', '\\', ']', '^', '|'].elem c then
    .error .badHostCharacter
  else .ok (.name (percentEncode .controls t))

/-! ## Writing -/

/-- The start and the length of the first longest run of zeros, from a place on. -/
def longestZeros : Nat → List Nat → Nat × Nat
  | _, [] => (0, 0)
  | i, p :: ps =>
    let here := ((p :: ps).takeWhile (· = 0)).length
    let (start, length) := longestZeros (i + 1) ps
    if here ≥ length then (i, here) else (start, length)

/-- Numbers in hexadecimal, a colon between them. -/
def hexPieces (ps : List Nat) : Text :=
  [':'].intercalate (ps.map (Nat.toDigits 16))

/-- Writes an IPv6 address; the first longest run of two zeros or more becomes a double colon. -/
def renderIpv6 (ps : List Nat) : Text :=
  let (start, length) := longestZeros 0 ps
  if length < 2 then hexPieces ps
  else hexPieces (ps.take start) ++ [':', ':'] ++ hexPieces (ps.drop (start + length))

/-- Writes a host. -/
def render : Host → Text
  | .name t => t
  | .ipv4 n =>
    ['.'].intercalate ([n / 16777216, n / 65536 % 256, n / 256 % 256, n % 256].map Text.ofNat)
  | .ipv6 ps => '[' :: renderIpv6 ps ++ [']']

end Host

end Interpolation.Url
