import Tracepoint.Address.Ipv4

/-!
# IPv6 addresses

The text of an address: eight groups in hexadecimal joined by colons, where the longest run of two
or more zero groups, the first of equally long ones, is left out between two colons.  An address
that maps an IPv4 address ends in the dotted text of that address.
-/

set_option autoImplicit false

namespace Tracepoint

/-- An IPv6 address: sixteen octets in network order. -/
structure Ipv6 where
  octets : Bytes
  deriving DecidableEq, Repr

namespace Ipv6

/-- The groups of two octets, as numbers. -/
def groupsOf : Bytes → List Nat
  | high :: low :: rest => (256 * high.toNat + low.toNat) :: groupsOf rest
  | _ => []

/-- The eight groups of an address. -/
def groups (address : Ipv6) : List Nat :=
  groupsOf address.octets

/-- Groups in hexadecimal, without leading zeros, joined by colons. -/
def joined (groups : List Nat) : String :=
  ":".intercalate (groups.map fun g => String.ofList (Nat.toDigits 16 g))

/-- The number of zero groups from position `i` on. -/
def zerosAt (groups : List Nat) (i : Nat) : Nat :=
  ((groups.drop i).takeWhile (· = 0)).length

/-- The length of the longest run of zero groups. -/
def longestRun (groups : List Nat) : Nat :=
  ((List.range groups.length).map (zerosAt groups)).foldl max 0

/-- Where the first run of the longest length starts. -/
def runStart (groups : List Nat) : Nat :=
  (List.range groups.length).findIdx fun i => zerosAt groups i = longestRun groups

/-- The text of groups, without the longest run of zeros if that run has at least two. -/
def compressed (groups : List Nat) : String :=
  let run := longestRun groups
  let start := runStart groups
  if run > 1 then joined (groups.take start) ++ "::" ++ joined (groups.drop (start + run))
  else joined groups

/-- Whether an address maps an IPv4 address. -/
def isMapped (address : Ipv6) : Bool :=
  address.octets.take 12 = [0, 0, 0, 0, 0, 0, 0, 0, 0, 0, 0xFF, 0xFF]

/-- The text of an address. -/
def text (address : Ipv6) : String :=
  if address.isMapped then "::ffff:" ++ Ipv4.dotted (address.octets.drop 12)
  else compressed address.groups

end Ipv6

end Tracepoint
