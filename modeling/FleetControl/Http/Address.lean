import FleetControl.Text.Blank
import FleetControl.Text.Hex
import FleetControl.Text.Numeral

/-!
# Addresses

Addresses of version 4 are four numbers, addresses of version 6 are eight groups.  The
longest run of two or more zero groups is written as two colons, and of equal runs the
first one.
-/

namespace FleetControl
namespace Http

open Text

inductive Address where
  | four (a b c d : UInt8)
  | six (groups : List UInt16)
  deriving DecidableEq, Repr

namespace Address

/-!
# Reading
-/

/-- A decimal number up to 255 without leading zeros. -/
def byte? (cs : List Char) : Option UInt8 :=
  match cs with
  | '0' :: _ :: _ => none
  | _ => ((Numeral.digits? cs).filter (· < 256)).map UInt8.ofNat

def four? (cs : List Char) : Option (UInt8 × UInt8 × UInt8 × UInt8) :=
  match pieces '.' cs with
  | [a, b, c, d] => do
      let a ← byte? a
      let b ← byte? b
      let c ← byte? c
      let d ← byte? d
      return (a, b, c, d)
  | _ => none

def pair (hi lo : UInt8) : UInt16 :=
  UInt16.ofNat (256 * hi.toNat + lo.toNat)

/-- One to four hexadecimal digits. -/
def group? (cs : List Char) : Option UInt16 :=
  if cs.isEmpty || 4 < cs.length then none
  else (cs.mapM Hex.value?).map (fun ds => UInt16.ofNat (ds.foldl (fun n d => 16 * n + d) 0))

/-- Groups between colons; where an address may end, four decimal numbers may stand in
the place of its last two groups. -/
def groups? (mayEnd : Bool) : List (List Char) → Option (List UInt16)
  | [] => some []
  | [last] =>
      match group? last, four? last with
      | some g, _ => some [g]
      | none, some (a, b, c, d) => if mayEnd then some [pair a b, pair c d] else none
      | none, none => none
  | piece :: rest => do
      let g ← group? piece
      let more ← groups? mayEnd rest
      return g :: more

def groupsOf? (mayEnd : Bool) (cs : List Char) : Option (List UInt16) :=
  if cs.isEmpty then some [] else groups? mayEnd (pieces ':' cs)

/-- Cut at the first two colons. -/
def cutAtGap : List Char → Option (List Char × List Char)
  | [] => none
  | ':' :: ':' :: rest => some ([], rest)
  | c :: rest => (cutAtGap rest).map (fun (before, after) => (c :: before, after))

def six? (cs : List Char) : Option (List UInt16) :=
  match cutAtGap cs with
  | none => (groupsOf? true cs).filter (fun groups => groups.length = 8)
  | some (before, after) => do
      let head ← groupsOf? false before
      let tail ← groupsOf? true after
      if head.length + tail.length < 8 then
        return head ++ List.replicate (8 - head.length - tail.length) 0 ++ tail
      else none

def isPort (cs : List Char) : Bool :=
  ((Numeral.digits? cs).filter (· < UInt16.size)).isSome

/-- The address in the text of a socket: an address of version 4 or a bracketed one of
version 6, a colon, and a port. -/
def ofSocket? (s : String) : Option Address :=
  match s.toList with
  | '[' :: rest => do
      let (inside, after) ← cutAt ']' rest
      let groups ← six? (inside.takeWhile (· != '%'))
      match after with
      | ':' :: port => if isPort port then return .six groups else none
      | _ => none
  | cs => do
      let (address, port) ← cutAt ':' cs
      let (a, b, c, d) ← four? address
      if isPort port then return .four a b c d else none

/-!
# Writing
-/

def fourText (a b c d : UInt8) : List Char :=
  Numeral.ofNat a.toNat ++ '.' :: (Numeral.ofNat b.toNat ++ '.' ::
    (Numeral.ofNat c.toNat ++ '.' :: Numeral.ofNat d.toNat))

def groupText (g : UInt16) : List Char :=
  Nat.toDigits 16 g.toNat

def colons : List UInt16 → List Char
  | [] => []
  | [g] => groupText g
  | g :: rest => groupText g ++ ':' :: colons rest

/-- How many zero groups stand at the front. -/
def zeros (groups : List UInt16) : Nat :=
  (groups.takeWhile (· = 0)).length

/-- The first of the longest runs of zero groups, as its place and its length. -/
def longestGap (place : Nat) : List UInt16 → Nat × Nat
  | [] => (place, 0)
  | g :: rest =>
      let here := zeros (g :: rest)
      let later := longestGap (place + 1) rest
      if later.2 ≤ here then (place, here) else later

def sixText (groups : List UInt16) : List Char :=
  match groups with
  | [0, 0, 0, 0, 0, 0xffff, g, h] =>
      "::ffff:".toList ++
        fourText (g.toNat / 256).toUInt8 g.toNat.toUInt8 (h.toNat / 256).toUInt8 h.toNat.toUInt8
  | _ =>
      let (place, length) := longestGap 0 groups
      if 1 < length then
        colons (groups.take place) ++ ':' :: ':' :: colons (groups.drop (place + length))
      else colons groups

def text : Address → String
  | .four a b c d => String.ofList (fourText a b c d)
  | .six groups => String.ofList (sixText groups)

end Address
end Http
end FleetControl
