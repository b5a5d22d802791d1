import DocMarkup.Text.Slice

/-!
Numeric addresses of hosts: four decimal numbers with points between them, eight hexadecimal groups
with colons between them, or an address of a later version with its number in front.
-/

namespace DocMarkup.HostAddress

def isHexDigit (c : Char) : Bool :=
  c.isDigit || ('a' ≤ c && c ≤ 'f') || ('A' ≤ c && c ≤ 'F')

/-! ## Four numbers -/

/-- A number up to 255 without zeros in front. -/
def isOctet (cs : List Char) : Bool :=
  !cs.isEmpty && cs.length ≤ 3 && cs.all Char.isDigit && (cs.head? != some '0' || cs.length == 1) &&
    cs.foldl (fun n c => 10 * n + (c.toNat - '0'.toNat)) 0 ≤ 255

def isFourNumbers (cs : List Char) : Bool :=
  let parts := Text.splitAt '.' cs
  parts.length == 4 && parts.all isOctet

/-! ## Eight groups -/

/-- Up to four hexadecimal digits. -/
def isGroup (cs : List Char) : Bool := !cs.isEmpty && cs.length ≤ 4 && cs.all isHexDigit

/-- The address without the zone after a percent sign. A zone is not empty and has no percent sign
itself. -/
def withoutZone? (cs : List Char) : Option (List Char) :=
  match cs.dropWhile (· != '%') with
  | [] => some cs
  | _ :: zone => if zone.isEmpty || zone.contains '%' then none else some (cs.takeWhile (· != '%'))

/-- The parts of an address between its colons. Four numbers at the end stand for two groups. -/
def groups? (cs : List Char) : Option (List (List Char)) :=
  let parts := Text.splitAt ':' cs
  let last := parts.getLast?.getD []
  if !last.contains '.' then some parts
  else if isFourNumbers last then some (parts.dropLast ++ [['0'], ['0']])
  else none

/-- How many groups stand on one side of a gap. An empty text there means none. -/
def sideLength? (side : List (List Char)) : Option Nat :=
  if side == [[]] then some 0
  else if side.all isGroup then some side.length
  else none

/-- Whether parts are eight groups. Two colons in a row leave a gap for at least one of them. -/
def areGroups : List (List Char) → Bool
  | [] => false
  | first :: rest =>
    match rest.dropLast.takeWhile (!·.isEmpty), rest.dropLast.dropWhile (!·.isEmpty) with
    | _, [] => rest.length == 7 && (first :: rest).all isGroup
    | before, _ =>
      match sideLength? (first :: before), sideLength? (rest.drop (before.length + 1)) with
      | some m, some n => m + n < 8
      | _, _ => false

def isEightGroups (cs : List Char) : Bool :=
  ((withoutZone? cs).bind groups?).any areGroups

/-! ## Later versions -/

/-- The letter `v`, the number of the version, a point, and some text. -/
def isVersioned : List Char → Bool
  | 'v' :: cs =>
    match cs.takeWhile isHexDigit, cs.dropWhile isHexDigit with
    | _ :: _, '.' :: _ :: _ => true
    | _, _ => false
  | _ => false

end DocMarkup.HostAddress
