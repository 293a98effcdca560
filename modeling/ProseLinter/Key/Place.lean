import ProseLinter.Key

/-!
Places: the order in which the members of a set are shown. A set keeps its members in places, of
which there are more than twice as many as members. A number has a place of its own, and where that
is taken goes on to others; other keys have no place of their own and stay in the order in which
they were written.
-/

namespace ProseLinter.Key

def placeModulus : Nat := 2305843009213693951

def infinitePlace : Nat := 314159

/-- The number by which a fraction is placed, without its sign; what is below the line is a power of
two, and two is one again after 61 doublings. -/
def fractionPlace (fraction : Fraction) : Nat :=
  if fraction.bottom = 0 then infinitePlace
  else
    let halvings := Nat.log2 fraction.bottom
    fraction.top.natAbs * twoTo (61 - halvings % 61) % placeModulus

def place? (key : Key) : Option Int :=
  match key.number? with
  | some (.defined fraction) =>
      let place : Int := fractionPlace fraction
      let signed := if fraction.top < 0 then -place else place
      some (if signed = -1 then -2 else signed)
  | _ => none

/-- The least power of two above a number, and at least eight, given that `fuel` doublings lead
there. -/
def roomFrom : Nat → Nat → Nat → Nat
  | 0, room, _ => room
  | fuel + 1, room, least => if least < room then room else roomFrom fuel (2 * room) least

def room (count : Nat) : Nat := if count < 5 then 8 else roomFrom count 8 (2 * count)

/-- The places that are tried one after the other: a few in a row if they are in the room, and then
others further on, which depend on the number less and less. -/
def tried (room : Nat) : Nat → Nat → Nat → List Nat
  | 0, _, _ => []
  | fuel + 1, place, rest =>
      let row := if place + 9 < room then (List.range 10).map (place + ·) else [place]
      let less := rest / 32
      row ++ tried room fuel ((place * 5 + 1 + less) % room) less

def takePlace (room : Nat) (placed : List (Nat × Key)) (member : Key × Int) : List (Nat × Key) :=
  let unsigned := (member.2 % (twoTo 64 : Int)).toNat
  let places := tried room (room + 14) (unsigned % room) unsigned
  match places.find? fun place => (placed.lookup place).isNone with
  | some place => placed ++ [(place, member.1)]
  | none => placed

def inPlaces (members : List Key) : List Key :=
  match members.mapM fun member => member.place?.map (member, ·) with
  | none => members
  | some numbered =>
      let placed := numbered.foldl (takePlace (room members.length)) []
      (placed.mergeSort fun a b => decide (a.1 ≤ b.1)).map (·.2)

end ProseLinter.Key
