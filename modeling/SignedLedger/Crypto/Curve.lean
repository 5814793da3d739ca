import SignedLedger.Binary

-- The twisted Edwards curve -x² + y² = 1 + d·x²·y² over the field of 2^255 - 19
-- elements, with points in extended coordinates: x = X/Z, y = Y/Z, T = X·Y/Z.
-- Addition is complete, so no case is left out for equal or small points.
namespace SignedLedger.Curve
open Binary

def prime : Nat := Nat.pow 2 255 - 19

def order : Nat := Nat.pow 2 252 + 27742317777372353535851937790883648493

def mulMod (a b : Nat) : Nat := a * b % prime

def addMod (a b : Nat) : Nat := (a + b) % prime

def subMod (a b : Nat) : Nat := (a + (prime - b)) % prime

def bits (n : Nat) : List Bool := (List.range 256).map fun i => n.testBit (255 - i)

def powMod (base exponent : Nat) : Nat :=
  (bits exponent).foldl
    (fun acc bit => let square := mulMod acc acc; if bit then mulMod square base else square) 1

def inverse (a : Nat) : Nat := powMod a (prime - 2)

def d : Nat := mulMod (prime - 121665) (inverse 121666)

def twoD : Nat := addMod d d

def sqrtMinusOne : Nat := powMod 2 ((prime - 1) / 4)

structure Point where
  x : Nat
  y : Nat
  z : Nat
  t : Nat

def identity : Point := ⟨0, 1, 1, 0⟩

def base : Point :=
  let x := 15112221349535400772501151409588531511454012693041857206046113283949847762202
  let y := 46316835694926478169428394003475163141307993866256225615783033603165251855960
  ⟨x, y, 1, mulMod x y⟩

def Point.neg (p : Point) : Point := ⟨subMod 0 p.x, p.y, p.z, subMod 0 p.t⟩

def Point.add (p q : Point) : Point :=
  let a := mulMod (subMod p.y p.x) (subMod q.y q.x)
  let b := mulMod (addMod p.y p.x) (addMod q.y q.x)
  let c := mulMod (mulMod p.t twoD) q.t
  let e := mulMod (addMod p.z p.z) q.z
  let f := subMod b a
  let g := subMod e c
  let h := addMod e c
  let i := addMod b a
  ⟨mulMod f g, mulMod h i, mulMod g h, mulMod f i⟩

def Point.double (p : Point) : Point :=
  let a := mulMod p.x p.x
  let b := mulMod p.y p.y
  let c := mulMod (addMod p.z p.z) p.z
  let s := addMod p.x p.y
  let e := subMod (subMod (mulMod s s) a) b
  let g := subMod b a
  let f := subMod g c
  let h := subMod 0 (addMod a b)
  ⟨mulMod e f, mulMod g h, mulMod f g, mulMod e h⟩

def Point.scale (n : Nat) (p : Point) : Point :=
  (bits n).foldl
    (fun acc bit => let twice := acc.double; if bit then twice.add p else twice) identity

def ratioRoot? (u v : Nat) : Option Nat :=
  let v3 := mulMod (mulMod v v) v
  let v7 := mulMod (mulMod v3 v3) v
  let root := mulMod (mulMod u v3) (powMod (mulMod u v7) ((prime - 5) / 8))
  let check := mulMod v (mulMod root root)
  let even (r : Nat) : Nat := if r % 2 = 1 then prime - r else r
  if check = u then some (even root)
  else if check = subMod 0 u then some (even (mulMod root sqrtMinusOne))
  else none

def Point.encode (p : Point) : List UInt8 :=
  let scale := inverse p.z
  let x := mulMod p.x scale
  let y := mulMod p.y scale
  littleEndian 32 (y + (x % 2) * Nat.pow 2 255)

-- A y at or above the prime is reduced, and the sign of x = 0 is ignored.
def Point.decode? (bytes : List UInt8) : Option Point :=
  let n := ofLittleEndian bytes
  let y := n % Nat.pow 2 255 % prime
  let square := mulMod y y
  match ratioRoot? (subMod square 1) (addMod (mulMod d square) 1) with
  | none => none
  | some root =>
    let x := if n / Nat.pow 2 255 % 2 = 1 then subMod 0 root else root
    some ⟨x, y, 1, mulMod x y⟩

end SignedLedger.Curve
