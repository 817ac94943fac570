import Signatory.Group.Weierstrass

/-!
# The Pedersen hash

Two numbers are hashed to the first coordinate of a sum of multiples of five fixed
points of the STARK curve, each number split at bit 248. A list is hashed by folding,
its length last.
-/

namespace Signatory.Pedersen

/-- The point that every sum starts from. -/
def shift : Point :=
  .affine 2089986280348253421170679821480865132823066470938446095505822317253594081284
    1713931329540660377023406109199410414810705867260802078187082345529207694986

/-- The points for the low and high part of the first number, then of the second. -/
def bases : List Point :=
  [.affine 996781205833008774514500082376783249102396023663454813447423147977397232763
     1668503676786377725805489344771023921079126552019160156920634619255970485781,
   .affine 2251563274489750535117886426533222435294046428347329203627021249169616184184
     1798716007562728905295480679789526322175868328062420237419143593021674992973,
   .affine 2138414695194151160943305727036575959195309218611738193261179310511854807447
     113410276730064486255102093846540133784865286929052426931474106396135072156,
   .affine 2379962749567351885752724891227938183011949129833673362440656643086021394946
     776496453633298175483985398648758586525933812536653089401905292063708816422]

/-- The two parts of a number, split at bit 248. -/
def parts (n : Nat) : List Nat :=
  [n % (1 <<< 248), n >>> 248]

/-- The hash of two numbers. -/
def hash (a b : Nat) : Nat :=
  match Weierstrass.stark.combine ((1, shift) :: (parts a ++ parts b).zip bases) with
  | .zero => 0
  | .affine x _ => x

end Signatory.Pedersen
