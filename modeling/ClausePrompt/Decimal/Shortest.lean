namespace ClausePrompt

-- The number `digits * 10 ^ exponent`.
structure Decimal where
  digits : Nat
  exponent : Int
  deriving DecidableEq, Repr

namespace Decimal

-- Powers with a negative exponent count as one.
def pow2 (k : Int) : Nat := Nat.pow 2 k.toNat

def pow10 (k : Int) : Nat := Nat.pow 10 k.toNat

-- A finite double without its sign, `m * 2 ^ q`. Below a power of two the gap to the next double
-- is half the gap above it.
structure Binary where
  m : Nat
  q : Int
  narrowBelow : Bool

def Binary.ofBits (bits : UInt64) : Binary :=
  let e := ((bits >>> 52) &&& 0x7FF).toNat
  let f := (bits &&& 0xFFFFFFFFFFFFF).toNat
  if e = 0 then ⟨f, -1074, false⟩ else ⟨pow2 52 + f, (e : Int) - 1075, f == 0 && 1 < e⟩

-- Compares `a * 10 ^ i` with `n * 2 ^ j` without rounding.
def compareScaled (a : Nat) (i : Int) (n : Nat) (j : Int) : Ordering :=
  compare (a * pow10 i * pow2 (-j)) (n * pow2 j * pow10 (-i))

-- Whether the nearest double to a decimal is this one. The ends of the interval belong to it when
-- its last bit is zero.
def Binary.readsBack (x : Binary) (d : Decimal) : Bool :=
  let low := if x.narrowBelow then 4 * x.m - 1 else 4 * x.m - 2
  let fromLow := compareScaled d.digits d.exponent low (x.q - 2)
  let fromHigh := compareScaled d.digits d.exponent (4 * x.m + 2) (x.q - 2)
  let inside := x.m % 2 == 0
  (fromLow == .gt || (inside && fromLow == .eq)) && (fromHigh == .lt || (inside && fromHigh == .eq))

-- The least power of ten above the double. The binary logarithm misses it by two steps at most.
def Binary.scale (x : Binary) : Int :=
  let guess := ((x.m.log2 : Int) + x.q) * 30103 / 100000
  let above := fun k => compareScaled 1 k x.m x.q == .gt
  (([-2, -1, 0, 1, 2].map (guess + ·)).find? above).getD (guess + 3)

-- Of the two neighbours of the double on the grid of `10 ^ exponent`, the nearest that reads back.
-- Of two at the same distance it is the even one.
def Binary.onGrid? (x : Binary) (exponent : Int) : Option Decimal :=
  let floor := x.m * pow2 x.q * pow10 (-exponent) / (pow2 (-x.q) * pow10 exponent)
  let below : Decimal := ⟨floor, exponent⟩
  let above : Decimal := ⟨floor + 1, exponent⟩
  match x.readsBack below, x.readsBack above with
  | false, false => none
  | true, false => some below
  | false, true => some above
  | true, true =>
    match compareScaled (2 * floor + 1) exponent (2 * x.m) x.q with
    | .gt => some below
    | .lt => some above
    | .eq => some (if floor % 2 = 0 then below else above)

-- Grids of one digit, of two digits, and so on. Seventeen digits tell any two doubles apart.
def Binary.shortest (x : Binary) : Decimal :=
  let k := x.scale
  ((List.range 17).findSome? fun (n : Nat) => x.onGrid? (k - 1 - n)).getD
    (if 0 ≤ x.q then ⟨x.m * pow2 x.q, 0⟩ else ⟨x.m * Nat.pow 5 (-x.q).toNat, x.q⟩)

-- Zeros are stripped from the end of a digit text, but not its last digit.
def stripZeros : List Char → List Char
  | [] => []
  | c :: cs => match stripZeros cs with
    | [] => if c = '0' then [] else [c]
    | rest => c :: rest

def zeros (n : Nat) : List Char := List.replicate n '0'

-- Positional from `10 ^ -4` up to `10 ^ 16`, with at least one place. Otherwise a signed exponent
-- of at least two digits, and no point when there is one digit only.
def layout (d : Decimal) : List Char :=
  let all := (Nat.repr d.digits).toList
  let digits := match stripZeros all with
    | [] => ['0']
    | rest => rest
  let lead : Int := d.exponent + all.length - 1
  if lead < -4 ∨ 16 ≤ lead then
    let mantissa := match digits with
      | [] => []
      | [c] => [c]
      | c :: rest => c :: '.' :: rest
    let exponent := (Nat.repr lead.natAbs).toList
    mantissa ++ ['e', if lead < 0 then '-' else '+'] ++ zeros (2 - exponent.length) ++ exponent
  else if lead < 0 then ['0', '.'] ++ zeros (lead.natAbs - 1) ++ digits
  else
    let whole := lead.toNat + 1
    if digits.length ≤ whole then digits ++ zeros (whole - digits.length) ++ ['.', '0']
    else digits.take whole ++ '.' :: digits.drop whole

-- A double as the shortest decimal that reads back as it.
def ofFloat (x : Float) : String :=
  let bits := x.toBits
  let sign := if bits >>> 63 = 1 then "-" else ""
  if x.isNaN then "nan"
  else if x.isInf then sign ++ "inf"
  else
    let binary := Binary.ofBits bits
    if binary.m = 0 then sign ++ "0.0" else sign ++ String.ofList (layout binary.shortest)

end Decimal

end ClausePrompt
