import Roadway.Number.Binary64

/-!
# Speed factors

Every entity is given a factor on target speeds, drawn around one with a standard
deviation and clipped to two deviations. Draws come from a stream of deviates that
is fixed from the start, so equal streams give equal factors. A session may be given any
stream. The executable takes that of a seed from a generator of this library, so its runs
with a positive deviation can be repeated, but their factors are not those that another
generator draws from the same seed.

## Main definitions

* `DeviateStream` — a stream of deviates and how much of it is used up.
* `DeviateStream.sample` — the next speed factor.
* `Deviates.ofSeed` — the deviates of a seed.
-/
namespace Roadway

/-- Standard normal deviates and how many of them are used up. -/
structure DeviateStream (α : Type) where
  draw : Nat → α
  used : Nat

namespace DeviateStream
variable {α : Type} [Scalar α]

def ofDraws (draw : Nat → α) : DeviateStream α := ⟨draw, 0⟩

/-- The next factor for a deviation. Without a positive finite deviation it is one,
and no draw is used up. -/
def sample (stream : DeviateStream α) (deviation : α) : α × DeviateStream α :=
  if deviation ≤ 0.0 then (1.0, stream)
  else if Scalar.isFinite deviation then
    let factor := 1.0 + deviation * stream.draw stream.used
    (Scalar.clamp factor (1.0 - 2.0 * deviation) (1.0 + 2.0 * deviation),
      { stream with used := stream.used + 1 })
  else (1.0, stream)

/-- The factors of a number of successive draws. -/
def samples (stream : DeviateStream α) (deviation : α) : Nat → List α
  | 0 => []
  | n + 1 =>
    let (factor, rest) := stream.sample deviation
    factor :: rest.samples deviation n

end DeviateStream

namespace Deviates

/-- A word whose bits depend on all bits of the argument. -/
def scramble (word : UInt64) : UInt64 :=
  let a := (word ^^^ (word >>> 30)) * 0xbf58476d1ce4e5b9
  let b := (a ^^^ (a >>> 27)) * 0x94d049bb133111eb
  b ^^^ (b >>> 31)

/-- The `n`-th number of a seed, uniform in `(0, 1)`. -/
def uniform (seed n : Nat) : Float :=
  let word := scramble (UInt64.ofNat (seed + (n + 1) * 0x9e3779b97f4a7c15))
  (Float.ofNat (word >>> 12).toNat + 0.5) / 4503599627370496.0

/-- The `n`-th normal deviate of a seed, from two uniform numbers in polar form. -/
def normal (seed n : Nat) : Float :=
  Float.sqrt (-2.0 * Float.log (uniform seed (2 * n))) *
    Float.cos (6.283185307179586 * uniform seed (2 * n + 1))

/-- The deviates of a seed. The generator is this library's own: equal seeds give equal
deviates, which are not those of any other generator. -/
def ofSeed (seed : Nat) : DeviateStream Float := DeviateStream.ofDraws (normal seed)

end Deviates
end Roadway
