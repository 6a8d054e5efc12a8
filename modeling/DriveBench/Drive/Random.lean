import DriveBench.Numeral.Binary64

/-!
# Pseudo-random numbers

A generator with four words of state, filled from a seed by a linear congruence.
Uniform numbers take the upper 53 bits of one word; a normally distributed
number takes two uniform ones.
-/

namespace DriveBench

structure Generator where
  s₀ : UInt64
  s₁ : UInt64
  s₂ : UInt64
  s₃ : UInt64
  deriving DecidableEq, Repr

namespace Generator

def rotate (x : UInt64) (k : UInt64) : UInt64 := x <<< k ||| x >>> (64 - k)

def scatter (x : UInt64) : UInt64 := x * 6364136223846793005 + 1

def ofSeed (seed : UInt64) : Generator :=
  let a := scatter seed
  let b := scatter a
  let c := scatter b
  ⟨a, b, c, scatter c⟩

def word (g : Generator) : UInt64 := rotate (g.s₁ * 5) 7 * 9

def advance (g : Generator) : Generator :=
  let t := g.s₁ <<< 17
  let s₂ := g.s₂ ^^^ g.s₀
  let s₃ := g.s₃ ^^^ g.s₁
  ⟨g.s₀ ^^^ s₃, g.s₁ ^^^ s₂, s₂ ^^^ t, rotate s₃ 45⟩

def advanceBy : Nat → Generator → Generator
  | 0, g => g
  | n + 1, g => advanceBy n g.advance

def next (g : Generator) : UInt64 × Generator := (g.word, g.advance)

/-- A multiple of `2 ^ -53` from zero up to but not including one. -/
def uniform (g : Generator) : Float × Generator :=
  ((g.word >>> 11).toFloat / ((1 : UInt64) <<< 53).toFloat, g.advance)

/-- The least number whose logarithm is taken. -/
def tiny : Float := 1e-15

def positive (g : Generator) : Float × Generator :=
  let (u, g) := g.uniform
  (if u < tiny then tiny else u, g)

structure Functions where
  log : Float → Float
  sqrt : Float → Float
  cos : Float → Float

def Functions.standard : Functions := ⟨Float.log, Float.sqrt, Float.cos⟩

/-- A number that is normally distributed, from two uniform ones: the first,
kept away from zero, gives the distance from the mean, the second the
direction. -/
def normalWith (f : Functions) (g : Generator) (mean deviation : Float) : Float × Generator :=
  let (u, g) := g.positive
  let (v, g) := g.uniform
  let z := f.sqrt (-2 * f.log u) * f.cos (2 * Binary64.pi * v)
  (mean + deviation * z, g)

def normal (g : Generator) (mean deviation : Float) : Float × Generator :=
  g.normalWith .standard mean deviation

@[simp] theorem positive_snd (g : Generator) : g.positive.2 = g.advance := rfl

end Generator

end DriveBench
