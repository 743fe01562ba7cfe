import Flowchart.Yaml.Value

/-!
# The order of sets

A set of numbers lists them by slots. The slot of a number follows from its residue, and a slot that
is taken sends on to another one. Other sets are listed as they were written.
-/

namespace Flowchart.Yaml

def residueModulus : Nat := (1 <<< 61) - 1

/-- The residue of a fraction whose denominator is a power of two. Halving is a turn of 61 bits, so
dividing by `2 ^ k` is multiplying by `2 ^ (61 - k)`. -/
def fractionResidue (num : Int) (den : Nat) : Int :=
  let turn := (61 - den.log2 % 61) % 61
  let residue : Int := ((num.natAbs % residueModulus) <<< turn % residueModulus : Nat)
  if num < 0 then -residue else residue

/-- The residue of a number, where minus one is reserved. -/
def residue? (value : Value) : Option Int :=
  match value, value.number? with
  | _, some (num, den) =>
    let residue := fractionResidue num den
    some (if residue = -1 then -2 else residue)
  | .float x, none =>
    if x.isInfinite then some (if x.negative then -314159 else 314159) else none
  | _, none => none

/-- Eight slots hold four items; more items have a power of two above twice their number. -/
def slotCount (items : Nat) : Nat := if items < 5 then 8 else 1 <<< ((2 * items).log2 + 1)

/-- The first free slot of nine behind a slot, or of it alone near the end. -/
def freeNear? (slots : Array (Option Ref)) (i : Nat) : Option Nat :=
  let near := if i + 9 < slots.size then 10 else 1
  ((List.range near).map (i + ·)).find? fun k => slots[k]?.any Option.isNone

/-- Goes on from slot to slot. `rest` are the bits of the residue that still tell where to. -/
def freeSlot? (slots : Array (Option Ref)) : Nat → Nat → Nat → Option Nat
  | 0, _, _ => none
  | fuel + 1, i, rest =>
    match freeNear? slots i with
    | some k => some k
    | none =>
      let rest := rest >>> 5
      freeSlot? slots fuel ((5 * i + 1 + rest) % slots.size) rest

def insertSlot (slots : Array (Option Ref)) (item : Ref × Int) : Array (Option Ref) :=
  let word := (item.2 % (1 <<< 64 : Nat)).toNat
  match freeSlot? slots (slots.size + 14) (word % slots.size) word with
  | some k => slots.setIfInBounds k (some item.1)
  | none => slots

def setOrder (valueOf : Ref → Option Value) (items : List Ref) : List Ref :=
  match items.mapM fun ref => ((valueOf ref).bind residue?).map fun r => (ref, r) with
  | none => items
  | some numbers =>
    let slots := numbers.foldl insertSlot (Array.replicate (slotCount items.length) none)
    slots.toList.filterMap id

end Flowchart.Yaml
