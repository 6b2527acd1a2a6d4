import DocumentCatalog.Pattern.Interval

/-!
Sets of characters as words of octets: which octets may stand at each place of the characters'
encodings.
-/

namespace DocumentCatalog
namespace Pattern
namespace Interval

/-- The common part of two intervals, if there is one. -/
def meet? (x y : Interval) : Option Interval :=
  let first := max x.first y.first
  let last := min x.last y.last
  if first ≤ last then some ⟨first, last⟩ else none

def following : Interval :=
  ⟨0x80, 0xBF⟩

/-- The words of the numbers between two bounds, in order, where so many octets follow the first
one, which is at least `lead`. A word ends in full ranges wherever it can. -/
def wordsBetween (lead : Nat) : Nat → Interval → List (List Interval)
  | 0, x => [[⟨lead + x.first, lead + x.last⟩]]
  | n + 1, x =>
      let block := Nat.pow 64 (n + 1)
      let low := x.first / block
      let high := x.last / block
      let inner (first last : Nat) : List (List Interval) :=
        wordsBetween 0x80 n ⟨first, last⟩
      let under (octet : Nat) (words : List (List Interval)) : List (List Interval) :=
        words.map (single (lead + octet) :: ·)
      let partialHead := x.first % block != 0
      let partialTail := x.last % block != block - 1
      if low = high && (partialHead || partialTail) then
        under low (inner (x.first % block) (x.last % block))
      else
        let first := if partialHead then low + 1 else low
        let last := if partialTail then high - 1 else high
        (if partialHead then under low (inner (x.first % block) (block - 1)) else []) ++
          (if first ≤ last then
            [⟨lead + first, lead + last⟩ :: List.replicate (n + 1) following]
          else []) ++
          (if partialTail then under high (inner 0 (x.last % block)) else [])

/-- The characters whose encodings have equally many octets, with how many follow the first one and
the first octet without its share of the number. Surrogates have no encoding. -/
def lengths : List (Interval × Nat × Nat) :=
  [(⟨0, 0x7F⟩, 0, 0), (⟨0x80, 0x7FF⟩, 1, 0xC0), (⟨0x800, 0xD7FF⟩, 2, 0xE0),
    (⟨0xE000, 0xFFFF⟩, 2, 0xE0), (⟨0x10000, greatest⟩, 3, 0xF0)]

/-- The words of the characters of an interval, in order. -/
def words (x : Interval) : List (List Interval) :=
  lengths.flatMap fun (part, n, lead) =>
    match x.meet? part with
    | none => []
    | some y => wordsBetween lead n y

end Interval

/-- Puts a word under its first element, beside the words that start alike. -/
def putUnder {α : Type} [BEq α] (head : α) (tail : List α) :
    List (α × List (List α)) → List (α × List (List α))
  | [] => [(head, [tail])]
  | (other, tails) :: rest =>
      if other == head then (other, tail :: tails) :: rest
      else (other, tails) :: putUnder head tail rest

/-- The words that are not empty, by their first elements and in order. -/
def byHead {α : Type} [BEq α] (words : List (List α)) : List (α × List (List α)) :=
  words.foldr (fun word groups =>
    match word with
    | [] => groups
    | head :: tail => putUnder head tail groups) []

end Pattern
end DocumentCatalog
