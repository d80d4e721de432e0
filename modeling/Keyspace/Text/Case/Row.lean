namespace Keyspace.Text.Case

/-- Every stride-th code point is moved by the same distance, and the tail is written after it. -/
structure Row where
  first : Nat
  last : Nat
  stride : Nat
  target : Nat
  tail : List Nat

def Row.covers (r : Row) (n : Nat) : Bool :=
  r.first ≤ n && n ≤ r.last && (n - r.first) % r.stride == 0

def Row.image (r : Row) (n : Nat) : List Char :=
  Char.ofNat (r.target + (n - r.first)) :: r.tail.map Char.ofNat

/-- The image under the row that covers the character; a character under no row stays. -/
def mapChar (rows : List Row) (c : Char) : List Char :=
  match rows.find? (·.covers c.toNat) with
  | some r => r.image c.toNat
  | none => [c]

theorem mapChar_of_uncovered {rows : List Row} {c : Char}
    (h : ∀ r ∈ rows, r.covers c.toNat = false) : mapChar rows c = [c] := by
  have : rows.find? (·.covers c.toNat) = none := by simpa using h
  simp [mapChar, this]

end Keyspace.Text.Case
