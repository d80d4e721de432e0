namespace Keyspace.Text

structure Range where
  first : Nat
  last : Nat

def Range.covers (r : Range) (c : Char) : Bool := r.first ≤ c.toNat && c.toNat ≤ r.last

theorem Range.covers_iff (r : Range) (c : Char) :
    r.covers c = true ↔ r.first ≤ c.toNat ∧ c.toNat ≤ r.last := by
  simp [covers]

abbrev Ranges := List Range

def Ranges.cover (rs : Ranges) (c : Char) : Bool := rs.any (·.covers c)

theorem Ranges.cover_iff (rs : Ranges) (c : Char) :
    Ranges.cover rs c = true ↔ ∃ r ∈ rs, r.first ≤ c.toNat ∧ c.toNat ≤ r.last := by
  simp [cover, Range.covers_iff]

end Keyspace.Text
