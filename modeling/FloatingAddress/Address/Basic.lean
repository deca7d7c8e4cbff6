import FloatingAddress.Text.Basic

/-!
# Internet addresses

An address of version 4 is four octets, one of version 6 eight groups of 16 bits and,
for a link-local address, the scope that it is valid in. Two addresses are equal if they
have the same version, the same octets or groups and the same scope; in particular an
address of version 4 never equals the address of version 6 that maps it.
-/

namespace FloatingAddress

/-- An address of version 4. -/
structure V4 where
  /-- The octets, the most significant one first. -/
  octets : List (Fin 0x100)
  length_eq : octets.length = 4
deriving DecidableEq

/-- The name of a scope: not empty, and without the two marks that end or repeat it. -/
structure Scope where
  /-- The name as it was written. -/
  name : Text
  ne_nil : name ≠ []
  /-- A percent sign would begin a second scope. -/
  no_percent : ('%' : CodePoint) ∉ name
  /-- A slash would begin the length of a network. -/
  no_slash : ('/' : CodePoint) ∉ name
deriving DecidableEq

/-- An address of version 6. -/
structure V6 where
  /-- The groups of 16 bits, the most significant one first. -/
  groups : List (Fin 0x10000)
  length_eq : groups.length = 8
  /-- The scope, kept as it was written. -/
  scope : Option Scope
deriving DecidableEq

/-- The group of 16 bits that a double colon stands for. -/
def V6.zeroGroup : Fin 0x10000 := ⟨0, by decide⟩

/-- An internet address. -/
inductive Address
  | v4 (a : V4)
  | v6 (a : V6)
deriving DecidableEq

/-- The lowest `count` digits of a number in a base, the most significant one first. -/
def baseDigits (base : Nat) (h : 0 < base) : Nat → Nat → List (Fin base)
  | 0, _ => []
  | count + 1, n => baseDigits base h count (n / base) ++ [⟨n % base, Nat.mod_lt n h⟩]

theorem length_baseDigits (base : Nat) (h : 0 < base) (count n : Nat) :
    (baseDigits base h count n).length = count := by
  induction count generalizing n with
  | zero => rfl
  | succ count ih => simp [baseDigits, ih]

/-- The address of version 4 with a 32-bit number. -/
def V4.ofNat (n : Nat) : V4 :=
  ⟨baseDigits 0x100 (by decide) 4 n, length_baseDigits _ _ _ _⟩

/-- The address of version 6 with a 128-bit number, without a scope. -/
def V6.ofNat (n : Nat) : V6 :=
  ⟨baseDigits 0x10000 (by decide) 8 n, length_baseDigits _ _ _ _, none⟩

/-- The address `0.0.0.0` names no host. -/
def V4.IsUnspecified (a : V4) : Prop :=
  ∀ octet ∈ a.octets, octet = 0

instance (a : V4) : Decidable a.IsUnspecified :=
  inferInstanceAs (Decidable (∀ octet ∈ a.octets, octet = 0))

namespace Address

/-- The version of the protocol that an address belongs to. -/
def version : Address → Nat
  | v4 _ => 4
  | v6 _ => 6

/-- The address with a number: version 4 for 32 bits, version 6 for 128 bits. -/
def ofInt? (n : Int) : Option Address :=
  if n < 0 then none
  else if n < 0x100000000 then some (v4 (V4.ofNat n.toNat))
  else if n < 0x100000000000000000000000000000000 then some (v6 (V6.ofNat n.toNat))
  else none

end Address
end FloatingAddress
