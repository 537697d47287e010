import Crosscheck.Text.Utf8

/-!
# Bytes one by one

Programs that know no encoding look at each byte on its own. `octets` writes bytes as characters
with the same numbers, so that such a program can be stated over characters; `ofOctets` is its
inverse.
-/

namespace Crosscheck

/-- Characters that stand for bytes. -/
abbrev Octets := List Char

namespace Text

def octet (b : UInt8) : Char := Char.ofNat b.toNat

def octets (bs : Bytes) : Octets := bs.map octet

def ofOctets (cs : Octets) : Bytes := cs.map fun c => c.toNat.toUInt8

theorem toNat_octet (b : UInt8) : (octet b).toNat = b.toNat := by
  have h : b.toNat < 256 := b.toNat_lt
  exact toNat_ofNat (.inl (by omega))

theorem ofOctets_octets (bs : Bytes) : ofOctets (octets bs) = bs := by
  unfold ofOctets octets
  rw [List.map_map]
  exact (List.map_congr_left fun b _ => by
    simp [toNat_octet]).trans (List.map_id bs)

/-- A text as octets of its encoding. -/
def octetsOf (s : String) : Octets := octets (utf8 s)

end Text

end Crosscheck
