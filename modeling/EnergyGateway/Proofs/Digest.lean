import EnergyGateway.Digest.Sha256

/-!
# The text of a digest

Whatever the message, its digest is written with 64 hexadecimal digits in lower case (`length_hex`,
`isLowerHex_of_mem_hex`).
-/

namespace EnergyGateway.Sha256

/-- A hexadecimal digit in lower case. -/
def isLowerHex (c : Char) : Bool := c.isDigit || ('a' ≤ c && c ≤ 'f')

private theorem isLowerHex_digitChar : ∀ n < 16, isLowerHex (Nat.digitChar n) := by decide

theorem length_hexWord (x : UInt32) : (hexWord x).length = 8 := by
  simp [hexWord]

theorem isLowerHex_of_mem_hexWord {x : UInt32} {c : Char} (h : c ∈ hexWord x) : isLowerHex c := by
  obtain ⟨i, -, rfl⟩ := List.mem_map.1 h
  exact isLowerHex_digitChar _ (Nat.mod_lt _ (by decide))

theorem length_hex (message : List UInt8) : (hex message).length = 64 := by
  simp [hex, length_hexWord]

theorem isLowerHex_of_mem_hex {message : List UInt8} {c : Char} (h : c ∈ (hex message).toList) : isLowerHex c := by
  rw [hex, String.toList_ofList] at h
  obtain ⟨x, -, hx⟩ := List.mem_flatMap.1 h
  exact isLowerHex_of_mem_hexWord hx

example : hex "admin".toUTF8.toList = "8c6976e5b5410415bde908bd4dee15dfb167a9c873fc4bb8a81f6f2ab448a918" := by
  decide +kernel

end EnergyGateway.Sha256
