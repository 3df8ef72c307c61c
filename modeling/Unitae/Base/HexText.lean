import Unitae.Base.IpText

/-!
# Bytes written in hexadecimal

Two lower-case digits a byte. A reader takes pairs of digits until something else comes; what was written
is read back (`fromHex_toHex`).
-/

/-- `[high, low]`. -/
def hexPair (byte : UInt8) : List Char := [Nat.digitChar (byte.toNat / 16), Nat.digitChar (byte.toNat % 16)]

/-- `buffer.toString('hex')`. -/
def toHex (bytes : List UInt8) : List Char := bytes.flatMap hexPair

/-- `Buffer.from(text, 'hex')`. -/
def fromHex : List Char → List UInt8
  | high :: low :: text =>
    match hexDigit high, hexDigit low with
    | some a, some b => UInt8.ofNat (16 * a + b) :: fromHex text
    | _, _ => []
  | _ => []

theorem hexDigit_digitChar {n : Nat} (h : n < 16) : hexDigit (Nat.digitChar n) = some n := by
  have hall : ∀ n : Fin 16, hexDigit (Nat.digitChar n.val) = some n.val := by decide
  exact hall ⟨n, h⟩

/-- **Bytes are read back.** -/
theorem fromHex_toHex (bytes : List UInt8) : fromHex (toHex bytes) = bytes := by
  induction bytes with
  | nil => rfl
  | cons byte bytes ih =>
    have hlt : byte.toNat < 256 := byte.toNat_lt
    have hhigh : hexDigit (Nat.digitChar (byte.toNat / 16)) = some (byte.toNat / 16) :=
      hexDigit_digitChar (by omega)
    have hlow : hexDigit (Nat.digitChar (byte.toNat % 16)) = some (byte.toNat % 16) :=
      hexDigit_digitChar (by omega)
    have hbyte : UInt8.ofNat (16 * (byte.toNat / 16) + byte.toNat % 16) = byte := by
      rw [Nat.div_add_mod]
      exact UInt8.ofNat_toNat
    show fromHex (Nat.digitChar (byte.toNat / 16) :: Nat.digitChar (byte.toNat % 16) :: toHex bytes) = _
    rw [fromHex, hhigh, hlow]
    dsimp only
    rw [hbyte, ih]

/-- Nothing is written but digits. -/
theorem hexDigit_of_mem_toHex {bytes : List UInt8} {c : Char} (h : c ∈ toHex bytes) : (hexDigit c).isSome = true := by
  obtain ⟨byte, _, hc⟩ := List.mem_flatMap.mp h
  have hlt : byte.toNat < 256 := byte.toNat_lt
  rcases List.mem_cons.mp hc with rfl | hc
  · rw [hexDigit_digitChar (by omega)]
    rfl
  · rw [List.mem_singleton.mp hc, hexDigit_digitChar (by omega)]
    rfl

theorem toHex_ne_nil {bytes : List UInt8} (h : bytes ≠ []) : toHex bytes ≠ [] := by
  obtain ⟨byte, rest, rfl⟩ := List.exists_cons_of_ne_nil h
  exact List.cons_ne_nil _ _
