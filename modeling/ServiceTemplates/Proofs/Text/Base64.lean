import ServiceTemplates.Text.Base64

/-!
# Reading base 64 back

The bits of three bytes are those of four characters, so what was written for a list of bytes
reads back as these bytes (`decode?_encode`): no byte of a secret is lost on the wire.
-/

namespace ServiceTemplates.Text.Base64

/-! ### One character -/

theorem value?_symbol : ∀ n < 64, value? (symbol n) = some n := by decide

/-- A character of the alphabet is never taken for padding. -/
theorem symbol_ne_pad : ∀ n < 64, symbol n ≠ '=' := by decide

/-! ### One group -/

theorem decodeOne?_symbol (a : UInt8) :
    decodeOne? (symbol (a.toNat / 4)) (symbol (a.toNat % 4 * 16)) = some [a] := by
  have ha : a.toNat < 256 := a.toNat_lt_size
  have hbyte : a.toNat / 4 * 4 + a.toNat % 4 * 16 / 16 = a.toNat := by omega
  have hleft : a.toNat % 4 * 16 % 16 = 0 := by omega
  rw [decodeOne?, value?_symbol _ (by omega), value?_symbol _ (by omega)]
  simp only [Option.bind_eq_bind, Option.bind_some, hleft, if_true, hbyte, UInt8.ofNat_toNat]

theorem decodeTwo?_symbol (a b : UInt8) :
    decodeTwo? (symbol (a.toNat / 4)) (symbol (a.toNat % 4 * 16 + b.toNat / 16))
      (symbol (b.toNat % 16 * 4)) = some [a, b] := by
  have ha : a.toNat < 256 := a.toNat_lt_size
  have hb : b.toNat < 256 := b.toNat_lt_size
  have hfirst : a.toNat / 4 * 4 + (a.toNat % 4 * 16 + b.toNat / 16) / 16 = a.toNat := by omega
  have hsecond : (a.toNat % 4 * 16 + b.toNat / 16) % 16 * 16 + b.toNat % 16 * 4 / 4 = b.toNat := by
    omega
  have hleft : b.toNat % 16 * 4 % 4 = 0 := by omega
  rw [decodeTwo?, value?_symbol _ (by omega), value?_symbol _ (by omega),
    value?_symbol _ (by omega)]
  simp only [Option.bind_eq_bind, Option.bind_some, hleft, if_true, hfirst, hsecond,
    UInt8.ofNat_toNat]

theorem decodeThree?_symbol (a b c : UInt8) :
    decodeThree? (symbol (a.toNat / 4)) (symbol (a.toNat % 4 * 16 + b.toNat / 16))
      (symbol (b.toNat % 16 * 4 + c.toNat / 64)) (symbol (c.toNat % 64)) = some [a, b, c] := by
  have ha : a.toNat < 256 := a.toNat_lt_size
  have hb : b.toNat < 256 := b.toNat_lt_size
  have hc : c.toNat < 256 := c.toNat_lt_size
  have hfirst : a.toNat / 4 * 4 + (a.toNat % 4 * 16 + b.toNat / 16) / 16 = a.toNat := by omega
  have hsecond : (a.toNat % 4 * 16 + b.toNat / 16) % 16 * 16 +
      (b.toNat % 16 * 4 + c.toNat / 64) / 4 = b.toNat := by omega
  have hthird : (b.toNat % 16 * 4 + c.toNat / 64) % 4 * 64 + c.toNat % 64 = c.toNat := by omega
  rw [decodeThree?, value?_symbol _ (by omega), value?_symbol _ (by omega),
    value?_symbol _ (by omega), value?_symbol _ (by omega)]
  simp only [Option.bind_eq_bind, Option.bind_some, hfirst, hsecond, hthird, UInt8.ofNat_toNat]

/-! ### Whole texts -/

/-- A group whose last character is no padding is a full one. -/
theorem decode?_full {w x y z : Char} (hz : z ≠ '=') (rest : List Char) :
    decode? (w :: x :: y :: z :: rest) =
      (decodeThree? w x y z).bind fun group => (decode? rest).bind fun bytes =>
        some (group ++ bytes) := by
  rw [decode?]
  · rfl
  · intro _ h
    exact absurd h hz
  · intro h
    exact absurd h hz

theorem decode?_encode (bytes : List UInt8) : decode? (encode bytes) = some bytes := by
  induction bytes using encode.induct with
  | case1 a b c rest ih =>
    have hc : c.toNat % 64 < 64 := by omega
    rw [encode, decode?_full (symbol_ne_pad _ hc), decodeThree?_symbol, ih]
    rfl
  | case2 a b =>
    have hb : symbol (b.toNat % 16 * 4) ≠ '=' := symbol_ne_pad _ (by omega)
    rw [encode, decode?]
    · exact decodeTwo?_symbol a b
    · exact hb
  | case3 a => exact decodeOne?_symbol a
  | case4 => rfl

end ServiceTemplates.Text.Base64
