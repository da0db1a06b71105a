import AffinityGate.Text.Utf8

/-!
# Base 64

Three bytes are written as four digits; a last group of one or two bytes as two or three digits,
without padding.  `decode?_encode` reads the bytes back and `encode_injective` follows, so that
different byte strings have different texts.
-/

namespace AffinityGate.Base64

/-- The sixty-four digits of an alphabet that ends in the two given characters. -/
def alphabet (c62 c63 : Char) : List Char :=
  "ABCDEFGHIJKLMNOPQRSTUVWXYZabcdefghijklmnopqrstuvwxyz0123456789".toList ++ [c62, c63]

/-- The alphabet whose texts can stand in URLs. -/
def urlSafe : List Char := alphabet '-' '_'

/-- The alphabet of PEM sections. -/
def standard : List Char := alphabet '+' '/'

/-- The digit of a value below sixty-four. -/
def digit (n : Nat) : Char :=
  urlSafe.getD n '_'

/-- The URL-safe text of a byte string. -/
def encode : Bytes → List Char
  | [] => []
  | [a] => [digit (a.toNat / 4), digit (a.toNat % 4 * 16)]
  | [a, b] =>
    [digit (a.toNat / 4), digit (a.toNat % 4 * 16 + b.toNat / 16), digit (b.toNat % 16 * 4)]
  | a :: b :: c :: rest =>
    digit (a.toNat / 4) :: digit (a.toNat % 4 * 16 + b.toNat / 16)
      :: digit (b.toNat % 16 * 4 + c.toNat / 64) :: digit (c.toNat % 64) :: encode rest

/-- The value of a digit. -/
def value? (digits : List Char) (c : Char) : Option Nat :=
  digits.idxOf? c

/-- The bytes of digit values, four at a time; spare bits of a short last group must be zero. -/
def ofValues? : List Nat → Option Bytes
  | [] => some []
  | [_] => none
  | [p, q] => if q % 16 = 0 then some [UInt8.ofNat (p * 4 + q / 16)] else none
  | [p, q, r] =>
    if r % 4 = 0 then
      some [UInt8.ofNat (p * 4 + q / 16), UInt8.ofNat (q % 16 * 16 + r / 4)]
    else none
  | p :: q :: r :: s :: rest =>
    (ofValues? rest).map fun tail =>
      UInt8.ofNat (p * 4 + q / 16) :: UInt8.ofNat (q % 16 * 16 + r / 4)
        :: UInt8.ofNat (r % 4 * 64 + s) :: tail

/-- The bytes of an unpadded URL-safe text. -/
def decode? (cs : List Char) : Option Bytes :=
  (cs.mapM (value? urlSafe)).bind ofValues?

theorem value?_digit : ∀ n : Fin 64, value? urlSafe (digit n) = some n.val := by
  decide +kernel

theorem value?_digit_of_lt {n : Nat} (h : n < 64) : value? urlSafe (digit n) = some n :=
  value?_digit ⟨n, h⟩

theorem ofNat_eq_of_toNat {n : Nat} {b : UInt8} (h : n = b.toNat) : UInt8.ofNat n = b := by
  rw [h, UInt8.ofNat_toNat]

theorem decode?_encode (bs : Bytes) : decode? (encode bs) = some bs := by
  fun_induction encode bs with
  | case1 => rfl
  | case2 a =>
    have ha := a.toNat_lt
    have h1 : UInt8.ofNat (a.toNat / 4 * 4 + a.toNat % 4 * 16 / 16) = a :=
      ofNat_eq_of_toNat (by omega)
    have h2 : a.toNat % 4 * 16 % 16 = 0 := by omega
    simp only [decode?, List.mapM_cons, List.mapM_nil, Option.pure_def, Option.bind_eq_bind,
      Option.bind_some, value?_digit_of_lt (show a.toNat / 4 < 64 by omega),
      value?_digit_of_lt (show a.toNat % 4 * 16 < 64 by omega), ofValues?, h1, h2, if_true]
  | case3 a b =>
    have ha := a.toNat_lt
    have hb := b.toNat_lt
    have h1 : UInt8.ofNat (a.toNat / 4 * 4 + (a.toNat % 4 * 16 + b.toNat / 16) / 16) = a :=
      ofNat_eq_of_toNat (by omega)
    have h2 : UInt8.ofNat ((a.toNat % 4 * 16 + b.toNat / 16) % 16 * 16 + b.toNat % 16 * 4 / 4) = b :=
      ofNat_eq_of_toNat (by omega)
    have h3 : b.toNat % 16 * 4 % 4 = 0 := by omega
    simp only [decode?, List.mapM_cons, List.mapM_nil, Option.pure_def, Option.bind_eq_bind,
      Option.bind_some, value?_digit_of_lt (show a.toNat / 4 < 64 by omega),
      value?_digit_of_lt (show a.toNat % 4 * 16 + b.toNat / 16 < 64 by omega),
      value?_digit_of_lt (show b.toNat % 16 * 4 < 64 by omega), ofValues?, h1, h2, h3, if_true]
  | case4 a b c rest ih =>
    have ha := a.toNat_lt
    have hb := b.toNat_lt
    have hc := c.toNat_lt
    have h1 : UInt8.ofNat (a.toNat / 4 * 4 + (a.toNat % 4 * 16 + b.toNat / 16) / 16) = a :=
      ofNat_eq_of_toNat (by omega)
    have h2 : UInt8.ofNat ((a.toNat % 4 * 16 + b.toNat / 16) % 16 * 16
        + (b.toNat % 16 * 4 + c.toNat / 64) / 4) = b := ofNat_eq_of_toNat (by omega)
    have h3 : UInt8.ofNat ((b.toNat % 16 * 4 + c.toNat / 64) % 4 * 64 + c.toNat % 64) = c :=
      ofNat_eq_of_toNat (by omega)
    obtain ⟨vs, hvs, hbs⟩ := Option.bind_eq_some_iff.mp ih
    simp only [decode?, List.mapM_cons, Option.pure_def, Option.bind_eq_bind, Option.bind_some,
      value?_digit_of_lt (show a.toNat / 4 < 64 by omega),
      value?_digit_of_lt (show a.toNat % 4 * 16 + b.toNat / 16 < 64 by omega),
      value?_digit_of_lt (show b.toNat % 16 * 4 + c.toNat / 64 < 64 by omega),
      value?_digit_of_lt (show c.toNat % 64 < 64 by omega), hvs, ofValues?, hbs, Option.map_some,
      h1, h2, h3]

theorem encode_injective {bs cs : Bytes} (h : encode bs = encode cs) : bs = cs := by
  have := congrArg decode? h
  simpa [decode?_encode] using this

end AffinityGate.Base64
