import NodeConsole.Base64
import NodeConsole.Value

/-!
# Bytes read back

The letters of some bytes are read as those bytes, whatever the padding: `decode_encode`. Reading
keeps the bits of a letter that no byte has taken yet, so each group of up to three bytes is
followed letter by letter.
-/

namespace NodeConsole

namespace Base64

variable {value : Nat} {rest : List Char}

theorem letterValue?_letter (fits : value < 64) : letterValue? (letter value) = some value := by
  have all : ∀ value < 64, letterValue? (letter value) = some value := by decide
  exact all value fits

theorem letter_ne_padding (fits : value < 64) : letter value ≠ '=' := by
  have all : ∀ value < 64, letter value ≠ '=' := by decide
  exact all value fits

theorem decodeFrom_letter {state : State} (unpadded : state.padded = false) (fits : value < 64) :
    decodeFrom state (letter value :: rest) =
      (decodeFrom (state.take value).2 rest).map ((state.take value).1.toList ++ ·) := by
  rw [decodeFrom, if_neg (letter_ne_padding fits), letterValue?_letter fits]
  simp only [unpadded, Bool.false_eq_true, ↓reduceIte]

/-! ## Groups -/

theorem ofNat_eq {byte : UInt8} {parts : Nat} (whole : parts = byte.toNat) :
    UInt8.ofNat parts = byte := by
  rw [whole, UInt8.ofNat_toNat]

/-- The only byte of a group. -/
theorem decodeFrom_one (a : UInt8) : decodeFrom .start (encode [a]) = some [a] := by
  have below : a.toNat < 256 := a.toNat_lt
  have first : UInt8.ofNat (a.toNat / 4 * 4 + a.toNat % 4 * 16 / 16) = a := ofNat_eq (by omega)
  rw [encode, decodeFrom_letter rfl (by omega), decodeFrom_letter rfl (by omega)]
  simp only [State.start, State.take, first]
  rfl

/-- The only two bytes of a group. -/
theorem decodeFrom_two (a b : UInt8) : decodeFrom .start (encode [a, b]) = some [a, b] := by
  have below : a.toNat < 256 := a.toNat_lt
  have belowNext : b.toNat < 256 := b.toNat_lt
  have first : UInt8.ofNat (a.toNat / 4 * 4 + (a.toNat % 4 * 16 + b.toNat / 16) / 16) = a :=
    ofNat_eq (by omega)
  have second : UInt8.ofNat ((a.toNat % 4 * 16 + b.toNat / 16) % 16 * 16 +
      b.toNat % 16 * 4 / 4) = b := ofNat_eq (by omega)
  rw [encode, decodeFrom_letter rfl (by omega), decodeFrom_letter rfl (by omega),
    decodeFrom_letter rfl (by omega)]
  simp only [State.start, State.take, first, second]
  rfl

/-- The three bytes of a whole group stand before those of the rest. -/
theorem decodeFrom_three (a b c : UInt8) (bytes : List UInt8) :
    decodeFrom .start (encode (a :: b :: c :: bytes)) =
      (decodeFrom .start (encode bytes)).map ([a, b, c] ++ ·) := by
  have below : a.toNat < 256 := a.toNat_lt
  have belowNext : b.toNat < 256 := b.toNat_lt
  have belowLast : c.toNat < 256 := c.toNat_lt
  have first : UInt8.ofNat (a.toNat / 4 * 4 + (a.toNat % 4 * 16 + b.toNat / 16) / 16) = a :=
    ofNat_eq (by omega)
  have second : UInt8.ofNat ((a.toNat % 4 * 16 + b.toNat / 16) % 16 * 16 +
      (b.toNat % 16 * 4 + c.toNat / 64) / 4) = b := ofNat_eq (by omega)
  have third : UInt8.ofNat ((b.toNat % 16 * 4 + c.toNat / 64) % 4 * 64 + c.toNat % 64) = c :=
    ofNat_eq (by omega)
  rw [encode, decodeFrom_letter rfl (by omega), decodeFrom_letter rfl (by omega),
    decodeFrom_letter rfl (by omega), decodeFrom_letter rfl (by omega)]
  simp only [State.start, State.take, first, second, third, Option.map_map]
  rfl

/-- The groups are read one by one, up to the padded one. -/
theorem decodeFrom_encode (bytes : List UInt8) : decodeFrom .start (encode bytes) = some bytes := by
  induction bytes using encode.induct with
  | case1 => rfl
  | case2 a => exact decodeFrom_one a
  | case3 a b => exact decodeFrom_two a b
  | case4 a b c rest inductionHypothesis => rw [decodeFrom_three, inductionHypothesis]; rfl

/-- The letters of some bytes do not start with a padding. -/
theorem decode_eq_decodeFrom (bytes : List UInt8) :
    decode (encode bytes) = decodeFrom .start (encode bytes) := by
  unfold decode
  split
  · next others padded =>
    have starts : (encode bytes).head? = some '=' := by rw [padded]; rfl
    fun_cases encode bytes with
    | case1 => simp [encode] at starts
    | case2 a | case3 a | case4 a =>
      have below : a.toNat < 256 := a.toNat_lt
      have other : letter (a.toNat / 4) ≠ '=' := letter_ne_padding (by omega)
      simp [encode, other] at starts
  · rfl

/-- The letters of some bytes are read as those bytes. -/
theorem decode_encode (bytes : List UInt8) : decode (encode bytes) = some bytes :=
  (decode_eq_decodeFrom bytes).trans (decodeFrom_encode bytes)

example : encode [255, 255, 255, 0] = "////AA==".toList := by decide

/-- Only no bytes at all are written without letters. -/
theorem encode_eq_nil_iff (bytes : List UInt8) : encode bytes = [] ↔ bytes = [] := by
  fun_cases encode bytes <;> simp

end Base64

namespace Value

/-- Bytes as a value: their letters as a text. -/
def ofBytes (bytes : List UInt8) : Value :=
  text (String.ofList (Base64.encode bytes))

/-- Bytes count as absent when there are none. -/
theorem isTruthy_ofBytes (bytes : List UInt8) : (ofBytes bytes).isTruthy = !bytes.isEmpty := by
  cases bytes with
  | nil => rfl
  | cons byte rest =>
    have filled : Base64.encode (byte :: rest) ≠ [] :=
      mt (Base64.encode_eq_nil_iff _).mp (List.cons_ne_nil byte rest)
    simpa [ofBytes, isTruthy, ← String.toList_inj] using filled

end Value

end NodeConsole
