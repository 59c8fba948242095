import FleetControl.Text.Base64
import FleetControl.Text.Bytes

/-!
# Bytes and texts

A text is read back from its bytes, and bytes are read back from their Base64 form.
-/

namespace FleetControl

namespace Text

theorem ofUtf8?_utf8 (s : String) : ofUtf8? (utf8 s) = some s := by
  unfold ofUtf8? utf8
  rw [Array.toArray_toList]
  show String.fromUTF8? s.toUTF8 = some s
  unfold String.fromUTF8?
  rw [dif_pos (show s.toUTF8.IsValidUTF8 from s.isValidUTF8)]
  rfl

namespace Base64

/-!
# Groups of digits
-/

theorem value?_digit : ∀ n < 64, value? (digit n) = some n := by
  decide

theorem digit_ne_filler : ∀ n < 64, digit n ≠ '=' := by
  decide

theorem lastGroup?_one {w x : Char} {p q : Nat} (hw : value? w = some p)
    (hx : value? x = some q) (rest : q % 16 = 0) :
    lastGroup? w x '=' '=' = some [UInt8.ofNat (p * 4 + q / 16)] := by
  unfold lastGroup?
  rw [hw, hx]
  simp only [bind, Option.bind, if_true, rest, decide_true, Bool.and_self]
  rfl

theorem lastGroup?_two {w x y : Char} {p q r : Nat} (hw : value? w = some p)
    (hx : value? x = some q) (hy : value? y = some r) (digit : y ≠ '=') (rest : r % 4 = 0) :
    lastGroup? w x y '=' =
      some [UInt8.ofNat (p * 4 + q / 16), UInt8.ofNat (q % 16 * 16 + r / 4)] := by
  unfold lastGroup?
  rw [hw, hx, hy]
  simp only [bind, Option.bind, if_neg digit, if_true, rest]
  rfl

theorem lastGroup?_three {w x y z : Char} {p q r s : Nat} (hw : value? w = some p)
    (hx : value? x = some q) (hy : value? y = some r) (hz : value? z = some s)
    (digit : y ≠ '=') (digit' : z ≠ '=') :
    lastGroup? w x y z = some [UInt8.ofNat (p * 4 + q / 16),
      UInt8.ofNat (q % 16 * 16 + r / 4), UInt8.ofNat (r % 4 * 64 + s)] := by
  unfold lastGroup?
  rw [hw, hx, hy, hz]
  simp only [bind, Option.bind, if_neg digit, if_neg digit']
  rfl

theorem decode?_cons {w x y z : Char} {p q r s : Nat} (hw : value? w = some p)
    (hx : value? x = some q) (hy : value? y = some r) (hz : value? z = some s)
    {rest : List Char} {bytes : List UInt8} (more : rest ≠ []) (h : decode? rest = some bytes) :
    decode? (w :: x :: y :: z :: rest) = some (UInt8.ofNat (p * 4 + q / 16) ::
      UInt8.ofNat (q % 16 * 16 + r / 4) :: UInt8.ofNat (r % 4 * 64 + s) :: bytes) := by
  cases rest with
  | nil =>
      exact absurd rfl more
  | cons c rest =>
      rw [decode?, hw, hx, hy, hz, h]
      · rfl
      · intro same
        cases same

theorem encode_ne_nil (a : UInt8) (rest : List UInt8) : encode (a :: rest) ≠ [] := by
  cases rest with
  | nil => exact List.cons_ne_nil _ _
  | cons b rest =>
      cases rest with
      | nil => exact List.cons_ne_nil _ _
      | cons c rest => exact List.cons_ne_nil _ _

theorem ofNat_eq {a : UInt8} {n : Nat} (h : n = a.toNat) : UInt8.ofNat n = a := by
  rw [h, UInt8.ofNat_toNat]

theorem decode?_encode (bytes : List UInt8) : decode? (encode bytes) = some bytes := by
  induction bytes using encode.induct with
  | case1 =>
      rfl
  | case2 a =>
      have bound : a.toNat < 256 := a.toNat_lt
      have group := lastGroup?_one (value?_digit (a.toNat / 4) (by omega))
        (value?_digit (a.toNat % 4 * 16) (by omega)) (by omega)
      rw [ofNat_eq (a := a) (by omega)] at group
      exact group
  | case3 a b =>
      have bound : a.toNat < 256 := a.toNat_lt
      have bound' : b.toNat < 256 := b.toNat_lt
      have group := lastGroup?_two
        (value?_digit ((a.toNat * 256 + b.toNat) / 1024) (by omega))
        (value?_digit ((a.toNat * 256 + b.toNat) / 16 % 64) (by omega))
        (value?_digit ((a.toNat * 256 + b.toNat) % 16 * 4) (by omega))
        (digit_ne_filler _ (by omega)) (by omega)
      rw [ofNat_eq (a := a) (by omega), ofNat_eq (a := b) (by omega)] at group
      exact group
  | case4 a b c rest ih =>
      have bound : a.toNat < 256 := a.toNat_lt
      have bound' : b.toNat < 256 := b.toNat_lt
      have bound'' : c.toNat < 256 := c.toNat_lt
      generalize hn : a.toNat * 65536 + b.toNat * 256 + c.toNat = n
      have first := value?_digit (n / 262144) (by omega)
      have second := value?_digit (n / 4096 % 64) (by omega)
      have third := value?_digit (n / 64 % 64) (by omega)
      have fourth := value?_digit (n % 64) (by omega)
      have one : UInt8.ofNat (n / 262144 * 4 + n / 4096 % 64 / 16) = a := ofNat_eq (by omega)
      have two : UInt8.ofNat (n / 4096 % 64 % 16 * 16 + n / 64 % 64 / 4) = b :=
        ofNat_eq (by omega)
      have three : UInt8.ofNat (n / 64 % 64 % 4 * 64 + n % 64) = c := ofNat_eq (by omega)
      have written : encode (a :: b :: c :: rest) = digit (n / 262144) ::
          digit (n / 4096 % 64) :: digit (n / 64 % 64) :: digit (n % 64) :: encode rest := by
        rw [encode, hn]
      rw [written]
      cases rest with
      | nil =>
          have group := lastGroup?_three first second third fourth
            (digit_ne_filler _ (by omega)) (digit_ne_filler _ (by omega))
          rw [one, two, three] at group
          exact group
      | cons d rest =>
          have group := decode?_cons first second third fourth (encode_ne_nil d rest) ih
          rw [one, two, three] at group
          exact group

end Base64
end Text
end FleetControl
