import FleetControl.Proofs.Text.Blank
import FleetControl.Text.Bytes
import FleetControl.Text.Hex

/-!
# Hexadecimal text that is read back

A text is read as bytes exactly when it is their text but for the case of its letters.
-/

namespace FleetControl
namespace Text
namespace Hex

/-!
# Digits
-/

theorem digit_plain {n : Nat} (h : n < 16) :
    isBlank (digit n) = false ∧ (digit n).utf8Size = 1 := by
  have all : ∀ k : Fin 16, isBlank (digit k.val) = false ∧ (digit k.val).utf8Size = 1 := by
    decide
  exact all ⟨n, h⟩

theorem toNat_digit_lt {n : Nat} (h : n < 16) : (digit n).toNat < 103 := by
  have all : ∀ k : Fin 16, (digit k.val).toNat < 103 := by decide
  exact all ⟨n, h⟩

theorem value?_of_le {c : Char} (high : 103 ≤ c.toNat) : value? c = none := by
  have above : ∀ top : Char, top.toNat < 103 → ¬ c ≤ top := by
    intro top small le
    have le : c.toNat ≤ top.toNat := le
    omega
  simp [value?, above '9' (by decide), above 'f' (by decide), above 'F' (by decide)]

theorem toLower_of_le {c : Char} (high : 103 ≤ c.toNat) : c.toLower = c := by
  have above : ¬ (c.val ≥ 65 ∧ c.val ≤ 90) := by
    rintro ⟨_, le⟩
    have le : c.toNat ≤ 90 := UInt32.le_iff_toNat_le.mp le
    omega
  exact dif_neg above

theorem value?_eq_some_iff {c : Char} {n : Nat} :
    value? c = some n ↔ n < 16 ∧ c.toLower = digit n := by
  have low : ∀ k : Fin 103, (∀ n, value? (Char.ofNat k.val) = some n → n < 16) ∧
      ∀ n : Fin 16, value? (Char.ofNat k.val) = some n.val ↔
        (Char.ofNat k.val).toLower = digit n.val := by
    decide +kernel
  rcases Nat.lt_or_ge c.toNat 103 with small | high
  · rcases low ⟨c.toNat, small⟩ with ⟨bound, same⟩
    rw [Char.ofNat_toNat] at bound same
    constructor
    · intro h
      exact ⟨bound n h, (same ⟨n, bound n h⟩).mp h⟩
    · rintro ⟨h, shown⟩
      exact (same ⟨n, h⟩).mpr shown
  · rw [value?_of_le high, toLower_of_le high]
    constructor
    · intro h
      cases h
    · rintro ⟨h, rfl⟩
      have := toNat_digit_lt h
      omega

/-!
# Bytes
-/

theorem exists_digit_of_mem_encode {bytes : List UInt8} {c : Char} (h : c ∈ encode bytes) :
    ∃ n < 16, c = digit n := by
  induction bytes with
  | nil => cases h
  | cons b rest ih =>
      have small := b.toNat_lt
      rcases List.mem_cons.mp h with rfl | h
      · exact ⟨_, by omega, rfl⟩
      · rcases List.mem_cons.mp h with rfl | h
        · exact ⟨_, by omega, rfl⟩
        · exact ih h

theorem trimChars_encode (bytes : List UInt8) : trimChars (encode bytes) = encode bytes := by
  apply trimChars_of_plain
  intro c h
  rcases exists_digit_of_mem_encode h with ⟨n, small, rfl⟩
  exact (digit_plain small).1

theorem length_encode (bytes : List UInt8) : (encode bytes).length = 2 * bytes.length := by
  induction bytes with
  | nil => rfl
  | cons b rest ih =>
      rw [encode, List.length_cons, List.length_cons, ih, List.length_cons]
      omega

theorem utf8Length_encode (bytes : List UInt8) :
    utf8Length (String.ofList (encode bytes)) = 2 * bytes.length := by
  induction bytes with
  | nil => rfl
  | cons b rest ih =>
      have small := b.toNat_lt
      have high := (digit_plain (n := b.toNat / 16) (by omega)).2
      have low := (digit_plain (n := b.toNat % 16) (by omega)).2
      rw [utf8Length] at ih ⊢
      rw [encode, String.ofList_cons, String.utf8ByteSize_append, String.ofList_cons,
        String.utf8ByteSize_append, ih, String.utf8ByteSize_singleton,
        String.utf8ByteSize_singleton, high, low, List.length_cons]
      omega

theorem encode_inj {a b : List UInt8} : encode a = encode b ↔ a = b := by
  constructor
  · intro same
    have read := congrArg decode? same
    rw [decode?_encode, decode?_encode] at read
    exact Option.some.inj read
  · exact congrArg encode

theorem decode?_cons_cons {hi lo : Char} {rest : List Char} {bytes : List UInt8} :
    decode? (hi :: lo :: rest) = some bytes ↔ ∃ h l more, value? hi = some h ∧
      value? lo = some l ∧ decode? rest = some more ∧ bytes = UInt8.ofNat (16 * h + l) :: more := by
  simp only [decode?, Option.bind_eq_bind, Option.bind_eq_some_iff, Option.pure_def,
    Option.some.injEq, eq_comm (b := bytes)]
  grind

theorem decode?_eq_some_iff {cs : List Char} {bytes : List UInt8} :
    decode? cs = some bytes ↔ cs.map Char.toLower = encode bytes := by
  induction cs using decode?.induct generalizing bytes with
  | case1 =>
      cases bytes <;> simp [decode?, encode]
  | case2 c =>
      cases bytes <;> simp [decode?, encode]
  | case3 hi lo rest ih =>
      rw [decode?_cons_cons, List.map_cons, List.map_cons]
      constructor
      · rintro ⟨h, l, more, high, low, read, rfl⟩
        rcases value?_eq_some_iff.mp high with ⟨boundHigh, high⟩
        rcases value?_eq_some_iff.mp low with ⟨boundLow, low⟩
        have whole : (UInt8.ofNat (16 * h + l)).toNat = 16 * h + l :=
          UInt8.toNat_ofNat_of_lt' (by unfold UInt8.size; omega)
        have front : (16 * h + l) / 16 = h := by omega
        have back : (16 * h + l) % 16 = l := by omega
        rw [encode, whole, front, back, high, low, ih.mp read]
      · cases bytes with
        | nil => simp [encode]
        | cons b more =>
            have small := b.toNat_lt
            intro shown
            rcases List.cons.inj shown with ⟨high, shown⟩
            rcases List.cons.inj shown with ⟨low, shown⟩
            refine ⟨b.toNat / 16, b.toNat % 16, more,
              value?_eq_some_iff.mpr ⟨by omega, high⟩,
              value?_eq_some_iff.mpr ⟨by omega, low⟩, ih.mpr shown, ?_⟩
            rw [Nat.div_add_mod, UInt8.ofNat_toNat]

end Hex
end Text
end FleetControl
