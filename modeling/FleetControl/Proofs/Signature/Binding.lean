import FleetControl.Proofs.Signature.Signing
import FleetControl.Proofs.Text.Ascii

/-!
# What a signature binds

The five lines that are signed are told apart again, although a nonce may have line breaks of
its own.  The method, the path and the time stamp have none, so each of them ends at the next
line break; and what is left is a nonce with a line break and the digits of a hash behind it,
which are always 64.
-/

namespace FleetControl

namespace Text

theorem append_sep_inj {sep : Char} {front front' rest rest' : List Char} (h : sep ∉ front)
    (h' : sep ∉ front') :
    front ++ sep :: rest = front' ++ sep :: rest' ↔ front = front' ∧ rest = rest' := by
  constructor
  · intro same
    have cut := congrArg (cutAt sep) same
    rw [cutAt_append h, cutAt_append h', Option.some.injEq, Prod.mk.injEq] at cut
    exact cut
  · rintro ⟨rfl, rfl⟩
    rfl

end Text

namespace Signature

open Crypto
open Text

theorem integerText_inj {m n : Int} : integerText m = integerText n ↔ m = n := by
  constructor
  · intro same
    have read := integer?_integerText (Int.min_le_left m n) (Int.le_max_left m n)
    rw [same, integer?_integerText (Int.min_le_right m n) (Int.le_max_right m n)] at read
    exact (Option.some.inj read).symm
  · exact congrArg integerText

theorem newline_not_mem_integerText (n : Int) : '\n' ∉ integerText n := by
  intro h
  cases isBlank_of_mem_integerText n '\n' h

theorem newline_not_mem_upper {s : String} (h : '\n' ∉ s.toList) : '\n' ∉ (upper s).toList :=
  mt (mem_of_mem_upper rfl) h

/-- The nonce and the hash are told apart from the end. -/
theorem append_hash_inj {nonce nonce' : List Char} {body body' : List UInt8} :
    nonce ++ '\n' :: Hex.encode (Sha256.digest body) =
        nonce' ++ '\n' :: Hex.encode (Sha256.digest body') ↔
      nonce = nonce' ∧ Sha256.digest body = Sha256.digest body' := by
  constructor
  · intro same
    have size : ('\n' :: Hex.encode (Sha256.digest body)).length =
        ('\n' :: Hex.encode (Sha256.digest body')).length := by
      simp only [List.length_cons, Hex.length_encode, Sha256.length_digest]
    rcases List.append_inj' same size with ⟨nonces, hashes⟩
    exact ⟨nonces, Hex.encode_inj.mp (List.cons.inj hashes).2⟩
  · rintro ⟨rfl, hashes⟩
    rw [hashes]

/-- Two requests are signed over the same text exactly when they agree in every part, the
methods but for the case of their letters and the bodies as far as their hashes tell. -/
theorem canonical_eq_iff {method method' path path' nonce nonce' : String}
    {timestamp timestamp' : Int} {body body' : List UInt8}
    (methodLine : '\n' ∉ method.toList) (methodLine' : '\n' ∉ method'.toList)
    (pathLine : '\n' ∉ path.toList) (pathLine' : '\n' ∉ path'.toList) :
    canonical method path timestamp nonce body =
        canonical method' path' timestamp' nonce' body' ↔
      sameIgnoringCase method method' = true ∧ path = path' ∧ timestamp = timestamp' ∧
        nonce = nonce' ∧ Sha256.digest body = Sha256.digest body' := by
  have upperLine := newline_not_mem_upper methodLine
  have upperLine' := newline_not_mem_upper methodLine'
  rw [canonical, canonical, String.ofList_inj, canonicalChars, canonicalChars,
    append_sep_inj upperLine upperLine', append_sep_inj pathLine pathLine',
    append_sep_inj (newline_not_mem_integerText _) (newline_not_mem_integerText _),
    append_hash_inj, integerText_inj, String.toList_inj, String.toList_inj, String.toList_inj,
    sameIgnoringCase_iff]

/-- The case of the method is not signed.  A digit that is moved from the nonce into the time
stamp before it makes another text, although a line break of the nonce moves with it. -/
theorem canonical_eq_iff_lineBreak :
    ('\n' ∉ "post".toList ∧ '\n' ∉ "POST".toList ∧ '\n' ∉ "/agent/heartbeat".toList) ∧
      canonical "post" "/agent/heartbeat" (-5) "1\n2" [] =
        canonical "POST" "/agent/heartbeat" (-5) "1\n2" [] ∧
      canonical "POST" "/agent/heartbeat" (-5) "1\n2" [] ≠
        canonical "POST" "/agent/heartbeat" (-51) "2" [] := by
  have small : '\n' ∉ "post".toList := by decide
  have capital : '\n' ∉ "POST".toList := by decide
  have path : '\n' ∉ "/agent/heartbeat".toList := by decide
  refine ⟨⟨small, capital, path⟩, ?_, ?_⟩
  · exact (canonical_eq_iff small capital path path).mpr ⟨by decide +kernel, rfl, rfl, rfl, rfl⟩
  · intro same
    have parts := (canonical_eq_iff capital capital path path).mp same
    exact absurd parts.2.2.1 (by decide)

end Signature
end FleetControl
