import Mathlib.Data.List.Basic
import Mathlib.Logic.Function.Basic

/-!
Signature schemes, and what an ideal one guarantees. Messages and signatures
are lists of bytes.

A scheme or a hash function that is ideal everywhere and takes prescribed
values at one point is got by pinning an injective function at that point;
with it, results that assume an ideal primitive can be run on real values.
-/

universe u v

abbrev Bytes := List UInt8

/-- The bytes of a string, `s.encode()`. -/
def String.encodeUtf8 (s : String) : Bytes := s.toUTF8.data.toList

theorem String.encodeUtf8_injective : Function.Injective String.encodeUtf8 := by
  intro s t h
  have hdata : s.toUTF8.data = t.toUTF8.data := Array.toList_inj.mp h
  have harray : s.toByteArray = t.toByteArray := ByteArray.ext hdata
  exact String.toByteArray_inj.mp harray

/-- The operations of a signature scheme with private keys `κ` and public keys
`ν`. -/
structure SignatureScheme (κ : Type u) (ν : Type v) where
  publicKey : κ → ν
  sign : κ → Bytes → Bytes
  verify : ν → Bytes → Bytes → Bool

namespace SignatureScheme

/-- Signatures verify under the paired key, and one made on a message is a
signature on no other. -/
structure Ideal {κ : Type u} {ν : Type v} (S : SignatureScheme κ ν) : Prop where
  verify_sign : ∀ k m, S.verify (S.publicKey k) (S.sign k m) m = true
  unforgeable : ∀ k m m', S.verify (S.publicKey k) (S.sign k m) m' = true → m' = m

/-- The deterministic scheme with a single key pair and signatures `f`. -/
def ofFunction (f : Bytes → Bytes) : SignatureScheme Unit Unit where
  publicKey := id
  sign _ m := f m
  verify _ sig m := sig = f m

theorem ideal_ofFunction {f : Bytes → Bytes} (hf : Function.Injective f) :
    (ofFunction f).Ideal where
  verify_sign _ _ := decide_eq_true rfl
  unforgeable _ _ _ h := (hf (of_decide_eq_true h)).symm

end SignatureScheme

/-! ### Pinning -/

section Pinned

variable {α β : Type} [DecidableEq α]

/-- `f`, tagged so that its values are longer than `r`, except at `a₀`, where
the value is `r`. -/
def pinned (a₀ : α) (r : List β) (tag : β) (f : α → List β) (a : α) : List β :=
  if a = a₀ then r else r ++ tag :: f a

theorem pinned_injective (a₀ : α) (r : List β) (tag : β) {f : α → List β}
    (hf : Function.Injective f) : Function.Injective (pinned a₀ r tag f) := by
  intro a b h
  unfold pinned at h
  split at h
  · next ha =>
      split at h
      · next hb => rw [ha, hb]
      · simp at h
  · split at h
    · simp at h
    · exact hf (List.cons.inj (List.append_cancel_left h)).2

end Pinned

/-- The hash that has the value `digest` at `m₀`, and spells out every other message. -/
def pinnedHash (m₀ : Bytes) (digest : String) (m : Bytes) : String :=
  String.ofList (pinned m₀ digest.toList '#' (List.map fun b : UInt8 => Char.ofNat b.toNat) m)

theorem charOfByte_injective : Function.Injective fun b : UInt8 => Char.ofNat b.toNat := by
  intro a b h
  have htoNat : ∀ c : UInt8, (Char.ofNat c.toNat).toNat = c.toNat := by
    intro c
    have hc := c.toNat_lt
    have hvalid : c.toNat.isValidChar := .inl (by omega)
    rw [Char.ofNat, dif_pos hvalid]
    rfl
  have hcode := congrArg Char.toNat h
  rw [htoNat, htoNat] at hcode
  exact UInt8.toNat_inj.mp hcode

theorem pinnedHash_injective (m₀ : Bytes) (digest : String) :
    Function.Injective (pinnedHash m₀ digest) := by
  intro m n h
  exact pinned_injective m₀ digest.toList '#' (List.map_injective_iff.mpr charOfByte_injective)
    (String.ofList_inj.mp h)
