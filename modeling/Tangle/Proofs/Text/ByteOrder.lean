import Mathlib.Data.List.Basic

namespace Tangle

/-!
# Texts in the order of their bytes

Texts are compared character by character.  Their bytes in UTF-8 compare in the
same way, for a character with a larger code is written in bytes that are larger
where they first differ.
-/

namespace Text

/-- The bytes of a text in UTF-8. -/
def bytes (text : String) : List UInt8 :=
  text.toList.flatMap String.utf8EncodeChar

/-- The bytes of a text are those by which it is stored. -/
theorem toByteArray_bytes (text : String) : (bytes text).toByteArray = text.toByteArray :=
  String.utf8Encode_toList

/-- Two sequences of bytes differ somewhere, and where they first do, the second is larger. -/
def Diverge : List UInt8 → List UInt8 → Prop
  | first :: firstRest, second :: secondRest =>
      first < second ∨ first = second ∧ Diverge firstRest secondRest
  | _, _ => False

/-- Sequences that differ in their bytes stay in order whatever follows them. -/
theorem Diverge.append_lt
    {first second : List UInt8} (diverge : Diverge first second) (firstEnd secondEnd : List UInt8) :
    first ++ firstEnd < second ++ secondEnd := by
  induction first generalizing second with
  | nil =>
      contradiction
  | cons byte rest inductionHypothesis =>
      cases second with
      | nil =>
          contradiction
      | cons other others =>
          rw [List.cons_append, List.cons_append, List.cons_lt_cons_iff]
          obtain smaller | ⟨same, later⟩ := diverge
          · exact Or.inl smaller
          · exact Or.inr ⟨same, inductionHypothesis later⟩

/--
A character with a larger code has larger bytes, whatever the lengths of the two
sequences are: a shorter one starts with a smaller byte.
-/
theorem diverge_utf8EncodeChar {first second : Char} (smaller : first < second) :
    Diverge (String.utf8EncodeChar first) (String.utf8EncodeChar second) := by
  have codes : first.val.toNat < second.val.toNat := smaller
  have bound : second.val.toNat < 0x110000 := by
    obtain low | high := second.valid <;> omega
  fun_cases String.utf8EncodeChar first <;> fun_cases String.utf8EncodeChar second <;>
    simp (disch := omega) only [Diverge, UInt8.lt_iff_toNat_lt, ← UInt8.toNat_inj,
      UInt8.toNat_ofNat', Nat.mod_eq_of_lt] <;>
    omega

/-- Greater texts have greater bytes. -/
theorem flatMap_utf8EncodeChar_lt {first second : List Char} (smaller : first < second) :
    first.flatMap String.utf8EncodeChar < second.flatMap String.utf8EncodeChar := by
  induction smaller with
  | @nil character rest =>
      rw [List.flatMap_cons]
      cases encoded : String.utf8EncodeChar character with
      | nil => exact (String.utf8EncodeChar_ne_nil encoded).elim
      | cons byte others => exact List.nil_lt_cons byte _
  | rel lower =>
      exact (diverge_utf8EncodeChar lower).append_lt _ _
  | cons _ inductionHypothesis =>
      exact List.append_left_lt inductionHypothesis

/-- Texts in order have bytes in order. -/
theorem bytes_lt {first second : String} (smaller : first < second) :
    bytes first < bytes second :=
  flatMap_utf8EncodeChar_lt smaller

/-- Texts are in order exactly when their bytes are. -/
theorem bytes_lt_iff {first second : String} : bytes first < bytes second ↔ first < second := by
  constructor
  · intro bytesSmaller
    by_cases same : first = second
    · subst second
      exact (List.lt_irrefl _ bytesSmaller).elim
    · apply String.not_le.mp
      intro notBehind
      have otherWay : second < first :=
        String.not_le.mp fun reverse => same (String.le_antisymm reverse notBehind)
      exact List.lt_asymm bytesSmaller (bytes_lt otherWay)
  · exact bytes_lt

end Text

end Tangle
