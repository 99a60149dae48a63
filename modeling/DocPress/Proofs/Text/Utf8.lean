import DocPress.Text.Utf8
import Mathlib.Data.List.Basic

/-!
# Positions in UTF-8, in parts

How byte positions follow from those in the parts of a text.

* `splitAtByte?_eq_some_iff` — a cut at a byte position is a cut into two parts of the text.
* `utf8EncodeChar_ascii`, `le_of_mem_utf8EncodeChar` — ASCII characters are single bytes, and the
  bytes of all others lie outside ASCII.
* `getElem?_encode_eq_some_iff` — so the byte of an ASCII character stands at a character boundary.
* `eq_encode_of_decode?`, `decode?_encode` — bytes are read as a text exactly if they are those of
  this text.
-/

namespace DocPress.Text.Utf8

theorem byteLength_append (s t : List Char) :
    byteLength (s ++ t) = byteLength s + byteLength t := by
  induction s with
  | nil => simp [byteLength]
  | cons c s ih => simp only [List.cons_append, byteLength, ih]; omega

theorem byteLength_eq_utf8ByteSize (s : List Char) :
    byteLength s = (String.ofList s).utf8ByteSize := by
  induction s with
  | nil => rfl
  | cons c s ih =>
    rw [byteLength, ih, ← List.singleton_append, String.ofList_append, String.utf8ByteSize_append]
    rw [← String.singleton_eq_ofList, String.utf8ByteSize_singleton]

/-- **Cutting at a byte position** gives the two parts that meet there, if there are such parts. -/
theorem splitAtByte?_eq_some_iff {n : Nat} {s before after : List Char} :
    splitAtByte? n s = some (before, after) ↔ s = before ++ after ∧ byteLength before = n := by
  induction s generalizing n before with
  | nil =>
    cases n with
    | zero =>
      simp only [splitAtByte?, Option.some.injEq, Prod.mk.injEq]
      constructor
      · rintro ⟨rfl, rfl⟩; exact ⟨rfl, rfl⟩
      · rintro ⟨h, _⟩
        obtain ⟨rfl, rfl⟩ := List.append_eq_nil_iff.mp h.symm
        exact ⟨rfl, rfl⟩
    | succ n =>
      simp only [splitAtByte?, reduceCtorEq, false_iff, not_and]
      intro h
      obtain ⟨rfl, rfl⟩ := List.append_eq_nil_iff.mp h.symm
      simp [byteLength]
  | cons c s ih =>
    have hpos := c.utf8Size_pos
    cases n with
    | zero =>
      simp only [splitAtByte?, Option.some.injEq, Prod.mk.injEq]
      constructor
      · rintro ⟨rfl, rfl⟩; exact ⟨rfl, rfl⟩
      · rintro ⟨h, hlen⟩
        cases before with
        | nil => exact ⟨rfl, h⟩
        | cons b before =>
          have hb := b.utf8Size_pos
          simp only [byteLength] at hlen
          omega
    | succ n =>
      rw [splitAtByte?]
      constructor
      · intro h
        split at h
        · obtain ⟨⟨b, a⟩, hba, heq⟩ := Option.map_eq_some_iff.mp h
          obtain ⟨rfl, rfl⟩ := Prod.mk.injEq .. ▸ heq
          obtain ⟨rfl, hlen⟩ := ih.mp hba
          exact ⟨rfl, by simp only [byteLength]; omega⟩
        · cases h
      · rintro ⟨h, hlen⟩
        cases before with
        | nil => simp [byteLength] at hlen
        | cons b before =>
          obtain ⟨rfl, hs⟩ := List.cons.inj h
          simp only [byteLength] at hlen
          rw [if_pos (by omega), ih.mpr ⟨hs, by omega⟩]
          rfl

/-! ## Bytes of ASCII -/

theorem encode_cons (c : Char) (s : List Char) :
    encode (c :: s) = String.utf8EncodeChar c ++ encode s := rfl

theorem utf8EncodeChar_ascii {c : Char} (h : c.toNat < 128) :
    String.utf8EncodeChar c = [UInt8.ofNat c.toNat] := by
  have hle : c.val.toNat ≤ 127 := Nat.le_of_lt_succ h
  unfold String.utf8EncodeChar
  exact if_pos hle

theorem utf8Size_ascii {c : Char} (h : c.toNat < 128) : c.utf8Size = 1 := by
  rw [← String.length_utf8EncodeChar, utf8EncodeChar_ascii h]
  rfl

theorem byteLength_ascii {s : List Char} (h : ∀ c ∈ s, c.toNat < 128) : byteLength s = s.length := by
  induction s with
  | nil => rfl
  | cons c s ih =>
    obtain ⟨hc, hs⟩ := List.forall_mem_cons.mp h
    rw [byteLength, utf8Size_ascii hc, ih hs, List.length_cons, Nat.add_comm]

/-- The bytes of a character outside ASCII lie outside ASCII. -/
theorem le_of_mem_utf8EncodeChar {c : Char} (h : 128 ≤ c.toNat) {b : UInt8}
    (hb : b ∈ String.utf8EncodeChar c) : 128 ≤ b.toNat := by
  have hgt : ¬ c.val.toNat ≤ 127 := by
    have : c.toNat = c.val.toNat := rfl
    omega
  unfold String.utf8EncodeChar at hb
  simp only [hgt, if_false] at hb
  split at hb
  · simp only [List.mem_cons, List.not_mem_nil, or_false] at hb
    rcases hb with rfl | rfl <;> (rw [UInt8.toNat_ofNat']; omega)
  · split at hb
    · simp only [List.mem_cons, List.not_mem_nil, or_false] at hb
      rcases hb with rfl | rfl | rfl <;> (rw [UInt8.toNat_ofNat']; omega)
    · simp only [List.mem_cons, List.not_mem_nil, or_false] at hb
      rcases hb with rfl | rfl | rfl | rfl <;> (rw [UInt8.toNat_ofNat']; omega)

/-- **The byte of an ASCII character stands at a character boundary**, and before that character. -/
theorem getElem?_encode_eq_some_iff {c : Char} (hc : c.toNat < 128) {s : List Char} {n : Nat} :
    (encode s)[n]? = some (UInt8.ofNat c.toNat) ↔
      ∃ before after, splitAtByte? n s = some (before, c :: after) := by
  simp only [splitAtByte?_eq_some_iff]
  induction s generalizing n with
  | nil => simp [encode]
  | cons d s ih =>
    have hlen := String.length_utf8EncodeChar d
    have hpos := d.utf8Size_pos
    rw [encode_cons]
    by_cases hn : n < d.utf8Size
    · rw [List.getElem?_append_left (by omega)]
      constructor
      · intro h
        have hd : d.toNat < 128 := by
          -- a byte of a character outside ASCII is not that of `c`
          by_contra hd
          have hb := le_of_mem_utf8EncodeChar (Nat.not_lt.mp hd) (List.mem_of_getElem? h)
          rw [UInt8.toNat_ofNat'] at hb
          omega
        rw [utf8Size_ascii hd] at hn
        obtain rfl : n = 0 := by omega
        rw [utf8EncodeChar_ascii hd, List.getElem?_cons_zero, Option.some.injEq] at h
        have heq : d.toNat = c.toNat := by
          have := congrArg UInt8.toNat h
          rw [UInt8.toNat_ofNat', UInt8.toNat_ofNat'] at this
          omega
        obtain rfl : d = c := Char.toNat_inj.mp heq
        exact ⟨[], s, rfl, rfl⟩
      · rintro ⟨before, after, htext, hsize⟩
        cases before with
        | nil =>
          obtain ⟨rfl, rfl⟩ := List.cons.inj htext
          obtain rfl : n = 0 := hsize.symm
          rw [utf8EncodeChar_ascii hc]
          rfl
        | cons b before =>
          obtain ⟨rfl, _⟩ := List.cons.inj htext
          simp only [byteLength] at hsize
          omega
    · rw [List.getElem?_append_right (by omega), hlen, ih]
      constructor
      · rintro ⟨before, after, rfl, hsize⟩
        exact ⟨d :: before, after, rfl, by simp only [byteLength]; omega⟩
      · rintro ⟨before, after, htext, hsize⟩
        cases before with
        | nil => simp only [byteLength] at hsize; omega
        | cons b before =>
          obtain ⟨rfl, rfl⟩ := List.cons.inj htext
          exact ⟨before, after, rfl, by simp only [byteLength] at hsize; omega⟩

/-! ## Texts read from bytes -/

theorem eq_encode_of_decode? {bytes : List UInt8} {s : String} (h : decode? bytes = some s) :
    bytes = encode s.toList := by
  unfold decode? String.fromUTF8? at h
  split at h
  · cases h
    have hbytes : (String.fromUTF8 bytes.toByteArray ‹_›).toList.utf8Encode = bytes.toByteArray :=
      String.utf8Encode_toList
    have hdata := congrArg ByteArray.data hbytes
    simp only [List.utf8Encode, List.data_toByteArray] at hdata
    exact (congrArg Array.toList hdata).symm
  · cases h

theorem decode?_encode (s : String) : decode? (encode s.toList) = some s := by
  have hbytes : (encode s.toList).toByteArray = s.toByteArray := String.utf8Encode_toList
  simp only [decode?, hbytes, String.fromUTF8?, dif_pos s.isValidUTF8]
  rfl

theorem mem_encode_ascii {c : Char} (hc : c.toNat < 128) {s : List Char} (h : c ∈ s) :
    UInt8.ofNat c.toNat ∈ encode s := by
  refine List.mem_flatMap.mpr ⟨c, h, ?_⟩
  rw [utf8EncodeChar_ascii hc]
  exact List.mem_singleton_self _

end DocPress.Text.Utf8
