/-
# Text survives its encoding

The decoder that never fails replaces what is malformed, so it says nothing by
itself about what it was given. Of the bytes of a text it gives back the text
(`Utf8.decodeLossy_encode`): the first byte of a character announces how many
follow and in which range the next one lies, and the encoder keeps to that, since
a character is neither a surrogate nor past U+10FFFF. A byte below 0x80 stands
for itself only (`Utf8.encodeChar_of_ascii_mem`), so a text without line feeds
has none among its bytes either.

Key theorems: `Utf8.decodeLossy_encode`, `Utf8.mem_of_ascii_mem_encode`,
`Utf8.encode_of_ascii`, `Utf8.getLast?_of_ascii_encode`.
-/
import Halyard.Text.Utf8
import Mathlib.Data.List.Basic

namespace Halyard.Text.Utf8

variable {n : Nat} {p : Pending} {c : Char} {bytes : List UInt8} {text : List Char}

/-! ### Bytes by their numbers -/

theorem toNat_ofNat (h : n < 256) : (UInt8.ofNat n).toNat = n := by
  simpa using h

theorem ofNat_lt_iff (h : n < 256) (b : UInt8) : UInt8.ofNat n < b ↔ n < b.toNat := by
  rw [UInt8.lt_iff_toNat_lt, toNat_ofNat h]

theorem ofNat_eq_iff (h : n < 256) (b : UInt8) : UInt8.ofNat n = b ↔ n = b.toNat := by
  rw [← UInt8.toNat_inj, toNat_ofNat h]

theorem start_ascii (h : n < 0x80) : start (UInt8.ofNat n) = .complete (Char.ofNat n) := by
  have hlt : UInt8.ofNat n < 0x80 := (ofNat_lt_iff (by omega) _).mpr h
  rw [start, if_pos hlt, toNat_ofNat (by omega)]

theorem start_lead (hlow : 0xC2 ≤ n) (hhigh : n < 0xF5) :
    start (UInt8.ofNat n) =
      .lead (if n < 0xE0 then ⟨n - 0xC0, 1, 0x80, 0xBF⟩
        else if n < 0xF0 then
          ⟨n - 0xE0, 2, if n = 0xE0 then 0xA0 else 0x80, if n = 0xED then 0x9F else 0xBF⟩
        else ⟨n - 0xF0, 3, if n = 0xF0 then 0x90 else 0x80, if n = 0xF4 then 0x8F else 0xBF⟩) := by
  have hbyte : n < 256 := by omega
  have hascii : ¬ UInt8.ofNat n < 0x80 := by
    rw [ofNat_lt_iff hbyte]
    show ¬ n < 128
    omega
  have hcut : ¬ UInt8.ofNat n < 0xC2 := by
    rw [ofNat_lt_iff hbyte]
    show ¬ n < 194
    omega
  have hend : UInt8.ofNat n < 0xF5 := (ofNat_lt_iff hbyte _).mpr hhigh
  have htwo : UInt8.ofNat n < 0xE0 ↔ n < 0xE0 := ofNat_lt_iff hbyte _
  have hthree : UInt8.ofNat n < 0xF0 ↔ n < 0xF0 := ofNat_lt_iff hbyte _
  have hE0 : UInt8.ofNat n = 0xE0 ↔ n = 0xE0 := ofNat_eq_iff hbyte _
  have hED : UInt8.ofNat n = 0xED ↔ n = 0xED := ofNat_eq_iff hbyte _
  have hF0 : UInt8.ofNat n = 0xF0 ↔ n = 0xF0 := ofNat_eq_iff hbyte _
  have hF4 : UInt8.ofNat n = 0xF4 ↔ n = 0xF4 := ofNat_eq_iff hbyte _
  rw [start, if_neg hascii, if_neg hcut, toNat_ofNat hbyte]
  simp only [htwo, hthree, hend, hE0, hED, hF0, hF4, if_true]
  split
  · rfl
  · split <;> rfl

/-! ### A character's bytes -/

theorem accepts_ofNat (hn : n < 256) (hlow : p.low.toNat ≤ n) (hhigh : n ≤ p.high.toNat) :
    p.accepts (UInt8.ofNat n) = true := by
  have hge : p.low ≤ UInt8.ofNat n := by
    rw [UInt8.le_iff_toNat_le, toNat_ofNat hn]
    exact hlow
  have hle : UInt8.ofNat n ≤ p.high := by
    rw [UInt8.le_iff_toNat_le, toNat_ofNat hn]
    exact hhigh
  simp [Pending.accepts, hge, hle]

theorem extend_ofNat (hn : n < 256) : p.extend (UInt8.ofNat n) = p.bits * 64 + (n - 0x80) := by
  unfold Pending.extend
  rw [toNat_ofNat hn]

section Continuation

variable {bits missing : Nat} {low high : UInt8}

/-- A byte in the announced range continues the character. -/
theorem decodeLossyFrom_next (hn : n < 256) (hlow : low.toNat ≤ n) (hhigh : n ≤ high.toNat)
    (rest : List UInt8) :
    decodeLossyFrom (some ⟨bits, missing + 2, low, high⟩) (UInt8.ofNat n :: rest) =
      decodeLossyFrom (some ⟨bits * 64 + (n - 0x80), missing + 1, 0x80, 0xBF⟩) rest := by
  have haccepts := accepts_ofNat (p := ⟨bits, missing + 2, low, high⟩) hn hlow hhigh
  have hmore : ¬ missing + 2 ≤ 1 := by omega
  rw [decodeLossyFrom, if_pos haccepts, if_neg hmore, extend_ofNat hn]
  rfl

/-- The last byte that was announced completes the character. -/
theorem decodeLossyFrom_last (hn : n < 256) (hlow : low.toNat ≤ n) (hhigh : n ≤ high.toNat)
    (rest : List UInt8) :
    decodeLossyFrom (some ⟨bits, 1, low, high⟩) (UInt8.ofNat n :: rest) =
      Char.ofNat (bits * 64 + (n - 0x80)) :: decodeLossyFrom none rest := by
  have haccepts := accepts_ofNat (p := ⟨bits, 1, low, high⟩) hn hlow hhigh
  rw [decodeLossyFrom, if_pos haccepts, if_pos (Nat.le_refl 1), extend_ofNat hn]

end Continuation

theorem inRange (m : Nat) :
    (0x80 : UInt8).toNat ≤ m % 64 + 128 ∧ m % 64 + 128 ≤ (0xBF : UInt8).toNat := by
  have hlow : (0x80 : UInt8).toNat = 128 := rfl
  have hhigh : (0xBF : UInt8).toNat = 191 := rfl
  omega

theorem decodeLossyFrom_one {v : Nat} (hv : v < 0x80) (rest : List UInt8) :
    decodeLossyFrom none (UInt8.ofNat v :: rest) = Char.ofNat v :: decodeLossyFrom none rest := by
  rw [decodeLossyFrom, start_ascii hv]

theorem decodeLossyFrom_two {v : Nat} (hv : 0x80 ≤ v) (hv' : v < 0x800) (rest : List UInt8) :
    decodeLossyFrom none (UInt8.ofNat (v / 64 % 32 + 192) :: UInt8.ofNat (v % 64 + 128) :: rest) =
      Char.ofNat v :: decodeLossyFrom none rest := by
  have hbits : (v / 64 % 32 + 192 - 0xC0) * 64 + (v % 64 + 128 - 0x80) = v := by omega
  rw [decodeLossyFrom, start_lead (by omega) (by omega), if_pos (by omega)]
  dsimp only
  rw [decodeLossyFrom_last (by omega) (inRange v).1 (inRange v).2, hbits]

/-- Of three bytes the first leaves a range to the second that keeps out overlong forms and
surrogates. -/
theorem decodeLossyFrom_three {v : Nat} (hv : 0x800 ≤ v) (hv' : v < 0x10000)
    (hvalid : v < 0xD800 ∨ 0xDFFF < v) (rest : List UInt8) :
    decodeLossyFrom none (UInt8.ofNat (v / 4096 % 16 + 224) :: UInt8.ofNat (v / 64 % 64 + 128) ::
        UInt8.ofNat (v % 64 + 128) :: rest) =
      Char.ofNat v :: decodeLossyFrom none rest := by
  have hbits : ((v / 4096 % 16 + 224 - 0xE0) * 64 + (v / 64 % 64 + 128 - 0x80)) * 64 +
      (v % 64 + 128 - 0x80) = v := by omega
  have hlow : (if v / 4096 % 16 + 224 = 0xE0 then 0xA0 else 0x80 : UInt8).toNat ≤
      v / 64 % 64 + 128 := by
    split
    · show 160 ≤ v / 64 % 64 + 128
      omega
    · exact (inRange (v / 64)).1
  have hhigh : v / 64 % 64 + 128 ≤
      (if v / 4096 % 16 + 224 = 0xED then 0x9F else 0xBF : UInt8).toNat := by
    split
    · show v / 64 % 64 + 128 ≤ 159
      omega
    · exact (inRange (v / 64)).2
  rw [decodeLossyFrom, start_lead (by omega) (by omega), if_neg (by omega), if_pos (by omega)]
  dsimp only
  rw [decodeLossyFrom_next (by omega) hlow hhigh,
    decodeLossyFrom_last (by omega) (inRange v).1 (inRange v).2, hbits]

/-- Of four bytes the first leaves a range to the second that keeps out overlong forms and what
is past the last character. -/
theorem decodeLossyFrom_four {v : Nat} (hv : 0x10000 ≤ v) (hv' : v < 0x110000)
    (rest : List UInt8) :
    decodeLossyFrom none (UInt8.ofNat (v / 262144 % 8 + 240) ::
        UInt8.ofNat (v / 4096 % 64 + 128) :: UInt8.ofNat (v / 64 % 64 + 128) ::
        UInt8.ofNat (v % 64 + 128) :: rest) =
      Char.ofNat v :: decodeLossyFrom none rest := by
  have hbits : (((v / 262144 % 8 + 240 - 0xF0) * 64 + (v / 4096 % 64 + 128 - 0x80)) * 64 +
      (v / 64 % 64 + 128 - 0x80)) * 64 + (v % 64 + 128 - 0x80) = v := by omega
  have hlow : (if v / 262144 % 8 + 240 = 0xF0 then 0x90 else 0x80 : UInt8).toNat ≤
      v / 4096 % 64 + 128 := by
    split
    · show 144 ≤ v / 4096 % 64 + 128
      omega
    · exact (inRange (v / 4096)).1
  have hhigh : v / 4096 % 64 + 128 ≤
      (if v / 262144 % 8 + 240 = 0xF4 then 0x8F else 0xBF : UInt8).toNat := by
    split
    · show v / 4096 % 64 + 128 ≤ 143
      omega
    · exact (inRange (v / 4096)).2
  rw [decodeLossyFrom, start_lead (by omega) (by omega), if_neg (by omega), if_neg (by omega)]
  dsimp only
  rw [decodeLossyFrom_next (by omega) hlow hhigh,
    decodeLossyFrom_next (by omega) (inRange (v / 64)).1 (inRange (v / 64)).2,
    decodeLossyFrom_last (by omega) (inRange v).1 (inRange v).2, hbits]

/-- A character is read back from its bytes, whatever follows them. -/
theorem decodeLossyFrom_encodeChar (c : Char) (rest : List UInt8) :
    decodeLossyFrom none (String.utf8EncodeChar c ++ rest) = c :: decodeLossyFrom none rest := by
  have hvalid : c.toNat < 0xD800 ∨ 0xDFFF < c.toNat ∧ c.toNat < 0x110000 := c.valid
  have hchar : Char.ofNat c.toNat = c := Char.ofNat_toNat c
  unfold String.utf8EncodeChar
  rw [Char.toNat_val]
  dsimp only
  split_ifs with h1 h2 h3
  · rw [List.singleton_append, decodeLossyFrom_one (by omega), hchar]
  · rw [List.cons_append, List.singleton_append, decodeLossyFrom_two (by omega) (by omega), hchar]
  · rw [List.cons_append, List.cons_append, List.singleton_append,
      decodeLossyFrom_three (by omega) (by omega) (by omega), hchar]
  · rw [List.cons_append, List.cons_append, List.cons_append, List.singleton_append,
      decodeLossyFrom_four (by omega) (by omega), hchar]

/-- **A text is read back from its bytes.** -/
theorem decodeLossy_encode : ∀ text : List Char, decodeLossy (encode text) = text
  | [] => rfl
  | c :: text => by
    have ih : decodeLossyFrom none (encode text) = text := decodeLossy_encode text
    rw [decodeLossy, encode, List.flatMap_cons, decodeLossyFrom_encodeChar, ← encode, ih]

/-! ### Bytes below 0x80 -/

theorem encodeChar_of_ascii_mem {b : UInt8} (hb : b.toNat < 0x80)
    (h : b ∈ String.utf8EncodeChar c) : c = Char.ofNat b.toNat := by
  have hnot : ∀ n, n < 128 → b ≠ UInt8.ofNat (n + 128) := by
    rintro n hn rfl
    rw [toNat_ofNat (by omega)] at hb
    omega
  have hvalid : c.toNat < 0xD800 ∨ 0xDFFF < c.toNat ∧ c.toNat < 0x110000 := c.valid
  unfold String.utf8EncodeChar at h
  rw [Char.toNat_val] at h
  dsimp only at h
  split_ifs at h with h1 h2 h3
  · obtain rfl := List.mem_singleton.mp h
    rw [toNat_ofNat (by omega), Char.ofNat_toNat]
  · simp only [List.mem_cons, List.not_mem_nil, or_false] at h
    rcases h with h | h
    · exact absurd h (hnot (c.toNat / 64 % 32 + 64) (by omega))
    · exact absurd h (hnot (c.toNat % 64) (by omega))
  · simp only [List.mem_cons, List.not_mem_nil, or_false] at h
    rcases h with h | h | h
    · exact absurd h (hnot (c.toNat / 4096 % 16 + 96) (by omega))
    · exact absurd h (hnot (c.toNat / 64 % 64) (by omega))
    · exact absurd h (hnot (c.toNat % 64) (by omega))
  · simp only [List.mem_cons, List.not_mem_nil, or_false] at h
    rcases h with h | h | h | h
    · exact absurd h (hnot (c.toNat / 262144 % 8 + 112) (by omega))
    · exact absurd h (hnot (c.toNat / 4096 % 64) (by omega))
    · exact absurd h (hnot (c.toNat / 64 % 64) (by omega))
    · exact absurd h (hnot (c.toNat % 64) (by omega))

theorem mem_of_ascii_mem_encode {b : UInt8} (hb : b.toNat < 0x80) (h : b ∈ encode text) :
    Char.ofNat b.toNat ∈ text := by
  rw [encode, List.mem_flatMap] at h
  obtain ⟨c, hc, hmem⟩ := h
  rw [← encodeChar_of_ascii_mem hb hmem]
  exact hc

theorem ascii_of_ascii_encode (h : ∀ b ∈ encode text, b.toNat < 0x80) :
    ∀ c ∈ text, c.toNat < 0x80 := by
  intro c hc
  obtain ⟨b, hb⟩ := List.exists_mem_of_ne_nil (String.utf8EncodeChar c)
    String.utf8EncodeChar_ne_nil
  have hlow : b.toNat < 0x80 := h b (List.mem_flatMap.mpr ⟨c, hc, hb⟩)
  have hself : ∀ n < 0x80, (Char.ofNat n).toNat < 0x80 := by decide
  rw [encodeChar_of_ascii_mem hlow hb]
  exact hself b.toNat hlow

theorem encodeChar_of_ascii (h : c.toNat < 0x80) :
    String.utf8EncodeChar c = [UInt8.ofNat c.toNat] := by
  unfold String.utf8EncodeChar
  rw [Char.toNat_val]
  exact if_pos (Nat.le_of_lt_succ h)

theorem encode_of_ascii (h : ∀ c ∈ text, c.toNat < 0x80) :
    encode text = text.map fun c => UInt8.ofNat c.toNat := by
  rw [encode, List.map_eq_flatMap]
  exact List.flatMap_congr fun c hc => encodeChar_of_ascii (h c hc)

theorem encode_append (text text' : List Char) :
    encode (text ++ text') = encode text ++ encode text' :=
  List.flatMap_append

/-- If the last byte is below 0x80, it is the last character. -/
theorem getLast?_of_ascii_encode {b : UInt8} (hb : b.toNat < 0x80)
    (h : (encode text).getLast? = some b) : text.getLast? = some (Char.ofNat b.toNat) := by
  rcases List.eq_nil_or_concat text with rfl | ⟨front, last, rfl⟩
  · cases h
  have hlast : encode [last] = String.utf8EncodeChar last := List.append_nil _
  rw [List.concat_eq_append, encode_append, hlast,
    List.getLast?_append_of_ne_nil _ String.utf8EncodeChar_ne_nil] at h
  have hchar : last = Char.ofNat b.toNat :=
    encodeChar_of_ascii_mem hb (List.mem_of_mem_getLast? h)
  rw [List.concat_eq_append, List.getLast?_concat, hchar]

end Halyard.Text.Utf8
