import TransitBpp.Bits
import TransitBpp.Passes

/-!
# Base32 goes there and back

`encodeBase32` and `decodeBase32` regroup bits through one word each, eight to five and five to
eight. Both are described by the bits they have read and written: `encodeBase32From_spec` and
`decodeBase32From_spec`, with the live bits of the word in front. Neither says anything of the
others, which overflow.
-/

namespace TransitBpp.Trv11

open Bits (low low_add low_shift_or low_shift low_congr low_inj)

/-! ## Bytes and characters as bits -/

/-- The bits of a byte. -/
def byteBits (byte : Byte) : List Bool := low (BitVec.ofNat 32 byte.val) 8

@[simp] theorem length_byteBits (byte : Byte) : (byteBits byte).length = 8 := Bits.length_low _ _

theorem byteBits_injective : Function.Injective byteBits := by
  intro byte byte' h
  have hmod := low_inj h
  have hlt := byte.isLt
  have hlt' := byte'.isLt
  simp only [BitVec.toNat_ofNat] at hmod
  apply Fin.ext
  omega

/-- A byte that is pushed is the eight bits it is read off. -/
theorem byteBits_ofNat (word : BitVec 32) : byteBits (Fin.ofNat 256 word.toNat) = low word 8 := by
  apply low_congr
  intro i hi
  have hlt : i < 32 := by omega
  have hbit := Nat.testBit_mod_two_pow word.toNat 8 i
  rw [decide_eq_true hi, Bool.true_and, BitVec.testBit_toNat] at hbit
  rw [BitVec.getLsbD_ofNat, decide_eq_true hlt, Bool.true_and, ← hbit]
  rfl

theorem getLsbD_ofNat_of_lt {n k i : ℕ} (hn : n < 2 ^ k) (hi : k ≤ i) :
    (BitVec.ofNat 32 n).getLsbD i = false := by
  rw [BitVec.getLsbD_ofNat, Nat.testBit_lt_two_pow (hn.trans_le (Nat.pow_le_pow_right (by decide) hi)),
    Bool.and_false]

/-- The number of a character. -/
theorem toNat_and_31 (word : BitVec 32) : (word &&& 31).toNat = word.toNat % 32 := by
  rw [BitVec.toNat_and]
  exact Nat.and_two_pow_sub_one_eq_mod word.toNat 5

theorem findIdx_base32Char (word : BitVec 32) :
    base32Alphabet.findIdx? (· = base32Char word) = some (word.toNat % 32) := by
  have hall : ∀ i : Fin 32, base32Alphabet.findIdx? (· = base32Alphabet.getD i.val 'A') =
      some i.val := by decide
  rw [base32Char, toNat_and_31]
  exact hall ⟨word.toNat % 32, Nat.mod_lt _ (by decide)⟩

theorem base32Char_mem (word : BitVec 32) : base32Char word ∈ base32Alphabet := by
  have hall : ∀ i : Fin 32, base32Alphabet.getD i.val 'A' ∈ base32Alphabet := by decide
  rw [base32Char, toNat_and_31]
  exact hall ⟨word.toNat % 32, Nat.mod_lt _ (by decide)⟩

/-- The number a character is read as has the five bits it was written for. -/
theorem low_index (word : BitVec 32) : low (BitVec.ofNat 32 (word.toNat % 32)) 5 = low word 5 := by
  apply low_congr
  intro i hi
  have hlt : i < 32 := by omega
  have hbit := Nat.testBit_mod_two_pow word.toNat 5 i
  rw [decide_eq_true hi, Bool.true_and, BitVec.testBit_toNat] at hbit
  rw [BitVec.getLsbD_ofNat, decide_eq_true hlt, Bool.true_and, ← hbit]

/-! ## The two loops -/

theorem base32Chars_add_five (buffer : BitVec 32) (bits : ℕ) :
    base32Chars buffer (bits + 5) = (base32Char (buffer >>> bits) :: (base32Chars buffer bits).1,
      (base32Chars buffer bits).2) := rfl

theorem base32Chars_of_lt {buffer : BitVec 32} {bits : ℕ} (h : bits < 5) :
    base32Chars buffer bits = ([], bits) := by
  match bits, h with
  | 0, _ | 1, _ | 2, _ | 3, _ | 4, _ => rfl

/-- The inner loop writes the bits there are, five at a time. -/
theorem base32Chars_spec (buffer : BitVec 32) (bits : ℕ) :
    (base32Chars buffer bits).2 < 5 ∧ ∃ words : List (BitVec 32),
      (base32Chars buffer bits).1 = words.map base32Char ∧
        low buffer bits = (words.flatMap fun word => low word 5) ++
          low buffer (base32Chars buffer bits).2 := by
  induction bits using Nat.strong_induction_on with
  | h bits ih =>
    by_cases hlt : bits < 5
    · rw [base32Chars_of_lt hlt]
      exact ⟨hlt, [], rfl, rfl⟩
    · obtain ⟨rest, rfl⟩ := Nat.exists_eq_add_of_le' (Nat.le_of_not_lt hlt)
      obtain ⟨hleft, words, hchars, hbits⟩ := ih rest (by omega)
      rw [base32Chars_add_five]
      refine ⟨hleft, buffer >>> rest :: words, by rw [hchars, List.map_cons], ?_⟩
      rw [Nat.add_comm, low_add, List.flatMap_cons, List.append_assoc, ← hbits]

/-- A byte that is read goes in below the bits there are. -/
theorem low_push_byte {buffer : BitVec 32} {bits : ℕ} (h : bits < 5) (byte : Byte) :
    low (buffer <<< 8 ||| BitVec.ofNat 32 byte.val) (bits + 8) = low buffer bits ++ byteBits byte :=
  low_shift_or (by omega) fun _ hi => @getLsbD_ofNat_of_lt _ 8 _ byte.isLt hi

/-- So does a character. -/
theorem low_push_char {buffer : BitVec 32} {bits : ℕ} (h : bits < 8) (word : BitVec 32) :
    low (buffer <<< 5 ||| BitVec.ofNat 32 (word.toNat % 32)) (bits + 5) =
      low buffer bits ++ low word 5 := by
  rw [← low_index word]
  exact low_shift_or (by omega) fun _ hi =>
    @getLsbD_ofNat_of_lt _ 5 _ (Nat.mod_lt _ (by decide)) hi

/-- The characters carry the bits there are, those of the bytes and less than five zeros. -/
theorem encodeBase32From_spec {buffer : BitVec 32} {bits : ℕ} (h : bits < 5) (bytes : List Byte) :
    ∃ (words : List (BitVec 32)) (pad : ℕ), pad < 5 ∧
      encodeBase32From buffer bits bytes = words.map base32Char ∧
        low buffer bits ++ bytes.flatMap byteBits ++ List.replicate pad false =
          words.flatMap fun word => low word 5 := by
  induction bytes generalizing buffer bits with
  | nil =>
    by_cases hpos : 0 < bits
    · refine ⟨[buffer <<< (5 - bits)], 5 - bits, by omega, ?_, ?_⟩
      · rw [encodeBase32From, if_pos hpos, List.map_singleton]
      · have hshift := @low_shift 32 buffer bits (5 - bits) (by omega)
        rw [Nat.add_sub_cancel' h.le] at hshift
        rw [List.flatMap_nil, List.append_nil, List.flatMap_singleton, hshift]
    · obtain rfl : bits = 0 := by omega
      exact ⟨[], 0, by decide, rfl, rfl⟩
  | cons byte bytes ih =>
    obtain ⟨hleft, words, hchars, hbits⟩ :=
      base32Chars_spec (buffer <<< 8 ||| BitVec.ofNat 32 byte.val) (bits + 8)
    obtain ⟨words', pad, hpad, hrest, hrestBits⟩ :=
      @ih (buffer <<< 8 ||| BitVec.ofNat 32 byte.val) _ hleft
    refine ⟨words ++ words', pad, hpad, ?_, ?_⟩
    · rw [encodeBase32From, List.map_append, ← hchars, ← hrest]
    · rw [low_push_byte h] at hbits
      rw [List.flatMap_cons, ← List.append_assoc, hbits, List.flatMap_append, ← hrestBits]
      simp only [List.append_assoc]

/-- The bytes are the bits there are and those of the characters, but for less than eight. -/
theorem decodeBase32From_spec {buffer : BitVec 32} {bits : ℕ} (h : bits < 8)
    (words : List (BitVec 32)) :
    ∃ (bytes : List Byte) (rest : List Bool), rest.length < 8 ∧
      decodeBase32From buffer bits (words.map base32Char) = .ok bytes ∧
        low buffer bits ++ (words.flatMap fun word => low word 5) =
          bytes.flatMap byteBits ++ rest := by
  induction words generalizing buffer bits with
  | nil => exact ⟨[], low buffer bits, by simpa using h, rfl, by simp⟩
  | cons word words ih =>
    obtain ⟨next, hnext⟩ : ∃ next, next = buffer <<< 5 ||| BitVec.ofNat 32 (word.toNat % 32) :=
      ⟨_, rfl⟩
    have hpush := @low_push_char buffer bits h word
    rw [← hnext] at hpush
    by_cases hfull : 8 ≤ bits + 5
    · obtain ⟨bytes, rest, hrest, hok, hbits⟩ := @ih next (bits + 5 - 8) (by omega)
      refine ⟨Fin.ofNat 256 (next >>> (bits + 5 - 8)).toNat :: bytes, rest, hrest, ?_, ?_⟩
      · simp only [List.map_cons, decodeBase32From, findIdx_base32Char, if_pos hfull, ← hnext, hok]
        rfl
      · have hsplit : bits + 5 = 8 + (bits + 5 - 8) := by omega
        rw [hsplit, low_add] at hpush
        rw [List.flatMap_cons, List.flatMap_cons, byteBits_ofNat, List.append_assoc, ← hbits,
          ← List.append_assoc, ← List.append_assoc, ← hpush]
    · obtain ⟨bytes, rest, hrest, hok, hbits⟩ := @ih next (bits + 5) (by omega)
      refine ⟨bytes, rest, hrest, ?_, ?_⟩
      · simp only [List.map_cons, decodeBase32From, findIdx_base32Char, if_neg hfull, ← hnext, hok]
      · rw [List.flatMap_cons, ← List.append_assoc, ← hpush, hbits]

/-! ## Padding and letter case -/

theorem toNat_lt_of_toUpper {c : Char} (h : c.toUpper ∈ base32Alphabet) : c.toNat < 128 := by
  have hall : base32Alphabet.all (fun c => decide (c.toNat < 128)) := by decide
  simp only [List.all_eq_true, decide_eq_true_eq] at hall
  by_cases hlower : 'a'.val ≤ c.val ∧ c.val ≤ 'z'.val
  · have hle : c.val.toNat ≤ 122 := hlower.2
    exact Nat.lt_of_le_of_lt hle (by decide)
  · have hself : c.toUpper = c := dif_neg hlower
    rw [hself] at h
    exact hall c h

/-- An ASCII letter is one letter in upper case. -/
theorem upper_of_toUpper {c : Char} (h : c.toUpper ∈ base32Alphabet) : upper c = [c.toUpper] := by
  have hlt := toNat_lt_of_toUpper h
  rw [upper]
  split <;> first | omega | rfl

/-- The characters are left, whatever padding and letter case they were given. -/
theorem normalized_eq {chars cs : List Char} (hchars : ∀ c ∈ chars, c ∈ base32Alphabet)
    (hcase : List.Forall₂ (fun c c' => c'.toUpper = c) chars cs) (pads : ℕ) :
    ((cs ++ List.replicate pads '=').reverse.dropWhile (· = '=')).reverse.flatMap upper = chars := by
  have hupper : cs.flatMap upper = chars := by
    clear pads
    induction hcase with
    | nil => rfl
    | @cons c c' chars cs hc _ ih =>
      have hmem : c'.toUpper ∈ base32Alphabet := hc ▸ hchars c List.mem_cons_self
      rw [List.flatMap_cons, upper_of_toUpper hmem, hc,
        ih fun c hc => hchars c (List.mem_cons_of_mem _ hc), List.singleton_append]
  have hnot : ∀ c ∈ cs, c ≠ '=' := by
    clear hupper
    induction hcase with
    | nil => intro c hc; cases hc
    | @cons c c' chars cs hc _ ih =>
      intro d hd
      rcases List.mem_cons.mp hd with rfl | hrest
      · rintro rfl
        exact absurd (hc ▸ hchars c List.mem_cons_self) (by decide)
      · exact ih (fun c hc => hchars c (List.mem_cons_of_mem _ hc)) d hrest
  have hdrop : (cs ++ List.replicate pads '=').reverse.dropWhile (· = '=') = cs.reverse := by
    rw [List.reverse_append, List.reverse_replicate, List.dropWhile_append_of_pos (by simp)]
    cases hrev : cs.reverse with
    | nil => rfl
    | cons c rest =>
      have hc : c ∈ cs := List.mem_reverse.mp (hrev ▸ List.mem_cons_self)
      rw [List.dropWhile_cons_of_neg (by simpa using hnot c hc)]
  rw [hdrop, List.reverse_reverse, hupper]

/-! ## The result -/

/-- What was encoded is decoded, with any padding and in any letter case. -/
theorem base32_round_trip (bytes : List Byte) :
    decodeBase32 (encodeBase32 bytes) = .ok bytes ∧
      (encodeBase32 bytes).toList.length = ⌈(8 * bytes.length : ℚ) / 5⌉₊ ∧
      (∀ c ∈ (encodeBase32 bytes).toList, c ∈ base32Alphabet) ∧
      ∀ (cs : List Char) (pads : ℕ),
        List.Forall₂ (fun c c' => c'.toUpper = c) (encodeBase32 bytes).toList cs →
          decodeBase32 (String.ofList (cs ++ List.replicate pads '=')) = .ok bytes := by
  obtain ⟨words, pad, hpad, hchars, hbits⟩ :=
    @encodeBase32From_spec 0 0 (by decide) bytes
  have hencoded : (encodeBase32 bytes).toList = words.map base32Char := by
    rw [encodeBase32, hchars, String.toList_ofList]
  have halphabet : ∀ c ∈ words.map base32Char, c ∈ base32Alphabet := by
    intro c hc
    obtain ⟨word, -, rfl⟩ := List.mem_map.mp hc
    exact base32Char_mem word
  have hdecoded : decodeBase32From 0 0 (words.map base32Char) = .ok bytes := by
    obtain ⟨bytes', rest, hrest, hok, hread⟩ := @decodeBase32From_spec 0 0 (by decide) words
    rw [hok]
    -- both are the bytes of one list of bits, the padding too short for another
    have hsame : bytes.flatMap byteBits ++ List.replicate pad false =
        bytes'.flatMap byteBits ++ rest := by
      have hzero : ∀ bits, low (0 : BitVec 32) 0 ++ bits = bits := fun _ => rfl
      rw [List.append_assoc, hzero] at hbits
      rw [hzero] at hread
      exact hbits.trans hread
    have hmap := Bits.flatMap_append_inj length_byteBits hsame (by simp; omega) hrest
    rw [List.map_injective_iff.mpr byteBits_injective hmap]
  have hany : ∀ (cs : List Char) (pads : ℕ),
      List.Forall₂ (fun c c' => c'.toUpper = c) (words.map base32Char) cs →
        decodeBase32 (String.ofList (cs ++ List.replicate pads '=')) = .ok bytes := by
    intro cs pads hcase
    rw [decodeBase32, String.toList_ofList, normalized_eq halphabet hcase, hdecoded]
  refine ⟨?_, ?_, ?_, ?_⟩
  · have hupper : base32Alphabet.all (fun c => decide (c.toUpper = c)) := by decide
    simp only [List.all_eq_true, decide_eq_true_eq] at hupper
    have hself : List.Forall₂ (fun c c' => c'.toUpper = c) (words.map base32Char)
        (words.map base32Char) :=
      List.forall₂_same.mpr fun c hc => hupper c (halphabet c hc)
    have hround := hany _ 0 hself
    rw [List.replicate_zero, List.append_nil, ← hencoded, String.ofList_toList] at hround
    exact hround
  · have hlen := congrArg List.length hbits
    simp only [List.length_append, Bits.length_low, List.length_flatMap, length_byteBits,
      List.length_replicate, List.map_const', List.sum_replicate_nat] at hlen
    have hlenQ : (8 * bytes.length : ℚ) + pad = words.length * 5 := by
      exact_mod_cast (by omega : 8 * bytes.length + pad = words.length * 5)
    have hpadQ : (pad : ℚ) < 5 := by exact_mod_cast hpad
    have hpad0 : (0 : ℚ) ≤ pad := Nat.cast_nonneg pad
    rw [hencoded, List.length_map]
    apply le_antisymm
    · by_contra hlt
      have hle := Nat.le_ceil ((8 * bytes.length : ℚ) / 5)
      have hsucc : (⌈(8 * bytes.length : ℚ) / 5⌉₊ : ℚ) + 1 ≤ words.length := by
        exact_mod_cast Nat.lt_of_not_le hlt
      rw [div_le_iff₀ (by norm_num)] at hle
      linarith
    · rw [Nat.ceil_le, div_le_iff₀ (by norm_num)]
      linarith
  · rw [hencoded]
    exact halphabet
  · rw [hencoded]
    exact hany

end TransitBpp.Trv11
