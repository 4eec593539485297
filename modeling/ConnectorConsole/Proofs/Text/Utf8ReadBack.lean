import ConnectorConsole.Text.Utf8
import Mathlib.Tactic.IntervalCases

/-!
# Texts read back from their bytes

The first byte of a character opens a sequence of the right length, and every byte after
it lies in the range that the sequence admits.  The bytes of a character are therefore
read as that character, whatever follows them, and a text is read back from its bytes.
-/

namespace ConnectorConsole

namespace Utf8

theorem scanFrom_complete {byte : UInt8} {c : Char} (opens : opening byte = .complete c)
    (rest : List UInt8) : scanFrom none (byte :: rest) = some c :: scanFrom none rest := by
  simp only [scanFrom, step, opens, List.singleton_append]

theorem scanFrom_pending {byte : UInt8} {begun : Pending} (opens : opening byte = .pending begun)
    (rest : List UInt8) : scanFrom none (byte :: rest) = scanFrom (some begun) rest := by
  simp only [scanFrom, step, opens, List.nil_append]

section Continuation

variable {owed bits six : Nat} {low high : UInt8}

theorem continuation_toNat (small : six < 64) : (UInt8.ofNat (six + 128)).toNat = six + 128 := by
  rw [UInt8.toNat_ofNat']
  omega

theorem step_continuation (small : six < 64) (above : low.toNat ≤ six + 128)
    (below : six + 128 ≤ high.toNat) :
    step (some ⟨owed, low, high, bits⟩) (UInt8.ofNat (six + 128)) =
      if owed ≤ 1 then ([some (Char.ofNat (bits * 64 + six))], none)
      else ([], some ⟨owed - 1, 0x80, 0xBF, bits * 64 + six⟩) := by
  have value := continuation_toNat small
  have inRange : low ≤ UInt8.ofNat (six + 128) ∧ UInt8.ofNat (six + 128) ≤ high := by
    rw [UInt8.le_iff_toNat_le, UInt8.le_iff_toNat_le, value]
    exact ⟨above, below⟩
  have sixBits : (UInt8.ofNat (six + 128)).toNat % 64 = six := by
    rw [value]
    omega
  simp only [step, inRange, and_self, ↓reduceIte, sixBits]

/-- A byte that more bytes follow adds six bits. -/
theorem scanFrom_continue (small : six < 64) (above : low.toNat ≤ six + 128)
    (below : six + 128 ≤ high.toNat) (rest : List UInt8) :
    scanFrom (some ⟨owed + 2, low, high, bits⟩) (UInt8.ofNat (six + 128) :: rest) =
      scanFrom (some ⟨owed + 1, 0x80, 0xBF, bits * 64 + six⟩) rest := by
  rw [scanFrom, step_continuation small above below, if_neg (by omega)]
  rfl

/-- The last byte of a character completes it. -/
theorem scanFrom_last (small : six < 64) (above : low.toNat ≤ six + 128)
    (below : six + 128 ≤ high.toNat) (rest : List UInt8) :
    scanFrom (some ⟨1, low, high, bits⟩) (UInt8.ofNat (six + 128) :: rest) =
      some (Char.ofNat (bits * 64 + six)) :: scanFrom none rest := by
  rw [scanFrom, step_continuation small above below, if_pos le_rfl]
  rfl

/-- The bytes that are admitted after the first ones, whatever those are. -/
theorem any_above (six : Nat) : (0x80 : UInt8).toNat ≤ six + 128 :=
  Nat.le_add_left 128 six

theorem any_below (small : six < 64) : six + 128 ≤ (0xBF : UInt8).toNat :=
  Nat.add_le_add_right (Nat.le_of_lt_succ small) 128

theorem lowest_le {special : Prop} [Decidable special] (inside : special → low.toNat ≤ six + 128) :
    (if special then low else 0x80).toNat ≤ six + 128 := by
  split_ifs with isSpecial
  · exact inside isSpecial
  · exact any_above six

theorem le_highest {special : Prop} [Decidable special] (small : six < 64)
    (inside : special → six + 128 ≤ high.toNat) :
    six + 128 ≤ (if special then high else 0xBF).toNat := by
  split_ifs with isSpecial
  · exact inside isSpecial
  · exact any_below small

end Continuation

theorem opening_one {code : Nat} (ascii : code < 128) :
    opening (UInt8.ofNat code) = .complete (Char.ofNat code) := by
  have value : (UInt8.ofNat code).toNat = code := by
    rw [UInt8.toNat_ofNat']
    omega
  have isAscii : UInt8.ofNat code < 0x80 := by
    rw [UInt8.lt_iff_toNat_lt, value]
    exact ascii
  rw [opening, if_pos isAscii, value]

theorem opening_two {lead : Nat} (least : 2 ≤ lead) (greatest : lead < 32) :
    opening (UInt8.ofNat (lead + 192)) = .pending ⟨1, 0x80, 0xBF, lead⟩ := by
  interval_cases lead <;> rfl

theorem opening_three {lead : Nat} (greatest : lead < 16) :
    opening (UInt8.ofNat (lead + 224)) =
      .pending ⟨2, if lead = 0 then 0xA0 else 0x80, if lead = 13 then 0x9F else 0xBF, lead⟩ := by
  interval_cases lead <;> rfl

theorem opening_four {lead : Nat} (greatest : lead < 5) :
    opening (UInt8.ofNat (lead + 240)) =
      .pending ⟨3, if lead = 0 then 0x90 else 0x80, if lead = 4 then 0x8F else 0xBF, lead⟩ := by
  interval_cases lead <;> rfl

section Sequences

variable {lead first second third : Nat}

theorem scanFrom_two (least : 2 ≤ lead) (greatest : lead < 32) (small : first < 64)
    (rest : List UInt8) :
    scanFrom none (UInt8.ofNat (lead + 192) :: UInt8.ofNat (first + 128) :: rest) =
      some (Char.ofNat (lead * 64 + first)) :: scanFrom none rest := by
  rw [scanFrom_pending (opening_two least greatest),
    scanFrom_last small (any_above first) (any_below small)]

/-- The range of the second byte leaves out characters that need fewer bytes, and surrogates. -/
theorem scanFrom_three (greatest : lead < 16) (firstSmall : first < 64) (secondSmall : second < 64)
    (needed : lead = 0 → 32 ≤ first) (noSurrogate : lead = 13 → first < 32) (rest : List UInt8) :
    scanFrom none (UInt8.ofNat (lead + 224) :: UInt8.ofNat (first + 128) ::
        UInt8.ofNat (second + 128) :: rest) =
      some (Char.ofNat ((lead * 64 + first) * 64 + second)) :: scanFrom none rest := by
  have above : (if lead = 0 then 0xA0 else 0x80 : UInt8).toNat ≤ first + 128 :=
    lowest_le fun isLeast => Nat.add_le_add_right (needed isLeast) 128
  have below : first + 128 ≤ (if lead = 13 then 0x9F else 0xBF : UInt8).toNat :=
    le_highest firstSmall fun isSurrogate =>
      Nat.add_le_add_right (Nat.le_of_lt_succ (noSurrogate isSurrogate)) 128
  rw [scanFrom_pending (opening_three greatest), scanFrom_continue firstSmall above below,
    scanFrom_last secondSmall (any_above second) (any_below secondSmall)]

/-- The range of the second byte leaves out characters that need fewer bytes, and those
beyond the last one. -/
theorem scanFrom_four (greatest : lead < 5) (firstSmall : first < 64) (secondSmall : second < 64)
    (thirdSmall : third < 64) (needed : lead = 0 → 16 ≤ first) (inRange : lead = 4 → first < 16)
    (rest : List UInt8) :
    scanFrom none (UInt8.ofNat (lead + 240) :: UInt8.ofNat (first + 128) ::
        UInt8.ofNat (second + 128) :: UInt8.ofNat (third + 128) :: rest) =
      some (Char.ofNat (((lead * 64 + first) * 64 + second) * 64 + third)) ::
        scanFrom none rest := by
  have above : (if lead = 0 then 0x90 else 0x80 : UInt8).toNat ≤ first + 128 :=
    lowest_le fun isLeast => Nat.add_le_add_right (needed isLeast) 128
  have below : first + 128 ≤ (if lead = 4 then 0x8F else 0xBF : UInt8).toNat :=
    le_highest firstSmall fun isGreatest =>
      Nat.add_le_add_right (Nat.le_of_lt_succ (inRange isGreatest)) 128
  rw [scanFrom_pending (opening_four greatest), scanFrom_continue firstSmall above below,
    scanFrom_continue secondSmall (any_above second) (any_below secondSmall),
    scanFrom_last thirdSmall (any_above third) (any_below thirdSmall)]

end Sequences

/-- The bytes of a character are read as that character. -/
theorem scanFrom_utf8EncodeChar (c : Char) (rest : List UInt8) :
    scanFrom none (String.utf8EncodeChar c ++ rest) = some c :: scanFrom none rest := by
  have valid : c.toNat < 0xD800 ∨ 0xDFFF < c.toNat ∧ c.toNat < 0x110000 := c.valid
  have isCode : c.val.toNat = c.toNat := rfl
  have same {code : Nat} (isSame : code = c.toNat) : Char.ofNat code = c := by
    rw [isSame, Char.ofNat_toNat]
  rw [String.utf8EncodeChar, isCode]
  generalize c.toNat = code at *
  -- one case for each number of bytes, by the code point
  split_ifs with one two three
  · rw [List.singleton_append, scanFrom_complete (opening_one (by omega)), same rfl]
  · have lead : code / 64 % 32 = code / 64 := by omega
    rw [lead]
    exact (scanFrom_two (by omega) (by omega) (by omega) rest).trans (by rw [same (by omega)])
  · have lead : code / 4096 % 16 = code / 4096 := by omega
    rw [lead]
    exact (scanFrom_three (by omega) (by omega) (by omega) (by omega) (by omega) rest).trans
      (by rw [same (by omega)])
  · have lead : code / 262144 % 8 = code / 262144 := by omega
    rw [lead]
    exact (scanFrom_four (by omega) (by omega) (by omega) (by omega) (by omega) (by omega)
      rest).trans (by rw [same (by omega)])

theorem scan_encode (text : String) : scan (encode text) = text.toList.map some := by
  rw [scan, encode]
  induction text.toList with
  | nil => rfl
  | cons c rest ih => rw [List.flatMap_cons, scanFrom_utf8EncodeChar, ih, List.map_cons]

/-- A text is read back from its bytes. -/
theorem repair_encode (text : String) : repair (encode text) = text := by
  have chars : (text.toList.map some).map (fun char => char.getD '\ufffd') = text.toList := by
    rw [List.map_map]
    exact List.map_id _
  rw [repair, scan_encode, chars, String.ofList_toList]

end Utf8

end ConnectorConsole
