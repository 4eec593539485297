import ConnectorConsole.Proofs.Text.Utf8ReadBack

/-!
# Bytes that are text

The bytes that are read for a character are those that the character is written with, since
each of them lies in the range that the bytes before it leave open.  Bytes are therefore decoded
exactly when they are the encoding of a text, and then to that text.
-/

namespace ConnectorConsole

namespace Utf8

section Written

variable {first second third fourth : UInt8}

theorem toNat_ofNat_of_valid {code : Nat} (valid : code.isValidChar) :
    (Char.ofNat code).val.toNat = code := by
  rw [Char.ofNat, dif_pos valid]
  rfl

theorem ofNat_eq_of_toNat {code : Nat} (byte : UInt8) (same : code = byte.toNat) :
    UInt8.ofNat code = byte := by
  rw [same, UInt8.ofNat_toNat]

theorem written_one (ascii : first.toNat < 0x80) :
    String.utf8EncodeChar (Char.ofNat first.toNat) = [first] := by
  rw [String.utf8EncodeChar, toNat_ofNat_of_valid (Or.inl (by omega)), if_pos (by omega),
    UInt8.ofNat_toNat]

theorem written_two (least : 0xC2 ≤ first.toNat) (greatest : first.toNat < 0xE0)
    (above : 0x80 ≤ second.toNat) (below : second.toNat ≤ 0xBF) :
    String.utf8EncodeChar (Char.ofNat (first.toNat % 0x20 * 0x40 + second.toNat % 0x40)) =
      [first, second] := by
  rw [String.utf8EncodeChar, toNat_ofNat_of_valid (Or.inl (by omega)), if_neg (by omega),
    if_pos (by omega), ofNat_eq_of_toNat first (by omega), ofNat_eq_of_toNat second (by omega)]

theorem written_three (least : 0xE0 ≤ first.toNat) (greatest : first.toNat < 0xF0)
    (above : 0x80 ≤ second.toNat) (below : second.toNat ≤ 0xBF)
    (needed : first.toNat = 0xE0 → 0xA0 ≤ second.toNat)
    (noSurrogate : first.toNat = 0xED → second.toNat ≤ 0x9F)
    (thirdAbove : 0x80 ≤ third.toNat) (thirdBelow : third.toNat ≤ 0xBF) :
    String.utf8EncodeChar (Char.ofNat
        ((first.toNat % 0x10 * 0x40 + second.toNat % 0x40) * 0x40 + third.toNat % 0x40)) =
      [first, second, third] := by
  have valid : Nat.isValidChar
      ((first.toNat % 0x10 * 0x40 + second.toNat % 0x40) * 0x40 + third.toNat % 0x40) := by
    rw [Nat.isValidChar]
    omega
  rw [String.utf8EncodeChar, toNat_ofNat_of_valid valid, if_neg (by omega), if_neg (by omega),
    if_pos (by omega), ofNat_eq_of_toNat first (by omega), ofNat_eq_of_toNat second (by omega),
    ofNat_eq_of_toNat third (by omega)]

theorem written_four (least : 0xF0 ≤ first.toNat) (greatest : first.toNat ≤ 0xF4)
    (above : 0x80 ≤ second.toNat) (below : second.toNat ≤ 0xBF)
    (needed : first.toNat = 0xF0 → 0x90 ≤ second.toNat)
    (inRange : first.toNat = 0xF4 → second.toNat ≤ 0x8F)
    (thirdAbove : 0x80 ≤ third.toNat) (thirdBelow : third.toNat ≤ 0xBF)
    (fourthAbove : 0x80 ≤ fourth.toNat) (fourthBelow : fourth.toNat ≤ 0xBF) :
    String.utf8EncodeChar (Char.ofNat
        (((first.toNat % 0x08 * 0x40 + second.toNat % 0x40) * 0x40 + third.toNat % 0x40) * 0x40 +
          fourth.toNat % 0x40)) =
      [first, second, third, fourth] := by
  have valid : Nat.isValidChar
      (((first.toNat % 0x08 * 0x40 + second.toNat % 0x40) * 0x40 + third.toNat % 0x40) * 0x40 +
        fourth.toNat % 0x40) := by
    rw [Nat.isValidChar]
    omega
  rw [String.utf8EncodeChar, toNat_ofNat_of_valid valid, if_neg (by omega), if_neg (by omega),
    if_neg (by omega), ofNat_eq_of_toNat first (by omega), ofNat_eq_of_toNat second (by omega),
    ofNat_eq_of_toNat third (by omega), ofNat_eq_of_toNat fourth (by omega)]

end Written

/-- After the bytes seen, all those that the beginning admits complete the encoding of a
character. -/
inductive Leads : List UInt8 → Pending → Prop where
  | last {seen : List UInt8} {low high : UInt8} {bits : Nat}
      (completes : ∀ byte : UInt8, low ≤ byte → byte ≤ high →
        String.utf8EncodeChar (Char.ofNat (bits * 0x40 + byte.toNat % 0x40)) = seen ++ [byte]) :
      Leads seen ⟨1, low, high, bits⟩
  | more {seen : List UInt8} {owed : Nat} {low high : UInt8} {bits : Nat}
      (continues : ∀ byte : UInt8, low ≤ byte → byte ≤ high →
        Leads (seen ++ [byte]) ⟨owed + 1, 0x80, 0xBF, bits * 0x40 + byte.toNat % 0x40⟩) :
      Leads seen ⟨owed + 2, low, high, bits⟩

section Opened

variable {byte : UInt8}

theorem leads_two (least : 0xC2 ≤ byte.toNat) (greatest : byte.toNat < 0xE0) :
    Leads [byte] ⟨1, 0x80, 0xBF, byte.toNat % 0x20⟩ :=
  .last fun _ above below => written_two least greatest (UInt8.le_iff_toNat_le.mp above)
    (UInt8.le_iff_toNat_le.mp below)

theorem leads_three (least : 0xE0 ≤ byte.toNat) (greatest : byte.toNat < 0xF0) {low high : UInt8}
    (lowest : 0x80 ≤ low.toNat) (highest : high.toNat ≤ 0xBF)
    (needed : byte.toNat = 0xE0 → 0xA0 ≤ low.toNat)
    (noSurrogate : byte.toNat = 0xED → high.toNat ≤ 0x9F) :
    Leads [byte] ⟨2, low, high, byte.toNat % 0x10⟩ := by
  refine .more fun second above below => .last fun third thirdAbove thirdBelow => ?_
  rw [UInt8.le_iff_toNat_le] at above below thirdAbove thirdBelow
  exact written_three least greatest (by omega) (by omega) (by omega) (by omega) thirdAbove
    thirdBelow

theorem leads_four (least : 0xF0 ≤ byte.toNat) (greatest : byte.toNat ≤ 0xF4) {low high : UInt8}
    (lowest : 0x80 ≤ low.toNat) (highest : high.toNat ≤ 0xBF)
    (needed : byte.toNat = 0xF0 → 0x90 ≤ low.toNat)
    (inRange : byte.toNat = 0xF4 → high.toNat ≤ 0x8F) :
    Leads [byte] ⟨3, low, high, byte.toNat % 0x08⟩ := by
  refine .more fun second above below => .more fun third thirdAbove thirdBelow =>
    .last fun fourth fourthAbove fourthBelow => ?_
  rw [UInt8.le_iff_toNat_le] at above below thirdAbove thirdBelow fourthAbove fourthBelow
  exact written_four least greatest (by omega) (by omega) (by omega) (by omega) thirdAbove
    thirdBelow fourthAbove fourthBelow

/-- A byte that is a character by itself is what the character is written with. -/
theorem written_of_complete {c : Char} (opens : opening byte = .complete c) :
    String.utf8EncodeChar c = [byte] := by
  rw [opening] at opens
  split_ifs at opens with ascii
  cases opens
  exact written_one (UInt8.lt_iff_toNat_lt.mp ascii)

theorem leads_of_pending {begun : Pending} (opens : opening byte = .pending begun) :
    Leads [byte] begun := by
  rw [opening] at opens
  simp only [UInt8.lt_iff_toNat_lt, ← UInt8.toNat_inj, UInt8.reduceToNat] at opens
  -- one case for each kind of first byte
  split_ifs at opens with ascii stray two least surrogates three leastOfFour four greatest
  all_goals cases opens
  · exact leads_two (by omega) two
  · have bits : byte.toNat % 0x10 = 0 := by omega
    exact bits ▸ leads_three (by omega) (by omega) (by decide) (by decide) (fun _ => by decide)
      (by omega)
  · have bits : byte.toNat % 0x10 = 0xD := by omega
    exact bits ▸ leads_three (by omega) (by omega) (by decide) (by decide) (by omega)
      (fun _ => by decide)
  · exact leads_three (by omega) three (by decide) (by decide) (by omega) (by omega)
  · have bits : byte.toNat % 0x08 = 0 := by omega
    exact bits ▸ leads_four (by omega) (by omega) (by decide) (by decide) (fun _ => by decide)
      (by omega)
  · exact leads_four (by omega) (by omega) (by decide) (by decide) (by omega) (by omega)
  · have bits : byte.toNat % 0x08 = 4 := by omega
    exact bits ▸ leads_four (by omega) (by omega) (by decide) (by decide) (by omega)
      (fun _ => by decide)

end Opened

/-- The bytes seen of a character that has begun, if one has. -/
def Begun (seen : List UInt8) : Option Pending → Prop
  | none => seen = []
  | some begun => Leads seen begun

/-- A byte is malformed or is put down to the characters that it completes or begins. -/
theorem step_written {before : Option Pending} {seen : List UInt8} (begun : Begun seen before)
    (byte : UInt8) :
    none ∈ (step before byte).1 ∨
      ∃ (chars : List Char) (left : List UInt8), (step before byte).1 = chars.map some ∧
        Begun left (step before byte).2 ∧
        seen ++ [byte] = chars.flatMap String.utf8EncodeChar ++ left := by
  cases before with
  | none =>
      obtain rfl : seen = [] := begun
      cases opens : opening byte with
      | complete c =>
          refine .inr ⟨[c], [], by simp [step, opens], ?_, ?_⟩
          · simp [step, opens, Begun]
          · simp [written_of_complete opens]
      | pending next =>
          refine .inr ⟨[], [byte], by simp [step, opens], ?_, rfl⟩
          simpa [step, opens, Begun] using leads_of_pending opens
      | malformed => exact .inl (by simp [step, opens])
  | some pending =>
      by_cases admitted : pending.low ≤ byte ∧ byte ≤ pending.high
      · cases begun with
        | @last _ low high bits completes =>
            refine .inr ⟨[Char.ofNat (bits * 0x40 + byte.toNat % 0x40)], [], ?_, ?_, ?_⟩
            · simp [step, admitted]
            · simp [step, admitted, Begun]
            · simp [completes byte admitted.1 admitted.2]
        | more continues =>
            refine .inr ⟨[], seen ++ [byte], ?_, ?_, rfl⟩
            · simp [step, admitted]
            · simpa [step, admitted, Begun] using continues byte admitted.1 admitted.2
      · refine .inl ?_
        cases opens : opening byte <;> simp [step, admitted, opens]

/-- Bytes among which none is malformed are those that their characters are written with. -/
theorem written_of_scanFrom {before : Option Pending} {seen bytes : List UInt8}
    {chars : List Char} (begun : Begun seen before)
    (isText : scanFrom before bytes = chars.map some) :
    seen ++ bytes = chars.flatMap String.utf8EncodeChar := by
  induction bytes generalizing before seen chars with
  | nil =>
      cases before with
      | none =>
          obtain rfl : chars = [] := List.map_eq_nil_iff.mp isText.symm
          exact congrArg (· ++ []) begun
      | some begun => cases chars <;> cases isText
  | cons byte rest ih =>
      rw [scanFrom] at isText
      rcases step_written begun byte with malformed | ⟨read, left, isRead, leftBegun, written⟩
      · have inText : none ∈ chars.map some := isText ▸ List.mem_append_left _ malformed
        simp at inText
      · dsimp only at isText
        rw [isRead] at isText
        obtain ⟨first, others, rfl, isFirst, isRest⟩ := List.map_eq_append_iff.mp isText.symm
        obtain rfl := (List.map_inj_right fun _ _ => Option.some.inj).mp isFirst
        calc
          seen ++ byte :: rest = (seen ++ [byte]) ++ rest := by simp
          _ = first.flatMap String.utf8EncodeChar ++ (left ++ rest) := by
              rw [written, List.append_assoc]
          _ = first.flatMap String.utf8EncodeChar ++ others.flatMap String.utf8EncodeChar := by
              rw [ih leftBegun isRest.symm]
          _ = (first ++ others).flatMap String.utf8EncodeChar := by
              rw [List.flatMap_append]

theorem mapM_id_eq_some_iff {α : Type} {values : List (Option α)} {all : List α} :
    values.mapM id = some all ↔ values = all.map some := by
  induction values generalizing all with
  | nil => cases all <;> simp
  | cons value rest ih =>
      cases value with
      | none => cases all <;> simp
      | some first =>
          cases all with
          | nil => simp [Option.bind_eq_some_iff]
          | cons other others => simp [Option.bind_eq_some_iff, ih, and_comm]

/-- Bytes are decoded exactly when they are the encoding of a text, and then to that text. -/
theorem decode?_eq_some_iff {bytes : List UInt8} {text : String} :
    decode? bytes = some text ↔ bytes = encode text := by
  rw [decode?, Option.map_eq_some_iff]
  constructor
  · rintro ⟨chars, isText, rfl⟩
    have begun : Begun [] none := rfl
    rw [encode, String.toList_ofList]
    exact written_of_scanFrom begun (mapM_id_eq_some_iff.mp isText)
  · rintro rfl
    refine ⟨text.toList, ?_, String.ofList_toList⟩
    rw [mapM_id_eq_some_iff, scan_encode]

section Ascii

variable {byte : UInt8}

theorem low_of_pending {begun : Pending} (opens : opening byte = .pending begun) :
    0x80 ≤ begun.low := by
  rw [opening] at opens
  split_ifs at opens
  all_goals
    cases opens
    dsimp only
    decide

theorem low_of_step {before : Option Pending} {begun : Pending}
    (left : (step before byte).2 = some begun) : 0x80 ≤ begun.low := by
  cases before with
  | none =>
      cases opens : opening byte with
      | complete c => simp [step, opens] at left
      | pending next =>
          obtain rfl : next = begun := by simpa [step, opens] using left
          exact low_of_pending opens
      | malformed => simp [step, opens] at left
  | some pending =>
      simp only [step] at left
      split_ifs at left with admitted last
      · cases left
        exact UInt8.le_refl _
      · cases opens : opening byte with
        | complete c => simp [opens] at left
        | pending next =>
            obtain rfl : next = begun := by simpa [opens] using left
            exact low_of_pending opens
        | malformed => simp [opens] at left

/-- A byte below 0x80 continues no character. -/
theorem scanFrom_concat (ascii : byte < 0x80) (bytes : List UInt8) {before : Option Pending}
    (lows : ∀ begun ∈ before, 0x80 ≤ begun.low) :
    scanFrom before (bytes ++ [byte]) =
      scanFrom before bytes ++ [some (Char.ofNat byte.toNat)] := by
  have opens : opening byte = .complete (Char.ofNat byte.toNat) := if_pos ascii
  induction bytes generalizing before with
  | nil =>
      cases before with
      | none => simp [scanFrom, step, opens]
      | some begun =>
          have refused : ¬(begun.low ≤ byte ∧ byte ≤ begun.high) := fun admitted =>
            absurd (UInt8.le_trans (lows begun rfl) admitted.1) (UInt8.not_le.mpr ascii)
          simp [scanFrom, step, refused, opens]
  | cons first rest ih =>
      have after : ∀ begun ∈ (step before first).2, 0x80 ≤ begun.low :=
        fun _ left => low_of_step left
      simp only [List.cons_append, scanFrom, ih after, List.append_assoc]

theorem decode?_concat (ascii : byte < 0x80) (bytes : List UInt8) :
    decode? (bytes ++ [byte]) = (decode? bytes).map fun text =>
      text.push (Char.ofNat byte.toNat) := by
  rw [decode?, scan, scanFrom_concat ascii bytes (by simp), List.mapM_append, decode?, scan]
  cases (scanFrom none bytes).mapM id with
  | none => rfl
  | some chars => simp

end Ascii

end Utf8

end ConnectorConsole
