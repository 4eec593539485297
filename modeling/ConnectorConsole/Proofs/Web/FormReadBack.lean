import ConnectorConsole.Proofs.Text.Splitting
import ConnectorConsole.Proofs.Text.Utf8ReadBack
import ConnectorConsole.Web.FormEncoding

/-!
# Form-encoded pairs read back

An encoded name or value consists of plain characters, plus signs and percent signs, so
that neither the equals sign inside a pair nor the ampersands between pairs can be taken
for a part of it.  Pairs are therefore read back from their encoded form, whatever texts
they hold.
-/

namespace ConnectorConsole

namespace Percent

theorem decodeBytes_cons {byte : UInt8} (notMark : byte ≠ 0x25) (rest : List UInt8) :
    decodeBytes (byte :: rest) = byte :: decodeBytes rest := by
  rw [decodeBytes]
  intro _ _ _ isMark
  exact absurd isMark notMark

theorem utf8EncodeChar_ascii {c : Char} (ascii : c.toNat < 128) :
    String.utf8EncodeChar c = [UInt8.ofNat c.toNat] := by
  have fits : c.val.toNat ≤ 0x7F := Nat.le_of_lt_succ ascii
  rw [String.utf8EncodeChar]
  exact if_pos fits

theorem hexByte?_hexDigit :
    ∀ number < 16, hexByte? (UInt8.ofNat (hexDigit number).toNat) = some number := by
  decide

theorem hexDigit_ascii : ∀ number < 16, (hexDigit number).toNat < 128 := by
  decide

/-- An encoded byte is read back. -/
theorem decodeBytes_encodeByte (byte : UInt8) (rest : List UInt8) :
    decodeBytes ((encodeByte byte).flatMap String.utf8EncodeChar ++ rest) =
      byte :: decodeBytes rest := by
  have small : byte.toNat < 256 := byte.toNat_lt
  have high : byte.toNat / 16 < 16 := by omega
  have low : byte.toNat % 16 < 16 := by omega
  have whole : 16 * (byte.toNat / 16) + byte.toNat % 16 = byte.toNat := Nat.div_add_mod _ _
  have mark : String.utf8EncodeChar '%' = [0x25] := rfl
  simp only [encodeByte, List.flatMap_cons, List.flatMap_nil, mark,
    utf8EncodeChar_ascii (hexDigit_ascii _ high), utf8EncodeChar_ascii (hexDigit_ascii _ low),
    List.cons_append, List.nil_append]
  rw [decodeBytes]
  simp only [hexByte?_hexDigit _ high, hexByte?_hexDigit _ low, whole, UInt8.ofNat_toNat]

theorem decodeBytes_encodeBytes (bytes rest : List UInt8) :
    decodeBytes ((bytes.flatMap encodeByte).flatMap String.utf8EncodeChar ++ rest) =
      bytes ++ decodeBytes rest := by
  induction bytes with
  | nil => rfl
  | cons byte bytes ih =>
      rw [List.flatMap_cons, List.flatMap_append, List.append_assoc, decodeBytes_encodeByte, ih,
        List.cons_append]

/-- A character of ASCII other than the percent sign stands for itself. -/
theorem decodeBytes_utf8EncodeChar {c : Char} (ascii : c.toNat < 128) (notPercent : c ≠ '%')
    (rest : List UInt8) :
    decodeBytes (String.utf8EncodeChar c ++ rest) = String.utf8EncodeChar c ++ decodeBytes rest := by
  have notMark : UInt8.ofNat c.toNat ≠ 0x25 := by
    intro isMark
    have value : (UInt8.ofNat c.toNat).toNat = c.toNat := by
      rw [UInt8.toNat_ofNat']
      omega
    rw [isMark] at value
    exact notPercent (by rw [← Char.ofNat_toNat c, ← value]; rfl)
  rw [utf8EncodeChar_ascii ascii]
  exact decodeBytes_cons notMark rest

end Percent

namespace FormEncoding

/-- The characters of encoded names and values. -/
def isEncoded (c : Char) : Bool :=
  isPlain c || c = '+' || c = '%'

/-- A plain character is one of ASCII, and is neither a plus sign nor a percent sign. -/
theorem isPlain_spec {c : Char} (plain : isPlain c = true) :
    c.toNat < 128 ∧ c ≠ '+' ∧ c ≠ '%' := by
  have ascii : ∀ code < 128, isPlain (Char.ofNat code) = true →
      Char.ofNat code ≠ '+' ∧ Char.ofNat code ≠ '%' := by
    decide
  have small : c.toNat < 128 := by
    by_contra large
    -- every test for a plain character compares with one of ASCII
    have letters : ∀ bound : Char, bound.toNat < 128 → ¬c ≤ bound := by
      intro bound boundSmall below
      have := UInt32.le_iff_toNat_le.mp (Char.le_def.mp below)
      exact large (lt_of_le_of_lt this boundSmall)
    have others : ∀ other : Char, other.toNat < 128 → c ≠ other := by
      rintro other otherSmall rfl
      exact large otherSmall
    simp [isPlain, isDigit, letters, others] at plain
  refine ⟨small, ?_⟩
  simpa only [Char.ofNat_toNat] using ascii c.toNat small (by rwa [Char.ofNat_toNat])

theorem isEncoded_of_mem_encodeChar {c given : Char} (member : c ∈ encodeChar given) :
    isEncoded c = true := by
  have digit : ∀ number < 16, isEncoded (Percent.hexDigit number) = true := by
    decide
  rw [encodeChar] at member
  split_ifs at member
  · rw [List.mem_singleton.mp member]
    rfl
  · rw [Percent.encodeChar] at member
    split_ifs at member with escaped
    · obtain ⟨byte, _, inByte⟩ := List.mem_flatMap.mp member
      have small : byte.toNat < 256 := byte.toNat_lt
      simp only [Percent.encodeByte, List.mem_cons, List.not_mem_nil, or_false] at inByte
      rcases inByte with rfl | rfl | rfl
      · rfl
      · exact digit _ (by omega)
      · exact digit _ (by omega)
    · rw [List.mem_singleton.mp member, isEncoded]
      simp only [Bool.not_eq_true', Bool.not_eq_false] at escaped
      simp [escaped]

theorem isEncoded_of_mem_encodeText {c : Char} {text : String}
    (member : c ∈ (encodeText text).toList) : isEncoded c = true := by
  rw [encodeText, String.toList_ofList] at member
  obtain ⟨given, _, inGiven⟩ := List.mem_flatMap.mp member
  exact isEncoded_of_mem_encodeChar inGiven

/-- No mark that sets names, values and pairs apart occurs in an encoded text. -/
theorem ne_of_mem_encodeText {c mark : Char} {text : String}
    (member : c ∈ (encodeText text).toList) (isMark : isEncoded mark = false) : c ≠ mark := by
  rintro rfl
  rw [isEncoded_of_mem_encodeText member] at isMark
  cases isMark

/-- A plus sign stands for a space. -/
def unplus (c : Char) : Char :=
  if c = '+' then ' ' else c

theorem unplus_encodeByte (byte : UInt8) :
    (Percent.encodeByte byte).map unplus = Percent.encodeByte byte := by
  have digit : ∀ number < 16, unplus (Percent.hexDigit number) = Percent.hexDigit number := by
    decide
  have small : byte.toNat < 256 := byte.toNat_lt
  have high : byte.toNat / 16 < 16 := by omega
  have low : byte.toNat % 16 < 16 := by omega
  simp only [Percent.encodeByte, List.map_cons, List.map_nil, digit _ high, digit _ low]
  rfl

theorem unplus_encodeBytes (bytes : List UInt8) :
    (bytes.flatMap Percent.encodeByte).map unplus = bytes.flatMap Percent.encodeByte := by
  rw [List.map_flatMap]
  simp only [unplus_encodeByte]

/-- The encoded form of a character is read as the bytes of the character. -/
theorem decodeBytes_encodeChar (c : Char) (rest : List UInt8) :
    Percent.decodeBytes (((encodeChar c).map unplus).flatMap String.utf8EncodeChar ++ rest) =
      String.utf8EncodeChar c ++ Percent.decodeBytes rest := by
  rw [encodeChar]
  split_ifs with isSpace
  · subst isSpace
    exact Percent.decodeBytes_cons (by decide) rest
  · rw [Percent.encodeChar]
    split_ifs with escaped
    · rw [unplus_encodeBytes, Percent.decodeBytes_encodeBytes]
    · have plain : isPlain c = true := by simpa using escaped
      obtain ⟨ascii, notPlus, notPercent⟩ := isPlain_spec plain
      simp only [List.map_cons, List.map_nil, List.flatMap_cons, List.flatMap_nil, unplus, notPlus,
        ↓reduceIte, List.append_nil]
      exact Percent.decodeBytes_utf8EncodeChar ascii notPercent rest

/-- A text is read back from its encoded form. -/
theorem decodeText_encodeText (text : String) : decodeText (encodeText text).toList = text := by
  have bytes : ∀ chars : List Char, Percent.decodeBytes
      (((chars.flatMap encodeChar).map unplus).flatMap String.utf8EncodeChar) =
        chars.flatMap String.utf8EncodeChar := by
    intro chars
    induction chars with
    | nil => rfl
    | cons c rest ih =>
        rw [List.flatMap_cons, List.map_append, List.flatMap_append, decodeBytes_encodeChar, ih,
          List.flatMap_cons]
  change Utf8.repair (Percent.decodeBytes (Utf8.encode (String.ofList
    ((encodeText text).toList.map unplus)))) = text
  rw [Utf8.encode, String.toList_ofList, encodeText, String.toList_ofList, bytes]
  exact Utf8.repair_encode text

theorem toList_encodePair (pair : String × String) :
    (encodePair pair).toList = (encodeText pair.1).toList ++ '=' :: (encodeText pair.2).toList := by
  simp [encodePair]

theorem decodePair_encodePair (pair : String × String) :
    decodePair (encodePair pair).toList = pair := by
  have cut : Text.cut '=' (encodePair pair).toList =
      some ((encodeText pair.1).toList, (encodeText pair.2).toList) := by
    rw [toList_encodePair]
    exact Text.cut_append_cons (fun c member => ne_of_mem_encodeText member rfl) _
  rw [decodePair, cut]
  simp only [decodeText_encodeText]

theorem mem_encodePair {c : Char} {pair : String × String}
    (member : c ∈ (encodePair pair).toList) : isEncoded c = true ∨ c = '=' := by
  rw [toList_encodePair] at member
  rcases List.mem_append.mp member with inName | inRest
  · exact .inl (isEncoded_of_mem_encodeText inName)
  · rcases List.mem_cons.mp inRest with isMark | inValue
    · exact .inr isMark
    · exact .inl (isEncoded_of_mem_encodeText inValue)

theorem toList_encode_cons_cons (first second : String × String) (rest : List (String × String)) :
    (encode (first :: second :: rest)).toList =
      (encodePair first).toList ++ '&' :: (encode (second :: rest)).toList := by
  simp [encode, Text.join, String.toList_intercalate]

theorem mem_encode {c : Char} {pairs : List (String × String)}
    (member : c ∈ (encode pairs).toList) : isEncoded c = true ∨ c = '=' ∨ c = '&' := by
  induction pairs with
  | nil => simp [encode, Text.join] at member
  | cons pair rest ih =>
      cases rest with
      | nil =>
          have inPair : c ∈ (encodePair pair).toList := by
            simpa [encode, Text.join] using member
          exact (mem_encodePair inPair).imp_right .inl
      | cons second rest =>
          rw [toList_encode_cons_cons] at member
          rcases List.mem_append.mp member with inPair | inRest
          · exact (mem_encodePair inPair).imp_right .inl
          · rcases List.mem_cons.mp inRest with isMark | inRest
            · exact .inr (.inr isMark)
            · exact ih inRest

/-- No question mark occurs in encoded pairs. -/
theorem ne_mark_of_mem_encode {c : Char} {pairs : List (String × String)}
    (member : c ∈ (encode pairs).toList) : c ≠ '?' := by
  rintro rfl
  rcases mem_encode member with encoded | isMark | isMark
  · exact absurd encoded (by decide)
  · exact absurd isMark (by decide)
  · exact absurd isMark (by decide)

/-- Pairs are read back from their encoded form. -/
theorem decode_encode (pairs : List (String × String)) : decode (encode pairs) = pairs := by
  have noAmpersand : ∀ text ∈ pairs.map encodePair, ∀ c ∈ text.toList, c ≠ '&' := by
    rintro text isText c member rfl
    obtain ⟨pair, _, rfl⟩ := List.mem_map.mp isText
    rcases mem_encodePair member with encoded | isMark
    · exact absurd encoded (by decide)
    · exact absurd isMark (by decide)
  have present : ∀ piece ∈ (pairs.map encodePair).map String.toList, !piece.isEmpty := by
    intro piece isPiece
    obtain ⟨text, isText, rfl⟩ := List.mem_map.mp isPiece
    obtain ⟨pair, _, rfl⟩ := List.mem_map.mp isText
    simp [toList_encodePair]
  have pieces : (Text.splitOn (· = '&') (encode pairs).toList).filter
      (fun piece => !piece.isEmpty) = (pairs.map encodePair).map String.toList := by
    cases pairs with
    | nil => simp [encode, Text.join, Text.splitOn]
    | cons pair rest =>
        have someText : (pair :: rest).map encodePair ≠ [] := List.cons_ne_nil _ _
        rw [encode, show "&" = String.singleton '&' from rfl,
          Text.splitOn_join someText noAmpersand]
        exact List.filter_eq_self.mpr present
  rw [decode, pieces]
  simp only [List.map_map, Function.comp_def, decodePair_encodePair, List.map_id']

end FormEncoding

end ConnectorConsole
