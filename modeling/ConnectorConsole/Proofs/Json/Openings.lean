import ConnectorConsole.Proofs.Json.ReadValues

/-!
# How objects begin

A text that writes an object begins with a brace, apart from filler.  A sentence that begins
with any other character is therefore no object, whatever follows.
-/

namespace ConnectorConsole

namespace Json

open Scan

/-- Only a brace opens an object. -/
theorem opening_of_readValueWith {inside : Option (Scan Json)} {cursor last : Cursor}
    {entries : List (String × Json)}
    (isRead : readValueWith inside cursor = .ok (.object entries) last) :
    (cursor.rest.dropWhile Cursor.isFiller).head? = some '\x7b' := by
  rw [readValueWith.eq_def] at isRead
  change EStateM.bind peekToken _ cursor = _ at isRead
  have peeked : peekToken cursor = .ok (cursor.rest.dropWhile Cursor.isFiller).head?
      (cursor.skip Cursor.isFiller) := rfl
  rw [EStateM.bind, peeked] at isRead
  dsimp only at isRead
  cases token : (cursor.rest.dropWhile Cursor.isFiller).head? with
  | none =>
      rw [token] at isRead
      cases isRead
  | some c =>
      rw [token] at isRead
      by_contra otherOpening
      have notBrace : c ≠ '\x7b' := fun same => otherOpening (congrArg some same)
      -- every other first character leads to a value of another kind, or to none
      refine absurd rfl ((?_ : Yields _ fun value => value ≠ .object entries) _ _ _ isRead)
      dsimp only
      split
      · exact readConstant_yields _ (by simp)
      split
      · exact readConstant_yields _ (by simp)
      split
      · exact readConstant_yields _ (by simp)
      split
      · exact .after fun _ => .pure (by simp)
      split
      · exact .after fun _ => .after fun _ => .pure (by simp)
      split
      · cases inside with
        | none => exact .failAhead _
        | some scan => exact .after fun _ => .after fun _ => .after fun _ => .pure (by simp)
      exact .failAhead _

/-- What a text is read as was scanned from its beginning. -/
theorem scan_of_scanText {α : Type} {scan : Scan α} {text : String} {value : α}
    (isRead : scanText scan text = .ok value) :
    ∃ last, scan (Cursor.ofText text) = .ok value last := by
  rw [scanText] at isRead
  cases isScanned : scan (Cursor.ofText text) with
  | error failure last =>
      have whole : (do let value ← scan; endText; return value : Scan α) (Cursor.ofText text) =
          .error failure last := by
        change EStateM.bind scan _ _ = _
        rw [EStateM.bind, isScanned]
      rw [whole] at isRead
      cases isRead
  | ok scanned last =>
      have whole : (do let value ← scan; endText; return value : Scan α) (Cursor.ofText text) =
          (do endText; return scanned : Scan α) last := by
        change EStateM.bind scan _ _ = _
        rw [EStateM.bind, isScanned]
      have ends : Yields (do endText; return scanned) (· = scanned) := .after fun _ => .pure rfl
      rw [whole] at isRead
      split at isRead
      · cases isRead
        obtain rfl := ends _ _ _ ‹_›
        exact ⟨last, rfl⟩
      · cases isRead

/-- A text that begins with another character than filler or a brace writes no object. -/
theorem not_object_of_read {text : String} {c : Char} {value : Json}
    (isRead : read text = .ok value) (opening : text.toList.head? = some c)
    (notFiller : Cursor.isFiller c = false) (notBrace : c ≠ '\x7b') :
    ∀ entries, value ≠ .object entries := by
  rintro entries rfl
  obtain ⟨last, isScanned⟩ := scan_of_scanText isRead
  have brace := opening_of_readValueWith isScanned
  cases chars : text.toList with
  | nil =>
      rw [chars] at opening
      cases opening
  | cons first rest =>
      rw [chars] at opening
      cases opening
      change ((text.toList).dropWhile Cursor.isFiller).head? = _ at brace
      rw [chars, List.dropWhile_cons_of_neg (Bool.eq_false_iff.mp notFiller)] at brace
      exact notBrace (Option.some.inj brace)

end Json

end ConnectorConsole
