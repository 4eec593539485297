import ConnectorConsole.Proofs.Number.WholeNumbers
import ConnectorConsole.Proofs.Ops.QueryTransitions
import ConnectorConsole.Proofs.Text.Trimming
import ConnectorConsole.Proofs.Web.FormReadBack

/-!
# Shared query strings

A location can be shared: the query string that is written for a state describes that
state again.  Counts are small enough to be held exactly by a floating-point number.  An
offset is as well, unless turning pages has brought it beyond 2^53; an offset that was read
has few bits, or is the greatest one, which is rounded up and then brought down again.
-/

namespace ConnectorConsole

namespace QueryState

open Binary64 (Whole)

/-- The digits of a number are read back when the number is held exactly. -/
theorem readNumber_toString {number : Nat} (size : number < UInt64.size) (fallback : Int) :
    readNumber (some (toString number)) fallback =
      ((Binary64.ofNat number).integerPart?).getD fallback := by
  have trimmed : Text.Trimmed (toString number) :=
    ⟨fun c isHead => not_blank_of_mem_toString (List.mem_of_mem_head? isHead),
      fun c isLast => not_blank_of_mem_toString (List.mem_of_mem_getLast? isLast)⟩
  rw [readNumber, Option.map_some, Text.trim_of_trimmed trimmed]
  dsimp only
  rw [Binary64.read?_toString size]
  rfl

/-- Numbers that are read have few bits, or are the fallback. -/
theorem whole_readNumber (raw : Option String) {fallback : Int} (whole : Whole fallback.natAbs) :
    Whole (readNumber raw fallback).natAbs := by
  rw [readNumber]
  split
  · exact whole
  next text _ =>
    cases isRead : Binary64.read? text with
    | none => exact whole
    | some number =>
      cases isPart : number.integerPart? with
      | none =>
          simpa [isRead, isPart] using whole
      | some part =>
          simpa [isRead, isPart] using
            Binary64.whole_of_integerPart? (Binary64.fits_of_read? isRead) isPart

/-- An offset that its digits lead back to. -/
def Shareable (offset : UInt64) : Prop :=
  Whole offset.toNat ∨ offset.toNat = 2 ^ 64 - 1

theorem shareable_clampOffset {number : Int} (whole : Whole number.natAbs) :
    Shareable (clampOffset number) := by
  rw [Shareable, toNat_clampOffset]
  rcases Int.le_total number 0 with negative | nonnegative
  · have isZero : min number.toNat (2 ^ 64 - 1) = 0 := by omega
    rw [isZero]
    exact .inl (Binary64.whole_of_le (Nat.zero_le _))
  · rcases Nat.le_total number.toNat (2 ^ 64 - 1) with small | large
    · have same : number.toNat = number.natAbs := by omega
      rw [Nat.min_eq_left small, same]
      exact .inl whole
    · exact .inr (Nat.min_eq_right large)

theorem log2_lt {number : Nat} (size : number < UInt64.size) : number.log2 < 1024 := by
  rcases Nat.eq_zero_or_pos number with rfl | positive
  · decide
  · have bound : number.log2 < 64 := (Nat.log2_lt positive.ne').mpr size
    omega

theorem clampOffset_readNumber {offset : UInt64} (shareable : Shareable offset) (fallback : Int) :
    clampOffset (readNumber (some (toString offset.toNat)) fallback) = offset := by
  have size : offset.toNat < UInt64.size := offset.toNat_lt
  rw [readNumber_toString size, ← UInt64.toNat_inj, toNat_clampOffset]
  rcases shareable with whole | greatest
  · rw [Binary64.integerPart?_ofNat whole (log2_lt size), Option.getD_some]
    exact Nat.min_eq_left (Nat.le_of_lt_succ size)
  · rw [greatest, Binary64.integerPart?_ofNat_greatest]
    rfl

theorem clampCount_readNumber {count : UInt32} (positive : 1 ≤ count) (fallback : Int) :
    clampCount (readNumber (some (toString count.toNat)) fallback) = count := by
  have small : count.toNat < 2 ^ 32 := count.toNat_lt
  have size : count.toNat < UInt64.size := small.trans (by decide)
  have whole : Whole count.toNat := Binary64.whole_of_le (small.le.trans (by decide))
  rw [UInt32.le_iff_toNat_le] at positive
  rw [readNumber_toString size, Binary64.integerPart?_ofNat whole (log2_lt size),
    Option.getD_some, ← UInt32.toNat_inj, toNat_clampCount]
  change 1 ≤ count.toNat at positive
  omega

theorem hydrate_encode (target : OpsTarget) (pairs : List (String × String)) (limit : UInt32) :
    hydrate target (FormEncoding.encode pairs) limit =
      ofParameters target limit fun name => pairs.lookup name := by
  have noMark : (FormEncoding.encode pairs).toList.dropWhile (· = '?') =
      (FormEncoding.encode pairs).toList := by
    cases chars : (FormEncoding.encode pairs).toList with
    | nil => rfl
    | cons c rest =>
        have member : c ∈ (FormEncoding.encode pairs).toList := chars ▸ List.mem_cons_self
        have notMark : c ≠ '?' := FormEncoding.ne_mark_of_mem_encode member
        simp [notMark]
  rw [hydrate, noMark, String.ofList_toList, FormEncoding.decode_encode]

/-- A question mark in front changes nothing. -/
theorem hydrate_mark_append (target : OpsTarget) (query : String) (limit : UInt32) :
    hydrate target ("?" ++ query) limit = hydrate target query limit := by
  have front : ("?" ++ query).toList = '?' :: query.toList := by simp
  rw [hydrate, front, List.dropWhile_cons_of_pos (by rfl), ← hydrate]

theorem lookup_textPair {name other : String} (value : String) (rest : List (String × String))
    (differs : name ≠ other) :
    (textPair other value ++ rest).lookup name = rest.lookup name := by
  rw [textPair]
  split_ifs
  · rfl
  · rw [List.cons_append, List.lookup_cons, beq_false_of_ne differs]
    rfl

/-- An empty text and a missing one are the same filter. -/
theorem getD_lookup_textPair (name value : String) {rest : List (String × String)}
    (noOther : rest.lookup name = none) :
    ((textPair name value ++ rest).lookup name).getD "" = value := by
  rw [textPair]
  split_ifs with empty
  · rw [List.nil_append, noOther, empty]
    rfl
  · simp

section Pairs

variable {state : QueryState}

theorem pairs_fleet (isFleet : state.view = .snapshot) :
    state.pairs = ("window_hours", toString state.windowHours.toNat) ::
      ("limit_runs", toString state.limit.toNat) ::
      ("offset_runs", toString state.offset.toNat) ::
      (textPair "status" state.status ++ textPair "connector_id" state.connectorId) := by
  rw [pairs, isFleet]
  rfl

theorem pairs_connector (isConnector : state.view = .connectorDetail) :
    state.pairs = ("limit_runs", toString state.limit.toNat) ::
      ("offset_runs", toString state.offset.toNat) :: textPair "status" state.status := by
  rw [pairs, isConnector]
  rfl

/-- The pairs of a state describe the state, save on the screen of a run, which has none. -/
theorem ofParameters_pairs (settled : state.Settled) (shareable : Shareable state.offset)
    (paged : state.view ≠ .runDetail) (limit : UInt32) :
    ofParameters state.target limit (fun name => state.pairs.lookup name) = state := by
  have limitBack := clampCount_readNumber settled.limit (fresh state.target limit).limit.toNat
  have offsetBack := clampOffset_readNumber shareable 0
  have noStatus : (textPair "connector_id" state.connectorId).lookup "status" = none := by
    have differs : "status" ≠ "connector_id" := by decide
    simpa using lookup_textPair state.connectorId [] differs
  rw [ofParameters]
  split
  next isFleet =>
    have windowBack := clampCount_readNumber settled.window defaultWindow.toNat
    have statusBack := getD_lookup_textPair "status" state.status noStatus
    have connectorBack := getD_lookup_textPair "connector_id" state.connectorId List.lookup_nil
    rw [List.append_nil] at connectorBack
    rw [pairs_fleet isFleet]
    simp only [List.lookup_cons, String.reduceBEq]
    rw [limitBack, offsetBack, windowBack, statusBack, settled.status,
      lookup_textPair _ _ (by decide), connectorBack]
    rfl
  next isConnector =>
    have statusBack := getD_lookup_textPair "status" state.status List.lookup_nil
    rw [List.append_nil] at statusBack
    obtain ⟨window, connectorId⟩ := settled.fleetOnly (by
      rw [view, isConnector]
      decide)
    rw [pairs_connector isConnector]
    simp only [List.lookup_cons, String.reduceBEq]
    rw [limitBack, offsetBack, statusBack, settled.status]
    simp only [fresh, ← window, ← connectorId]
  next isRun => exact absurd isRun paged

end Pairs

theorem target_hydrate (target : OpsTarget) (query : String) (limit : UInt32) :
    (hydrate target query limit).target = target := by
  cases target <;> rfl

theorem shareable_hydrate (target : OpsTarget) (query : String) (limit : UInt32) :
    Shareable (hydrate target query limit).offset := by
  have none : Whole (0 : Int).natAbs := Binary64.whole_of_le (Nat.zero_le _)
  cases target <;> exact shareable_clampOffset (whole_readNumber _ none)

/-- The query string of a state describes the state again, whatever page size is configured,
and with or without a question mark in front.  The state may come from any query string and
any transitions; only an offset that turning pages has brought beyond 2^53 may be lost. -/
theorem hydrate_query (target : OpsTarget) (query : String) (limit : UInt32)
    (transitions : List Transition) (paged : target.view ≠ .runDetail)
    (inReach : transitions = [] ∨
      ((hydrate target query limit).applyAll transitions).offset.toNat ≤ 2 ^ 53)
    (otherLimit : UInt32) :
    let state := (hydrate target query limit).applyAll transitions
    hydrate target state.query otherLimit = state ∧
      hydrate target ("?" ++ state.query) otherLimit = state := by
  intro state
  have settled : state.Settled := (settled_hydrate target query limit).applyAll transitions
  have sameTarget : state.target = target :=
    (applyAll_keeps _ transitions).1.trans (target_hydrate target query limit)
  have shareable : Shareable state.offset := by
    -- turning pages adds to an offset, so what it leads to is not bounded by what was read
    rcases inReach with rfl | small
    · exact shareable_hydrate target query limit
    · exact .inl (Binary64.whole_of_le small)
  have pagedState : state.view ≠ .runDetail := by
    rwa [view, sameTarget]
  have back : hydrate target state.query otherLimit = state := by
    have described := ofParameters_pairs settled shareable pagedState otherLimit
    rw [sameTarget] at described
    rw [QueryState.query, hydrate_encode, described]
  exact ⟨back, by rw [hydrate_mark_append, back]⟩

/-- An offset out of range and a status that is not well-formed, then filters and a page on. -/
theorem hydrate_query_malformed :
    let hydrated := hydrate (.connector "c-1") "?limit_runs=40.9&offset_runs=1e30&status=f%ff" 25
    let state := hydrated.applyAll [.filter ⟨some 0, " straße ", "other"⟩, .next]
    state.offset = 40 ∧ hydrate (.connector "c-1") state.query 7 = state ∧
      hydrate (.connector "c-1") ("?" ++ state.query) 7 = state := by
  intro hydrated state
  have offset : state.offset = 40 := by
    decide +kernel
  have inReach : state.offset.toNat ≤ 2 ^ 53 := by
    rw [offset]
    decide
  exact ⟨offset, hydrate_query (.connector "c-1") _ 25 _ (by decide) (.inr inReach) 7⟩

end QueryState

end ConnectorConsole
