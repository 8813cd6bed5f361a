import ClausePrompt.Identifier
import ClausePrompt.Proofs.Calendar

namespace ClausePrompt.Identifier

theorem digit?_lt {c : Char} {n : Nat} (h : digit? c = some n) : n < 32 := by
  obtain ⟨hbound, -, -⟩ := List.findIdx?_eq_some_iff_getElem.mp h
  exact hbound

theorem getD_digit?_lt (c : Char) : (digit? c).getD 0 < 32 := by
  cases h : digit? c with
  | none => decide
  | some n => exact digit?_lt h

-- Every digit that is read takes its place below the number so far.
theorem foldl_digits_lt (digits : List Char) (n : Nat) :
    digits.foldl (fun n c => 32 * n + (digit? c).getD 0) n < (n + 1) * 32 ^ digits.length := by
  induction digits generalizing n with
  | nil => simp
  | cons c digits ih =>
    have hdigit := getD_digit?_lt c
    have hnext : 32 * n + (digit? c).getD 0 + 1 ≤ 32 * (n + 1) := by omega
    calc (c :: digits).foldl (fun n c => 32 * n + (digit? c).getD 0) n
        < (32 * n + (digit? c).getD 0 + 1) * 32 ^ digits.length := ih _
      _ ≤ 32 * (n + 1) * 32 ^ digits.length := Nat.mul_le_mul_right _ hnext
      _ = (n + 1) * 32 ^ (c :: digits).length := by
        rw [List.length_cons, Nat.pow_succ]
        ac_rfl

-- The first of the ten digits is at most 7.
theorem millis_lt {code : List Char} (h : isCode code = true) : millis code < 2 ^ 48 := by
  rw [isCode, Bool.and_eq_true] at h
  obtain ⟨-, hhead⟩ := h
  cases code with
  | nil => cases hhead
  | cons c rest =>
    cases hdigit : digit? c with
    | none => simp [hdigit] at hhead
    | some n =>
      have hn : n ≤ 7 := by simpa [hdigit] using hhead
      have hlength : (rest.take 9).length ≤ 9 := by
        rw [List.length_take]
        exact Nat.min_le_left 9 rest.length
      calc millis (c :: rest)
          = (rest.take 9).foldl (fun n c => 32 * n + (digit? c).getD 0) n := by
            rw [millis, number, List.take_succ_cons, List.foldl_cons, hdigit, Nat.mul_zero,
              Nat.zero_add, Option.getD_some]
        _ < (n + 1) * 32 ^ (rest.take 9).length := foldl_digits_lt _ n
        _ ≤ 8 * 32 ^ 9 :=
            Nat.mul_le_mul (Nat.succ_le_succ hn) (Nat.pow_le_pow_right (by decide) hlength)
        _ = 2 ^ 48 := by decide

theorem time_eq_none_iff {id : String} : time id = .ok none ↔ isValid id = false := by
  rw [time]
  dsimp only
  cases isValid id with
  | false => simp
  | true =>
    rw [if_pos rfl]
    split <;> simp [breakOff]

-- A valid identifier has the time of its milliseconds, or none that the calendar knows.
theorem time_of_isValid {id : String} (h : isValid id = true) :
    time id =
      if Instant.lastYear < (Instant.ofMillis (millis (codePart id.toList))).date.year then
        breakOff (.yearOutOfRange (Instant.ofMillis (millis (codePart id.toList))).date.year)
      else .ok (some (.ofMillis (millis (codePart id.toList)))) := by
  rw [time, if_pos h]

-- The calendar knows the seconds of a code as long as its milliseconds end before the year 10000.
theorem lastYear_lt_ofMillis_iff {code : List Char} (h : isCode code = true) :
    Instant.lastYear < (Instant.ofMillis (millis code)).date.year ↔
      Instant.ending * 1000 ≤ millis code := by
  rw [Instant.lastYear_lt_iff, (Instant.ofMillis_bounds (millis_lt h)).1]
  omega

-- Exactly the identifiers that are not valid have no time of making. That of a valid one is the
-- second of its milliseconds, with some microseconds, as long as these end before the year 10000.
-- A later one breaks off, and its year is told.
theorem time_of_valid (id : String) :
    (time id = .ok none ↔ isValid id = false) ∧
    (isValid id = true → ∃ instant : Instant,
      instant.seconds = millis (codePart id.toList) / 1000 ∧ instant.micros < 1000000 ∧
      (time id = .ok (some instant) ↔ millis (codePart id.toList) < Instant.ending * 1000) ∧
      (Instant.ending * 1000 ≤ millis (codePart id.toList) →
        Instant.lastYear < instant.date.year ∧
          time id = breakOff (.yearOutOfRange instant.date.year))) := by
  refine ⟨time_eq_none_iff, fun hvalid => ⟨.ofMillis (millis (codePart id.toList)), ?_⟩⟩
  obtain ⟨hseconds, hmicros⟩ := Instant.ofMillis_bounds (millis_lt hvalid)
  have hyear := lastYear_lt_ofMillis_iff hvalid
  refine ⟨hseconds, hmicros, ?_, fun hlate => ⟨hyear.mpr hlate, ?_⟩⟩
  · rw [← Nat.not_le, ← hyear, time_of_isValid hvalid]
    split
    · rename_i hbeyond
      simp [hbeyond, breakOff]
    · rename_i hwithin
      simp [hwithin]
  · rw [time_of_isValid hvalid, if_pos (hyear.mpr hlate)]

-- The last millisecond that the calendar knows, and the one after it.
theorem time_of_valid_last :
    (∃ last : Instant, time "snip_76EZ91ZPZZ0000000000000000" = .ok (some last) ∧
      last.seconds = 253402300799) ∧
    ∃ next : Instant, Instant.lastYear < next.date.year ∧
      time "snip_76EZ91ZQ000000000000000000" = breakOff (.yearOutOfRange next.date.year) := by
  constructor
  · obtain ⟨last, hseconds, -, hknown, -⟩ :=
      (time_of_valid "snip_76EZ91ZPZZ0000000000000000").2 (by decide)
    exact ⟨last, hknown.mpr (by decide), hseconds.trans (by decide)⟩
  · obtain ⟨next, -, -, -, hlate⟩ :=
      (time_of_valid "snip_76EZ91ZQ000000000000000000").2 (by decide)
    exact ⟨next, hlate (by decide)⟩

-- A valid identifier that has no time.
theorem time_of_valid_late :
    isValid "7ZZZZZZZZZZZZZZZZZZZZZZZZZ" = true ∧
      time "7ZZZZZZZZZZZZZZZZZZZZZZZZZ" = breakOff (.yearOutOfRange 10889) ∧
      (Fault.yearOutOfRange 10889).message = "year 10889 is out of range" := by
  refine ⟨by decide, ?_, by decide +kernel⟩
  rw [time_of_isValid (by decide)]
  exact if_pos (by decide +kernel)

end ClausePrompt.Identifier
