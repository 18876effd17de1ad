/-
This file proves that a moment is read back from its text. The text is made of numbers padded with
zeros and of marks between them, and the reader takes as many digits as each number has, so that it
finds every part where it has been written.
-/

import Mathlib.Tactic.IntervalCases
import Triage.Proofs.Time.Calendar

namespace Triage.Timestamp

/-! ### Digits -/

theorem toList_padded (width number : Nat) :
    (padded width number).toList =
      List.replicate (width - (Nat.toDigits 10 number).length) '0' ++ Nat.toDigits 10 number := by
  have digits : (toString number).toList = Nat.toDigits 10 number := String.toList_ofList
  rw [padded, String.toList_append, String.toList_ofList, digits, ← String.length_toList, digits]

theorem isDigit_of_mem_padded {width number : Nat} {character : Char}
    (mem : character ∈ (padded width number).toList) : character.isDigit = true := by
  rw [toList_padded] at mem
  rcases List.mem_append.mp mem with zero | digit
  · rw [List.eq_of_mem_replicate zero]
    rfl
  · exact Nat.isDigit_of_mem_toDigits (by decide) (by decide) digit

theorem length_padded {width number : Nat} (positive : 0 < width) (fits : number < 10 ^ width) :
    (padded width number).toList.length = width := by
  have short := (Nat.length_toDigits_le_iff (b := 10) (by decide) positive).mpr fits
  rw [toList_padded, List.length_append, List.length_replicate]
  omega

theorem padded_ne_nil (width number : Nat) : (padded width number).toList ≠ [] := by
  rw [toList_padded]
  exact List.append_ne_nil_of_right_ne_nil _ Nat.toDigits_ne_nil

theorem numberOf_eq_ofDigitChars (digits : List Char) :
    numberOf digits = Nat.ofDigitChars 10 digits 0 := by
  simp [numberOf, Nat.ofDigitChars, Nat.mul_comm]

/-- The zeros before a number do not change it. -/
theorem numberOf_padded (width number : Nat) : numberOf (padded width number).toList = number := by
  have zeros (count : Nat) : Nat.ofDigitChars 10 (List.replicate count '0') 0 = 0 := by
    induction count with
    | zero => rfl
    | succ count inductionHypothesis => exact inductionHypothesis
  rw [toList_padded, numberOf_eq_ofDigitChars, Nat.ofDigitChars_append, zeros,
    Nat.ofDigitChars_toDigits (by decide) (by decide)]

/-! ### Parts of a text -/

theorem digits_append {most : Nat} {found rest : List Char} (some_digit : found ≠ [])
    (each : ∀ character ∈ found, character.isDigit = true) (fits : found.length ≤ most)
    (stops : (rest.take (most - found.length)).takeWhile (·.isDigit) = []) :
    digits most (found ++ rest) = some (found, rest) := by
  have taken : ((found ++ rest).take most).takeWhile (·.isDigit) = found := by
    rw [List.take_append, List.take_of_length_le fits, List.takeWhile_append_of_pos each, stops,
      List.append_nil]
  simp [digits, taken, some_digit]

theorem not_isBlank_of_isDigit {character : Char} (digit : character.isDigit = true) :
    Text.isBlank character = false := by
  obtain ⟨least, most⟩ := Char.isDigit_iff_toNat.mp digit
  unfold Text.isBlank Text.Table.member
  generalize character.toNat = point at least most
  change 48 ≤ point at least
  change point ≤ 57 at most
  interval_cases point <;> rfl

theorem dropWhile_padded (width number : Nat) (rest : List Char) :
    ((padded width number).toList ++ rest).dropWhile Text.isBlank =
      (padded width number).toList ++ rest := by
  have digit (character : Char) : character ∈ (padded width number).toList → _ :=
    fun mem => not_isBlank_of_isDigit (isDigit_of_mem_padded mem)
  cases written : (padded width number).toList with
  | nil => exact absurd written (padded_ne_nil width number)
  | cons first others =>
    rw [List.cons_append, List.dropWhile_cons_of_neg]
    simp [digit first (written ▸ List.mem_cons_self ..)]

theorem twoDigits_padded {number : Nat} (small : number < 100) (rest : List Char) :
    twoDigits ((padded 2 number).toList ++ rest) = some (number, rest) := by
  have length := length_padded (by decide : 0 < 2) small
  have found : digits 2 ((padded 2 number).toList ++ rest) = some (_, rest) :=
    digits_append (padded_ne_nil 2 number) (fun _ mem => isDigit_of_mem_padded mem)
      (Nat.le_of_eq length) (by simp [length])
  rw [twoDigits, dropWhile_padded, found]
  exact congrArg (fun number => some (number, rest)) (numberOf_padded 2 number)

theorem digits_padded {width number most : Nat} (rest : List Char)
    (fits : (padded width number).toList.length ≤ most) :
    digits most ((padded width number).toList ++ '-' :: rest) =
      some ((padded width number).toList, '-' :: rest) := by
  refine digits_append (padded_ne_nil width number) (fun _ mem => isDigit_of_mem_padded mem) fits ?_
  cases most - (padded width number).toList.length <;> rfl

/-- A year without a sign is read as four digits. -/
theorem yearNumber_padded {year : Nat} (small : year < 10000) (rest : List Char) :
    yearNumber ((padded 4 year).toList ++ '-' :: rest) = some ((year : Int), '-' :: rest) := by
  have found := digits_padded rest (Nat.le_of_eq (length_padded (by decide : 0 < 4) small))
  have number := numberOf_padded 4 year
  rw [yearNumber, dropWhile_padded]
  cases written : (padded 4 year).toList with
  | nil => exact absurd written (padded_ne_nil 4 year)
  | cons first others =>
    have digit : first.isDigit = true := isDigit_of_mem_padded (written ▸ List.mem_cons_self ..)
    rw [written] at found number
    rw [List.cons_append] at found ⊢
    split
    case h_1 starts =>
      rw [(List.cons.inj starts).1] at digit
      cases digit
    case h_2 starts =>
      rw [(List.cons.inj starts).1] at digit
      cases digit
    case h_3 =>
      rw [found, Option.map_some]
      simp only [number]

/-- A year is read back up to the mark behind it. -/
theorem yearNumber_yearText (year : Int) (rest : List Char) :
    yearNumber ((yearText year).toList ++ '-' :: rest) = some (year, '-' :: rest) := by
  have signed : digits ((padded 4 year.natAbs).toList ++ '-' :: rest).length _ = some (_, _) :=
    digits_padded rest (List.length_append ▸ Nat.le_add_right ..)
  have minus : "-".toList = ['-'] := rfl
  have plus : "+".toList = ['+'] := rfl
  unfold yearText
  split_ifs with plain negative
  · obtain ⟨number, rfl⟩ := Int.eq_ofNat_of_zero_le plain.1
    exact yearNumber_padded (by omega) rest
  · rw [String.toList_append, minus, List.singleton_append, List.cons_append, yearNumber,
      List.dropWhile_cons_of_neg (by decide)]
    simp only [signed, Option.map_some, numberOf_padded]
    rw [Int.ofNat_natAbs_of_nonpos (by omega), Int.neg_neg]
  · rw [String.toList_append, plus, List.singleton_append, List.cons_append, yearNumber,
      List.dropWhile_cons_of_neg (by decide)]
    simp only [signed, Option.map_some, numberOf_padded]
    rw [Int.natAbs_of_nonneg (by omega)]

/-! ### Moments -/

/-- The moment is a whole second of a year that can be held. -/
structure IsWholeSecond (moment : Timestamp) : Prop where
  nanoseconds : moment.nanoseconds = 0
  year : isYear (dateOf (moment.seconds.fdiv 86400)).1 = true

/-- The characters of the text of a whole second. -/
theorem toList_toText {moment : Timestamp} (whole : moment.nanoseconds = 0) {year : Int}
    {month day timeOfDay : Nat} (date : dateOf (moment.seconds.fdiv 86400) = (year, month, day))
    (time : (moment.seconds.fmod 86400).toNat = timeOfDay) :
    moment.toText.toList = (yearText year).toList ++ '-' :: ((padded 2 month).toList ++
      '-' :: ((padded 2 day).toList ++ 'T' :: ((padded 2 (timeOfDay / 3600)).toList ++
        ':' :: ((padded 2 (timeOfDay / 60 % 60)).toList ++
          ':' :: ((padded 2 (timeOfDay % 60)).toList ++ ['Z']))))) := by
  have plain (text : String) : toString text = text := rfl
  simp [toText, date, time, whole, fractionText, String.toList_append, plain]

/-- A number of seconds is split into days and the seconds of a day. -/
theorem exists_timeOfDay (seconds : Int) :
    ∃ timeOfDay : Nat, (seconds.fmod 86400).toNat = timeOfDay ∧ timeOfDay < 86400 ∧
      seconds.fdiv 86400 * 86400 + timeOfDay = seconds := by
  refine ⟨_, rfl, ?_⟩
  simp only [Int.fdiv_eq_ediv_of_nonneg, Int.fmod_eq_emod_of_nonneg, Int.reduceLE]
  omega

/-- A whole second is read back from its text. -/
theorem parse?_toText {moment : Timestamp} (whole : moment.IsWholeSecond) :
    parse? moment.toText = some moment := by
  obtain ⟨seconds, nanoseconds⟩ := moment
  obtain rfl : nanoseconds = 0 := whole.nanoseconds
  have held : isYear (dateOf (seconds.fdiv 86400)).1 = true := whole.year
  have counted := dayNumber_dateOf (seconds.fdiv 86400)
  have isDate := isDate_dateOf (seconds.fdiv 86400)
  have bounds := dateOf_bounds (seconds.fdiv 86400)
  rcases date : dateOf (seconds.fdiv 86400) with ⟨year, month, day⟩
  obtain ⟨timeOfDay, time, short, split⟩ := exists_timeOfDay seconds
  rw [date] at held counted isDate bounds
  have monthRead := twoDigits_padded (Nat.lt_of_le_of_lt bounds.1.2 (by decide : 12 < 100))
  have dayRead := twoDigits_padded (Nat.lt_of_le_of_lt bounds.2.2 (by decide : 31 < 100))
  have hourRead := @twoDigits_padded (timeOfDay / 3600) (by omega)
  have minuteRead := @twoDigits_padded (timeOfDay / 60 % 60) (by omega)
  have secondRead := @twoDigits_padded (timeOfDay % 60) (by omega)
  have dash (rest : List Char) : mark '-' ('-' :: rest) = some ((), rest) := rfl
  have colon (rest : List Char) : mark ':' (':' :: rest) = some ((), rest) := rfl
  have letter (rest : List Char) : separator ('T' :: rest) = some ((), rest) := rfl
  have noFraction : fraction ['Z'] = some (0, ['Z']) := rfl
  have universal : offset (['Z'].dropWhile Text.isBlank) = some (0, []) := rfl
  have text := @toList_toText ⟨seconds, 0⟩ rfl _ _ _ _ date time
  rw [parse?, text]
  -- The reader takes the parts of the text one after the other.
  refine Option.bind_eq_some_iff.mpr ⟨_, yearNumber_yearText year _, ?_⟩
  refine Option.bind_eq_some_iff.mpr ⟨_, dash _, ?_⟩
  refine Option.bind_eq_some_iff.mpr ⟨_, monthRead _, ?_⟩
  refine Option.bind_eq_some_iff.mpr ⟨_, dash _, ?_⟩
  refine Option.bind_eq_some_iff.mpr ⟨_, dayRead _, ?_⟩
  refine Option.bind_eq_some_iff.mpr ⟨_, letter _, ?_⟩
  refine Option.bind_eq_some_iff.mpr ⟨_, hourRead _, ?_⟩
  refine Option.bind_eq_some_iff.mpr ⟨_, colon _, ?_⟩
  refine Option.bind_eq_some_iff.mpr ⟨_, minuteRead _, ?_⟩
  refine Option.bind_eq_some_iff.mpr ⟨_, colon _, ?_⟩
  refine Option.bind_eq_some_iff.mpr ⟨_, secondRead _, ?_⟩
  refine Option.bind_eq_some_iff.mpr ⟨_, noFraction, ?_⟩
  refine Option.bind_eq_some_iff.mpr ⟨_, universal, ?_⟩
  have inDay : timeOfDay / 3600 < 24 ∧ timeOfDay / 60 % 60 < 60 ∧ timeOfDay % 60 < 60 := by omega
  have sum : seconds.fdiv 86400 * 86400 + ((timeOfDay / 3600 : Nat) * 3600 +
      (timeOfDay / 60 % 60 : Nat) * 60 + (min (timeOfDay % 60) 59 : Nat)) - 0 = seconds := by omega
  refine (if_pos ?_).trans ?_
  · simp only [held, isDate, inDay, Nat.le_of_lt, Bool.and_true, decide_true]
    rfl
  · simp only [counted, sum, if_neg (Nat.ne_of_lt inDay.2.2)]

end Triage.Timestamp
