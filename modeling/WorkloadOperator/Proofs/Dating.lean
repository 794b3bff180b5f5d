import Mathlib.Data.List.TakeWhile
import WorkloadOperator.Moment

/-!
# Moments are read as they were written

A moment is written as numbers with a mark after each of them.  `Civil.digits_padded` reads one
such number: as the mark is no digit, the number ends where it was written to end, and zeros in
front of it do not count.  `Civil.read_chars` puts the six numbers of a second together, and
`Moment.decode_encode` says that every known moment is read back.

A moment that was read from the clock is not known beforehand, so no text is read as it.
-/

namespace WorkloadOperator

namespace Civil

/-! ## Numbers -/

theorem isBlank_of_isDigit {c : Char} (h : c.isDigit = true) : isBlank c = false := by
  have hrange : 48 ≤ c.toNat ∧ c.toNat ≤ 57 := by
    rw [Char.isDigit, Bool.and_eq_true, decide_eq_true_iff, decide_eq_true_iff] at h
    exact h
  simp only [isBlank, Bool.or_eq_false_iff, Bool.and_eq_false_iff, decide_eq_false_iff_not,
    beq_eq_false_iff_ne, ne_eq]
  omega

theorem isDigit_of_mem_padded {width n : Nat} {c : Char} (h : c ∈ padded width n) :
    c.isDigit = true := by
  rcases List.mem_append.1 h with h | h
  · rw [List.eq_of_mem_replicate h]
    rfl
  · exact Nat.isDigit_of_mem_toDigits (by decide) (by decide) h

theorem padded_ne_nil (width n : Nat) : padded width n ≠ [] := by
  intro h
  exact Nat.toDigits_ne_nil (List.append_eq_nil_iff.1 h).2

theorem ofDigitChars_padded (width n : Nat) : Nat.ofDigitChars 10 (padded width n) 0 = n := by
  rw [padded, Nat.ofDigitChars_append, Nat.ofDigitChars_replicate_zero, Nat.mul_zero,
    Nat.ofDigitChars_ten_toDigits]

/-- A number that is not too long takes the whole width. -/
theorem length_padded {width n : Nat} (h : (Nat.toDigits 10 n).length ≤ width) :
    (padded width n).length = width := by
  rw [padded, List.length_append, List.length_replicate]
  omega

/-- A text does not go on with a digit. -/
def Marked (rest : List Char) : Prop := ∀ c ∈ rest.head?, c.isDigit = false

theorem marked_cons {c : Char} (rest : List Char) (h : c.isDigit = false) : Marked (c :: rest) := by
  intro d hd
  cases hd
  exact h

theorem takeWhile_padded_append (width n : Nat) (rest : List Char) (hrest : Marked rest) :
    (padded width n ++ rest).takeWhile Char.isDigit = padded width n := by
  rw [List.takeWhile_append_of_pos fun _ => isDigit_of_mem_padded]
  cases rest with
  | nil => exact List.append_nil _
  | cons c rest =>
    have hc : ¬ c.isDigit = true := by simp [hrest c rfl]
    rw [List.takeWhile_cons_of_neg hc, List.append_nil]

/-- A number is read up to the mark after it.  If the number of digits is bounded, there are just
as many. -/
theorem digits_padded (most : Option Nat) (width n : Nat) {rest : List Char}
    (hmost : ∀ m ∈ most, (padded width n).length = m) (hrest : Marked rest) :
    digits most (padded width n ++ rest) = .ok (n, rest) := by
  have hfree := takeWhile_padded_append width n rest hrest
  have hbound : ∀ m ∈ most,
      ((padded width n ++ rest).take m).takeWhile Char.isDigit = padded width n := by
    intro m hm
    rw [List.take_left' (hmost m hm)]
    simpa using takeWhile_padded_append width n [] nofun
  have hdrop : (padded width n ++ rest).drop (padded width n).length = rest := List.drop_left
  cases hcs : padded width n ++ rest with
  | nil => exact absurd (List.append_eq_nil_iff.1 hcs).1 (padded_ne_nil width n)
  | cons c cs =>
    rw [hcs] at hfree hbound hdrop
    cases most with
    | none => simp only [digits, hfree, hdrop, padded_ne_nil, if_false, ofDigitChars_padded]
    | some m =>
      simp only [digits, hbound m rfl, hdrop, padded_ne_nil, if_false, ofDigitChars_padded]

theorem isDigit_of_mem_head?_padded (width n : Nat) (rest : List Char) :
    ∀ c ∈ (padded width n ++ rest).head?, c.isDigit = true := by
  intro c hc
  rw [List.head?_append, List.head?_eq_some_head (padded_ne_nil width n), Option.some_or] at hc
  cases hc
  exact isDigit_of_mem_padded (List.head_mem _)

theorem dropWhile_isBlank_padded (width n : Nat) (rest : List Char) :
    (padded width n ++ rest).dropWhile isBlank = padded width n ++ rest := by
  refine List.dropWhile_eq_self_iff.2 fun hlength => ?_
  have hhead : (padded width n ++ rest).head? = some (padded width n ++ rest)[0] := by
    rw [List.head?_eq_getElem?, List.getElem?_eq_getElem hlength]
  simp [isBlank_of_isDigit (isDigit_of_mem_head?_padded width n rest _ hhead)]

theorem number_padded (low high : Nat) {n : Nat} {rest : List Char} (hrest : Marked rest)
    (hlow : low ≤ n) (hhigh : n ≤ high) (hwidth : high < 100) :
    number low high (padded 2 n ++ rest) = .ok (n, rest) := by
  have hlength : (padded 2 n).length = 2 :=
    length_padded ((Nat.length_toDigits_le_iff (by decide) (by decide)).2 (by omega))
  have hdigits := digits_padded (some 2) 2 n (fun m hm => by cases hm; exact hlength) hrest
  simp only [number, dropWhile_isBlank_padded, hdigits, hlow, hhigh, and_self, if_true]

/-! ## Seconds -/

/-- The sign of a year: it has one if it is below zero or has more than four digits. -/
def signOf (year : Int) : List Char :=
  if year < 0 then ['-'] else if 9999 < year then ['+'] else []

theorem readYear_padded {year : Int} (hyear : firstYear ≤ year ∧ year ≤ lastYear)
    {rest : List Char} (hrest : Marked rest) :
    readYear (signOf year ++ (padded 4 year.natAbs ++ rest)) = .ok (year, rest) := by
  have hbounds : Int32.minValue.toInt ≤ year ∧ year ≤ Int32.maxValue.toInt :=
    ⟨Int.le_trans (by decide) hyear.1, Int.le_trans hyear.2 (by decide)⟩
  have hfree := digits_padded none 4 year.natAbs nofun hrest
  have hsign {c : Char} (h : isBlank c = false) (cs : List Char) :
      (c :: cs).dropWhile isBlank = c :: cs := by
    rw [List.dropWhile_cons_of_neg (by simp [h])]
  by_cases hneg : year < 0
  · have habs : -(year.natAbs : Int) = year := by omega
    rw [signOf, if_pos hneg, List.singleton_append, readYear, hsign rfl]
    simp only [hfree, if_true, habs]
    exact if_pos hbounds
  have habs : (year.natAbs : Int) = year := by omega
  by_cases hlong : 9999 < year
  · rw [signOf, if_neg hneg, if_pos hlong, List.singleton_append, readYear, hsign rfl]
    simp only [hfree, Bool.false_eq_true, if_false, habs]
    exact if_pos hbounds
  · have hlength : (padded 4 year.natAbs).length = 4 :=
      length_padded ((Nat.length_toDigits_le_iff (by decide) (by decide)).2 (by omega))
    have hfour := digits_padded (some 4) 4 year.natAbs (fun m hm => by cases hm; exact hlength)
      hrest
    have hdigit := isDigit_of_mem_head?_padded 4 year.natAbs rest
    rw [signOf, if_neg hneg, if_neg hlong, List.nil_append, readYear, dropWhile_isBlank_padded]
    -- The first character is a digit, so it is no sign.
    split
    · next h => simp [h] at hdigit
    · next h => simp [h] at hdigit
    · simp only [hfour, Bool.false_eq_true, if_false, habs]
      exact if_pos hbounds

theorem mark_cons {c : Char} (rest : List Char) (h : isBlank c = false) :
    mark c (c :: rest) = .ok rest := by
  simp [mark, h]

theorem daysOf_le (year : Int) (month : Nat) : daysOf year month ≤ 31 := by
  unfold daysOf
  split <;> split <;> omega

/-- A second of the calendar is read as it was written. -/
theorem read_chars {c : Civil} (h : c.Valid) : read c.chars = .ok c := by
  obtain ⟨hyear, hmonth, hday, hhour, hminute, hsecond⟩ := id h
  have hchars : c.chars = signOf c.year ++ (padded 4 c.year.natAbs ++ '-' ::
      (padded 2 c.month ++ '-' :: (padded 2 c.day ++ 'T' :: (padded 2 c.hour ++ ':' ::
      (padded 2 c.minute ++ ':' :: (padded 2 c.second ++ ['Z'])))))) := by
    simp only [chars, signOf, List.append_assoc, List.cons_append]
  have hmarked : ∀ d rest, d ∈ ['-', 'T', ':', 'Z'] → Marked (d :: rest) := by
    intro d rest hd
    have hplain : ['-', 'T', ':', 'Z'].all fun d => !d.isDigit := by decide
    exact marked_cons rest (by simpa using List.all_eq_true.1 hplain d hd)
  have hmonth' := fun rest => number_padded 1 12 (hmarked '-' rest (by decide))
    hmonth.1 hmonth.2 (by decide)
  have hday' := fun rest => number_padded 1 31 (hmarked 'T' rest (by decide))
    hday.1 (Nat.le_trans hday.2 (daysOf_le ..)) (by decide)
  have hhour' := fun rest => number_padded 0 23 (hmarked ':' rest (by decide))
    (Nat.zero_le _) hhour (by decide)
  have hminute' := fun rest => number_padded 0 59
    (hmarked ':' rest (by decide)) (Nat.zero_le _) hminute (by decide)
  have hsecond' := fun rest => number_padded 0 60
    (hmarked 'Z' rest (by decide)) (Nat.zero_le _) hsecond (by decide)
  have hdash : isBlank '-' = false := rfl
  have hcolon : isBlank ':' = false := rfl
  have hzulu : isBlank 'Z' = false := rfl
  rw [hchars, read, readYear_padded hyear (hmarked '-' _ (by decide))]
  simp [mark_cons _ hdash, mark_cons _ hcolon, hmonth', hday', hhour', hminute', hsecond',
    cutFraction, readOffset, hzulu, h, bind, Except.bind]

end Civil

namespace Moment

/-- A moment that is known, and not read from the clock. -/
def Known (m : Moment) : Prop := m ≠ .now

theorem ofText_text {m : Moment} (h : m.Known) : ofText m.text = .ok m := by
  cases m with
  | now => exact absurd rfl h
  | «at» c valid =>
    rw [text, ofText, String.toList_ofList, Civil.read_chars valid]
    exact dif_pos valid

theorem known_of_ofText {s : String} {m : Moment} (h : ofText s = .ok m) : m.Known := by
  unfold ofText at h
  split at h
  · cases h
  · split at h
    · cases h
      exact nofun
    · cases h

/-- A known moment is read as it was written. -/
theorem decode_encode {m : Moment} (h : m.Known) : decode m.encode = .ok m := by
  simp only [encode, decode, ofText_text h]

theorem known_of_decode {j : Json} {m : Moment} (h : decode j = .ok m) : m.Known := by
  unfold decode at h
  split at h
  · split at h
    · next hm =>
      cases h
      exact known_of_ofText hm
    · cases h
  · cases h

end Moment

end WorkloadOperator
