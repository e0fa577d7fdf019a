import Reindex.Instant
import Reindex.Proofs.Result
import Reindex.Uuid

namespace Reindex

namespace Uuid

theorem ofDigits?_map_digitChar (uuid : Uuid) :
    ofDigits? (uuid.digits.map digitChar) = some uuid := by
  rw [ofDigits?, Result.mapM_map_eq_some digit?_digitChar, Option.bind_eq_bind, Option.bind_some,
    dif_pos uuid.length_digits]

theorem ofGroups?_join {a b c d e : List Char} (ha : a.length = 8) (hb : b.length = 4)
    (hc : c.length = 4) (hd : d.length = 4) (he : e.length = 12) :
    ofGroups? (a ++ '-' :: b ++ '-' :: c ++ '-' :: d ++ '-' :: e) =
      ofDigits? (a ++ b ++ c ++ d ++ e) := by
  have hplaces : [8, 13, 18, 23].all (fun place =>
      (a ++ '-' :: b ++ '-' :: c ++ '-' :: d ++ '-' :: e)[place]? == some '-') = true := by
    simp [List.getElem?_append, ha, hb, hc, hd]
  rw [ofGroups?, if_pos ⟨by simp [ha, hb, hc, hd, he], hplaces⟩]
  simp [List.drop_append, ha, hb, hc, hd, List.drop_of_length_le]

theorem ofText?_of_length {text : String} (hlength : text.toList.length = 36)
    (hlead : text.toList.head? ≠ some 'u') : ofText? text = ofGroups? text.toList := by
  have hurn : urnLead.isPrefixOf text.toList = false := by
    rw [Bool.eq_false_iff, ne_eq, List.isPrefixOf_iff_prefix]
    rintro ⟨rest, hrest⟩
    rw [← hrest] at hlead
    exact hlead rfl
  simp [ofText?, hlength, hurn]

theorem ofText?_text (uuid : Uuid) : ofText? uuid.text = some uuid := by
  obtain ⟨cs, hcs⟩ : ∃ cs, cs = uuid.digits.map digitChar := ⟨_, rfl⟩
  have hlength : cs.length = 32 := by simp [hcs, uuid.length_digits]
  have htext : uuid.text.toList = cs.take 8 ++ '-' :: (cs.drop 8).take 4 ++
      '-' :: (cs.drop 12).take 4 ++ '-' :: (cs.drop 16).take 4 ++ '-' :: cs.drop 20 := by
    rw [text, String.toList_ofList, hcs]
  have hlead : uuid.text.toList.head? ≠ some 'u' := by
    have hletters : ∀ digit : Fin 16, digitChar digit ≠ 'u' := by decide
    obtain ⟨digits, hdigits⟩ := uuid
    obtain ⟨digit, rest, rfl⟩ := List.exists_cons_of_length_pos (by omega : 0 < digits.length)
    simpa [htext, hcs] using hletters digit
  have hall : cs.take 8 ++ (cs.drop 8).take 4 ++ (cs.drop 12).take 4 ++ (cs.drop 16).take 4 ++
      cs.drop 20 = cs := by
    rw [← List.take_add, ← List.take_add, ← List.take_add, List.take_append_drop]
  rw [ofText?_of_length (by simp [htext, hlength]) hlead, htext,
    ofGroups?_join (by simp [hlength]) (by simp [hlength]) (by simp [hlength]) (by simp [hlength])
      (by simp [hlength]), hall, hcs, ofDigits?_map_digitChar]

end Uuid

namespace Instant

/-- What a clock can show: a day of the calendar, a second of the day, and a fraction of a second
that only goes beyond its end in the last second of a minute. -/
structure IsValid (instant : Instant) : Prop where
  date : instant.date.isValid
  second : instant.second < secondsPerDay
  nanosecond : instant.nanosecond < Nat.pow 10 9 ∨
    instant.second % 60 = 59 ∧ instant.nanosecond < 2 * Nat.pow 10 9

instance (instant : Instant) : Decidable instant.IsValid :=
  decidable_of_iff (instant.date.isValid ∧ instant.second < secondsPerDay ∧
      (instant.nanosecond < Nat.pow 10 9 ∨
        instant.second % 60 = 59 ∧ instant.nanosecond < 2 * Nat.pow 10 9))
    ⟨fun ⟨hdate, hsecond, hnanosecond⟩ => ⟨hdate, hsecond, hnanosecond⟩,
      fun h => ⟨h.date, h.second, h.nanosecond⟩⟩

variable {width n : Nat} {rest : List Char} {c : Char}

theorem toList_padded (width n : Nat) : (padded width n).toList =
    List.replicate (width - (Nat.toDigits 10 n).length) '0' ++ Nat.toDigits 10 n := by
  rw [padded, String.toList_ofList]

theorem value_padded (width n : Nat) : value (padded width n).toList = n := by
  change Nat.ofDigitChars 10 (padded width n).toList 0 = n
  rw [toList_padded, Nat.ofDigitChars_append, Nat.ofDigitChars_replicate_zero, Nat.mul_zero,
    Nat.ofDigitChars_ten_toDigits]

theorem isDigit_of_mem_padded (h : c ∈ (padded width n).toList) : c.isDigit := by
  rw [toList_padded, List.mem_append, List.mem_replicate] at h
  rcases h with ⟨_, rfl⟩ | h
  · decide
  · exact Nat.isDigit_of_mem_toDigits (by decide) (by decide) h

theorem length_padded (hwidth : 0 < width) (h : n < Nat.pow 10 width) :
    (padded width n).toList.length = width := by
  have hdigits := (Nat.length_toDigits_le_iff (by decide) hwidth).mpr h
  simp only [toList_padded, List.length_append, List.length_replicate]
  omega

theorem isBlank_of_isDigit (h : c.isDigit) : Text.isBlank c = false := by
  simp only [Char.isDigit, Bool.and_eq_true, decide_eq_true_eq] at h
  have hleast : 48 ≤ c.toNat := h.1
  have hgreatest : c.toNat ≤ 57 := h.2
  simp only [Text.isBlank, Bool.or_eq_false_iff, Bool.and_eq_false_iff, decide_eq_false_iff_not,
    beq_eq_false_iff_ne]
  omega

theorem trimStart_cons (h : Text.isBlank c = false) (rest : List Char) :
    Text.trimStart (c :: rest) = c :: rest := by
  simp [Text.trimStart, h]

theorem mark?_cons (h : Text.isBlank c = false) (rest : List Char) :
    mark? c (c :: rest) = some rest := by
  simp only [mark?, trimStart_cons h, if_true]

theorem exists_padded_eq_cons (width n : Nat) :
    ∃ c cs, (padded width n).toList = c :: cs ∧ c.isDigit := by
  have hnonempty : (padded width n).toList ≠ [] := by simp [toList_padded]
  obtain ⟨c, cs, hcs⟩ := List.exists_cons_of_ne_nil hnonempty
  exact ⟨c, cs, hcs, isDigit_of_mem_padded (hcs ▸ List.mem_cons_self ..)⟩

theorem trimStart_padded (width n : Nat) (rest : List Char) :
    Text.trimStart ((padded width n).toList ++ rest) = (padded width n).toList ++ rest := by
  obtain ⟨c, cs, hcs, hdigit⟩ := exists_padded_eq_cons width n
  rw [hcs, List.cons_append, trimStart_cons (isBlank_of_isDigit hdigit)]

theorem takeWhile_padded (hrest : ∀ c ∈ rest.head?, c.isDigit = false) :
    ((padded width n).toList ++ rest).takeWhile Char.isDigit = (padded width n).toList := by
  have hnone : rest.takeWhile Char.isDigit = [] := by
    cases rest with
    | nil => rfl
    | cons c rest => simp [hrest c rfl]
  rw [List.takeWhile_append_of_pos fun c => isDigit_of_mem_padded, hnone, List.append_nil]

/-- Digits are read up to a character of another kind. -/
theorem number?_padded {limit : Nat} (hlimit : (padded width n).toList.length ≤ limit)
    (hrest : ∀ c ∈ rest.head?, c.isDigit = false) :
    number? limit ((padded width n).toList ++ rest) = some (n, rest) := by
  have hnonempty : (padded width n).toList.isEmpty = false := by
    obtain ⟨c, cs, hcs, _⟩ := exists_padded_eq_cons width n
    rw [hcs]
    rfl
  simp only [number?, trimStart_padded, takeWhile_padded hrest, List.take_of_length_le hlimit,
    hnonempty, value_padded, List.drop_left]
  rfl

theorem number?_two (h : n < 100) (hrest : ∀ c ∈ rest.head?, c.isDigit = false) :
    number? 2 ((padded 2 n).toList ++ rest) = some (n, rest) :=
  number?_padded (Nat.le_of_eq (length_padded (by decide : 0 < 2) h)) hrest

theorem year?_of_isDigit (h : c.isDigit) (rest : List Char) :
    year? (c :: rest) = (number? 4 (c :: rest)).map (fun (n, rest) => (n, rest)) := by
  rw [year?, trimStart_cons (isBlank_of_isDigit h)]
  split
  · simp_all
  · simp_all
  · rfl

theorem year?_signed (negative : Bool) (h : c.isDigit) (rest : List Char) :
    year? ((if negative then '-' else '+') :: c :: rest) =
      (number? (c :: rest).length (c :: rest)).map
        (fun (n, rest) => (if negative then -n else n, rest)) := by
  cases negative <;>
    simp [year?, trimStart_cons (c := '-') (by decide), trimStart_cons (c := '+') (by decide), h]

theorem year?_yearText (year : Int) (rest : List Char) :
    year? ((yearText year).toList ++ '-' :: rest) = some (year, '-' :: rest) := by
  have hstop : ∀ c ∈ ('-' :: rest).head?, c.isDigit = false := by simp
  obtain ⟨first, others, hfirst, hdigit⟩ := exists_padded_eq_cons 4 year.natAbs
  rw [yearText]
  split
  · -- four digits without a sign
    have hfour : (padded 4 year.natAbs).toList.length ≤ 4 :=
      Nat.le_of_eq (length_padded (by decide) (by rw [Nat.pow_eq]; omega))
    have hnumber := number?_padded hfour hstop
    rw [hfirst, List.cons_append] at hnumber ⊢
    rw [year?_of_isDigit hdigit, hnumber]
    simp only [Option.map_some]
    congr
    omega
  · -- any number of digits behind a sign
    have hlength : (padded 4 year.natAbs).toList.length ≤
        ((padded 4 year.natAbs).toList ++ '-' :: rest).length := by simp
    have hnumber := number?_padded hlength hstop
    have hsign : ((if year < 0 then "-" else "+") ++ padded 4 year.natAbs).toList =
        (if decide (year < 0) then '-' else '+') :: (padded 4 year.natAbs).toList := by
      by_cases hnegative : year < 0 <;> simp [hnegative]
    rw [hfirst, List.cons_append] at hnumber
    rw [hsign, hfirst, List.cons_append, List.cons_append, year?_signed _ hdigit, hnumber]
    simp only [Option.map_some, decide_eq_true_eq]
    congr
    split <;> omega

theorem daysIn_le (year : Int) (month : Nat) : Date.daysIn year month ≤ 31 := by
  unfold Date.daysIn
  split
  · split <;> decide
  · split <;> decide

theorem date?_text {date : Date} (h : date.isValid) (rest : List Char) :
    date? ((yearText date.year).toList ++ '-' :: ((padded 2 date.month).toList ++
      '-' :: ((padded 2 date.day).toList ++ 'T' :: rest))) = some (date, 'T' :: rest) := by
  have hfields := h
  simp only [Date.isValid, Bool.and_eq_true, decide_eq_true_eq] at hfields
  obtain ⟨⟨⟨_, hmonth⟩, _⟩, hday⟩ := hfields
  have hmost := daysIn_le date.year date.month
  have hdays : date.day < 100 := by omega
  simp only [date?, year?_yearText, Option.bind_eq_bind, Option.bind_some,
    mark?_cons (c := '-') (by decide)]
  rw [number?_two (by omega) (by simp), Option.bind_some, mark?_cons (c := '-') (by decide),
    Option.bind_some, number?_two hdays (by simp), Option.bind_some, if_pos h]

theorem fraction?_padded {places : Nat} (hplaces : 0 < places) (hnine : places ≤ 9)
    (h : n < Nat.pow 10 places) (rest : List Char) :
    fraction? ('.' :: ((padded places n).toList ++ 'Z' :: rest)) =
      some (n * Nat.pow 10 (9 - places), 'Z' :: rest) := by
  have hlength := length_padded hplaces h
  have hnonempty : (padded places n).toList.isEmpty = false := by
    rw [List.isEmpty_eq_false_iff, ← List.length_pos_iff]
    omega
  have hkept : (padded places n).toList.take 9 = (padded places n).toList :=
    List.take_of_length_le (by omega)
  have hdigits : ((padded places n).toList ++ 'Z' :: rest).takeWhile Char.isDigit =
      (padded places n).toList := takeWhile_padded (by simp)
  have hrest : ((padded places n).toList ++ 'Z' :: rest).drop places = 'Z' :: rest :=
    List.drop_left' hlength
  simp only [fraction?, hdigits, hkept, hnonempty, value_padded, hlength, hrest, Nat.pow_eq]
  rfl

theorem toList_point_append (text : String) : ("." ++ text).toList = '.' :: text.toList := by
  rw [String.toList_append]
  rfl

theorem fraction?_fractionText (h : n < Nat.pow 10 9) (rest : List Char) :
    fraction? ((fractionText n).toList ++ 'Z' :: rest) = some (n, 'Z' :: rest) := by
  rw [Nat.pow_eq] at h
  simp only [fractionText, Nat.pow_eq]
  split
  · subst n
    rfl
  · split
    · rw [toList_point_append, List.cons_append,
        fraction?_padded (by decide) (by decide) (by rw [Nat.pow_eq]; omega), Nat.pow_eq]
      congr
      omega
    · split
      · rw [toList_point_append, List.cons_append,
          fraction?_padded (by decide) (by decide) (by rw [Nat.pow_eq]; omega), Nat.pow_eq]
        congr
        omega
      · rw [toList_point_append, List.cons_append,
          fraction?_padded (by decide) (by decide) (by rw [Nat.pow_eq]; omega)]
        simp

theorem head?_fractionText (n : Nat) (rest : List Char) :
    ∀ c ∈ ((fractionText n).toList ++ 'Z' :: rest).head?, c.isDigit = false := by
  unfold fractionText
  split
  · simp
  · split
    · simp
    · split <;> simp

theorem time?_text {second nanosecond : Nat} (hsecond : second < secondsPerDay)
    (hnanosecond : nanosecond < Nat.pow 10 9 ∨ second % 60 = 59 ∧ nanosecond < 2 * Nat.pow 10 9)
    (rest : List Char) :
    time? ((padded 2 (second / 3600)).toList ++ ':' :: ((padded 2 (second / 60 % 60)).toList ++
      ':' :: ((padded 2 (second % 60 + nanosecond / Nat.pow 10 9)).toList ++
      ((fractionText (nanosecond % Nat.pow 10 9)).toList ++ 'Z' :: rest)))) =
      some ((second, nanosecond), 'Z' :: rest) := by
  simp only [Nat.pow_eq] at hnanosecond ⊢
  have hday : second < 86400 := hsecond
  have hleap : second % 60 + nanosecond / 10 ^ 9 ≤ 60 := by omega
  have hfraction : nanosecond % 10 ^ 9 < 10 ^ 9 := Nat.mod_lt _ (by decide)
  rw [time?, number?_two (by omega) (by simp), Option.bind_eq_bind, Option.bind_some]
  simp only [mark?_cons (c := ':') (by decide), Option.bind_eq_bind, Option.bind_some]
  rw [number?_two (by omega) (by simp), Option.bind_some, mark?_cons (c := ':') (by decide),
    Option.bind_some, number?_two (by omega) (head?_fractionText _ rest), Option.bind_some,
    fraction?_fractionText hfraction, Option.bind_some]
  have hclock : ¬(23 < second / 3600 ∨ 59 < second / 60 % 60 ∨
      60 < second % 60 + nanosecond / 10 ^ 9) := by omega
  have hwhole : second / 3600 * 3600 + second / 60 % 60 * 60 +
      min (second % 60 + nanosecond / 10 ^ 9) 59 = second := by omega
  have hfine : (if second % 60 + nanosecond / 10 ^ 9 = 60 then nanosecond % 10 ^ 9 + 10 ^ 9
      else nanosecond % 10 ^ 9) = nanosecond := by
    split <;> omega
  simp only [if_neg hclock, hwhole, Nat.pow_eq, hfine]

theorem toList_text (instant : Instant) : instant.text.toList =
    (yearText instant.date.year).toList ++ '-' :: ((padded 2 instant.date.month).toList ++
      '-' :: ((padded 2 instant.date.day).toList ++
        'T' :: ((padded 2 (instant.second / 3600)).toList ++
          ':' :: ((padded 2 (instant.second / 60 % 60)).toList ++
            ':' :: ((padded 2 (instant.second % 60 + instant.nanosecond / Nat.pow 10 9)).toList ++
              ((fractionText (instant.nanosecond % Nat.pow 10 9)).toList ++ 'Z' :: [])))))) := by
  simp [text]

theorem back_zero (instant : Instant) (h : instant.second < secondsPerDay) :
    instant.back 0 = instant := by
  have hearly : ¬((instant.second : Int) - 0 < 0) := by omega
  have hlate : ¬((secondsPerDay : Int) ≤ instant.second - 0) := by omega
  rw [back, if_neg hearly, if_neg hlate, Int.sub_zero, Int.toNat_natCast]

theorem ofText?_text {instant : Instant} (h : instant.IsValid) :
    ofText? instant.text = some instant := by
  have hoffset : offset? ['Z'] = some (0, []) := rfl
  simp only [ofText?, toList_text, date?_text h.date, time?_text h.second h.nanosecond, hoffset,
    Option.bind_eq_bind, Option.bind_some]
  exact congrArg some (back_zero instant h.second)

end Instant

end Reindex
