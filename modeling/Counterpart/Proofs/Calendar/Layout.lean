import Counterpart.Proofs.Calendar.Date
import Counterpart.Proofs.Calendar.Pattern

/-!
This module contains that a date in one of the usual layouts, with a time of day or without, is
accepted just if the calendar has the day and the clock shows the time.
-/

namespace Counterpart.Calendar

open Numeric Text Pattern

variable {y m d h i s a b cs : List Char} {mark : Char}

theorem isDateChars_of_length (h : cs.length < 20)
    : isDateChars cs = (dateTimes.any (·.accepts cs) || dates.any (·.accepts cs)) := by
  have htimestamp : isTimestamp cs = false := by
    rw [Bool.eq_false_iff]
    intro hcs
    exact absurd (length_of_isTimestamp hcs) (Nat.not_le_of_lt h)
  unfold isDateChars
  rw [htimestamp, Bool.false_or]

theorem isDateChars_yearFirst (hy : IsBlock 4 y) (hm : IsBlock 2 m) (hd : IsBlock 2 d)
    (hmark : mark = '-' ∨ mark = '/')
    : isDateChars (y ++ mark :: (m ++ mark :: d)) = (dateOf y m d).exists? := by
  have hdates := any_dates_yearFirst hy hm hd hmark []
  rw [List.append_nil] at hdates
  have htimes : dateTimes.any (·.accepts (y ++ mark :: (m ++ mark :: d))) = false := by
    rcases hmark with rfl | rfl
    . exact any_dateTimes_date hy hm hd
    . exact any_dateTimes_of_ne hy (by decide) (by decide) (by decide) (by decide) _
  rw [isDateChars_of_length, htimes, hdates]
  . rfl
  . simp [hy.length, hm.length, hd.length]

theorem isDateChars_yearLast (ha : IsBlock 2 a) (hb : IsBlock 2 b) (hy : IsBlock 4 y)
    (hmark : mark = '/' ∨ mark = '.')
    : isDateChars (a ++ mark :: (b ++ mark :: y))
        =
      (if mark = '/' then dateOf y a b else dateOf y b a).exists? := by
  have hmark' : mark.isDigit = false ∧ '-' ≠ mark := by
    rcases hmark with rfl | rfl
    . decide
    . decide
  rw [isDateChars_of_length, any_dates_yearLast ha hb hy hmark]
  . rw [any_dateTimes_of_ne ha (by decide) (by decide) hmark'.1 hmark'.2, Bool.false_or]
  . simp [hy.length, ha.length, hb.length]

theorem any_dates_mark (hy : IsBlock 4 y) (hm : IsBlock 2 m) (hd : IsBlock 2 d) (rest : List Char)
    : dates.any (·.accepts (y ++ '-' :: (m ++ '-' :: (d ++ mark :: rest)))) = false := by
  rw [any_dates_yearFirst hy hm hd (.inl rfl)]
  rfl

theorem isDateChars_hourMinute (hy : IsBlock 4 y) (hm : IsBlock 2 m) (hd : IsBlock 2 d)
    (hh : IsBlock 2 h) (hi : IsBlock 2 i) (hmark : mark = 'T' ∨ mark = ' ')
    : isDateChars (y ++ '-' :: (m ++ '-' :: (d ++ mark :: (h ++ ':' :: i))))
        =
      { dateOf y m d with hour := ofDigits h, minute := ofDigits i : Moment }.exists? := by
  rw [isDateChars_of_length, any_dateTimes_hourMinute hy hm hd hh hi hmark]
  . rw [any_dates_mark hy hm hd, Bool.or_false]
  . simp [hy.length, hm.length, hd.length, hh.length, hi.length]

theorem isDateChars_hourMinuteSecond (hy : IsBlock 4 y) (hm : IsBlock 2 m) (hd : IsBlock 2 d)
    (hh : IsBlock 2 h) (hi : IsBlock 2 i) (hs : IsBlock 2 s) (hmark : mark = 'T' ∨ mark = ' ')
    : isDateChars (y ++ '-' :: (m ++ '-' :: (d ++ mark :: (h ++ ':' :: (i ++ ':' :: s)))))
        =
      { dateOf y m d with
        hour := ofDigits h, minute := ofDigits i, second := ofDigits s : Moment }.exists? := by
  rw [isDateChars_of_length, any_dateTimes_hourMinuteSecond hy hm hd hh hi hs hmark]
  . rw [any_dates_mark hy hm hd, Bool.or_false]
  . simp [hy.length, hm.length, hd.length, hh.length, hi.length, hs.length]

section Surrounded

variable {count width : Nat}

theorem trimmed_of_blocks (ha : IsBlock count a) (hcount : 0 < count) (hb : IsBlock width b)
    (hwidth : 0 < width) (hlast : b <:+ a ++ cs)
    : Trimmed (a ++ cs) := by
  have hane : a ≠ [] := List.ne_nil_of_length_pos (hcount.trans_eq ha.length.symm)
  have hbne : b ≠ [] := List.ne_nil_of_length_pos (hwidth.trans_eq hb.length.symm)
  intro hne
  constructor
  . rw [List.head_append_of_ne_nil hane]
    exact not_isBlank_of_isDigit (ha.digits _ (List.head_mem hane))
  . rw [← hlast.getLast hbne]
    exact not_isBlank_of_isDigit (hb.digits _ (List.getLast_mem hbne))

theorem suffix_append_cons (h : b <:+ cs) (a : List Char) (c : Char) : b <:+ a ++ c :: cs :=
  (h.trans (List.suffix_cons c cs)).trans (List.suffix_append a (c :: cs))

theorem isDate_surrounded (h : Trimmed cs) {before after : String}
    (hbefore : isBlankText before = true) (hafter : isBlankText after = true)
    : isDate (before ++ .ofList cs ++ after) = isDateChars cs := by
  unfold isDate
  rw [String.toList_append, String.toList_append, String.toList_ofList]
  rw [trimChars_append_right (List.all_eq_true.1 hafter)]
  rw [trimChars_append_left (List.all_eq_true.1 hbefore), trimChars_eq_self h]

end Surrounded

section Numbers

variable {year month day hour minute second : Nat}

theorem exists?_iff (hyear : year ≤ 9999)
    : Moment.exists? ⟨year, month, day, hour, minute, second⟩ = true
        ↔
      HasDay year month day ∧ hour ≤ 23 ∧ minute ≤ 59 ∧ second ≤ 60 := by
  unfold Moment.exists?
  rw [hasDay_iff, Bool.and_eq_true, decide_eq_true_eq, decide_eq_true_eq]
  unfold Moment.IsDate Moment.IsTime
  constructor
  . rintro ⟨⟨_, _, hday⟩, htime⟩
    exact ⟨hday, htime⟩
  . rintro ⟨hday, htime⟩
    have hfirst : -262143 ≤ (year : Int) := by omega
    have hlast : (year : Int) ≤ 262142 := by omega
    exact ⟨⟨hfirst, hlast, hday⟩, htime⟩

theorem isBlock_four (hyear : year ≤ 9999) : IsBlock 4 (padded 4 year) :=
  isBlock_padded (by decide) (Nat.lt_succ_of_le hyear)

theorem isBlock_two {n : Nat} (h : n ≤ 99) : IsBlock 2 (padded 2 n) :=
  isBlock_padded (by decide) (Nat.lt_succ_of_le h)

theorem dateOf_padded
    : dateOf (padded 4 year) (padded 2 month) (padded 2 day)
        =
      { year := year, month := month, day := day } := by
  unfold dateOf
  rw [ofDigits_padded, ofDigits_padded, ofDigits_padded]

def yearFirstText (mark : Char) (year month day : Nat) : List Char :=
  padded 4 year ++ mark :: (padded 2 month ++ mark :: padded 2 day)

def yearLastText (mark : Char) (first second year : Nat) : List Char :=
  padded 2 first ++ mark :: (padded 2 second ++ mark :: padded 4 year)

def dateTexts (year month day : Nat) : List (List Char) := [
  yearFirstText '-' year month day,
  yearFirstText '/' year month day,
  yearLastText '/' month day year,
  yearLastText '.' day month year]

def hourMinuteText (hour minute : Nat) : List Char := padded 2 hour ++ ':' :: padded 2 minute

def hourMinuteSecondText (hour minute second : Nat) : List Char :=
  padded 2 hour ++ ':' :: (padded 2 minute ++ ':' :: padded 2 second)

def dateTimeTexts (year month day : Nat) (time : List Char) : List (List Char) := [
  padded 4 year ++ '-' :: (padded 2 month ++ '-' :: (padded 2 day ++ 'T' :: time)),
  padded 4 year ++ '-' :: (padded 2 month ++ '-' :: (padded 2 day ++ ' ' :: time))]

theorem trimmed_of_mem_dateTexts (hyear : year ≤ 9999) (hmonth : month ≤ 99) (hday : day ≤ 99)
    {text : List Char} (htext : text ∈ dateTexts year month day)
    : Trimmed text := by
  have hy := isBlock_four hyear
  have hm := isBlock_two hmonth
  have hd := isBlock_two hday
  have hsuffix {a b c : List Char} {mark : Char} : c <:+ a ++ mark :: (b ++ mark :: c) :=
    suffix_append_cons (suffix_append_cons List.suffix_rfl b mark) a mark
  simp only [dateTexts, List.mem_cons, List.not_mem_nil, or_false] at htext
  rcases htext with rfl | rfl | rfl | rfl
  . exact trimmed_of_blocks hy (by decide) hd (by decide) hsuffix
  . exact trimmed_of_blocks hy (by decide) hd (by decide) hsuffix
  . exact trimmed_of_blocks hm (by decide) hy (by decide) hsuffix
  . exact trimmed_of_blocks hd (by decide) hy (by decide) hsuffix

theorem isDateChars_of_mem_dateTexts (hyear : year ≤ 9999) (hmonth : month ≤ 99) (hday : day ≤ 99)
    {text : List Char} (htext : text ∈ dateTexts year month day)
    : isDateChars text = true ↔ HasDay year month day := by
  have hy := isBlock_four hyear
  have hm := isBlock_two hmonth
  have hd := isBlock_two hday
  have hexists : (dateOf (padded 4 year) (padded 2 month) (padded 2 day)).exists? = true
      ↔ HasDay year month day := by
    rw [dateOf_padded, exists?_iff hyear]
    simp
  simp only [dateTexts, List.mem_cons, List.not_mem_nil, or_false] at htext
  rcases htext with rfl | rfl | rfl | rfl
  . exact (isDateChars_yearFirst hy hm hd (.inl rfl)) ▸ hexists
  . exact (isDateChars_yearFirst hy hm hd (.inr rfl)) ▸ hexists
  . exact (isDateChars_yearLast hm hd hy (.inl rfl)) ▸ hexists
  . exact (isDateChars_yearLast hd hm hy (.inr rfl)) ▸ hexists

theorem exists_mark_of_mem_dateTimeTexts {time text : List Char}
    (htext : text ∈ dateTimeTexts year month day time)
    : ∃ mark, (mark = 'T' ∨ mark = ' ')
        ∧ text = padded 4 year ++ '-' :: (padded 2 month ++ '-' :: (padded 2 day ++ mark :: time)) := by
  simp only [dateTimeTexts, List.mem_cons, List.not_mem_nil, or_false] at htext
  rcases htext with rfl | rfl
  . exact ⟨'T', .inl rfl, rfl⟩
  . exact ⟨' ', .inr rfl, rfl⟩

theorem isDateChars_hourMinuteText (hyear : year ≤ 9999) (hmonth : month ≤ 99) (hday : day ≤ 99)
    (hhour : hour ≤ 99) (hminute : minute ≤ 99) {text : List Char}
    (htext : text ∈ dateTimeTexts year month day (hourMinuteText hour minute))
    : Trimmed text
        ∧ (isDateChars text = true ↔ HasDay year month day ∧ hour ≤ 23 ∧ minute ≤ 59) := by
  have hy := isBlock_four hyear
  have hm := isBlock_two hmonth
  have hd := isBlock_two hday
  have hh := isBlock_two hhour
  have hi := isBlock_two hminute
  rcases exists_mark_of_mem_dateTimeTexts htext with ⟨mark, hmark, rfl⟩
  unfold hourMinuteText
  constructor
  . apply trimmed_of_blocks hy (by decide) hi (by decide)
    exact suffix_append_cons (suffix_append_cons (suffix_append_cons
      (suffix_append_cons List.suffix_rfl _ _) _ _) _ _) _ _
  . rw [isDateChars_hourMinute hy hm hd hh hi hmark, dateOf_padded]
    rw [ofDigits_padded, ofDigits_padded, exists?_iff hyear]
    simp

theorem isDateChars_hourMinuteSecondText (hyear : year ≤ 9999) (hmonth : month ≤ 99)
    (hday : day ≤ 99) (hhour : hour ≤ 99) (hminute : minute ≤ 99) (hsecond : second ≤ 99)
    {text : List Char}
    (htext : text ∈ dateTimeTexts year month day (hourMinuteSecondText hour minute second))
    : Trimmed text
        ∧ (isDateChars text = true
            ↔
          HasDay year month day ∧ hour ≤ 23 ∧ minute ≤ 59 ∧ second ≤ 60) := by
  have hy := isBlock_four hyear
  have hm := isBlock_two hmonth
  have hd := isBlock_two hday
  have hh := isBlock_two hhour
  have hi := isBlock_two hminute
  have hs := isBlock_two hsecond
  rcases exists_mark_of_mem_dateTimeTexts htext with ⟨mark, hmark, rfl⟩
  unfold hourMinuteSecondText
  constructor
  . apply trimmed_of_blocks hy (by decide) hs (by decide)
    exact suffix_append_cons (suffix_append_cons (suffix_append_cons (suffix_append_cons
      (suffix_append_cons List.suffix_rfl _ _) _ _) _ _) _ _) _ _
  . rw [isDateChars_hourMinuteSecond hy hm hd hh hi hs hmark, dateOf_padded]
    rw [ofDigits_padded, ofDigits_padded, ofDigits_padded, exists?_iff hyear]

/-- A date that is written with all its digits is accepted in each layout just if the calendar has
the day, and with a time of day just if the clock shows the time besides. -/
theorem isDate_text_iff_hasDay (hyear : year ≤ 9999) (hmonth : month ≤ 99) (hday : day ≤ 99)
    {before after : String} (hbefore : isBlankText before = true)
    (hafter : isBlankText after = true)
    : (∀ text ∈ dateTexts year month day,
        isDate (before ++ .ofList text ++ after) = true ↔ HasDay year month day)
      ∧ ∀ hour ≤ 99, ∀ minute ≤ 99,
          (∀ text ∈ dateTimeTexts year month day (hourMinuteText hour minute),
            isDate (before ++ .ofList text ++ after) = true
              ↔
            HasDay year month day ∧ hour ≤ 23 ∧ minute ≤ 59)
          ∧ ∀ second ≤ 99,
            ∀ text ∈ dateTimeTexts year month day (hourMinuteSecondText hour minute second),
              isDate (before ++ .ofList text ++ after) = true
                ↔
              HasDay year month day ∧ hour ≤ 23 ∧ minute ≤ 59 ∧ second ≤ 60 := by
  constructor
  . intro text htext
    rw [isDate_surrounded (trimmed_of_mem_dateTexts hyear hmonth hday htext) hbefore hafter]
    exact isDateChars_of_mem_dateTexts hyear hmonth hday htext
  . intro hour hhour minute hminute
    constructor
    . intro text htext
      have ⟨htrimmed, hchars⟩ :=
        isDateChars_hourMinuteText hyear hmonth hday hhour hminute htext
      rw [isDate_surrounded htrimmed hbefore hafter]
      exact hchars
    . intro second hsecond text htext
      have ⟨htrimmed, hchars⟩ :=
        isDateChars_hourMinuteSecondText hyear hmonth hday hhour hminute hsecond htext
      rw [isDate_surrounded htrimmed hbefore hafter]
      exact hchars

theorem isDate_text_iff_hasDay_leap
    : isBlankText "\t" = true
        ∧ HasDay 2000 2 29
        ∧ isDate "\t29.02.2000 " = true
        ∧ isDate "\t2000-02-29 23:59:60 " = true
        ∧ isDate "\t2000-02-29T24:00 " = false
        ∧ ¬ HasDay 1900 2 29
        ∧ isDate "\t02/29/1900 " = false := by
  have htab : isBlankText "\t" = true := by decide +kernel
  have hspace : isBlankText " " = true := by decide +kernel
  have hleap : HasDay 2000 2 29 := hasDay_iff.2 (by decide)
  have hcommon : ¬ HasDay 1900 2 29 := fun h => absurd (hasDay_iff.1 h) (by decide)
  have ⟨hdates, htimes⟩ :=
    @isDate_text_iff_hasDay 2000 2 29 (by decide) (by decide) (by decide) "\t" " " htab hspace
  have ⟨hnone, _⟩ :=
    @isDate_text_iff_hasDay 1900 2 29 (by decide) (by decide) (by decide) "\t" " " htab hspace
  have hdayFirst := (hdates "29.02.2000".toList (by decide +kernel)).2 hleap
  have hsecond := ((htimes 23 (by decide) 59 (by decide)).2 60 (by decide)
    "2000-02-29 23:59:60".toList (by decide +kernel)).2 ⟨hleap, by decide⟩
  have hhour := (htimes 24 (by decide) 0 (by decide)).1 "2000-02-29T24:00".toList (by decide +kernel)
  have hmonthFirst := hnone "02/29/1900".toList (by decide +kernel)
  refine ⟨htab, hleap, hdayFirst, hsecond, ?_, hcommon, ?_⟩
  . rw [Bool.eq_false_iff]
    intro h
    exact absurd (hhour.1 h).2.1 (by decide)
  . rw [Bool.eq_false_iff]
    intro h
    exact hcommon (hmonthFirst.1 h)

end Numbers

end Counterpart.Calendar
