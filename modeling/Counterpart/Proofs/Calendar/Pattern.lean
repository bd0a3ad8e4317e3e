import Counterpart.Proofs.Calendar.Digits

/-!
This module contains what the patterns read in a date that is written with all its digits. The
pattern of its layout reads the numbers that were written, and no other pattern reads it: a mark
differs, or a block of digits is too short or too long for what it would have to be read as.
-/

namespace Counterpart.Calendar

open Numeric Text

namespace Pattern

section Elements

variable {count : Nat} {pattern : Pattern} {start : Moment} {ds rest : List Char} {c : Char}

theorem read_literal (c : Char) (pattern : Pattern) (start : Moment) (rest : List Char)
    : read (.literal c :: pattern) start (c :: rest) = pattern.read start rest := by
  exact if_pos rfl

theorem read_literal_of_ne {d : Char} (h : c ≠ d)
    : read (.literal c :: pattern) start (d :: rest) = none := by
  exact if_neg h

theorem read_part (h : IsBlock 2 ds) (p : Part) (pattern : Pattern) (start : Moment)
    (rest : List Char)
    : read (.part p :: pattern) start (ds ++ rest)
        =
      pattern.read (p.set (ofDigits ds) start) rest := by
  rw [read, h.dropWhile_isBlank (by decide), h.takeNumber_exact (by decide)]
  rfl

theorem read_part_long (h : IsBlock 4 ds) (p : Part) (pattern : Pattern) (start : Moment)
    (rest : List Char)
    : read (.part p :: pattern) start (ds ++ rest)
        =
      pattern.read (p.set (ofDigits (ds.take 2)) start) (ds.drop 2 ++ rest) := by
  rw [read, h.dropWhile_isBlank (by decide), h.takeNumber_long (by decide) (by decide)]
  rfl

theorem read_year (h : IsBlock 4 ds) (pattern : Pattern) (start : Moment) (rest : List Char)
    : read (.year :: pattern) start (ds ++ rest)
        =
      pattern.read { start with year := ofDigits ds } rest := by
  rw [read, h.dropWhile_isBlank (by decide), h.takeYear_eq (by decide)]
  rw [h.takeNumber_exact (by decide)]
  rfl

theorem read_year_short (h : IsBlock count ds) (hpos : 0 < count) (hcount : count ≤ 4)
    (hc : c.isDigit = false) (pattern : Pattern) (start : Moment) (rest : List Char)
    : read (.year :: pattern) start (ds ++ c :: rest)
        =
      pattern.read { start with year := ofDigits ds } (c :: rest) := by
  rw [read, h.dropWhile_isBlank hpos, h.takeYear_eq hpos]
  rw [h.takeNumber_short hpos hcount hc]
  rfl

end Elements

variable {y m d h i s a b rest : List Char} {mark c : Char}

def dateOf (y m d : List Char) : Moment :=
  { year := ofDigits y, month := ofDigits m, day := ofDigits d }

section Dates

theorem read_yearFirst (hy : IsBlock 4 y) (hm : IsBlock 2 m) (hd : IsBlock 2 d) (mark : Char)
    (pattern : Pattern) (rest : List Char)
    : (yearFirst mark ++ pattern).read {} (y ++ mark :: (m ++ mark :: (d ++ rest)))
        =
      pattern.read (dateOf y m d) rest := by
  unfold yearFirst
  simp only [List.cons_append, List.nil_append]
  rw [read_year hy, read_literal, read_part hm, read_literal, read_part hd]
  rfl

theorem read_yearFirst_of_ne {count : Nat} (hy : IsBlock count y) (hpos : 0 < count)
    (hcount : count ≤ 4) (hc : c.isDigit = false) (hne : mark ≠ c) (pattern : Pattern)
    (rest : List Char)
    : (yearFirst mark ++ pattern).read {} (y ++ c :: rest) = none := by
  unfold yearFirst
  simp only [List.cons_append, List.nil_append]
  rw [read_year_short hy hpos hcount hc, read_literal_of_ne hne]

/-- Where the year stands last, two of its digits remain behind the day. -/
theorem read_yearFirst_yearLast (ha : IsBlock 2 a) (hb : IsBlock 2 b) (hy : IsBlock 4 y)
    (hmark : mark.isDigit = false) (rest : List Char)
    : (yearFirst mark).read {} (a ++ mark :: (b ++ mark :: (y ++ rest))) = none := by
  rcases (hy.drop 2).exists_cons (by decide) with ⟨e, left, hdrop, _⟩
  unfold yearFirst
  rw [read_year_short ha (by decide) (by decide) hmark, read_literal, read_part hb, read_literal]
  rw [read_part_long hy, hdrop]
  rfl

/-- Where the year stands first, two of its digits remain before the mark. -/
theorem read_part_yearFirst (hy : IsBlock 4 y) (hmark : mark.isDigit = false) (p : Part)
    (pattern : Pattern) (start : Moment) (rest : List Char)
    : read (.part p :: .literal mark :: pattern) start (y ++ rest) = none := by
  rcases (hy.drop 2).exists_cons (by decide) with ⟨e, left, hdrop, he⟩
  rw [read_part_long hy, hdrop, List.cons_append, read_literal_of_ne]
  rintro rfl
  rw [hmark] at he
  cases he

theorem read_part_of_ne (ha : IsBlock 2 a) (hne : mark ≠ c) (p : Part) (pattern : Pattern)
    (start : Moment) (rest : List Char)
    : read (.part p :: .literal mark :: pattern) start (a ++ c :: rest) = none := by
  rw [read_part ha, read_literal_of_ne hne]

theorem read_monthFirst (hy : IsBlock 4 y) (hm : IsBlock 2 m) (hd : IsBlock 2 d) (rest : List Char)
    : monthFirst.read {} (m ++ '/' :: (d ++ '/' :: (y ++ rest))) = read [] (dateOf y m d) rest := by
  unfold monthFirst
  rw [read_part hm, read_literal, read_part hd, read_literal, read_year hy]
  rfl

theorem read_dayFirst (hy : IsBlock 4 y) (hm : IsBlock 2 m) (hd : IsBlock 2 d) (rest : List Char)
    : dayFirst.read {} (d ++ '.' :: (m ++ '.' :: (y ++ rest))) = read [] (dateOf y m d) rest := by
  unfold dayFirst
  rw [read_part hd, read_literal, read_part hm, read_literal, read_year hy]
  rfl

theorem any_dates_yearFirst (hy : IsBlock 4 y) (hm : IsBlock 2 m) (hd : IsBlock 2 d)
    (hmark : mark = '-' ∨ mark = '/') (rest : List Char)
    : dates.any (·.accepts (y ++ mark :: (m ++ mark :: (d ++ rest))))
        =
      (read [] (dateOf y m d) rest).any Moment.exists? := by
  have hmonth : monthFirst.read {} (y ++ mark :: (m ++ mark :: (d ++ rest))) = none :=
    read_part_yearFirst hy rfl _ _ _ _
  have hday : dayFirst.read {} (y ++ mark :: (m ++ mark :: (d ++ rest))) = none :=
    read_part_yearFirst hy rfl _ _ _ _
  have hread := read_yearFirst hy hm hd mark [] rest
  rw [List.append_nil] at hread
  have hother (other : Char) (hne : other ≠ mark) (hdigit : mark.isDigit = false)
      : (yearFirst other).read {} (y ++ mark :: (m ++ mark :: (d ++ rest))) = none := by
    rw [← List.append_nil (yearFirst other)]
    exact read_yearFirst_of_ne hy (by decide) (by decide) hdigit hne [] _
  unfold dates accepts
  rcases hmark with rfl | rfl
  . simp [hmonth, hday, hread, hother '/' (by decide) (by decide)]
  . simp [hmonth, hday, hread, hother '-' (by decide) (by decide)]

theorem any_dates_yearLast (ha : IsBlock 2 a) (hb : IsBlock 2 b) (hy : IsBlock 4 y)
    (hmark : mark = '/' ∨ mark = '.')
    : dates.any (·.accepts (a ++ mark :: (b ++ mark :: y)))
        =
      (if mark = '/' then dateOf y a b else dateOf y b a).exists? := by
  have hyear {other : Char} (hne : other ≠ mark) (hdigit : mark.isDigit = false)
      : (yearFirst other).read {} (a ++ mark :: (b ++ mark :: y)) = none := by
    rw [← List.append_nil (yearFirst other)]
    exact read_yearFirst_of_ne ha (by decide) (by decide) hdigit hne [] _
  have hhyphen : (yearFirst '-').read {} (a ++ mark :: (b ++ mark :: y)) = none := by
    rcases hmark with rfl | rfl
    . exact hyear (by decide) (by decide)
    . exact hyear (by decide) (by decide)
  have hmonth := read_monthFirst hy ha hb []
  have hday := read_dayFirst hy hb ha []
  unfold dates accepts
  rcases hmark with rfl | rfl
  -- The slash stands in dates with the year first as well, but these leave two digits.
  . have hslash : (yearFirst '/').read {} (a ++ '/' :: (b ++ '/' :: (y ++ []))) = none :=
      read_yearFirst_yearLast ha hb hy rfl []
    have hother : dayFirst.read {} (a ++ '/' :: (b ++ '/' :: y)) = none :=
      read_part_of_ne ha (by decide) _ _ _ _
    rw [List.append_nil] at hmonth hslash
    simp [hhyphen, hslash, hmonth, hother, read]
  . have hother : monthFirst.read {} (a ++ '.' :: (b ++ '.' :: y)) = none :=
      read_part_of_ne ha (by decide) _ _ _ _
    rw [List.append_nil] at hday
    simp [hhyphen, hyear, hday, hother, read]

end Dates

section DateTimes

theorem any_dateTimes_of_ne {count : Nat} (hy : IsBlock count y) (hpos : 0 < count)
    (hcount : count ≤ 4) (hc : c.isDigit = false) (hne : '-' ≠ c) (rest : List Char)
    : dateTimes.any (·.accepts (y ++ c :: rest)) = false := by
  unfold dateTimes accepts
  simp [read_yearFirst_of_ne hy hpos hcount hc hne]

theorem any_dateTimes_date (hy : IsBlock 4 y) (hm : IsBlock 2 m) (hd : IsBlock 2 d)
    : dateTimes.any (·.accepts (y ++ '-' :: (m ++ '-' :: d))) = false := by
  have hread (pattern : Pattern) := read_yearFirst hy hm hd '-' pattern []
  rw [List.append_nil] at hread
  unfold dateTimes accepts
  simp only [List.any_cons, List.any_nil, hread]
  rfl

theorem read_blanks_hour (hh : IsBlock 2 h) (pattern : Pattern) (start : Moment) (rest : List Char)
    : read (.blanks :: pattern) start (' ' :: (h ++ rest)) = pattern.read start (h ++ rest) := by
  rw [read, List.dropWhile_cons_of_pos rfl, hh.dropWhile_isBlank (by decide)]

theorem any_dateTimes_hour (hy : IsBlock 4 y) (hm : IsBlock 2 m) (hd : IsBlock 2 d)
    (hh : IsBlock 2 h) (hmark : mark = 'T' ∨ mark = ' ') (rest : List Char)
    : dateTimes.any (·.accepts (y ++ '-' :: (m ++ '-' :: (d ++ mark :: (h ++ rest)))))
        =
      [hourMinuteSecond, hourMinute].any
        fun time => (time.read (dateOf y m d) (h ++ rest)).any Moment.exists? := by
  unfold dateTimes accepts
  simp only [List.any_cons, List.any_nil, read_yearFirst hy hm hd]
  rcases hmark with rfl | rfl
  . have hblanks : read (.blanks :: hourMinuteSecond) (dateOf y m d) ('T' :: (h ++ rest)) = none := rfl
    have hblanks' : read (.blanks :: hourMinute) (dateOf y m d) ('T' :: (h ++ rest)) = none := rfl
    simp [read_literal, hblanks, hblanks']
  . simp [read_literal_of_ne, read_blanks_hour hh]

theorem read_hourMinute (hh : IsBlock 2 h) (hi : IsBlock 2 i) (pattern : Pattern) (start : Moment)
    (rest : List Char)
    : (hourMinute ++ pattern).read start (h ++ ':' :: (i ++ rest))
        =
      pattern.read { start with hour := ofDigits h, minute := ofDigits i } rest := by
  unfold hourMinute
  simp only [List.cons_append, List.nil_append]
  rw [read_part hh, read_literal, read_part hi]
  rfl

theorem any_dateTimes_hourMinute (hy : IsBlock 4 y) (hm : IsBlock 2 m) (hd : IsBlock 2 d)
    (hh : IsBlock 2 h) (hi : IsBlock 2 i) (hmark : mark = 'T' ∨ mark = ' ')
    : dateTimes.any (·.accepts (y ++ '-' :: (m ++ '-' :: (d ++ mark :: (h ++ ':' :: i)))))
        =
      { dateOf y m d with hour := ofDigits h, minute := ofDigits i : Moment }.exists? := by
  have hshort := read_hourMinute hh hi [] (dateOf y m d) []
  have hlong := read_hourMinute hh hi [.literal ':', .part .second] (dateOf y m d) []
  rw [List.append_nil] at hshort hlong
  rw [List.append_nil] at hshort
  rw [any_dateTimes_hour hy hm hd hh hmark, List.any_cons, List.any_cons, List.any_nil]
  unfold hourMinuteSecond
  rw [hshort, hlong]
  simp [read]

theorem any_dateTimes_hourMinuteSecond (hy : IsBlock 4 y) (hm : IsBlock 2 m) (hd : IsBlock 2 d)
    (hh : IsBlock 2 h) (hi : IsBlock 2 i) (hs : IsBlock 2 s) (hmark : mark = 'T' ∨ mark = ' ')
    : dateTimes.any
          (·.accepts (y ++ '-' :: (m ++ '-' :: (d ++ mark :: (h ++ ':' :: (i ++ ':' :: s))))))
        =
      { dateOf y m d with
        hour := ofDigits h, minute := ofDigits i, second := ofDigits s : Moment }.exists? := by
  have hsecond (start : Moment)
      : read [.part .second] start s = some { start with second := ofDigits s } := by
    have hread := read_part hs .second [] start []
    rwa [List.append_nil] at hread
  have hshort := read_hourMinute hh hi [] (dateOf y m d) (':' :: s)
  rw [List.append_nil] at hshort
  rw [any_dateTimes_hour hy hm hd hh hmark, List.any_cons, List.any_cons, List.any_nil]
  unfold hourMinuteSecond
  rw [hshort, read_hourMinute hh hi, read_literal, hsecond]
  simp [read]

end DateTimes

end Pattern

end Counterpart.Calendar
