import ShapeCheck.Instant.Reading
import ShapeCheck.Proofs.Instant
import ShapeCheck.Proofs.Instant.Text

namespace ShapeCheck

namespace Text
open Numeral

theorem length_padded {width n : Nat} (given : 0 < width) (fits : n < 10 ^ width) :
    (padded width n).toList.length = width := by
  have digits := (Nat.length_toDigits_le_iff (by decide) given).2 fits
  rw [padded, String.toList_ofList, List.length_append, List.length_replicate]
  omega

end Text

namespace Numeral

theorem ofDigits_lt {cs : List Char} (digits : ∀ c ∈ cs, c.isDigit = true) :
    ofDigits (digitsOf cs) < 10 ^ cs.length := by
  induction cs with
  | nil => exact Nat.one_pos
  | cons c cs ih =>
      have rest := ih fun d member => digits d (List.mem_cons_of_mem c member)
      have first := Char.isDigit_iff_toNat.1 (digits c List.mem_cons_self)
      have split : ofDigits (digitsOf (c :: cs)) =
          (c.toNat - '0'.toNat) * 10 ^ cs.length + ofDigits (digitsOf cs) := by
        rw [show digitsOf (c :: cs) = [c.toNat - '0'.toNat] ++ digitsOf cs from rfl, ofDigits_append]
        simp [ofDigits, digitsOf]
      have most : c.toNat - '0'.toNat ≤ 9 := by
        rw [Nat.sub_le_iff_le_add]
        exact first.2
      calc ofDigits (digitsOf (c :: cs)) < 9 * 10 ^ cs.length + 10 ^ cs.length := by
            rw [split]
            exact Nat.add_lt_add_of_le_of_lt (Nat.mul_le_mul_right _ most) rest
        _ = 10 ^ (c :: cs).length := by
            rw [List.length_cons]
            ring

end Numeral

namespace Instant
open Numeral Text

/-! ## Bytes -/

theorem bytesOf_of_ascii {s : String} (ascii : ∀ c ∈ s.toList, c.toNat < 128) :
    bytesOf s = s.toList.map Char.toNat := by
  rw [bytesOf, List.map_eq_flatMap]
  refine List.flatMap_congr fun c member => ?_
  have small : c.toNat < 128 := ascii c member
  have size : c.utf8Size = 1 := by
    rw [Char.utf8Size_eq_one_iff, UInt32.le_iff_toNat_le]
    exact Nat.le_of_lt_succ small
  rw [String.utf8EncodeChar_eq_singleton size, List.map_singleton, UInt32.toNat_toUInt8]
  exact congrArg (fun n => [n]) (Nat.mod_eq_of_lt (show c.toNat < 256 by omega))

theorem ascii_of_isDigit {c : Char} (isDigit : c.isDigit = true) : c.toNat < 128 :=
  Nat.lt_of_le_of_lt (Char.isDigit_iff_toNat.1 isDigit).2 (by decide)

theorem ascii_of_mem_padded (width n : Nat) : ∀ c ∈ (padded width n).toList, c.toNat < 128 :=
  fun c member => ascii_of_isDigit (isDigit_of_mem_padded width n c member)

theorem digit_of_isDigit {c : Char} (isDigit : c.isDigit = true) :
    digit c.toNat = .ok (c.toNat - 48) :=
  if_pos (Char.isDigit_iff_toNat.1 isDigit)

theorem pair_of_isDigit {a b : Char} (tens : a.isDigit = true) (ones : b.isDigit = true) :
    pair a.toNat b.toNat = .ok (ofDigits (digitsOf [a, b])) := by
  rw [pair, digit_of_isDigit tens, digit_of_isDigit ones]
  simp [ofDigits, digitsOf]
  rfl

theorem exists_pair {n : Nat} (fits : n < 100) :
    ∃ a b, (padded 2 n).toList = [a, b] ∧ pair a.toNat b.toNat = .ok n := by
  obtain ⟨a, b, same⟩ := List.length_eq_two.1 (length_padded (by decide) fits)
  have digits := isDigit_of_mem_padded 2 n
  have value := ofDigits_padded 2 n
  rw [same] at digits value
  refine ⟨a, b, same, ?_⟩
  rw [pair_of_isDigit (digits a (by simp)) (digits b (by simp)), value]

theorem exists_pairs {n : Nat} (fits : n < 10000) :
    ∃ a b c d high low, (padded 4 n).toList = [a, b, c, d] ∧ pair a.toNat b.toNat = .ok high ∧
      pair c.toNat d.toNat = .ok low ∧ high * 100 + low = n := by
  have digits := isDigit_of_mem_padded 4 n
  have value := ofDigits_padded 4 n
  match same : (padded 4 n).toList, @length_padded 4 n (by decide) fits with
  | [a, b, c, d], _ =>
      rw [same] at digits value
      refine ⟨a, b, c, d, _, _, rfl, pair_of_isDigit (digits a (by simp)) (digits b (by simp)),
        pair_of_isDigit (digits c (by simp)) (digits d (by simp)), ?_⟩
      rw [← value, show digitsOf [a, b, c, d] = digitsOf [a, b] ++ digitsOf [c, d] from rfl,
        ofDigits_append]
      rfl

/-! ## The date and the time -/

def Clock.text (c : Clock) : String :=
  yearText c.date.year ++ "-" ++ padded 2 c.date.month ++ "-" ++ padded 2 c.date.day ++ "T" ++
    padded 2 c.hour ++ ":" ++ padded 2 c.minute ++ ":" ++ padded 2 c.second

structure Clock.Plain (c : Clock) : Prop where
  isDate : Calendar.isDate c.date = true
  year : 0 ≤ c.date.year ∧ c.date.year ≤ 9999
  hour : c.hour < 24
  minute : c.minute < 60
  second : c.second < 60

theorem readClock_text {c : Clock} (plain : c.Plain) (rest : List Char) :
    readClock ((c.text.toList ++ rest).map Char.toNat) = .ok (c, rest.map Char.toNat) := by
  obtain ⟨⟨year, month, day⟩, hour, minute, second⟩ := c
  obtain ⟨real, ⟨least, most⟩, hours, minutes, seconds⟩ := plain
  obtain ⟨months, days⟩ := Calendar.lt_of_isDate real
  dsimp only at *
  obtain ⟨y₁, y₂, y₃, y₄, century, years, yearText', readCentury, readYear, sum⟩ :=
    exists_pairs (n := year.toNat) (by omega)
  obtain ⟨m₁, m₂, monthText, readMonth⟩ := exists_pair (n := month) (by omega)
  obtain ⟨d₁, d₂, dayText, readDay⟩ := exists_pair (n := day) (by omega)
  obtain ⟨h₁, h₂, hourText, readHour⟩ := exists_pair (n := hour) (by omega)
  obtain ⟨n₁, n₂, minuteText, readMinute⟩ := exists_pair (n := minute) (by omega)
  obtain ⟨s₁, s₂, secondText, readSecond⟩ := exists_pair (n := second) (by omega)
  have date : (⟨(century * 100 + years : Nat), month, day⟩ : CalendarDate) = ⟨year, month, day⟩ := by
    rw [sum, Int.toNat_of_nonneg least]
  simp only [Clock.text, yearText, if_pos (And.intro least most), String.toList_append,
    String.reduceToList, yearText', monthText, dayText, hourText, minuteText, secondText,
    List.cons_append, List.nil_append, List.map_cons]
  rw [readClock]
  have sign (b : Nat) : expect [b] b = .ok () := by simp [expect]
  have letter : expect ['t'.toNat, 'T'.toNat, ' '.toNat] 'T'.toNat = .ok () := rfl
  simp only [readCentury, readYear, readMonth, readDay, readHour, readMinute, readSecond, sign,
    letter, bind, Except.bind, date, real]
  rfl

/-! ## The fraction -/

theorem spanDigits_append {cs rest : List Char} (digits : ∀ c ∈ cs, c.isDigit = true)
    (stops : Stops rest) :
    spanDigits ((cs ++ rest).map Char.toNat) = (cs.map Char.toNat, rest.map Char.toNat) := by
  have isDigit (c : Char) : (48 ≤ c.toNat && c.toNat ≤ 57) = c.isDigit := by
    rw [Bool.eq_iff_iff, Char.isDigit_iff_toNat, Bool.and_eq_true, decide_eq_true_iff,
      decide_eq_true_iff]
    rfl
  have inside : ∀ b ∈ cs.map Char.toNat, (48 ≤ b && b ≤ 57) = true := by
    intro b member
    obtain ⟨c, given, rfl⟩ := List.mem_map.1 member
    rw [isDigit]
    exact digits c given
  rw [spanDigits, List.span_eq_takeWhile_dropWhile, List.map_append,
    List.takeWhile_append_of_pos inside, List.dropWhile_append_of_pos inside]
  cases rest with
  | nil => simp
  | cons c rest =>
      have other := stops c rfl
      rw [← isDigit] at other
      simp only [List.map_cons, List.takeWhile_cons, List.dropWhile_cons, other]
      simp

theorem readFraction_digits {cs rest : List Char} (digits : ∀ c ∈ cs, c.isDigit = true)
    (given : cs ≠ []) (stops : Stops rest) :
    readFraction (('.' :: (cs ++ rest)).map Char.toNat) =
      .ok (ofDigits (digitsOf (cs.take 9)) * Nat.pow 10 (9 - (cs.take 9).length),
        rest.map Char.toNat) := by
  obtain ⟨c, others, rfl⟩ := List.exists_cons_of_ne_nil given
  have first : 48 ≤ c.toNat ∧ c.toNat ≤ 57 :=
    Char.isDigit_iff_toNat.1 (digits c List.mem_cons_self)
  have spanned := spanDigits_append digits stops
  rw [List.cons_append, List.map_cons] at spanned ⊢
  rw [List.map_cons, show '.'.toNat = 46 from rfl, readFraction, if_pos first, spanned]
  dsimp only
  rw [← List.map_take, List.foldl_map, List.length_map, ofDigits, digitsOf, List.foldl_map]
  rfl

theorem scaled_div {n m k : Nat} (less : m < 10 ^ k) (few : k ≤ 6) :
    (n * 10 ^ k + m) * Nat.pow 10 (6 - k) / 1000000 = n := by
  have unit : 0 < 10 ^ k := Nat.pow_pos (by decide)
  have others : 0 < Nat.pow 10 (6 - k) := Nat.pow_pos (by decide)
  have million : 1000000 = 10 ^ k * Nat.pow 10 (6 - k) := by
    rw [Nat.pow_eq, ← Nat.pow_add, Nat.add_sub_of_le few]
  rw [million, Nat.mul_div_mul_right _ _ others, Nat.mul_comm n,
    Nat.mul_add_div unit, Nat.div_eq_of_lt less, Nat.add_zero]

theorem readFraction_append {thousandths : Nat} (fits : thousandths < 1000) {further rest : List Char}
    (digits : ∀ c ∈ further, c.isDigit = true) (stops : Stops rest) :
    ∃ nanos, readFraction (('.' :: ((padded 3 thousandths).toList ++ further ++ rest)).map
      Char.toNat) = .ok (nanos, rest.map Char.toNat) ∧ nanos / 1000000 = thousandths := by
  have three : (padded 3 thousandths).toList.length = 3 := length_padded (by decide) fits
  have all : ∀ c ∈ (padded 3 thousandths).toList ++ further, c.isDigit = true := by
    intro c member
    exact (List.mem_append.1 member).elim (isDigit_of_mem_padded 3 thousandths c) (digits c)
  have given : (padded 3 thousandths).toList ++ further ≠ [] :=
    List.append_ne_nil_of_left_ne_nil (padded_ne_nil 3 thousandths) further
  -- Nine digits are read, and so six of the further ones.
  have kept : ((padded 3 thousandths).toList ++ further).take 9 =
      (padded 3 thousandths).toList ++ further.take 6 := by
    rw [List.take_append, three, List.take_of_length_le (by omega)]
  refine ⟨_, readFraction_digits all given stops, ?_⟩
  have few : (further.take 6).length ≤ 6 := List.length_take_le 6 further
  have less : ofDigits (digitsOf (further.take 6)) < 10 ^ (further.take 6).length :=
    ofDigits_lt fun c member => digits c (List.mem_of_mem_take member)
  have places : 9 - (3 + (further.take 6).length) = 6 - (further.take 6).length := by omega
  rw [kept, List.length_append, three, places, digitsOf, List.map_append, ofDigits_append, ← digitsOf,
    ← digitsOf, ofDigits_padded, length_digitsOf]
  exact scaled_div less few

/-! ## The offset -/

def offsetText (negative : Bool) (minutes : Nat) : String :=
  (if negative then "-" else "+") ++ padded 2 (minutes / 60) ++ ":" ++ padded 2 (minutes % 60)

def offsetMinutes (negative : Bool) (minutes : Nat) : Int :=
  if negative then -minutes else minutes

theorem toList_offsetText (negative : Bool) (minutes : Nat) :
    (offsetText negative minutes).toList = (if negative then '-' else '+') ::
      ((padded 2 (minutes / 60)).toList ++ ':' :: (padded 2 (minutes % 60)).toList) := by
  cases negative <;> simp [offsetText]

theorem readOffset_text (negative : Bool) {minutes : Nat} (fits : minutes < 1440) :
    readOffset ((offsetText negative minutes).toList.map Char.toNat) =
      .ok (offsetMinutes negative minutes, []) := by
  obtain ⟨h₁, h₂, hourText, readHour⟩ := exists_pair (n := minutes / 60) (by omega)
  obtain ⟨n₁, n₂, minuteText, readMinute⟩ := exists_pair (n := minutes % 60) (by omega)
  have colon : expect [':'.toNat] ':'.toNat = .ok () := rfl
  have inside : ¬60 ≤ minutes % 60 := by omega
  have sum : minutes / 60 * 60 + minutes % 60 = minutes := by omega
  have read (sign : Nat) (other : sign ≠ 90 ∧ sign ≠ 122) (negative : Bool)
      (signed : ∀ r, readSign (sign :: r) = .ok (negative, r)) :
      readOffset (sign :: [h₁, h₂, ':', n₁, n₂].map Char.toNat) =
        .ok (offsetMinutes negative minutes, []) := by
    rw [readOffset.eq_3]
    · simp only [signed, List.map_cons, List.map_nil, readHour, colon, readMinute,
        readOffsetMinutes, bind, Except.bind, pure, Except.pure, inside, if_false, sum]
      rfl
    · rintro rest ⟨⟩
      exact other.1 rfl
    · rintro rest ⟨⟩
      exact other.2 rfl
  rw [toList_offsetText, hourText, minuteText]
  cases negative with
  | false => exact read 43 (by decide) false fun _ => rfl
  | true => exact read 45 (by decide) true fun _ => rfl

/-! ## The whole text -/

theorem ascii_of_mem_text {c : Clock} (plain : c.Plain) : ∀ d ∈ c.text.toList, d.toNat < 128 := by
  intro d member
  simp only [Clock.text, yearText, if_pos plain.year, String.toList_append, String.reduceToList,
    List.append_assoc, List.mem_append, List.mem_singleton] at member
  rcases member with year | rfl | month | rfl | day | rfl | hour | rfl | minute | rfl | second
  · exact ascii_of_mem_padded _ _ d year
  · decide
  · exact ascii_of_mem_padded _ _ d month
  · decide
  · exact ascii_of_mem_padded _ _ d day
  · decide
  · exact ascii_of_mem_padded _ _ d hour
  · decide
  · exact ascii_of_mem_padded _ _ d minute
  · decide
  · exact ascii_of_mem_padded _ _ d second

theorem readIso_text {c : Clock} (plain : c.Plain) {thousandths : Nat} (fits : thousandths < 1000)
    {further behind : List Char} (digits : ∀ d ∈ further, d.isDigit = true) {offset : Int}
    (ascii : ∀ d ∈ behind, d.toNat < 128) (stops : Stops behind)
    (read : readOffset (behind.map Char.toNat) = .ok (offset, []))
    (small : offset.natAbs < 1440) :
    readIso (String.ofList (c.text.toList ++
        '.' :: ((padded 3 thousandths).toList ++ further ++ behind))) =
      .ok ⟨(Calendar.dayNumber c.date * 86400 +
        (c.hour * 3600 + c.minute * 60 + c.second : Nat) - offset * 60) * 1000 + thousandths⟩ := by
  have bytes := bytesOf_of_ascii (s := String.ofList (c.text.toList ++
      '.' :: ((padded 3 thousandths).toList ++ further ++ behind))) fun d member => by
    simp only [String.toList_ofList, List.mem_append, List.mem_cons] at member
    rcases member with clock | rfl | (thousandth | more) | offset
    · exact ascii_of_mem_text plain d clock
    · decide
    · exact ascii_of_mem_padded _ _ d thousandth
    · exact ascii_of_isDigit (digits d more)
    · exact ascii d offset
  obtain ⟨nanos, fraction, whole⟩ := readFraction_append fits digits stops
  have inside : ¬(23 < c.hour ∨ 59 < c.minute ∨ 60 < c.second) := by
    have := plain.hour
    have := plain.minute
    have := plain.second
    omega
  have near : ¬1440 ≤ offset.natAbs := by omega
  rw [readIso, bytes, String.toList_ofList, readClock_text plain]
  simp only [fraction, read, inside, near, bind, Except.bind]
  simp [ofNanos, whole, pure, Except.pure]

/-! ## Texts of instants -/

def yearAt (millis : Int) : Int :=
  Calendar.yearOf (millis / dayLength)

def clockAt (millis : Int) : Clock :=
  let second := (millis % dayLength / 1000).toNat
  { date := Calendar.dateOf (millis / dayLength)
    hour := second / 3600
    minute := second / 60 % 60
    second := second % 60 }

def dateTimeText (millis : Int) : String :=
  (clockAt millis).text ++ "." ++ padded 3 (millis % 1000).toNat

theorem plain_clockAt {millis : Int} (year : 0 ≤ yearAt millis ∧ yearAt millis ≤ 9999) :
    (clockAt millis).Plain where
  isDate := Calendar.isDate_dateOf _
  year := year
  hour := by
    simp only [clockAt, dayLength]
    omega
  minute := Nat.mod_lt _ (by decide)
  second := Nat.mod_lt _ (by decide)

theorem seconds_clockAt (millis : Int) :
    Calendar.dayNumber (clockAt millis).date * 86400 + ((clockAt millis).hour * 3600 +
      (clockAt millis).minute * 60 + (clockAt millis).second : Nat) = millis / 1000 := by
  have day : Calendar.dayNumber (clockAt millis).date = millis / dayLength :=
    Calendar.dayNumber_dateOf _
  rw [day]
  simp only [clockAt, dayLength]
  omega

theorem parse_dateTimeText {millis : Int} (year : 0 ≤ yearAt millis ∧ yearAt millis ≤ 9999)
    {further behind : String} (digits : ∀ c ∈ further.toList, c.isDigit = true)
    (ascii : ∀ c ∈ behind.toList, c.toNat < 128) (stops : Stops behind.toList) {offset : Int}
    (read : readOffset (behind.toList.map Char.toNat) = .ok (offset, []))
    (small : offset.natAbs < 1440) :
    parse (dateTimeText millis ++ further ++ behind) = .ok ⟨millis - offset * 60000⟩ := by
  have fits : (millis % 1000).toNat < 1000 := by omega
  have text : dateTimeText millis ++ further ++ behind =
      String.ofList ((clockAt millis).text.toList ++
        '.' :: ((padded 3 (millis % 1000).toNat).toList ++ further.toList ++ behind.toList)) := by
    apply String.toList_inj.1
    simp [dateTimeText]
  have sum : (Calendar.dayNumber (clockAt millis).date * 86400 + ((clockAt millis).hour * 3600 +
      (clockAt millis).minute * 60 + (clockAt millis).second : Nat) - offset * 60) * 1000 +
        (millis % 1000).toNat = millis - offset * 60000 := by
    rw [seconds_clockAt]
    omega
  rw [parse, text, readIso_text (plain_clockAt year) fits digits ascii stops read small, sum]

theorem within_of_year {millis : Int} (year : 0 ≤ yearAt millis ∧ yearAt millis ≤ 9999) :
    first ≤ millis ∧ millis ≤ last := by
  obtain ⟨after, before⟩ := Calendar.yearOf_spec (millis / dayLength)
  have least := Calendar.yearStart_near (yearAt millis)
  have most := Calendar.yearStart_near (yearAt millis + 1)
  rw [first_eq, last_eq]
  simp only [yearAt, dayLength] at *
  omega

theorem toIso_eq {millis : Int} (year : 0 ≤ yearAt millis ∧ yearAt millis ≤ 9999) :
    toIso ⟨millis⟩ = dateTimeText millis ++ "Z" := by
  have inside : min millis last = millis := min_eq_left (within_of_year year).2
  -- No leap second is in the range, so the seconds of the day are not cut off.
  have ofDay : (millis - millis / dayLength * dayLength).toNat = (millis % dayLength).toNat := by
    simp only [dayLength]
    omega
  have seconds : (millis % dayLength).toNat / 1000 = (millis % dayLength / 1000).toNat := by
    simp only [dayLength]
    omega
  have sameDay : min (millis % dayLength / 1000).toNat 86399 = (millis % dayLength / 1000).toNat := by
    simp only [dayLength]
    omega
  have thousandths : (millis % dayLength).toNat % 1000 = (millis % 1000).toNat := by
    simp only [dayLength]
    omega
  simp only [toIso, inside, ofDay, timeText, seconds, sameDay, thousandths, dateTimeText, Clock.text,
    clockAt, Nat.sub_self, Nat.add_zero]
  apply String.toList_inj.1
  simp

/-- The text of an instant in a year of four digits is read as that instant, and so is the text of
its local time at any offset, with any digits after the third of the fraction. -/
theorem parse_texts {millis : Int} (year : 0 ≤ yearAt millis ∧ yearAt millis ≤ 9999) :
    (∃ i, ofMillis millis = .ok i ∧ i.millis = millis ∧ parse i.toIso = .ok i) ∧
      ∀ (negative : Bool) (minutes : Nat) (further : String), minutes < 1440 →
        (∀ c ∈ further.toList, c.isDigit = true) →
        let offset := offsetMinutes negative minutes
        let localMillis := millis + offset * 60000
        0 ≤ yearAt localMillis ∧ yearAt localMillis ≤ 9999 →
          parse (dateTimeText localMillis ++ further ++ offsetText negative minutes) =
            .ok ⟨millis⟩ := by
  constructor
  · refine ⟨⟨millis⟩, ?_, rfl, ?_⟩
    · rw [ofMillis, ofMillis?, if_pos (within_of_year year)]
    · have stops : Stops "Z".toList := stops_cons (show 'Z'.isDigit = false from rfl)
      have read : parse (dateTimeText millis ++ "" ++ "Z") = .ok ⟨millis - 0 * 60000⟩ :=
        parse_dateTimeText year (by simp) (by simp) stops rfl (by decide)
      rw [Int.zero_mul, Int.sub_zero, String.append_empty] at read
      rw [toIso_eq year, read]
  · intro negative minutes further fits digits offset localMillis localYear
    have ascii : ∀ c ∈ (offsetText negative minutes).toList, c.toNat < 128 := by
      intro c member
      rw [toList_offsetText, List.mem_cons, List.mem_append, List.mem_cons] at member
      rcases member with rfl | hours | rfl | rest
      · cases negative <;> decide
      · exact ascii_of_mem_padded _ _ c hours
      · decide
      · exact ascii_of_mem_padded _ _ c rest
    have stops : Stops (offsetText negative minutes).toList := by
      rw [toList_offsetText]
      exact stops_cons (by cases negative <;> rfl)
    have small : offset.natAbs < 1440 := by
      simp only [offset, offsetMinutes]
      split <;> omega
    rw [parse_dateTimeText localYear digits ascii stops (readOffset_text negative fits) small]
    have back : localMillis - offsetMinutes negative minutes * 60000 = millis :=
      Int.add_sub_cancel millis _
    rw [back]

theorem parse_texts_before_epoch :
    (0 ≤ yearAt (-1) ∧ yearAt (-1) ≤ 9999) ∧
      (∃ i, ofMillis (-1) = .ok i ∧ i.millis = -1 ∧ parse i.toIso = .ok i) ∧
      parse "1970-01-01T01:29:59.9994+01:30" = .ok ⟨-1⟩ := by
  have year : 0 ≤ yearAt (-1) ∧ yearAt (-1) ≤ 9999 := by decide
  obtain ⟨utc, zones⟩ := parse_texts year
  refine ⟨year, utc, ?_⟩
  have digit : ∀ c ∈ "4".toList, c.isDigit = true := List.forall_mem_singleton.2 rfl
  have zone := zones false 90 "4" (by decide) digit (by decide)
  exact zone

end Instant
end ShapeCheck
